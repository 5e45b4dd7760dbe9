/-
Where links lead.

* `destination?`, `title?`: the target and the title that a text starts with;
* `inlineTarget?`: target and title between parentheses;
* `label?`: the label between square brackets;
* `Definition`, `findTarget?`: labels with their targets.
-/
import TweeStory.Markdown.Entity
import TweeStory.Markdown.Prose
import TweeStory.Text.CaseFolding

namespace TweeStory.Markdown

/-- A text in front of the first part of a split list. -/
def prepend {α : Type} (front : List α) (split : Option (List α × List α)) :
    Option (List α × List α) :=
  split.map fun (before, rest) => (front ++ before, rest)

/-! ### Targets -/

/-- The text up to the closing angle bracket on its line, and the rest after that. -/
def spanPointed : Text → Option (Text × Text)
  | [] => none
  | '>' :: t => some ([], t)
  | '<' :: _ => none
  | '\\' :: c :: t =>
    if isAsciiPunctuation c then prepend ['\\', c] (spanPointed t)
    else prepend ['\\'] (spanPointed (c :: t))
  | c :: t => if isLineEnd c then none else prepend [c] (spanPointed t)

/-- The number of parentheses that may be open in a target. -/
def depthLimit : Nat := 32

/-- The text up to white space or to a parenthesis that closes none of its own, and the
rest.  `depth` parentheses are open. -/
def spanBare : (depth : Nat) → Text → Option (Text × Text)
  | 0, [] => some ([], [])
  | _ + 1, [] => none
  | depth, '\\' :: c :: t =>
    if isAsciiPunctuation c then prepend ['\\', c] (spanBare depth t)
    else prepend ['\\'] (spanBare depth (c :: t))
  | depth, '(' :: t => if depthLimit < depth then none else prepend ['('] (spanBare (depth + 1) t)
  | 0, ')' :: t => some ([], ')' :: t)
  | depth + 1, ')' :: t => prepend [')'] (spanBare depth t)
  | depth, c :: t =>
    if c.toNat ≤ 0x20 then if depth = 0 then some ([], c :: t) else none
    else prepend [c] (spanBare depth t)

/-- The target that a text starts with, and the rest. -/
def destination? (t : Text) : Option (Text × Text) :=
  let span :=
    match t with
    | '<' :: t => spanPointed t
    | t => spanBare 0 t
  span.map fun (target, rest) => (unescaped target, rest)

/-! ### Titles -/

/-- A line of a title as it is written, and the end of the line that is kept. -/
structure TitleLine where
  words : Text
  stop : Text
deriving DecidableEq, Repr

/-- Lines of a title, with a character in front. -/
def TitleLine.cons (c : Char) : List TitleLine → List TitleLine
  | [] => [⟨[c], []⟩]
  | line :: rest => ⟨c :: line.words, line.stop⟩ :: rest

/-- Lines of a title in front of the first part of a split prose. -/
def withTitle (f : List TitleLine → List TitleLine) (split : Option (List TitleLine × Prose)) :
    Option (List TitleLine × Prose) :=
  split.map fun (lines, rest) => (f lines, rest)

/-- The end of a line inside a title. -/
def titleEnd (mark : Text) : Text :=
  if mark = ['\r', '\n'] then mark else ['\n']

/-- The lines up to the character that closes a title, and the rest after that.  The
character that opens it may not stand inside.  At the start of a line after the first,
white space is left out, and so is the backslash of an escaped character. -/
def spanTitle (opening closing : Char) : (isAtStart : Bool) → Prose →
    Option (List TitleLine × Prose)
  | _, [] => none
  | _, .lineEnd mark _ :: p =>
    withTitle (⟨[], titleEnd mark⟩ :: ·) (spanTitle opening closing true p)
  | isAtStart, .char '\\' :: .char c :: p =>
    if !isAsciiPunctuation c then
      withTitle (TitleLine.cons '\\') (spanTitle opening closing false (.char c :: p))
    else if isAtStart then spanTitle opening closing false (.char c :: p)
    else withTitle (TitleLine.cons '\\' ∘ TitleLine.cons c) (spanTitle opening closing false p)
  | isAtStart, .char c :: p =>
    if isAtStart && isIndent c then spanTitle opening closing true p
    else if c = closing then some ([], p)
    else if c = opening then none
    else withTitle (TitleLine.cons c) (spanTitle opening closing false p)

/-- The text of a title with its references and escaped characters resolved. -/
def titleText (lines : List TitleLine) : Text :=
  lines.flatMap fun line => unescaped line.words ++ line.stop

/-- The title that prose starts with, in quotes or parentheses, and the rest. -/
def title? (p : Prose) : Option (Text × Prose) :=
  let span :=
    match p with
    | .char '"' :: p => spanTitle '"' '"' false p
    | .char '\'' :: p => spanTitle '\'' '\'' false p
    | .char '(' :: p => spanTitle '(' ')' false p
    | _ => none
  span.map fun (lines, rest) => (titleText lines, rest)

/-- Where a link leads. -/
structure Target where
  destination : Text
  title : Text
deriving DecidableEq, Repr

/-- The prose after white space with at most one end of a line in it. -/
def dropSeparator (p : Prose) : Prose :=
  match Prose.dropLineSpace p with
  | .lineEnd _ _ :: rest => Prose.dropLineSpace rest
  | rest => rest

/-- The target between parentheses that prose starts with, and the rest. -/
def inlineTarget? : Prose → Option (Target × Prose)
  | .char '(' :: p => do
    let start := dropSeparator p
    let (destination, rest) ← destination? (Prose.text start)
    let after := dropSeparator (start.drop (start.length - rest.length))
    let (title, after) :=
      match title? after with
      | some (title, after) => (title, dropSeparator after)
      | none => ([], after)
    match after with
    | .char ')' :: rest => return (⟨destination, title⟩, rest)
    | _ => none
  | _ => none

/-! ### Labels -/

/-- The prose up to the closing square bracket, without another bracket inside, and the
rest after that. -/
def spanLabel : Prose → Option (Prose × Prose)
  | [] => none
  | .char ']' :: p => some ([], p)
  | .char '[' :: _ => none
  | .char '\\' :: g :: p => prepend [.char '\\', g] (spanLabel p)
  | g :: p => prepend [g] (spanLabel p)

/-- What a label is made of. -/
inductive LabelPart where
  /-- A backslash with what stands after it. -/
  | escape (t : Text)
  /-- White space, with the number of lines that end in it. -/
  | space (t : Text) (lineEnds : Nat)
  | char (c : Char)
deriving DecidableEq, Repr

namespace LabelPart

/-- Parts with a piece of white space in front. -/
def consSpace (g : Glyph) : List LabelPart → List LabelPart
  | .space t n :: rest => .space (g.source ++ t) (n + g.isEnd.toNat) :: rest
  | rest => .space g.source g.isEnd.toNat :: rest

/-- The parts of the prose between brackets. -/
def ofProse : Prose → List LabelPart
  | [] => []
  | .char '\\' :: g :: p => .escape ('\\' :: g.source) :: ofProse p
  | g :: p =>
    if isSpace g.toChar then consSpace g (ofProse p) else .char g.toChar :: ofProse p

/-- White space. -/
def isSpace : LabelPart → Bool
  | .space .. => true
  | _ => false

/-- What a part counts for the length of a label.  ASCII characters count nothing. -/
def weight : LabelPart → Nat
  | .escape t => max 2 (String.ofList t).utf8ByteSize
  | .space t _ => t.length
  | .char c => if c.toNat < 0x80 then 0 else c.utf8Size

/-- Whether at most one line ends in a part. -/
def isOnTwoLines : LabelPart → Bool
  | .space _ n => n ≤ 1
  | _ => true

/-- The form of a part in which labels are compared but for their case. -/
def text : LabelPart → Text
  | .escape t => t
  | .space .. => [' ']
  | .char c => [c]

end LabelPart

/-- The length that a label stays below. -/
def labelLimit : Nat := 1000

/-- The form in which labels are compared: case, and the kind and amount of white space do
not count. -/
def normalLabel (parts : List LabelPart) : Text :=
  Text.folded ((Text.dropEndWhile (· == ' ') (parts.flatMap LabelPart.text)).dropWhile (· == ' '))

/-- The label that prose after an opening square bracket starts with, in the form in which
labels are compared, and the rest after the closing bracket. -/
def label? (p : Prose) : Option (Text × Prose) := do
  let (inner, rest) ← spanLabel p
  let parts := LabelPart.ofProse inner
  if parts.all LabelPart.isSpace || !parts.all LabelPart.isOnTwoLines ||
      labelLimit ≤ (parts.map LabelPart.weight).foldl (· + ·) 0 then none
  else return (normalLabel parts, rest)

/-- A label with its target. -/
structure Definition where
  /-- The label in the form in which labels are compared. -/
  label : Text
  target : Target
deriving DecidableEq, Repr

/-- The target that the first definition with a label gives. -/
def findTarget? (definitions : List Definition) (label : Text) : Option Target :=
  (definitions.find? (·.label == label)).map (·.target)

end TweeStory.Markdown
