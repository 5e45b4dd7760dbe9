/-
Lines, and what they begin.

* `Cursor`: a text from a column of its first line on;
* `listMarker?`, `afterQuoteMarker?`: the markers that begin containers;
* `headingLevel?`, `underlineLevel?`, `isRule`, `Fence.ofText?`, `RawEnd.start?`: what
  lines begin inside of them;
* `endsParagraph`: the lines at which a paragraph is over.

Tabs count as white space up to the next multiple of four columns.
-/
import TweeStory.Markdown.Entity
import TweeStory.Markdown.Tag

namespace TweeStory.Markdown

/-! ### Columns -/

/-- A text from a column of its first line on. -/
structure Cursor where
  rest : Text
  /-- The number of characters since the start of the line or since its latest tab. -/
  column : Nat
  /-- The columns of the latest tab that are still ahead. -/
  spare : Nat
deriving DecidableEq, Repr

/-- The number of white columns at the start of a text at a column, at most `n`, and the
cursor after them. -/
def skipColumns : (n column : Nat) → Text → Nat × Cursor
  | 0, column, t => (0, ⟨t, column, 0⟩)
  | n + 1, column, ' ' :: t =>
    let (k, cursor) := skipColumns n (column + 1) t
    (k + 1, cursor)
  | n + 1, column, '\t' :: t =>
    let width := 4 - column % 4
    if width ≤ n + 1 then
      let (k, cursor) := skipColumns (n + 1 - width) 0 t
      (k + width, cursor)
    else (n + 1, ⟨t, 0, width - (n + 1)⟩)
  | _ + 1, column, t => (0, ⟨t, column, 0⟩)

namespace Cursor

/-- The start of a line. -/
def ofText (t : Text) : Cursor := ⟨t, 0, 0⟩

/-- The number of white columns at the cursor, at most `n`, and the cursor after them. -/
def skip (c : Cursor) (n : Nat) : Nat × Cursor :=
  if n ≤ c.spare then (n, { c with spare := c.spare - n })
  else
    let (k, cursor) := skipColumns (n - c.spare) c.column c.rest
    (c.spare + k, cursor)

/-- The cursor after at most `n` white columns. -/
def past (c : Cursor) (n : Nat) : Cursor :=
  (c.skip n).2

/-- The cursor after `n` characters that are one column wide. -/
def advance (c : Cursor) (n : Nat) : Cursor :=
  { c with rest := c.rest.drop n, column := c.column + n }

/-- The line from the cursor on as it is kept, with spaces for the columns of a tab that are
ahead. -/
def keptLine (c : Cursor) : Text :=
  List.replicate c.spare ' ' ++ withoutReturn (fullLine c.rest)

/-- The text after the line that is kept. -/
def afterKept (c : Cursor) : Text :=
  c.rest.drop (fullLine c.rest).length

end Cursor

/-- The number of white columns that make a line one of code. -/
def codeIndent : Nat := 4

/-! ### Containers -/

/-- The kind of a list. -/
inductive ListKind where
  /-- Without numbers, by the mark of its items. -/
  | bullets (mark : Char)
  /-- With numbers, by the character after them. -/
  | numbers (mark : Char)
deriving DecidableEq, Repr

/-- Whether a line is a rule: three or more of the same mark and nothing else. -/
def isRule (t : Text) : Bool :=
  match t with
  | c :: _ =>
    (c == '*' || c == '-' || c == '_') && t.all (fun d => d == c || d == ' ' || d == '\t') &&
      3 ≤ t.count c
  | [] => false

/-- The start of a list item. -/
structure ListMarker where
  kind : ListKind
  number : Nat
  /-- The number of characters of the marker. -/
  width : Nat
deriving DecidableEq, Repr

/-- The marker with numbers that a text starts with. -/
def numberMarker? (t : Text) : Option ListMarker :=
  let digits := (t.take 9).takeWhile Char.isDigit
  match t.drop digits.length with
  | c :: _ =>
    if !digits.isEmpty && (c == '.' || c == ')') then
      some ⟨.numbers c, digits.foldl (fun n d => n * 10 + hexValue d) 0, digits.length + 1⟩
    else none
  | [] => none

/-- The marker that a text starts with, whatever stands after it. -/
def bareMarker? (t : Text) : Option ListMarker :=
  match t with
  | c :: _ => if c == '-' || c == '+' || c == '*' then some ⟨.bullets c, 0, 1⟩ else numberMarker? t
  | [] => none

/-- The marker of a list item that a line starts with.  White space or the end of the line
stands after it. -/
def listMarker? (t : Text) : Option ListMarker :=
  (bareMarker? t).filter fun m =>
    !isRule t && (t.drop m.width).head?.elim true isIndent

/-- The columns that the contents of an item are from the start of its line, where the
marker is `indent` columns from it, and the cursor at the contents. -/
def ListMarker.contents (m : ListMarker) (indent : Nat) (c : Cursor) : Nat × Cursor :=
  let after := (c.advance m.width).past 1
  let base := indent + m.width + 1
  if startsBlank after.rest then (base, after)
  else
    let (k, inner) := after.skip codeIndent
    if k < codeIndent then (base + k, inner) else (base, after)

/-- The cursor after the marker of a quote. -/
def afterQuoteMarker? (c : Cursor) : Option Cursor :=
  match c.rest with
  | '>' :: _ => some ((c.advance 1).past 1)
  | _ => none

/-! ### Headings -/

/-- The level of the heading that a line is, by the number of its hashes. -/
def headingLevel? (t : Text) : Option Nat :=
  let level := (t.takeWhile (· == '#')).length
  if 1 ≤ level && level ≤ 6 && (t.drop level).head?.elim true isSpace then some level else none

/-- The words of a heading that stand after its hashes on a line, and the white space at
their end.  Where hashes close the heading, white space before them is part of the words. -/
def headingWords (t : Text) : Text × Text :=
  let line := Text.dropEndWhile (· == ' ') (t.dropWhile isLineSpace)
  let front := Text.dropEndWhile (· == '#') line
  if front = [] then ([], [])
  else if front.length < line.length && front.getLast? = some ' ' then
    (Text.dropEndWhile (· == ' ') front, [])
  else
    let words := withoutSpaceAtEnd line
    (words, line.drop words.length)

/-- The level of the heading that a line makes of the paragraph before it. -/
def underlineLevel? (t : Text) : Option Nat :=
  let line := withoutSpaceAtEnd t
  if line = [] then none
  else if line.all (· == '=') then some 1
  else if line.all (· == '-') then some 2
  else none

/-! ### Code -/

/-- The line that begins code between fences. -/
structure Fence where
  mark : Char
  length : Nat
  /-- The number of columns before it. -/
  indent : Nat
  /-- What stands after it. -/
  info : Text
deriving DecidableEq, Repr

/-- The fence that a text `indent` columns from its margin starts with. -/
def Fence.ofText? (indent : Nat) (t : Text) : Option Fence :=
  match t with
  | c :: _ =>
    let length := (t.takeWhile (· == c)).length
    let info := (fullLine t).drop length
    if 3 ≤ length && (c == '~' || (c == '\x60' && !info.contains '\x60')) then
      some ⟨c, length, indent,
        unescaped (Text.dropEndWhile isSpace (info.dropWhile isLineSpace))⟩
    else none
  | [] => none

/-- Whether a line ends code that a fence began. -/
def Fence.isClosedBy (f : Fence) (line : Text) : Bool :=
  f.length ≤ (line.takeWhile (· == f.mark)).length &&
    (line.dropWhile (· == f.mark)).all (· == ' ')

/-! ### Markup -/

/-- Where a block of markup ends. -/
inductive RawEnd where
  /-- At the end of the line with a text. -/
  | mark (t : Text)
  /-- Before a blank line. -/
  | blank
deriving DecidableEq, Repr

/-- The elements whose contents are no prose, with their closing tags. -/
def verbatimElements : List (Text × Text) :=
  [("pre".toList, "</pre>".toList), ("style".toList, "</style>".toList),
    ("script".toList, "</script>".toList), ("textarea".toList, "</textarea>".toList)]

/-- The elements that begin a block of markup. -/
def blockElements : List Text :=
  Text.words ("address article aside base basefont blockquote body caption center col " ++
    "colgroup dd details dialog dir div dl dt fieldset figcaption figure footer form frame " ++
    "frameset h1 h2 h3 h4 h5 h6 head header hr html iframe legend li link main menu menuitem " ++
    "nav noframes ol optgroup option p param search section summary table tbody td tfoot th " ++
    "thead title tr track ul").toList

/-- A text in ASCII lower case. -/
def lowerCase (t : Text) : Text :=
  t.map Char.toLower

/-- The closing tag of the element without prose that a text after an angle bracket
begins. -/
def verbatimEnd? (t : Text) : Option Text :=
  let name := (lowerCase t).takeWhile fun c => !isSpace c && c != '>'
  verbatimElements.lookup name

/-- Whether a text after an angle bracket is a tag of one of the elements that begin a
block. -/
def isBlockTag (t : Text) : Bool :=
  let t := (Text.after? ['/'] t).getD t
  let name := t.takeWhile Char.isAlphanum
  let rest := t.drop name.length
  blockElements.contains (lowerCase name) &&
    (rest.head?.elim true (fun c => isIndent c || c == '>') || Text.beginsWith rest ['/', '>'])

/-- Where the block of markup ends that a line begins, if it may end a paragraph. -/
def RawEnd.strong? : Text → Option RawEnd
  | '<' :: t =>
    match verbatimEnd? t with
    | some tag => some (.mark tag)
    | none =>
      if Text.beginsWith t "!--".toList then some (.mark "-->".toList)
      else if Text.beginsWith t ['?'] then some (.mark "?>".toList)
      else if Text.beginsWith t "![CDATA[".toList then some (.mark "]]>".toList)
      else if t.head? = some '!' && t.tail.head?.elim false Char.isAlpha then some (.mark ['>'])
      else if isBlockTag t then some .blank
      else none
  | _ => none

/-- Whether a line is one tag and nothing else. -/
def isLoneTag : Text → Bool
  | '<' :: t => (afterTag? t).elim false fun rest => rest.all isLineSpace
  | _ => false

/-- Where the block of markup ends that a line begins. -/
def RawEnd.start? (t : Text) : Option RawEnd :=
  match RawEnd.strong? t with
  | some stop => some stop
  | none => if isLoneTag t then some .blank else none

/-- Whether a block of markup ends with a line. -/
def RawEnd.isMet (stop : RawEnd) (t : Text) : Bool :=
  match stop with
  | .mark m => t.includes m
  | .blank => false

/-! ### Paragraphs -/

/-- Whether a paragraph is over where a text goes on.  Where its first line is in the same
containers as the paragraph, list items that are empty or have a number other than 1 do not
end it. -/
def endsParagraph (isInside : Bool) (t : Text) : Bool :=
  let line := firstLine t
  isAtLineEnd t || isRule line || (headingLevel? line).isSome || (Fence.ofText? 0 t).isSome ||
    Text.beginsWith line ['>'] || (RawEnd.strong? line).isSome ||
    (listMarker? line).elim false fun m =>
      !isInside ||
        ((m.kind matches .bullets _ || m.number == 1) && !(line.drop m.width).all isLineSpace)

/-- Whether a text is over where the line begins with which a paragraph of it would be over or
would be a heading. -/
def interrupts (isInside : Bool) (t : Text) : Bool :=
  endsParagraph isInside t || (isInside && (underlineLevel? (firstLine t)).isSome)

end TweeStory.Markdown
