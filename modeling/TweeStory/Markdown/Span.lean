/-
Prose that has been read.

* `Bracket`: an opening square bracket that may begin a link or an image;
* `Spans`: what has been read of prose;
* `Spans.step`: reads what prose starts with;
* `Inline.ofProse`: the parts that prose is read as.

Code, markup and addresses are looked for first, then links, and then emphasis, so that
what comes first is never cut by what comes later.
-/
import TweeStory.Markdown.Emphasis
import TweeStory.Markdown.Reference
import TweeStory.Markdown.Tag

namespace TweeStory.Markdown

/-- What is known around prose. -/
structure Surroundings where
  definitions : List Definition
  /-- White space after the prose, which stays after text only. -/
  space : Text
deriving Repr

/-- An opening square bracket. -/
structure Bracket where
  isImage : Bool
  /-- Whether a link may begin here, which is not so around another link. -/
  isActive : Bool
  /-- The pieces before the bracket, latest first. -/
  before : List Piece
  /-- The prose after the bracket. -/
  after : Prose
deriving Repr

/-- What has been read of prose. -/
structure Spans where
  /-- The pieces since the latest open bracket, latest first. -/
  pieces : List Piece
  /-- The open brackets, latest first. -/
  brackets : List Bracket
  /-- Whether white space goes on with what was read last. -/
  keepsSpace : Bool
deriving Repr

/-- What stands before a character. -/
inductive Before where
  /-- Nothing on its line but so much white space, which belongs to no word. -/
  | lineStart (width : Nat)
  | char (c : Char)
deriving Repr

/-- The character before, if there is one on the line. -/
def Before.toChar? : Before → Option Char
  | lineStart _ => none
  | char c => some c

/-- The white space at the start of the line. -/
def Before.width : Before → Nat
  | lineStart width => width
  | char _ => 0

/-- What stands before the character after some prose. -/
def Before.ofProse (p : Prose) : Before :=
  let indent := p.reverse.takeWhile fun g => isIndent g.toChar
  match p.reverse.drop indent.length, p.getLast? with
  | .lineEnd _ margin :: _, _ =>
    lineStart ((margin.reverse.takeWhile isLineSpace).length + indent.length)
  | _, some g => char g.toChar
  | _, none => lineStart 0

namespace Spans

/-- Nothing has been read. -/
def empty : Spans := ⟨[], [], false⟩

/-- One more piece. -/
def addPiece (s : Spans) (keepsSpace : Bool) (piece : Piece) : Spans :=
  { s with pieces := piece :: s.pieces, keepsSpace := keepsSpace }

/-- Text at the end. -/
def addText (s : Spans) (t : Text) : Spans :=
  s.addPiece true (.inline (.text t))

/-- An opening bracket. -/
def openBracket (s : Spans) (isImage : Bool) (after : Prose) : Spans :=
  ⟨[], ⟨isImage, true, s.pieces, after⟩ :: s.brackets, true⟩

/-- The text of an opening bracket. -/
def bracketText (b : Bracket) : Text :=
  if b.isImage then ['!', '['] else ['[']

/-- The pieces with an opening bracket as text. -/
def dropBracket (s : Spans) (b : Bracket) (outer : List Bracket) : Spans :=
  ⟨s.pieces ++ .inline (.text (bracketText b)) :: b.before, outer, s.keepsSpace⟩

/-- The pieces with all opening brackets as text. -/
def flatten (pieces : List Piece) : List Bracket → List Piece
  | [] => pieces
  | b :: outer => flatten (pieces ++ .inline (.text (bracketText b)) :: b.before) outer

/-- The white space after all that has been read. -/
def addSpace (s : Spans) (space : Text) : Spans :=
  match s.pieces with
  | .run r :: earlier => { s with pieces := .run { r with space := space } :: earlier }
  | _ => if s.keepsSpace then s.addText space else s

/-! ### Code -/

/-- The text up to a run of just `n` backticks, and the rest after that, where the text
has at most `limit` characters. -/
def cutTicks (n : Nat) : (limit : Nat) → Text → Option (Text × Text)
  | 0, _ => none
  | _ + 1, [] => none
  | limit + 1, '\x60' :: t =>
    let run := '\x60' :: t.takeWhile (· == '\x60')
    let rest := t.dropWhile (· == '\x60')
    if run.length = n then some ([], rest) else prepend run (cutTicks n limit rest)
  | limit + 1, c :: t => prepend [c] (cutTicks n limit t)

/-- Code as it is shown: on one line, and without one space at either end if there is
one at both and more than spaces between. -/
def shownCode (t : Text) : Text :=
  let line := t.map fun c => if c = '\n' then ' ' else c
  if line.head? = some ' ' && line.getLast? = some ' ' && line.any (· != ' ') then
    line.tail.dropLast
  else line

/-! ### Links -/

/-- The prose after the last `n` of its characters are left. -/
def lastOf (p : Prose) (n : Nat) : Prose :=
  p.drop (p.length - n)

/-- A link to a target, or that is an image. -/
def linked (isImage : Bool) (target : Target) (body : List Inline) : Inline :=
  if isImage then .image target.destination target.title body
  else .link target.destination target.title body

/-- The prose where the label of a reference is looked for.  A backslash before its bracket
does not count. -/
def labelStart : Prose → Prose
  | .char '\\' :: .char '[' :: p => .char '[' :: p
  | p => p

/-- The label between a bracket and the closing bracket before `p`, if it is one. -/
def ownLabel? (b : Bracket) (p : Prose) : Option Text :=
  ((label? b.after).filter fun (_, rest) => rest.length = p.length).map Prod.fst

/-- The target of the reference that begins at a bracket and whose words end before `p`, and
the prose after the reference.  Words before white space that ends a heading are no
label. -/
def referenceTarget? (around : Surroundings) (b : Bracket) (p : Prose) :
    Option (Target × Prose) :=
  match labelStart p with
  | .char '[' :: .char ']' :: rest =>
    ((ownLabel? b p).bind (findTarget? around.definitions)).map fun target => (target, rest)
  | start =>
    let label? :=
      match start with
      | .char '[' :: rest => label? rest
      | _ => none
    match label? with
    | some (label, rest) =>
      (findTarget? around.definitions label).map fun target => (target, rest)
    | none =>
      if p = [] && around.space ≠ [] then none
      else ((ownLabel? b p).bind (findTarget? around.definitions)).map fun target => (target, p)

/-- The brackets of links, which no longer may begin one. -/
def deactivate (brackets : List Bracket) : List Bracket :=
  brackets.map fun b => if b.isImage then b else { b with isActive := false }

/-- Whether emphasis may begin or end at a piece. -/
def isRun : Piece → Bool
  | .run r => r.opens || r.closes
  | _ => false

/-- The parts that pieces make, which stand latest first.  A backslash at the end of their last
line is text if there are runs among them. -/
def parts : List Piece → List Inline
  | .keptEnd :: earlier =>
    if earlier.any isRun then resolve (.inline (.text ['\\']) :: earlier).reverse
    else resolve (.keptEnd :: earlier).reverse
  | pieces => resolve pieces.reverse

/-- Reads a closing bracket before `p`. -/
def closeBracket (around : Surroundings) (s : Spans) (p : Prose) : Spans × Prose :=
  match s.brackets with
  | [] => (s.addText [']'], p)
  | b :: outer =>
    let close (keepsSpace : Bool) (found : Target × Prose) : Spans × Prose :=
      let link := linked b.isImage found.1 (parts s.pieces)
      (⟨.inline link :: b.before, if b.isImage then outer else deactivate outer, keepsSpace⟩,
        found.2)
    match if b.isActive then inlineTarget? p else none with
    | some found => close true found
    | none =>
      match if b.isActive then referenceTarget? around b p else none with
      | some found => close false found
      | none => ((s.dropBracket b outer).addText [']'], p)

/-! ### Reading -/

/-- Whether a character stands for itself wherever it is. -/
def isPlain (c : Char) : Bool :=
  !(isLineSpace c || ['\\', '\x60', '<', '&', '*', '_', '[', ']', '!', '\n'].contains c)

/-- Reads a backslash before `p`. -/
def readBackslash (s : Spans) : Prose → Spans × Prose
  | .lineEnd _ _ :: p => (s.addPiece true .keptEnd, Prose.dropIndent p)
  | .char c :: p =>
    if isAsciiPunctuation c then (s.addText [c], p) else (s.addText ['\\'], .char c :: p)
  | [] => (s.addText ['\\'], [])

/-- Reads a backtick before `p`. -/
def readTick (s : Spans) (p : Prose) : Spans × Prose :=
  let t := Prose.text p
  let run := '\x60' :: t.takeWhile (· == '\x60')
  let rest := t.dropWhile (· == '\x60')
  match cutTicks run.length rest.length rest with
  | some (code, rest) =>
    (s.addPiece false (.inline (.code (shownCode code))), lastOf p rest.length)
  | none => (s.addText run, lastOf p rest.length)

/-- Reads an opening angle bracket before `p`. -/
def readAngle (s : Spans) (p : Prose) : Spans × Prose :=
  let t := Prose.text p
  match address? t with
  | some (target, words, rest) =>
    (s.addPiece true (.inline (.link target [] [.text words])), lastOf p rest.length)
  | none =>
    match afterTag? t with
    | some rest =>
      let tag := Prose.written (p.take (p.length - rest.length))
      (s.addPiece true (.inline (.raw ('<' :: tag))), lastOf p rest.length)
    | none =>
      let source := Prose.source p
      match afterMarkup? source with
      | some rest =>
        let n := source.length - rest.length
        (s.addPiece true (.inline (.raw ('<' :: source.take n))), Prose.dropSource p n)
      | none => (s.addText ['<'], p)

/-- Reads an ampersand before `p`. -/
def readAmpersand (s : Spans) (p : Prose) : Spans × Prose :=
  match reference? (Prose.text p) with
  | some (value, rest) => (s.addPiece false (.inline (.text value)), lastOf p rest.length)
  | none => (s.addText ['&'], p)

/-- Reads a run of `mark` that begins before `p`. -/
def readRun (s : Spans) (before : Before) (mark : Char) (p : Prose) : Spans × Prose :=
  let rest := p.dropWhile (·.toChar == mark)
  let run := Run.between mark (p.length - rest.length + 1) before.toChar?
    (rest.head?.map Glyph.toChar)
  (s.addPiece true (.run run), rest)

/-- Reads the end of a line before `p`, after so much white space. -/
def readEnd (s : Spans) (width : Nat) (p : Prose) : Spans × Prose :=
  (s.addPiece true (.inline (if 2 ≤ width then .hardBreak else .softBreak)), Prose.dropIndent p)

/-- Reads white space that begins with `c` before `p`.  Before the end of a line two
characters of it keep that end. -/
def readSpace (s : Spans) (before : Before) (c : Char) (p : Prose) : Spans × Prose :=
  let space := c :: (Prose.text p).takeWhile isLineSpace
  match Prose.dropLineSpace p with
  | .lineEnd _ _ :: rest => s.readEnd (before.width + space.length) rest
  | rest => (s.addText space, rest)

/-- Reads the character `c` before `p`. -/
def step (around : Surroundings) (before : Before) (s : Spans) (c : Char) (p : Prose) :
    Spans × Prose :=
  match c with
  | '\\' => s.readBackslash p
  | '\x60' => s.readTick p
  | '<' => s.readAngle p
  | '&' => s.readAmpersand p
  | '*' | '_' => s.readRun before c p
  | '[' => (s.openBracket false p, p)
  | ']' => s.closeBracket around p
  | '!' =>
    match p with
    | .char '[' :: rest => (s.openBracket true rest, rest)
    | p => (s.addText ['!'], p)
  | '\n' => s.readEnd 0 p
  | c =>
    if isLineSpace c then s.readSpace before c p
    else (s.addText (c :: (Prose.text p).takeWhile isPlain), p.dropWhile (isPlain ·.toChar))

/-- Reads prose in at most `n` steps. -/
def steps (around : Surroundings) : (n : Nat) → Before → Spans → Prose → Spans
  | 0, _, s, _ => s
  | _, _, s, [] => s
  | n + 1, before, s, g :: p =>
    let (s, rest) := s.step around before g.toChar p
    steps around n (.ofProse ((g :: p).take (p.length + 1 - rest.length))) s rest

end Spans

/-- The parts that prose is read as. -/
def Inline.ofProse (around : Surroundings) (p : Prose) : List Inline :=
  let s := Spans.steps around p.length (.lineStart 0) .empty p
  let s := if around.space = [] then s else s.addSpace around.space
  Spans.parts (Spans.flatten s.pieces s.brackets)

end TweeStory.Markdown
