/-
Containers, which have a margin on each of their lines.

* `Container`: quotes, lists and the items of lists;
* `margin?`: the cursor after the margin of a container;
* `enter`: the margins that a line has;
* `Continuation`: what comes after a line of a paragraph;
* `takeProse`: the prose of a paragraph.
-/
import TweeStory.Markdown.Line
import TweeStory.Markdown.Prose

namespace TweeStory.Markdown

/-- What holds other parts. -/
inductive Container where
  | quote
  | list (kind : ListKind) (number : Nat) (isLoose : Bool)
  /-- An item, and the columns before its contents. -/
  | item (indent : Nat)
deriving DecidableEq, Repr

/-! ### Margins -/

/-- The cursor after the margin that a container has, if a line has it. -/
def margin? (c : Cursor) : Container → Option Cursor
  | .quote => afterQuoteMarker? (c.past 3)
  | .list .. => some c
  | .item indent =>
    let (k, inner) := c.skip indent
    if k = indent || isAtLineEnd inner.rest then some inner else none

/-- The number of containers, innermost first, whose margins a line lacks, and the cursor
after the margins that it has. -/
def enter (c : Cursor) : List Container → Nat × Cursor
  | [] => (0, c)
  | container :: outer =>
    let (lacking, c) := enter c outer
    if lacking = 0 then
      match margin? c container with
      | some inner => (0, inner)
      | none => (1, c)
    else (lacking + 1, c)

/-- The number of containers whose margins a text lacks at its start, and the cursor after
the margins that it has. -/
def enterText (containers : List Container) (t : Text) : Nat × Cursor :=
  enter (.ofText t) containers

/-- The characters of a text before a cursor in it. -/
def Cursor.consumed (c : Cursor) (t : Text) : Text :=
  t.take (t.length - c.rest.length)

/-! ### Paragraphs -/

/-- What comes after a line of a paragraph. -/
inductive Continuation where
  /-- The paragraph is over. -/
  | over
  /-- A line that makes the paragraph a heading, and the text after it. -/
  | underline (level : Nat) (rest : Text)
  /-- Another line, by its margin and the text after that. -/
  | line (margin rest : Text)
deriving Repr

/-- What comes where a text goes on after a line of a paragraph in containers. -/
def continuation (containers : List Container) (t : Text) : Continuation :=
  let (lacking, c) := enterText containers t
  let (indent, inner) := c.skip codeIndent
  let level? :=
    if lacking = 0 && indent < codeIndent then underlineLevel? (firstLine inner.rest) else none
  match level? with
  | some level => .underline level (afterLine inner.rest)
  | none =>
    if (indent < codeIndent && endsParagraph (lacking = 0) inner.rest) ||
        isAtLineEnd (inner.rest.dropWhile isIndent) then .over
    else .line (c.consumed t) c.rest

/-- The prose of a paragraph of at most `n` lines that a text starts with, the level of the
heading that a line under it makes of it, and the rest. -/
def takeProse (containers : List Container) : (n : Nat) → Text → Prose × Option Nat × Text
  | 0, t => ([], none, t)
  | n + 1, t =>
    let words := Prose.ofText (firstLine t)
    match continuation containers (afterLine t) with
    | .over => (words, none, afterLine t)
    | .underline level rest => (words, some level, rest)
    | .line margin rest =>
      let (more, level, rest) := takeProse containers n rest
      (words ++ .lineEnd (lineEnd t) margin :: more, level, rest)

end TweeStory.Markdown
