/-
Definitions of labels.

* `definitionSpace?`: the white space between the parts of a definition;
* `definitionTitle?`: the title at the end of one;
* `definition?`: the definition that a text starts with.

A definition may go on over lines, unless a paragraph would be over there.
-/
import TweeStory.Markdown.Container
import TweeStory.Markdown.Reference

namespace TweeStory.Markdown

/-- The prose of at most `n` lines that a text starts with, as far as a label may reach. -/
def labelProse (containers : List Container) : (n : Nat) → Text → Prose
  | 0, _ => []
  | n + 1, t =>
    let words := Prose.ofText (firstLine t)
    let next := afterLine t
    let (lacking, c) := enterText containers next
    if interrupts (lacking = 0) c.rest then words
    else words ++ .lineEnd (lineEnd t) (c.consumed next) :: labelProse containers n c.rest

/-- The label that a text after an opening square bracket starts with, and the rest after the
closing bracket. -/
def definitionLabel? (containers : List Container) (t : Text) : Option (Text × Text) := do
  let p := labelProse containers t.length t
  let (label, after) ← label? p
  return (label, t.drop ((Prose.source p).length - (Prose.source after).length))

/-- The number of lines that end in the white space at the start of a text, one at most, and
the text after the white space. -/
def definitionSpace? (containers : List Container) (t : Text) : Option (Nat × Text) :=
  let start := t.dropWhile isLineSpace
  if isAtLineEnd start then
    let (lacking, c) := enterText containers (afterLine start)
    let (indent, inner) := c.skip codeIndent
    let rest := inner.rest.dropWhile isLineSpace
    if (indent < codeIndent && interrupts (lacking = 0) inner.rest) || isAtLineEnd rest then none
    else some (1, rest)
  else some (0, start)

/-- The text up to the character that closes a title, without a blank line inside, and the
rest after that. -/
def spanDefinitionTitle (closing : Char) : Text → Option (Text × Text)
  | [] => none
  | '\\' :: c :: t => prepend ['\\', c] (spanDefinitionTitle closing t)
  | '\n' :: t =>
    if (t.dropWhile isLineSpace).head?.elim true (· == '\n') then none
    else prepend ['\n'] (spanDefinitionTitle closing t)
  | c :: t =>
    if c = closing then some ([], t) else prepend [c] (spanDefinitionTitle closing t)

/-- The title that a text starts with, in quotes or parentheses, and the rest. -/
def definitionTitle? (t : Text) : Option (Text × Text) :=
  let span :=
    match t with
    | '"' :: t => spanDefinitionTitle '"' t
    | '\'' :: t => spanDefinitionTitle '\'' t
    | '(' :: t => spanDefinitionTitle ')' t
    | _ => none
  span.map fun (title, rest) => (unescaped title, rest)

/-- The title between a target and the end of a line, and the text from that end on.  A
title on a line of its own is left alone if more than white space follows it. -/
def titleAfter? (containers : List Container) (t : Text) : Option (Text × Text) :=
  match definitionSpace? containers t with
  | none => some ([], t)
  | some (lineEnds, start) =>
    if lineEnds = 0 && start.length = t.length then none
    else
      match (definitionTitle? start).filter fun (_, rest) => startsBlank rest with
      | some found => some found
      | none => if lineEnds = 0 then none else some ([], t)

/-- The definition that a text starts with, and the text after its last line. -/
def definition? (containers : List Container) : Text → Option (Definition × Text)
  | '[' :: t => do
    let (label, rest) ← definitionLabel? containers t
    let rest ← Text.after? [':'] rest
    let (_, start) ← definitionSpace? containers rest
    let (destination, rest) ← destination? start
    if start.length = rest.length then none
    else
      let (title, rest) ← titleAfter? containers rest
      return (⟨label, destination, title⟩, afterLine rest)
  | _ => none

end TweeStory.Markdown
