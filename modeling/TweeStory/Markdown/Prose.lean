/-
Prose before it is read: its characters, with the margins of the lines between them.

* `Glyph`: a character or the end of a line, after which the margin of the next line stands;
* `Prose.text`: the characters, with a line feed for each end of a line;
* `Prose.written`, `Prose.source`: the prose as it is written, without margins and with
  them;
* `Prose.dropSource`: the prose after so many characters of its source.

The margin of a line is what the containers have there that the prose is in.
-/
import TweeStory.Markdown.LineEnd

namespace TweeStory.Markdown

/-- A character of prose. -/
inductive Glyph where
  | char (c : Char)
  /-- The end of a line as it is written, and the margin of the next line. -/
  | lineEnd (mark margin : Text)
deriving DecidableEq, Repr

/-- Characters, and the ends of lines between them. -/
abbrev Prose := List Glyph

namespace Glyph

/-- The character, which is a line feed for the end of a line. -/
def toChar : Glyph → Char
  | char c => c
  | lineEnd .. => '\n'

/-- The characters without a margin. -/
def written : Glyph → Text
  | char c => [c]
  | lineEnd mark _ => mark

/-- The characters with a margin. -/
def source : Glyph → Text
  | char c => [c]
  | lineEnd mark margin => mark ++ margin

/-- Whether a line ends here. -/
def isEnd : Glyph → Bool
  | char _ => false
  | lineEnd .. => true

end Glyph

namespace Prose

/-- Prose on one line. -/
def ofText (t : Text) : Prose :=
  t.map Glyph.char

/-- The characters, with a line feed for each end of a line. -/
def text (p : Prose) : Text :=
  p.map Glyph.toChar

/-- The prose as it is written, without the margins of its lines. -/
def written (p : Prose) : Text :=
  p.flatMap Glyph.written

/-- The prose as it is written. -/
def source (p : Prose) : Text :=
  p.flatMap Glyph.source

@[simp] theorem text_append (p q : Prose) : text (p ++ q) = text p ++ text q := by
  simp [text]

@[simp] theorem source_append (p q : Prose) : source (p ++ q) = source p ++ source q := by
  simp [source]

@[simp] theorem length_text (p : Prose) : (text p).length = p.length := by
  simp [text]

/-- The prose after the spaces and tabs that it starts with. -/
def dropIndent (p : Prose) : Prose :=
  p.dropWhile fun g => isIndent g.toChar

/-- The prose after white space inside a line. -/
def dropLineSpace (p : Prose) : Prose :=
  p.dropWhile fun g => isLineSpace g.toChar

/-- The prose without white space at the end of its last line. -/
def withoutSpaceAtEnd (p : Prose) : Prose :=
  (p.reverse.dropWhile fun g => isLineSpace g.toChar).reverse

/-- The prose after the first `n` characters of its source.  After a part of a margin it goes
on with the words of the line. -/
def dropSource : (p : Prose) → (n : Nat) → Prose
  | [], _ => []
  | g :: p, n =>
    if n = 0 then g :: p
    else if g.source.length ≤ n then dropSource p (n - g.source.length)
    else dropIndent p

end Prose

end TweeStory.Markdown
