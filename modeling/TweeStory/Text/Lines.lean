/-
Lines of a text.  A line feed ends a line; a carriage return before it belongs
to the line's end.

* `Text.fullLines`: the lines with their ends, which together are the text;
* `Text.lines`: the lines without their ends;
* `Text.chomp`: a line without the line feeds and carriage returns at its end.
-/
import TweeStory.Text.Basic

namespace TweeStory.Text

/-- The lines of the text, each with the line feed that ends it.  The last line
may lack one; there is no line after a final line feed. -/
def fullLines : Text → List Text
  | [] => []
  | c :: t => if c = '\n' then [c] :: fullLines t else consHead c (fullLines t)

/-- The lines with their ends are the text. -/
@[simp] theorem flatten_fullLines (t : Text) : (fullLines t).flatten = t := by
  induction t with
  | nil => rfl
  | cons c t ih => by_cases h : c = '\n' <;> simp [fullLines, h, ih]

/-- A full line without its line feed and the carriage return before that.  A
carriage return with no line feed after it is part of the line. -/
def withoutLineEnd (line : Text) : Text :=
  match beforeEnd? ['\n'] line with
  | none => line
  | some body => (beforeEnd? ['\r'] body).getD body

/-- The lines of the text without their ends. -/
def lines (t : Text) : List Text :=
  (fullLines t).map withoutLineEnd

/-- Whether a character is a line feed or a carriage return. -/
def isLineEnd (c : Char) : Bool :=
  c == '\n' || c == '\r'

/-- The text without any line feeds and carriage returns at its end. -/
def chomp (t : Text) : Text :=
  dropEndWhile isLineEnd t

end TweeStory.Text
