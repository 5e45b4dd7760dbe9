/-
White space of ASCII, and the lines of a text.

* `isSpace`, `isLineSpace`, `isIndent`: white space, white space inside a line, and white
  space that has columns;
* `firstLine`, `lineEnd`, `afterLine`: the first line of a text, its end as it is written,
  and the text after that;
* `firstLine_append`: nothing is lost between them.

A line ends with a line feed, with a carriage return, or with both in this order.
-/
import TweeStory.Text.Basic

namespace TweeStory.Markdown

/-- White space of ASCII. -/
def isSpace (c : Char) : Bool :=
  c == ' ' || (9 ≤ c.toNat && c.toNat ≤ 13)

/-- Whether a character ends a line. -/
def isLineEnd (c : Char) : Bool :=
  c == '\n' || c == '\r'

/-- White space inside a line. -/
def isLineSpace (c : Char) : Bool :=
  isSpace c && !isLineEnd c

/-- White space that moves a line to the right. -/
def isIndent (c : Char) : Bool :=
  c == ' ' || c == '\t'

/-! ### Lines -/

/-- The first line of a text, without its end. -/
def firstLine (t : Text) : Text :=
  t.takeWhile fun c => !isLineEnd c

/-- The end of a line that a text starts with. -/
def leadingEnd : Text → Text
  | '\r' :: '\n' :: _ => ['\r', '\n']
  | '\r' :: _ => ['\r']
  | '\n' :: _ => ['\n']
  | _ => []

/-- The end of the first line of a text. -/
def lineEnd (t : Text) : Text :=
  leadingEnd (t.dropWhile fun c => !isLineEnd c)

/-- The text after its first line. -/
def afterLine (t : Text) : Text :=
  (t.dropWhile fun c => !isLineEnd c).drop (lineEnd t).length

theorem leadingEnd_append (t : Text) : leadingEnd t ++ t.drop (leadingEnd t).length = t := by
  match t with
  | [] => rfl
  | c :: t =>
    unfold leadingEnd
    split <;> simp_all

/-- The first line, its end and the rest make up the text. -/
theorem firstLine_append (t : Text) : firstLine t ++ (lineEnd t ++ afterLine t) = t := by
  rw [afterLine, lineEnd, leadingEnd_append, firstLine, List.takeWhile_append_dropWhile]

/-- Whether a text is at the end of a line. -/
def isAtLineEnd (t : Text) : Bool :=
  t.head?.elim true isLineEnd

/-- Whether the first line of a text holds nothing but white space. -/
def startsBlank (t : Text) : Bool :=
  (firstLine t).all isLineSpace

/-- A line without the white space at its end. -/
def withoutSpaceAtEnd (t : Text) : Text :=
  Text.dropEndWhile isLineSpace t

/-! ### Lines as they are kept -/

/-- The first line of a text up to a line feed and with it.  Other ends of lines are part of
the line. -/
def fullLine (t : Text) : Text :=
  match t.dropWhile (· != '\n') with
  | [] => t
  | _ :: rest => t.take (t.length - rest.length)

/-- A line without the carriage return before its last character, which is one of ASCII. -/
def withoutReturn (line : Text) : Text :=
  match line.reverse with
  | last :: '\r' :: front => if last.toNat < 128 then (last :: front).reverse else line
  | _ => line

end TweeStory.Markdown
