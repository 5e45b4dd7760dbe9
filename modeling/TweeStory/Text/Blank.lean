/-
White space, which is the Unicode property White_Space throughout the notation:

* `isBlank`: the characters of the property;
* `Text.trimStart`, `Text.trimEnd`, `Text.trim`: a text without white space at
  its ends;
* `Text.words`: the maximal runs of other characters.
-/
import TweeStory.Text.Basic

namespace TweeStory

/-- The Unicode property White_Space, 25 characters in all. -/
def isBlank (c : Char) : Bool :=
  let n := c.toNat
  (9 ≤ n && n ≤ 13) || n == 0x20 || n == 0x85 || n == 0xA0 || n == 0x1680 ||
    (0x2000 ≤ n && n ≤ 0x200A) || n == 0x2028 || n == 0x2029 || n == 0x202F ||
    n == 0x205F || n == 0x3000

/-- White space in the narrow sense, of ASCII alone, is white space. -/
theorem isBlank_of_isWhitespace {c : Char} (h : c.isWhitespace) : isBlank c := by
  simp only [Char.isWhitespace, Bool.or_eq_true, decide_eq_true_eq] at h
  rcases h with ((rfl | rfl) | rfl) | rfl <;> decide

namespace Text

/-- The text from its first character that is not white space. -/
def trimStart (t : Text) : Text :=
  t.dropWhile isBlank

/-- The text up to its last character that is not white space. -/
def trimEnd (t : Text) : Text :=
  dropEndWhile isBlank t

/-- The text without the white space at both of its ends. -/
def trim (t : Text) : Text :=
  trimEnd (trimStart t)

/-- Whether the text holds nothing but white space. -/
def isAllBlank (t : Text) : Bool :=
  t.all isBlank

/-- The words of the text: its maximal runs without white space. -/
def words (t : Text) : List Text :=
  (pieces isBlank t).filter fun piece => !piece.isEmpty

end Text

end TweeStory
