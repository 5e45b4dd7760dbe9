/-
Character references, which stand for characters by name or by number.

* `reference?`: the characters that a reference after an ampersand stands for;
* `unescaped`: a text with its references and its escaped characters resolved.
-/
import TweeStory.Markdown.EntityTable
import TweeStory.Text.Punctuation

namespace TweeStory.Markdown

/-- A character that stands for one that cannot be shown. -/
def replacement : Char := '\uFFFD'

/-- The character with a code point, if it is one.  The null character is replaced. -/
def charOfCode? (n : Nat) : Option Char :=
  if n = 0 then some replacement else if n.isValidChar then some (Char.ofNat n) else none

/-- Whether a character is a hexadecimal digit. -/
def isHexDigit (c : Char) : Bool :=
  c.isDigit || ('A' ≤ c && c ≤ 'F') || ('a' ≤ c && c ≤ 'f')

/-- The rest of a text after a semicolon at its start. -/
def afterSemicolon? : Text → Option Text
  | ';' :: t => some t
  | _ => none

/-- The first `limit` characters of a text, as far as they are digits of a kind, and the
rest. -/
def spanDigits (isDigit : Char → Bool) (limit : Nat) (t : Text) : Text × Text :=
  let digits := (t.take limit).takeWhile isDigit
  (digits, t.drop digits.length)

/-- The character with the number that a text starts with, and the rest of the text. -/
def numbered? (t : Text) : Option (Text × Text) := do
  let (digits, n, rest) :=
    match t with
    | 'x' :: t | 'X' :: t =>
      let (digits, rest) := spanDigits isHexDigit 6 t
      (digits, hexNumber digits, rest)
    | t =>
      let (digits, rest) := spanDigits Char.isDigit 7 t
      (digits, digits.foldl (fun n c => n * 10 + hexValue c) 0, rest)
  if digits = [] then none
  else
    let rest ← afterSemicolon? rest
    let c ← charOfCode? n
    return ([c], rest)

/-- The characters with the name that a text starts with, and the rest of the text. -/
def named? (t : Text) : Option (Text × Text) := do
  let rest ← afterSemicolon? (t.dropWhile Char.isAlphanum)
  let value ← namedEntities.lookup (t.takeWhile Char.isAlphanum)
  return (value, rest)

/-- The characters that a reference stands for, of which `t` is the text after the
ampersand, and the rest of the text. -/
def reference? (t : Text) : Option (Text × Text) :=
  match t with
  | '#' :: t => numbered? t
  | t => named? t

/-- The first `n` characters of a text with references and escaped characters resolved, and
without carriage returns. -/
def unescapedFrom : (n : Nat) → Text → Text
  | 0, _ => []
  | _, [] => []
  | n + 1, '&' :: t =>
    match reference? t with
    | some (value, rest) => value ++ unescapedFrom n rest
    | none => '&' :: unescapedFrom n t
  | n + 1, '\\' :: c :: t =>
    if isAsciiPunctuation c then c :: unescapedFrom n t
    else '\\' :: unescapedFrom n (c :: t)
  | n + 1, '\r' :: t => unescapedFrom n t
  | n + 1, c :: t => c :: unescapedFrom n t

/-- The text with its references resolved, without the backslash before a character of
punctuation and without carriage returns. -/
def unescaped (t : Text) : Text :=
  unescapedFrom t.length t

end TweeStory.Markdown
