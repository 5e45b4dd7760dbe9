/-
JSON values and their text.

* `Json`: a value;
* `Json.parse?`: the value that a text writes.

A string may name half of a surrogate pair.  It then stands for no text, and the
value that holds it may be passed over but not read.
-/
import TweeStory.Text.Basic

namespace TweeStory

/-- A JSON value.  Numbers are not kept, for nothing reads them. -/
inductive Json where
  | null
  | bool (value : Bool)
  | number
  /-- A string, with its text if it stands for one. -/
  | string (text : Option Text)
  | array (items : List Json)
  | object (members : List (Option Text × Json))
deriving Repr

namespace Json

/-! ### Strings -/

/-- A piece of a string: a character, or the number that `\u` gives, which may be
half of a surrogate pair. -/
inductive Piece where
  | char (c : Char)
  | unit (n : Nat)
deriving DecidableEq, Repr

/-- The value of a hexadecimal digit. -/
def hexDigit? (c : Char) : Option Nat :=
  if '0' ≤ c && c ≤ '9' then some (c.toNat - '0'.toNat)
  else if 'a' ≤ c && c ≤ 'f' then some (c.toNat - 'a'.toNat + 10)
  else if 'A' ≤ c && c ≤ 'F' then some (c.toNat - 'A'.toNat + 10)
  else none

/-- The number that four hexadecimal digits write. -/
def hexNumber? (a b c d : Char) : Option Nat := do
  return (((← hexDigit? a) * 16 + (← hexDigit? b)) * 16 + (← hexDigit? c)) * 16 + (← hexDigit? d)

/-- The character that a letter after a backslash stands for. -/
def escape? : Char → Option Char
  | '"' => some '"'
  | '\\' => some '\\'
  | '/' => some '/'
  | 'b' => some '\x08'
  | 'f' => some '\x0c'
  | 'n' => some '\n'
  | 'r' => some '\r'
  | 't' => some '\t'
  | _ => none

/-- The pieces of a string after its opening quote, and the rest of the text. -/
def pieces? : Text → Option (List Piece × Text)
  | [] => none
  | '"' :: t => some ([], t)
  | '\\' :: 'u' :: a :: b :: c :: d :: t => do
    let n ← hexNumber? a b c d
    let (pieces, rest) ← pieces? t
    return (.unit n :: pieces, rest)
  | '\\' :: c :: t => do
    let e ← escape? c
    let (pieces, rest) ← pieces? t
    return (.char e :: pieces, rest)
  | c :: t => do
    if c.toNat < 0x20 then none
    let (pieces, rest) ← pieces? t
    return (.char c :: pieces, rest)

/-- Whether a number is the first half of a surrogate pair. -/
def isHighHalf (n : Nat) : Bool :=
  0xD800 ≤ n && n < 0xDC00

/-- Whether a number is the second half of a surrogate pair. -/
def isLowHalf (n : Nat) : Bool :=
  0xDC00 ≤ n && n < 0xE000

/-- The text that pieces stand for.  Halves of surrogate pairs must come in
pairs. -/
def textOfPieces? : List Piece → Option Text
  | [] => some []
  | .char c :: rest => (textOfPieces? rest).map (c :: ·)
  | .unit hi :: .unit lo :: rest =>
    if isHighHalf hi then
      if isLowHalf lo then
        (textOfPieces? rest).map (Char.ofNat (0x10000 + (hi - 0xD800) * 0x400 + (lo - 0xDC00)) :: ·)
      else none
    else if isLowHalf hi then none
    else (textOfPieces? (.unit lo :: rest)).map (Char.ofNat hi :: ·)
  | .unit n :: rest =>
    if isHighHalf n || isLowHalf n then none
    else (textOfPieces? rest).map (Char.ofNat n :: ·)

/-! ### Numbers and words -/

/-- The text after a run of at least one digit. -/
def afterDigits? : Text → Option Text
  | [] => none
  | c :: t => if c.isDigit then some (t.dropWhile Char.isDigit) else none

/-- The text after the whole part of a number, which begins with a zero only if it
is zero. -/
def afterWhole? : Text → Option Text
  | [] => none
  | '0' :: t =>
    match t with
    | c :: _ => if c.isDigit then none else some t
    | [] => some t
  | t => afterDigits? t

/-- The text after the fraction of a number, if there is one. -/
def afterFraction? : Text → Option Text
  | '.' :: t => afterDigits? t
  | t => some t

/-- Whether a character begins an exponent. -/
def beginsExponent (c : Char) : Bool :=
  c == 'e' || c == 'E'

/-- The text after the exponent of a number, if there is one. -/
def afterExponent? : Text → Option Text
  | [] => some []
  | c :: t =>
    if beginsExponent c then
      match t with
      | '+' :: t => afterDigits? t
      | '-' :: t => afterDigits? t
      | t => afterDigits? t
    else some (c :: t)

/-- The text after a number. -/
def afterNumber? (t : Text) : Option Text :=
  let t := (Text.after? ['-'] t).getD t
  ((afterWhole? t).bind afterFraction?).bind afterExponent?

/-- The value that a word at the start of the text writes, and the rest. -/
def word? (t : Text) : Option (Json × Text) :=
  match Text.after? "null".toList t with
  | some rest => some (.null, rest)
  | none =>
    match Text.after? "true".toList t with
    | some rest => some (.bool true, rest)
    | none => (Text.after? "false".toList t).map fun rest => (.bool false, rest)

/-! ### Values -/

/-- Whether a character may stand between the parts of a value. -/
def isSpace (c : Char) : Bool :=
  c == ' ' || c == '\t' || c == '\n' || c == '\r'

/-- The text from its first character that is no space. -/
def skip (t : Text) : Text :=
  t.dropWhile isSpace

mutual

/-- The value at the start of the text and the rest, with at most `n` steps. -/
def value? : (n : Nat) → Text → Option (Json × Text)
  | 0, _ => none
  | n + 1, t =>
    match skip t with
    | [] => none
    | '"' :: t => (pieces? t).map fun (pieces, rest) => (.string (textOfPieces? pieces), rest)
    | '[' :: t =>
      match skip t with
      | ']' :: rest => some (.array [], rest)
      | t => (items? n t).map fun (items, rest) => (.array items, rest)
    | '\x7b' :: t =>
      match skip t with
      | '\x7d' :: rest => some (.object [], rest)
      | t => (members? n t).map fun (members, rest) => (.object members, rest)
    | c :: t =>
      if c.isDigit || c == '-' then (afterNumber? (c :: t)).map fun rest => (.number, rest)
      else word? (c :: t)

/-- The values up to the closing bracket of an array, and the rest. -/
def items? : (n : Nat) → Text → Option (List Json × Text)
  | 0, _ => none
  | n + 1, t => do
    let (item, rest) ← value? n t
    match skip rest with
    | ',' :: rest => (items? n rest).map fun (items, rest) => (item :: items, rest)
    | ']' :: rest => some ([item], rest)
    | _ => none

/-- The members up to the closing brace of an object, and the rest. -/
def members? : (n : Nat) → Text → Option (List (Option Text × Json) × Text)
  | 0, _ => none
  | n + 1, t =>
    match skip t with
    | '"' :: t => do
      let (pieces, rest) ← pieces? t
      match skip rest with
      | ':' :: rest =>
        let (value, rest) ← value? n rest
        let member := (textOfPieces? pieces, value)
        match skip rest with
        | ',' :: rest => (members? n rest).map fun (members, rest) => (member :: members, rest)
        | '\x7d' :: rest => some ([member], rest)
        | _ => none
      | _ => none
    | _ => none

end

/-- The value that the whole text writes.  Each step of the reading leaves less of
the text, or goes from an array to its first item. -/
def parse? (t : Text) : Option Json :=
  match value? (2 * t.length + 1) t with
  | some (value, rest) => if (skip rest).isEmpty then some value else none
  | none => none

end Json

end TweeStory
