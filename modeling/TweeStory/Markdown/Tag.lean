/-
Markup inside prose, and addresses between angle brackets.

* `afterTag?`: the text after a tag;
* `afterMarkup?`: the text after a comment, an instruction, a declaration or character data;
* `address?`: the address that stands between angle brackets.

The functions are given the text after an opening angle bracket.
-/
import TweeStory.Markdown.LineEnd

namespace TweeStory.Markdown

/-- The rest of a text after white space. -/
def skipSpace (t : Text) : Text :=
  t.dropWhile isSpace

/-! ### Tags -/

/-- The text after the name of a tag at its start. -/
def afterTagName? : Text → Option Text
  | c :: t => if c.isAlpha then some (t.dropWhile fun d => d.isAlphanum || d == '-') else none
  | [] => none

/-- Whether a character may begin the name of an attribute. -/
def beginsAttribute (c : Char) : Bool :=
  c.isAlpha || c == '_' || c == ':'

/-- Whether a character may continue the name of an attribute. -/
def continuesAttribute (c : Char) : Bool :=
  c.isAlphanum || c == '_' || c == ':' || c == '.' || c == '-'

/-- Whether a character may be part of a value without quotes. -/
def isBareValue (c : Char) : Bool :=
  !(isLineEnd c || [' ', '"', '\'', '=', '<', '>', '\x60'].contains c)

/-- The text after the value of an attribute at its start. -/
def afterValue? : Text → Option Text
  | '"' :: t => (Text.cut? ['"'] t).map Prod.snd
  | '\'' :: t => (Text.cut? ['\''] t).map Prod.snd
  | t => if (t.takeWhile isBareValue).isEmpty then none else some (t.dropWhile isBareValue)

/-- The text after the equals sign and value of an attribute, if they are there. -/
def afterEquals? (t : Text) : Option Text :=
  match skipSpace t with
  | '=' :: rest => afterValue? (skipSpace rest)
  | _ => some t

/-- The text after one attribute with white space before it. -/
def afterAttribute? (t : Text) : Option Text :=
  match t, skipSpace t with
  | c :: _, d :: rest =>
    if isSpace c && beginsAttribute d then afterEquals? (rest.dropWhile continuesAttribute)
    else none
  | _, _ => none

/-- The text after at most `n` attributes. -/
def afterAttributes : (n : Nat) → Text → Text
  | 0, t => t
  | n + 1, t =>
    match afterAttribute? t with
    | some rest => afterAttributes n rest
    | none => t

/-- The text after a closing angle bracket at its start. -/
def afterBracket? : Text → Option Text
  | '>' :: t => some t
  | _ => none

/-- The text after an opening tag. -/
def afterOpeningTag? (t : Text) : Option Text := do
  let rest ← afterTagName? t
  match skipSpace (afterAttributes rest.length rest) with
  | '/' :: rest => afterBracket? rest
  | rest => afterBracket? rest

/-- The text after a closing tag, whose bracket is on the line of its name. -/
def afterClosingTag? : Text → Option Text
  | '/' :: t => (afterTagName? t).bind fun rest => afterBracket? (rest.dropWhile isLineSpace)
  | _ => none

/-- The text after a tag. -/
def afterTag? (t : Text) : Option Text :=
  afterOpeningTag? t <|> afterClosingTag? t

/-! ### Other markup -/

/-- The text after a comment. -/
def afterComment? (t : Text) : Option Text := do
  match ← Text.after? "!--".toList t with
  | '>' :: rest => return rest
  | '-' :: '>' :: rest => return rest
  | rest => (Text.cut? "-->".toList rest).map Prod.snd

/-- The text after an instruction between question marks. -/
def afterInstruction? (t : Text) : Option Text :=
  (Text.after? ['?'] t).bind fun rest => (Text.cut? "?>".toList rest).map Prod.snd

/-- The text after a declaration. -/
def afterDeclaration? : Text → Option Text
  | '!' :: c :: t => if c.isAlpha then (Text.cut? ['>'] t).map Prod.snd else none
  | _ => none

/-- The text after a section of character data, which the first square bracket in it and
those that follow it at once close. -/
def afterCharacterData? (t : Text) : Option Text :=
  (Text.after? "![CDATA[".toList t).bind fun rest =>
    let closing := rest.dropWhile (· != ']')
    if closing.isEmpty then none else afterBracket? (closing.dropWhile (· == ']'))

/-- The text after markup that is no tag. -/
def afterMarkup? (t : Text) : Option Text :=
  afterComment? t <|> afterInstruction? t <|> afterDeclaration? t <|> afterCharacterData? t

/-! ### Addresses -/

/-- Whether a character may be part of a scheme. -/
def continuesScheme (c : Char) : Bool :=
  c.isAlphanum || c == '.' || c == '-' || c == '+'

/-- The numbers of characters that a scheme may have. -/
def isSchemeLength (n : Nat) : Bool :=
  2 ≤ n && n ≤ 32

/-- The address with a scheme that a text starts with, and the text after its closing
bracket. -/
def absoluteAddress? (t : Text) : Option (Text × Text) :=
  let scheme := t.takeWhile continuesScheme
  match t.drop scheme.length with
  | ':' :: rest =>
    let path := rest.takeWhile fun c => 0x20 < c.toNat && c != '<' && c != '>'
    if (scheme.head?.elim false Char.isAlpha) && isSchemeLength scheme.length then
      (afterBracket? (rest.drop path.length)).map fun after => (scheme ++ ':' :: path, after)
    else none
  | _ => none

/-- Whether a character may stand before the at sign of a mail address. -/
def isMailbox (c : Char) : Bool :=
  c.isAlphanum || ".!#$%&'*+/=?^_\x60\x7b|\x7d~-".toList.contains c

/-- Whether a text may be a part between the dots of a mail address's domain. -/
def isDomainPart (t : Text) : Bool :=
  !t.isEmpty && t.length ≤ 63 && t.all (fun c => c.isAlphanum || c == '-') &&
    t.head? != some '-' && t.getLast? != some '-'

/-- The mail address that a text starts with, and the text after its closing bracket. -/
def mailAddress? (t : Text) : Option (Text × Text) :=
  let box := t.takeWhile isMailbox
  match t.drop box.length with
  | '@' :: rest =>
    let domain := rest.takeWhile fun c => c.isAlphanum || c == '-' || c == '.'
    if !box.isEmpty && (Text.pieces (· == '.') domain).all isDomainPart then
      (afterBracket? (rest.drop domain.length)).map fun after => (box ++ '@' :: domain, after)
    else none
  | _ => none

/-- What begins the target of a mail address. -/
def mailScheme : Text := "mailto:".toList

/-- The target and the words of the address that a text starts with, and the text after
its closing bracket. -/
def address? (t : Text) : Option (Text × Text × Text) :=
  match absoluteAddress? t with
  | some (address, rest) => some (address, address, rest)
  | none => (mailAddress? t).map fun (address, rest) => (mailScheme ++ address, address, rest)

end TweeStory.Markdown
