/-
Text as HTML.

* `Inline.html`, `Block.html`: parts of a text as HTML;
* `render`: a text as HTML.
-/
import TweeStory.Markdown.Block
import TweeStory.Markdown.Span

namespace TweeStory.Markdown

/-! ### Characters -/

/-- A character of the contents of an element. -/
def contentChar (c : Char) : Text :=
  if c = '&' then "&amp;".toList
  else if c = '<' then "&lt;".toList
  else if c = '>' then "&gt;".toList
  else [c]

/-- A character of the value of an attribute. -/
def valueChar (c : Char) : Text :=
  if c = '"' then "&quot;".toList
  else if c = '\'' then "&#39;".toList
  else contentChar c

/-- Whether a character stands for itself in an address. -/
def isAddressChar (c : Char) : Bool :=
  c.isAlphanum || "!#$%()*+,-./:;=?@^_~".toList.contains c

/-- A digit of a byte. -/
def byteDigit (n : Nat) : Char :=
  Char.ofNat (if n < 10 then '0'.toNat + n else 'A'.toNat + (n - 10))

/-- A byte by its number. -/
def byteCode (b : UInt8) : Text :=
  ['%', byteDigit (b.toNat / 16), byteDigit (b.toNat % 16)]

/-- A character of an address. -/
def addressChar (c : Char) : Text :=
  if c = '&' then "&amp;".toList
  else if c = '\'' then "&#x27;".toList
  else if isAddressChar c then [c]
  else (String.utf8EncodeChar c).flatMap byteCode

/-- An attribute. -/
def field (name value : Text) : Text :=
  ' ' :: name ++ '=' :: '"' :: value ++ ['"']

/-- The attribute with a title, if there is one. -/
def titleAttribute (title : Text) : Text :=
  if title = [] then [] else field "title".toList (title.flatMap valueChar)

/-- An element. -/
def element (name attributes contents : Text) : Text :=
  '<' :: name ++ attributes ++ '>' :: contents ++ '<' :: '/' :: name ++ ['>']

/-! ### Prose -/

mutual

/-- A part of prose as HTML. -/
def Inline.html : Inline → Text
  | .text t => t.flatMap contentChar
  | .code t => element "code".toList [] (t.flatMap contentChar)
  | .raw t => t
  | .softBreak => ['\n']
  | .hardBreak => "<br />\n".toList
  | .emphasis body => element "em".toList [] (Inline.htmlAll body)
  | .strong body => element "strong".toList [] (Inline.htmlAll body)
  | .link target title body =>
    element ['a'] (field "href".toList (target.flatMap addressChar) ++ titleAttribute title)
      (Inline.htmlAll body)
  | .image target title body =>
    "<img".toList ++ field "src".toList (target.flatMap addressChar) ++
      field "alt".toList ((Inline.plainAll body).flatMap valueChar) ++
      titleAttribute title ++ " />".toList

/-- Parts of prose as HTML. -/
def Inline.htmlAll : List Inline → Text
  | [] => []
  | part :: rest => part.html ++ Inline.htmlAll rest

end

/-- Prose as HTML, where white space follows it. -/
def prose (definitions : List Definition) (p : Prose) (space : Text) : Text :=
  Inline.htmlAll (Inline.ofProse ⟨definitions, space⟩ p)

/-! ### Parts -/

/-- An element and the end of its line. -/
def blockElement (name attributes contents : Text) : Text :=
  element name attributes contents ++ ['\n']

/-- The opening tag of a list. -/
def listTag (kind : ListKind) (number : Nat) : Text × Text :=
  match kind with
  | .bullets _ => ("ul".toList, [])
  | .numbers _ =>
    ("ol".toList, if number = 1 then [] else field "start".toList (Text.ofNat number))

/-- The attribute with the language of code, if there is one. -/
def languageAttribute (language : Text) : Text :=
  if language = [] then []
  else field "class".toList ("language-".toList ++ language.flatMap valueChar)

/-- What moves to the start of a line. -/
def toLineStart (isAtStart : Bool) : Text :=
  if isAtStart then [] else ['\n']

/-- Whether the next part stands at the start of a line. -/
def isAtStartAfter (isAtStart : Bool) (html : Text) : Bool :=
  html.getLast?.elim isAtStart (· == '\n')

mutual

/-- A part as HTML, after the start of a line or not.  In a tight list paragraphs are
their words alone. -/
def Block.html (definitions : List Definition) (isTight isAtStart : Bool) : Block → Text
  | .paragraph p =>
    if isTight then prose definitions p []
    else toLineStart isAtStart ++ blockElement ['p'] [] (prose definitions p [])
  | .heading level p space =>
    toLineStart isAtStart ++
      blockElement ('h' :: Text.ofNat level) [] (prose definitions p space)
  | .code language contents =>
    toLineStart isAtStart ++
      blockElement "pre".toList []
        (element "code".toList (languageAttribute language) (contents.flatMap contentChar))
  | .raw contents => contents
  | .rule => toLineStart isAtStart ++ "<hr />\n".toList
  | .quote body =>
    toLineStart isAtStart ++
      blockElement "blockquote".toList [] ('\n' :: Block.htmlAll definitions false true body)
  | .list kind number isLoose items =>
    let (name, attributes) := listTag kind number
    toLineStart isAtStart ++
      blockElement name attributes ('\n' :: Block.htmlAll definitions (!isLoose) true items)
  | .item body =>
    toLineStart isAtStart ++
      blockElement "li".toList [] (Block.htmlAll definitions isTight false body)

/-- Parts as HTML. -/
def Block.htmlAll (definitions : List Definition) (isTight isAtStart : Bool) :
    List Block → Text
  | [] => []
  | part :: rest =>
    let html := part.html definitions isTight isAtStart
    html ++ Block.htmlAll definitions isTight (isAtStartAfter isAtStart html) rest

end

/-- A text as HTML, without white space at its end. -/
def render (t : Text) : Text :=
  let (blocks, definitions) := Block.ofText t
  (Block.htmlAll definitions false true blocks).trimEnd

end TweeStory.Markdown
