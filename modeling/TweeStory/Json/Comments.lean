/-
Comments in configuration text.

* `Json.stripComments?`: the text with spaces in place of its comments.

Outside strings, `//` and `#` begin a comment that ends with the line, and `/*`
one that ends with `*/`.
-/
import TweeStory.Text.Basic

namespace TweeStory.Json

/-- What the characters before a place mean for the character there. -/
inductive CommentState where
  | code
  | string
  /-- After a backslash in a string. -/
  | escape
  /-- After a slash that must begin a comment. -/
  | slash
  | line
  | block
  /-- After a star in a block comment. -/
  | star
deriving DecidableEq, Repr

/-- What a character is replaced by, and what it means for the next one.  A slash
that begins no comment is refused. -/
def CommentState.next? : CommentState → Char → Option (Char × CommentState)
  | code, '"' => some ('"', string)
  | code, '/' => some (' ', slash)
  | code, '#' => some (' ', line)
  | code, c => some (c, code)
  | string, '"' => some ('"', code)
  | string, '\\' => some ('\\', escape)
  | string, c => some (c, string)
  | escape, c => some (c, string)
  | slash, '/' => some (' ', line)
  | slash, '*' => some (' ', block)
  | slash, _ => none
  | line, '\n' => some ('\n', code)
  | line, _ => some (' ', line)
  | block, '*' => some (' ', star)
  | block, _ => some (' ', block)
  | star, '/' => some (' ', code)
  | star, '*' => some (' ', star)
  | star, _ => some (' ', block)

/-- Whether a text may end here. -/
def CommentState.isFinal : CommentState → Bool
  | code | line => true
  | _ => false

/-- The text with its comments replaced, beginning in a given state. -/
def stripFrom? : CommentState → Text → Option Text
  | state, [] => if state.isFinal then some [] else none
  | state, c :: t =>
    match state.next? c with
    | some (d, state) => (stripFrom? state t).map (d :: ·)
    | none => none

/-- The text with spaces in place of its comments.  A text that ends in a string or
in a block comment is refused. -/
def stripComments? (t : Text) : Option Text :=
  stripFrom? .code t

end TweeStory.Json
