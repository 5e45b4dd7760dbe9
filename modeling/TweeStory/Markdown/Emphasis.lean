/-
Emphasis, from runs of stars and underscores.

* `Run`: a run, and whether emphasis may begin and end at it;
* `Piece`: a part of prose or a run;
* `resolve`: the parts of prose that pieces make, the runs paired off.

A run that ends emphasis is paired with the nearest run before it that begins
emphasis with the same character.  Of a pair as many characters are used as both
have, two for strong emphasis and one for plain.  What is not used is text.
-/
import TweeStory.Markdown.Inline
import TweeStory.Text.Blank
import TweeStory.Text.Punctuation

namespace TweeStory.Markdown

/-- A run of stars or of underscores. -/
structure Run where
  mark : Char
  /-- The number of characters that are not used yet. -/
  count : Nat
  /-- The number of characters as it was written. -/
  length : Nat
  opens : Bool
  closes : Bool
  /-- White space after the run that goes when the last of its characters is used. -/
  space : Text
deriving Repr

/-- A part of prose or a run. -/
inductive Piece where
  | inline (part : Inline)
  | run (r : Run)
  /-- The end of a line that a backslash keeps. -/
  | keptEnd
deriving Repr

/-! ### Runs -/

/-- Whether a neighbour of a run is white space.  The ends of the text count as such. -/
def isSpaceBeside (c : Option Char) : Bool :=
  c.elim true isBlank

/-- Whether a neighbour of a run is punctuation. -/
def isPunctuationBeside (c : Option Char) : Bool :=
  c.elim false isPunctuation

/-- A run between two characters.  Inside a word underscores do nothing. -/
def Run.between (mark : Char) (length : Nat) (before after : Option Char) : Run where
  mark := mark
  count := length
  length := length
  opens := !isSpaceBeside after &&
    ((mark == '*' && !isPunctuationBeside after) || isSpaceBeside before ||
      isPunctuationBeside before)
  closes := !isSpaceBeside before &&
    ((mark == '*' && !isPunctuationBeside before) || isSpaceBeside after ||
      isPunctuationBeside after)
  space := []

/-- Whether emphasis may both begin and end at a run. -/
def Run.isInner (r : Run) : Bool :=
  r.opens && r.closes

/-- Whether emphasis that begins at `r` may end at `s`.  Where one of them may do both,
their lengths do not make a multiple of three, or each is one. -/
def Run.pairs (r s : Run) : Bool :=
  r.mark = s.mark && r.opens &&
    (!(r.isInner || s.isInner) || (r.length + s.length) % 3 != 0 || s.length % 3 == 0)

/-! ### Pairing -/

/-- The part of prose that a piece makes when it is not paired. -/
def Piece.toInline : Piece → Inline
  | inline part => part
  | run r => .text (List.replicate r.count r.mark ++ r.space)
  | keptEnd => .hardBreak

/-- The pieces after the nearest run that `closer` pairs with, that run, and the pieces
before it, where pieces stand latest first. -/
def splitAtOpener (closer : Run) : List Piece → Option (List Piece × Run × List Piece)
  | [] => none
  | .run r :: rest =>
    if r.pairs closer then some ([], r, rest)
    else (splitAtOpener closer rest).map fun (inner, split) => (.run r :: inner, split)
  | piece :: rest =>
    (splitAtOpener closer rest).map fun (inner, split) => (piece :: inner, split)

/-- Prose in emphasis by `n` characters on either side, strong emphasis innermost. -/
def enclose : (n : Nat) → List Inline → List Inline
  | 0, body => body
  | 1, body => [.emphasis body]
  | n + 2, body => enclose n [.strong body]

/-- The pieces, latest first, after a run at which emphasis may end, with at most `n`
pairings. -/
def addCloser : (n : Nat) → List Piece → Run → List Piece
  | 0, pieces, closer => if closer.count = 0 then pieces else .run closer :: pieces
  | n + 1, pieces, closer =>
    if closer.count = 0 then pieces
    else
      match splitAtOpener closer pieces with
      | none => .run closer :: pieces
      | some (inner, opener, outer) =>
        let used := min opener.count closer.count
        let body := enclose used (inner.reverse.map Piece.toInline)
        let left := opener.count - used
        let outer := if left = 0 then outer else .run { opener with count := left } :: outer
        addCloser n (body.map Piece.inline ++ outer) { closer with count := closer.count - used }

/-- The pieces, latest first, after one more. -/
def addPiece (pieces : List Piece) : Piece → List Piece
  | .run r => if r.closes then addCloser r.count pieces r else .run r :: pieces
  | piece => piece :: pieces

/-- The parts of prose that pieces make. -/
def resolve (pieces : List Piece) : List Inline :=
  (pieces.foldl addPiece []).reverse.map Piece.toInline

end TweeStory.Markdown
