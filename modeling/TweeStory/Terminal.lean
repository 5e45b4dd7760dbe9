/-
What is sent to a terminal: text, and changes of its style.

* `Terminal.Style`: a colour and a weight of type;
* `Terminal.Item`: a piece of text or a change of style;
* `Terminal.plain`, `Terminal.ansi`: the items as text, without their styles and
  with escape codes for them.
-/
import TweeStory.Text.Basic

namespace TweeStory.Terminal

/-- The colours in use. -/
inductive Colour where
  | red
  | green
  | yellow
  | blue
  | cyan
deriving DecidableEq, Repr

/-- The number of a colour in escape codes. -/
def Colour.number : Colour → Nat
  | red => 1
  | green => 2
  | yellow => 3
  | blue => 4
  | cyan => 6

/-- A style of type. -/
structure Style where
  colour : Option Colour
  /-- Whether the colour is the lighter one of its kind. -/
  intense : Bool
  bold : Bool
deriving DecidableEq, Repr

/-- A colour alone. -/
def Style.plain (colour : Colour) : Style :=
  ⟨some colour, false, false⟩

/-- A colour in bold. -/
def Style.strong (colour : Colour) : Style :=
  ⟨some colour, false, true⟩

/-- What is sent to a terminal. -/
inductive Item where
  | text (t : Text)
  /-- Leaves the style so far for a new one. -/
  | style (s : Style)
  /-- Leaves the style so far. -/
  | reset
deriving DecidableEq, Repr

/-- A string as an item. -/
def Item.ofString (s : String) : Item :=
  .text s.toList

/-- Text in a style, with none after it. -/
def styled (s : Style) (t : Text) : List Item :=
  [.style s, .text t, .reset]

/-! ### Output -/

/-- The character that begins an escape code. -/
def escapeMark : Text := ['\x1b', '[']

/-- The code that leaves the style so far. -/
def resetCode : Text := escapeMark ++ "0m".toList

/-- The code of a colour. -/
def colourCode (s : Style) : Text :=
  match s.colour with
  | none => []
  | some colour =>
    if s.intense then escapeMark ++ "38;5;".toList ++ Text.ofNat (8 + colour.number) ++ ['m']
    else escapeMark ++ '3' :: Text.ofNat colour.number ++ ['m']

/-- The code of a style. -/
def Style.code (s : Style) : Text :=
  resetCode ++ (if s.bold then escapeMark ++ "1m".toList else []) ++ colourCode s

/-- The texts of the items. -/
def plain (items : List Item) : Text :=
  items.flatMap fun item =>
    match item with
    | .text t => t
    | _ => []

/-- The texts of the items, with codes for the styles. -/
def ansi (items : List Item) : Text :=
  items.flatMap fun item =>
    match item with
    | .text t => t
    | .style s => s.code
    | .reset => resetCode

end TweeStory.Terminal
