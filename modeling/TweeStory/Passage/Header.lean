/-
Passage headers, `:: Name [tag tag] <position>`.

* `Header`: the name, the tags and the position of a header;
* `Header.parse?`: the header on a line, if the line is one.

The name ends at the first `[` or `<`.  Tags and position may be left out.  The
tags end at the first `]` that leaves a valid header, the position at the last
character that is not white space.
-/
import TweeStory.Text.Blank
import TweeStory.Text.Lines

namespace TweeStory

/-- What a header line says about its passage. -/
structure Header where
  name : Text
  /-- The tags in the order of the header, each once. -/
  tags : List Text
  position : Option Text
deriving DecidableEq, Repr

/-- The words of a list, each at its first place only. -/
def distinct : List Text → List Text
  | [] => []
  | word :: rest => word :: (distinct rest).filter (· ≠ word)

namespace Header

/-- The mark that begins a header. -/
def mark : Text := "::".toList

/-- Whether a character ends the name. -/
def endsName (c : Char) : Bool :=
  c == '[' || c == '<'

/-- The end of a header after its name and tags: white space around a position in
angle brackets, or nothing but white space.  A position stays on one line. -/
def position? (t : Text) : Option (Option Text) :=
  match t.trim with
  | [] => some none
  | '<' :: rest =>
    match Text.beforeEnd? ['>'] rest with
    | some position => if position.contains '\n' then none else some (some position)
    | none => none
  | _ :: _ => none

/-- The text of the tags and the position, for what follows an opening bracket.
The tags stay on one line and are as short as what follows them allows. -/
def tagged? : Text → Option (Text × Option Text)
  | [] => none
  | c :: rest =>
    if c = '\n' then none
    else
      match if c = ']' then position? rest else none with
      | some position => some ([], position)
      | none => (tagged? rest).map fun (tags, position) => (c :: tags, position)

/-- The header on a line, if the line is one. -/
def parse? (text : Text) : Option Header := do
  let rest ← Text.after? mark text.chomp
  let name := Text.trim (rest.takeWhile fun c => !endsName c)
  match rest.dropWhile fun c => !endsName c with
  | '[' :: tail =>
    let (tags, position) ← tagged? tail
    return ⟨name, distinct tags.words, position⟩
  | tail => return ⟨name, [], ← position? tail⟩

end Header

end TweeStory
