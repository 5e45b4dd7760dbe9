/-
Passages.

* `Passage`: a named block of story content;
* `Passage.ofHeader`: the empty passage that a header opens;
* `Passage.push`: a passage with one more line;
* `Passage.hasTag`, `Passage.removeTag`: its tags.
-/
import TweeStory.Passage.Header
import TweeStory.Source.Line

namespace TweeStory

/-- A named block of story content. -/
structure Passage where
  name : Text
  tags : List Text
  /-- The place on the story map, as the header writes it. -/
  position : Text
  content : Text
  /-- The lines of the body, for reports. -/
  lines : List Line
  /-- Whether the passage is no element of the document. -/
  excluded : Bool
  /-- The number of the passage in the document. -/
  pid : Option Nat
  /-- The line of the header. -/
  origin : Origin
deriving DecidableEq, Repr

namespace Passage

/-- The position of a passage whose header gives none. -/
def defaultPosition : Text := "0,0".toList

/-- The empty passage that a header opens. -/
def ofHeader (header : Header) (origin : Origin) : Passage where
  name := header.name
  tags := header.tags
  position := header.position.getD defaultPosition
  content := []
  lines := []
  excluded := false
  pid := none
  origin := origin

/-- Whether the passage has a tag. -/
def hasTag (p : Passage) (tag : Text) : Bool :=
  p.tags.contains tag

/-- The passage without a tag. -/
def removeTag (p : Passage) (tag : Text) : Passage :=
  { p with tags := p.tags.filter (· ≠ tag) }

/-- The passage with one more line of body. -/
def push (p : Passage) (line : Line) : Passage :=
  { p with content := p.content ++ line.text, lines := p.lines ++ [line] }

/-- The passage without white space at the end of its content. -/
def close (p : Passage) : Passage :=
  { p with content := p.content.trimEnd }

end Passage

end TweeStory
