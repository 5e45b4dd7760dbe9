/-
Passages from the lines of a story.

* `PassageMap.ofLines`: the passages of the lines, and a warning for each header
  whose name was used before.

A header opens a passage and a line that is no header belongs to the passage open
before it; lines before the first header are dropped.
-/
import TweeStory.Passage.Map
import TweeStory.Source.Library
import TweeStory.Warning

namespace TweeStory.PassageMap

/-- The passages read so far, the place of the one that is open, and the warnings
raised so far. -/
structure Reading where
  passages : PassageMap
  current : Option Nat
  warnings : Diagnostics

/-- The warning that the passage at `again` replaces the one at `first`. -/
def replaced (sources : Sources) (name : Text) (first again : Origin) : Warning where
  kind := .duplicatePassage name (sources.describe first) (sources.describe again)
  context := some again
  referent := some first

/-- Reads a header: opens its passage in the place of the one with its name. -/
def Reading.openPassage (sources : Sources) (state : Reading) (header : Header)
    (origin : Origin) : Reading :=
  let (i, old, passages) := state.passages.insert (.ofHeader header origin)
  { passages
    current := some i
    warnings := state.warnings ++
      (old.map fun p => replaced sources header.name p.origin origin).toList }

/-- Reads a line. -/
def Reading.read (sources : Sources) (state : Reading) (line : Line) : Reading :=
  match Header.parse? line.text with
  | some header => state.openPassage sources header line.origin
  | none =>
    match state.current with
    | some i => { state with passages := state.passages.modifyAt i (·.push line) }
    | none => state

/-- The passages of the lines of a story, without white space at the ends of their
contents, and the warnings about names used again. -/
def ofLines (sources : Sources) (lines : List Line) : PassageMap × Diagnostics :=
  let state := lines.foldl (Reading.read sources) ⟨empty, none, []⟩
  (state.passages.map Passage.close, state.warnings)

end TweeStory.PassageMap
