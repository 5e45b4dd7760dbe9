/-
The source files that have been loaded, numbered from 0 and kept so that a
report can quote them.

* `Sources.add`, `Sources.load`: a source given by its text, and one read from
  a file tree unless an equal path is loaded already;
* `Sources.lines`: the lines of a source with their origins;
* `SourceFile.lineStarts`, `Sources.lineRange?`, `Sources.lineIndex?`: the table
  of line starts and what it says about byte offsets;
* `Sources.describe`, `Sources.span?`: an origin in words and as a byte range.
-/
import TweeStory.FileTree
import TweeStory.Source.Line

namespace TweeStory

/-- A loaded source. -/
structure SourceFile where
  /-- The name that reports show. -/
  name : Text
  path : Path
  contents : Text
deriving Repr

/-- The loaded sources in the order of loading. -/
structure Sources where
  files : List SourceFile
deriving Repr

/-- A half open range of byte offsets. -/
structure ByteRange where
  start : Nat
  stop : Nat
deriving DecidableEq, Repr

/-! ### Byte offsets in a text -/

/-- The text after its first `n` bytes, if a character begins there. -/
def Text.dropBytes? : (n : Nat) → Text → Option Text
  | 0, t => some t
  | _ + 1, [] => none
  | n + 1, c :: t => if n + 1 < c.utf8Size then none else dropBytes? (n + 1 - c.utf8Size) t

/-- The first `n` bytes of the text, if a character ends there. -/
def Text.takeBytes? : (n : Nat) → Text → Option Text
  | 0, _ => some []
  | _ + 1, [] => none
  | n + 1, c :: t =>
    if n + 1 < c.utf8Size then none
    else (takeBytes? (n + 1 - c.utf8Size) t).map (c :: ·)

/-- The text in a range of byte offsets, if the range falls between
characters. -/
def Text.slice? (t : Text) (range : ByteRange) : Option Text :=
  (t.dropBytes? range.start).bind (Text.takeBytes? (range.stop - range.start))

/-- The offsets after each line feed of a text that begins at `offset`. -/
def Text.startsAfter (offset : Nat) : Text → List Nat
  | [] => []
  | c :: t =>
    let next := offset + c.utf8Size
    if c = '\n' then next :: startsAfter next t else startsAfter next t

/-- The offsets at which the lines of a source start.  There is a line after a
final line feed. -/
def SourceFile.lineStarts (file : SourceFile) : List Nat :=
  0 :: Text.startsAfter 0 file.contents

/-- The lines of a list of texts that begin at line `n` of a file. -/
def Line.number (file n : Nat) : List Text → List Line
  | [] => []
  | t :: ts => ⟨⟨file, n⟩, t, []⟩ :: number file (n + 1) ts

@[simp] theorem Line.length_number (file n : Nat) (ts : List Text) :
    (number file n ts).length = ts.length := by
  induction ts generalizing n with
  | nil => rfl
  | cons t ts ih => simp [number, ih]

@[simp] theorem Line.map_text_number (file n : Nat) (ts : List Text) :
    (number file n ts).map (·.text) = ts := by
  induction ts generalizing n with
  | nil => rfl
  | cons t ts ih => simp [number, ih]

/-- The lines are numbered one after the other. -/
theorem Line.getElem?_number (file n i : Nat) (ts : List Text) :
    (number file n ts)[i]? = ts[i]?.map fun t => ⟨⟨file, n + i⟩, t, []⟩ := by
  induction ts generalizing n i with
  | nil => rfl
  | cons t ts ih =>
    cases i with
    | zero => rfl
    | succ i => simp [number, ih, Nat.add_assoc, Nat.add_comm 1]

namespace Sources

/-- No source. -/
def empty : Sources := ⟨[]⟩

/-! ### Loading -/

/-- The number of the first source with an equal path. -/
def find? (sources : Sources) (path : Path) : Option Nat :=
  sources.files.findIdx? fun file => file.path.agrees path

/-- The sources with one more at the end. -/
def push (sources : Sources) (file : SourceFile) : Sources :=
  ⟨sources.files ++ [file]⟩

/-- Adds a source under a name, which is its path too.  Gives its number. -/
def add (sources : Sources) (name contents : Text) : Nat × Sources :=
  (sources.files.length, sources.push ⟨name, ⟨name⟩, contents⟩)

/-- Loads the file that a path leads to.  A source with an equal path is not
read again.  Gives the number of the source. -/
def load (sources : Sources) (tree : FileTree) (path : Path) :
    Except AccessError (Nat × Sources) :=
  match sources.find? path with
  | some id => .ok (id, sources)
  | none =>
    match tree.read path with
    | .error e => .error e
    | .ok contents =>
      .ok (sources.files.length, sources.push ⟨path.text, path, contents⟩)

/-! ### Contents -/

/-- The name of a source. -/
def name? (sources : Sources) (id : Nat) : Option Text :=
  sources.files[id]?.map (·.name)

/-- The text of a source. -/
def contents? (sources : Sources) (id : Nat) : Option Text :=
  sources.files[id]?.map (·.contents)

/-- The lines of a source, numbered from 1, and none for a source that is not
there. -/
def lines (sources : Sources) (id : Nat) : List Line :=
  match sources.contents? id with
  | some contents => Line.number id 1 contents.fullLines
  | none => []

/-- A new source has its text. -/
theorem contents?_push (sources : Sources) (file : SourceFile) :
    (sources.push file).contents? sources.files.length = some file.contents := by
  simp [contents?, push]

/-- The sources that were there keep their texts. -/
theorem contents?_push_of_lt (sources : Sources) (file : SourceFile) {id : Nat}
    (h : id < sources.files.length) :
    (sources.push file).contents? id = sources.contents? id := by
  simp [contents?, push, List.getElem?_append_left h]

/-- The lines of a source, one after the other, are its text. -/
theorem flatMap_text_lines {sources : Sources} {id : Nat} {contents : Text}
    (h : sources.contents? id = some contents) :
    (sources.lines id).flatMap (·.text) = contents := by
  simp [lines, h, List.flatMap_def]

/-! ### The table of lines -/

/-- The byte range of a line with its end, lines counting from 0. -/
def lineRange? (sources : Sources) (id index : Nat) : Option ByteRange := do
  let file ← sources.files[id]?
  let start ← file.lineStarts[index]?
  return ⟨start, file.lineStarts[index + 1]?.getD file.contents.utf8Length⟩

/-- The last line that starts at a byte offset or before it, lines counting
from 0. -/
def lineIndex? (sources : Sources) (id offset : Nat) : Option Nat :=
  sources.files[id]?.map fun file =>
    (file.lineStarts.takeWhile (· ≤ offset)).length - 1

/-! ### Origins -/

/-- An origin in words, `name:line`. -/
def describe (sources : Sources) (origin : Origin) : Text :=
  (sources.name? origin.file).getD "<unknown>".toList ++ ':' :: Text.ofNat origin.line

/-- The byte range of the line at an origin, without its end. -/
def span? (sources : Sources) (origin : Origin) : Option ByteRange :=
  match origin.line with
  | 0 => none
  | index + 1 => do
    let contents ← sources.contents? origin.file
    let range ← sources.lineRange? origin.file index
    let text ← contents.slice? range
    return ⟨range.start, range.start + text.chomp.utf8Length⟩

end Sources

end TweeStory
