/-
The lines of a story with the lines of the files that they ask for in place.

* `Scan`: the state of the scan over the lines;
* `Scan.step?`: looks at the next line; `Scan.run`: looks at all of them;
* `Scan.fuel`: a number of steps that a scan does not exceed;
* `resolveIncludes`, `loadStory`: the scan over given lines, and over the lines of
  the root file of a story.

There are two ways to ask for a file.  A directive is replaced by the lines of its
file, and the scan goes on at the first of them, so that directives in the file are
followed in their turn.  A line with a path in the passage `StoryIncludes` is
replaced too, and the scan goes on after the lines that take its place, so that
they are left as they are.
-/
import TweeStory.Include.Directive
import TweeStory.Passage.Header
import TweeStory.Source.Library
import TweeStory.Warning

namespace TweeStory

/-- The name of the passage that lists files. -/
def storyIncludes : Text := "StoryIncludes".toList

/-- The state of the scan over the lines of a story. -/
structure Scan where
  /-- The lines that the scan has left behind, the latest first. -/
  done : List Line
  /-- The lines that the scan has before it. -/
  pending : List Line
  /-- Whether the scan is in the passage that lists files. -/
  inSection : Bool
  sources : Sources
  warnings : Diagnostics
deriving Repr

namespace Scan

/-! ### One line -/

/-- The lines of the file at `path`, on behalf of the line that asks for them, and
the sources with that file among them. -/
def fetch (tree : FileTree) (sources : Sources) (asking : Line) (path : Path) :
    Except AccessError (List Line × Sources) :=
  (sources.load tree path).map fun (id, sources) =>
    ((sources.lines id).map fun line => { line with ancestry := asking.chain }, sources)

/-- Whether the file at `path` is one that the line stands in. -/
def isCycle (sources : Sources) (asking : Line) (path : Path) : Bool :=
  match sources.find? path with
  | some id => asking.chain.contains id
  | none => false

/-- A line with white space before it. -/
def indent (space : Text) (line : Line) : Line :=
  { line with text := space ++ line.text }

/-- Replaces the directive on the next line by the lines of its file.  A file that
the line stands in, or that cannot be read, gives a warning and no lines. -/
def followDirective (tree : FileTree) (base : Path) (s : Scan) (line : Line)
    (rest : List Line) (directive : IncludeDirective) : Scan :=
  let path := base.join directive.target
  if isCycle s.sources line path then
    { s with
      pending := rest
      warnings := s.warnings.warn (.includeCycle path.text) (some line.origin) }
  else
    match fetch tree s.sources line path with
    | .ok (lines, sources) =>
      { s with pending := lines.map (indent directive.indent) ++ rest, sources := sources }
    | .error _ =>
      { s with
        pending := rest
        warnings := s.warnings.warn (.missingInclude path.text) (some line.origin) }

/-- Replaces the path on the next line by the lines of its file, and leaves them
behind.  A file that cannot be read gives a warning and no lines. -/
def followEntry (tree : FileTree) (base : Path) (s : Scan) (line : Line)
    (rest : List Line) : Scan :=
  let path := base.join line.text.trim
  match fetch tree s.sources line path with
  | .ok (lines, sources) =>
    { s with done := lines.reverse ++ s.done, pending := rest, sources := sources }
  | .error _ =>
    { s with
      pending := rest
      warnings := s.warnings.warn (.missingInclude path.text) (some line.origin) }

/-- Leaves the next line behind as it is. -/
def keep (s : Scan) (line : Line) (rest : List Line) : Scan :=
  { s with done := line :: s.done, pending := rest }

/-- Looks at the next line.  There is no step without one. -/
def step? (tree : FileTree) (base : Path) (s : Scan) : Option Scan :=
  match s.pending with
  | [] => none
  | line :: rest =>
    match IncludeDirective.parse? line.body with
    | some directive => some (s.followDirective tree base line rest directive)
    | none =>
      match Header.parse? line.text with
      | some header =>
        some { s.keep line rest with inSection := header.name = storyIncludes }
      | none =>
        if s.inSection && !line.text.isAllBlank then some (s.followEntry tree base line rest)
        else some (s.keep line rest)

/-! ### All lines -/

/-- Looks at up to `n` lines. -/
def run (tree : FileTree) (base : Path) : (n : Nat) → Scan → Scan
  | 0, s => s
  | n + 1, s =>
    match s.step? tree base with
    | some s => run tree base n s
    | none => s

/-- A scan with no line before it has ended. -/
theorem run_of_pending_eq_nil (tree : FileTree) (base : Path) (n : Nat) {s : Scan}
    (h : s.pending = []) : run tree base n s = s := by
  cases n with
  | zero => rfl
  | succ n => simp [run, step?, h]

/-- The texts of a file tree. -/
def texts (tree : FileTree) : List Text :=
  tree.entries.filterMap fun entry =>
    match entry.2 with
    | .text contents => some contents
    | _ => none

/-- Whether a line of a text is a directive. -/
def isDirective (line : Text) : Bool :=
  (IncludeDirective.parse? line.chomp).isSome

/-- A number of steps that a scan does not exceed.  The files that a line stands in
are all different, so directives nest no deeper than there are directives, and a
step puts no more lines in the place of a line than a file has. -/
def fuel (tree : FileTree) (s : Scan) : Nat :=
  let files := (texts tree ++ s.sources.files.map (·.contents)).map Text.fullLines
  let lines := s.pending.map (·.text) ++ files.flatten
  let longest := (files.map List.length).foldr max 0
  s.pending.length * Nat.pow (longest + 1) (lines.countP isDirective)

/-- The lines of a scan in order. -/
def result (s : Scan) : List Line :=
  s.done.reverse ++ s.pending

end Scan

/-- The outcome of the scan over the lines of a story. -/
structure Expansion where
  lines : List Line
  sources : Sources
  warnings : Diagnostics
deriving Repr

/-- The given lines with the lines of the files that they ask for in place.  Paths
are read from `base`. -/
def resolveIncludes (tree : FileTree) (base : Path) (sources : Sources) (lines : List Line) :
    Expansion :=
  let start : Scan := ⟨[], lines, false, sources, []⟩
  let s := start.run tree base (start.fuel tree)
  ⟨s.result, s.sources, s.warnings⟩

/-- The lines of the story whose root file is at `path`.  Paths in it are read from
the directory of the root file. -/
def loadStory (tree : FileTree) (path : Path) : Except AccessError Expansion :=
  (Sources.empty.load tree path).map fun (id, sources) =>
    resolveIncludes tree (path.parent?.getD ⟨[]⟩) sources (sources.lines id)

end TweeStory
