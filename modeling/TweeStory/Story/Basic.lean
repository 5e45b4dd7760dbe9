/-
Stories, from the lines of their source.

* `PassageRole`, `Passage.role`: what a passage is for;
* `Story`: the passages of a story, and what the special ones among them say;
* `Sorting.sort`: takes the special passages out and numbers the others;
* `Story.ofLines`: the story of the lines of its source;
* `compile`: the story whose root file is at a path.
-/
import TweeStory.Include.Scan
import TweeStory.Passage.OfLines
import TweeStory.Preprocess
import TweeStory.Settings.Basic
import TweeStory.Story.Error

namespace TweeStory

/-! ### What passages are for -/

/-- What a passage is for. -/
inductive PassageRole where
  /-- Holds the title. -/
  | title
  /-- Listed files, whose lines are in place by now. -/
  | includes
  | stylesheet
  | script
  | settings
  /-- Is shown to the reader, as an element of the document. -/
  | element
deriving DecidableEq, Repr

/-- The name of the passage that holds the title. -/
def storyTitle : Text := "StoryTitle".toList

/-- The tag of stylesheets. -/
def stylesheetTag : Text := "stylesheet".toList

/-- The tag of scripts. -/
def scriptTag : Text := "script".toList

/-- The tag of settings. -/
def settingsTag : Text := "twee2".toList

/-- What a passage is for.  The first reason counts. -/
def Passage.role (p : Passage) : PassageRole :=
  if p.name = storyTitle then .title
  else if p.name = storyIncludes then .includes
  else if p.hasTag stylesheetTag then .stylesheet
  else if p.hasTag scriptTag then .script
  else if p.hasTag settingsTag then .settings
  else .element

/-! ### Sorting passages -/

/-- What the passages sorted so far have given. -/
structure Sorting where
  settings : BuildSettings
  title : Text
  css : Text
  js : Text
  /-- The number of elements. -/
  count : Nat

namespace Sorting

/-- The error of a passage of settings, one line of which cannot be followed. -/
def failure (p : Passage) (fault : Nat × DirectiveError) : CompileError :=
  .directive p.name (p.lines[fault.1]?.map (·.origin)) fault.2

/-- Sorts one passage. -/
def sortOne (s : Sorting) (p : Passage) : Except CompileError (Sorting × Passage) :=
  let special := { p with excluded := true }
  match p.role with
  | .title =>
    .ok ({ s with title := p.content, settings.storyName := p.content }, special)
  | .includes => .ok (s, special)
  | .stylesheet => .ok ({ s with css := s.css ++ p.content ++ ['\n'] }, special)
  | .script => .ok ({ s with js := s.js ++ p.content ++ ['\n'] }, special)
  | .settings =>
    match s.settings.apply p.content with
    | .ok settings => .ok ({ s with settings := settings }, special)
    | .error e => .error (failure p e)
  | .element => .ok ({ s with count := s.count + 1 }, { p with pid := some (s.count + 1) })

/-- Sorts passages in order.  At an error, gives what the passages before have
given. -/
def sort (s : Sorting) : List Passage → Sorting × Except CompileError (List Passage)
  | [] => (s, .ok [])
  | p :: ps =>
    match s.sortOne p with
    | .error e => (s, .error e)
    | .ok (s, p) =>
      let (s, result) := sort s ps
      (s, result.map (p :: ·))

end Sorting

/-! ### Stories -/

/-- A story, its passages sorted. -/
structure Story where
  passages : PassageMap
  /-- The contents of the stylesheets, a line feed after each. -/
  css : Text
  /-- The contents of the scripts, a line feed after each. -/
  js : Text
  title : Text
  startPassage : Text
deriving Repr

namespace Story

/-- The passages that are elements of the document. -/
def elements (story : Story) : List Passage :=
  story.passages.records.filter fun p => !p.excluded

theorem mem_elements_iff {story : Story} {p : Passage} :
    p ∈ story.elements ↔ p ∈ story.passages.records ∧ p.excluded = false := by
  simp [elements]

theorem length_elements (story : Story) :
    story.elements.length = story.passages.records.countP fun p => !p.excluded :=
  List.countP_eq_length_filter.symm

/-- The number of the passage that the story starts at, if it is an element. -/
def startPid? (story : Story) : Option Nat :=
  (story.passages.get? story.startPassage).bind (·.pid)

/-- The number that the document gives for the start.  It is 1 if the start passage
is no element. -/
def startPid (story : Story) : Nat :=
  story.startPid?.getD 1

/-- The warning that the start passage is no element, if it is none. -/
def startWarning (story : Story) : Diagnostics :=
  match story.startPid? with
  | some _ => []
  | none =>
    [⟨.missingStartPassage story.startPassage
        (bestMatch? story.startPassage (story.elements.map (·.name))),
      (story.passages.get? story.startPassage).map (·.origin), none⟩]

/-- The notice that the IFID is a generated one, if it is. -/
def ifidNotice (settings : BuildSettings) : Diagnostics :=
  if settings.ifidSpecified then [] else [⟨.missingIfid settings.ifid, none, none⟩]

end Story

/-- The outcome of a compile: the story or the error that ended it, the settings as
the story left them, and the warnings in order. -/
structure StoryOutcome where
  story : Except CompileError Story
  settings : BuildSettings
  warnings : Diagnostics

/-- The story of the lines of its source. -/
def Story.ofLines (sources : Sources) (registry : Registry) (settings : BuildSettings)
    (lines : List Line) : StoryOutcome :=
  let (passages, warnings) := PassageMap.ofLines sources lines
  let passages := registry.run passages
  match Sorting.sort ⟨settings, [], [], [], 0⟩ passages.records with
  | (s, .error e) => ⟨.error e, s.settings, warnings⟩
  | (s, .ok records) =>
    let story : Story :=
      { passages := { passages with records := records }
        css := s.css
        js := s.js
        title := s.title
        startPassage := s.settings.startPassage }
    ⟨.ok story, s.settings, warnings ++ story.startWarning ++ Story.ifidNotice s.settings⟩

/-- The outcome of the compile of a story, with the sources that were loaded. -/
structure Compilation extends StoryOutcome where
  sources : Sources

/-- The story whose root file is at a path. -/
def compile (tree : FileTree) (registry : Registry) (settings : BuildSettings) (path : Path) :
    Compilation :=
  match loadStory tree path with
  | .error e => ⟨⟨.error (.ofAccess path e), settings, []⟩, .empty⟩
  | .ok expansion =>
    let outcome := Story.ofLines expansion.sources registry settings expansion.lines
    ⟨{ outcome with warnings := expansion.warnings ++ outcome.warnings }, expansion.sources⟩

end TweeStory
