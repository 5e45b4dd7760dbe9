/-
What a compile says about lines of source is about lines that are there.

* `Compilation.IsTraced`: the origins that a compile gives are lines of its sources,
  and their spans hold those lines;
* `Issue.HasLabels`: a report marks every line that its problem is about;
* `isTraced_compile`: every compile of a root file that can be read is traced.
-/
import TweeStory.Proofs.Include.Termination
import TweeStory.Proofs.Story.Origins
import TweeStory.Report.Issue

namespace TweeStory

open Text

/-- The report of the problem has one label for every line that the problem is about,
with the file and the span of that line. -/
def Issue.HasLabels (sources : Sources) (issue : Issue) : Prop :=
  (issue.report sources).labels.map (fun label => (label.file, some label.range)) =
    (issue.context.toList ++ issue.referent.toList).map fun o => (o.file, sources.span? o)

/-- The problems of a compile that a policy leaves, those of the links among them. -/
def Compilation.issues (c : Compilation) (policy : Policy) : List Issue :=
  match c.story with
  | .ok story => policy.judge none (c.warnings ++ story.checkLinks.2)
  | .error e => policy.judge (some e) c.warnings

/-- Everything that a compile says about lines of source is about lines of its sources,
`lines` being the lines that the story is read from. -/
structure Compilation.IsTraced (c : Compilation) (lines : List Line) : Prop where
  /-- A line is white space and then the line of a loaded source that is its origin,
  lines counting from 1. -/
  lines_eq : ∀ line ∈ lines, ∃ contents space text,
    c.sources.contents? line.origin.file = some contents ∧
      1 ≤ line.origin.line ∧ line.origin.line ≤ contents.fullLines.length ∧
      contents.fullLines[line.origin.line - 1]? = some text ∧
      IsSpace space ∧ line.text = space ++ text
  passages : ∀ story, c.story = .ok story → ∀ p ∈ story.passages.records,
    c.sources.Shows p.origin ∧ ∀ line ∈ p.lines, c.sources.Shows line.origin
  links : ∀ story, c.story = .ok story → ∀ link ∈ story.checkLinks.1,
    c.sources.Shows link.origin
  linkWarnings : ∀ story, c.story = .ok story → ∀ w ∈ story.checkLinks.2,
    w.AllOrigins c.sources.Shows
  warnings : ∀ w ∈ c.warnings, w.AllOrigins c.sources.Shows
  error : ∀ e, c.story = .error e → ∀ o ∈ e.origin?, c.sources.Shows o
  labels : ∀ policy, ∀ issue ∈ c.issues policy, issue.HasLabels c.sources

variable {sources : Sources}

/-! ### Labels -/

/-- A problem about lines of sources has its labels. -/
lemma Issue.hasLabels {issue : Issue} (hcontext : ∀ o ∈ issue.context, sources.Shows o)
    (hreferent : ∀ o ∈ issue.referent, sources.Shows o) : issue.HasLabels sources := by
  have hlabel : ∀ (primary : Bool) (message : Text) (origin : Option Origin),
      (∀ o ∈ origin, sources.Shows o) →
      (label? sources primary message origin).toList.map
          (fun label => (label.file, some label.range)) =
        origin.toList.map fun o => (o.file, sources.span? o) := by
    intro primary message origin h
    cases origin with
    | none => rfl
    | some o =>
        obtain ⟨contents, text, range, -, -, -, hspan, -⟩ := h o rfl
        simp [label?, hspan]
  rw [HasLabels, report, List.map_append, List.map_append, hlabel true _ _ hcontext,
    hlabel false _ _ hreferent]

lemma Warning.AllOrigins.mono {P Q : Origin → Prop} {w : Warning} (h : w.AllOrigins P)
    (hpq : ∀ o, P o → Q o) : w.AllOrigins Q :=
  ⟨fun o ho => hpq o (h.1 o ho), fun o ho => hpq o (h.2 o ho)⟩

/-- The problems that a policy leaves are the error and warnings that it is given. -/
lemma Policy.hasLabels_judge (policy : Policy) {error : Option CompileError}
    {warnings : Diagnostics} (herror : ∀ e ∈ error, ∀ o ∈ e.origin?, sources.Shows o)
    (hwarnings : ∀ w ∈ warnings, w.AllOrigins sources.Shows) :
    ∀ issue ∈ policy.judge error warnings, issue.HasLabels sources := by
  intro issue hissue
  rw [judge, List.mem_mergeSort, List.mem_append] at hissue
  rcases hissue with hissue | hissue
  · obtain ⟨w, hw, hjudge⟩ := List.mem_filterMap.mp hissue
    rw [judgeWarning] at hjudge
    split at hjudge
    · cases hjudge
    · cases hjudge
      exact Issue.hasLabels (hwarnings w hw).1 (hwarnings w hw).2
  · obtain ⟨e, he, rfl⟩ := Option.map_eq_some_iff.mp (Option.mem_toList.mp hissue)
    exact Issue.hasLabels (herror e he) fun o ho => (by cases ho)

/-- The problems of a compile have their labels if its error and warnings and those
about its links are about lines of its sources. -/
lemma Compilation.hasLabels_issues (c : Compilation)
    (herror : ∀ e, c.story = .error e → ∀ o ∈ e.origin?, c.sources.Shows o)
    (hwarnings : ∀ w ∈ c.warnings, w.AllOrigins c.sources.Shows)
    (hlinks : ∀ story, c.story = .ok story → ∀ w ∈ story.checkLinks.2,
      w.AllOrigins c.sources.Shows) (policy : Policy) :
    ∀ issue ∈ c.issues policy, issue.HasLabels c.sources := by
  rw [issues]
  cases hstory : c.story with
  | error e =>
      exact policy.hasLabels_judge (fun e' he' => Option.some.inj he' ▸ herror e hstory) hwarnings
  | ok story =>
      refine policy.hasLabels_judge (fun e he => (by cases he)) fun w hw => ?_
      rcases List.mem_append.mp hw with hw | hw
      · exact hwarnings w hw
      · exact hlinks story hstory w hw

/-! ### Compiles -/

/-- The lines and the warnings of an expansion are about lines of its sources. -/
lemma resolveIncludes_has (tree : FileTree) (base : Path) (sources : Sources) (root : Nat) :
    let e := resolveIncludes tree base sources (sources.lines root)
    (∀ line ∈ e.lines, line.StemsFrom e.sources) ∧
      ∀ w ∈ e.warnings, w.AllOrigins e.sources.Has := by
  rw [Scan.resolveIncludes_eq_finish]
  have hstems := Scan.stems_start sources root
  have hwarnings : ∀ w ∈ (Scan.start sources root).warnings, w.AllOrigins sources.Has :=
    fun w hw => (by cases hw)
  refine ⟨fun line hline => ?_, Scan.allOrigins_run hstems hwarnings _⟩
  refine Scan.stems_run hstems _ line ?_
  exact List.mem_append_left _ (List.mem_reverse.mp hline)

/-- A root file that can be read is loaded, and its lines are expanded. -/
lemma exists_loadStory {tree : FileTree} {path : Path} {contents : Text}
    (hread : tree.read path = .ok contents) :
    ∃ base root sources, loadStory tree path =
      .ok (resolveIncludes tree base sources (Sources.lines sources root)) := by
  have hlacks : Sources.empty.Lacks path := fun file hfile => (by cases hfile)
  obtain ⟨result, hload⟩ : ∃ result, Sources.empty.load tree path = .ok result :=
    ⟨_, Sources.load_eq_ok_iff.mpr (.fresh hlacks hread)⟩
  refine ⟨path.parent?.getD ⟨[]⟩, result.1, result.2, ?_⟩
  rw [loadStory, hload]
  rfl

lemma compile_of_loadStory {tree : FileTree} {path : Path} {expansion : Expansion}
    (h : loadStory tree path = .ok expansion) (registry : Registry) (settings : BuildSettings) :
    let outcome := Story.ofLines expansion.sources registry settings expansion.lines
    compile tree registry settings path =
      ⟨{ outcome with warnings := expansion.warnings ++ outcome.warnings }, expansion.sources⟩ := by
  rw [compile, h]

/-- **Provenance.**  A root file that can be read has an expansion, and whatever the
compile says about lines of source, it says about lines of loaded sources, and the
spans of their origins hold them. -/
theorem isTraced_compile (tree : FileTree) (registry : Registry) (settings : BuildSettings)
    (path : Path) {contents : Text} (hread : tree.read path = .ok contents) :
    ∃ expansion, loadStory tree path = .ok expansion ∧
      (compile tree registry settings path).IsTraced expansion.lines := by
  obtain ⟨base, root, sources, hload⟩ := exists_loadStory hread
  obtain ⟨hstems, hexpanded⟩ := resolveIncludes_has tree base sources root
  refine ⟨_, hload, ?_⟩
  rw [compile_of_loadStory hload]
  generalize resolveIncludes tree base sources (sources.lines root) = expansion at *
  obtain ⟨hok, herror, hwarnings⟩ := @Story.allOrigins_ofLines expansion.sources.Shows
    expansion.sources registry settings expansion.lines
    fun line hline => (hstems line hline).has.shows
  have hall : ∀ w ∈ expansion.warnings ++
      (Story.ofLines expansion.sources registry settings expansion.lines).warnings,
      w.AllOrigins expansion.sources.Shows := by
    intro w hw
    rcases List.mem_append.mp hw with hw | hw
    · exact (hexpanded w hw).mono fun _ => Sources.Has.shows
    · exact hwarnings w hw
  have hlinks := fun story hstory => Story.allOrigins_checkLinks (hok story hstory)
  exact
    { lines_eq := fun line hline => (hstems line hline).exists_space
      passages := hok
      links := fun story hstory => (hlinks story hstory).1
      linkWarnings := fun story hstory => (hlinks story hstory).2
      warnings := hall
      error := herror
      labels := Compilation.hasLabels_issues _ herror hall
        fun story hstory => (hlinks story hstory).2 }

/-- A story with a passage whose body stands in another file. -/
def chapterTree : FileTree where
  entries :=
    [(["story.tw".toList], .text ":: Start\n  ::@include body.tw\n".toList),
      (["body.tw".toList], .text "Go to [[End]]".toList)]
  here := []

theorem isTraced_compile_chapterTree :
    ∃ expansion, loadStory chapterTree (.ofString "story.tw") = .ok expansion ∧
      (compile chapterTree .empty (.initial [])
        (.ofString "story.tw")).IsTraced expansion.lines :=
  isTraced_compile chapterTree .empty (.initial []) (.ofString "story.tw")
    (show chapterTree.read (.ofString "story.tw") =
      .ok ":: Start\n  ::@include body.tw\n".toList by decide)

end TweeStory
