/-
Where a story starts, and what is said about its start and its IFID.

* `Diagnostics.named`: the warnings with a name;
* `Story.IsRead.get?_eq_some_iff`, `startPid?_eq_some_iff`: the start of a story that was read is
  the element with the name of its start passage;
* `mem_of_bestMatch?`: a suggestion is one of the names that it is chosen from;
* `isAboutFile_loadStory`: the warnings of an expansion are about files;
* `Story.StartsAt`, `Story.LacksStart`: a story whose document and warnings go with its start
  passage, and one without a start passage;
* `Story.start_compile`: every story that is compiled is one of them, and its IFID is a
  generated one if no line of it sets another.
-/
import TweeStory.Proofs.Story.Decoding
import TweeStory.Proofs.Story.Provenance
import TweeStory.Proofs.Story.Settings

namespace TweeStory

/-! ### Warnings by name -/

/-- The warnings with a name, in order. -/
def Diagnostics.named (warnings : Diagnostics) (name : Text) : Diagnostics :=
  warnings.filter fun w => w.name = name

namespace Diagnostics

variable {warnings warnings' : Diagnostics} {name : Text}

lemma named_append :
    named (warnings ++ warnings') name = warnings.named name ++ warnings'.named name :=
  List.filter_append _ _

lemma named_eq_nil (h : ∀ w ∈ warnings, w.name ≠ name) : warnings.named name = [] :=
  List.filter_eq_nil_iff.mpr fun w hw => by simpa using h w hw

end Diagnostics

/-- Whether the warning is about a file that was asked for. -/
def Warning.IsAboutFile (w : Warning) : Prop :=
  w.name = "MissingInclude".toList ∨ w.name = "IncludeCycle".toList

variable {tree : FileTree} {base : Path}

/-- The rules warn about files only. -/
lemma Yields.isAboutFile {chain : List Nat} {line : Line} {s t : Progress}
    {left nested : List Line} (h : Yields tree base chain line s left nested t)
    (hs : ∀ w ∈ s.warnings, w.IsAboutFile) : ∀ w ∈ t.warnings, w.IsAboutFile := by
  have hwarn : ∀ kind : WarningKind, Warning.IsAboutFile ⟨kind, some line.origin, none⟩ →
      ∀ w ∈ (s.warn kind line).warnings, w.IsAboutFile := fun kind hkind =>
    List.forall_mem_append.mpr ⟨hs, List.forall_mem_singleton.mpr hkind⟩
  cases h with
  | cycle => exact hwarn _ (Or.inr rfl)
  | missing | missingEntry => exact hwarn _ (Or.inl rfl)
  | directive | header | entry | body => exact hs

namespace Scan

/-- The warnings of a scan are about files at every moment. -/
lemma isAboutFile_run {s : Scan} (hstems : s.Stems) (h : ∀ w ∈ s.warnings, w.IsAboutFile)
    (n : Nat) : ∀ w ∈ (run tree base n s).warnings, w.IsAboutFile := by
  refine (run_induction (P := fun s => s.Stems ∧ ∀ w ∈ s.warnings, w.IsAboutFile) ?_ n
    ⟨hstems, h⟩).2
  rintro s s' ⟨hstems, h⟩ hstep
  obtain ⟨line, rest, left, nested, t, -, -, hyields, rfl⟩ := hstems.exists_yields hstep
  exact ⟨hstems.step hstep, hyields.isAboutFile h⟩

end Scan

/-- The warnings of an expansion are about files. -/
lemma isAboutFile_loadStory {path : Path} {expansion : Expansion}
    (h : loadStory tree path = .ok expansion) : ∀ w ∈ expansion.warnings, w.IsAboutFile := by
  rw [loadStory] at h
  cases hload : Sources.empty.load tree path with
  | error e =>
      rw [hload] at h
      cases h
  | ok result =>
      obtain ⟨root, sources⟩ := result
      rw [hload] at h
      obtain rfl := Except.ok.inj h
      simp only [Scan.resolveIncludes_eq_finish]
      exact Scan.isAboutFile_run (Scan.stems_start sources root) (fun w hw => by cases hw) _

/-! ### Suggestions -/

/-- A suggestion is one of the names that it is chosen from. -/
lemma mem_of_bestMatch? {name s : Text} {candidates : List Text}
    (h : bestMatch? name candidates = some s) : s ∈ candidates := by
  obtain ⟨entry, hentry, rfl⟩ := List.mem_map.mp (List.mem_of_getLast? h)
  have hclose := List.mem_of_mem_filter (List.mem_mergeSort.mp hentry)
  obtain ⟨candidate, hcandidate, rfl⟩ := List.mem_map.mp hclose
  exact hcandidate

/-! ### Stories that were read -/

namespace Story

variable {story : Story} {p : Passage} {name : Text} {n : Nat}

/-- The passages of a story that was read are found under their names. -/
lemma IsRead.get?_eq_some_iff (h : story.IsRead) :
    story.passages.get? name = some p ↔ p ∈ story.passages.records ∧ p.name = name := by
  obtain ⟨sources, registry, settings, lines, hstory⟩ := h
  obtain ⟨s, records, hsorted, heq, -⟩ := exists_sorted hstory
  have htells := (PassageMap.tells_ofLines sources lines).1
  have hindex : story.passages.index = (PassageMap.ofLines sources lines).1.index := by
    rw [heq]
    rfl
  have hnames : story.passages.names = (PassageMap.ofLines sources lines).1.names := by
    have hunsorted := Passage.map_unsorted_numbered 0 (prepared sources registry lines).records
    rw [← (Sorting.gives_sort hsorted).records] at hunsorted
    have hmap := congrArg (List.map (·.name)) hunsorted
    rw [List.map_map, List.map_map] at hmap
    rw [heq]
    exact hmap.trans (Registry.names_run registry _)
  refine (htells.isIndexed.of_index hindex hnames).get?_eq_some_iff ?_
  rw [hnames, ← htells.keys_eq, PassageMap.keys, PassageMap.keys, hindex]

/-- A passage of a story that was read has a number if it is an element, and else none. -/
lemma IsRead.pid_eq (h : story.IsRead) (hp : p ∈ story.passages.records) :
    (p.excluded = true ∧ p.pid = none) ∨ (p.excluded = false ∧ ∃ n, p.pid = some n) := by
  obtain ⟨sources, registry, settings, lines, hstory⟩ := h
  obtain ⟨s, records, hsorted, rfl, -⟩ := exists_sorted hstory
  obtain rfl := (Sorting.gives_sort hsorted).records
  exact (Passage.isSpecial_of_mem_numbered (fun p hp => unsorted_of_mem_prepared hp) hp).2

lemma IsRead.mem_elements_of_pid (h : story.IsRead) (hp : p ∈ story.passages.records)
    (hpid : p.pid = some n) : p ∈ story.elements := by
  obtain ⟨-, hnone⟩ | ⟨hexcluded, -⟩ := h.pid_eq hp
  · rw [hpid] at hnone
    cases hnone
  · exact mem_elements_iff.mpr ⟨hp, hexcluded⟩

lemma IsRead.exists_pid (h : story.IsRead) (hp : p ∈ story.elements) : ∃ n, p.pid = some n := by
  obtain ⟨hrecord, hexcluded⟩ := mem_elements_iff.mp hp
  obtain ⟨htrue, -⟩ | ⟨-, hpid⟩ := h.pid_eq hrecord
  · rw [hexcluded] at htrue
    cases htrue
  · exact hpid

/-- A story starts at the element with the name of its start passage. -/
lemma IsRead.startPid?_eq_some_iff (h : story.IsRead) :
    story.startPid? = some n ↔
      ∃ p ∈ story.elements, p.name = story.startPassage ∧ p.pid = some n := by
  rw [startPid?, Option.bind_eq_some_iff]
  refine exists_congr fun p => ?_
  rw [h.get?_eq_some_iff]
  constructor
  · rintro ⟨⟨hp, hname⟩, hpid⟩
    exact ⟨h.mem_elements_of_pid hp hpid, hname, hpid⟩
  · rintro ⟨hp, hname, hpid⟩
    exact ⟨⟨(mem_elements_iff.mp hp).1, hname⟩, hpid⟩

lemma IsRead.startPid?_eq_none_iff (h : story.IsRead) :
    story.startPid? = none ↔ ∀ p ∈ story.elements, p.name ≠ story.startPassage := by
  rw [Option.eq_none_iff_forall_ne_some]
  constructor
  · intro hnone p hp hname
    obtain ⟨n, hpid⟩ := h.exists_pid hp
    exact hnone n (h.startPid?_eq_some_iff.mpr ⟨p, hp, hname, hpid⟩)
  · intro hnone n hsome
    obtain ⟨p, hp, hname, -⟩ := h.startPid?_eq_some_iff.mp hsome
    exact hnone p hp hname

/-! ### The start of a story -/

/-- The story starts at the passage: an element with the name that the settings give, whose
number is the start in the document, and there is no warning about it. -/
structure StartsAt (story : Story) (settings : BuildSettings) (warnings : Diagnostics)
    (p : Passage) : Prop where
  element : p ∈ story.elements
  name : p.name = settings.startPassage
  /-- The document says that the story starts at its element for the passage. -/
  document : ∃ data, StoryData.decode? (story.document settings) = some data ∧
    p.pid = some data.startPid ∧ p.data ∈ data.passages
  silent : warnings.named "MissingStartPassage".toList = []

/-- The story has no element with the name that the settings give: the start in the document
is 1, and there is one warning about it. -/
structure LacksStart (story : Story) (settings : BuildSettings) (warnings : Diagnostics) :
    Prop where
  name : ∀ p ∈ story.elements, p.name ≠ settings.startPassage
  document : ∃ data, StoryData.decode? (story.document settings) = some data ∧ data.startPid = 1
  /-- The warning is about the special passage with the name, if there is one, and suggests
  the name of an element, if any. -/
  warning : ∃ suggestion context, warnings.named "MissingStartPassage".toList =
      [⟨.missingStartPassage settings.startPassage suggestion, context, none⟩] ∧
    (∀ name ∈ suggestion, ∃ p ∈ story.elements, p.name = name ∧ name ≠ settings.startPassage) ∧
    ∀ origin, context = some origin ↔ ∃ p ∈ story.passages.records,
      p.name = settings.startPassage ∧ p.excluded ∧ p.origin = origin

variable {settings : BuildSettings} {warnings : Diagnostics}

/-- A story that was read starts at an element, or it lacks a start and is warned about it. -/
lemma IsRead.startsAt_or_lacksStart (h : story.IsRead)
    (hstart : story.startPassage = settings.startPassage)
    (hwarnings : warnings.named "MissingStartPassage".toList = story.startWarning) :
    (∃ p, story.StartsAt settings warnings p) ∨ story.LacksStart settings warnings := by
  have hdecode := h.decode?_document settings
  rw [startWarning] at hwarnings
  cases hpid : story.startPid? with
  | some n =>
      obtain ⟨p, hp, hname, hn⟩ := h.startPid?_eq_some_iff.mp hpid
      have hnode : p.pid = some story.startPid := by rw [hn, startPid, hpid, Option.getD_some]
      rw [hpid] at hwarnings
      exact Or.inl ⟨p,
        { element := hp
          name := hname.trans hstart
          document := ⟨_, hdecode, hnode, List.mem_map_of_mem hp⟩
          silent := hwarnings }⟩
  | none =>
      have hnone := h.startPid?_eq_none_iff.mp hpid
      have hnode : story.startPid = 1 := by rw [startPid, hpid, Option.getD_none]
      rw [hpid] at hwarnings
      rw [hstart] at hnone hwarnings
      refine Or.inr ⟨hnone, ⟨_, hdecode, hnode⟩, _, _, hwarnings, fun name hsuggestion => ?_,
        fun origin => ?_⟩
      · obtain ⟨p, hp, rfl⟩ := List.mem_map.mp (mem_of_bestMatch? hsuggestion)
        exact ⟨p, hp, rfl, hnone p hp⟩
      · rw [Option.map_eq_some_iff]
        refine exists_congr fun p => ?_
        rw [h.get?_eq_some_iff]
        constructor
        · rintro ⟨⟨hp, hname⟩, horigin⟩
          refine ⟨hp, hname, ?_, horigin⟩
          by_contra hexcluded
          exact hnone p (mem_elements_iff.mpr ⟨hp, Bool.not_eq_true _ ▸ hexcluded⟩) hname
        · rintro ⟨hp, hname, -, horigin⟩
          exact ⟨⟨hp, hname⟩, horigin⟩

/-! ### Compiles -/

variable {registry : Registry} {path : Path}

/-- A story that is compiled is read from the lines of an expansion. -/
lemma exists_expansion (h : (compile tree registry settings path).story = .ok story) :
    ∃ expansion, loadStory tree path = .ok expansion ∧
      (ofLines expansion.sources registry settings expansion.lines).story = .ok story ∧
      compile tree registry settings path =
        let outcome := ofLines expansion.sources registry settings expansion.lines
        ⟨{ outcome with warnings := expansion.warnings ++ outcome.warnings },
          expansion.sources⟩ := by
  cases hload : loadStory tree path with
  | error e =>
      rw [compile, hload] at h
      cases h
  | ok expansion =>
      have heq := compile_of_loadStory hload registry settings
      rw [heq] at h
      exact ⟨expansion, rfl, h, heq⟩

/-- The warnings about the start and the IFID of a story are those of its reading: the
expansion warns about files, and the blocks about names used again. -/
lemma named_compile (h : (compile tree registry settings path).story = .ok story) :
    let c := compile tree registry settings path
    c.warnings.named "MissingStartPassage".toList = story.startWarning ∧
      c.warnings.named "MissingIfid".toList = ifidNotice c.settings := by
  obtain ⟨expansion, hload, hstory, heq⟩ := exists_expansion h
  obtain ⟨s, records, hsorted, hrecords, -⟩ := exists_sorted hstory
  rw [ofLines_of_ok hsorted, ← hrecords] at heq
  rw [heq]
  have hfiles : ∀ name, name ≠ "MissingInclude".toList → name ≠ "IncludeCycle".toList →
      expansion.warnings.named name = [] := fun name hmissing hcycle =>
    Diagnostics.named_eq_nil fun w hw hname => by
      rcases isAboutFile_loadStory hload w hw with hw | hw
      · exact hmissing (hname.symm.trans hw)
      · exact hcycle (hname.symm.trans hw)
  have hnames : ∀ name, name ≠ "DuplicatePassage".toList →
      Diagnostics.named (PassageMap.ofLines expansion.sources expansion.lines).2 name = [] :=
    fun name hduplicate => Diagnostics.named_eq_nil fun w hw hname => by
      rw [(PassageMap.tells_ofLines expansion.sources expansion.lines).2] at hw
      exact hduplicate (hname.symm.trans (Block.name_of_mem_duplicates hw))
  have hstart : story.startWarning.named "MissingStartPassage".toList = story.startWarning ∧
      story.startWarning.named "MissingIfid".toList = [] := by
    rw [startWarning]
    cases story.startPid? <;> exact ⟨rfl, rfl⟩
  have hifid : (ifidNotice s.settings).named "MissingStartPassage".toList = [] ∧
      (ifidNotice s.settings).named "MissingIfid".toList = ifidNotice s.settings := by
    rw [ifidNotice]
    cases s.settings.ifidSpecified <;> exact ⟨rfl, rfl⟩
  simp only [Diagnostics.named_append]
  rw [hfiles _ (by decide) (by decide), hnames _ (by decide), hstart.1, hifid.1,
    hfiles _ (by decide) (by decide), hnames _ (by decide), hstart.2, hifid.2]
  simp

/-- Marks and numbers do not matter to where the IFID is set. -/
lemma exists_setsIfid_numbered_iff (n : Nat) (ps : List Passage) :
    (∃ p ∈ Passage.numbered n ps, p.SetsIfid) ↔ ∃ p ∈ ps, p.SetsIfid := by
  have hunsorted : ∀ ps : List Passage, (∃ p ∈ ps, p.SetsIfid) ↔
      ∃ q ∈ ps.map Passage.unsorted, q.SetsIfid := fun ps => by
    simp only [List.mem_map, exists_exists_and_eq_and]
    rfl
  rw [hunsorted, Passage.map_unsorted_numbered, ← hunsorted]

/-- The IFID of a compile counts as set if it did before or a passage sets it. -/
lemma ifidSpecified_compile (h : (compile tree registry settings path).story = .ok story) :
    (compile tree registry settings path).settings.ifidSpecified ↔
      settings.ifidSpecified ∨ ∃ p ∈ story.passages.records, p.SetsIfid := by
  obtain ⟨expansion, -, hstory, heq⟩ := exists_expansion h
  obtain ⟨s, records, hsorted, rfl, hsettings⟩ := exists_sorted hstory
  obtain rfl := (Sorting.gives_sort hsorted).records
  rw [heq]
  simp only [hsettings, Sorting.settings_of_sort hsorted,
    Passage.ifidSpecified_foldl_configured_iff, exists_setsIfid_numbered_iff]

/-- The start passage of a story is that of its settings, wherever they are changed. -/
lemma startPassage_compile (h : (compile tree registry settings path).story = .ok story) :
    story.startPassage = (compile tree registry settings path).settings.startPassage := by
  obtain ⟨expansion, -, hstory, heq⟩ := exists_expansion h
  obtain ⟨s, records, -, rfl, hsettings⟩ := exists_sorted hstory
  rw [heq]
  simp only [hsettings]

/-- **The start of a story.**  A story that is compiled starts at an element or lacks a start,
and the document and the warnings agree on it.  There is a notice about the IFID exactly if
neither the given settings nor a line of the story sets it. -/
theorem start_compile (h : (compile tree registry settings path).story = .ok story) :
    let c := compile tree registry settings path
    Xor (∃ p, story.StartsAt c.settings c.warnings p)
        (story.LacksStart c.settings c.warnings) ∧
      c.warnings.named "MissingIfid".toList =
        (if c.settings.ifidSpecified then [] else [⟨.missingIfid c.settings.ifid, none, none⟩]) ∧
      (c.settings.ifidSpecified ↔
        settings.ifidSpecified ∨ ∃ p ∈ story.passages.records, p.SetsIfid) := by
  intro c
  obtain ⟨hnamed, hnotice⟩ := named_compile h
  refine ⟨?_, hnotice, ifidSpecified_compile h⟩
  rcases (isRead_compile h).startsAt_or_lacksStart (startPassage_compile h) hnamed with
    hstarts | hlacks
  · refine Or.inl ⟨hstarts, fun hlacks => ?_⟩
    obtain ⟨p, hp⟩ := hstarts
    exact hlacks.name p hp.element hp.name
  · refine Or.inr ⟨hlacks, ?_⟩
    rintro ⟨p, hp⟩
    exact hlacks.name p hp.element hp.name

/-- A story whose settings name its start, after it and an excluded passage of the usual
name. -/
def harbourTree : FileTree where
  entries :=
    [(["story.tw".toList], .text ([":: Start [script]\n", "x()\n", ":: Dock\n", "Ropes\n",
      ":: Settings [twee2]\n", "start = Dock\n", "ifid = 1f\n"].map String.toList).flatten)]
  here := []

theorem start_compile_harbourTree :
    let c := compile harbourTree .empty (.initial []) (.ofString "story.tw")
    ∃ story, c.story = .ok story ∧
      Xor (∃ p, story.StartsAt c.settings c.warnings p)
        (story.LacksStart c.settings c.warnings) ∧
      c.warnings.named "MissingIfid".toList =
        (if c.settings.ifidSpecified then [] else [⟨.missingIfid c.settings.ifid, none, none⟩]) ∧
      (c.settings.ifidSpecified ↔
        (BuildSettings.initial []).ifidSpecified ∨
          ∃ p ∈ story.passages.records, p.SetsIfid) := by
  intro c
  obtain ⟨story, hstory⟩ : ∃ story, c.story = .ok story :=
    exists_story_of_isOk (by decide)
  exact ⟨story, hstory, start_compile hstory⟩

end Story

end TweeStory
