/-
What sorting makes of the passages of a story.

* `Passage.isSpecial`, `Passage.isStylesheet`, `Passage.isScript`: the passages that are
  no elements of the document, and those that make up its stylesheet and its script;
* `Passage.numbered`: the passages with the special ones marked and the others numbered;
* `Sorting.Gives`: what sorting gives, as lists over the passages;
* `Sorting.gives_sort`: sorting gives that;
* `Story.IsSorted`, `Story.isSorted_ofLines`: so every story that is read is sorted.
-/
import TweeStory.Proofs.Passage.Blocks
import TweeStory.Proofs.Preprocess
import TweeStory.Proofs.Story.Origins

namespace TweeStory

/-! ### Kinds of passages -/

namespace Passage

variable {p : Passage}

/-- Whether the passage has one of the two reserved names. -/
def isReserved (p : Passage) : Bool :=
  p.name = "StoryTitle".toList || p.name = "StoryIncludes".toList

/-- Whether the passage is no element of the document. -/
def isSpecial (p : Passage) : Bool :=
  p.isReserved || p.tags.contains "stylesheet".toList || p.tags.contains "script".toList ||
    p.tags.contains "twee2".toList

/-- Whether the passage is part of the stylesheet. -/
def isStylesheet (p : Passage) : Bool :=
  !p.isReserved && p.tags.contains "stylesheet".toList

/-- Whether the passage is part of the script. -/
def isScript (p : Passage) : Bool :=
  !p.isReserved && !p.tags.contains "stylesheet".toList && p.tags.contains "script".toList

/-- A passage is reserved by the names that the first two roles go by. -/
lemma isReserved_eq (p : Passage) :
    p.isReserved = (decide (p.name = storyTitle) || decide (p.name = storyIncludes)) := rfl

lemma name_eq_storyTitle_iff : p.name = storyTitle ↔ p.role = .title := by
  rw [role]
  split_ifs <;> simp_all

lemma isSpecial_eq : p.isSpecial = decide (p.role ≠ .element) := by
  have hspecial : p.isSpecial =
      (p.isReserved || p.hasTag stylesheetTag || p.hasTag scriptTag || p.hasTag settingsTag) := rfl
  rw [hspecial, isReserved_eq, role]
  split_ifs <;> simp_all

lemma isStylesheet_eq : p.isStylesheet = decide (p.role = .stylesheet) := by
  have hstylesheet : p.isStylesheet = (!p.isReserved && p.hasTag stylesheetTag) := rfl
  rw [hstylesheet, isReserved_eq, role]
  split_ifs <;> simp_all

lemma isScript_eq : p.isScript = decide (p.role = .script) := by
  have hscript : p.isScript =
      (!p.isReserved && !p.hasTag stylesheetTag && p.hasTag scriptTag) := rfl
  rw [hscript, isReserved_eq, role]
  split_ifs <;> simp_all

/-- The contents of passages in order, a line feed after each. -/
def sheets (ps : List Passage) : Text :=
  ps.flatMap fun p => p.content ++ ['\n']

lemma sheets_append (ps ps' : List Passage) : sheets (ps ++ ps') = sheets ps ++ sheets ps' := by
  simp [sheets]

/-- The passage without its mark and its number. -/
def unsorted (p : Passage) : Passage :=
  { p with excluded := false, pid := none }

/-- The passages with the special ones marked and the others numbered from `n + 1`. -/
def numbered (n : Nat) : List Passage → List Passage
  | [] => []
  | p :: ps =>
    if p.isSpecial then { p with excluded := true } :: numbered n ps
    else { p with pid := some (n + 1) } :: numbered (n + 1) ps

/-! ### Numbers -/

variable {n : Nat} {ps : List Passage}

/-- Nothing but marks and numbers is changed. -/
lemma map_unsorted_numbered (n : Nat) (ps : List Passage) :
    (numbered n ps).map unsorted = ps.map unsorted := by
  induction ps generalizing n with
  | nil => rfl
  | cons p ps ih =>
      rw [numbered]
      split
      · rw [List.map_cons, ih, List.map_cons]
        rfl
      · rw [List.map_cons, ih, List.map_cons]
        rfl

/-- A special passage is marked and has no number, another one has a number and is not
marked. -/
lemma isSpecial_of_mem_numbered (hnew : ∀ p ∈ ps, p.unsorted = p) (hp : p ∈ numbered n ps) :
    p.excluded = p.isSpecial ∧
      ((p.excluded = true ∧ p.pid = none) ∨ (p.excluded = false ∧ ∃ k, p.pid = some k)) := by
  induction ps generalizing n with
  | nil => cases hp
  | cons q ps ih =>
      have hrest : ∀ p ∈ ps, p.unsorted = p := fun p hp => hnew p (by simp [hp])
      have hq := hnew q (by simp)
      rw [numbered] at hp
      split at hp
      · rename_i hspecial
        rcases List.mem_cons.mp hp with rfl | hp
        · exact ⟨hspecial.symm, Or.inl ⟨rfl, (congrArg pid hq).symm⟩⟩
        · exact ih hrest hp
      · rename_i hspecial
        rcases List.mem_cons.mp hp with rfl | hp
        · have hexcluded : q.excluded = false := (congrArg excluded hq).symm
          refine ⟨hexcluded.trans ?_, Or.inr ⟨hexcluded, n + 1, rfl⟩⟩
          exact (Bool.not_eq_true _ ▸ hspecial : q.isSpecial = false).symm
        · exact ih hrest hp

/-- The numbers go up one by one. -/
lemma map_pid_numbered (n : Nat) (hnew : ∀ p ∈ ps, p.unsorted = p) :
    ((numbered n ps).filter fun p => !p.excluded).map (·.pid) =
      (List.range' (n + 1) ((numbered n ps).countP fun p => !p.excluded)).map some := by
  induction ps generalizing n with
  | nil => rfl
  | cons q ps ih =>
      have hrest : ∀ p ∈ ps, p.unsorted = p := fun p hp => hnew p (by simp [hp])
      have hexcluded : q.excluded = false := (congrArg excluded (hnew q (by simp))).symm
      rw [numbered]
      split
      · simpa using ih n hrest
      · simp [hexcluded, ih (n + 1) hrest, List.range'_succ]

/-- Names that come once have one passage. -/
lemma filter_name_eq (hnodup : (ps.map (·.name)).Nodup) (hp : p ∈ ps) :
    (ps.filter fun q => q.name = p.name) = [p] := by
  induction ps with
  | nil => cases hp
  | cons q ps ih =>
      obtain ⟨hq, hrest⟩ := List.nodup_cons.mp hnodup
      rcases List.mem_cons.mp hp with rfl | hp
      · have hnone : (ps.filter fun q => q.name = p.name) = [] := by
          rw [List.filter_eq_nil_iff]
          intro r hr
          have hne : r.name ≠ p.name := fun heq => hq (List.mem_map.mpr ⟨r, hr, heq⟩)
          simpa using hne
        rw [List.filter_cons_of_pos (by simp), hnone]
      · have hne : q.name ≠ p.name := fun heq => hq (List.mem_map.mpr ⟨p, hp, heq.symm⟩)
        rw [List.filter_cons_of_neg (by simpa using hne), ih hrest hp]

end Passage

/-! ### Sorting -/

namespace Sorting

/-- What sorting passages gives, as lists over the passages: `s` is what the passages
before have given. -/
structure Gives (s : Sorting) (ps : List Passage) (s' : Sorting) (ps' : List Passage) :
    Prop where
  records : ps' = Passage.numbered s.count ps
  count : s'.count = s.count + (ps.filter fun p => !p.isSpecial).length
  css : s'.css = s.css ++ Passage.sheets (ps.filter Passage.isStylesheet)
  js : s'.js = s.js ++ Passage.sheets (ps.filter Passage.isScript)
  title : s'.title =
    ((ps.filter fun p => p.name = storyTitle).map (·.content)).getLastD s.title

variable {s s₁ s' : Sorting} {p p' : Passage} {ps ps' : List Passage}

/-- What sorting one passage gives, whatever the passage is for. -/
lemma gives_sortOne (h : s.sortOne p = .ok (s', p')) : s.Gives [p] s' [p'] := by
  rw [sortOne] at h
  cases hrole : p.role <;> simp only [hrole] at h
  case settings =>
    split at h
    · cases h
      constructor <;> simp [Passage.numbered, Passage.sheets, Passage.isSpecial_eq,
        Passage.isStylesheet_eq, Passage.isScript_eq, Passage.name_eq_storyTitle_iff, hrole]
    · cases h
  all_goals
    cases h
    constructor <;> simp [Passage.numbered, Passage.sheets, Passage.isSpecial_eq,
      Passage.isStylesheet_eq, Passage.isScript_eq, Passage.name_eq_storyTitle_iff, hrole]

/-- Sorting a passage and then the others gives what both give. -/
lemma Gives.cons (h : s.Gives [p] s₁ [p']) (hrest : s₁.Gives ps s' ps') :
    s.Gives (p :: ps) s' (p' :: ps') where
  records := by
    have hp := h.records
    have hcount := h.count
    rw [hrest.records]
    by_cases hspecial : p.isSpecial <;> simp_all [Passage.numbered]
  count := by
    have hfilter := List.filter_append (p := fun p => !Passage.isSpecial p) [p] ps
    rw [hrest.count, h.count, Nat.add_assoc, ← List.length_append, ← hfilter]
    rfl
  css := by
    rw [hrest.css, h.css, List.append_assoc, ← Passage.sheets_append, ← List.filter_append]
    rfl
  js := by
    rw [hrest.js, h.js, List.append_assoc, ← Passage.sheets_append, ← List.filter_append]
    rfl
  title := by
    rw [hrest.title, h.title]
    by_cases htitle : p.name = storyTitle
    · simp only [htitle, decide_true, List.filter_cons_of_pos, List.map_cons, List.getLastD_cons]
      rfl
    · simp [htitle]

/-- **What sorting gives.** -/
lemma gives_sort (h : s.sort ps = (s', .ok ps')) : s.Gives ps s' ps' := by
  induction ps generalizing s ps' with
  | nil =>
      cases h
      exact ⟨rfl, rfl, (List.append_nil _).symm, (List.append_nil _).symm, rfl⟩
  | cons p ps ih =>
      rw [sort] at h
      split at h
      · cases h
      · rename_i s₁ p₁ hone
        obtain ⟨rfl, hresult⟩ := Prod.mk.inj h
        cases hrest : (s₁.sort ps).2 with
        | error e => simp only [hrest, Except.map, reduceCtorEq] at hresult
        | ok rest =>
            simp only [hrest, Except.map, Except.ok.injEq] at hresult
            exact hresult ▸ (gives_sortOne hone).cons (ih (Prod.ext rfl hrest))

end Sorting

/-! ### Stories -/

namespace Story

/-- The story has the passages `prepared`, sorted. -/
structure IsSorted (story : Story) (prepared : PassageMap) : Prop where
  /-- Only marks and numbers are new. -/
  records : story.passages.records.map Passage.unsorted = prepared.records
  index : story.passages.index = prepared.index
  /-- The special passages are marked. -/
  excluded : ∀ p ∈ story.passages.records, p.excluded = p.isSpecial
  /-- A passage is marked or has a number, and never both. -/
  marked : ∀ p ∈ story.passages.records,
    (p.excluded = true ∧ p.pid = none) ∨ (p.excluded = false ∧ ∃ n, p.pid = some n)
  /-- The passages that are not marked have the numbers from 1 on, in order. -/
  pids : (story.passages.records.filter fun p => !p.excluded).map (·.pid) =
    (List.range' 1 (story.passages.records.countP fun p => !p.excluded)).map some
  css : story.css = Passage.sheets (prepared.records.filter Passage.isStylesheet)
  js : story.js = Passage.sheets (prepared.records.filter Passage.isScript)
  title : ∀ p ∈ prepared.records, p.name = "StoryTitle".toList → story.title = p.content
  /-- There is no title without a passage for it. -/
  title_eq_nil : (∀ p ∈ prepared.records, p.name ≠ "StoryTitle".toList) → story.title = []

variable {sources : Sources} {registry : Registry} {settings : BuildSettings}
  {lines : List Line} {story : Story}

/-- An outcome that is no error is a story. -/
lemma exists_story_of_isOk {outcome : StoryOutcome} (h : outcome.story.isOk) :
    ∃ story, outcome.story = .ok story := by
  cases hstory : outcome.story with
  | error e =>
      rw [hstory] at h
      cases h
  | ok story => exact ⟨story, rfl⟩

/-- A story that is read comes from sorting its passages. -/
lemma exists_sorted (h : (ofLines sources registry settings lines).story = .ok story) :
    ∃ s records, sorted sources registry settings lines = (s, .ok records) ∧
      story = ⟨{ prepared sources registry lines with records := records }, s.css, s.js, s.title,
        s.settings.startPassage⟩ ∧
      (ofLines sources registry settings lines).settings = s.settings := by
  cases hsorted : sorted sources registry settings lines with
  | mk s result =>
      cases result with
      | error e =>
          rw [ofLines_of_error hsorted] at h
          cases h
      | ok records =>
          rw [ofLines_of_ok hsorted] at h ⊢
          exact ⟨s, records, rfl, (Except.ok.inj h).symm, rfl⟩

/-- A passage that is to be sorted has no mark and no number. -/
lemma unsorted_of_mem_prepared {p : Passage}
    (hp : p ∈ (prepared sources registry lines).records) : p.unsorted = p := by
  obtain ⟨q, hq, rfl⟩ := List.mem_map.mp hp
  have hlast := (PassageMap.tells_ofLines sources lines).1.records q hq
  obtain ⟨b, -, rfl⟩ := Option.map_eq_some_iff.mp hlast
  obtain ⟨tags, content, heq, -⟩ := registry.exists_apply_eq b.passage
  rw [heq]
  rfl

lemma nodup_names_prepared (sources : Sources) (registry : Registry) (lines : List Line) :
    (prepared sources registry lines).names.Nodup := by
  rw [prepared, Registry.names_run, (PassageMap.tells_ofLines sources lines).1.names]
  exact nodup_distinct _

/-- **Every story that is read is sorted.** -/
theorem isSorted_ofLines (h : (ofLines sources registry settings lines).story = .ok story) :
    story.IsSorted (prepared sources registry lines) := by
  obtain ⟨s, records, hsorted, rfl, -⟩ := exists_sorted h
  have hgives := Sorting.gives_sort hsorted
  have hnew : ∀ p ∈ (prepared sources registry lines).records, p.unsorted = p :=
    fun p hp => unsorted_of_mem_prepared hp
  have hnodup := nodup_names_prepared sources registry lines
  generalize prepared sources registry lines = prepared at *
  obtain rfl := hgives.records
  exact
    { records := by
        rw [Passage.map_unsorted_numbered]
        exact List.map_congr_left hnew |>.trans (List.map_id _)
      index := rfl
      excluded := fun p hp => (Passage.isSpecial_of_mem_numbered hnew hp).1
      marked := fun p hp => (Passage.isSpecial_of_mem_numbered hnew hp).2
      pids := Passage.map_pid_numbered 0 hnew
      css := hgives.css
      js := hgives.js
      title := fun p hp (htitle : p.name = storyTitle) => by
        have htitles := Passage.filter_name_eq hnodup hp
        rw [htitle] at htitles
        rw [hgives.title, htitles]
        rfl
      title_eq_nil := fun (hnone : ∀ p ∈ prepared.records, p.name ≠ storyTitle) => by
        have htitles : (prepared.records.filter fun p => p.name = storyTitle) = [] := by
          rw [List.filter_eq_nil_iff]
          exact fun p hp => by simpa using hnone p hp
        rw [hgives.title, htitles]
        rfl }

/-- The lines of a story with a title, a script in the place of an earlier stylesheet, a
stylesheet that has the tag of scripts too, and two elements. -/
def lighthouse : List Line :=
  Line.number 0 1 ([":: StoryTitle\n", "The Lighthouse\n", ":: Lamp [stylesheet]\n",
    ":: Start [turn]\n", "Wake\n", ":: Sea [script stylesheet]\n", "p\n",
    ":: Lamp [script]\n", "x\n", ":: Cliff\n", "Wind\n"].map String.toList)

theorem isSorted_ofLines_lighthouse :
    let registry := Registry.empty.register "turn".toList List.reverse
    ∃ story, (ofLines .empty registry (.initial []) lighthouse).story = .ok story ∧
      story.IsSorted (prepared .empty registry lighthouse) := by
  intro registry
  obtain ⟨story, hstory⟩ : ∃ story,
      (ofLines .empty registry (.initial []) lighthouse).story = .ok story :=
    exists_story_of_isOk (by decide)
  exact ⟨story, hstory, isSorted_ofLines hstory⟩

end Story

end TweeStory
