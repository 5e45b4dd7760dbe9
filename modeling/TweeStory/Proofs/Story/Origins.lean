/-
The lines that a story is made of.

* `Passage.AllOrigins`: a property of the header and of all lines of a passage;
* `PassageMap.allOrigins_ofLines`: passages are made of the lines that are read;
* `Registry.allOrigins_apply`, `Sorting.allOrigins_sort`: transformers and sorting leave
  their lines as they are;
* `Story.allOrigins_ofLines`, `Story.allOrigins_checkLinks`: so passages, warnings,
  errors and links of a story are about lines that were read.
-/
import TweeStory.Proofs.Include.Provenance
import TweeStory.Story.Links

namespace TweeStory

variable {P : Origin → Prop} {sources : Sources}

/-- The header of the passage and all its lines satisfy `P`. -/
def Passage.AllOrigins (P : Origin → Prop) (p : Passage) : Prop :=
  P p.origin ∧ ∀ line ∈ p.lines, P line.origin

/-! ### Passages -/

namespace PassageMap

/-- All lines that the passages are made of satisfy `P`. -/
def AllOrigins (P : Origin → Prop) (passages : PassageMap) : Prop :=
  ∀ p ∈ passages.records, p.AllOrigins P

lemma AllOrigins.insert {passages : PassageMap} {p : Passage} (h : passages.AllOrigins P)
    (hp : p.AllOrigins P) : (passages.insert p).2.2.AllOrigins P := by
  rw [PassageMap.insert]
  split
  · exact fun q hq => (List.mem_or_eq_of_mem_set hq).elim (h q) fun heq => heq ▸ hp
  · intro q hq
    rcases List.mem_append.mp hq with hq | hq
    · exact h q hq
    · exact List.mem_singleton.mp hq ▸ hp

/-- The passage that an insertion replaces was there. -/
lemma mem_of_insert_replaced {passages : PassageMap} {p old : Passage}
    (h : (passages.insert p).2.1 = some old) : old ∈ passages.records := by
  rw [PassageMap.insert] at h
  split at h
  · exact List.mem_of_getElem? h
  · cases h

lemma AllOrigins.modifyAt {passages : PassageMap} (h : passages.AllOrigins P) (i : Nat)
    {f : Passage → Passage} (hf : ∀ p, p.AllOrigins P → (f p).AllOrigins P) :
    (passages.modifyAt i f).AllOrigins P := by
  intro q hq
  obtain ⟨j, hj⟩ := List.mem_iff_getElem?.mp hq
  rw [PassageMap.modifyAt, List.getElem?_modify] at hj
  obtain ⟨p, hp, heq⟩ := Option.map_eq_some_iff.mp hj
  have hmem := h p (List.mem_of_getElem? hp)
  split at heq
  · exact heq ▸ hf p hmem
  · exact heq ▸ hmem

lemma AllOrigins.map {passages : PassageMap} (h : passages.AllOrigins P)
    {f : Passage → Passage} (hf : ∀ p, p.AllOrigins P → (f p).AllOrigins P) :
    (passages.map f).AllOrigins P := by
  intro q hq
  obtain ⟨p, hp, rfl⟩ := List.mem_map.mp hq
  exact hf p (h p hp)

/-- Reading a line keeps to the lines that are read. -/
lemma Reading.allOrigins_read {state : Reading} {line : Line}
    (h : state.passages.AllOrigins P ∧ ∀ w ∈ state.warnings, w.AllOrigins P)
    (hline : P line.origin) :
    (state.read sources line).passages.AllOrigins P ∧
      ∀ w ∈ (state.read sources line).warnings, w.AllOrigins P := by
  obtain ⟨hpassages, hwarnings⟩ := h
  rw [Reading.read]
  split
  · rename_i header _
    have hnew : (Passage.ofHeader header line.origin).AllOrigins P :=
      ⟨hline, fun l hl => by cases hl⟩
    refine ⟨hpassages.insert hnew, fun w hw => ?_⟩
    rcases List.mem_append.mp hw with hw | hw
    · exact hwarnings w hw
    · obtain ⟨old, hold, rfl⟩ := Option.map_eq_some_iff.mp (Option.mem_toList.mp hw)
      have hmem := hpassages old (mem_of_insert_replaced hold)
      exact ⟨fun o ho => Option.some.inj ho ▸ hline, fun o ho => Option.some.inj ho ▸ hmem.1⟩
  · split
    · refine ⟨hpassages.modifyAt _ fun p hp => ⟨hp.1, fun l hl => ?_⟩, hwarnings⟩
      rcases List.mem_append.mp hl with hl | hl
      · exact hp.2 l hl
      · exact List.mem_singleton.mp hl ▸ hline
    · exact ⟨hpassages, hwarnings⟩

/-- Passages, and the warnings about names used again, are about the lines that are
read. -/
lemma allOrigins_ofLines {lines : List Line} (h : ∀ line ∈ lines, P line.origin) :
    (ofLines sources lines).1.AllOrigins P ∧ ∀ w ∈ (ofLines sources lines).2, w.AllOrigins P := by
  have hfold : ∀ (lines : List Line) (state : Reading), (∀ line ∈ lines, P line.origin) →
      (state.passages.AllOrigins P ∧ ∀ w ∈ state.warnings, w.AllOrigins P) →
      (lines.foldl (Reading.read sources) state).passages.AllOrigins P ∧
        ∀ w ∈ (lines.foldl (Reading.read sources) state).warnings, w.AllOrigins P := by
    intro lines
    induction lines with
    | nil => exact fun _ _ h => h
    | cons line lines ih =>
        intro state hlines hstate
        exact ih _ (fun l hl => hlines l (by simp [hl]))
          (Reading.allOrigins_read hstate (hlines line (by simp)))
  obtain ⟨hpassages, hwarnings⟩ := hfold lines ⟨empty, none, []⟩ h
    ⟨fun p hp => (by cases hp), fun w hw => (by cases hw)⟩
  exact ⟨hpassages.map fun p hp => hp, hwarnings⟩

end PassageMap

/-- A transformer leaves the lines of a passage as they are. -/
lemma Registry.allOrigins_apply (registry : Registry) {p : Passage} (h : p.AllOrigins P) :
    (registry.apply p).AllOrigins P := by
  have hfold : ∀ (entries : List (Text × Transformer)) (p : Passage), p.AllOrigins P →
      (entries.foldl fire p).AllOrigins P := by
    intro entries
    induction entries with
    | nil => exact fun _ h => h
    | cons entry entries ih =>
        intro p hp
        refine ih _ ?_
        rw [fire]
        split
        · exact hp
        · exact hp
  exact hfold registry.entries p h

/-! ### Sorting -/

namespace Sorting

lemma allOrigins_sortOne {s s' : Sorting} {p p' : Passage} (h : s.sortOne p = .ok (s', p'))
    (hp : p.AllOrigins P) : p'.AllOrigins P := by
  rw [sortOne] at h
  cases hrole : p.role <;> simp only [hrole] at h
  case settings =>
    split at h
    · cases h
      exact hp
    · cases h
  all_goals
    cases h
    exact hp

/-- An error of sorting is about a line of the passage. -/
lemma origin?_sortOne {s : Sorting} {p : Passage} {e : CompileError}
    (h : s.sortOne p = .error e) (hp : p.AllOrigins P) : ∀ o ∈ e.origin?, P o := by
  rw [sortOne] at h
  cases hrole : p.role <;> simp only [hrole] at h
  case settings =>
    split at h
    · cases h
    · cases h
      intro o ho
      obtain ⟨line, hline, rfl⟩ := Option.map_eq_some_iff.mp ho
      exact hp.2 line (List.mem_of_getElem? hline)
  all_goals cases h

/-- Sorting leaves the lines of passages as they are, and its errors are about
them. -/
lemma allOrigins_sort (s : Sorting) {ps : List Passage} (h : ∀ p ∈ ps, p.AllOrigins P) :
    (∀ ps', (s.sort ps).2 = .ok ps' → ∀ p ∈ ps', p.AllOrigins P) ∧
      ∀ e, (s.sort ps).2 = .error e → ∀ o ∈ e.origin?, P o := by
  induction ps generalizing s with
  | nil =>
      refine ⟨fun ps' heq => ?_, fun e heq => by cases heq⟩
      cases heq
      exact fun p hp => by cases hp
  | cons p ps ih =>
      have hp := h p (by simp)
      cases hone : s.sortOne p with
      | error e =>
          simp only [sort, hone]
          refine ⟨fun ps' heq => (by cases heq), fun e' heq => ?_⟩
          cases heq
          exact origin?_sortOne hone hp
      | ok result =>
          obtain ⟨s', p'⟩ := result
          obtain ⟨hok, herror⟩ := ih s' fun q hq => h q (by simp [hq])
          simp only [sort, hone]
          cases hrest : (s'.sort ps).2 with
          | error e =>
              refine ⟨fun ps' heq => (by cases heq), fun e' heq => ?_⟩
              cases heq
              exact herror e hrest
          | ok ps' =>
              refine ⟨fun qs heq => ?_, fun e heq => (by cases heq)⟩
              cases heq
              intro q hq
              rcases List.mem_cons.mp hq with rfl | hq
              · exact allOrigins_sortOne hone hp
              · exact hok ps' hrest q hq

end Sorting

/-! ### Stories -/

namespace Story

lemma allOrigins_startWarning {story : Story} (h : story.passages.AllOrigins P) :
    ∀ w ∈ story.startWarning, w.AllOrigins P := by
  intro w hw
  rw [startWarning] at hw
  split at hw
  · cases hw
  · obtain rfl := List.mem_singleton.mp hw
    refine ⟨fun o ho => ?_, fun o ho => (by cases ho)⟩
    obtain ⟨p, hp, rfl⟩ := Option.map_eq_some_iff.mp ho
    obtain ⟨i, -, hi⟩ := Option.bind_eq_some_iff.mp hp
    exact (h p (List.mem_of_getElem? hi)).1

lemma allOrigins_ifidNotice (settings : BuildSettings) :
    ∀ w ∈ ifidNotice settings, w.AllOrigins P := by
  intro w hw
  rw [ifidNotice] at hw
  split at hw
  · cases hw
  · obtain rfl := List.mem_singleton.mp hw
    exact ⟨fun o ho => (by cases ho), fun o ho => (by cases ho)⟩

/-- The passages of lines after their transformers, before they are sorted. -/
def prepared (sources : Sources) (registry : Registry) (lines : List Line) : PassageMap :=
  registry.run (PassageMap.ofLines sources lines).1

/-- The passages of lines sorted, settings being given. -/
def sorted (sources : Sources) (registry : Registry) (settings : BuildSettings)
    (lines : List Line) : Sorting × Except CompileError (List Passage) :=
  Sorting.sort ⟨settings, [], [], [], 0⟩ (prepared sources registry lines).records

lemma ofLines_of_error {registry : Registry} {settings : BuildSettings} {lines : List Line}
    {s : Sorting} {e : CompileError}
    (h : sorted sources registry settings lines = (s, .error e)) :
    ofLines sources registry settings lines =
      ⟨.error e, s.settings, (PassageMap.ofLines sources lines).2⟩ := by
  rw [sorted, prepared] at h
  simp only [ofLines, h]

lemma ofLines_of_ok {registry : Registry} {settings : BuildSettings} {lines : List Line}
    {s : Sorting} {records : List Passage}
    (h : sorted sources registry settings lines = (s, .ok records)) :
    let story : Story :=
      ⟨{ prepared sources registry lines with records := records }, s.css, s.js, s.title,
        s.settings.startPassage⟩
    ofLines sources registry settings lines =
      ⟨.ok story, s.settings,
        (PassageMap.ofLines sources lines).2 ++ story.startWarning ++ ifidNotice s.settings⟩ := by
  rw [sorted, prepared] at h
  simp only [ofLines, h]
  rfl

/-- The passages of a story, the warnings about it and the error that ends it are about
the lines that are read. -/
lemma allOrigins_ofLines (registry : Registry) (settings : BuildSettings) {lines : List Line}
    (h : ∀ line ∈ lines, P line.origin) :
    (∀ story, (ofLines sources registry settings lines).story = .ok story →
        story.passages.AllOrigins P) ∧
      (∀ e, (ofLines sources registry settings lines).story = .error e →
        ∀ o ∈ e.origin?, P o) ∧
      ∀ w ∈ (ofLines sources registry settings lines).warnings, w.AllOrigins P := by
  obtain ⟨hpassages, hwarnings⟩ := @PassageMap.allOrigins_ofLines P sources lines h
  have hprepared : (prepared sources registry lines).AllOrigins P :=
    hpassages.map fun p hp => registry.allOrigins_apply hp
  obtain ⟨hok, herror⟩ := Sorting.allOrigins_sort ⟨settings, [], [], [], 0⟩ hprepared
  cases hsorted : sorted sources registry settings lines with
  | mk s result =>
      cases result with
      | error e =>
          rw [ofLines_of_error hsorted]
          refine ⟨fun story heq => (by cases heq), fun e' heq => ?_, hwarnings⟩
          cases heq
          exact herror e (congrArg Prod.snd hsorted)
      | ok records =>
          have hrecords : PassageMap.AllOrigins P
              { prepared sources registry lines with records := records } :=
            hok records (congrArg Prod.snd hsorted)
          rw [ofLines_of_ok hsorted]
          refine ⟨fun story heq => ?_, fun e heq => (by cases heq), fun w hw => ?_⟩
          · cases heq
            exact hrecords
          · rcases List.mem_append.mp hw with hw | hw
            · rcases List.mem_append.mp hw with hw | hw
              · exact hwarnings w hw
              · exact allOrigins_startWarning hrecords w hw
            · exact allOrigins_ifidNotice s.settings w hw

/-- The links of a story and the warnings about them are about the lines of its
passages. -/
lemma allOrigins_checkLinks {story : Story} (h : story.passages.AllOrigins P) :
    (∀ link ∈ story.checkLinks.1, P link.origin) ∧
      ∀ w ∈ story.checkLinks.2, w.AllOrigins P := by
  have hlines : ∀ line ∈ story.bodyLines, P line.origin := by
    intro line hline
    obtain ⟨p, hp, hline⟩ := List.mem_flatMap.mp hline
    exact (h p hp).2 line hline
  have hlinks : ∀ line ∈ story.bodyLines, ∀ link ∈ Link.ofLine line, P link.origin := by
    intro line hline link hlink
    obtain ⟨body, -, rfl⟩ := List.mem_map.mp hlink
    exact hlines line hline
  constructor
  · intro link hlink
    obtain ⟨line, hline, hlink⟩ := List.mem_flatMap.mp hlink
    exact hlinks line hline link hlink
  · intro w hw
    obtain ⟨line, hline, hw⟩ := List.mem_flatMap.mp hw
    obtain ⟨link, hlink, hw⟩ := List.mem_flatMap.mp hw
    obtain ⟨kind, -, rfl⟩ := List.mem_map.mp hw
    refine ⟨fun o ho => ?_, fun o ho => (by cases ho)⟩
    exact Option.some.inj ho ▸ hlinks line hline link hlink

end Story

end TweeStory
