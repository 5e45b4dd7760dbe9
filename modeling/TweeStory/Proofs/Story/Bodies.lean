/-
How the contents of passages go with the lines of their bodies.

* `Line.runs`: lines in runs, each of which ends at the first line feed;
* `Passage.FollowsRuns`, `Passage.FollowsLines`: the lines of the content of a passage are the
  runs of its body, or the lines of it;
* `Story.followsRuns_compile`: the lines of contents that no transformer changed are the runs
  of their bodies, and so the lines of them if all but the last end in a line feed;
* `Story.not_followsLines_unendedTree`: a line of an included file that does not end in a line
  feed runs into the next.
-/
import TweeStory.Proofs.Story.Decoding
import TweeStory.Proofs.Story.Provenance
import TweeStory.Proofs.Story.Start
import TweeStory.Proofs.Text.Trim

namespace TweeStory

open Text

/-! ### Runs of lines -/

/-- Lines in runs: a line that does not end in a line feed stands in a run with the next. -/
def Line.runs : List Line → List (List Line)
  | [] => []
  | line :: rest =>
    if IsEnded line.text then [line] :: runs rest
    else
      match runs rest with
      | [] => [[line]]
      | run :: later => (line :: run) :: later

/-- The text of lines, one after the other. -/
def Line.texts (lines : List Line) : Text :=
  lines.flatMap (·.text)

/-- The lines of the text of lines are the texts of their runs. -/
lemma Line.fullLines_texts {lines : List Line} (h : ∀ line ∈ lines, IsFullLine line.text) :
    fullLines (texts lines) = (runs lines).map texts := by
  induction lines with
  | nil => rfl
  | cons line rest ih =>
      obtain ⟨hline, hrest⟩ := List.forall_mem_cons.mp h
      have htexts : texts (line :: rest) = line.text ++ texts rest := List.flatMap_cons
      rw [htexts, runs]
      by_cases hend : IsEnded line.text
      · rw [if_pos hend, fullLines_append_of_isEnded hline hend, ih hrest, List.map_cons]
        simp [texts]
      · rw [if_neg hend, fullLines_append_of_not_isEnded hline hend, ih hrest]
        cases runs rest with
        | nil => simp [texts, appendHead]
        | cons run later => simp [texts, appendHead]

/-- Lines all but the last of which end in a line feed are runs of their own. -/
lemma Line.runs_of_isEnded {lines : List Line} (h : ∀ line ∈ lines.dropLast, IsEnded line.text) :
    runs lines = lines.map fun line => [line] := by
  induction lines with
  | nil => rfl
  | cons line rest ih =>
      cases rest with
      | nil => by_cases hend : IsEnded line.text <;> simp [runs, hend]
      | cons next rest =>
          rw [List.dropLast_cons_cons, List.forall_mem_cons] at h
          rw [runs, if_pos h.1, ih h.2]
          rfl

/-! ### Contents -/

namespace Passage

/-- The lines of the content are the runs of the body, but for white space at their ends. -/
def FollowsRuns (p : Passage) : Prop :=
  ∀ (k : Nat) (text : Text), p.content.lines[k]? = some text →
    ∃ run, (Line.runs p.lines)[k]? = some run ∧ text.trimEnd = trimEnd (Line.texts run)

/-- The lines of the content are the lines of the body, but for white space at their ends. -/
def FollowsLines (p : Passage) : Prop :=
  ∀ (k : Nat) (text : Text), p.content.lines[k]? = some text →
    ∃ line, p.lines[k]? = some line ∧ text.trimEnd = line.text.trimEnd

variable {p : Passage}

/-- Contents that are the text of full lines follow the runs of the lines. -/
lemma followsRuns_of_content (hcontent : p.content = trimEnd (Line.texts p.lines))
    (h : ∀ line ∈ p.lines, IsFullLine line.text) : p.FollowsRuns := by
  intro k text htext
  rw [hcontent] at htext
  obtain ⟨whole, hwhole, heq⟩ := exists_of_getElem?_lines_trimEnd htext
  rw [Line.fullLines_texts h, List.getElem?_map, Option.map_eq_some_iff] at hwhole
  obtain ⟨run, hrun, rfl⟩ := hwhole
  exact ⟨run, hrun, heq⟩

/-- Runs are lines where no line runs into the next. -/
lemma FollowsRuns.followsLines (h : p.FollowsRuns)
    (hended : ∀ line ∈ p.lines.dropLast, IsEnded line.text) : p.FollowsLines := by
  intro k text htext
  obtain ⟨run, hrun, heq⟩ := h k text htext
  rw [Line.runs_of_isEnded hended, List.getElem?_map, Option.map_eq_some_iff] at hrun
  obtain ⟨line, hline, rfl⟩ := hrun
  exact ⟨line, hline, by simpa [Line.texts] using heq⟩

end Passage

/-! ### Stories -/

namespace Story

variable {sources : Sources} {registry : Registry} {settings : BuildSettings}
  {lines : List Line} {story : Story} {p : Passage}

/-- A passage that is to be sorted is one that was read from the lines, after its
transformers. -/
lemma exists_eq_apply (hp : p ∈ (prepared sources registry lines).records) :
    ∃ q, (PassageMap.ofLines sources lines).1.get? p.name = some q ∧ p = registry.apply q := by
  obtain ⟨q, hq, rfl⟩ := List.mem_map.mp hp
  have htells := (PassageMap.tells_ofLines sources lines).1
  exact ⟨q, (htells.isIndexed.get?_eq_some_iff htells.keys_eq).mpr
    ⟨hq, (registry.name_apply q).symm⟩, rfl⟩

/-- A passage of a story that was read is one that was read from the lines, after its
transformers and but for its mark and its number. -/
lemma exists_unsorted_eq (h : (ofLines sources registry settings lines).story = .ok story)
    (hp : p ∈ story.passages.records) :
    ∃ q, (PassageMap.ofLines sources lines).1.get? p.name = some q ∧
      p.unsorted = registry.apply q := by
  obtain ⟨s, records, hsorted, rfl, -⟩ := exists_sorted h
  obtain rfl := (Sorting.gives_sort hsorted).records
  have hmem := List.mem_map_of_mem (f := Passage.unsorted) hp
  rw [Passage.map_unsorted_numbered] at hmem
  obtain ⟨r, hprepared, hunsorted⟩ := List.mem_map.mp hmem
  rw [unsorted_of_mem_prepared hprepared] at hunsorted
  obtain ⟨q, hq, heq⟩ := exists_eq_apply hprepared
  have hname : r.name = p.name := by
    rw [hunsorted]
    rfl
  exact ⟨q, hname ▸ hq, hunsorted.symm.trans heq⟩

/-- A passage that is found under a name is that of a block of the lines. -/
lemma exists_block_of_get? {name : Text} {q : Passage}
    (hq : (PassageMap.ofLines sources lines).1.get? name = some q) :
    ∃ b ∈ Block.ofLines lines, q = b.passage := by
  have htells := (PassageMap.tells_ofLines sources lines).1
  have hmem := ((htells.isIndexed.get?_eq_some_iff htells.keys_eq).mp hq).1
  obtain ⟨b, hb, rfl⟩ := Option.map_eq_some_iff.mp (htells.records q hmem)
  exact ⟨b, List.mem_of_mem_filter (List.mem_of_getLast? hb), rfl⟩

/-- A passage that was read from full lines follows the runs of its body. -/
lemma followsRuns_of_get? (h : ∀ line ∈ lines, IsFullLine line.text) {name : Text} {q : Passage}
    (hq : (PassageMap.ofLines sources lines).1.get? name = some q) : q.FollowsRuns := by
  obtain ⟨b, hb, rfl⟩ := exists_block_of_get? hq
  exact Passage.followsRuns_of_content rfl fun line hline =>
    h line (Block.mem_of_mem_body hb hline)

/-- **Contents are made of runs of lines.**  Where no transformer changes a passage, the lines
of its content are the runs of its body, and so they are the lines of its body if all but the
last of these end in a line feed, whatever files they are from. -/
theorem followsRuns_compile (tree : FileTree) (registry : Registry) (settings : BuildSettings)
    (path : Path) {contents : Text} (hread : tree.read path = .ok contents) :
    ∃ expansion, loadStory tree path = .ok expansion ∧
      ∀ story, (compile tree registry settings path).story = .ok story →
        ∀ p ∈ story.passages.records,
          ∃ q, (PassageMap.ofLines expansion.sources expansion.lines).1.get? p.name = some q ∧
            (registry.IsIdleOn q → p.FollowsRuns ∧
              ((∀ line ∈ p.lines.dropLast, IsEnded line.text) → p.FollowsLines)) := by
  obtain ⟨base, root, sources, hload⟩ := exists_loadStory hread
  obtain ⟨hstems, -⟩ := resolveIncludes_has tree base sources root
  refine ⟨_, hload, ?_⟩
  rw [compile_of_loadStory hload]
  generalize resolveIncludes tree base sources (sources.lines root) = expansion at *
  intro story hstory p hp
  obtain ⟨q, hq, heq⟩ := exists_unsorted_eq hstory hp
  refine ⟨q, hq, fun hidle => ?_⟩
  rw [hidle.apply_eq] at heq
  have hruns : q.FollowsRuns :=
    followsRuns_of_get? (fun line hline => (hstems line hline).isFullLine) hq
  rw [← heq] at hruns
  exact ⟨hruns, Passage.FollowsRuns.followsLines hruns⟩

/-- A story with an included file whose last line does not end in a line feed. -/
def unendedTree : FileTree where
  entries :=
    [(["story.tw".toList], .text ":: Start\n::@include one.tw\ntwo\n".toList),
      (["one.tw".toList], .text "one".toList)]
  here := []

theorem followsRuns_compile_unendedTree :
    let registry := Registry.empty.register "turn".toList List.reverse
    let path := Path.ofString "story.tw"
    let contents := ":: Start\n::@include one.tw\ntwo\n".toList
    unendedTree.read path = .ok contents ∧
      ∃ expansion, loadStory unendedTree path = .ok expansion ∧
        ∀ story, (compile unendedTree registry (.initial []) path).story = .ok story →
          ∀ p ∈ story.passages.records,
            ∃ q, (PassageMap.ofLines expansion.sources expansion.lines).1.get? p.name = some q ∧
              (registry.IsIdleOn q → p.FollowsRuns ∧
                ((∀ line ∈ p.lines.dropLast, IsEnded line.text) → p.FollowsLines)) := by
  intro registry path contents
  have hread : unendedTree.read path = .ok contents := by decide
  exact ⟨hread, followsRuns_compile unendedTree registry (.initial []) path hread⟩

/-- The line of the included file and the line behind it are one line of the content. -/
theorem not_followsLines_unendedTree :
    let path := Path.ofString "story.tw"
    let contents := ":: Start\n::@include one.tw\ntwo\n".toList
    unendedTree.read path = .ok contents ∧
      ∃ expansion story, loadStory unendedTree path = .ok expansion ∧
        (compile unendedTree .empty (.initial []) path).story = .ok story ∧
        ∃ p ∈ story.passages.records,
          ∃ q, (PassageMap.ofLines expansion.sources expansion.lines).1.get? p.name = some q ∧
            Registry.empty.IsIdleOn q ∧ ¬p.FollowsLines := by
  intro path contents
  have hread : unendedTree.read path = .ok contents := by decide
  obtain ⟨story, hstory⟩ : ∃ story,
      (compile unendedTree .empty (.initial []) path).story = .ok story :=
    exists_story_of_isOk (by decide)
  have hjoined : (compile unendedTree .empty (.initial []) path).story.toOption.any fun story =>
      story.passages.records.any fun p =>
        p.content.lines[0]? = some "onetwo".toList ∧
          p.lines[0]?.map (·.text) = some "one".toList := by decide
  rw [hstory, Except.toOption, Option.any_some, List.any_eq_true] at hjoined
  obtain ⟨p, hp, hjoined⟩ := hjoined
  obtain ⟨hcontent, hbody⟩ := of_decide_eq_true hjoined
  obtain ⟨expansion, hload, hlines, -⟩ := exists_expansion hstory
  obtain ⟨q, hq, -⟩ := exists_unsorted_eq hlines hp
  have hidle : Registry.empty.IsIdleOn q := fun _ _ => List.not_mem_nil
  refine ⟨hread, expansion, story, hload, hstory, p, hp, q, hq, hidle, fun hfollows => ?_⟩
  obtain ⟨line, hline, heq⟩ := hfollows 0 _ hcontent
  rw [hline, Option.map_some, Option.some_inj] at hbody
  rw [hbody] at heq
  exact absurd heq (by decide)

end Story

end TweeStory
