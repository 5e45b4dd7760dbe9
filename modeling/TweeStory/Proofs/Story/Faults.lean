/-
Where a line of settings that cannot be followed stands in the source.

* `Passage.followsLines_of_content`: contents that are the text of lines follow these lines,
  one by one;
* `Passage.FaultsAt`, `Passage.faultsAt_of_followsLines`: the first line of the content that
  cannot be followed is the first such line of the body;
* `Story.exists_faultsAt_of_error`: so an error in a passage that no transformer changed is
  about that line.
-/
import TweeStory.Proofs.Settings.Grammar
import TweeStory.Proofs.Story.Bodies
import TweeStory.Proofs.Story.Settings

namespace TweeStory

open Text

/-! ### Lines of contents -/

/-- A line that ends in a line feed, and holds no other, is a full line. -/
lemma Text.IsEnded.isFullLine {line : Text} (h : IsEnded line) (hfeed : '\n' ∉ line.dropLast) :
    IsFullLine line := by
  refine ⟨?_, hfeed⟩
  rintro rfl
  cases h

/-- Lines all but the last of which end in a line feed are the lines of their text, but for
the last one if it is empty. -/
lemma Line.getElem?_of_getElem?_fullLines {lines : List Line}
    (hfeed : ∀ line ∈ lines, '\n' ∉ line.text.dropLast)
    (hended : ∀ line ∈ lines.dropLast, IsEnded line.text) {k : Nat} {text : Text}
    (htext : (fullLines (texts lines))[k]? = some text) :
    ∃ line, lines[k]? = some line ∧ line.text = text := by
  obtain rfl | ⟨before, last, rfl⟩ := List.eq_nil_or_concat' lines
  · cases htext
  rw [List.dropLast_concat] at hended
  have hfull : ∀ line ∈ before, IsFullLine line.text := fun line hline =>
    (hended line hline).isFullLine (hfeed line (by simp [hline]))
  by_cases hlast : last.text = []
  · -- an empty line at the end adds nothing to the text
    have htexts : texts (before ++ [last]) = texts before := by simp [texts, hlast]
    rw [htexts, Line.fullLines_texts hfull,
      Line.runs_of_isEnded fun line hline => hended line (List.mem_of_mem_dropLast hline),
      List.map_map, List.getElem?_map, Option.map_eq_some_iff] at htext
    obtain ⟨line, hline, rfl⟩ := htext
    have hlt := (List.getElem?_eq_some_iff.mp hline).1
    exact ⟨line, (List.getElem?_append_left hlt).trans hline, by simp [texts]⟩
  · have hall : ∀ line ∈ before ++ [last], IsFullLine line.text := by
      intro line hline
      rcases List.mem_append.mp hline with hmem | hmem
      · exact hfull line hmem
      · obtain rfl := List.mem_singleton.mp hmem
        exact ⟨hlast, hfeed line hline⟩
    rw [Line.fullLines_texts hall, Line.runs_of_isEnded (by rwa [List.dropLast_concat]),
      List.map_map, List.getElem?_map, Option.map_eq_some_iff] at htext
    obtain ⟨line, hline, rfl⟩ := htext
    exact ⟨line, hline, by simp [texts]⟩

namespace Passage

variable {p : Passage}

/-- Contents that are the text of lines follow these lines, one by one, if all but the last of
them end in a line feed. -/
lemma followsLines_of_content (hcontent : p.content = trimEnd (Line.texts p.lines))
    (hfeed : ∀ line ∈ p.lines, '\n' ∉ line.text.dropLast)
    (hended : ∀ line ∈ p.lines.dropLast, IsEnded line.text) : p.FollowsLines := by
  intro k text htext
  rw [hcontent] at htext
  obtain ⟨whole, hwhole, heq⟩ := exists_of_getElem?_lines_trimEnd htext
  obtain ⟨line, hline, rfl⟩ := Line.getElem?_of_getElem?_fullLines hfeed hended hwhole
  exact ⟨line, hline, heq⟩

end Passage

/-! ### Faults -/

namespace Passage

variable {p : Passage}

/-- The line at `origin` is the first of the body that cannot be followed, for the reason
`reason`. -/
def FaultsAt (p : Passage) (origin : Origin) (reason : DirectiveError) : Prop :=
  ∃ before line after, p.lines = before ++ line :: after ∧ line.origin = origin ∧
    SettingLine.parse line.text = .error reason ∧
    ∀ earlier ∈ before, (SettingLine.parse earlier.text).isOk

/-- The first fault of a content that follows the lines of its body is the first fault of the
body. -/
lemma faultsAt_of_followsLines (h : p.FollowsLines) {i : Nat} {reason : DirectiveError}
    (hfault : p.content.FaultAt i reason) :
    ∃ line, p.lines[i]? = some line ∧ p.FaultsAt line.origin reason := by
  obtain ⟨text, htext, hparse⟩ := hfault.fault
  obtain ⟨line, hline, heq⟩ := h i text htext
  obtain ⟨hlt, hget⟩ := List.getElem?_eq_some_iff.mp hline
  have hsplit : p.lines = p.lines.take i ++ line :: p.lines.drop (i + 1) := by
    rw [← hget, List.cons_getElem_drop_succ, List.take_append_drop]
  refine ⟨line, hline, p.lines.take i, line, p.lines.drop (i + 1), hsplit, rfl, ?_,
    fun earlier hearlier => ?_⟩
  · rw [← SettingLine.parse_eq_of_trimEnd_eq heq]
    exact hparse
  · obtain ⟨j, hj⟩ := List.mem_iff_getElem?.mp hearlier
    have hji : j < i := by
      have hlen := (List.getElem?_eq_some_iff.mp hj).1
      rw [List.length_take] at hlen
      omega
    rw [List.getElem?_take_of_lt hji] at hj
    -- an earlier line of the body is an earlier line of the content
    have hjlt : j < p.content.lines.length :=
      hji.trans (List.getElem?_eq_some_iff.mp htext).1
    have hjtext := List.getElem?_eq_getElem hjlt
    obtain ⟨line', hline', heq'⟩ := h j _ hjtext
    obtain rfl := Option.some.inj (hj.symm.trans hline')
    rw [← SettingLine.parse_eq_of_trimEnd_eq heq']
    refine hfault.first _ (List.mem_iff_getElem?.mpr ⟨j, ?_⟩)
    rw [List.getElem?_take_of_lt hji, hjtext]

end Passage

/-! ### Stories -/

namespace Story

variable {sources : Sources} {registry : Registry} {settings : BuildSettings}
  {lines : List Line}

/-- **An error about settings is about the line that is at fault.**  Where lines fail with an
error about the settings of a passage that no transformer changes, and all lines of the passage
but the last end in a line feed, the error has the origin of the first line of the passage that
cannot be followed, and the reason is the one for that line. -/
theorem exists_faultsAt_of_error (hfeed : ∀ line ∈ lines, '\n' ∉ line.text.dropLast)
    {name : Text} {origin : Option Origin} {reason : DirectiveError}
    (h : (ofLines sources registry settings lines).story =
      .error (.directive name origin reason)) :
    ∃ p, (PassageMap.ofLines sources lines).1.get? name = some p ∧
      (registry.IsIdleOn p → (∀ line ∈ p.lines.dropLast, IsEnded line.text) →
        ∃ o, origin = some o ∧ p.FaultsAt o reason) := by
  obtain ⟨before, p, after, i, e, hps, -, hfails, herror, -⟩ :=
    (isConfigured_ofLines sources registry settings lines).error _ h
  obtain ⟨rfl, horigin, rfl⟩ := CompileError.directive.inj herror
  have hmem : p ∈ (prepared sources registry lines).records := by simp [hps]
  obtain ⟨q, hq, heq⟩ := exists_eq_apply hmem
  refine ⟨q, hq, fun hidle hended => ?_⟩
  rw [hidle.apply_eq] at heq
  subst heq
  obtain ⟨b, hb, rfl⟩ := exists_block_of_get? hq
  have hfollows : b.passage.FollowsLines :=
    Passage.followsLines_of_content rfl
      (fun line hline => hfeed line (Block.mem_of_mem_body hb hline)) hended
  obtain ⟨line, hline, hfaults⟩ := Passage.faultsAt_of_followsLines hfollows hfails.2
  exact ⟨line.origin, by rw [horigin, hline]; rfl, hfaults⟩

/-- The lines of a story whose settings are written twice.  The second time they begin with an
empty line and a comment, and two of their lines cannot be followed. -/
def bogusLines : List Line :=
  Line.number 0 1 ([":: Start\n", ":: Settings [twee2]\n", "oops\n",
    ":: Settings [twee2 plan]\n", "\n", "  # first\r\n", "name = Fine\r\n", "bogus line \r\n",
    "start = Start\n", "also bogus"].map String.toList)

theorem exists_faultsAt_of_error_bogusLines :
    let registry := Registry.empty.register "turn".toList List.reverse
    let reason := DirectiveError.malformed "bogus line".toList
    (ofLines .empty registry (.initial []) bogusLines).story =
        .error (.directive "Settings".toList (some ⟨0, 8⟩) reason) ∧
      ∃ p, (PassageMap.ofLines .empty bogusLines).1.get? "Settings".toList = some p ∧
        p.FaultsAt ⟨0, 8⟩ reason := by
  intro registry reason
  have herror : (ofLines .empty registry (.initial []) bogusLines).story =
      .error (.directive "Settings".toList (some ⟨0, 8⟩) reason) := rfl
  obtain ⟨p, hp, hfaults⟩ := exists_faultsAt_of_error (by decide) herror
  have hplain : ((PassageMap.ofLines .empty bogusLines).1.get? "Settings".toList).all fun p =>
      (∀ tag ∈ p.tags, tag ∉ registry.tags) ∧ ∀ line ∈ p.lines.dropLast, IsEnded line.text := by
    decide
  rw [hp, Option.all_some] at hplain
  obtain ⟨hidle, hended⟩ := of_decide_eq_true hplain
  obtain ⟨o, horigin, hfault⟩ := hfaults hidle hended
  obtain rfl := Option.some.inj horigin
  exact ⟨herror, p, hp, hfault⟩

end Story

end TweeStory
