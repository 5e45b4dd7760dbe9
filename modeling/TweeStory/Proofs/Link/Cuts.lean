/-
The ways to cut a text in two, at a separator or at a closing quote.

* `AreOrdered`, `AreOrdered.exists_longest`: cuts from the shortest on, of which the last one
  that is taken is the longest;
* `mem_splits_iff`, `areOrdered_splits`: every way to split a text at a separator;
* `mem_closings_iff`, `mem_quotedSides_iff`, `areOrdered_quotedSides`: every way to close a quote
  behind quotes that stand right after backslashes.
-/
import TweeStory.Proofs.Link.Shape

namespace TweeStory.LinkBody

open Text

variable {quote : Char} {t : Text}

/-! ### Cuts from the shortest on -/

/-- Each cut leaves more in front than those before it. -/
def AreOrdered (cuts : List (Text × Text)) : Prop :=
  cuts.Pairwise fun cut later => cut.1.length < later.1.length

/-- The last of ordered cuts that a function takes is the longest that it takes. -/
lemma AreOrdered.exists_longest {α : Type} {cuts : List (Text × Text)} (h : AreOrdered cuts)
    {f : Text × Text → Option α} {found : α} (hfound : cuts.reverse.findSome? f = some found) :
    ∃ cut ∈ cuts, f cut = some found ∧
      ∀ other ∈ cuts, f other ≠ none → other.1.length ≤ cut.1.length := by
  obtain ⟨late, cut, early, hcuts, hcut, hnone⟩ := List.findSome?_eq_some_iff.mp hfound
  obtain rfl : cuts = early.reverse ++ cut :: late.reverse := by
    simpa using congrArg List.reverse hcuts
  refine ⟨cut, by simp, hcut, fun other hother htaken => ?_⟩
  rcases List.mem_append.mp hother with hearly | hlate
  · exact ((List.pairwise_append.mp h).2.2 other hearly cut List.mem_cons_self).le
  · rcases List.mem_cons.mp hlate with rfl | hlate
    · exact le_rfl
    · exact absurd (hnone other (List.mem_reverse.mp hlate)) htaken

/-- Cuts stay ordered when a character comes in front of all of them. -/
lemma AreOrdered.cons {cuts : List (Text × Text)} (h : AreOrdered cuts) (c : Char) :
    AreOrdered (cuts.map fun cut => (c :: cut.1, cut.2)) :=
  List.pairwise_map.mpr (h.imp fun hlt => Nat.succ_lt_succ hlt)

/-- A cut with nothing in front comes before those with a character there. -/
lemma AreOrdered.empty {cuts : List (Text × Text)} (h : AreOrdered cuts) (c : Char) (t : Text) :
    AreOrdered (([], t) :: cuts.map fun cut => (c :: cut.1, cut.2)) :=
  List.pairwise_cons.mpr ⟨List.forall_mem_map.mpr fun _ _ => Nat.succ_pos _, h.cons c⟩

/-! ### Splits -/

/-- **Every way to split a text** at a separator is found. -/
lemma mem_splits_iff {mark : Text} (hmark : mark ≠ []) {cut : Text × Text} :
    cut ∈ splits mark t ↔ t = cut.1 ++ (mark ++ cut.2) := by
  refine ⟨eq_of_mem_splits, ?_⟩
  obtain ⟨before, after⟩ := cut
  induction before generalizing t with
  | nil =>
      rintro rfl
      obtain ⟨c, mark, rfl⟩ := List.exists_cons_of_ne_nil hmark
      have hafter : after? (c :: mark) (c :: (mark ++ after)) = some after :=
        after?_append (c :: mark) after
      rw [List.nil_append, List.cons_append, splits, hafter]
      exact List.mem_cons_self
  | cons c before ih =>
      rintro rfl
      have hlater : (c :: before, after) ∈
          (splits mark (before ++ (mark ++ after))).map fun later => (c :: later.1, later.2) :=
        List.mem_map.mpr ⟨_, ih rfl, rfl⟩
      rw [List.cons_append, splits]
      split
      · exact List.mem_cons_of_mem _ hlater
      · exact hlater

lemma areOrdered_splits (mark t : Text) : AreOrdered (splits mark t) := by
  induction t with
  | nil => exact List.Pairwise.nil
  | cons c t ih =>
      rw [splits]
      split
      · exact ih.empty c _
      · exact ih.cons c

/-! ### Closing quotes -/

/-- Each quote of a text stands right after a backslash, where `escaped` says so of its start. -/
def IsGuarded (quote : Char) (escaped : Bool) (t : Text) : Prop :=
  ∀ before after, t = before ++ quote :: after → endsEscaped escaped before = true

lemma isGuarded_nil (quote : Char) (escaped : Bool) : IsGuarded quote escaped [] := by
  simp [IsGuarded]

lemma isGuarded_cons_iff {escaped : Bool} {c : Char} :
    IsGuarded quote escaped (c :: t) ↔
      (c = quote → escaped = true) ∧ IsGuarded quote (c == '\\') t := by
  constructor
  · intro h
    exact ⟨fun hc => h [] t (by rw [hc]; rfl), fun before after ht =>
      h (c :: before) after (by rw [ht]; rfl)⟩
  · rintro ⟨hc, ht⟩ before after heq
    cases before with
    | nil => exact hc (List.cons.inj heq).1
    | cons d before =>
        obtain ⟨rfl, hrest⟩ := List.cons.inj heq
        exact ht before after hrest

/-- **Every way to close a quote** behind guarded quotes is found. -/
lemma mem_closings_iff {escaped : Bool} {inner rest : Text} :
    (inner, rest) ∈ closings quote escaped t ↔
      t = inner ++ quote :: rest ∧ IsGuarded quote escaped inner := by
  induction t generalizing escaped inner with
  | nil => simp [closings]
  | cons c t ih =>
      rw [closings]
      cases inner with
      | nil =>
          by_cases hc : c = quote
          · cases escaped <;> simp [hc, isGuarded_nil, eq_comm]
          · simp [hc]
      | cons d inner =>
          rw [isGuarded_cons_iff]
          rcases eq_or_ne c d with rfl | hne
          · by_cases hc : c = quote
            · cases escaped <;> simp [hc, ih]
            · simp [hc, ih]
          · by_cases hc : c = quote
            · subst hc
              cases escaped <;> simp [hne, hne.symm]
            · simp [hc, hne]

lemma areOrdered_closings (quote : Char) (escaped : Bool) (t : Text) :
    AreOrdered (closings quote escaped t) := by
  induction t generalizing escaped with
  | nil => exact List.Pairwise.nil
  | cons c t ih =>
      rw [closings]
      split
      · cases escaped with
        | false => exact List.pairwise_singleton _ _
        | true => exact (ih _).empty c t
      · exact (ih _).cons c

lemma mem_quotedSides_iff {inner rest : Text} :
    (inner, rest) ∈ quotedSides quote t ↔
      t = inner ++ quote :: rest ∧ inner ≠ [] ∧ ∀ before after, inner = before ++ quote :: after →
        before.getLast? = some '\\' := by
  simp only [quotedSides, List.mem_filter, mem_closings_iff, IsGuarded, endsEscaped_false_iff]
  simp [and_left_comm, and_comm]

lemma areOrdered_quotedSides (quote : Char) (t : Text) : AreOrdered (quotedSides quote t) :=
  (areOrdered_closings quote false t).filter _

end TweeStory.LinkBody
