/-
How often a needle stands in a text, and what is left of a text when it is replaced there.

* `occurrences`, `occurrences_eq_zero_iff`: the number of places where a needle stands;
* `replaceAll_induction`: a text is read from left to right, occurrence by occurrence;
* `IsInert`, `replaceAll_append_of_isInert`: in some texts no occurrence begins, whatever stands
  behind them, and replacement passes over them;
* `replaceAll_append_of_occurrences_eq`, `replaceAll_eq_self`: it passes over a text that adds no
  occurrence, and leaves one without any as it is;
* `replaceAll_append_cons`: the sides of a character that the needle lacks are apart;
* `length_replaceAll`: the length of what is left.
-/
import TweeStory.Proofs.Text.Search

namespace TweeStory.Text

variable {needle s t : Text} {c : Char}

/-- The number of places in a text where a needle stands. -/
def occurrences (needle : Text) : Text → Nat
  | [] => 0
  | c :: t => (if beginsWith (c :: t) needle then 1 else 0) + occurrences needle t

/-- No needle that is not empty stands in a text exactly if it has no place there. -/
lemma occurrences_eq_zero_iff (hne : needle ≠ []) :
    occurrences needle t = 0 ↔ includes t needle = false := by
  rw [includes_eq_false_iff]
  induction t with
  | nil =>
      obtain ⟨a, rest, rfl⟩ := List.exists_cons_of_ne_nil hne
      exact iff_of_true rfl rfl
  | cons c t ih =>
      rw [occurrences, cut?, Nat.add_eq_zero_iff, ih]
      cases hafter : after? needle (c :: t) <;> simp [beginsWith, hafter]

lemma occurrences_cons_of_beginsWith_eq_false (h : beginsWith (c :: t) needle = false) :
    occurrences needle (c :: t) = occurrences needle t := by
  rw [occurrences, h, if_neg Bool.false_ne_true, Nat.zero_add]

/-- What stands in front of a text takes no occurrence away. -/
lemma le_occurrences_append (s t : Text) : occurrences needle t ≤ occurrences needle (s ++ t) := by
  induction s with
  | nil => exact Nat.le_refl _
  | cons c s ih =>
      rw [List.cons_append, occurrences]
      omega

lemma replaceAll_nil (needle new : Text) : replaceAll [] needle new = [] :=
  rfl

/-- **A text is read from left to right**, occurrence by occurrence and else character by
character. -/
theorem replaceAll_induction (hne : needle ≠ []) {motive : Text → Prop} (nil : motive [])
    (found : ∀ t, motive t → motive (needle ++ t))
    (other : ∀ c t, beginsWith (c :: t) needle = false → motive t → motive (c :: t)) (t : Text) :
    motive t := by
  induction hn : t.length using Nat.strongRecOn generalizing t with
  | ind n ih =>
      cases t with
      | nil => exact nil
      | cons c t =>
          by_cases hbegins : beginsWith (c :: t) needle = true
          · obtain ⟨rest, hrest⟩ := beginsWith_iff.mp hbegins
            rw [hrest] at hn ⊢
            have hlt : rest.length < n := by
              have hpos := List.length_pos_iff.mpr hne
              rw [← hn, List.length_append]
              omega
            exact found rest (ih _ hlt rest rfl)
          · have hlt : t.length < n := by
              rw [← hn, List.length_cons]
              omega
            exact other c t (by simpa using hbegins) (ih _ hlt t rfl)

/-! ### Texts that are passed over -/

/-- No occurrence of the needle begins in the text, whatever stands behind it. -/
def IsInert (needle : Text) : Text → Prop
  | [] => True
  | c :: s => (∀ t, beginsWith (c :: (s ++ t)) needle = false) ∧ IsInert needle s

lemma occurrences_append_of_isInert (h : IsInert needle s) (t : Text) :
    occurrences needle (s ++ t) = occurrences needle t := by
  induction s with
  | nil => rfl
  | cons c s ih =>
      rw [List.cons_append, occurrences_cons_of_beginsWith_eq_false (h.1 t), ih h.2]

lemma replaceAll_append_of_isInert (h : IsInert needle s) (t new : Text) :
    (s ++ t).replaceAll needle new = s ++ t.replaceAll needle new := by
  induction s with
  | nil => rfl
  | cons c s ih =>
      rw [List.cons_append, replaceAll_cons (h.1 t), ih h.2]
      rfl

/-- Replacement passes over a text that adds no occurrence to those behind it. -/
lemma replaceAll_append_of_occurrences_eq
    (h : occurrences needle (s ++ t) = occurrences needle t) (new : Text) :
    (s ++ t).replaceAll needle new = s ++ t.replaceAll needle new := by
  induction s with
  | nil => rfl
  | cons c s ih =>
      rw [List.cons_append, occurrences] at h
      have hle : occurrences needle t ≤ occurrences needle (s ++ t) := le_occurrences_append s t
      have hbegins : beginsWith (c :: (s ++ t)) needle = false := by
        rw [Bool.eq_false_iff]
        intro hbegins
        rw [if_pos hbegins] at h
        omega
      rw [hbegins, if_neg Bool.false_ne_true, Nat.zero_add] at h
      rw [List.cons_append, replaceAll_cons hbegins, ih h]
      rfl

/-- A text without the needle stays as it is. -/
lemma replaceAll_eq_self (hne : needle ≠ []) (h : includes t needle = false) (new : Text) :
    t.replaceAll needle new = t := by
  rw [← occurrences_eq_zero_iff hne] at h
  have hpass := replaceAll_append_of_occurrences_eq (s := t) (t := []) (by
    rw [List.append_nil, h]
    rfl) new
  rwa [List.append_nil, replaceAll_nil, List.append_nil] at hpass

/-- No needle begins in a text without its first character. -/
lemma isInert_of_notMem {a : Char} (h : a ∉ s) (needle : Text) : IsInert (a :: needle) s := by
  induction s with
  | nil => trivial
  | cons c s ih =>
      rw [List.mem_cons, not_or] at h
      exact ⟨fun t => by rw [beginsWith, after?, if_neg h.1]; rfl, ih h.2⟩

/-! ### Sides of a character that the needle lacks -/

lemma beginsWith_cons_of_notMem (hne : needle ≠ []) (hc : c ∉ needle) (t : Text) :
    beginsWith (c :: t) needle = false := by
  rw [Bool.eq_false_iff, ne_eq, beginsWith_iff]
  rintro ⟨rest, h⟩
  obtain ⟨a, needle, rfl⟩ := List.exists_cons_of_ne_nil hne
  exact hc ((List.cons.inj h).1 ▸ List.mem_cons_self)

lemma beginsWith_append_cons (hs : beginsWith s needle = false) (hc : c ∉ needle) (t : Text) :
    beginsWith (s ++ c :: t) needle = false := by
  rw [beginsWith, Option.isSome_eq_false_iff, Option.isNone_iff_eq_none] at hs ⊢
  exact after?_append_cons hs hc t

/-- Replacement on one side of a character that the needle lacks does not depend on the other
side. -/
lemma replaceAll_append_cons (hne : needle ≠ []) (hc : c ∉ needle) (s t new : Text) :
    (s ++ c :: t).replaceAll needle new =
      s.replaceAll needle new ++ c :: t.replaceAll needle new := by
  induction s using replaceAll_induction hne with
  | nil => exact replaceAll_cons (beginsWith_cons_of_notMem hne hc t) new
  | found s ih =>
      rw [List.append_assoc, replaceAll_append hne, replaceAll_append hne, ih, List.append_assoc]
  | other d s hbegins ih =>
      have hlonger : beginsWith (d :: (s ++ c :: t)) needle = false :=
        beginsWith_append_cons hbegins hc t
      rw [replaceAll_cons hbegins, List.cons_append, replaceAll_cons hlonger, ih, List.cons_append]

/-- The occurrences on both sides of a character that the needle lacks are all. -/
lemma occurrences_append_cons (hc : c ∉ needle) (s t : Text) :
    occurrences needle (s ++ c :: t) = occurrences needle s + occurrences needle (c :: t) := by
  induction s with
  | nil => rw [List.nil_append, occurrences, Nat.zero_add]
  | cons d s ih =>
      have hbegins : beginsWith (d :: (s ++ c :: t)) needle = beginsWith (d :: s) needle := by
        cases hs : beginsWith (d :: s) needle with
        | false => exact beginsWith_append_cons hs hc t
        | true =>
            obtain ⟨rest, hrest⟩ := beginsWith_iff.mp hs
            exact beginsWith_iff.mpr ⟨rest ++ c :: t, by
              rw [← List.cons_append, hrest, List.append_assoc]⟩
      rw [List.cons_append, occurrences, occurrences, hbegins, ih, Nat.add_assoc]

/-! ### Needles that do not reach over themselves -/

variable (hsolid : IsInert needle needle.tail)

include hsolid

lemma occurrences_needle_append (hne : needle ≠ []) (t : Text) :
    occurrences needle (needle ++ t) = occurrences needle t + 1 := by
  obtain ⟨a, rest, rfl⟩ := List.exists_cons_of_ne_nil hne
  have hbegins : beginsWith (a :: (rest ++ t)) (a :: rest) := beginsWith_iff.mpr ⟨t, rfl⟩
  rw [List.cons_append, occurrences, if_pos hbegins, Nat.add_comm]
  exact congrArg (· + 1) (occurrences_append_of_isInert hsolid t)

/-- **The length of a text** after replacement, by the number of occurrences. -/
lemma length_replaceAll (hne : needle ≠ []) (t new : Text) :
    (t.replaceAll needle new).length + occurrences needle t * needle.length =
      t.length + occurrences needle t * new.length := by
  induction t using replaceAll_induction hne with
  | nil => simp [replaceAll_nil, occurrences]
  | found t ih =>
      rw [replaceAll_append hne, occurrences_needle_append hsolid hne, List.length_append,
        List.length_append, Nat.add_mul, Nat.add_mul]
      omega
  | other c t hbegins ih =>
      rw [replaceAll_cons hbegins, occurrences_cons_of_beginsWith_eq_false hbegins,
        List.length_cons, List.length_cons]
      omega

end TweeStory.Text
