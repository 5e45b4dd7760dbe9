/-
Where a needle is found in a text.

* `cut?_append_of_notMem`: a needle is found behind a text without its first character;
* `includes_of_notMem`: a text without some character of a needle lacks the needle;
* `cut?_append_cons`, `includes_append_cons`: a needle does not reach over a character
  that it lacks;
* `replaceFirst_append_cons`: so the first occurrence behind such a character is
  replaced;
* `replaceAll_append`, `replaceAll_cons`: all occurrences are replaced from left to right;
* `IsToken`, `includes_escaped`: the written form of a text lacks a token that the text
  lacks.
-/
import Mathlib.Tactic.Lemma
import TweeStory.Text.Entity

namespace TweeStory.Text

/-- A needle is found behind a text without its first character. -/
lemma cut?_append_of_notMem {a : Char} {s : Text} (h : a ∉ s) (needle t : Text) :
    cut? (a :: needle) (s ++ (a :: needle ++ t)) = some (s, t) := by
  induction s with
  | nil =>
      rw [List.nil_append, List.cons_append, cut?]
      have hafter : after? (a :: needle) (a :: (needle ++ t)) = some t :=
        after?_append (a :: needle) t
      rw [hafter]
  | cons c s ih =>
      have hne : a ≠ c := fun heq => h (by simp [heq])
      have hafter : ∀ t, after? (a :: needle) (c :: t) = none := fun t => if_neg hne
      rw [List.cons_append, cut?, hafter, ih fun hmem => h (by simp [hmem])]
      rfl

variable {needle : Text} {c : Char}

lemma includes_eq_false_iff {t : Text} : includes t needle = false ↔ cut? needle t = none := by
  rw [includes, Option.isSome_eq_false_iff, Option.isNone_iff_eq_none]

/-- A text without some character of a needle lacks the needle. -/
lemma includes_of_notMem {t : Text} (hc : c ∈ needle) (ht : c ∉ t) :
    includes t needle = false := by
  rw [includes_eq_false_iff, Option.eq_none_iff_forall_ne_some]
  rintro ⟨before, rest⟩ hcut
  refine ht ?_
  rw [eq_of_cut? hcut]
  simp [hc]

/-! ### Characters that a needle lacks -/

/-- A text that lacks a needle in front does so whatever stands behind a character that
the needle lacks. -/
lemma after?_append_cons {s : Text} (hs : after? needle s = none) (hc : c ∉ needle) (t : Text) :
    after? needle (s ++ c :: t) = none := by
  rw [Option.eq_none_iff_forall_ne_some]
  intro rest hafter
  rcases List.append_eq_append_iff.mp (after?_eq_some_iff.mp hafter) with
    ⟨u, hneedle, hrest⟩ | ⟨u, hlead, -⟩
  · cases u with
    | nil =>
        rw [List.append_nil] at hneedle
        rw [hneedle, after?_eq_some_iff.mpr (List.append_nil _).symm] at hs
        cases hs
    | cons d u =>
        obtain ⟨rfl, -⟩ := List.cons.inj hrest
        exact hc (by simp [hneedle])
  · rw [hlead, after?_append] at hs
    cases hs

/-- A text is cut behind a character that the needle lacks if it is not cut before it. -/
lemma cut?_append_cons {s : Text} (hs : includes s needle = false) (hc : c ∉ needle) (t : Text) :
    cut? needle (s ++ c :: t) =
      (cut? needle t).map fun (before, rest) => (s ++ c :: before, rest) := by
  rw [includes_eq_false_iff] at hs
  induction s with
  | nil =>
      have hafter : after? needle (c :: t) = none :=
        after?_append_cons (Option.map_eq_none_iff.mp hs) hc t
      rw [List.nil_append, cut?, hafter]
      rfl
  | cons d s ih =>
      rw [cut?] at hs
      cases hafter : after? needle (d :: s) with
      | some rest =>
          rw [hafter] at hs
          cases hs
      | none =>
          rw [hafter] at hs
          have happend : after? needle (d :: (s ++ c :: t)) = none :=
            after?_append_cons hafter hc t
          rw [List.cons_append, cut?, happend, ih (Option.map_eq_none_iff.mp hs), Option.map_map]
          rfl

/-- A needle does not reach over a character that it lacks. -/
lemma includes_append_cons {s t : Text} (hs : includes s needle = false) (hc : c ∉ needle)
    (ht : includes t needle = false) : includes (s ++ c :: t) needle = false := by
  rw [includes_eq_false_iff] at ht ⊢
  rw [cut?_append_cons hs hc, ht]
  rfl

lemma cut?_append (hne : needle ≠ []) (t : Text) : cut? needle (needle ++ t) = some ([], t) := by
  obtain ⟨a, rest, rfl⟩ := List.exists_cons_of_ne_nil hne
  exact cut?_append_of_notMem List.not_mem_nil rest t

/-- A needle behind a character that it lacks is replaced if it does not occur before. -/
lemma replaceFirst_append_cons {s : Text} (hs : includes s needle = false) (hc : c ∉ needle)
    (hne : needle ≠ []) (t new : Text) :
    (s ++ c :: (needle ++ t)).replaceFirst needle new = s ++ c :: (new ++ t) := by
  rw [replaceFirst, cut?_append_cons hs hc, cut?_append hne]
  simp

/-! ### Every occurrence -/

lemma segmentsFrom_length_append (needle s t : Text) :
    segmentsFrom needle s.length (s ++ t) = segmentsFrom needle 0 t := by
  induction s with
  | nil => rfl
  | cons c s ih => exact ih

/-- An occurrence in front is replaced. -/
lemma replaceAll_append (hne : needle ≠ []) (t new : Text) :
    (needle ++ t).replaceAll needle new = new ++ t.replaceAll needle new := by
  obtain ⟨a, rest, rfl⟩ := List.exists_cons_of_ne_nil hne
  have hbegins : beginsWith (a :: (rest ++ t)) (a :: rest) := beginsWith_iff.mpr ⟨t, rfl⟩
  rw [replaceAll, segments, List.cons_append, segmentsFrom, if_pos hbegins, List.length_cons,
    Nat.add_sub_cancel, segmentsFrom_length_append, join_cons _ _ (segmentsFrom_ne_nil _ _ _)]
  rfl

/-- A character at which no occurrence begins stays. -/
lemma replaceAll_cons {t : Text} (h : beginsWith (c :: t) needle = false) (new : Text) :
    replaceAll (c :: t) needle new = c :: t.replaceAll needle new := by
  rw [replaceAll, segments, segmentsFrom, h, if_neg Bool.false_ne_true,
    join_consHead _ _ (segmentsFrom_ne_nil _ _ _)]
  rfl

/-! ### Written forms -/

/-- Whether a character is special, or divides attributes, or ends an entity. -/
def isMark (c : Char) : Bool :=
  ['&', '"', '<', '>', ' ', '=', ';'].contains c

/-- A text that markup can neither hide nor make up: it has an opening brace and none of
the characters that markup is made of. -/
structure IsToken (needle : Text) : Prop where
  brace : '\x7b' ∈ needle
  plain : needle.any isMark = false

instance (needle : Text) : Decidable (IsToken needle) :=
  decidable_of_iff ('\x7b' ∈ needle ∧ needle.any isMark = false)
    ⟨fun ⟨brace, plain⟩ => ⟨brace, plain⟩, fun h => ⟨h.brace, h.plain⟩⟩

lemma IsToken.notMem (h : IsToken needle) (hc : isMark c) : c ∉ needle :=
  fun hmem => List.any_eq_false.mp h.plain c hmem hc

/-- A special character is written as an entity, which has no brace. -/
lemma exists_escapedChar (hc : c ∈ ['&', '"', '<', '>']) :
    ∃ s, escapedChar c = '&' :: (s ++ [';']) ∧ '\x7b' ∉ s := by
  simp only [List.mem_cons, List.not_mem_nil, or_false] at hc
  rcases hc with rfl | rfl | rfl | rfl
  · exact ⟨"amp".toList, rfl, by decide⟩
  · exact ⟨"quot".toList, rfl, by decide⟩
  · exact ⟨"lt".toList, rfl, by decide⟩
  · exact ⟨"gt".toList, rfl, by decide⟩

lemma escaped_cons (c : Char) (t : Text) : escaped (c :: t) = escapedChar c ++ escaped t :=
  List.flatMap_cons

/-- What stands behind a needle without special characters is written behind it. -/
lemma after?_escaped (h : ∀ c ∈ needle, c ∉ ['&', '"', '<', '>']) (t : Text) :
    after? needle (escaped t) = (after? needle t).map escaped := by
  induction needle generalizing t with
  | nil => rfl
  | cons a needle ih =>
      obtain ⟨ha, hrest⟩ := List.forall_mem_cons.mp h
      cases t with
      | nil => rfl
      | cons c t =>
          rw [escaped_cons]
          by_cases hc : c ∈ ['&', '"', '<', '>']
          · have hne : a ≠ c := fun heq => ha (heq ▸ hc)
            have hamp : a ≠ '&' := fun heq => ha (by simp [heq])
            obtain ⟨s, hs, -⟩ := exists_escapedChar hc
            rw [hs, after?, if_neg hne]
            exact if_neg hamp
          · rw [escapedChar_eq_self hc, List.singleton_append, after?, after?]
            split
            · exact ih hrest t
            · rfl

/-- The written form of a text lacks a token that the text lacks. -/
lemma includes_escaped {t : Text} (h : IsToken needle) (ht : includes t needle = false) :
    includes (escaped t) needle = false := by
  induction t with
  | nil => exact ht
  | cons c t ih =>
      have hnone : after? needle (c :: t) = none ∧ cut? needle t = none := by
        rw [includes_eq_false_iff, cut?] at ht
        split at ht
        · cases ht
        · exact ⟨‹_›, Option.map_eq_none_iff.mp ht⟩
      have hrest := ih (includes_eq_false_iff.mpr hnone.2)
      by_cases hc : c ∈ ['&', '"', '<', '>']
      · obtain ⟨s, hs, hbrace⟩ := exists_escapedChar hc
        have hentity : includes ('&' :: s) needle = false :=
          includes_of_notMem h.brace (List.not_mem_cons_of_ne_of_not_mem (by decide) hbrace)
        have hcons : escaped (c :: t) = ('&' :: s) ++ ';' :: escaped t := by
          rw [escaped_cons, hs]
          simp
        rw [hcons]
        exact includes_append_cons hentity (h.notMem (by decide)) hrest
      · have hspecial : ∀ a ∈ needle, a ∉ ['&', '"', '<', '>'] := fun a ha hmem =>
          h.notMem (List.contains_iff_mem.mpr (List.mem_append_left [' ', '=', ';'] hmem)) ha
        have hafter : after? needle (c :: escaped t) = none := by
          have hescaped := after?_escaped hspecial (c :: t)
          rwa [hnone.1, escaped_cons, escapedChar_eq_self hc] at hescaped
        rw [includes_eq_false_iff] at hrest ⊢
        rw [escaped_cons, escapedChar_eq_self hc, List.singleton_append, cut?, hafter, hrest]
        rfl

end TweeStory.Text
