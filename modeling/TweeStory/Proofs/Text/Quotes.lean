/-
Texts with quotes around them.

* `IsQuoteMark`: the single and the double quote;
* `Text.IsWrapped`, `unwrapQuotes_eq_self_iff`: texts with a pair of equal quotes around them;
* `Text.Unwraps`, `unwrapQuotes_eq_iff`: what stands between these quotes, and a text that has none
  as it is.
-/
import Mathlib.Data.List.Basic
import TweeStory.Text.Unwrap

namespace TweeStory

/-- A single or a double quote. -/
def IsQuoteMark (c : Char) : Prop :=
  c = '\'' ∨ c = '"'

instance : DecidablePred IsQuoteMark := fun c =>
  inferInstanceAs (Decidable (c = '\'' ∨ c = '"'))

lemma isQuote_iff {c : Char} : isQuote c ↔ IsQuoteMark c := by
  simp [isQuote, IsQuoteMark]

namespace Text

variable {t inner : Text} {quote : Char}

/-- A text that begins with a quote and ends with the same one.  A single quote does not. -/
def IsWrapped (t : Text) : Prop :=
  ∃ quote inner, IsQuoteMark quote ∧ t = quote :: (inner ++ [quote])

lemma unwrapQuotes_wrapped (hquote : IsQuoteMark quote) (inner : Text) :
    unwrapQuotes (quote :: (inner ++ [quote])) = inner := by
  simp [unwrapQuotes, isQuote_iff.mpr hquote]

lemma unwrapQuotes_eq_self_iff : unwrapQuotes t = t ↔ ¬IsWrapped t := by
  constructor
  · rintro hself ⟨quote, inner, hquote, rfl⟩
    have hlength := congrArg List.length hself
    rw [unwrapQuotes_wrapped hquote, List.length_cons, List.length_append] at hlength
    omega
  · intro hwrapped
    cases t with
    | nil => rfl
    | cons quote rest =>
        rw [unwrapQuotes]
        refine if_neg fun hquotes => hwrapped ?_
        rw [Bool.and_eq_true, decide_eq_true_iff] at hquotes
        exact ⟨quote, rest.dropLast, isQuote_iff.mp hquotes.1, by
          rw [List.dropLast_append_getLast? quote hquotes.2]⟩

instance : DecidablePred IsWrapped := fun _ =>
  decidable_of_iff _ (not_congr unwrapQuotes_eq_self_iff |>.trans not_not)

/-- What a text says that may stand in quotes: what is between them, or all of it if it has no pair
of equal quotes around it. -/
inductive Unwraps (t : Text) : Text → Prop
  | wrapped {quote : Char} {inner : Text} (isQuoteMark : IsQuoteMark quote)
      (text_eq : t = quote :: (inner ++ [quote])) : Unwraps t inner
  | plain (plain : ¬IsWrapped t) : Unwraps t t

/-- **A text in quotes** is read as what it says. -/
lemma unwrapQuotes_eq_iff : unwrapQuotes t = inner ↔ Unwraps t inner := by
  constructor
  · rintro rfl
    by_cases hwrapped : IsWrapped t
    · obtain ⟨quote, inner, hquote, rfl⟩ := hwrapped
      exact (unwrapQuotes_wrapped hquote inner).symm ▸ .wrapped hquote rfl
    · exact (unwrapQuotes_eq_self_iff.mpr hwrapped).symm ▸ .plain hwrapped
  · intro h
    cases h with
    | wrapped hquote htext => exact htext ▸ unwrapQuotes_wrapped hquote inner
    | plain hplain => exact unwrapQuotes_eq_self_iff.mpr hplain

end Text

end TweeStory
