/-
How strings and numbers are written in JSON, and that they are read so.

* `WritesPiece`, `WritesPieces`: the text of a string between its quotes;
* `pieces?_append`, `exists_of_pieces?`: what is read up to the closing quote;
* `AreDigits`, `IsWhole`, `IsFraction`, `IsExponent`, `IsNumber`: the text of a number;
* `EndsNumber`, `afterNumber?_append`, `exists_of_afterNumber?`: what is left behind a number, where
  the text does not go on with it.
-/
import Mathlib.Data.List.TakeWhile
import Mathlib.Tactic.Lemma
import TweeStory.Json.Basic

namespace TweeStory.Json

variable {t rest body number digits : Text} {piece : Piece} {ps : List Piece}

/-! ### Strings -/

/-- A text writes a piece of a string: a character that may stand for itself, or a backslash with
what it gives. -/
inductive WritesPiece : Text → Piece → Prop
  | char {c : Char} (hquote : c ≠ '"') (hslash : c ≠ '\\') (hcontrol : 0x20 ≤ c.toNat) :
      WritesPiece [c] (.char c)
  | escape {letter c : Char} (h : escape? letter = some c) : WritesPiece ['\\', letter] (.char c)
  | unit {a b c d : Char} {n : Nat} (h : hexNumber? a b c d = some n) :
      WritesPiece ['\\', 'u', a, b, c, d] (.unit n)

/-- A text writes the pieces of a string, one behind the other. -/
inductive WritesPieces : Text → List Piece → Prop
  | nil : WritesPieces [] []
  | cons {s t : Text} {piece : Piece} {ps : List Piece} (h : WritesPiece s piece)
      (ht : WritesPieces t ps) : WritesPieces (s ++ t) (piece :: ps)

/-- One piece is read in front of the others. -/
lemma pieces?_piece {s : Text} (h : WritesPiece s piece) (t : Text) :
    pieces? (s ++ t) = (pieces? t).map fun read => (piece :: read.1, read.2) := by
  cases h with
  | char hquote hslash hcontrol =>
      rw [List.singleton_append, pieces?]
      · rw [if_neg (Nat.not_lt.mpr hcontrol)]
        cases pieces? t <;> rfl
      · exact fun heq => hquote heq
      · exact fun _ _ _ _ _ heq => absurd heq hslash
      · exact fun _ _ heq => absurd heq hslash
  | escape h =>
      rw [List.cons_append, List.singleton_append, pieces?, h]
      · cases pieces? t <;> rfl
      · rintro _ _ _ _ _ rfl
        cases h
  | unit h =>
      simp only [List.cons_append, List.nil_append, pieces?, h]
      cases pieces? t <;> rfl

/-- **A string is read up to its closing quote.** -/
lemma pieces?_append (h : WritesPieces body ps) (rest : Text) :
    pieces? (body ++ '"' :: rest) = some (ps, rest) := by
  induction h with
  | nil => rfl
  | cons h _ ih =>
      rw [List.append_assoc, pieces?_piece h, ih]
      rfl

/-- A piece that is read stands in front of what is read behind it. -/
lemma exists_of_pieces?_piece {s : Text} (hpiece : WritesPiece s piece)
    (h : pieces? (s ++ t) = some (ps, rest))
    (htail : ∀ qs, pieces? t = some (qs, rest) →
      ∃ body, WritesPieces body qs ∧ t = body ++ '"' :: rest) :
    ∃ body, WritesPieces body ps ∧ s ++ t = body ++ '"' :: rest := by
  rw [pieces?_piece hpiece] at h
  obtain ⟨⟨qs, _⟩, hqs, heq⟩ := Option.map_eq_some_iff.mp h
  cases heq
  obtain ⟨body, hbody, rfl⟩ := htail qs hqs
  exact ⟨s ++ body, .cons hpiece hbody, (List.append_assoc _ _ _).symm⟩

/-- What is read of a string is its text, and the quote behind it. -/
lemma exists_of_pieces? (h : pieces? t = some (ps, rest)) :
    ∃ body, WritesPieces body ps ∧ t = body ++ '"' :: rest := by
  induction t using pieces?.induct generalizing ps with
  | case1 => cases h
  | case2 t =>
      cases h
      exact ⟨[], .nil, rfl⟩
  | case3 a b c d t ih =>
      cases hnumber : hexNumber? a b c d with
      | none =>
          rw [pieces?, hnumber] at h
          cases h
      | some n => exact exists_of_pieces?_piece (.unit hnumber) h fun _ => ih
  | case4 c t hunit ih =>
      cases hescape : escape? c with
      | none =>
          rw [pieces?, hescape] at h
          · cases h
          · exact hunit
      | some e => exact exists_of_pieces?_piece (.escape hescape) h fun _ => ih
  | case5 c t hquote hunit hescape hcontrol ih =>
      rw [pieces?, if_pos hcontrol] at h
      · cases h
      all_goals assumption
  | case6 c t hquote hunit hescape hcontrol ih =>
      by_cases hslash : c = '\\'
      · -- a backslash with nothing behind it
        cases t with
        | nil =>
            subst hslash
            cases h
        | cons d t => exact (hescape d t hslash rfl).elim
      · exact exists_of_pieces?_piece (.char hquote hslash (Nat.not_lt.mp hcontrol)) h fun _ => ih

/-! ### Numbers -/

/-- One digit or more. -/
structure AreDigits (t : Text) : Prop where
  ne_nil : t ≠ []
  digit : ∀ c ∈ t, c.isDigit

/-- The whole part of a number: a zero, or digits that do not begin with one. -/
inductive IsWhole : Text → Prop
  | zero : IsWhole ['0']
  | digits {c : Char} {t : Text} (hzero : c ≠ '0') (h : AreDigits (c :: t)) : IsWhole (c :: t)

/-- The fraction of a number, which may be left out. -/
inductive IsFraction : Text → Prop
  | absent : IsFraction []
  | digits {t : Text} (h : AreDigits t) : IsFraction ('.' :: t)

/-- The exponent of a number, which may be left out, and which may have a sign. -/
inductive IsExponent : Text → Prop
  | absent : IsExponent []
  | digits {c : Char} {sign t : Text} (hc : beginsExponent c) (hsign : sign ∈ [[], ['+'], ['-']])
      (h : AreDigits t) : IsExponent (c :: (sign ++ t))

/-- A text writes a number. -/
inductive IsNumber : Text → Prop
  | mk {sign whole fraction exponent : Text} (hsign : sign ∈ [[], ['-']]) (hwhole : IsWhole whole)
      (hfraction : IsFraction fraction) (hexponent : IsExponent exponent) :
      IsNumber (sign ++ (whole ++ (fraction ++ exponent)))

/-- A text does not go on with a number that ends in front of it. -/
def EndsNumber (rest : Text) : Prop :=
  ∀ c ∈ rest.head?, c.isDigit = false ∧ c ≠ '.' ∧ beginsExponent c = false

lemma not_isDigit_of_beginsExponent {c : Char} (h : beginsExponent c) :
    c.isDigit = false ∧ c ≠ '.' := by
  rw [beginsExponent, Bool.or_eq_true, beq_iff_eq, beq_iff_eq] at h
  rcases h with rfl | rfl <;> decide

lemma AreDigits.exists_cons (h : AreDigits t) : ∃ c u, t = c :: u ∧ c.isDigit := by
  obtain ⟨c, u, rfl⟩ := List.exists_cons_of_ne_nil h.ne_nil
  exact ⟨c, u, rfl, h.digit c List.mem_cons_self⟩

lemma afterDigits?_append (h : AreDigits t) (hrest : ∀ c ∈ rest.head?, c.isDigit = false) :
    afterDigits? (t ++ rest) = some rest := by
  obtain ⟨c, u, rfl, hc⟩ := h.exists_cons
  have hu : ∀ d ∈ u, d.isDigit := fun d hd => h.digit d (List.mem_cons_of_mem _ hd)
  rw [List.cons_append, afterDigits?, if_pos hc, List.dropWhile_append_of_pos hu]
  cases rest with
  | nil => rfl
  | cons d rest => rw [List.dropWhile_cons_of_neg (by simp [hrest d rfl])]

lemma exists_of_afterDigits? (h : afterDigits? t = some rest) :
    ∃ digits, AreDigits digits ∧ t = digits ++ rest := by
  cases t with
  | nil => cases h
  | cons c t =>
      rw [afterDigits?] at h
      split_ifs at h with hc
      obtain rfl := Option.some.inj h
      refine ⟨c :: t.takeWhile Char.isDigit, ⟨List.cons_ne_nil _ _, ?_⟩, ?_⟩
      · rintro d (_ | ⟨_, hd⟩)
        · exact hc
        · exact List.mem_takeWhile_imp hd
      · rw [List.cons_append, List.takeWhile_append_dropWhile]

lemma afterWhole?_append (h : IsWhole t) (hrest : ∀ c ∈ rest.head?, c.isDigit = false) :
    afterWhole? (t ++ rest) = some rest := by
  cases h with
  | zero =>
      cases rest with
      | nil => rfl
      | cons d rest => simp [afterWhole?, hrest d rfl]
  | digits hzero h =>
      rw [← afterDigits?_append h hrest, List.cons_append, afterWhole?]
      · rintro ⟨⟩
      · rintro u ⟨⟩
        exact hzero rfl

lemma exists_of_afterWhole? (h : afterWhole? t = some rest) :
    ∃ whole, IsWhole whole ∧ t = whole ++ rest := by
  rw [afterWhole?.eq_def] at h
  split at h
  · cases h
  · split at h
    · split_ifs at h
      obtain rfl := Option.some.inj h
      exact ⟨['0'], .zero, rfl⟩
    · obtain rfl := Option.some.inj h
      exact ⟨['0'], .zero, rfl⟩
  · rename_i hzero
    obtain ⟨digits, hdigits, rfl⟩ := exists_of_afterDigits? h
    obtain ⟨c, u, rfl, -⟩ := hdigits.exists_cons
    exact ⟨c :: u, .digits (fun heq => hzero (u ++ rest) (heq ▸ rfl)) hdigits, rfl⟩

lemma afterFraction?_append (h : IsFraction t)
    (hrest : ∀ c ∈ rest.head?, c.isDigit = false ∧ c ≠ '.') :
    afterFraction? (t ++ rest) = some rest := by
  cases h with
  | absent =>
      rw [List.nil_append, afterFraction?]
      rintro u rfl
      exact (hrest '.' rfl).2 rfl
  | digits h => exact afterDigits?_append h fun c hc => (hrest c hc).1

lemma exists_of_afterFraction? (h : afterFraction? t = some rest) :
    ∃ fraction, IsFraction fraction ∧ t = fraction ++ rest := by
  rw [afterFraction?.eq_def] at h
  split at h
  · obtain ⟨digits, hdigits, rfl⟩ := exists_of_afterDigits? h
    exact ⟨'.' :: digits, .digits hdigits, rfl⟩
  · obtain rfl := Option.some.inj h
    exact ⟨[], .absent, rfl⟩

lemma afterExponent?_append (h : IsExponent t)
    (hrest : ∀ c ∈ rest.head?, c.isDigit = false ∧ beginsExponent c = false) :
    afterExponent? (t ++ rest) = some rest := by
  cases h with
  | absent =>
      cases rest with
      | nil => rfl
      | cons c rest => simp [afterExponent?, (hrest c rfl).2]
  | digits hc hsign h =>
      have hdigits := afterDigits?_append h fun c hc => (hrest c hc).1
      simp only [List.mem_cons, List.not_mem_nil, or_false] at hsign
      rcases hsign with rfl | rfl | rfl
      · obtain ⟨d, u, rfl, hd⟩ := h.exists_cons
        rw [List.nil_append, List.cons_append, afterExponent?, if_pos hc]
        · exact hdigits
        · rintro v ⟨⟩
          cases hd
        · rintro v ⟨⟩
          cases hd
      · exact (if_pos hc).trans hdigits
      · exact (if_pos hc).trans hdigits

lemma exists_of_afterExponent? (h : afterExponent? t = some rest) :
    ∃ exponent, IsExponent exponent ∧ t = exponent ++ rest := by
  rw [afterExponent?.eq_def] at h
  split at h
  · obtain rfl := Option.some.inj h
    exact ⟨[], .absent, rfl⟩
  · rename_i c t
    split_ifs at h with hc
    · split at h
      all_goals obtain ⟨digits, hdigits, rfl⟩ := exists_of_afterDigits? h
      · exact ⟨_, @IsExponent.digits _ ['+'] _ hc (by simp) hdigits, rfl⟩
      · exact ⟨_, @IsExponent.digits _ ['-'] _ hc (by simp) hdigits, rfl⟩
      · exact ⟨_, @IsExponent.digits _ [] _ hc (by simp) hdigits, rfl⟩
    · obtain rfl := Option.some.inj h
      exact ⟨[], .absent, rfl⟩

lemma IsWhole.exists_cons (h : IsWhole t) : ∃ c u, t = c :: u ∧ c.isDigit := by
  cases h with
  | zero => exact ⟨'0', [], rfl, rfl⟩
  | digits _ h => exact h.exists_cons

/-- What may stand behind a number may stand behind each of its parts. -/
lemma EndsNumber.exponent (h : EndsNumber rest) {exponent : Text}
    (hexponent : IsExponent exponent) :
    ∀ c ∈ (exponent ++ rest).head?, c.isDigit = false ∧ c ≠ '.' := by
  cases hexponent with
  | absent => exact fun c hc => ⟨(h c hc).1, (h c hc).2.1⟩
  | digits hc =>
      rintro _ ⟨⟩
      exact not_isDigit_of_beginsExponent hc

lemma head?_append_of_isFraction {fraction : Text} (h : IsFraction fraction)
    (hrest : ∀ c ∈ rest.head?, c.isDigit = false) :
    ∀ c ∈ (fraction ++ rest).head?, c.isDigit = false := by
  cases h with
  | absent => exact hrest
  | digits _ =>
      rintro _ ⟨⟩
      rfl

/-- **A number is read up to where it ends.** -/
lemma afterNumber?_append (h : IsNumber t) (hrest : EndsNumber rest) :
    afterNumber? (t ++ rest) = some rest := by
  cases h with
  | @mk sign whole fraction exponent hsign hwhole hfraction hexponent =>
      have hbehind := hrest.exponent hexponent
      have hunsigned : ((afterWhole? (whole ++ (fraction ++ (exponent ++ rest)))).bind
          afterFraction?).bind afterExponent? = some rest := by
        rw [afterWhole?_append hwhole
            (head?_append_of_isFraction hfraction fun c hc => (hbehind c hc).1),
          Option.bind_some, afterFraction?_append hfraction hbehind, Option.bind_some,
          afterExponent?_append hexponent fun c hc => ⟨(hrest c hc).1, (hrest c hc).2.2⟩]
      have hstart : (Text.after? ['-'] (sign ++ (whole ++ (fraction ++ (exponent ++ rest))))).getD
          (sign ++ (whole ++ (fraction ++ (exponent ++ rest)))) =
            whole ++ (fraction ++ (exponent ++ rest)) := by
        simp only [List.mem_cons, List.not_mem_nil, or_false] at hsign
        rcases hsign with rfl | rfl
        · obtain ⟨c, u, rfl, hc⟩ := hwhole.exists_cons
          have hne : '-' ≠ c := by
            rintro rfl
            cases hc
          rw [List.nil_append, List.cons_append, Text.after?, if_neg hne]
          rfl
        · rw [Text.after?_append]
          rfl
      simp only [List.append_assoc, afterNumber?, hstart, hunsigned]

lemma exists_of_afterNumber? (h : afterNumber? t = some rest) :
    ∃ number, IsNumber number ∧ t = number ++ rest := by
  obtain ⟨u, hu, hrest⟩ := Option.bind_eq_some_iff.mp h
  obtain ⟨v, hv, hv'⟩ := Option.bind_eq_some_iff.mp hu
  obtain ⟨exponent, hexponent, rfl⟩ := exists_of_afterExponent? hrest
  obtain ⟨fraction, hfraction, rfl⟩ := exists_of_afterFraction? hv'
  obtain ⟨whole, hwhole, hstart⟩ := exists_of_afterWhole? hv
  cases hsign : Text.after? ['-'] t with
  | none =>
      rw [hsign, Option.getD_none] at hstart
      exact ⟨_, @IsNumber.mk [] _ _ _ (by simp) hwhole hfraction hexponent, by simp [hstart]⟩
  | some unsigned =>
      rw [hsign, Option.getD_some] at hstart
      refine ⟨_, @IsNumber.mk ['-'] _ _ _ (by simp) hwhole hfraction hexponent, ?_⟩
      rw [Text.after?_eq_some_iff.mp hsign, hstart]
      simp

end TweeStory.Json
