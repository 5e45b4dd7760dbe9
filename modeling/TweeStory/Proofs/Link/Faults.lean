/-
What is wrong with the texts of malformed links, and what is said of it.

* `IsLinkMark`, `LinkStyle.IsMalformed`: the characters that have a meaning in links, and the
  shapes that are to be warned about;
* `Text.IsLooseAt`, `Text.looseQuotes_eq_countP`: the places inside a text where a quote stands
  with no backslash right before it, and how many there are;
* `LinkBody.Deserves`, `LinkBody.IsDue`: the warnings that the text of a malformed link deserves,
  and those that are due for a link;
* `LinkBody.IsStub`, `LinkBody.Earns`: texts that are too short to be judged, and the warnings
  that a link gets;
* `Line.IsWarnedBy`, `Line.isWarnedBy_checkLinks`: the links of a line get them one after the
  other, and they are what is due unless a text is a stub;
* `Line.not_isWarnedBy_nameless`: a link with an empty text gets a warning that is not due.
-/
import Mathlib.Data.List.Forall2
import TweeStory.Link.Check
import TweeStory.Proofs.Text.Quotes

namespace TweeStory

/-! ### Marks and shapes -/

/-- A bracket, a quote or a backslash, which have a meaning in links and in their quoting. -/
def IsLinkMark (c : Char) : Prop :=
  c = '[' ∨ c = ']' ∨ IsQuoteMark c ∨ c = '\\'

lemma isSpecial_iff_isLinkMark {c : Char} : isSpecial c ↔ IsLinkMark c := by
  simp [isSpecial, IsLinkMark, IsQuoteMark, or_assoc]

lemma all_isSpecial_iff {t : Text} : t.all isSpecial ↔ ∀ c ∈ t, IsLinkMark c := by
  simp only [List.all_eq_true, isSpecial_iff_isLinkMark]

/-- A shape that a separator gives away but that the sides do not fit. -/
def LinkStyle.IsMalformed (style : LinkStyle) : Prop :=
  style = .malformedArrow ∨ style = .malformedPipe ∨ style = .malformedReverse

lemma LinkStyle.isMalformed_iff {style : LinkStyle} : style.isMalformed ↔ style.IsMalformed := by
  cases style <;> simp [isMalformed, IsMalformed]

/-! ### Loose quotes -/

namespace Text

/-- Strictly inside the text a quote stands with no backslash right before it. -/
def IsLooseAt (quote : Char) (t : Text) (i : Nat) : Prop :=
  0 < i ∧ i + 1 < t.length ∧ t[i]? = some quote ∧ t[i - 1]? ≠ some '\\'

instance (quote : Char) (t : Text) : DecidablePred (IsLooseAt quote t) := fun i =>
  inferInstanceAs (Decidable (0 < i ∧ i + 1 < t.length ∧ t[i]? = some quote ∧
    t[i - 1]? ≠ some '\\'))

/-- The loose quotes of a text are those behind another character than a backslash, where the
character before the text is known. -/
lemma looseQuotes_eq_countP_range (quote before : Char) (t : Text) :
    looseQuotes quote (before == '\\') t =
      (List.range t.length).countP fun i =>
        decide (t[i]? = some quote ∧ (before :: t)[i]? ≠ some '\\') := by
  induction t generalizing before with
  | nil => rfl
  | cons c t ih =>
      have hlater : ((fun i => decide ((c :: t)[i]? = some quote ∧
          (before :: c :: t)[i]? ≠ some '\\')) ∘ Nat.succ) =
          fun i => decide (t[i]? = some quote ∧ (c :: t)[i]? ≠ some '\\') := by
        funext i
        simp
      rw [looseQuotes, ih c, List.length_cons, List.range_succ_eq_map, List.countP_cons,
        List.countP_map, hlater, Nat.add_comm]
      simp

/-- **The loose quotes between two others** are counted by their places. -/
lemma looseQuotes_eq_countP {quote : Char} (hne : quote ≠ '\\') (inner : Text) :
    looseQuotes quote false inner =
      (List.range (quote :: (inner ++ [quote])).length).countP
        (IsLooseAt quote (quote :: (inner ++ [quote]))) := by
  have hfirst : ¬IsLooseAt quote (quote :: (inner ++ [quote])) 0 := fun h => absurd h.1 (by decide)
  have hlast : ¬IsLooseAt quote (quote :: (inner ++ [quote])) (inner.length + 1) := fun h => by
    have hlt := h.2.1
    simp at hlt
  have hinner : ∀ i ∈ List.range inner.length,
      decide (IsLooseAt quote (quote :: (inner ++ [quote])) (i + 1)) =
        decide (inner[i]? = some quote ∧ (quote :: inner)[i]? ≠ some '\\') := by
    intro i hi
    have hlt : i < inner.length := List.mem_range.mp hi
    have hbefore : (quote :: (inner ++ [quote]))[i]? = (quote :: inner)[i]? := by
      rw [← List.cons_append, List.getElem?_append_left (by simp; omega)]
    rw [decide_eq_decide, IsLooseAt, Nat.add_sub_cancel, hbefore, List.getElem?_cons_succ,
      List.getElem?_append_left hlt]
    simp [hlt]
  have hcount := looseQuotes_eq_countP_range quote quote inner
  rw [beq_false_of_ne hne] at hcount
  rw [hcount, List.length_cons, List.length_append, List.length_singleton,
    List.range_succ_eq_map, List.countP_cons_of_neg (by simpa using hfirst), List.countP_map,
    List.range_succ, List.countP_append, List.countP_singleton]
  rw [if_neg (by simpa using hlast), Nat.add_zero]
  exact (List.countP_congr fun i hi => by
    rw [Function.comp_apply, Nat.succ_eq_add_one, hinner i hi]).symm

end Text

/-! ### What links deserve -/

namespace LinkBody

open Text

variable {quote : Char} {t : Text} {kinds : List WarningKind} {link : LinkBody}

/-- The warnings that the text of a malformed link deserves.  A text that begins with a quote has
to be closed by another one at its end, and to hold no loose ones between them; a text that does
not begin with one must not be made of brackets, quotes and backslashes only. -/
inductive Deserves (t : Text) : List WarningKind → Prop
  | unterminated {quote : Char} (isQuote : IsQuoteMark quote) (opens : t.head? = some quote)
      (notClosed : ¬∃ inner, t = quote :: (inner ++ [quote])) :
      Deserves t [.unterminatedQuote t quote]
  | quoted {quote : Char} (isQuote : IsQuoteMark quote)
      (closed : ∃ inner, t = quote :: (inner ++ [quote])) :
      Deserves t (List.replicate ((List.range t.length).countP (IsLooseAt quote t))
        (.unquotedQuote t quote))
  | special (unquoted : ∀ quote, IsQuoteMark quote → t.head? ≠ some quote)
      (special : t ≠ [] ∧ ∀ c ∈ t, IsLinkMark c) :
      Deserves t [.unquotedSpecialCharacters t]
  | plain (unquoted : ∀ quote, IsQuoteMark quote → t.head? ≠ some quote)
      (other : ¬(t ≠ [] ∧ ∀ c ∈ t, IsLinkMark c)) :
      Deserves t []

/-- The warnings that are due for a link: only malformed ones are to be warned about. -/
inductive IsDue (link : LinkBody) : List WarningKind → Prop
  | wellFormed (wellFormed : ¬link.style.IsMalformed) : IsDue link []
  | malformed {kinds : List WarningKind} (malformed : link.style.IsMalformed)
      (deserves : Deserves link.text kinds) : IsDue link kinds

/-! ### What links get -/

/-- A text that is too short to be judged: it is empty, or a quote alone. -/
def IsStub (t : Text) : Prop :=
  t = [] ∨ ∃ quote, IsQuoteMark quote ∧ t = [quote]

/-- The warnings that a link gets.  They are those that are due, but an empty text counts as made
of special characters, and a quote alone counts as closed by itself. -/
inductive Earns (link : LinkBody) : List WarningKind → Prop
  | empty (malformed : link.style.IsMalformed) (text_eq : link.text = []) :
      Earns link [.unquotedSpecialCharacters []]
  | lone {quote : Char} (malformed : link.style.IsMalformed) (isQuote : IsQuoteMark quote)
      (text_eq : link.text = [quote]) : Earns link []
  | due {kinds : List WarningKind} (fit : link.style.IsMalformed → ¬IsStub link.text)
      (isDue : IsDue link kinds) : Earns link kinds

lemma deserves_textFaults (h : ¬IsStub t) : Deserves t (textFaults t) := by
  obtain ⟨hne, hlone⟩ := not_or.mp h
  obtain ⟨c, rest, rfl⟩ := List.exists_cons_of_ne_nil hne
  rw [textFaults]
  by_cases hquote : IsQuoteMark c
  · rw [if_pos (isQuote_iff.mpr hquote)]
    rcases List.eq_nil_or_concat' rest with rfl | ⟨inner, last, rfl⟩
    · exact absurd ⟨c, hquote, rfl⟩ hlone
    · have hlast : (c :: (inner ++ [last])).getLast? = some last := by
        rw [← List.cons_append, List.getLast?_concat]
      rw [hlast]
      by_cases heq : last = c
      · subst heq
        have hslash : last ≠ '\\' := by
          rcases hquote with rfl | rfl <;> decide
        rw [if_pos rfl, List.dropLast_concat, looseQuotes_eq_countP hslash]
        exact .quoted hquote ⟨inner, rfl⟩
      · rw [if_neg fun hsome => heq (Option.some.inj hsome)]
        refine .unterminated hquote rfl ?_
        rintro ⟨inner', hinner⟩
        obtain ⟨-, hlast'⟩ := List.append_inj' (List.cons.inj hinner).2 rfl
        exact heq (List.cons.inj hlast').1
  · have hunquoted : ∀ quote, IsQuoteMark quote → (c :: rest).head? ≠ some quote := by
      rintro quote hopen hhead
      exact hquote (Option.some.inj hhead ▸ hopen)
    rw [if_neg fun h => hquote (isQuote_iff.mp h)]
    by_cases hspecial : (c :: rest).all isSpecial
    · rw [if_pos hspecial]
      exact .special hunquoted ⟨hne, all_isSpecial_iff.mp hspecial⟩
    · rw [if_neg hspecial]
      exact .plain hunquoted fun h => hspecial (all_isSpecial_iff.mpr h.2)

/-- Whatever a link is, it gets its warnings. -/
lemma earns_faults (link : LinkBody) : link.Earns link.faults := by
  rw [faults]
  by_cases hmalformed : link.style.IsMalformed
  · rw [if_pos (LinkStyle.isMalformed_iff.mpr hmalformed)]
    by_cases hstub : IsStub link.text
    · rcases hstub with hnil | ⟨quote, hquote, hlone⟩
      · rw [hnil]
        exact .empty hmalformed hnil
      · have hfaults : textFaults [quote] = [] := by
          rw [textFaults, if_pos (isQuote_iff.mpr hquote),
            if_pos List.getLast?_singleton]
          rfl
        rw [hlone, hfaults]
        exact .lone hmalformed hquote hlone
    · exact .due (fun _ => hstub) (.malformed hmalformed (deserves_textFaults hstub))
  · rw [if_neg fun h => hmalformed (LinkStyle.isMalformed_iff.mp h)]
    exact .due (fun h => absurd h hmalformed) (.wellFormed hmalformed)

/-- A link gets what is due if its text is no stub. -/
lemma Earns.isDue (h : link.Earns kinds) (hfit : link.style.IsMalformed → ¬IsStub link.text) :
    link.IsDue kinds := by
  cases h with
  | empty hmalformed htext => exact absurd (Or.inl htext) (hfit hmalformed)
  | lone hmalformed hquote htext => exact absurd (Or.inr ⟨_, hquote, htext⟩) (hfit hmalformed)
  | due _ hdue => exact hdue

end LinkBody

/-! ### Lines -/

namespace Line

open LinkBody

variable {line : Line} {rule : LinkBody → List WarningKind → Prop}

/-- The warnings about a line are those that a rule gives for its links, from left to right, each
with the origin of the line. -/
def IsWarnedBy (line : Line) (rule : LinkBody → List WarningKind → Prop) : Prop :=
  ∃ verdicts, List.Forall₂ rule ((Link.bodies line.text).map LinkBody.parse) verdicts ∧
    line.checkLinks.2 = verdicts.flatten.map fun kind => ⟨kind, some line.origin, none⟩

/-- A rule that holds of every link by itself holds of the line. -/
lemma isWarnedBy_of_forall
    (h : ∀ body ∈ Link.bodies line.text, rule (LinkBody.parse body) (LinkBody.parse body).faults) :
    line.IsWarnedBy rule := by
  refine ⟨(Link.bodies line.text).map fun body => (LinkBody.parse body).faults, ?_, ?_⟩
  · rw [List.forall₂_map_left_iff, List.forall₂_map_right_iff, List.forall₂_same]
    exact h
  · simp only [checkLinks, Link.ofLine, List.map_flatten, List.map_map, List.flatMap_def,
      Link.warnings, Function.comp_def]

/-- **The warnings about a line** are those that its links get, and those that are due if no text
of a malformed link is a stub. -/
theorem isWarnedBy_checkLinks (line : Line) :
    line.IsWarnedBy Earns ∧
      ((∀ body ∈ Link.bodies line.text, (LinkBody.parse body).style.IsMalformed →
          ¬IsStub (LinkBody.parse body).text) →
        line.IsWarnedBy IsDue) := by
  refine ⟨isWarnedBy_of_forall fun body _ => earns_faults _, fun hfit => ?_⟩
  exact isWarnedBy_of_forall fun body hbody => (earns_faults _).isDue (hfit body hbody)

/-- A line with a text that closes its quote but holds two loose ones, one that does not close it,
and one that is made of special characters. -/
def quotes : Line :=
  ⟨⟨0, 1⟩, "[[\"a\"b\"c\"|x]] [['a->x]] [[\\'->x]]".toList, []⟩

example : quotes.checkLinks.2 =
    [⟨.unquotedQuote "\"a\"b\"c\"".toList '"', some ⟨0, 1⟩, none⟩,
      ⟨.unquotedQuote "\"a\"b\"c\"".toList '"', some ⟨0, 1⟩, none⟩,
      ⟨.unterminatedQuote "'a".toList '\'', some ⟨0, 1⟩, none⟩,
      ⟨.unquotedSpecialCharacters "\\'".toList, some ⟨0, 1⟩, none⟩] := by
  decide

theorem isWarnedBy_isDue_quotes :
    (∀ body ∈ Link.bodies quotes.text, (LinkBody.parse body).style.IsMalformed →
      ¬IsStub (LinkBody.parse body).text) ∧ quotes.IsWarnedBy IsDue := by
  have hfit : ∀ body ∈ Link.bodies quotes.text, (LinkBody.parse body).style.IsMalformed →
      ¬IsStub (LinkBody.parse body).text := by
    have hlong : ∀ body ∈ Link.bodies quotes.text, 2 ≤ (LinkBody.parse body).text.length := by
      decide
    intro body hbody _ hstub
    have hle := hlong body hbody
    rcases hstub with hnil | ⟨quote, -, hlone⟩
    · rw [hnil] at hle
      exact absurd hle (by decide)
    · rw [hlone, List.length_singleton] at hle
      exact absurd hle (by decide)
  exact ⟨hfit, (isWarnedBy_checkLinks quotes).2 hfit⟩

/-- A line with a link that has no text. -/
def nameless : Line :=
  ⟨⟨0, 1⟩, "[[->Pier]]".toList, []⟩

/-- No warning is due for a link without a text, and it gets one. -/
theorem not_isWarnedBy_nameless : ¬nameless.IsWarnedBy IsDue := by
  rintro ⟨verdicts, hrule, hwarnings⟩
  have hparse : (Link.bodies nameless.text).map LinkBody.parse =
      [⟨.malformedArrow, [], "Pier".toList⟩] := by decide
  have hcheck : nameless.checkLinks.2 =
      [⟨.unquotedSpecialCharacters [], some nameless.origin, none⟩] := by decide
  rw [hparse, List.forall₂_cons_left_iff] at hrule
  obtain ⟨kinds, later, hdue, hlater, rfl⟩ := hrule
  obtain rfl := List.forall₂_nil_left_iff.mp hlater
  have hnil : kinds = [] := by
    cases hdue with
    | wellFormed _ => rfl
    | malformed _ hdeserves =>
        cases hdeserves with
        | unterminated _ hopens _ => cases hopens
        | quoted _ hclosed =>
            obtain ⟨inner, hinner⟩ := hclosed
            cases hinner
        | special _ hspecial => exact absurd rfl hspecial.1
        | plain _ _ => rfl
  rw [hcheck, hnil] at hwarnings
  cases hwarnings

end Line

end TweeStory
