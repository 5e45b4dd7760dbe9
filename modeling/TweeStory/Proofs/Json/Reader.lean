/-
How values are written in JSON, and that exactly these texts are read.

* `Writes`, `WritesSpaced`, `WritesItems`, `WritesMember`, `WritesMembers`: the text of a value,
  of a value with spaces around it, and of what stands between brackets and between braces;
* `ReadsWritten`, `readsWritten`: what is written is read, with as many steps as the text has
  characters;
* `ReadIsWritten`, `readIsWritten`: what is read is written;
* `parse?_eq_some_iff`: the value of a text.
-/
import Mathlib.Data.List.DropRight
import Mathlib.Data.List.Induction
import TweeStory.Proofs.Json.Lexical

namespace TweeStory.Json

variable {s t u w rest : Text} {v : Json} {vs : List Json} {c : Char} {n : Nat}
  {member : Option Text × Json} {members : List (Option Text × Json)}

/-! ### Grammar -/

/-- A text of spaces, tabs and line ends. -/
def AreSpaces (t : Text) : Prop :=
  ∀ c ∈ t, isSpace c

mutual

/-- A text writes a value. -/
inductive Writes : Text → Json → Prop
  | null : Writes "null".toList .null
  | true : Writes "true".toList (.bool true)
  | false : Writes "false".toList (.bool false)
  | number {t : Text} (h : IsNumber t) : Writes t .number
  | string {t : Text} {ps : List Piece} (h : WritesPieces t ps) :
      Writes ('"' :: (t ++ ['"'])) (.string (textOfPieces? ps))
  | emptyArray {t : Text} (h : AreSpaces t) : Writes ('[' :: (t ++ [']'])) (.array [])
  | array {t : Text} {vs : List Json} (h : WritesItems t vs) :
      Writes ('[' :: (t ++ [']'])) (.array vs)
  | emptyObject {t : Text} (h : AreSpaces t) : Writes ('\x7b' :: (t ++ ['\x7d'])) (.object [])
  | object {t : Text} {members : List (Option Text × Json)} (h : WritesMembers t members) :
      Writes ('\x7b' :: (t ++ ['\x7d'])) (.object members)

/-- A text writes a value, with spaces around it. -/
inductive WritesSpaced : Text → Json → Prop
  | mk {s t u : Text} {v : Json} (hs : AreSpaces s) (h : Writes t v) (hu : AreSpaces u) :
      WritesSpaced (s ++ (t ++ u)) v

/-- A text writes the items of an array, which commas divide. -/
inductive WritesItems : Text → List Json → Prop
  | last {t : Text} {v : Json} (h : WritesSpaced t v) : WritesItems t [v]
  | cons {t u : Text} {v : Json} {vs : List Json} (h : WritesSpaced t v) (hu : WritesItems u vs) :
      WritesItems (t ++ ',' :: u) (v :: vs)

/-- A text writes a member of an object: a string, a colon and a value. -/
inductive WritesMember : Text → Option Text × Json → Prop
  | mk {s key u t : Text} {ps : List Piece} {v : Json} (hs : AreSpaces s)
      (hkey : WritesPieces key ps) (hu : AreSpaces u) (h : WritesSpaced t v) :
      WritesMember (s ++ '"' :: (key ++ '"' :: (u ++ ':' :: t))) (textOfPieces? ps, v)

/-- A text writes the members of an object, which commas divide. -/
inductive WritesMembers : Text → List (Option Text × Json) → Prop
  | last {t : Text} {member : Option Text × Json} (h : WritesMember t member) :
      WritesMembers t [member]
  | cons {t u : Text} {member : Option Text × Json} {members : List (Option Text × Json)}
      (h : WritesMember t member) (hu : WritesMembers u members) :
      WritesMembers (t ++ ',' :: u) (member :: members)

end

/-! ### Spaces -/

lemma skip_append (hs : AreSpaces s) (t : Text) : skip (s ++ t) = skip t :=
  List.dropWhile_append_of_pos hs

lemma skip_cons (hc : isSpace c = false) (t : Text) : skip (c :: t) = c :: t :=
  List.dropWhile_cons_of_neg (by simp [hc])

lemma skip_append_cons (hs : AreSpaces s) (hc : isSpace c = false) (t : Text) :
    skip (s ++ c :: t) = c :: t := by
  rw [skip_append hs, skip_cons hc]

lemma skip_eq_nil (hs : AreSpaces s) : skip s = [] :=
  List.dropWhile_eq_nil_iff.mpr hs

lemma skip_skip (t : Text) : skip (skip t) = skip t :=
  List.dropWhile_idempotent isSpace t

/-- What is skipped are spaces. -/
lemma exists_skip (t : Text) : ∃ s, AreSpaces s ∧ t = s ++ skip t :=
  ⟨t.takeWhile isSpace, fun _ hc => List.mem_takeWhile_imp hc,
    List.takeWhile_append_dropWhile.symm⟩

lemma value?_append (hs : AreSpaces s) (n : Nat) (t : Text) : value? n (s ++ t) = value? n t := by
  cases n with
  | zero => rfl
  | succ n => rw [value?, value?, skip_append hs]

lemma items?_skip (n : Nat) (t : Text) : items? n (skip t) = items? n t := by
  obtain ⟨s, hs, hspaces⟩ := exists_skip t
  cases n with
  | zero => rfl
  | succ n =>
      conv_rhs => rw [hspaces, items?, value?_append hs]
      rw [items?]

lemma members?_skip (n : Nat) (t : Text) : members? n (skip t) = members? n t := by
  cases n with
  | zero => rfl
  | succ n => rw [members?, members?, skip_skip]

/-! ### What is written is read -/

/-- A character may begin a value: it is no space, and it does not close an array. -/
structure BeginsValue (c : Char) : Prop where
  isSpace : isSpace c = false
  ne_bracket : c ≠ ']'

/-- A character begins a number. -/
def BeginsNumber (c : Char) : Prop :=
  c.isDigit || c == '-'

lemma IsNumber.exists_cons (h : IsNumber t) : ∃ c u, t = c :: u ∧ BeginsNumber c := by
  cases h with
  | mk hsign hwhole =>
      simp only [List.mem_cons, List.not_mem_nil, or_false] at hsign
      rcases hsign with rfl | rfl
      · obtain ⟨c, u, rfl, hc⟩ := hwhole.exists_cons
        exact ⟨c, _, rfl, by rw [BeginsNumber, hc]; rfl⟩
      · exact ⟨'-', _, rfl, rfl⟩

lemma BeginsNumber.ne {d : Char} (h : BeginsNumber c) (hd : (d.isDigit || d == '-') = false) :
    c ≠ d := by
  rintro rfl
  rw [BeginsNumber, hd] at h
  cases h

lemma BeginsNumber.beginsValue (h : BeginsNumber c) : BeginsValue c where
  isSpace := by simp [isSpace, h.ne]
  ne_bracket := h.ne rfl

lemma Writes.exists_cons (h : Writes t v) : ∃ c u, t = c :: u ∧ BeginsValue c := by
  cases h with
  | null => exact ⟨'n', _, rfl, by decide, by decide⟩
  | true => exact ⟨'t', _, rfl, by decide, by decide⟩
  | false => exact ⟨'f', _, rfl, by decide, by decide⟩
  | number h =>
      obtain ⟨c, u, rfl, hc⟩ := h.exists_cons
      exact ⟨c, u, rfl, hc.beginsValue⟩
  | string => exact ⟨'"', _, rfl, by decide, by decide⟩
  | emptyArray => exact ⟨'[', _, rfl, by decide, by decide⟩
  | array => exact ⟨'[', _, rfl, by decide, by decide⟩
  | emptyObject => exact ⟨'\x7b', _, rfl, by decide, by decide⟩
  | object => exact ⟨'\x7b', _, rfl, by decide, by decide⟩

/-- A value begins where the spaces in front of it end. -/
lemma WritesSpaced.exists_skip (h : WritesSpaced t v) (rest : Text) :
    ∃ c u, skip (t ++ rest) = c :: u ∧ BeginsValue c := by
  obtain ⟨hs, h, -⟩ := h
  obtain ⟨c, w, rfl, hc⟩ := h.exists_cons
  simp only [List.append_assoc, List.cons_append]
  exact ⟨c, _, skip_append_cons hs hc.isSpace _, hc⟩

lemma WritesItems.exists_skip (h : WritesItems t vs) (rest : Text) :
    ∃ c u, skip (t ++ rest) = c :: u ∧ BeginsValue c := by
  cases h with
  | last h => exact h.exists_skip rest
  | cons h _ =>
      rw [List.append_assoc]
      exact h.exists_skip _

/-- A member begins with a quote. -/
lemma WritesMember.exists_skip (h : WritesMember t member) (rest : Text) :
    ∃ u, skip (t ++ rest) = '"' :: u := by
  obtain ⟨hs, -, -, -⟩ := h
  simp only [List.append_assoc, List.cons_append]
  exact ⟨_, skip_append_cons hs rfl _⟩

lemma WritesMembers.exists_skip (h : WritesMembers t members) (rest : Text) :
    ∃ u, skip (t ++ rest) = '"' :: u := by
  cases h with
  | last h => exact h.exists_skip rest
  | cons h _ =>
      rw [List.append_assoc]
      exact h.exists_skip _

/-- What is written is read with at most `n` steps if it has fewer characters. -/
structure ReadsWritten (n : Nat) : Prop where
  value : ∀ {t v}, Writes t v → t.length < n → ∀ rest, EndsNumber rest →
    value? n (t ++ rest) = some (v, rest)
  items : ∀ {t vs}, WritesItems t vs → t.length + 1 < n → ∀ rest,
    items? n (t ++ ']' :: rest) = some (vs, rest)
  members : ∀ {t members}, WritesMembers t members → t.length + 1 < n → ∀ rest,
    members? n (t ++ '\x7d' :: rest) = some (members, rest)

/-- A number in front of what is no number. -/
lemma value?_number (h : IsNumber t) (hrest : EndsNumber rest) (n : Nat) :
    value? (n + 1) (t ++ rest) = some (.number, rest) := by
  have hnumber := afterNumber?_append h hrest
  obtain ⟨c, u, rfl, hc⟩ := h.exists_cons
  rw [List.cons_append] at hnumber ⊢
  rw [value?, skip_cons hc.beginsValue.isSpace]
  split
  · cases ‹_ :: _ = []›
  · cases ‹_ :: _ = _›
    exact absurd rfl (hc.ne rfl)
  · cases ‹_ :: _ = _›
    exact absurd rfl (hc.ne rfl)
  · cases ‹_ :: _ = _›
    exact absurd rfl (hc.ne rfl)
  · cases ‹_ :: _ = _›
    rw [if_pos (show (c.isDigit || c == '-') = true from hc), hnumber]
    rfl

/-- A character ends a value that stands between brackets or braces. -/
inductive EndsValue : Char → Prop
  | comma : EndsValue ','
  | bracket : EndsValue ']'
  | brace : EndsValue '\x7d'

lemma EndsValue.isSpace_eq_false (h : EndsValue c) : isSpace c = false := by
  cases h <;> rfl

lemma endsNumber_of_areSpaces (hu : AreSpaces u) (hrest : EndsNumber rest) :
    EndsNumber (u ++ rest) := by
  cases u with
  | nil => exact hrest
  | cons d u =>
      have hd := hu d List.mem_cons_self
      simp only [isSpace, Bool.or_eq_true, beq_iff_eq] at hd
      rintro _ ⟨⟩
      rcases hd with ((rfl | rfl) | rfl) | rfl <;> decide

lemma EndsValue.endsNumber (h : EndsValue c) (rest : Text) : EndsNumber (c :: rest) := by
  rintro _ ⟨⟩
  cases h <;> decide

namespace ReadsWritten

/-- A value with its spaces is read up to those behind it. -/
lemma spaced (h : ReadsWritten n) (ht : WritesSpaced t v) (hn : t.length < n) (hc : EndsValue c)
    (rest : Text) : ∃ u, value? n (t ++ c :: rest) = some (v, u) ∧ skip u = c :: rest := by
  cases ht with
  | @mk s w u _ hs hw hu =>
      refine ⟨u ++ c :: rest, ?_, skip_append_cons hu hc.isSpace_eq_false rest⟩
      simp only [List.length_append] at hn
      rw [List.append_assoc, value?_append hs, List.append_assoc]
      exact h.value hw (by omega) _ (endsNumber_of_areSpaces hu (hc.endsNumber rest))

lemma items_succ (h : ReadsWritten n) (ht : WritesItems t vs) (hn : t.length + 1 < n + 1)
    (rest : Text) : items? (n + 1) (t ++ ']' :: rest) = some (vs, rest) := by
  cases ht with
  | last ht =>
      obtain ⟨u, hvalue, hskip⟩ := h.spaced ht (by omega) .bracket rest
      simp only [items?, hvalue, Option.bind_eq_bind, Option.bind_some, hskip]
  | @cons t u v vs ht hu =>
      simp only [List.length_append, List.length_cons] at hn
      obtain ⟨w, hvalue, hskip⟩ :=
        h.spaced ht (by omega) .comma (u ++ ']' :: rest)
      rw [List.append_assoc, List.cons_append]
      simp only [items?, hvalue, Option.bind_eq_bind, Option.bind_some, hskip,
        h.items hu (by omega) rest, Option.map_some]

/-- A member is read with what ends it. -/
lemma members_member (h : ReadsWritten n) (ht : WritesMember t member) (hn : t.length < n)
    (hc : EndsValue c) (rest : Text) : members? (n + 1) (t ++ c :: rest) =
      match c :: rest with
      | ',' :: rest => (members? n rest).map fun (members, rest) => (member :: members, rest)
      | '\x7d' :: rest => some ([member], rest)
      | _ => none := by
  cases ht with
  | @mk s key u t ps v hs hkey hu ht =>
      simp only [List.length_append, List.length_cons] at hn
      obtain ⟨w, hvalue, hskip⟩ := h.spaced ht (by omega) hc rest
      simp only [List.append_assoc, List.cons_append]
      rw [members?, skip_append_cons hs rfl]
      simp only [pieces?_append hkey, Option.bind_eq_bind, Option.bind_some,
        skip_append_cons hu (show isSpace ':' = false from rfl), hvalue, hskip]
      rfl

lemma members_succ (h : ReadsWritten n) (ht : WritesMembers t members) (hn : t.length + 1 < n + 1)
    (rest : Text) : members? (n + 1) (t ++ '\x7d' :: rest) = some (members, rest) := by
  cases ht with
  | last ht => exact h.members_member ht (by omega) .brace rest
  | cons ht hu =>
      simp only [List.length_append, List.length_cons] at hn
      rw [List.append_assoc, List.cons_append, h.members_member ht (by omega) .comma]
      simp only [h.members hu (by omega) rest, Option.map_some]

lemma value_succ (h : ReadsWritten n) (ht : Writes t v) (hn : t.length < n + 1) (rest : Text)
    (hrest : EndsNumber rest) : value? (n + 1) (t ++ rest) = some (v, rest) := by
  cases ht with
  | null => rfl
  | true => rfl
  | false => rfl
  | number hnumber => exact value?_number hnumber hrest n
  | @string t ps ht =>
      simp only [List.cons_append, List.append_assoc, List.nil_append]
      rw [value?, skip_cons rfl]
      simp only [pieces?_append ht, Option.map_some]
  | @emptyArray t ht =>
      simp only [List.cons_append, List.append_assoc, List.nil_append]
      rw [value?, skip_cons rfl]
      simp only [skip_append_cons ht (show isSpace ']' = false from rfl)]
  | @array t vs ht =>
      simp only [List.length_append, List.length_cons, List.length_nil] at hn
      simp only [List.cons_append, List.append_assoc, List.nil_append]
      obtain ⟨c, u, hskip, hc⟩ := ht.exists_skip (']' :: rest)
      have hitems := h.items ht (by omega) rest
      rw [← items?_skip, hskip] at hitems
      rw [value?, skip_cons rfl]
      simp only [hskip]
      split
      · cases ‹_ :: _ = _›
        exact absurd rfl hc.ne_bracket
      · rw [hitems]
        rfl
  | emptyObject ht =>
      simp only [List.cons_append, List.append_assoc, List.nil_append]
      rw [value?, skip_cons rfl]
      simp only [skip_append_cons ht (show isSpace '\x7d' = false from rfl)]
  | @object t members ht =>
      simp only [List.length_append, List.length_cons, List.length_nil] at hn
      simp only [List.cons_append, List.append_assoc, List.nil_append]
      rw [value?, skip_cons rfl]
      obtain ⟨u, hskip⟩ := ht.exists_skip ('\x7d' :: rest)
      have hmembers := h.members ht (by omega) rest
      rw [← members?_skip, hskip] at hmembers
      simp only [hskip]
      show (members? n ('"' :: u)).map _ = _
      rw [hmembers]
      rfl

end ReadsWritten

/-- **What is written is read**, with as many steps as it has characters and one more. -/
lemma readsWritten (n : Nat) : ReadsWritten n := by
  induction n with
  | zero => exact ⟨fun _ hn => by omega, fun _ hn => by omega, fun _ hn => by omega⟩
  | succ n ih => exact ⟨ih.value_succ, ih.items_succ, ih.members_succ⟩

/-! ### What is read is written -/

lemma WritesSpaced.append_left (hs : AreSpaces s) (h : WritesSpaced t v) :
    WritesSpaced (s ++ t) v := by
  obtain ⟨hu, h, hw⟩ := h
  rw [← List.append_assoc]
  exact .mk (fun c hc => (List.mem_append.mp hc).elim (hs c) (hu c)) h hw

lemma WritesItems.append_left (hs : AreSpaces s) (h : WritesItems t vs) :
    WritesItems (s ++ t) vs := by
  cases h with
  | last h => exact .last (h.append_left hs)
  | cons h hu =>
      rw [← List.append_assoc]
      exact .cons (h.append_left hs) hu

lemma WritesMember.append_left (hs : AreSpaces s) (h : WritesMember t member) :
    WritesMember (s ++ t) member := by
  obtain ⟨hu, hkey, hw, h⟩ := h
  rw [← List.append_assoc]
  exact .mk (fun c hc => (List.mem_append.mp hc).elim (hs c) (hu c)) hkey hw h

lemma WritesMembers.append_left (hs : AreSpaces s) (h : WritesMembers t members) :
    WritesMembers (s ++ t) members := by
  cases h with
  | last h => exact .last (h.append_left hs)
  | cons h hu =>
      rw [← List.append_assoc]
      exact .cons (h.append_left hs) hu

lemma exists_of_word? (h : word? t = some (v, rest)) : ∃ w, Writes w v ∧ t = w ++ rest := by
  rw [word?] at h
  split at h
  · rename_i hnull
    cases h
    exact ⟨_, .null, Text.after?_eq_some_iff.mp hnull⟩
  · split at h
    · rename_i htrue
      cases h
      exact ⟨_, .true, Text.after?_eq_some_iff.mp htrue⟩
    · obtain ⟨_, hfalse, heq⟩ := Option.map_eq_some_iff.mp h
      cases heq
      exact ⟨_, .false, Text.after?_eq_some_iff.mp hfalse⟩

/-- What is read with at most `n` steps is written in the text, in front of what is left. -/
structure ReadIsWritten (n : Nat) : Prop where
  value : ∀ {t v rest}, value? n t = some (v, rest) →
    ∃ s w, AreSpaces s ∧ Writes w v ∧ t = s ++ (w ++ rest)
  items : ∀ {t vs rest}, items? n t = some (vs, rest) →
    ∃ w, WritesItems w vs ∧ t = w ++ ']' :: rest
  members : ∀ {t members rest}, members? n t = some (members, rest) →
    ∃ w, WritesMembers w members ∧ t = w ++ '\x7d' :: rest

namespace ReadIsWritten

/-- A value that is read stands with its spaces in front of what is left behind them. -/
lemma spaced (h : ReadIsWritten n) (ht : value? n t = some (v, rest)) :
    ∃ w, WritesSpaced w v ∧ t = w ++ skip rest := by
  obtain ⟨s, w, hs, hw, rfl⟩ := h.value ht
  obtain ⟨u, hu, hrest⟩ := exists_skip rest
  exact ⟨s ++ (w ++ u), .mk hs hw hu, by rw [List.append_assoc, List.append_assoc, ← hrest]⟩

lemma items_succ (h : ReadIsWritten n) (ht : items? (n + 1) t = some (vs, rest)) :
    ∃ w, WritesItems w vs ∧ t = w ++ ']' :: rest := by
  rw [items?] at ht
  obtain ⟨⟨v, behind⟩, hvalue, hread⟩ := Option.bind_eq_some_iff.mp ht
  obtain ⟨w, hw, rfl⟩ := h.spaced hvalue
  simp only at hread
  split at hread
  · rename_i more hskip
    obtain ⟨⟨items, _⟩, hmore, heq⟩ := Option.map_eq_some_iff.mp hread
    cases heq
    obtain ⟨u, hu, rfl⟩ := h.items hmore
    exact ⟨w ++ ',' :: u, .cons hw hu, by rw [hskip, List.append_assoc]; rfl⟩
  · rename_i more hskip
    cases hread
    exact ⟨w, .last hw, by rw [hskip]⟩
  · cases hread

lemma members_succ (h : ReadIsWritten n) (ht : members? (n + 1) t = some (members, rest)) :
    ∃ w, WritesMembers w members ∧ t = w ++ '\x7d' :: rest := by
  obtain ⟨s, hs, hspaces⟩ := exists_skip t
  rw [members?] at ht
  split at ht
  · rename_i body hquote
    obtain ⟨⟨ps, behind⟩, hpieces, hread⟩ := Option.bind_eq_some_iff.mp ht
    obtain ⟨key, hkey, rfl⟩ := exists_of_pieces? hpieces
    obtain ⟨u, hu, hbehind⟩ := exists_skip behind
    simp only at hread
    split at hread
    · rename_i text hcolon
      obtain ⟨⟨v, left⟩, hvalue, hclosed⟩ := Option.bind_eq_some_iff.mp hread
      obtain ⟨w, hw, rfl⟩ := h.spaced hvalue
      have hmember := WritesMember.mk hs hkey hu hw
      rw [hquote, hbehind, hcolon] at hspaces
      simp only at hclosed
      split at hclosed
      · rename_i more hskip
        obtain ⟨⟨others, _⟩, hmore, heq⟩ := Option.map_eq_some_iff.mp hclosed
        cases heq
        obtain ⟨text, htext, rfl⟩ := h.members hmore
        exact ⟨_, .cons hmember htext, by rw [hspaces, hskip]; simp⟩
      · rename_i more hskip
        cases hclosed
        exact ⟨_, .last hmember, by rw [hspaces, hskip]; simp⟩
      · cases hclosed
    · cases hread
  · cases ht

lemma value_succ (h : ReadIsWritten n) (ht : value? (n + 1) t = some (v, rest)) :
    ∃ s w, AreSpaces s ∧ Writes w v ∧ t = s ++ (w ++ rest) := by
  obtain ⟨s, hs, hspaces⟩ := exists_skip t
  suffices hvalue : ∃ w, Writes w v ∧ skip t = w ++ rest by
    obtain ⟨w, hw, hskip⟩ := hvalue
    exact ⟨s, w, hs, hw, hskip ▸ hspaces⟩
  rw [value?] at ht
  split at ht
  · cases ht
  · rename_i u hquote
    obtain ⟨⟨ps, _⟩, hpieces, heq⟩ := Option.map_eq_some_iff.mp ht
    cases heq
    obtain ⟨body, hbody, rfl⟩ := exists_of_pieces? hpieces
    exact ⟨_, .string hbody, by rw [hquote]; simp⟩
  · rename_i u hbracket
    obtain ⟨r, hr, hu⟩ := exists_skip u
    split at ht
    · rename_i hclosed
      cases ht
      exact ⟨_, .emptyArray hr, by rw [hbracket, hu, hclosed]; simp⟩
    · obtain ⟨⟨vs, _⟩, hitems, heq⟩ := Option.map_eq_some_iff.mp ht
      cases heq
      obtain ⟨w, hw, hskip⟩ := h.items hitems
      exact ⟨_, .array (hw.append_left hr), by rw [hbracket, hu, hskip]; simp⟩
  · rename_i u hbrace
    obtain ⟨r, hr, hu⟩ := exists_skip u
    split at ht
    · rename_i hclosed
      cases ht
      exact ⟨_, .emptyObject hr, by rw [hbrace, hu, hclosed]; simp⟩
    · obtain ⟨⟨members, _⟩, hmembers, heq⟩ := Option.map_eq_some_iff.mp ht
      cases heq
      obtain ⟨w, hw, hskip⟩ := h.members hmembers
      exact ⟨_, .object (hw.append_left hr), by rw [hbrace, hu, hskip]; simp⟩
  · rename_i c u _ _ _ hskip
    rw [hskip]
    split_ifs at ht
    · obtain ⟨_, hnumber, heq⟩ := Option.map_eq_some_iff.mp ht
      cases heq
      obtain ⟨w, hw, htext⟩ := exists_of_afterNumber? hnumber
      exact ⟨w, .number hw, htext⟩
    · exact exists_of_word? ht

end ReadIsWritten

/-- **What is read is written** in the text, in front of what is left. -/
lemma readIsWritten (n : Nat) : ReadIsWritten n := by
  induction n with
  | zero => exact ⟨(fun h => by cases h), (fun h => by cases h), (fun h => by cases h)⟩
  | succ n ih => exact ⟨ih.value_succ, ih.items_succ, ih.members_succ⟩

/-! ### Texts -/

/-- **The value of a text** is the one that it writes, with spaces around it. -/
theorem parse?_eq_some_iff : parse? t = some v ↔ WritesSpaced t v := by
  constructor
  · intro h
    rw [parse?] at h
    split at h
    · rename_i value rest hvalue
      split_ifs at h with hrest
      obtain rfl := Option.some.inj h
      obtain ⟨w, hw, rfl⟩ := (readIsWritten _).spaced hvalue
      rwa [List.isEmpty_iff.mp hrest, List.append_nil]
    · cases h
  · intro h
    cases h with
    | @mk s w u _ hs h hu =>
        have hends : EndsNumber u := by
          rw [← List.append_nil u]
          exact endsNumber_of_areSpaces hu (by rintro _ ⟨⟩)
        have hlength : w.length < 2 * (s ++ (w ++ u)).length + 1 := by
          simp only [List.length_append]
          omega
        have hvalue := (readsWritten _).value h hlength u hends
        rw [parse?, value?_append hs, hvalue]
        simp only [skip_eq_nil hu, List.isEmpty_nil, if_true]

/-- A text that begins and ends without spaces writes its value without them. -/
lemma WritesSpaced.writes (h : WritesSpaced t v) (hfirst : ∀ c ∈ t.head?, isSpace c = false)
    (hlast : ∀ c ∈ t.getLast?, isSpace c = false) : Writes t v := by
  cases h with
  | @mk s w u _ hs h hu =>
      have hnone : s = [] ∧ u = [] := by
        constructor
        · cases s with
          | nil => rfl
          | cons c s =>
              have hspace := hs c List.mem_cons_self
              rw [hfirst c rfl] at hspace
              cases hspace
        · induction u using List.reverseRecOn with
          | nil => rfl
          | append_singleton u c _ =>
              have hspace := hu c (by simp)
              rw [hlast c (by simp [← List.append_assoc])] at hspace
              cases hspace
      obtain ⟨rfl, rfl⟩ := hnone
      rwa [List.nil_append, List.append_nil]

/-- What begins with a brace writes an object. -/
lemma Writes.exists_members (h : Writes t v) (ht : t.head? = some '\x7b') :
    ∃ members, v = .object members := by
  cases h with
  | emptyObject => exact ⟨[], rfl⟩
  | @object _ members => exact ⟨members, rfl⟩
  | number h =>
      obtain ⟨c, u, rfl, hc⟩ := h.exists_cons
      exact absurd (Option.some.inj ht) (hc.ne rfl)
  | null | true | false | string | emptyArray | array => cases ht

/-- **The object of a text** between braces is the one that the text writes. -/
theorem parse?_braces_iff {json : Json} :
    parse? ('\x7b' :: (t ++ ['\x7d'])) = some json ↔
      ∃ members, json = .object members ∧ Writes ('\x7b' :: (t ++ ['\x7d'])) (.object members) := by
  have hlast : ('\x7b' :: (t ++ ['\x7d'])).getLast? = some '\x7d' := by
    rw [← List.cons_append, List.getLast?_concat]
  rw [parse?_eq_some_iff]
  constructor
  · intro h
    have hwrites := h.writes (by rintro _ ⟨⟩; rfl) (by rw [hlast]; rintro _ ⟨⟩; rfl)
    obtain ⟨members, rfl⟩ := hwrites.exists_members rfl
    exact ⟨members, rfl, hwrites⟩
  · rintro ⟨members, rfl, h⟩
    have hspaced := @WritesSpaced.mk [] _ [] _ (by rintro _ ⟨⟩) h (by rintro _ ⟨⟩)
    rwa [List.nil_append, List.append_nil] at hspaced

end TweeStory.Json
