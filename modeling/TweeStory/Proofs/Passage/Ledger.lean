/-
The passages of a story as a ledger: passages by the names under which they were inserted, in
the order in which these names were first used.

* `Ledger.split?`, `enter`, `lookup?`, `change`: the entries, found by going through them from
  the first;
* `keys_enter`, `getElem?_enter`, `getElem?_change`: what stands where after a passage is entered
  or changed;
* `Ledger.IsNamed`: passages with the names under which they were entered;
* `PassageMap.ofLedger`: the map with the entries of a ledger;
* `insert_ofLedger`, `get?_ofLedger`, `modify_ofLedger`, ...: what is done to it is done to its
  ledger.
-/
import TweeStory.Proofs.Passage.Map

namespace TweeStory

/-- Passages by the names under which they were inserted, in the order in which the names were
first used. -/
abbrev Ledger := List (Text × Passage)

variable {ledger before after : Ledger} {p q : Passage} {key name : Text} {i : Nat}

namespace Ledger

/-! ### Entries -/

/-- The names under which passages were inserted. -/
def keys (ledger : Ledger) : List Text :=
  ledger.map Prod.fst

/-- The entries before the first one with a name, its passage, and the entries behind it. -/
def split? (name : Text) : Ledger → Option (Ledger × Passage × Ledger)
  | [] => none
  | (key, q) :: rest =>
    if key = name then some ([], q, rest)
    else (split? name rest).map fun cut => ((key, q) :: cut.1, cut.2)

/-- Enters a passage under its name: in place of the one that was entered under it, or at the
end.  Gives the place, the passage that was replaced, and the ledger. -/
def enter (p : Passage) (ledger : Ledger) : Nat × Option Passage × Ledger :=
  match split? p.name ledger with
  | some (before, q, after) => (before.length, some q, before ++ (p.name, p) :: after)
  | none => (ledger.length, none, ledger ++ [(p.name, p)])

/-- The passage that was entered under a name. -/
def lookup? (name : Text) (ledger : Ledger) : Option Passage :=
  (split? name ledger).map fun cut => cut.2.1

/-- The ledger with the passage changed that was entered under a name. -/
def change (name : Text) (f : Passage → Passage) (ledger : Ledger) : Ledger :=
  match split? name ledger with
  | some (before, q, after) => before ++ (name, f q) :: after
  | none => ledger

lemma split?_eq_none_iff : split? name ledger = none ↔ name ∉ keys ledger := by
  induction ledger with
  | nil => simp [split?, keys]
  | cons entry ledger ih =>
      rw [split?, keys, List.map_cons, List.mem_cons, not_or, ← keys, ← ih]
      split
      · rename_i hkey
        simp [hkey]
      · rename_i hkey
        simp [Ne.symm hkey]

lemma eq_of_split? (h : split? name ledger = some (before, q, after)) :
    ledger = before ++ (name, q) :: after ∧ name ∉ keys before := by
  induction ledger generalizing before with
  | nil => cases h
  | cons entry ledger ih =>
      rw [split?] at h
      split at h
      · rename_i hkey
        obtain ⟨rfl, rfl, rfl⟩ : [] = before ∧ entry.2 = q ∧ ledger = after := by simpa using h
        exact ⟨by rw [← hkey]; rfl, List.not_mem_nil⟩
      · rename_i hkey
        obtain ⟨⟨before', q', after'⟩, hcut, heq⟩ := Option.map_eq_some_iff.mp h
        obtain ⟨rfl, rfl, rfl⟩ : entry :: before' = before ∧ q' = q ∧ after' = after := by
          simpa using heq
        obtain ⟨rfl, hmem⟩ := ih hcut
        exact ⟨rfl, List.not_mem_cons_of_ne_of_not_mem (Ne.symm hkey) hmem⟩

lemma change_cons (f : Passage → Passage) (entry : Text × Passage) (ledger : Ledger) :
    change name f (entry :: ledger) =
      if entry.1 = name then (entry.1, f entry.2) :: ledger else entry :: change name f ledger := by
  rw [change, split?]
  by_cases hkey : entry.1 = name
  · rw [if_pos hkey, if_pos hkey, hkey]
    rfl
  · rw [if_neg hkey, if_neg hkey, change]
    cases split? name ledger <;> rfl

/-- A passage that is entered under a name that is there takes the place of the one with it. -/
lemma ledger_enter (p : Passage) (ledger : Ledger) :
    (enter p ledger).2.2 =
      if p.name ∈ keys ledger then change p.name (fun _ => p) ledger
      else ledger ++ [(p.name, p)] := by
  rw [enter, change]
  cases hsplit : split? p.name ledger with
  | none => exact (if_neg (split?_eq_none_iff.mp hsplit)).symm
  | some cut =>
      refine (if_pos (not_not.mp fun hmem => ?_)).symm
      rw [split?_eq_none_iff.mpr hmem] at hsplit
      cases hsplit

lemma keys_change (f : Passage → Passage) (ledger : Ledger) :
    keys (change name f ledger) = keys ledger := by
  induction ledger with
  | nil => rfl
  | cons entry ledger ih =>
      rw [change_cons]
      split
      · rfl
      · exact congrArg (entry.1 :: ·) ih

lemma keys_enter (p : Passage) (ledger : Ledger) :
    keys (enter p ledger).2.2 =
      if p.name ∈ keys ledger then keys ledger else keys ledger ++ [p.name] := by
  rw [ledger_enter]
  split
  · exact keys_change _ ledger
  · simp [keys]

/-- A change under a name is one of the passage that was entered under it. -/
lemma getElem?_change (f : Passage → Passage) (h : (keys ledger).Nodup)
    (hi : ledger[i]? = some (key, q)) :
    (change name f ledger)[i]? = some (key, if name = key then f q else q) := by
  induction ledger generalizing i with
  | nil => cases hi
  | cons entry ledger ih =>
      obtain ⟨hnew, hrest⟩ := List.nodup_cons.mp h
      rw [change_cons]
      cases i with
      | zero =>
          obtain rfl := Option.some.inj hi
          by_cases hkey : key = name
          · simp [hkey]
          · simp [hkey, Ne.symm hkey]
      | succ i =>
          have hi : ledger[i]? = some (key, q) := hi
          split
          · rename_i hname
            have hne : name ≠ key := by
              rintro rfl
              exact hnew (hname ▸ List.mem_map_of_mem (List.mem_of_getElem? hi))
            rw [if_neg hne, List.getElem?_cons_succ, hi]
          · rw [List.getElem?_cons_succ, ih hrest hi]

lemma getElem?_enter (h : (keys ledger).Nodup) (hi : ledger[i]? = some (key, q)) :
    (enter p ledger).2.2[i]? = some (key, if p.name = key then p else q) := by
  rw [ledger_enter]
  split
  · exact getElem?_change _ h hi
  · rename_i hmem
    have hne : p.name ≠ key := by
      rintro rfl
      exact hmem (List.mem_map_of_mem (List.mem_of_getElem? hi))
    rw [if_neg hne, List.getElem?_append_left (List.getElem?_eq_some_iff.mp hi).1, hi]

/-- A passage stands at the place where it was entered. -/
lemma getElem?_enter_self (p : Passage) (ledger : Ledger) :
    (enter p ledger).2.2[(enter p ledger).1]? = some (p.name, p) := by
  rw [enter]
  cases split? p.name ledger <;> simp

lemma keys_modify (i : Nat) (f : Passage → Passage) (ledger : Ledger) :
    keys (ledger.modify i fun entry => (entry.1, f entry.2)) = keys ledger := by
  refine List.ext_getElem? fun j => ?_
  simp only [keys, List.getElem?_map, List.getElem?_modify]
  split <;> simp [Function.comp_def]

lemma keys_mapIdx (f : Nat → Passage → Passage) (ledger : Ledger) :
    keys (ledger.mapIdx fun i entry => (entry.1, f i entry.2)) = keys ledger := by
  refine List.ext_getElem? fun i => ?_
  simp [keys, Function.comp_def]

/-- Every passage has the name under which it was entered. -/
def IsNamed (ledger : Ledger) : Prop :=
  ∀ entry ∈ ledger, entry.2.name = entry.1

lemma IsNamed.change (h : IsNamed ledger) (p : Passage) :
    IsNamed (change p.name (fun _ => p) ledger) := by
  induction ledger with
  | nil => exact h
  | cons entry ledger ih =>
      obtain ⟨hentry, hrest⟩ := List.forall_mem_cons.mp h
      rw [change_cons]
      split
      · rename_i hkey
        exact List.forall_mem_cons.mpr ⟨hkey.symm, hrest⟩
      · exact List.forall_mem_cons.mpr ⟨hentry, ih hrest⟩

lemma IsNamed.enter (h : IsNamed ledger) (p : Passage) : IsNamed (enter p ledger).2.2 := by
  rw [ledger_enter]
  split
  · exact h.change p
  · exact List.forall_mem_append.mpr ⟨h, by simp⟩

end Ledger

/-! ### Maps for ledgers -/

namespace PassageMap

open Ledger (split? enter lookup? change)

/-- The map with the entries of a ledger. -/
def ofLedger (ledger : Ledger) : PassageMap where
  records := ledger.map Prod.snd
  index := (Ledger.keys ledger).zipIdx

@[simp] lemma keys_ofLedger (ledger : Ledger) : (ofLedger ledger).keys = Ledger.keys ledger :=
  List.zipIdx_map_fst 0 _

lemma size_ofLedger (ledger : Ledger) : (ofLedger ledger).size = (Ledger.keys ledger).length := by
  rw [size, ofLedger, Ledger.keys, List.length_map, List.length_map]

lemma names_eq_keys_iff :
    (ofLedger ledger).names = Ledger.keys ledger ↔ Ledger.IsNamed ledger := by
  rw [names, ofLedger, List.map_map, Ledger.keys, List.map_inj_left]
  rfl

lemma isIndexed_ofLedger (h : (Ledger.keys ledger).Nodup) : (ofLedger ledger).IsIndexed where
  index := by rw [keys_ofLedger]; rfl
  nodup := by rwa [keys_ofLedger]
  length := by rw [keys_ofLedger, size_ofLedger]

/-- A name is found at the place of the first entry with it. -/
lemma find?_zipIdx_keys (ledger : Ledger) (name : Text) (n : Nat) :
    ((Ledger.keys ledger).zipIdx n).find? (fun entry => entry.1 = name) =
      (split? name ledger).map fun cut => (name, n + cut.1.length) := by
  induction ledger generalizing n with
  | nil => rfl
  | cons entry ledger ih =>
      rw [Ledger.keys, List.map_cons, List.zipIdx_cons, List.find?_cons, ← Ledger.keys, ih, split?]
      by_cases hkey : entry.1 = name
      · simp [hkey]
      · simp [hkey, Nat.add_comm, Nat.add_left_comm, Function.comp_def]

lemma place?_ofLedger (ledger : Ledger) (name : Text) :
    (ofLedger ledger).place? name = (split? name ledger).map fun cut => cut.1.length := by
  rw [place?, ofLedger, find?_zipIdx_keys, Option.map_map]
  simp only [Function.comp_def, Nat.zero_add]

lemma insert_ofLedger (p : Passage) (ledger : Ledger) :
    (ofLedger ledger).insert p =
      ((enter p ledger).1, (enter p ledger).2.1, ofLedger (enter p ledger).2.2) := by
  rw [insert, place?_ofLedger, enter]
  cases hsplit : split? p.name ledger with
  | none => simp [ofLedger, size, Ledger.keys, List.zipIdx_append]
  | some cut =>
      obtain ⟨before, q, after⟩ := cut
      obtain ⟨rfl, -⟩ := Ledger.eq_of_split? hsplit
      simp [ofLedger, Ledger.keys]

lemma get?_ofLedger (name : Text) (ledger : Ledger) :
    (ofLedger ledger).get? name = lookup? name ledger := by
  rw [get?, place?_ofLedger, lookup?]
  cases hsplit : split? name ledger with
  | none => rfl
  | some cut =>
      obtain ⟨before, q, after⟩ := cut
      obtain ⟨rfl, -⟩ := Ledger.eq_of_split? hsplit
      simp [ofLedger, at?]

lemma contains_ofLedger (name : Text) (ledger : Ledger) :
    (ofLedger ledger).contains name = decide (name ∈ Ledger.keys ledger) := by
  rw [contains, place?_ofLedger, Option.isSome_map, Bool.eq_iff_iff, decide_eq_true_eq,
    Option.isSome_iff_ne_none, ne_eq, Ledger.split?_eq_none_iff, not_not]

lemma modifyAt_ofLedger (i : Nat) (f : Passage → Passage) (ledger : Ledger) :
    (ofLedger ledger).modifyAt i f =
      ofLedger (ledger.modify i fun entry => (entry.1, f entry.2)) := by
  rw [modifyAt, ofLedger, ofLedger, Ledger.keys_modify]
  refine congrArg (PassageMap.mk · _) (List.ext_getElem? fun j => ?_)
  simp only [List.getElem?_map, List.getElem?_modify]
  split <;> simp [Function.comp_def]

lemma modify_ofLedger (name : Text) (f : Passage → Passage) (ledger : Ledger) :
    (ofLedger ledger).modify name f = ofLedger (change name f ledger) := by
  rw [modify, place?_ofLedger, change]
  cases hsplit : split? name ledger with
  | none => rfl
  | some cut =>
      obtain ⟨before, q, after⟩ := cut
      obtain ⟨rfl, -⟩ := Ledger.eq_of_split? hsplit
      simp [modifyAt_ofLedger, List.modify_eq_set_getElem?]

end PassageMap

end TweeStory
