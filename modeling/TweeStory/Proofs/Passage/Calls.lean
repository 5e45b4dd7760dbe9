/-
What a map of passages answers to calls, whatever the calls are.

* `Call`, `Answer`, `Call.on`, `Call.onLedger`: the calls of a map, in which passages may be
  changed at will, with their answers and what they leave, on a map and on a ledger;
* `Call.on_ofLedger`, `run_ofLedger`: calls are answered alike on both;
* `Call.effect`, `getElem?_onLedger`, `getElem?_run`: what calls make of the passage at a place;
* `Call.KeepNames`, `isNamed_ledgerOf`: calls after which passages have the names under
  which they were inserted;
* `KeepsLedger`, `keepsLedger_afterCalls`: a map is a ledger with an index, after all calls.
-/
import Mathlib.Data.List.Induction
import Mathlib.Data.Set.Function
import Mathlib.Order.Interval.Set.Defs
import TweeStory.Proofs.Passage.Ledger

namespace TweeStory.PassageMap

open Ledger (enter lookup? change)

variable {ledger : Ledger} {p q : Passage} {key name : Text} {i : Nat}

/-! ### Calls -/

/-- A call of a map.  What is found under a name, at a place, or in going through the passages
may be changed at will, its name included. -/
inductive Call where
  | insert (p : Passage)
  | get (name : Text)
  | modify (name : Text) (f : Passage → Passage)
  | getAt (i : Nat)
  | modifyAt (i : Nat) (f : Passage → Passage)
  /-- Goes through all passages, and changes the one at place `i` by `f i`. -/
  | each (f : Nat → Passage → Passage)
  | contains (name : Text)

/-- The answer to a call. -/
inductive Answer where
  | inserted (place : Nat) (old : Option Passage)
  | found (p : Option Passage)
  | all (ps : List Passage)
  | truth (holds : Bool)
deriving DecidableEq, Repr

namespace Call

/-- The answer of a map to a call, and the map after it. -/
def on : Call → PassageMap → Answer × PassageMap
  | insert p, passages =>
    (.inserted (passages.insert p).1 (passages.insert p).2.1, (passages.insert p).2.2)
  | get name, passages => (.found (passages.get? name), passages)
  | modify name f, passages => (.found (passages.get? name), passages.modify name f)
  | getAt i, passages => (.found (passages.at? i), passages)
  | modifyAt i f, passages => (.found (passages.at? i), passages.modifyAt i f)
  | each f, passages =>
    (.all passages.records, { passages with records := passages.records.mapIdx f })
  | contains name, passages => (.truth (passages.contains name), passages)

/-- The answer of a ledger to a call, and the ledger after it. -/
def onLedger : Call → Ledger → Answer × Ledger
  | insert p, ledger => (.inserted (enter p ledger).1 (enter p ledger).2.1, (enter p ledger).2.2)
  | get name, ledger => (.found (lookup? name ledger), ledger)
  | modify name f, ledger => (.found (lookup? name ledger), change name f ledger)
  | getAt i, ledger => (.found (ledger[i]?.map Prod.snd), ledger)
  | modifyAt i f, ledger =>
    (.found (ledger[i]?.map Prod.snd), ledger.modify i fun entry => (entry.1, f entry.2))
  | each f, ledger =>
    (.all (ledger.map Prod.snd), ledger.mapIdx fun i entry => (entry.1, f i entry.2))
  | contains name, ledger => (.truth (decide (name ∈ Ledger.keys ledger)), ledger)

/-- **A map answers as its ledger** to every call, and the map after it is that of the ledger
after it. -/
lemma on_ofLedger (call : Call) (ledger : Ledger) :
    call.on (ofLedger ledger) = ((call.onLedger ledger).1, ofLedger (call.onLedger ledger).2) := by
  cases call with
  | insert p => rw [on, insert_ofLedger]; rfl
  | get name => rw [on, get?_ofLedger]; rfl
  | modify name f => rw [on, get?_ofLedger, modify_ofLedger]; rfl
  | getAt i => rw [on, at?, ofLedger, List.getElem?_map]; rfl
  | modifyAt i f => rw [on, modifyAt_ofLedger, at?, ofLedger, List.getElem?_map]; rfl
  | each f =>
      have hrecords : (ledger.map Prod.snd).mapIdx f =
          (ledger.mapIdx fun i entry => (entry.1, f i entry.2)).map Prod.snd :=
        List.ext_getElem? fun i => by simp [Function.comp_def]
      rw [on, onLedger, ofLedger, ofLedger, Ledger.keys_mapIdx, hrecords]
  | contains name => rw [on, contains_ofLedger]; rfl

/-! ### What calls leave -/

/-- What a call makes of the passage at place `i` that was inserted under `key`. -/
def effect (key : Text) (i : Nat) : Call → Passage → Passage
  | insert p, q => if p.name = key then p else q
  | modify name f, q => if name = key then f q else q
  | modifyAt j f, q => if j = i then f q else q
  | each f, q => f i q
  | get _, q | getAt _, q | contains _, q => q

/-- Only an insertion under a new name changes the names of a ledger. -/
lemma keys_onLedger (call : Call) (ledger : Ledger) :
    ((∀ p, call = insert p → p.name ∈ Ledger.keys ledger) ∧
        Ledger.keys (call.onLedger ledger).2 = Ledger.keys ledger) ∨
      ∃ p, call = insert p ∧ p.name ∉ Ledger.keys ledger ∧
        Ledger.keys (call.onLedger ledger).2 = Ledger.keys ledger ++ [p.name] := by
  cases call with
  | insert p =>
      by_cases hmem : p.name ∈ Ledger.keys ledger
      · refine Or.inl ⟨fun p' heq => ?_, (Ledger.keys_enter p ledger).trans (if_pos hmem)⟩
        rwa [← Call.insert.inj heq]
      · exact Or.inr ⟨p, rfl, hmem, (Ledger.keys_enter p ledger).trans (if_neg hmem)⟩
  | modify name f => exact Or.inl ⟨nofun, Ledger.keys_change f ledger⟩
  | modifyAt i f => exact Or.inl ⟨nofun, Ledger.keys_modify i f ledger⟩
  | each f => exact Or.inl ⟨nofun, Ledger.keys_mapIdx f ledger⟩
  | get _ | getAt _ | contains _ => exact Or.inl ⟨nofun, rfl⟩

lemma nodup_keys_onLedger (call : Call) (h : (Ledger.keys ledger).Nodup) :
    (Ledger.keys (call.onLedger ledger).2).Nodup := by
  obtain ⟨-, heq⟩ | ⟨p, -, hmem, heq⟩ := call.keys_onLedger ledger
  · rwa [heq]
  · rw [heq]
    exact List.nodup_append.mpr ⟨h, List.nodup_singleton _, fun a ha b hb heq =>
      hmem (List.mem_singleton.mp hb ▸ heq ▸ ha)⟩

/-- The names after a call are those before it, and the one that it inserts a passage under. -/
lemma mem_keys_onLedger_iff (call : Call) :
    name ∈ Ledger.keys (call.onLedger ledger).2 ↔
      name ∈ Ledger.keys ledger ∨ ∃ p, call = insert p ∧ p.name = name := by
  obtain ⟨hmem, heq⟩ | ⟨p, rfl, -, heq⟩ := call.keys_onLedger ledger
  · rw [heq, or_iff_left_of_imp]
    rintro ⟨p, hp, rfl⟩
    exact hmem p hp
  · simp [heq, eq_comm]

/-- A call leaves every passage at its place, with what it makes of it. -/
lemma getElem?_onLedger (call : Call) (h : (Ledger.keys ledger).Nodup)
    (hi : ledger[i]? = some (key, q)) :
    (call.onLedger ledger).2[i]? = some (key, call.effect key i q) := by
  cases call with
  | insert p => exact Ledger.getElem?_enter h hi
  | modify name f => exact Ledger.getElem?_change f h hi
  | modifyAt j f =>
      rw [onLedger, List.getElem?_modify, hi]
      by_cases hij : j = i <;> simp [effect, hij]
  | each f =>
      rw [onLedger, List.getElem?_mapIdx, hi]
      rfl
  | get _ | getAt _ | contains _ => exact hi

end Call

/-! ### Runs of calls -/

open Call (on onLedger)

/-- The answers to calls, one after the other, and what they leave. -/
def run {σ : Type} (on : Call → σ → Answer × σ) (s : σ) : List Call → List Answer × σ
  | [] => ([], s)
  | call :: calls =>
    ((on call s).1 :: (run on (on call s).2 calls).1, (run on (on call s).2 calls).2)

/-- The map after calls, empty at first. -/
def afterCalls (calls : List Call) : PassageMap :=
  (run on empty calls).2

/-- The ledger after calls, empty at first. -/
def ledgerOf (calls : List Call) : Ledger :=
  (run onLedger [] calls).2

variable {call : Call} {calls before later : List Call}

lemma run_ofLedger (calls : List Call) (ledger : Ledger) :
    run on (ofLedger ledger) calls =
      ((run onLedger ledger calls).1, ofLedger (run onLedger ledger calls).2) := by
  induction calls generalizing ledger with
  | nil => rfl
  | cons call calls ih => rw [run, run, Call.on_ofLedger, ih]

lemma run_append {σ : Type} (on : Call → σ → Answer × σ) (s : σ) (before later : List Call) :
    (run on s (before ++ later)).2 = (run on (run on s before).2 later).2 := by
  induction before generalizing s with
  | nil => rfl
  | cons call before ih => exact ih _

lemma afterCalls_eq (calls : List Call) : afterCalls calls = ofLedger (ledgerOf calls) :=
  congrArg Prod.snd (run_ofLedger calls [])

lemma ledgerOf_concat (calls : List Call) (call : Call) :
    ledgerOf (calls ++ [call]) = (call.onLedger (ledgerOf calls)).2 :=
  run_append onLedger [] calls [call]

lemma nodup_keys_ledgerOf (calls : List Call) : (Ledger.keys (ledgerOf calls)).Nodup := by
  induction calls using List.reverseRecOn with
  | nil => exact List.nodup_nil
  | append_singleton calls call ih =>
      rw [ledgerOf_concat]
      exact call.nodup_keys_onLedger ih

lemma isIndexed_afterCalls (calls : List Call) : (afterCalls calls).IsIndexed :=
  afterCalls_eq calls ▸ isIndexed_ofLedger (nodup_keys_ledgerOf calls)

/-- Some call inserts a passage under the name. -/
def IsUsed (calls : List Call) (name : Text) : Prop :=
  ∃ p, Call.insert p ∈ calls ∧ p.name = name

/-- The names of the ledger are those under which passages were inserted. -/
lemma mem_keys_ledgerOf_iff : name ∈ Ledger.keys (ledgerOf calls) ↔ IsUsed calls name := by
  induction calls using List.reverseRecOn with
  | nil => simp [ledgerOf, run, Ledger.keys, IsUsed]
  | append_singleton calls call ih =>
      have hused : IsUsed (calls ++ [call]) name ↔
          IsUsed calls name ∨ ∃ p, call = .insert p ∧ p.name = name := by
        simp only [IsUsed, List.mem_append, List.mem_singleton, or_and_right, exists_or, eq_comm]
      rw [ledgerOf_concat, call.mem_keys_onLedger_iff, ih, hused]

/-- Calls leave every passage at its place, with what they make of it one after the other. -/
lemma getElem?_run (h : (Ledger.keys ledger).Nodup) (hi : ledger[i]? = some (key, q))
    (calls : List Call) :
    (run onLedger ledger calls).2[i]? =
      some (key, calls.foldl (fun q call => call.effect key i q) q) := by
  induction calls generalizing ledger q with
  | nil => exact hi
  | cons call calls ih => exact ih (call.nodup_keys_onLedger h) (call.getElem?_onLedger h hi)

/-! ### Names that stay -/

/-- Calls in the course of which no passage gets another name than the one it was inserted
under. -/
def Call.KeepNames (calls : List Call) : Prop :=
  ∀ before call later, calls = before ++ call :: later → (∀ p, call ≠ .insert p) →
    (call.on (afterCalls before)).2.names = (afterCalls before).names

lemma Call.KeepNames.of_concat (h : Call.KeepNames (calls ++ [call])) : Call.KeepNames calls := by
  intro before call' later heq
  refine h before call' (later ++ [call]) ?_
  rw [heq, List.append_assoc, List.cons_append]

/-- If no passage gets another name, all have the names under which they were inserted. -/
lemma isNamed_ledgerOf (h : Call.KeepNames calls) : (ledgerOf calls).IsNamed := by
  induction calls using List.reverseRecOn with
  | nil => exact fun _ hmem => absurd hmem List.not_mem_nil
  | append_singleton calls call ih =>
      have hbefore := ih h.of_concat
      rw [ledgerOf_concat]
      by_cases hinsert : ∃ p, call = .insert p
      · obtain ⟨p, rfl⟩ := hinsert
        exact hbefore.enter p
      · have hnot : ∀ p, call ≠ .insert p := not_exists.mp hinsert
        have hnames := h calls call [] rfl hnot
        rw [afterCalls_eq, Call.on_ofLedger, names_eq_keys_iff.mpr hbefore] at hnames
        obtain ⟨-, heq⟩ | ⟨p, hp, -⟩ := call.keys_onLedger (ledgerOf calls)
        · exact names_eq_keys_iff.mp (hnames.trans heq.symm)
        · exact absurd hp (hnot p)

/-! ### Maps after calls -/

/-- What the map after calls is, and what a further call does to it. -/
structure KeepsLedger (passages : PassageMap) (calls : List Call) : Prop where
  /-- Every call is answered as on the ledger, whose entries the map then has. -/
  answers_eq : (run on empty calls).1 = (run onLedger [] calls).1
  eq_ofLedger : passages = ofLedger (ledgerOf calls)
  /-- The index is a bijection between the names under which passages were inserted and the
  places. -/
  bijOn : Set.BijOn passages.place? {name | IsUsed calls name} (some '' Set.Iio passages.size)
  place?_eq_none : ∀ name, ¬IsUsed calls name → passages.place? name = none
  /-- A passage whose name was used takes the place of the one that was inserted under it. -/
  insert_of_isUsed : ∀ p : Passage, IsUsed calls p.name →
    ∃ i old, passages.place? p.name = some i ∧ passages.records[i]? = some old ∧
      passages.insert p = (i, some old, { passages with records := passages.records.set i p })
  /-- A passage whose name is new goes to the end. -/
  insert_of_not_isUsed : ∀ p : Passage, ¬IsUsed calls p.name →
    passages.insert p =
      (passages.size, none,
        ⟨passages.records ++ [p], passages.index ++ [(p.name, passages.size)]⟩)
  /-- A call leaves every passage at its place, where it is found as before, with what the call
  makes of it. -/
  on_eq : ∀ (call : Call) (key : Text) (i : Nat) (q : Passage),
    passages.place? key = some i → passages.records[i]? = some q →
      (call.on passages).2.place? key = some i ∧
        (call.on passages).2.records[i]? = some (call.effect key i q)
  /-- Only an insertion under a new name makes the map longer. -/
  size_on : ∀ call : Call, (∀ p, call = .insert p → IsUsed calls p.name) →
    (call.on passages).2.size = passages.size
  /-- Under a name the last passage is found that was inserted under it, with what later calls
  have made of it at its place. -/
  get?_eq : ∀ (before : List Call) (p : Passage) (later : List Call),
    calls = before ++ .insert p :: later → ¬IsUsed later p.name →
      ∃ i, passages.place? p.name = some i ∧
        passages.get? p.name = some (later.foldl (fun q call => call.effect p.name i q) p)
  /-- If no passage gets another name, no two have the same, and the one that is found under a
  name is the one that has it. -/
  names : Call.KeepNames calls → passages.names.Nodup ∧
    ∀ name p, passages.get? name = some p ↔ p ∈ passages.records ∧ p.name = name

lemma mem_keys_afterCalls_iff : name ∈ (afterCalls calls).keys ↔ IsUsed calls name := by
  rw [afterCalls_eq, keys_ofLedger, mem_keys_ledgerOf_iff]

/-- A passage is found at a place under a name if they stand there in the ledger. -/
lemma place?_ofLedger_iff (h : (Ledger.keys ledger).Nodup) :
    (ofLedger ledger).place? key = some i ∧ (ofLedger ledger).records[i]? = some q ↔
      ledger[i]? = some (key, q) := by
  rw [(isIndexed_ofLedger h).place?_eq_some_iff, keys_ofLedger, Ledger.keys, ofLedger]
  cases hentry : ledger[i]? <;> simp [hentry, Prod.ext_iff]

lemma bijOn_afterCalls (calls : List Call) :
    Set.BijOn (afterCalls calls).place? {name | IsUsed calls name}
      (some '' Set.Iio (afterCalls calls).size) := by
  have hindexed := isIndexed_afterCalls calls
  refine ⟨fun name hname => ?_, fun name hname name' _ heq => ?_, ?_⟩
  · obtain ⟨i, hi⟩ := List.mem_iff_getElem?.mp (mem_keys_afterCalls_iff.mpr hname)
    refine ⟨i, ?_, (hindexed.place?_eq_some_iff.mpr hi).symm⟩
    exact hindexed.length ▸ (List.getElem?_eq_some_iff.mp hi).1
  · obtain ⟨i, hi⟩ := List.mem_iff_getElem?.mp (mem_keys_afterCalls_iff.mpr hname)
    rw [hindexed.place?_eq_some_iff.mpr hi] at heq
    exact Option.some.inj (hi.symm.trans (hindexed.place?_eq_some_iff.mp heq.symm))
  · rintro _ ⟨i, hi, rfl⟩
    have hlt : i < (afterCalls calls).keys.length := hindexed.length ▸ hi
    have hkey := List.getElem?_eq_getElem hlt
    exact ⟨_, mem_keys_afterCalls_iff.mp (List.mem_of_getElem? hkey),
      hindexed.place?_eq_some_iff.mpr hkey⟩

/-- A passage stays at the place where it was inserted, with what later calls make of it. -/
lemma exists_place?_afterCalls (before : List Call) (p : Passage) (later : List Call) :
    ∃ i, (afterCalls (before ++ .insert p :: later)).place? p.name = some i ∧
      (afterCalls (before ++ .insert p :: later)).records[i]? =
        some (later.foldl (fun q call => call.effect p.name i q) p) := by
  have hledger : ledgerOf (before ++ .insert p :: later) =
      (run onLedger (enter p (ledgerOf before)).2.2 later).2 :=
    run_append onLedger [] before (.insert p :: later)
  have hnodup : (Ledger.keys (enter p (ledgerOf before)).2.2).Nodup :=
    (Call.insert p).nodup_keys_onLedger (nodup_keys_ledgerOf before)
  have hentry := getElem?_run hnodup (Ledger.getElem?_enter_self p (ledgerOf before)) later
  rw [← hledger] at hentry
  refine ⟨(enter p (ledgerOf before)).1, ?_⟩
  rw [afterCalls_eq]
  exact (place?_ofLedger_iff (nodup_keys_ledgerOf _)).mpr hentry

/-- **A map of passages keeps a ledger.** -/
theorem keepsLedger_afterCalls (calls : List Call) : (afterCalls calls).KeepsLedger calls where
  answers_eq := congrArg Prod.fst (run_ofLedger calls [])
  eq_ofLedger := afterCalls_eq calls
  bijOn := bijOn_afterCalls calls
  place?_eq_none name h := place?_eq_none_iff.mpr (mt mem_keys_afterCalls_iff.mp h)
  insert_of_isUsed p h := by
    obtain ⟨i, old, hi, hold, heq⟩ :=
      (isIndexed_afterCalls calls).insert_of_mem (mem_keys_afterCalls_iff.mpr h)
    exact ⟨i, old, (isIndexed_afterCalls calls).place?_eq_some_iff.mpr hi, hold, heq⟩
  insert_of_not_isUsed p h := insert_of_notMem (mt mem_keys_afterCalls_iff.mp h)
  on_eq call key i q hplace hq := by
    have hnodup := nodup_keys_ledgerOf calls
    rw [afterCalls_eq] at hplace hq ⊢
    have hentry := (place?_ofLedger_iff hnodup).mp ⟨hplace, hq⟩
    rw [Call.on_ofLedger]
    exact (place?_ofLedger_iff (call.nodup_keys_onLedger hnodup)).mpr
      (call.getElem?_onLedger hnodup hentry)
  size_on call h := by
    rw [afterCalls_eq, Call.on_ofLedger, size_ofLedger, size_ofLedger]
    obtain ⟨-, heq⟩ | ⟨p, hp, hnew, -⟩ := call.keys_onLedger (ledgerOf calls)
    · rw [heq]
    · exact absurd (mem_keys_ledgerOf_iff.mpr (h p hp)) hnew
  get?_eq before p later heq _ := by
    obtain ⟨i, hplace, hp⟩ := exists_place?_afterCalls before p later
    rw [← heq] at hplace hp
    exact ⟨i, hplace, by rw [get?, hplace]; exact hp⟩
  names h := by
    have hnames := names_eq_keys_iff.mpr (isNamed_ledgerOf h)
    rw [← afterCalls_eq, ← keys_ofLedger, ← afterCalls_eq] at hnames
    refine ⟨hnames ▸ (isIndexed_afterCalls calls).nodup, fun name p => ?_⟩
    exact (isIndexed_afterCalls calls).get?_eq_some_iff hnames.symm

example :
    let p := fun name : String => Passage.ofHeader ⟨name.toList, [], none⟩ ⟨0, 1⟩
    let passages := afterCalls [.insert (p "A"), .insert (p "B"), .modifyAt 0 fun _ => p "B",
      .insert (p "A"), .modify "B".toList fun _ => p "C"]
    (passages.names, passages.contains "C".toList) = (["A".toList, "C".toList], false) := by
  decide

end TweeStory.PassageMap
