/-
Where the passages of a story are found.

* `PassageMap.keys`: the names under which passages were inserted;
* `PassageMap.IsIndexed`: the index gives the place of the passage of every name;
* `IsIndexed.place?_eq_some_iff`, `IsIndexed.get?_eq_some_iff`: what is found in such a map;
* `IsIndexed.insert_of_mem`, `insert_of_notMem`: the two ways in which a passage is
  inserted;
* `insert_modified`: a passage may be changed before it is inserted or afterwards.
-/
import Mathlib.Data.List.Nodup
import Mathlib.Tactic.Lemma
import TweeStory.Passage.Map

namespace TweeStory.PassageMap

/-- The names under which passages were inserted, in order. -/
def keys (passages : PassageMap) : List Text :=
  passages.index.map Prod.fst

/-- The names are numbered one after the other, no name comes twice, and there is one
passage for each. -/
structure IsIndexed (passages : PassageMap) : Prop where
  index : passages.index = passages.keys.zipIdx
  nodup : passages.keys.Nodup
  length : passages.keys.length = passages.size

variable {passages : PassageMap} {p : Passage} {name : Text} {i : Nat}

/-! ### Places -/

lemma place?_eq_none_iff : passages.place? name = none ↔ name ∉ passages.keys := by
  simp only [place?, keys, Option.map_eq_none_iff, List.find?_eq_none, decide_eq_true_eq,
    List.mem_map, not_exists, not_and]

lemma mem_index_of_place? (h : passages.place? name = some i) : (name, i) ∈ passages.index := by
  obtain ⟨entry, hfind, rfl⟩ := Option.map_eq_some_iff.mp h
  have hname : entry.1 = name := by simpa using List.find?_some hfind
  rw [← hname]
  exact List.mem_of_find?_eq_some hfind

namespace IsIndexed

lemma getElem?_keys (h : passages.IsIndexed) (hmem : (name, i) ∈ passages.index) :
    passages.keys[i]? = some name := by
  rw [h.index] at hmem
  exact List.mk_mem_zipIdx_iff_getElem?.mp hmem

/-- **Places**: a name is found at the place where it stands among the names. -/
lemma place?_eq_some_iff (h : passages.IsIndexed) :
    passages.place? name = some i ↔ passages.keys[i]? = some name := by
  refine ⟨fun hplace => h.getElem?_keys (mem_index_of_place? hplace), fun hkey => ?_⟩
  cases hplace : passages.place? name with
  | none => exact absurd (List.mem_of_getElem? hkey) (place?_eq_none_iff.mp hplace)
  | some j =>
      have hj := h.getElem?_keys (mem_index_of_place? hplace)
      have hlt := (List.getElem?_eq_some_iff.mp hj).1
      exact congrArg some ((List.getElem?_inj hlt h.nodup).mp (hj.trans hkey.symm))

/-- Maps with one index and the same names of passages are indexed alike. -/
lemma of_index (h : passages.IsIndexed) {passages' : PassageMap}
    (hindex : passages'.index = passages.index) (hnames : passages'.names = passages.names) :
    passages'.IsIndexed := by
  have hkeys : passages'.keys = passages.keys := by rw [keys, keys, hindex]
  have hsize : passages'.size = passages.size := by
    simpa [names, size] using congrArg List.length hnames
  exact ⟨by rw [hindex, hkeys, h.index], hkeys ▸ h.nodup, by rw [hkeys, hsize, h.length]⟩

/-- While passages have the names under which they were inserted, a name is that of the
passage that is found under it. -/
lemma get?_eq_some_iff (h : passages.IsIndexed) (hkeys : passages.keys = passages.names) :
    passages.get? name = some p ↔ p ∈ passages.records ∧ p.name = name := by
  have hget : ∀ i : Nat, passages.records[i]? = some p → passages.keys[i]? = some p.name := by
    intro i hi
    simp [hkeys, names, hi]
  rw [get?, Option.bind_eq_some_iff]
  constructor
  · rintro ⟨i, hplace, hi⟩
    have hkey := h.place?_eq_some_iff.mp hplace
    rw [hget i hi] at hkey
    exact ⟨List.mem_of_getElem? hi, Option.some.inj hkey⟩
  · rintro ⟨hmem, rfl⟩
    obtain ⟨i, hi⟩ := List.mem_iff_getElem?.mp hmem
    exact ⟨i, h.place?_eq_some_iff.mpr (hget i hi), hi⟩

/-! ### Insertions -/

/-- A passage whose name is there takes the place of the one with that name. -/
lemma insert_of_mem (h : passages.IsIndexed) (hmem : p.name ∈ passages.keys) :
    ∃ i old, passages.keys[i]? = some p.name ∧ passages.records[i]? = some old ∧
      passages.insert p = (i, some old, { passages with records := passages.records.set i p }) := by
  obtain ⟨i, hi⟩ := List.mem_iff_getElem?.mp hmem
  have hlt : i < passages.records.length :=
    lt_of_lt_of_eq (List.getElem?_eq_some_iff.mp hi).1 h.length
  refine ⟨i, passages.records[i], hi, List.getElem?_eq_getElem hlt, ?_⟩
  rw [insert, h.place?_eq_some_iff.mpr hi]
  simp only [List.getElem?_eq_getElem hlt]

end IsIndexed

/-- A passage whose name is new goes to the end. -/
lemma insert_of_notMem (h : p.name ∉ passages.keys) :
    passages.insert p =
      (passages.size, none,
        ⟨passages.records ++ [p], passages.index ++ [(p.name, passages.size)]⟩) := by
  rw [insert, place?_eq_none_iff.mpr h]

/-- A passage is changed after it was inserted, or before. -/
lemma insert_modified (passages : PassageMap) (p : Passage) (f : Passage → Passage)
    (hname : (f p).name = p.name) :
    (passages.insert (f p)).1 = (passages.insert p).1 ∧
      (passages.insert (f p)).2.1 = (passages.insert p).2.1 ∧
      (passages.insert (f p)).2.2 =
        (passages.insert p).2.2.modifyAt (passages.insert p).1 f := by
  rw [PassageMap.insert, PassageMap.insert, hname]
  cases passages.place? p.name with
  | some i =>
      refine ⟨rfl, rfl, congrArg (PassageMap.mk · passages.index) (List.ext_getElem? fun j => ?_)⟩
      rw [List.getElem?_modify, List.getElem?_set, List.getElem?_set]
      by_cases hij : i = j <;> simp [hij]
  | none =>
      refine ⟨rfl, rfl, ?_⟩
      simp [modifyAt, size, List.modify_eq_take_drop]

end TweeStory.PassageMap
