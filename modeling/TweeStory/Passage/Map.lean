/-
The passages of a story in the order their names were first used.

* `PassageMap`: the passages, with an index from names to places;
* `PassageMap.insert`: a passage put under its name, in the place of the passage
  that stood there, or at the end;
* `PassageMap.get?`, `PassageMap.modify`, `PassageMap.modifyAt`,
  `PassageMap.map`: reading and changing passages in place.

The index keeps the names under which passages were inserted, so a passage whose
name is changed later is still found under the old one.
-/
import TweeStory.Passage.Basic

namespace TweeStory

/-- Passages in order, and where the passage inserted under a name stands. -/
structure PassageMap where
  records : List Passage
  index : List (Text × Nat)
deriving Repr

namespace PassageMap

/-- No passage. -/
def empty : PassageMap := ⟨[], []⟩

/-- The number of passages. -/
def size (passages : PassageMap) : Nat :=
  passages.records.length

/-- The place of the passage inserted under a name. -/
def place? (passages : PassageMap) (name : Text) : Option Nat :=
  (passages.index.find? fun entry => entry.1 = name).map Prod.snd

/-- Puts a passage under its name.  Gives its place, the passage that it
replaces, and the map. -/
def insert (passages : PassageMap) (p : Passage) : Nat × Option Passage × PassageMap :=
  match passages.place? p.name with
  | some i => (i, passages.records[i]?, { passages with records := passages.records.set i p })
  | none =>
    (passages.size, none,
      ⟨passages.records ++ [p], passages.index ++ [(p.name, passages.size)]⟩)

/-- A passage is found at the place where it was inserted. -/
theorem place?_insert (passages : PassageMap) (p : Passage) :
    (passages.insert p).2.2.place? p.name = some (passages.insert p).1 := by
  unfold insert
  split
  · assumption
  · rename_i h
    simp only [place?, Option.map_eq_none_iff] at h
    simp [place?, List.find?_append, h]

/-- An insertion moves no passage of another name. -/
theorem place?_insert_of_ne (passages : PassageMap) (p : Passage) {name : Text}
    (h : name ≠ p.name) : (passages.insert p).2.2.place? name = passages.place? name := by
  unfold insert
  split
  · rfl
  · simp [place?, List.find?_append, Ne.symm h]

/-- The passage at a place. -/
def at? (passages : PassageMap) (i : Nat) : Option Passage :=
  passages.records[i]?

/-- The passage inserted under a name. -/
def get? (passages : PassageMap) (name : Text) : Option Passage :=
  (passages.place? name).bind passages.at?

/-- Whether a passage was inserted under a name. -/
def contains (passages : PassageMap) (name : Text) : Bool :=
  (passages.place? name).isSome

/-- The map with the passage at a place changed. -/
def modifyAt (passages : PassageMap) (i : Nat) (f : Passage → Passage) : PassageMap :=
  { passages with records := passages.records.modify i f }

/-- The map with the passage inserted under a name changed. -/
def modify (passages : PassageMap) (name : Text) (f : Passage → Passage) : PassageMap :=
  match passages.place? name with
  | some i => passages.modifyAt i f
  | none => passages

/-- The map with every passage changed in place. -/
def map (passages : PassageMap) (f : Passage → Passage) : PassageMap :=
  { passages with records := passages.records.map f }

@[simp] theorem place?_modifyAt (passages : PassageMap) (i : Nat) (f : Passage → Passage)
    (name : Text) : (passages.modifyAt i f).place? name = passages.place? name := rfl

@[simp] theorem size_modifyAt (passages : PassageMap) (i : Nat) (f : Passage → Passage) :
    (passages.modifyAt i f).size = passages.size := by
  simp [size, modifyAt]

@[simp] theorem place?_map (passages : PassageMap) (f : Passage → Passage) (name : Text) :
    (passages.map f).place? name = passages.place? name := rfl

@[simp] theorem size_map (passages : PassageMap) (f : Passage → Passage) :
    (passages.map f).size = passages.size := by
  simp [size, map]

/-- The names of the passages in order. -/
def names (passages : PassageMap) : List Text :=
  passages.records.map (·.name)

end PassageMap

end TweeStory
