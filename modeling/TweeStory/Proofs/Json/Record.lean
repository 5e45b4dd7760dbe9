/-
The fields of a record that is written as an object.

* `IsOnly`, `Lacks`: a key that one member has, with its value, and a key that none has;
* `IsField`: the value of a field that may be left out;
* `record?_object_eq_some_iff`: the values of a record with given fields.
-/
import Mathlib.Data.List.Forall2
import Mathlib.Tactic.Lemma
import TweeStory.Json.Decode

namespace TweeStory.Json

variable {members : List (Option Text × Json)} {entries : List (Text × Json)} {key field : Text}
  {fields : List Text} {value : Option Json} {values : List (Option Json)}

/-! ### Members with a key -/

/-- The value is that of the only member with the key. -/
def IsOnly (members : List (Option Text × Json)) (key : Text) (value : Json) : Prop :=
  members.filter (fun member => member.1 = some key) = [(some key, value)]

/-- No member has the key. -/
def Lacks (members : List (Option Text × Json)) (key : Text) : Prop :=
  ∀ member ∈ members, member.1 ≠ some key

/-- The value of a field that no member has, or one member. -/
inductive IsField (members : List (Option Text × Json)) (field : Text) : Option Json → Prop
  | absent (h : Lacks members field) : IsField members field none
  | only {value : Json} (h : IsOnly members field value) : IsField members field (some value)

/-- Members with names that are texts. -/
def named (entries : List (Text × Json)) : List (Option Text × Json) :=
  entries.map fun entry => (some entry.1, entry.2)

lemma mapM_eq_some_iff {α β : Type} {f : α → Option β} {xs : List α} {ys : List β} :
    xs.mapM f = some ys ↔ List.Forall₂ (fun x y => f x = some y) xs ys := by
  induction xs generalizing ys with
  | nil => cases ys <;> simp
  | cons x xs ih =>
      simp only [List.mapM_cons, Option.bind_eq_bind, Option.bind_eq_some_iff, ih,
        List.forall₂_cons_left_iff, Option.pure_def, Option.some.injEq]
      constructor
      · rintro ⟨y, hy, ys, hys, rfl⟩
        exact ⟨y, ys, hy, hys, rfl⟩
      · rintro ⟨y, ys, hy, hys, rfl⟩
        exact ⟨y, hy, ys, hys, rfl⟩

lemma entries?_object_eq_some_iff : (Json.object members).entries? = some entries ↔
    members = named entries := by
  rw [entries?, mapM_eq_some_iff, named, ← List.forall₂_eq_eq_eq, List.forall₂_map_right_iff]
  constructor <;>
    · refine List.Forall₂.imp ?_
      rintro ⟨name, value⟩ ⟨key, content⟩
      cases name <;> simp

/-- Members can be read as entries if their names are texts. -/
lemma exists_named_iff : (∃ entries, members = named entries) ↔
    ∀ member ∈ members, member.1.isSome := by
  constructor
  · rintro ⟨entries, rfl⟩ member hmember
    obtain ⟨entry, -, rfl⟩ := List.mem_map.mp hmember
    rfl
  · intro h
    induction members with
    | nil => exact ⟨[], rfl⟩
    | cons member members ih =>
        obtain ⟨hmember, hmembers⟩ := List.forall_mem_cons.mp h
        obtain ⟨name, hname⟩ := Option.isSome_iff_exists.mp hmember
        obtain ⟨entries, rfl⟩ := ih hmembers
        have hnamed : named ((name, member.2) :: entries) = member :: named entries := by
          rw [named, List.map_cons, ← hname, named]
        exact ⟨_, hnamed.symm⟩

/-! ### Fields -/

/-- What the entries say of a field. -/
def field? (entries : List (Text × Json)) (field : Text) : Option (Option Json) :=
  match entries.filter fun entry => entry.1 = field with
  | [] => some none
  | [entry] => some (some entry.2)
  | _ => none

lemma record?_object (members : List (Option Text × Json)) (fields : List Text) :
    (Json.object members).record? fields =
      (Json.object members).entries?.bind fun entries => fields.mapM (field? entries) :=
  rfl

lemma filter_named (entries : List (Text × Json)) (field : Text) :
    (named entries).filter (fun member => member.1 = some field) =
      named (entries.filter fun entry => entry.1 = field) := by
  rw [named, List.filter_map, named]
  congr 2
  funext entry
  simp

lemma lacks_named_iff :
    Lacks (named entries) field ↔ entries.filter (fun entry => entry.1 = field) = [] := by
  rw [Lacks, named, List.forall_mem_map, List.filter_eq_nil_iff]
  simp

lemma isOnly_named_iff {content : Json} : IsOnly (named entries) field content ↔
    entries.filter (fun entry => entry.1 = field) = [(field, content)] := by
  have hinj : Function.Injective fun entry : Text × Json => (some entry.1, entry.2) := by
    rintro ⟨name, value⟩ ⟨key, other⟩ h
    simpa using h
  rw [IsOnly, filter_named]
  exact (List.map_injective_iff.mpr hinj).eq_iff (b := [(field, content)])

/-- A field has a value if at most one entry is for it. -/
lemma field?_eq_some_iff : field? entries field = some value ↔
    IsField (named entries) field value := by
  rw [field?]
  constructor
  · intro h
    split at h
    · obtain rfl := Option.some.inj h
      exact .absent (lacks_named_iff.mpr ‹_›)
    · rename_i entry hfilter
      obtain rfl := Option.some.inj h
      have hfield : entry.1 = field := by
        have hmem : entry ∈ entries.filter fun entry => entry.1 = field := by simp [hfilter]
        simpa using (List.mem_filter.mp hmem).2
      exact .only (isOnly_named_iff.mpr (hfield ▸ hfilter))
    · cases h
  · rintro (habsent | honly)
    · rw [lacks_named_iff.mp habsent]
    · rw [isOnly_named_iff.mp honly]

/-- **The values of a record** that is written as an object: all its keys are texts, and no field
is there twice. -/
theorem record?_object_eq_some_iff : (Json.object members).record? fields = some values ↔
    (∀ member ∈ members, member.1.isSome) ∧ List.Forall₂ (IsField members) fields values := by
  rw [record?_object, Option.bind_eq_some_iff]
  simp only [entries?_object_eq_some_iff, mapM_eq_some_iff, field?_eq_some_iff]
  constructor
  · rintro ⟨entries, rfl, hfields⟩
    exact ⟨exists_named_iff.mp ⟨entries, rfl⟩, hfields⟩
  · rintro ⟨hkeys, hfields⟩
    obtain ⟨entries, rfl⟩ := exists_named_iff.mpr hkeys
    exact ⟨entries, rfl, hfields⟩

end TweeStory.Json
