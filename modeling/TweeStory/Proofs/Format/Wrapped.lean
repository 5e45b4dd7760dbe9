/-
The format that a format file wraps in code.

* `cutLast?_append`: the last occurrence of a needle, where no other one begins behind it;
* `IsWrapping`, `object?_wrapped`, `object?_wrappedCode`: an object with text around it, and what
  is read of it as JSON: the object, or the part of it in front of the member that holds code;
* `IsOnly`, `Lacks`, `Describes`, `ofJson?_object_eq_some_iff`: the members of an object that
  describe a format;
* `IsReadFrom`, `isUnwrapped_of_isWrapping`: the format that a format file gives.
-/
import TweeStory.Proofs.Format.Object
import TweeStory.Proofs.Json.Reader
import TweeStory.Proofs.Json.Record

namespace TweeStory

namespace Text

variable {needle s t : Text} {c : Char}

/-- A text is not cut where it does not have the needle. -/
lemma cutLast?_eq_none (h : includes t needle = false) : cutLast? needle t = none := by
  rw [Option.eq_none_iff_forall_ne_some]
  rintro ⟨before, rest⟩ hcut
  have hincludes := includes_iff.mpr ⟨_, (isGreatest_of_cutLast? hcut).1⟩
  rw [h] at hincludes
  cases hincludes

/-- **The last occurrence of a needle** is the one behind which no other begins. -/
lemma cutLast?_append (h : includes (needle ++ t) (c :: needle) = false) (s : Text) :
    cutLast? (c :: needle) (s ++ c :: needle ++ t) = some (s, t) := by
  induction s with
  | nil =>
      have hafter : after? (c :: needle) (c :: (needle ++ t)) = some t :=
        after?_append (c :: needle) t
      rw [List.nil_append, List.cons_append, cutLast?, cutLast?_eq_none h]
      simp only [hafter, Option.map_some]
  | cons d s ih =>
      rw [List.cons_append, List.cons_append, cutLast?, ih]

/-- A needle does not begin in a text without its first character. -/
lemma includes_append_of_notMem (hs : c ∉ s) (ht : includes t (c :: needle) = false) :
    includes (s ++ t) (c :: needle) = false := by
  induction s with
  | nil => exact ht
  | cons d s ih =>
      rw [List.mem_cons, not_or] at hs
      rw [includes_eq_false_iff] at ih ⊢
      have hafter : after? (c :: needle) (d :: (s ++ t)) = none := if_neg hs.1
      rw [List.cons_append, cut?, hafter, ih hs.2]
      rfl

end Text

namespace StoryFormat

open Text

/-! ### Objects with text around them -/

/-- An object stands between two texts of which the first has no opening brace, and the second no
closing one. -/
structure IsWrapping (before blob after : Text) : Prop where
  before : '\x7b' ∉ before
  opens : ∃ rest, blob = '\x7b' :: rest
  closes : ∃ front, blob = front ++ ['\x7d']
  after : '\x7d' ∉ after

variable {before blob after body code contents object : Text} {members : List (Option Text × Json)}
  {format : StoryFormat}

lemma IsWrapping.exists_inner (h : IsWrapping before blob after) :
    ∃ inner, blob = '\x7b' :: (inner ++ ['\x7d']) := by
  obtain ⟨rest, hrest⟩ := h.opens
  obtain ⟨front, rfl⟩ := h.closes
  cases front with
  | nil => cases hrest
  | cons c inner =>
      obtain ⟨rfl, -⟩ := List.cons.inj hrest
      exact ⟨inner, rfl⟩

lemma IsWrapping.exists_behind (h : IsWrapping before blob after) :
    ∃ behind, before ++ blob ++ after = before ++ '\x7b' :: behind := by
  obtain ⟨rest, rfl⟩ := h.opens
  exact ⟨rest ++ after, by simp⟩

/-- What is read of a file is what stands from its first brace to its last end mark. -/
lemma object?_eq_ok {rest front behind : Text} (hbefore : '\x7b' ∉ before)
    (hopens : contents = before ++ '\x7b' :: rest)
    (hcut : cutLast? (endMark contents) contents = some (before ++ front, behind)) :
    object? contents = .ok (front ++ ['\x7d']) := by
  have hfirst : cut? ['\x7b'] contents = some (before, rest) := by
    rw [hopens]
    exact cut?_append_of_notMem hbefore [] rest
  have hle : before.length ≤ (before ++ front).length := by simp
  simp only [object?, hfirst, hcut, if_pos hle, List.drop_left]

/-- **An object without code** is read as it stands in the file. -/
lemma object?_wrapped (h : IsWrapping before blob after)
    (hplain : includes (before ++ blob ++ after) codeWord = false) :
    object? (before ++ blob ++ after) = .ok blob := by
  obtain ⟨behind, hopens⟩ := h.exists_behind
  obtain ⟨front, hfront⟩ := h.closes
  have hmark : endMark (before ++ blob ++ after) = ['\x7d'] := by
    rw [endMark, hplain]
    rfl
  have hcontents : before ++ blob ++ after = (before ++ front) ++ ['\x7d'] ++ after := by
    rw [hfront]
    simp
  have hlast : cutLast? (endMark (before ++ blob ++ after)) (before ++ blob ++ after) =
      some (before ++ front, after) := by
    rw [hmark, hcontents]
    exact cutLast?_append (includes_of_notMem List.mem_cons_self h.after) _
  exact (object?_eq_ok h.before hopens hlast).trans (hfront ▸ rfl)

/-- **An object with code** is read without the member that holds the code. -/
lemma object?_wrappedCode (h : IsWrapping before blob after)
    (hword : includes (before ++ blob ++ after) codeWord)
    (hblob : blob = body ++ codeMark ++ code ++ ['\x7d']) (hcode : includes code codeMark = false)
    (hafter : includes after codeMark = false) :
    object? (before ++ blob ++ after) = .ok (body ++ ['\x7d']) := by
  obtain ⟨behind, hopens⟩ := h.exists_behind
  have hmark : endMark (before ++ blob ++ after) = codeMark := by
    rw [endMark, hword]
    rfl
  -- neither the mark itself nor the brace behind the code lets another mark begin
  have hnone : includes ("\"setup\":".toList ++ (code ++ '\x7d' :: after)) codeMark = false :=
    includes_append_of_notMem (by decide) (includes_append_cons hcode (by decide) hafter)
  have hcontents : before ++ blob ++ after =
      (before ++ body) ++ codeMark ++ (code ++ '\x7d' :: after) := by
    rw [hblob]
    simp
  have hlast : cutLast? (endMark (before ++ blob ++ after)) (before ++ blob ++ after) =
      some (before ++ body, code ++ '\x7d' :: after) := by
    rw [hmark, hcontents]
    exact cutLast?_append hnone _
  exact object?_eq_ok h.before hopens hlast

/-! ### Members that describe a format -/

/-- The members of an object describe a format.  Other members than these are passed over. -/
structure Describes (members : List (Option Text × Json)) (format : StoryFormat) : Prop where
  keys : ∀ member ∈ members, member.1.isSome
  name : Json.IsOnly members "name".toList (.string (some format.name)) ∨
    (Json.Lacks members "name".toList ∧ format.name = "Untitled Story Format".toList)
  version : Json.IsOnly members "version".toList (.string (some format.version))
  source : Json.IsOnly members "source".toList (.string (some format.source))

lemma text?_eq_some_iff {value : Json} {t : Text} :
    value.text? = some t ↔ value = .string (some t) := by
  cases value <;> simp [Json.text?]

/-- The name of a format is that in its field, or the one of formats without a name. -/
lemma isOnly_or_lacks_of_optional? {field : Option Json} {name : Text}
    (h : Json.IsField members "name".toList field)
    (hname : Json.optional? Json.text? defaultName field = some name) :
    Json.IsOnly members "name".toList (.string (some name)) ∨
      (Json.Lacks members "name".toList ∧ name = defaultName) := by
  cases h with
  | absent hlacks => exact .inr ⟨hlacks, (Option.some.inj hname).symm⟩
  | only honly => exact .inl (text?_eq_some_iff.mp hname ▸ honly)

/-- **The members of an object** give the format that they describe, if they describe one. -/
lemma ofJson?_object_eq_some_iff : ofJson? (.object members) = some format ↔
    Describes members format := by
  rw [ofJson?]
  simp only [Option.bind_eq_bind, Option.bind_eq_some_iff, Json.record?_object_eq_some_iff]
  constructor
  · rintro ⟨values, ⟨hkeys, hfields⟩, h⟩
    rcases hfields with _ | ⟨hname, _ | ⟨hversion, _ | ⟨hsource, _ | _⟩⟩⟩
    cases hversion with
    | absent => cases h
    | only hversion =>
        cases hsource with
        | absent => cases h
        | only hsource =>
            simp only [Option.bind_eq_some_iff, text?_eq_some_iff, Option.pure_def,
              Option.some.injEq] at h
            obtain ⟨name, hgiven, version, rfl, source, rfl, rfl⟩ := h
            exact ⟨hkeys, isOnly_or_lacks_of_optional? hname hgiven, hversion, hsource⟩
  · intro h
    obtain ⟨field, hfield, hname⟩ : ∃ field, Json.IsField members "name".toList field ∧
        Json.optional? Json.text? defaultName field = some format.name := by
      rcases h.name with honly | ⟨hlacks, hname⟩
      · exact ⟨_, .only honly, rfl⟩
      · exact ⟨_, .absent hlacks, congrArg some hname.symm⟩
    refine ⟨[field, some (.string (some format.version)), some (.string (some format.source))],
      ⟨h.keys, .cons hfield (.cons (.only h.version) (.cons (.only h.source) .nil))⟩, ?_⟩
    simp only [hname]
    rfl

/-! ### Formats -/

/-- What is read from the text of a format file: the object, and the format that its members
describe, if it is written as JSON and they describe one. -/
structure IsReadFrom (contents object : Text) : Prop where
  object? : object? contents = .ok object
  format_iff : ∀ format, ofSource contents = .ok format ↔
    ∃ members, Json.Writes object (.object members) ∧ Describes members format
  malformed : (∀ format, ofSource contents ≠ .ok format) → ofSource contents = .error .malformed

lemma isReadFrom_of_object? {t : Text}
    (h : object? contents = .ok ('\x7b' :: (t ++ ['\x7d']))) :
    IsReadFrom contents ('\x7b' :: (t ++ ['\x7d'])) where
  object? := h
  format_iff := fun format => by
    simp only [ofSource, h]
    constructor
    · intro hformat
      split at hformat
      · rename_i read hread
        cases hformat
        obtain ⟨json, hjson, hread⟩ := Option.bind_eq_some_iff.mp hread
        obtain ⟨members, rfl, hwrites⟩ := Json.parse?_braces_iff.mp hjson
        exact ⟨members, hwrites, ofJson?_object_eq_some_iff.mp hread⟩
      · cases hformat
    · rintro ⟨members, hwrites, hdescribes⟩
      rw [Json.parse?_braces_iff.mpr ⟨members, rfl, hwrites⟩, Option.bind_some,
        ofJson?_object_eq_some_iff.mpr hdescribes]
  malformed := fun hnone => by
    rcases ofSource_of_object?_ok h with ⟨format, hformat⟩ | hmalformed
    · exact absurd hformat (hnone format)
    · exact hmalformed

/-- What is read from an object with text around it. -/
structure IsUnwrapped (before blob after : Text) : Prop where
  /-- In a file without the word for code, it is the object. -/
  plain : includes (before ++ blob ++ after) "harlowe".toList = false →
    IsReadFrom (before ++ blob ++ after) blob
  /-- In a file with that word, it is the object up to the last mark of code, closed again. -/
  code : includes (before ++ blob ++ after) "harlowe".toList → ∀ body code,
    let mark := ",\"setup\":".toList
    blob = body ++ mark ++ code ++ ['\x7d'] → includes code mark = false →
      includes after mark = false → IsReadFrom (before ++ blob ++ after) (body ++ ['\x7d'])

/-- **The format in a file** is the one that the members of its object describe, whatever braces,
quotes and slots stand in their texts. -/
theorem isUnwrapped_of_isWrapping (h : IsWrapping before blob after) :
    IsUnwrapped before blob after where
  plain := fun hplain => by
    obtain ⟨inner, hinner⟩ := h.exists_inner
    have hobject := object?_wrapped h hplain
    rw [hinner] at hobject ⊢
    exact isReadFrom_of_object? hobject
  code := by
    intro hword body code mark hblob hno hafter
    obtain ⟨rest, hrest⟩ := h.opens
    have hobject := object?_wrappedCode h hword hblob hno hafter
    -- the mark of code does not begin with a brace, so the body does
    cases body with
    | nil =>
        rw [hrest] at hblob
        cases hblob
    | cons c body =>
        rw [hrest] at hblob
        obtain ⟨rfl, -⟩ := List.cons.inj hblob
        exact isReadFrom_of_object? hobject

/-- The object of a format with braces, quotes and slots in its texts. -/
def harbourBody : Text :=
  ("\x7b\"version\":\"1\\\"\x7d\",\"source\":\"\x7b\x7bSTORY_NAME\x7d\x7d \x7b harlowe" ++
    "\"").toList

/-- The code of the format. -/
def harbourCode : Text := "function()\x7b\x7d".toList

theorem isUnwrapped_harbourBody :
    let blob := harbourBody ++ ",\"setup\":".toList ++ harbourCode ++ ['\x7d']
    let contents := "window.storyFormat(".toList ++ blob ++ ");\n".toList
    IsWrapping "window.storyFormat(".toList blob ");\n".toList ∧
      IsUnwrapped "window.storyFormat(".toList blob ");\n".toList ∧
      IsReadFrom contents (harbourBody ++ ['\x7d']) := by
  intro blob contents
  have h : IsWrapping "window.storyFormat(".toList blob ");\n".toList :=
    { before := by decide
      opens := ⟨blob.tail, by decide⟩
      closes := ⟨blob.dropLast, by decide⟩
      after := by decide }
  have hunwrapped := isUnwrapped_of_isWrapping h
  exact ⟨h, hunwrapped,
    hunwrapped.code (by decide) harbourBody harbourCode rfl (by decide) (by decide)⟩

/-- A brace in a text of the object is not the one that ends it. -/
example : ofSource "f(\x7b\"version\":\"1\",\"source\":\"\x7d\"\x7d);".toList =
    .ok ⟨"Untitled Story Format".toList, "1".toList, "\x7d".toList⟩ := by
  decide +kernel

end StoryFormat

end TweeStory
