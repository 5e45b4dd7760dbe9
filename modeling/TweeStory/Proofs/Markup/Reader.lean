/-
Reading markup.

* `Tag`, `Piece`: a tag, and a tag with the text up to the next one;
* `readField?`, `readTag?`: a value goes up to the next double quote;
* `read?`: the pieces of a document;
* `Tag.text`, `written`: tags and documents as text;
* `Tag.IsPlain`, `IsPlain`: tags and documents in whose parts nothing ends them early;
* `read?_written`: reading undoes writing for such documents;
* `openTag`, `closeTag`, `leaf`: the pieces of an element, which are plain if its name
  and keys are.
-/
import TweeStory.Proofs.Text.Entity
import TweeStory.Proofs.Text.Search
import TweeStory.Story.Document

namespace TweeStory.Markup

open Text

/-! ### Tags -/

/-- A tag with its attributes in order, their values as they are written.  The name of
a closing tag begins with a slash. -/
structure Tag where
  name : Text
  fields : List (Text × Text)
deriving DecidableEq, Repr

/-- A tag and the text behind it, up to the next tag. -/
abbrev Piece := Tag × Text

/-- The text that the value of an attribute stands for. -/
def Tag.value? (tag : Tag) (key : Text) : Option Text :=
  (tag.fields.lookup key).map unescaped

/-! ### Reading -/

lemma length_lt_of_cut? {needle t before rest : Text} (h : cut? needle t = some (before, rest))
    (hne : needle ≠ []) : rest.length < t.length := by
  have hpos := List.length_pos_iff.mpr hne
  rw [eq_of_cut? h, List.length_append, List.length_append]
  omega

/-- The attribute at the beginning of a text, without the space before it, and the rest of
the text. -/
def readField? (t : Text) : Option ((Text × Text) × Text) :=
  (cut? "=\"".toList t).bind fun (key, t) =>
    (cut? ['"'] t).map fun (value, t) => ((key, value), t)

lemma length_lt_of_readField? {t rest : Text} {field : Text × Text}
    (h : readField? t = some (field, rest)) : rest.length < t.length := by
  obtain ⟨⟨key, t₁⟩, hkey, h⟩ := Option.bind_eq_some_iff.mp h
  obtain ⟨⟨value, t₂⟩, hvalue, heq⟩ := Option.map_eq_some_iff.mp h
  obtain ⟨-, rfl⟩ := Prod.mk.inj heq
  exact Nat.lt_trans (length_lt_of_cut? hvalue (by decide)) (length_lt_of_cut? hkey (by decide))

/-- The attributes at the beginning of a text, and the rest of the text behind the end
of the tag. -/
def readFields? : Text → Option (List (Text × Text) × Text)
  | '>' :: t => some ([], t)
  | ' ' :: t =>
    match _h : readField? t with
    | none => none
    | some (field, t) => (readFields? t).map fun (fields, rest) => (field :: fields, rest)
  | _ => none
termination_by t => t.length
decreasing_by exact Nat.lt_succ_of_lt (length_lt_of_readField? _h)

lemma readFields?_of_readField? {t rest : Text} {field : Text × Text}
    (h : readField? t = some (field, rest)) :
    readFields? (' ' :: t) =
      (readFields? rest).map fun (fields, rest) => (field :: fields, rest) := by
  rw [readFields?]
  split
  · rename_i hnone
    rw [hnone] at h
    cases h
  · rename_i hsome
    rw [hsome] at h
    cases h
    rfl

lemma length_lt_of_readFields? {t rest : Text} {fields : List (Text × Text)}
    (h : readFields? t = some (fields, rest)) : rest.length < t.length := by
  induction t using readFields?.induct generalizing fields rest with
  | case1 t =>
      rw [readFields?] at h
      cases h
      exact Nat.lt_succ_self _
  | case2 t hone =>
      rw [readFields?] at h
      split at h <;> simp_all
  | case3 t field t₁ hone ih =>
      rw [readFields?_of_readField? hone] at h
      obtain ⟨⟨fields', rest'⟩, hrest, heq⟩ := Option.map_eq_some_iff.mp h
      obtain ⟨-, rfl⟩ := Prod.mk.inj heq
      exact Nat.lt_succ_of_lt (Nat.lt_trans (ih hrest) (length_lt_of_readField? hone))
  | case4 t hend hspace =>
      rw [readFields?] at h
      · cases h
      · exact hend
      · exact hspace

/-- Whether a character ends the name of a tag. -/
def endsName (c : Char) : Bool :=
  c == ' ' || c == '>'

/-- The tag at the beginning of a text, and the rest of the text. -/
def readTag? : Text → Option (Tag × Text)
  | '<' :: t =>
    (readFields? (t.dropWhile fun c => !endsName c)).map fun (fields, rest) =>
      (⟨t.takeWhile fun c => !endsName c, fields⟩, rest)
  | _ => none

lemma length_lt_of_readTag? {t rest : Text} {tag : Tag} (h : readTag? t = some (tag, rest)) :
    rest.length < t.length := by
  unfold readTag? at h
  split at h
  · rename_i t
    obtain ⟨⟨fields, rest'⟩, hfields, heq⟩ := Option.map_eq_some_iff.mp h
    obtain ⟨-, rfl⟩ := Prod.mk.inj heq
    have hlt := length_lt_of_readFields? hfields
    have hle : (t.dropWhile fun c => !endsName c).length ≤ t.length :=
      (List.dropWhile_suffix _).length_le
    exact Nat.lt_succ_of_lt (Nat.lt_of_lt_of_le hlt hle)
  · cases h

/-- The pieces of a text that begins with a tag. -/
def read? (t : Text) : Option (List Piece) :=
  match t with
  | [] => some []
  | c :: t =>
    match _h : readTag? (c :: t) with
    | none => none
    | some (tag, rest) =>
      (read? (rest.dropWhile (· ≠ '<'))).map fun pieces =>
        (tag, rest.takeWhile (· ≠ '<')) :: pieces
termination_by t.length
decreasing_by
  have hlt := length_lt_of_readTag? _h
  have hle : (rest.dropWhile (· ≠ '<')).length ≤ rest.length :=
    (List.dropWhile_suffix _).length_le
  exact Nat.lt_of_le_of_lt hle hlt

lemma read?_of_readTag? {t rest : Text} {tag : Tag} (h : readTag? t = some (tag, rest)) :
    read? t = (read? (rest.dropWhile (· ≠ '<'))).map fun pieces =>
      (tag, rest.takeWhile (· ≠ '<')) :: pieces := by
  cases t with
  | nil => cases h
  | cons c t =>
      rw [read?]
      split
      · rename_i hnone
        rw [hnone] at h
        cases h
      · rename_i hsome
        rw [hsome] at h
        cases h
        rfl

/-! ### Writing -/

/-- An attribute as text, its value being as it is written. -/
def fieldText (field : Text × Text) : Text :=
  ' ' :: field.1 ++ "=\"".toList ++ field.2 ++ ['"']

/-- A tag as text. -/
def Tag.text (tag : Tag) : Text :=
  '<' :: tag.name ++ tag.fields.flatMap fieldText ++ ['>']

/-- A document as text. -/
def written (pieces : List Piece) : Text :=
  pieces.flatMap fun (tag, text) => tag.text ++ text

/-- A tag in whose parts nothing ends them early. -/
structure Tag.IsPlain (tag : Tag) : Prop where
  name : tag.name.any endsName = false
  fields : ∀ field ∈ tag.fields, '=' ∉ field.1 ∧ '"' ∉ field.2

/-- A document in whose parts nothing ends them early. -/
def IsPlain (pieces : List Piece) : Prop :=
  ∀ piece ∈ pieces, piece.1.IsPlain ∧ '<' ∉ piece.2

lemma readFields?_fieldText {field : Text × Text} (hkey : '=' ∉ field.1) (hvalue : '"' ∉ field.2)
    (t : Text) :
    readFields? (fieldText field ++ t) =
      (readFields? t).map fun (fields, rest) => (field :: fields, rest) := by
  have hcutKey : cut? "=\"".toList (field.1 ++ ("=\"".toList ++ (field.2 ++ (['"'] ++ t)))) =
      some (field.1, field.2 ++ (['"'] ++ t)) := cut?_append_of_notMem hkey ['"'] _
  have hcutValue : cut? ['"'] (field.2 ++ (['"'] ++ t)) = some (field.2, t) :=
    cut?_append_of_notMem hvalue [] t
  have hone : readField? (field.1 ++ ("=\"".toList ++ (field.2 ++ (['"'] ++ t)))) =
      some (field, t) := by
    simp only [readField?, hcutKey, hcutValue, Option.bind_some, Option.map_some]
  have htext : fieldText field ++ t =
      ' ' :: (field.1 ++ ("=\"".toList ++ (field.2 ++ (['"'] ++ t)))) := by
    simp [fieldText]
  rw [htext, readFields?_of_readField? hone]

lemma readFields?_flatMap {fields : List (Text × Text)}
    (h : ∀ field ∈ fields, '=' ∉ field.1 ∧ '"' ∉ field.2) (t : Text) :
    readFields? (fields.flatMap fieldText ++ '>' :: t) = some (fields, t) := by
  induction fields with
  | nil => rw [List.flatMap_nil, List.nil_append, readFields?]
  | cons field fields ih =>
      obtain ⟨hkey, hvalue⟩ := h field (by simp)
      rw [List.flatMap_cons, List.append_assoc, readFields?_fieldText hkey hvalue,
        ih fun field hmem => h field (by simp [hmem])]
      rfl

/-- A plain tag is read up to its end. -/
lemma readTag?_text {tag : Tag} (h : tag.IsPlain) (t : Text) :
    readTag? (tag.text ++ t) = some (tag, t) := by
  have htext : tag.text ++ t = '<' :: (tag.name ++ (tag.fields.flatMap fieldText ++ '>' :: t)) := by
    simp [Tag.text]
  have hname : ∀ c ∈ tag.name, !endsName c := fun c hc => by
    simpa using List.any_eq_false.mp h.name c hc
  -- the name ends at the space before the first attribute or at the end of the tag
  have hend : ∃ c rest, endsName c ∧ tag.fields.flatMap fieldText ++ '>' :: t = c :: rest := by
    cases tag.fields with
    | nil => exact ⟨'>', t, rfl, rfl⟩
    | cons field fields => exact ⟨' ', _, rfl, rfl⟩
  obtain ⟨c, rest, hc, hrest⟩ := hend
  rw [htext, readTag?, List.takeWhile_append_of_pos hname, List.dropWhile_append_of_pos hname,
    hrest, List.takeWhile_cons_of_neg (by simp [hc]), List.dropWhile_cons_of_neg (by simp [hc]),
    ← hrest, readFields?_flatMap h.fields, List.append_nil]
  rfl

/-- **Reading undoes writing.** -/
theorem read?_written {pieces : List Piece} (h : IsPlain pieces) :
    read? (written pieces) = some pieces := by
  induction pieces with
  | nil => rw [written, List.flatMap_nil, read?]
  | cons piece pieces ih =>
      obtain ⟨tag, text⟩ := piece
      obtain ⟨htag, htext⟩ := h (tag, text) (by simp)
      have hplain : ∀ c ∈ text, decide (c ≠ '<') := fun c hc =>
        decide_eq_true fun heq => htext (heq ▸ hc)
      -- the text ends at the next tag or at the end of the document
      obtain ⟨htake, hdrop⟩ : (written pieces).takeWhile (· ≠ '<') = [] ∧
          (written pieces).dropWhile (· ≠ '<') = written pieces := by
        cases pieces with
        | nil => exact ⟨rfl, rfl⟩
        | cons => exact ⟨rfl, rfl⟩
      have hread := readTag?_text htag (text ++ written pieces)
      have hwritten : written ((tag, text) :: pieces) = tag.text ++ (text ++ written pieces) := by
        simp [written]
      rw [hwritten, read?_of_readTag? hread, List.takeWhile_append_of_pos hplain,
        List.dropWhile_append_of_pos hplain, htake, hdrop,
        ih fun piece hmem => h piece (by simp [hmem]), List.append_nil]
      rfl

/-! ### Elements -/

/-- The tag that opens an element, its attributes with their values as texts. -/
def openTag (name : Text) (attributes : List (Text × Text)) : Tag :=
  ⟨name, attributes.map fun (key, value) => (key, value.escaped)⟩

/-- The tag that closes an element. -/
def closeTag (name : Text) : Tag :=
  ⟨'/' :: name, []⟩

/-- The pieces of an element whose content is text. -/
def leaf (name : Text) (attributes : List (Text × Text)) (content : Text) : List Piece :=
  [(openTag name attributes, content.escaped), (closeTag name, [])]

variable {name : Text} {attributes : List (Text × Text)}

lemma element_eq (name : Text) (attributes : List (Text × Text)) (content : Text) :
    element name attributes content =
      (openTag name attributes).text ++ content ++ (closeTag name).text := by
  simp [element, openTag, closeTag, Tag.text, fieldText, field, List.flatMap_map]

lemma written_append (pieces pieces' : List Piece) :
    written (pieces ++ pieces') = written pieces ++ written pieces' := by
  simp [written]

lemma written_leaf (name : Text) (attributes : List (Text × Text)) (content : Text) :
    written (leaf name attributes content) = element name attributes content.escaped := by
  simp [element_eq, written, leaf]

/-- The value of an attribute is read as the text that was written. -/
lemma value?_openTag (name : Text) (attributes : List (Text × Text)) (key : Text) :
    (openTag name attributes).value? key = attributes.lookup key := by
  rw [Tag.value?, openTag]
  induction attributes with
  | nil => rfl
  | cons attr attributes ih =>
      rw [List.map_cons, List.lookup_cons, List.lookup_cons]
      split
      · rw [Option.map_some, unescaped_escaped]
      · exact ih

lemma isPlain_append {pieces pieces' : List Piece} :
    IsPlain (pieces ++ pieces') ↔ IsPlain pieces ∧ IsPlain pieces' :=
  List.forall_mem_append

/-- A tag with a plain name and plain keys is plain whatever its values are. -/
lemma isPlain_openTag (hname : name.any endsName = false)
    (hkeys : ∀ key ∈ attributes.map Prod.fst, '=' ∉ key) : (openTag name attributes).IsPlain where
  name := hname
  fields := fun field hfield => by
    obtain ⟨⟨key, value⟩, hmem, rfl⟩ := List.mem_map.mp hfield
    exact ⟨hkeys key (List.mem_map_of_mem hmem), not_mem_escaped (by decide) value⟩

lemma isPlain_closeTag (hname : name.any endsName = false) : (closeTag name).IsPlain where
  name := hname
  fields := fun field hfield => by cases hfield

/-- An element with a plain name and plain keys is plain whatever its content is. -/
lemma isPlain_leaf (hname : name.any endsName = false)
    (hkeys : ∀ key ∈ attributes.map Prod.fst, '=' ∉ key) (content : Text) :
    IsPlain (leaf name attributes content) := by
  refine List.forall_mem_cons.mpr ⟨⟨isPlain_openTag hname hkeys, ?_⟩, ?_⟩
  · exact not_mem_escaped (by decide) content
  · exact List.forall_mem_singleton.mpr ⟨isPlain_closeTag hname, List.not_mem_nil⟩

end TweeStory.Markup
