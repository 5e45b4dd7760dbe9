/-
Text as a list of characters, with the searches and cuts that the rules of the
notation are made of:

* `Text.utf8Length`: the length of a text in bytes;
* `Text.after?`, `Text.beforeEnd?`: a text without a given beginning or ending;
* `Text.cut?`, `Text.cutLast?`: the text around the first and around the last
  occurrence of a needle;
* `Text.segments`: the text between the occurrences of a needle;
* `Text.replaceFirst`, `Text.replaceAll`: substitution for one occurrence and
  for all of them.
-/

namespace TweeStory

/-- Text is a list of characters, so that a rule on text is a recursion on the
list. -/
abbrev Text := List Char

namespace Text

/-! ### Length -/

/-- The number of bytes of the text when it is written in UTF-8. -/
def utf8Length : Text → Nat
  | [] => 0
  | c :: t => c.utf8Size + utf8Length t

@[simp] theorem utf8Length_nil : utf8Length [] = 0 := rfl

@[simp] theorem utf8Length_cons (c : Char) (t : Text) :
    utf8Length (c :: t) = c.utf8Size + utf8Length t := rfl

/-- The bytes of a text split over an append. -/
@[simp] theorem utf8Length_append (s t : Text) :
    utf8Length (s ++ t) = utf8Length s + utf8Length t := by
  induction s with
  | nil => simp
  | cons c s ih => simp [ih, Nat.add_assoc]

/-! ### Beginnings and endings -/

/-- The rest of `t` after `lead`, if `t` begins with `lead`. -/
def after? : (lead t : Text) → Option Text
  | [], t => some t
  | _ :: _, [] => none
  | a :: lead, b :: t => if a = b then after? lead t else none

/-- Whether `t` begins with `lead`. -/
def beginsWith (t lead : Text) : Bool :=
  (after? lead t).isSome

/-- The rest of `t` before `tail`, if `t` ends with `tail`. -/
def beforeEnd? (tail t : Text) : Option Text :=
  (after? tail.reverse t.reverse).map List.reverse

/-- Whether `t` ends with `tail`. -/
def finishesWith (t tail : Text) : Bool :=
  (beforeEnd? tail t).isSome

/-- What is left after a beginning is what the text has behind it. -/
theorem after?_eq_some_iff {lead t rest : Text} :
    after? lead t = some rest ↔ t = lead ++ rest := by
  induction lead generalizing t with
  | nil => simp [after?]
  | cons a lead ih =>
    cases t with
    | nil => simp [after?]
    | cons b t =>
      by_cases h : a = b
      · simp [after?, h, ih]
      · simp [after?, h, Ne.symm h]

@[simp] theorem after?_append (lead rest : Text) : after? lead (lead ++ rest) = some rest :=
  after?_eq_some_iff.2 rfl

theorem beginsWith_iff {t lead : Text} : beginsWith t lead ↔ ∃ rest, t = lead ++ rest := by
  simp [beginsWith, Option.isSome_iff_exists, after?_eq_some_iff]

/-- What is left before an ending is what the text has in front of it. -/
theorem beforeEnd?_eq_some_iff {tail t before : Text} :
    beforeEnd? tail t = some before ↔ t = before ++ tail := by
  rw [beforeEnd?, Option.map_eq_some_iff]
  constructor
  · rintro ⟨rest, h, rfl⟩
    simpa using congrArg List.reverse (after?_eq_some_iff.1 h)
  · rintro rfl
    exact ⟨before.reverse, by simp, by simp⟩

/-- `t` without its longest ending whose characters all satisfy `p`. -/
def dropEndWhile (p : Char → Bool) (t : Text) : Text :=
  (t.reverse.dropWhile p).reverse

/-! ### Cuts at an occurrence -/

/-- The text before and after the first occurrence of `needle`. -/
def cut? (needle : Text) : Text → Option (Text × Text)
  | [] => (after? needle []).map fun rest => ([], rest)
  | c :: t =>
    match after? needle (c :: t) with
    | some rest => some ([], rest)
    | none => (cut? needle t).map fun (before, rest) => (c :: before, rest)

/-- The text before and after the last occurrence of `needle`. -/
def cutLast? (needle : Text) : Text → Option (Text × Text)
  | [] => (after? needle []).map fun rest => ([], rest)
  | c :: t =>
    match cutLast? needle t with
    | some (before, rest) => some (c :: before, rest)
    | none => (after? needle (c :: t)).map fun rest => ([], rest)

/-- A cut takes nothing away but the needle. -/
theorem eq_of_cut? {needle t before rest : Text} (h : cut? needle t = some (before, rest)) :
    t = before ++ needle ++ rest := by
  induction t generalizing before with
  | nil =>
    simp only [cut?, Option.map_eq_some_iff, after?_eq_some_iff] at h
    obtain ⟨_, h, he⟩ := h
    simp_all
  | cons c t ih =>
    rw [cut?] at h
    split at h
    · rename_i found
      obtain ⟨rfl, rfl⟩ := Prod.mk.inj (Option.some.inj h)
      simpa using after?_eq_some_iff.1 found
    · obtain ⟨⟨before', rest'⟩, found, he⟩ := Option.map_eq_some_iff.1 h
      obtain ⟨rfl, rfl⟩ := Prod.mk.inj he
      simp [ih found]

/-- A cut at the last occurrence takes nothing away but the needle. -/
theorem eq_of_cutLast? {needle t before rest : Text}
    (h : cutLast? needle t = some (before, rest)) : t = before ++ needle ++ rest := by
  induction t generalizing before with
  | nil =>
    simp only [cutLast?, Option.map_eq_some_iff, after?_eq_some_iff] at h
    obtain ⟨_, h, he⟩ := h
    simp_all
  | cons c t ih =>
    rw [cutLast?] at h
    split at h
    · rename_i found
      obtain ⟨rfl, rfl⟩ := Prod.mk.inj (Option.some.inj h)
      simp [ih found]
    · obtain ⟨rest', found, he⟩ := Option.map_eq_some_iff.1 h
      obtain ⟨rfl, rfl⟩ := Prod.mk.inj he
      simpa using after?_eq_some_iff.1 found

/-- Whether `needle` occurs in `t`. -/
def includes (t needle : Text) : Bool :=
  (cut? needle t).isSome

/-! ### All occurrences -/

/-- Puts a character in front of the first piece of a list of pieces. -/
def consHead (c : Char) : List Text → List Text
  | [] => [[c]]
  | piece :: pieces => (c :: piece) :: pieces

theorem consHead_ne_nil (c : Char) (ps : List Text) : consHead c ps ≠ [] := by
  cases ps <;> simp [consHead]

@[simp] theorem flatten_consHead (c : Char) (ps : List Text) :
    (consHead c ps).flatten = c :: ps.flatten := by
  cases ps <;> simp [consHead]

theorem length_consHead (c : Char) {ps : List Text} (h : ps ≠ []) :
    (consHead c ps).length = ps.length := by
  cases ps with
  | nil => exact absurd rfl h
  | cons => rfl

/-- The pieces of the text between the characters that satisfy `p`, empty ones
included: there is one piece more than there are such characters. -/
def pieces (p : Char → Bool) : Text → List Text
  | [] => [[]]
  | c :: t => if p c then [] :: pieces p t else consHead c (pieces p t)

theorem pieces_ne_nil (p : Char → Bool) (t : Text) : pieces p t ≠ [] := by
  cases t with
  | nil => simp [pieces]
  | cons c t => rw [pieces]; split <;> simp [consHead_ne_nil]

/-- There is one piece more than there are characters between pieces. -/
theorem length_pieces (p : Char → Bool) (t : Text) :
    (pieces p t).length = t.countP p + 1 := by
  induction t with
  | nil => rfl
  | cons c t ih => by_cases h : p c <;> simp [pieces, h, ih, length_consHead, pieces_ne_nil]

/-- The segments between the occurrences of `needle`, of which `skip` more
characters still belong to an occurrence that has begun. -/
def segmentsFrom (needle : Text) : (skip : Nat) → Text → List Text
  | _, [] => [[]]
  | skip + 1, _ :: t => segmentsFrom needle skip t
  | 0, c :: t =>
    if beginsWith (c :: t) needle then [] :: segmentsFrom needle (needle.length - 1) t
    else consHead c (segmentsFrom needle 0 t)

/-- The segments of the text between the occurrences of `needle`, which are
found from left to right and do not overlap. -/
def segments (t needle : Text) : List Text :=
  segmentsFrom needle 0 t

/-- The segments joined with `glue` between each two neighbours. -/
def join (glue : Text) : List Text → Text
  | [] => []
  | [t] => t
  | t :: ts => t ++ glue ++ join glue ts

theorem join_cons (glue s : Text) {ts : List Text} (h : ts ≠ []) :
    join glue (s :: ts) = s ++ glue ++ join glue ts := by
  cases ts with
  | nil => exact absurd rfl h
  | cons => rfl

theorem join_consHead (glue : Text) (c : Char) {ps : List Text} (h : ps ≠ []) :
    join glue (consHead c ps) = c :: join glue ps := by
  match ps with
  | [_] => rfl
  | _ :: _ :: _ => simp [consHead, join]

theorem segmentsFrom_ne_nil (needle : Text) (skip : Nat) (t : Text) :
    segmentsFrom needle skip t ≠ [] := by
  fun_induction segmentsFrom needle skip t <;> simp_all [consHead_ne_nil]

/-- The segments joined by the needle are the text without what it begins with of an
occurrence. -/
theorem join_segmentsFrom {needle : Text} (h : needle ≠ []) (skip : Nat) (t : Text) :
    join needle (segmentsFrom needle skip t) = t.drop skip := by
  fun_induction segmentsFrom needle skip t with
  | case1 => simp [join]
  | case2 skip c t ih => simpa using ih
  | case3 c t begins ih =>
    obtain ⟨rest, hr⟩ := beginsWith_iff.1 begins
    obtain ⟨a, needle, rfl⟩ := List.exists_cons_of_ne_nil h
    simp_all [join_cons, segmentsFrom_ne_nil]
  | case4 c t _ ih => simpa [join_consHead, segmentsFrom_ne_nil] using ih

/-- The segments joined by the needle are the text. -/
theorem join_segments {needle : Text} (h : needle ≠ []) (t : Text) :
    join needle (segments t needle) = t := by
  simp [segments, join_segmentsFrom h]

/-- The text with `new` in place of the first occurrence of `needle`. -/
def replaceFirst (t needle new : Text) : Text :=
  match cut? needle t with
  | some (before, rest) => before ++ new ++ rest
  | none => t

/-- The text with `new` in place of every occurrence of `needle`. -/
def replaceAll (t needle new : Text) : Text :=
  join new (segments t needle)

/-! ### Order -/

/-- Whether the first text comes strictly before the second in the order of
code points, a text coming after its own beginnings. -/
def precedes : Text → Text → Bool
  | [], [] => false
  | [], _ :: _ => true
  | _ :: _, [] => false
  | a :: s, b :: t => if a = b then precedes s t else a.toNat < b.toNat

/-! ### Numbers -/

/-- A number in decimal digits. -/
def ofNat (n : Nat) : Text :=
  Nat.toDigits 10 n

end Text

end TweeStory
