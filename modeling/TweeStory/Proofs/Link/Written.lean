/-
Links as they are written, and as they are read from a line.

* `LinkBody.Side`, `WrittenLink`: the text side of a link, in quotes or without, and the forms
  of a link, with what is written for them and what they stand for;
* `WrittenLink.IsValid`, `WrittenLink.parse_source`: the forms that are read back as what they
  stand for;
* `WrittenLine`: links on a line with other text around them;
* `Link.bodies_link`, `Link.bodies_append`: the links of a text, found from left to right;
* `Line.checkLinks_eq`: the links on a line are those that were written, without warnings.
-/
import TweeStory.Link.Check
import TweeStory.Proofs.Link.Shape

namespace TweeStory

open LinkBody

/-! ### Sides -/

namespace LinkBody

/-- The text side of a link as it is written. -/
inductive Side where
  | plain (text : Text)
  | quoted (quote : Char) (text : Text)
deriving DecidableEq, Repr

namespace Side

/-- The text of a side. -/
def text : Side → Text
  | plain text | quoted _ text => text

/-- What is written for a side: in quotes, that quote stands after a backslash in the text. -/
def source : Side → Text
  | plain text => text
  | quoted quote text => quote :: escape quote text ++ [quote]

/-- Only some texts can stand without quotes, and all but the empty one in quotes. -/
def IsValid : Side → Prop
  | plain text => isPlain text
  | quoted quote text => isQuote quote ∧ text ≠ []

instance : DecidablePred IsValid
  | plain text => inferInstanceAs (Decidable (isPlain text))
  | quoted quote text => inferInstanceAs (Decidable (isQuote quote ∧ text ≠ []))

/-- No backslash stands right before the closing quote. -/
def IsClosed : Side → Prop
  | plain _ => True
  | quoted _ text => text.getLast? ≠ some '\\'

instance : DecidablePred IsClosed
  | plain _ => inferInstanceAs (Decidable True)
  | quoted _ text => inferInstanceAs (Decidable (text.getLast? ≠ some '\\'))

/-- A side is read back from what is written for it. -/
lemma textSide?_source {side : Side} (h : side.IsValid) :
    textSide? side.source = some side.text := by
  cases side with
  | plain t =>
      obtain ⟨c, rest, rfl, hquote⟩ := exists_cons_of_isPlain h
      exact (if_neg hquote).trans (if_pos h)
  | quoted quote t => exact textSide?_quoted h.1 h.2

/-- No separator in a side has a side behind it. -/
lemma textSide?_of_mem_splits {side : Side} (h : side.IsValid) {split : Text × Text}
    (hsplit : split ∈ splits reverseMark side.source) : textSide? split.2 = none := by
  cases side with
  | plain t =>
      have heq : t = split.1 ++ (reverseMark ++ split.2) := eq_of_mem_splits hsplit
      have hmem : '<' ∈ t := by
        rw [heq]
        simp [reverseMark]
      exact absurd hmem (isPlain_iff.mp h).2.1
  | quoted quote t => exact LinkBody.textSide?_of_mem_splits h.1 hsplit

end Side

end LinkBody

/-! ### Links -/

/-- A link as it is written. -/
inductive WrittenLink where
  | bare (dest : Text)
  | forward (side : Side) (sep : Separator) (dest : Text)
  | backward (dest : Text) (side : Side)
deriving DecidableEq, Repr

namespace WrittenLink

/-- What is written between the brackets. -/
def source : WrittenLink → Text
  | bare dest => dest
  | forward side sep dest => side.source ++ (sep.mark ++ dest)
  | backward dest side => dest ++ ("<-".toList ++ side.source)

/-- The shape, the text and the destination that the link stands for. -/
def body : WrittenLink → LinkBody
  | bare dest => ⟨.bare, dest, dest⟩
  | forward side sep dest => ⟨sep.style, side.text, dest⟩
  | backward dest side => ⟨.reverseArrow, side.text, dest⟩

/-- No other form can be taken for the link.  A bare link holds no separator, a forward one leads
somewhere from a text that closes its quotes, and the destination of a reverse one neither opens
a quote nor holds a separator of a forward link. -/
def IsValid : WrittenLink → Prop
  | bare dest => IsUndivided dest ∧ ¬"<-".toList <:+: dest
  | forward side _ dest => side.IsValid ∧ side.IsClosed ∧ dest ≠ []
  | backward dest side =>
    side.IsValid ∧ dest ≠ [] ∧ dest.head?.any isQuote = false ∧ IsUndivided dest

instance : DecidablePred IsValid
  | bare dest => inferInstanceAs (Decidable (IsUndivided dest ∧ ¬"<-".toList <:+: dest))
  | forward side _ dest =>
    inferInstanceAs (Decidable (side.IsValid ∧ side.IsClosed ∧ dest ≠ []))
  | backward dest side =>
    inferInstanceAs (Decidable (side.IsValid ∧ dest ≠ [] ∧ dest.head?.any isQuote = false ∧
      IsUndivided dest))

/-- No written link stands for a malformed one. -/
lemma isMalformed_body (link : WrittenLink) : link.body.style.isMalformed = false := by
  rcases link with _ | ⟨_, _ | _, _⟩ | _ <;> rfl

/-- A forward link is read back before any other shape is tried. -/
lemma forward?_source {side : Side} (h : side.IsValid) (hclosed : side.IsClosed) (sep : Separator)
    {dest : Text} (hdest : dest ≠ []) :
    forward? (side.source ++ (sep.mark ++ dest)) = some ⟨sep.style, side.text, dest⟩ := by
  cases side with
  | plain t => exact forward?_plain h sep hdest
  | quoted quote t => exact forward?_quoted h.1 h.2 hclosed sep hdest

/-- **Written links are read back** as what they stand for. -/
theorem parse_source {link : WrittenLink} (h : link.IsValid) : parse link.source = link.body := by
  cases link with
  | bare dest =>
      obtain ⟨hundivided, hreverse⟩ := h
      have hsplits : splits reverseMark dest = [] := splits_eq_nil hreverse
      have hbackward : backward? dest = none := by rw [backward?, hsplits]; rfl
      have harrow : splits arrowMark dest = [] := splits_eq_nil (hundivided .arrow)
      have hpipe : splits pipeMark dest = [] := splits_eq_nil (hundivided .pipe)
      rw [source, parse, forward?_of_isUndivided hundivided, hbackward, Option.getD_none, fallback,
        harrow, hsplits, hpipe]
      rfl
  | forward side sep dest =>
      obtain ⟨hside, hclosed, hdest⟩ := h
      rw [source, parse, forward?_source hside hclosed sep hdest]
      rfl
  | backward dest side =>
      obtain ⟨hside, hdest, hhead, hundivided⟩ := h
      have hforward : forward? (dest ++ ("<-".toList ++ side.source)) = none :=
        forward?_reverseMark hundivided hdest hhead side.source
      have hbackward : backward? (dest ++ ("<-".toList ++ side.source)) =
          some ⟨.reverseArrow, side.text, dest⟩ :=
        backward?_append hdest (Side.textSide?_source hside) fun _ =>
          Side.textSide?_of_mem_splits hside
      rw [source, parse, hforward, hbackward]
      rfl

end WrittenLink

/-! ### Lines -/

namespace Link

variable {s t body : Text}

lemma bodiesFrom_length_append (s t : Text) : bodiesFrom s.length (s ++ t) = bodies t := by
  induction s with
  | nil => rfl
  | cons c s ih => exact ih

/-- No link begins in a text without an opening bracket. -/
lemma bodies_append (h : '[' ∉ s) (t : Text) : bodies (s ++ t) = bodies t := by
  induction s with
  | nil => rfl
  | cons c s ih =>
      have hne : c ≠ '[' := fun hc => h (hc ▸ List.mem_cons_self)
      have hnone : bodyAt? (c :: (s ++ t)) = none := by
        unfold bodyAt?
        split
        · rename_i heq
          exact absurd (List.cons.inj heq).1 hne
        · rfl
      rw [bodies, List.cons_append, bodiesFrom, hnone]
      exact ih fun hmem => h (List.mem_cons_of_mem _ hmem)

/-- The first closing bracket ends a link. -/
lemma bodyAt?_link (h : ']' ∉ body) (t : Text) :
    bodyAt? ('[' :: '[' :: (body ++ ']' :: ']' :: t)) = some body := by
  have hbody : ∀ c ∈ body, decide (c ≠ ']') = true := fun c hc =>
    decide_eq_true fun heq => h (heq ▸ hc)
  rw [bodyAt?, List.dropWhile_append_of_pos hbody, List.takeWhile_append_of_pos hbody]
  simp

/-- A link is found, and the next ones are looked for behind it. -/
lemma bodies_link (h : ']' ∉ body) (t : Text) :
    bodies ("[[".toList ++ body ++ "]]".toList ++ t) = body :: bodies t := by
  have heq : "[[".toList ++ body ++ "]]".toList ++ t =
      '[' :: '[' :: (body ++ ']' :: ']' :: t) := by simp
  have hlater : '[' :: (body ++ ']' :: ']' :: t) = ('[' :: body ++ [']', ']']) ++ t := by simp
  have hlength : body.length + 3 = ('[' :: body ++ [']', ']']).length := by simp
  rw [heq, bodies, bodiesFrom, bodyAt?_link h]
  simp only [hlater, hlength, bodiesFrom_length_append]

end Link

/-- A line as it is written: links, each with the text behind it, and the text before them. -/
structure WrittenLine where
  lead : Text
  links : List (WrittenLink × Text)

namespace WrittenLine

/-- The text of the line. -/
def text (written : WrittenLine) : Text :=
  written.lead ++ written.links.flatMap fun (link, after) =>
    "[[".toList ++ link.source ++ "]]".toList ++ after

/-- No bracket outside the links begins one, and none in them ends one. -/
structure IsValid (written : WrittenLine) : Prop where
  lead : '[' ∉ written.lead
  links : ∀ piece ∈ written.links,
    piece.1.IsValid ∧ ']' ∉ piece.1.source ∧ '[' ∉ piece.2

instance : DecidablePred IsValid := fun written =>
  decidable_of_iff ('[' ∉ written.lead ∧ ∀ piece ∈ written.links,
      piece.1.IsValid ∧ ']' ∉ piece.1.source ∧ '[' ∉ piece.2)
    ⟨fun ⟨lead, links⟩ => ⟨lead, links⟩, fun h => ⟨h.lead, h.links⟩⟩

/-- The links that are found are those that were written. -/
lemma IsValid.bodies_text {written : WrittenLine} (h : written.IsValid) :
    Link.bodies written.text = written.links.map fun piece => piece.1.source := by
  rw [text, Link.bodies_append h.lead]
  have hlinks := h.links
  generalize written.links = links at hlinks ⊢
  induction links with
  | nil => rfl
  | cons piece links ih =>
      obtain ⟨⟨-, hbody, hafter⟩, hrest⟩ := List.forall_mem_cons.mp hlinks
      rw [List.flatMap_cons, List.append_assoc, Link.bodies_link hbody, Link.bodies_append hafter,
        List.map_cons]
      exact congrArg (_ :: ·) (ih hrest)

end WrittenLine

/-- **Links are read from a line as they were written on it**: all of them in order, each with
the origin of the line, and without warnings. -/
theorem Line.checkLinks_eq {line : Line} {written : WrittenLine} (h : written.IsValid)
    (htext : line.text = written.text) :
    line.checkLinks =
      (written.links.map fun piece => ⟨piece.1.body, line.origin⟩, []) := by
  have hlinks : Link.ofLine line =
      written.links.map fun piece => ⟨piece.1.body, line.origin⟩ := by
    rw [Link.ofLine, htext, h.bodies_text, List.map_map]
    refine List.map_congr_left fun piece hpiece => ?_
    rw [Function.comp_apply, WrittenLink.parse_source (h.links piece hpiece).1]
  have hwarnings : (Link.ofLine line).flatMap Link.warnings = [] := by
    rw [hlinks, List.flatMap_map]
    refine List.flatMap_eq_nil_iff.mpr fun piece _ => ?_
    rw [Link.warnings, LinkBody.faults, WrittenLink.isMalformed_body]
    rfl
  rw [checkLinks, hwarnings, hlinks]

/-- A line with a link of each form. -/
def WrittenLine.harbour : WrittenLine where
  lead := "Go ".toList
  links :=
    [(.bare "Harbour [east".toList, " or ".toList),
      (.forward (.plain "the pier-".toList) .arrow "Pier|<-end".toList, []),
      (.forward (.quoted '"' "say \"a -> b\"".toList) .pipe "Inn\\".toList, "]\n".toList),
      (.backward "Old<-Mill".toList (.quoted '\'' "it's <-'here' \\".toList), ", ".toList),
      (.backward "Hill".toList (.plain "up".toList), "\n".toList)]

theorem Line.checkLinks_harbour :
    let line : Line := ⟨⟨0, 1⟩, WrittenLine.harbour.text, []⟩
    WrittenLine.harbour.IsValid ∧ line.text = WrittenLine.harbour.text ∧
      line.checkLinks =
        (WrittenLine.harbour.links.map fun piece => ⟨piece.1.body, line.origin⟩, []) := by
  intro line
  have hvalid : WrittenLine.harbour.IsValid := by decide
  exact ⟨hvalid, rfl, Line.checkLinks_eq hvalid rfl⟩

end TweeStory
