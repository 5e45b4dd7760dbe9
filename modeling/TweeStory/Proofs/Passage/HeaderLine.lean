/-
The grammar of header lines.

* `HeaderParts`, `HeaderParts.IsOf`: the parts of a header line, and the ways to cut a line into
  them;
* `position?_eq_some_iff`: what may stand behind the name and the tags;
* `Closes`, `closes_of_tagged?`, `Closes.isSome_tagged?`: the tags end at the first bracket that
  such an end follows;
* `IsReadByParts`, `isReadByParts`: a line is a header line if it can be cut into parts, and the
  parts with the shortest tags give the header.
-/
import TweeStory.Proofs.Passage.Header
import TweeStory.Proofs.Text.Trim

namespace TweeStory

open Text

/-! ### The grammar -/

/-- A text between two marks, or nothing. -/
def enclosed (left right : Char) : Option Text → Text
  | none => []
  | some t => left :: (t ++ [right])

/-- The parts of a header line behind the mark: what stands before the tags, the text in square
brackets, white space, the text in angle brackets, and white space. -/
structure HeaderParts where
  lead : Text
  tags : Option Text
  gap : Text
  position : Option Text
  tail : Text

namespace HeaderParts

/-- The line with the parts. -/
def text (parts : HeaderParts) : Text :=
  "::".toList ++ (parts.lead ++ (enclosed '[' ']' parts.tags ++ (parts.gap ++
    (enclosed '<' '>' parts.position ++ parts.tail))))

/-- The header that the parts give. -/
def header (parts : HeaderParts) : Header where
  name := parts.lead.trim
  tags := distinct (parts.tags.getD []).words
  position := parts.position

/-- A text without the line feeds and carriage returns at its end is cut into the parts. -/
structure IsOf (parts : HeaderParts) (text : Text) : Prop where
  text_eq : text.chomp = parts.text
  /-- No bracket stands before the tags. -/
  lead : '[' ∉ parts.lead ∧ '<' ∉ parts.lead
  tags : ∀ tags ∈ parts.tags, '\n' ∉ tags
  gap : IsSpace parts.gap
  position : ∀ position ∈ parts.position, '\n' ∉ position
  tail : IsSpace parts.tail

/-- No way to cut the text has less in square brackets. -/
structure IsShortest (parts : HeaderParts) (text : Text) : Prop where
  isOf : parts.IsOf text
  le_length : ∀ other : HeaderParts, other.IsOf text →
    ∀ tags ∈ parts.tags, ∀ tags' ∈ other.tags, tags.length ≤ tags'.length

end HeaderParts

namespace Header

variable {t tags rest lead tail text : Text} {position : Option Text} {c : Char}

/-! ### Positions -/

/-- **The end of a header line** is white space around a position, or white space. -/
lemma position?_eq_some_iff : position? t = some position ↔
    ∃ gap tail, t = gap ++ (enclosed '<' '>' position ++ tail) ∧ IsSpace gap ∧ IsSpace tail ∧
      ∀ text ∈ position, '\n' ∉ text := by
  constructor
  · intro h
    obtain ⟨gap, tail, ht, hgap, htail⟩ := exists_trim_append t
    rw [position?] at h
    split at h
    · rename_i htrim
      obtain rfl := Option.some.inj h
      exact ⟨gap, tail, by rw [ht, htrim]; rfl, hgap, htail, by simp⟩
    · rename_i rest htrim
      cases hend : beforeEnd? ['>'] rest with
      | none => simp [hend] at h
      | some text =>
          simp only [hend, Option.ite_none_left_eq_some, List.contains_iff_mem,
            Option.some.injEq] at h
          obtain ⟨hline, rfl⟩ := h
          refine ⟨gap, tail, ?_, hgap, htail, by simpa using hline⟩
          rw [ht, htrim, beforeEnd?_eq_some_iff.mp hend]
          simp [enclosed]
    · cases h
  · rintro ⟨gap, tail, rfl, hgap, htail, hline⟩
    rw [position?, trim_append_of_blank hgap, trim_append_of_blank_end htail]
    cases position with
    | none => rfl
    | some text =>
        rw [enclosed, trim_cons_concat (by decide) (by decide)]
        have hend : beforeEnd? ['>'] (text ++ ['>']) = some text := beforeEnd?_eq_some_iff.mpr rfl
        simpa [hend] using hline

/-! ### Tags -/

/-- The text up to a closing bracket is on one line, and the end of a header line follows. -/
def Closes (t tags : Text) (position : Option Text) : Prop :=
  ∃ rest, t = tags ++ ']' :: rest ∧ '\n' ∉ tags ∧ position? rest = some position

lemma closes_nil_iff : Closes (c :: t) [] position ↔ c = ']' ∧ position? t = some position := by
  simp [Closes]

lemma closes_cons_iff {d : Char} :
    Closes (c :: t) (d :: tags) position ↔ c = d ∧ d ≠ '\n' ∧ Closes t tags position := by
  constructor
  · rintro ⟨rest, heq, hline, hrest⟩
    obtain ⟨rfl, rfl⟩ := List.cons.inj heq
    obtain ⟨hne, hline⟩ := List.ne_and_not_mem_of_not_mem_cons hline
    exact ⟨rfl, hne.symm, rest, rfl, hline, hrest⟩
  · rintro ⟨rfl, hne, rest, rfl, hline, hrest⟩
    exact ⟨rest, rfl, List.not_mem_cons_of_ne_of_not_mem hne.symm hline, hrest⟩

/-- The tags that are found end at a closing bracket with the end of a header line behind it, and
no earlier bracket has one. -/
lemma closes_of_tagged? (h : tagged? t = some (tags, position)) :
    Closes t tags position ∧
      ∀ tags' position', Closes t tags' position' → tags.length ≤ tags'.length := by
  induction t generalizing tags with
  | nil => cases h
  | cons c t ih =>
      rw [tagged?] at h
      split at h
      · cases h
      · rename_i hline
        split at h
        · rename_i found hfound
          obtain ⟨rfl, rfl⟩ := Prod.mk.inj (Option.some.inj h)
          exact ⟨closes_nil_iff.mpr (by simpa using hfound), fun _ _ _ => Nat.zero_le _⟩
        · rename_i hnone
          obtain ⟨⟨later, found⟩, hlater, heq⟩ := Option.map_eq_some_iff.mp h
          obtain ⟨rfl, rfl⟩ := Prod.mk.inj heq
          obtain ⟨hcloses, hleast⟩ := ih hlater
          refine ⟨closes_cons_iff.mpr ⟨rfl, hline, hcloses⟩, fun tags' position' h' => ?_⟩
          cases tags' with
          | nil =>
              obtain ⟨rfl, hposition⟩ := closes_nil_iff.mp h'
              simp [hposition] at hnone
          | cons d tags' =>
              exact Nat.succ_le_succ (hleast _ _ (closes_cons_iff.mp h').2.2)

/-- Tags are found if some bracket has the end of a header line behind it. -/
lemma Closes.isSome_tagged? (h : Closes t tags position) : (tagged? t).isSome := by
  induction t generalizing tags with
  | nil =>
      obtain ⟨rest, heq, -⟩ := h
      simp at heq
  | cons c t ih =>
      rw [tagged?]
      cases tags with
      | nil =>
          obtain ⟨rfl, hposition⟩ := closes_nil_iff.mp h
          simp [hposition]
      | cons d tags =>
          obtain ⟨rfl, hline, hlater⟩ := closes_cons_iff.mp h
          rw [if_neg hline]
          split
          · rfl
          · simpa using ih hlater

/-- Tags without a closing bracket end at the first one. -/
lemma Closes.length_le {tags' : Text} {position' : Option Text} (h : Closes t tags position)
    (htags : ']' ∉ tags) (h' : Closes t tags' position') : tags.length ≤ tags'.length := by
  obtain ⟨rest, rfl, -⟩ := h
  obtain ⟨rest', heq, -⟩ := h'
  rcases List.append_eq_append_iff.mp heq with ⟨u, rfl, -⟩ | ⟨u, rfl, hu⟩
  · simp
  · cases u with
    | nil => simp
    | cons c u =>
        obtain rfl : ']' = c := (List.cons.inj hu).1
        simp at htags

/-! ### Lines -/

/-- No character of a name ends it. -/
lemma endsName_of_mem (hlead : '[' ∉ lead ∧ '<' ∉ lead) : ∀ c ∈ lead, endsName c = false := by
  intro c hc
  have hsquare : c ≠ '[' := fun heq => hlead.1 (heq ▸ hc)
  have hangle : c ≠ '<' := fun heq => hlead.2 (heq ▸ hc)
  simp [endsName, hsquare, hangle]

/-- A name ends where an opening bracket begins, or with the line. -/
lemma takeWhile_lead (hlead : '[' ∉ lead ∧ '<' ∉ lead) (ht : t.head?.all endsName) :
    (lead ++ t).takeWhile (fun c => !endsName c) = lead ∧
      (lead ++ t).dropWhile (fun c => !endsName c) = t := by
  have hname : ∀ c ∈ lead, (!endsName c) = true := by simpa using endsName_of_mem hlead
  rw [List.takeWhile_append_of_pos hname, List.dropWhile_append_of_pos hname]
  cases t with
  | nil => simp
  | cons c t =>
      have hc : endsName c = true := by simpa using ht
      simp [hc]

/-- A line with an opening square bracket behind its name has tags. -/
lemma parse?_of_square (htext : text.chomp = mark ++ (lead ++ '[' :: t))
    (hlead : '[' ∉ lead ∧ '<' ∉ lead) :
    parse? text = (tagged? t).map fun found => ⟨lead.trim, distinct found.1.words, found.2⟩ := by
  obtain ⟨htake, hdrop⟩ := takeWhile_lead hlead (t := '[' :: t) rfl
  rw [parse?, htext, after?_append, Option.bind_eq_bind, Option.bind_some]
  simp only [htake, hdrop]
  cases tagged? t <;> rfl

/-- A line with an opening angle bracket behind its name, or no bracket, has no tags. -/
lemma parse?_of_not_square (htext : text.chomp = mark ++ (lead ++ t))
    (hlead : '[' ∉ lead ∧ '<' ∉ lead) (ht : t.head?.all (· == '<')) :
    parse? text = (position? t).map fun position => ⟨lead.trim, [], position⟩ := by
  rw [parse?, htext, after?_append, Option.bind_eq_bind, Option.bind_some]
  cases t with
  | nil =>
      obtain ⟨htake, hdrop⟩ := takeWhile_lead hlead (t := []) rfl
      simp only [htake, hdrop]
      rfl
  | cons c t =>
      obtain rfl : c = '<' := by simpa using ht
      obtain ⟨htake, hdrop⟩ := takeWhile_lead hlead (t := '<' :: t) rfl
      simp only [htake, hdrop]
      exact Option.map_eq_bind.symm

/-- Every text is a name and what its first bracket begins. -/
lemma exists_lead (t : Text) : ∃ lead rest, t = lead ++ rest ∧ ('[' ∉ lead ∧ '<' ∉ lead) ∧
    ((∃ tail, rest = '[' :: tail) ∨ rest.head?.all (· == '<')) := by
  refine ⟨t.takeWhile fun c => !endsName c, t.dropWhile fun c => !endsName c,
    List.takeWhile_append_dropWhile.symm, ?_, ?_⟩
  · have hname : ∀ c ∈ t.takeWhile fun c => !endsName c, (!endsName c) = true :=
      fun c hc => List.mem_takeWhile_imp (p := fun c => !endsName c) hc
    exact ⟨fun hmem => absurd (hname _ hmem) (by decide),
      fun hmem => absurd (hname _ hmem) (by decide)⟩
  · cases hrest : t.dropWhile fun c => !endsName c with
    | nil => exact .inr rfl
    | cons c rest =>
        have hc : endsName c = true := by
          have hhead := List.head?_dropWhile_not (fun c => !endsName c) t
          rw [hrest] at hhead
          simpa using hhead
        rw [endsName, Bool.or_eq_true, beq_iff_eq] at hc
        rcases hc with rfl | hc
        · exact .inl ⟨rest, rfl⟩
        · exact .inr hc

end Header

/-! ### Lines and their parts -/

/-- White space holds no bracket. -/
lemma Text.IsSpace.notMem_brackets {t : Text} (h : IsSpace t) : '[' ∉ t ∧ '<' ∉ t :=
  ⟨fun hmem => absurd (h _ hmem) (by decide), fun hmem => absurd (h _ hmem) (by decide)⟩

namespace HeaderParts

open Header

variable {text tags : Text} {parts other : HeaderParts} {header : Header}

/-- With tags, a line goes on with a square bracket behind the name. -/
lemma IsOf.exists_closes (h : parts.IsOf text) (htags : tags ∈ parts.tags) :
    ∃ t, text.chomp = mark ++ (parts.lead ++ '[' :: t) ∧ Closes t tags parts.position := by
  refine ⟨tags ++ ']' :: (parts.gap ++ (enclosed '<' '>' parts.position ++ parts.tail)), ?_,
    _, rfl, h.tags tags htags,
    position?_eq_some_iff.mpr ⟨parts.gap, parts.tail, rfl, h.gap, h.tail, h.position⟩⟩
  simp [h.text_eq, HeaderParts.text, mark, Option.mem_def.mp htags, enclosed]

/-- Without tags, a line goes on with an angle bracket behind the name and white space, or
ends. -/
lemma IsOf.exists_position (h : parts.IsOf text) (htags : parts.tags = none) :
    ∃ space t, text.chomp = mark ++ ((parts.lead ++ space) ++ t) ∧ IsSpace space ∧
      t.head?.all (· == '<') ∧ position? t = some parts.position := by
  cases hposition : parts.position with
  | none =>
      refine ⟨parts.gap ++ parts.tail, [], ?_, h.gap.append h.tail, rfl, rfl⟩
      simp [h.text_eq, HeaderParts.text, mark, htags, hposition, enclosed]
  | some position =>
      refine ⟨parts.gap, enclosed '<' '>' (some position) ++ parts.tail, ?_, h.gap, rfl,
        position?_eq_some_iff.mpr ⟨[], parts.tail, rfl, isSpace_nil, h.tail, ?_⟩⟩
      · simp [h.text_eq, HeaderParts.text, mark, htags, hposition, enclosed]
      · exact hposition ▸ h.position

lemma IsOf.notMem_lead_append (h : parts.IsOf text) {space : Text} (hspace : IsSpace space) :
    '[' ∉ parts.lead ++ space ∧ '<' ∉ parts.lead ++ space := by
  obtain ⟨hsquare, hangle⟩ := hspace.notMem_brackets
  simp [h.lead, hsquare, hangle]

/-- A line that is cut without tags gives the header of its parts. -/
lemma IsOf.parse?_of_tags_eq_none (h : parts.IsOf text) (htags : parts.tags = none) :
    parse? text = some parts.header := by
  obtain ⟨space, t, htext, hspace, ht, hposition⟩ := h.exists_position htags
  rw [parse?_of_not_square htext (h.notMem_lead_append hspace) ht, hposition, Option.map_some,
    trim_append_of_blank_end hspace, HeaderParts.header, htags]
  rfl

/-- A line that can be cut into parts is a header line. -/
lemma IsOf.isSome_parse? (h : parts.IsOf text) : (parse? text).isSome := by
  cases htags : parts.tags with
  | none => simp [h.parse?_of_tags_eq_none htags]
  | some tags =>
      obtain ⟨t, htext, hcloses⟩ := h.exists_closes htags
      simpa [parse?_of_square htext h.lead] using hcloses.isSome_tagged?

/-- **Where tags begin**: a line has tags if its first bracket is a square one. -/
lemma IsOf.tags_isSome_iff (h : parts.IsOf text) :
    parts.tags.isSome ↔ (text.chomp.drop mark.length).find? endsName = some '[' := by
  have hnone : ∀ {lead : Text}, '[' ∉ lead ∧ '<' ∉ lead → lead.find? endsName = none := by
    intro lead hlead
    simpa using endsName_of_mem hlead
  cases htags : parts.tags with
  | some tags =>
      obtain ⟨t, htext, -⟩ := h.exists_closes htags
      rw [htext, List.drop_left, List.find?_append, hnone h.lead]
      exact iff_of_true rfl rfl
  | none =>
      obtain ⟨space, t, htext, hspace, ht, -⟩ := h.exists_position htags
      rw [htext, List.drop_left, List.find?_append, hnone (h.notMem_lead_append hspace)]
      cases t with
      | nil => simp
      | cons c t =>
          obtain rfl : c = '<' := by simpa using ht
          simp [endsName]

/-- **Where a position ends**: its closing bracket is the last character of the line that is not
white space. -/
lemma IsOf.trimEnd_eq (h : parts.IsOf text) {position : Text}
    (hposition : position ∈ parts.position) :
    text.chomp.trimEnd = mark ++ (parts.lead ++ (enclosed '[' ']' parts.tags ++ (parts.gap ++
      '<' :: (position ++ ['>'])))) := by
  have htext : text.chomp = (mark ++ (parts.lead ++ (enclosed '[' ']' parts.tags ++ (parts.gap ++
      '<' :: position))) ++ ['>']) ++ parts.tail := by
    simp [h.text_eq, HeaderParts.text, mark, Option.mem_def.mp hposition, enclosed]
  rw [htext, trimEnd_append_of_blank h.tail]
  refine (List.rdropWhile_concat_neg isBlank _ '>' (by decide)).trans ?_
  simp

/-- Two ways to cut a line with tags agree on where the tags begin. -/
lemma IsOf.eq_of_square (h : parts.IsOf text) (hother : other.IsOf text) {t t' : Text}
    (htext : text.chomp = mark ++ (parts.lead ++ '[' :: t))
    (htext' : text.chomp = mark ++ (other.lead ++ '[' :: t')) :
    parts.lead = other.lead ∧ t = t' := by
  have heq := List.append_cancel_left (htext.symm.trans htext')
  obtain ⟨htake, hdrop⟩ := takeWhile_lead h.lead (t := '[' :: t) rfl
  obtain ⟨htake', hdrop'⟩ := takeWhile_lead hother.lead (t := '[' :: t') rfl
  rw [heq, htake'] at htake
  rw [heq, hdrop'] at hdrop
  exact ⟨htake.symm, (List.cons.inj hdrop).2.symm⟩

/-- The parts with the shortest tags are the only ones, but for white space. -/
lemma IsShortest.header_eq (h : parts.IsShortest text) (hother : other.IsShortest text) :
    parts.header = other.header := by
  have hiff := h.isOf.tags_isSome_iff.trans hother.isOf.tags_isSome_iff.symm
  cases htags : parts.tags with
  | none =>
      have htags' : other.tags = none := by
        rw [htags] at hiff
        simpa using hiff
      have hparse := h.isOf.parse?_of_tags_eq_none htags
      rw [hother.isOf.parse?_of_tags_eq_none htags'] at hparse
      exact (Option.some.inj hparse).symm
  | some tags =>
      obtain ⟨tags', htags'⟩ : ∃ tags', other.tags = some tags' := by
        rw [htags] at hiff
        exact Option.isSome_iff_exists.mp (hiff.mp rfl)
      obtain ⟨t, htext, hcloses⟩ := h.isOf.exists_closes htags
      obtain ⟨t', htext', hcloses'⟩ := hother.isOf.exists_closes htags'
      obtain ⟨hlead, rfl⟩ := h.isOf.eq_of_square hother.isOf htext htext'
      have hlength : tags.length = tags'.length :=
        le_antisymm (h.le_length _ hother.isOf _ htags _ htags')
          (hother.le_length _ h.isOf _ htags' _ htags)
      obtain ⟨rest, rfl, -, hposition⟩ := hcloses
      obtain ⟨rest', heq, -, hposition'⟩ := hcloses'
      obtain ⟨rfl, hrest⟩ := List.append_inj heq hlength
      rw [(List.cons.inj hrest).2, hposition'] at hposition
      rw [HeaderParts.header, HeaderParts.header, hlead, htags, htags',
        Option.some.inj hposition]

/-- A header line is cut into parts with the shortest tags. -/
lemma exists_isShortest (h : parse? text = some header) :
    ∃ parts : HeaderParts, parts.IsShortest text ∧ parts.header = header := by
  obtain ⟨rest, hafter, -⟩ := Option.bind_eq_some_iff.mp h
  have htext := after?_eq_some_iff.mp hafter
  obtain ⟨lead, rest, rfl, hlead, ⟨t, rfl⟩ | hrest⟩ := exists_lead rest
  · rw [parse?_of_square htext hlead] at h
    obtain ⟨⟨tags, position⟩, htagged, rfl⟩ := Option.map_eq_some_iff.mp h
    obtain ⟨⟨rest, rfl, hline, hrest⟩, hleast⟩ := closes_of_tagged? htagged
    obtain ⟨gap, tail, rfl, hgap, htail, hposition⟩ := position?_eq_some_iff.mp hrest
    have hparts : IsOf ⟨lead, some tags, gap, position, tail⟩ text :=
      { text_eq := by simp [htext, HeaderParts.text, mark, enclosed]
        lead := hlead
        tags := by simpa using hline
        gap := hgap
        position := hposition
        tail := htail }
    refine ⟨_, ⟨hparts, fun other hother tags₀ htags₀ tags' htags' => ?_⟩, rfl⟩
    obtain rfl := Option.some.inj htags₀
    obtain ⟨t', htext', hcloses'⟩ := hother.exists_closes htags'
    obtain ⟨-, rfl⟩ := hparts.eq_of_square hother htext htext'
    exact hleast _ _ hcloses'
  · rw [parse?_of_not_square htext hlead hrest] at h
    obtain ⟨position, hend, rfl⟩ := Option.map_eq_some_iff.mp h
    obtain ⟨gap, tail, rfl, hgap, htail, hposition⟩ := position?_eq_some_iff.mp hend
    have hparts : IsOf ⟨lead, none, gap, position, tail⟩ text :=
      { text_eq := by simp [htext, HeaderParts.text, mark, enclosed]
        lead := hlead
        tags := by simp
        gap := hgap
        position := hposition
        tail := htail }
    exact ⟨_, ⟨hparts, by simp⟩, rfl⟩

/-- The parts with the shortest tags give the header of their line. -/
lemma IsShortest.parse?_eq (h : parts.IsShortest text) : parse? text = some parts.header := by
  obtain ⟨header, hheader⟩ := Option.isSome_iff_exists.mp h.isOf.isSome_parse?
  obtain ⟨other, hother, rfl⟩ := exists_isShortest hheader
  rw [hheader, hother.header_eq h]

end HeaderParts

/-- How a text is read as a header line. -/
structure Text.IsReadByParts (text : Text) : Prop where
  /-- The text is a header line if it can be cut into parts. -/
  isSome_iff : (Header.parse? text).isSome ↔ ∃ parts : HeaderParts, parts.IsOf text
  /-- The header is that of the parts with the shortest tags. -/
  eq_some_iff : ∀ header, Header.parse? text = some header ↔
    ∃ parts : HeaderParts, parts.IsShortest text ∧ parts.header = header
  /-- There are tags if the first bracket is a square one. -/
  tags : ∀ parts : HeaderParts, parts.IsOf text →
    (parts.tags.isSome ↔
      (text.chomp.drop 2).find? (fun c => c == '[' || c == '<') = some '[')
  /-- A position ends with the last character that is not white space. -/
  position : ∀ parts : HeaderParts, parts.IsOf text → ∀ position ∈ parts.position,
    text.chomp.trimEnd = "::".toList ++ (parts.lead ++ (enclosed '[' ']' parts.tags ++
      (parts.gap ++ '<' :: (position ++ ['>']))))

/-- **A header line is read by its parts**, whatever the text is. -/
theorem Text.isReadByParts (text : Text) : IsReadByParts text where
  isSome_iff := by
    refine ⟨fun h => ?_, fun ⟨parts, hparts⟩ => hparts.isSome_parse?⟩
    obtain ⟨header, hheader⟩ := Option.isSome_iff_exists.mp h
    obtain ⟨parts, hparts, -⟩ := HeaderParts.exists_isShortest hheader
    exact ⟨parts, hparts.isOf⟩
  eq_some_iff header := by
    refine ⟨HeaderParts.exists_isShortest, ?_⟩
    rintro ⟨parts, hparts, rfl⟩
    exact hparts.parse?_eq
  tags _ hparts := hparts.tags_isSome_iff
  position _ hparts _ := hparts.trimEnd_eq

/-- The first closing bracket that leaves a header line ends the tags. -/
example : Header.parse? ":: Pier [a] [b] <1] <2>".toList =
    some ⟨"Pier".toList, ["a]".toList, "[b".toList], some "1] <2".toList⟩ := by
  decide

end TweeStory
