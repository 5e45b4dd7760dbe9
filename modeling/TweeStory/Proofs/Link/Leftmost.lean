/-
The links of a text, found from left to right.

* `Link.source`, `Link.Begins`: a link as it stands in a text, and the texts that begin with one;
* `Link.Divides`: a text that is divided at its leftmost links;
* `Link.bodyAt?_eq_some_iff`, `Link.exists_divides`, `Link.Divides.map_eq`: every text is divided
  at links with the bodies that are found in it, and at no others;
* `Link.round?`, `Link.Scans`: the same search by bytes, in rounds that take slices of the text;
* `Link.scans_bodies`: no slice begins or ends inside a character, and the rounds come to an end;
* `Link.AreLeftmost`, `Link.areLeftmost_iff`: what the bodies that are found are, and that no others
  are that.
-/
import TweeStory.Proofs.Link.Written
import TweeStory.Proofs.Source.Span
import TweeStory.Proofs.Text.Search

namespace TweeStory.Link

open Text

variable {s t u gap body : Text} {bodies bodies' : List Text} {pos : Nat}

/-! ### Links at the beginning of a text -/

/-- A link as it stands in a text. -/
def source (body : Text) : Text :=
  "[[".toList ++ body ++ "]]".toList

/-- The text begins with a link. -/
def Begins (t : Text) : Prop :=
  ∃ body rest, ']' ∉ body ∧ t = source body ++ rest

lemma source_append (body t : Text) :
    source body ++ t = '[' :: '[' :: (body ++ ']' :: ']' :: t) := by
  simp [source]

/-- The first closing bracket decides whether there is a link. -/
lemma bodyAt?_append (h : ']' ∉ body) (t : Text) :
    bodyAt? ('[' :: '[' :: (body ++ ']' :: t)) =
      if t.beginsWith [']'] then some body else none := by
  have hbody : ∀ c ∈ body, decide (c ≠ ']') = true := fun c hc =>
    decide_eq_true fun heq => h (heq ▸ hc)
  rw [bodyAt?, List.dropWhile_append_of_pos hbody, List.takeWhile_append_of_pos hbody]
  cases t with
  | nil => rfl
  | cons c t =>
      by_cases hc : c = ']'
      · subst hc
        simp [beginsWith, after?]
      · simp [beginsWith, after?, hc, Ne.symm hc]

lemma bodyAt?_of_notMem (h : ']' ∉ t) : bodyAt? ('[' :: '[' :: t) = none := by
  have hdrop : t.dropWhile (fun c => decide (c ≠ ']')) = [] :=
    List.dropWhile_eq_nil_iff.mpr fun c hc => decide_eq_true fun heq => h (heq ▸ hc)
  rw [bodyAt?, hdrop]

lemma beginsWith_of_bodyAt? (h : bodyAt? t = some body) : ∃ rest, t = '[' :: '[' :: rest := by
  unfold bodyAt? at h
  split at h
  · exact ⟨_, rfl⟩
  · cases h

/-- **The body at the start of a text** is that of the link that begins it. -/
lemma bodyAt?_eq_some_iff :
    bodyAt? t = some body ↔ ']' ∉ body ∧ ∃ rest, t = source body ++ rest := by
  constructor
  · intro h
    obtain ⟨rest, rfl⟩ := beginsWith_of_bodyAt? h
    by_cases hmem : ']' ∈ rest
    · obtain ⟨inner, later, rfl, hinner⟩ := List.eq_append_cons_of_mem hmem
      rw [bodyAt?_append hinner] at h
      split at h
      · rename_i hclosed
        obtain rfl := Option.some.inj h
        obtain ⟨rest, rfl⟩ := beginsWith_iff.mp hclosed
        exact ⟨hinner, rest, by rw [source_append]; rfl⟩
      · cases h
    · rw [bodyAt?_of_notMem hmem] at h
      cases h
  · rintro ⟨h, rest, rfl⟩
    rw [source_append]
    exact bodyAt?_link h rest

lemma begins_iff : Begins t ↔ ∃ body, bodyAt? t = some body := by
  constructor
  · rintro ⟨body, rest, h, ht⟩
    exact ⟨body, bodyAt?_eq_some_iff.mpr ⟨h, rest, ht⟩⟩
  · rintro ⟨body, h⟩
    obtain ⟨hclosed, rest, ht⟩ := bodyAt?_eq_some_iff.mp h
    exact ⟨body, rest, hclosed, ht⟩

lemma not_begins_nil : ¬Begins [] := by
  rw [begins_iff]
  rintro ⟨body, h⟩
  cases h

/-- Where no link begins, the search goes on behind the next character. -/
lemma bodies_cons {c : Char} (h : ¬Begins (c :: t)) : Link.bodies (c :: t) = Link.bodies t := by
  have hnone : bodyAt? (c :: t) = none := by
    rw [Option.eq_none_iff_forall_ne_some]
    exact fun body hbody => h (begins_iff.mpr ⟨body, hbody⟩)
  rw [Link.bodies, bodiesFrom, hnone]
  rfl

/-! ### Leftmost links -/

/-- No link begins in the text. -/
def Lacks (t : Text) : Prop :=
  ∀ before behind, t = before ++ behind → ¬Begins behind

/-- In the text with `gap` in front, no link begins before the end of `gap`. -/
def IsGap (gap t : Text) : Prop :=
  ∀ before behind, gap ++ t = before ++ behind → Begins behind → gap.length ≤ before.length

/-- The text is divided at links: each is given by the text in front of it and by its body, and
the text behind the last one is given apart.  From the end of a link, or from the start of the
text, the next link is the first one that begins, and none begins behind the last one. -/
inductive Divides : (t : Text) → (links : List (Text × Text)) → (last : Text) → Prop
  | last {t : Text} (lacks : Lacks t) : Divides t [] t
  | link {gap body t : Text} {links : List (Text × Text)} {last : Text} (closed : ']' ∉ body)
      (first : IsGap gap (source body ++ t)) (rest : Divides t links last) :
      Divides (gap ++ source body ++ t) ((gap, body) :: links) last

lemma lacks_nil : Lacks [] := by
  intro before behind h
  obtain ⟨-, rfl⟩ := List.append_eq_nil_iff.mp h.symm
  exact not_begins_nil

lemma isGap_nil (t : Text) : IsGap [] t :=
  fun before _ _ _ => Nat.zero_le before.length

lemma Lacks.cons {c : Char} (h : Lacks t) (hc : ¬Begins (c :: t)) : Lacks (c :: t) := by
  intro before behind heq
  cases before with
  | nil =>
      obtain rfl : c :: t = behind := heq
      exact hc
  | cons d before => exact h before behind (List.cons.inj heq).2

lemma IsGap.cons {c : Char} (h : IsGap gap t) (hc : ¬Begins (c :: (gap ++ t))) :
    IsGap (c :: gap) t := by
  intro before behind heq hbegins
  cases before with
  | nil =>
      rw [List.cons_append, List.nil_append] at heq
      exact absurd (heq ▸ hbegins) hc
  | cons d before =>
      have hle := h before behind (List.cons.inj heq).2 hbegins
      simpa using hle

/-- A character at which no link begins goes to the text in front of the first link. -/
lemma Divides.cons {c : Char} {links : List (Text × Text)} {last : Text}
    (h : Divides t links last) (hc : ¬Begins (c :: t)) :
    ∃ links' last', Divides (c :: t) links' last' ∧ links'.map Prod.snd = links.map Prod.snd := by
  cases h with
  | last lacks => exact ⟨[], c :: t, .last (lacks.cons hc), rfl⟩
  | @link gap body t links last closed first rest =>
      rw [List.append_assoc] at hc
      exact ⟨(c :: gap, body) :: links, last, .link closed (first.cons hc) rest, rfl⟩

/-- **Every text is divided** at links with the bodies that are found in it. -/
lemma exists_divides (t : Text) :
    ∃ links last, Divides t links last ∧ links.map Prod.snd = Link.bodies t := by
  induction hn : t.length using Nat.strong_induction_on generalizing t with
  | _ n ih =>
      by_cases hbegins : Begins t
      · obtain ⟨body, rest, hclosed, rfl⟩ := hbegins
        have hlt : rest.length < n := by
          rw [← hn, source_append]
          simp
          omega
        obtain ⟨links, last, hdivides, hlinks⟩ := ih _ hlt rest rfl
        refine ⟨([], body) :: links, last, .link hclosed (isGap_nil _) hdivides, ?_⟩
        rw [source, bodies_link hclosed, List.map_cons, hlinks]
      · cases t with
        | nil => exact ⟨[], [], .last lacks_nil, rfl⟩
        | cons c t =>
            obtain ⟨links, last, hdivides, hlinks⟩ := ih t.length (by simp [← hn]) t rfl
            obtain ⟨links', last', hdivides', hlinks'⟩ := hdivides.cons hbegins
            exact ⟨links', last', hdivides', by rw [hlinks', hlinks, bodies_cons hbegins]⟩

lemma Lacks.bodies_eq (h : Lacks t) : Link.bodies t = [] := by
  induction t with
  | nil => rfl
  | cons c t ih =>
      rw [bodies_cons (h [] (c :: t) rfl)]
      exact ih fun before behind heq => h (c :: before) behind (congrArg (c :: ·) heq)

lemma IsGap.bodies_append (h : IsGap gap t) : Link.bodies (gap ++ t) = Link.bodies t := by
  induction gap with
  | nil => rfl
  | cons c gap ih =>
      have hc : ¬Begins (c :: (gap ++ t)) := fun hbegins =>
        absurd (h [] _ rfl hbegins) (Nat.not_succ_le_zero _)
      rw [List.cons_append, bodies_cons hc]
      refine ih fun before behind heq hbegins => ?_
      have hle := h (c :: before) behind (congrArg (c :: ·) heq) hbegins
      simpa using hle

namespace Divides

variable {links : List (Text × Text)} {last : Text}

/-- The text in front of the links, the links and the text behind them are the whole text. -/
lemma eq_append (h : Divides t links last) :
    t = (links.flatMap fun (gap, body) => gap ++ source body) ++ last := by
  induction h with
  | last => rfl
  | @link gap body t links last _ _ _ ih =>
      rw [List.flatMap_cons, List.append_assoc (gap ++ source body), ← ih]

/-- No body of a link holds a closing bracket. -/
lemma closed (h : Divides t links last) : ∀ body ∈ links.map Prod.snd, ']' ∉ body := by
  induction h with
  | last => exact List.forall_mem_nil _
  | link closed _ _ ih => exact List.forall_mem_cons.mpr ⟨closed, ih⟩

/-- **A text is divided in one way**: at links with the bodies that are found in it. -/
lemma map_eq (h : Divides t links last) : links.map Prod.snd = Link.bodies t := by
  induction h with
  | last lacks => exact lacks.bodies_eq.symm
  | @link gap body t links last closed first rest ih =>
      rw [List.map_cons, ih, List.append_assoc, first.bodies_append, source, bodies_link closed]

end Divides

/-! ### The search by bytes -/

/-- What a round of the search comes to: nothing more to find, or opening brackets that begin no
link, or a link.  The next round begins behind the first of the brackets, or behind the link. -/
inductive Round where
  | done
  | miss (next : Nat)
  | hit (body : Text) (next : Nat)

/-- A round of the search in the text from an offset on.  There is none if a slice that it takes
begins or ends inside a character. -/
def round? (t : Text) (pos : Nat) : Option Round := do
  let ahead ← t.dropBytes? pos
  match cut? "[[".toList ahead with
  | none => return .done
  | some (gap, _) =>
    let start := pos + gap.utf8Length + 2
    let inside ← t.dropBytes? start
    match cut? "]".toList inside with
    | none => return .miss (pos + gap.utf8Length + 1)
    | some (body, _) =>
      let stop := start + body.utf8Length
      let closing ← t.dropBytes? stop
      if closing.beginsWith "]]".toList then
        let body ← t.slice? ⟨start, stop⟩
        return .hit body (stop + 2)
      else return .miss (pos + gap.utf8Length + 1)

/-- Rounds from an offset on that come to an end find links with the given bodies. -/
inductive Scans (t : Text) : (pos : Nat) → (bodies : List Text) → Prop
  | done {pos : Nat} (round : round? t pos = some .done) : Scans t pos []
  | miss {pos next : Nat} {bodies : List Text} (round : round? t pos = some (.miss next))
      (rest : Scans t next bodies) : Scans t pos bodies
  | hit {pos next : Nat} {body : Text} {bodies : List Text}
      (round : round? t pos = some (.hit body next)) (rest : Scans t next bodies) :
      Scans t pos (body :: bodies)

/-- Where the opening brackets are not found, no link begins. -/
lemma bodies_eq_of_cut? : Link.bodies t =
    match cut? "[[".toList t with
    | none => []
    | some (_, rest) => Link.bodies ('[' :: '[' :: rest) := by
  induction t with
  | nil => rfl
  | cons c t ih =>
      rw [cut?]
      cases hafter : after? "[[".toList (c :: t) with
      | some rest =>
          rw [after?_eq_some_iff.mp hafter]
          rfl
      | none =>
          have hc : ¬Begins (c :: t) := by
            rintro ⟨body, rest, -, heq⟩
            rw [heq, source, List.append_assoc, List.append_assoc, after?_append] at hafter
            cases hafter
          rw [bodies_cons hc, ih]
          cases cut? "[[".toList t <;> rfl

lemma round?_of_cut?_eq_none (s : Text) (h : cut? "[[".toList t = none) :
    round? (s ++ t) s.utf8Length = some .done := by
  simp only [round?, dropBytes?_append, Option.bind_eq_bind, Option.bind_some, h]
  rfl

lemma dropBytes?_of_eq (h : t = s ++ u) (hpos : s.utf8Length = pos) :
    t.dropBytes? pos = some u := by
  rw [h, ← hpos, dropBytes?_append]

/-- **A round that finds opening brackets** takes no slice inside a character. -/
lemma round?_of_cut? (s : Text) (h : cut? "[[".toList t = some (gap, u)) :
    round? (s ++ t) s.utf8Length = some
      (match bodyAt? ('[' :: '[' :: u) with
      | none => .miss (s.utf8Length + gap.utf8Length + 1)
      | some body => .hit body (s.utf8Length + gap.utf8Length + 2 + body.utf8Length + 2)) := by
  have ht : t = gap ++ "[[".toList ++ u := eq_of_cut? h
  have hopen : (s ++ gap ++ "[[".toList).utf8Length = s.utf8Length + gap.utf8Length + 2 := by
    rw [utf8Length_append, utf8Length_append]
    rfl
  have hinside : (s ++ t).dropBytes? (s.utf8Length + gap.utf8Length + 2) = some u :=
    dropBytes?_of_eq (by simp [ht]) hopen
  simp only [round?, dropBytes?_append, Option.bind_eq_bind, Option.bind_some, h, hinside]
  by_cases hmem : ']' ∈ u
  · obtain ⟨(body : Text), (rest : Text), rfl, hbody⟩ := List.eq_append_cons_of_mem hmem
    have hcut : cut? "]".toList (body ++ ']' :: rest) = some (body, rest) :=
      cut?_append_of_notMem hbody [] rest
    have hsplit : s ++ t = s ++ gap ++ "[[".toList ++ body ++ ']' :: rest := by simp [ht]
    have hclosing : (s ++ t).dropBytes? (s.utf8Length + gap.utf8Length + 2 + body.utf8Length) =
        some (']' :: rest) :=
      dropBytes?_of_eq hsplit (by rw [utf8Length_append, hopen])
    have hslice : (s ++ t).slice? ⟨s.utf8Length + gap.utf8Length + 2,
        s.utf8Length + gap.utf8Length + 2 + body.utf8Length⟩ = some body := by
      rw [← hopen, hsplit]
      exact slice?_append _ body _
    have hbegins : beginsWith (']' :: rest) "]]".toList = beginsWith rest [']'] := rfl
    simp only [hcut, hclosing, hslice, Option.bind_some, bodyAt?_append hbody, hbegins]
    cases beginsWith rest [']'] <;> rfl
  · have hcut : cut? "]".toList u = none :=
      includes_eq_false_iff.mp (includes_of_notMem List.mem_cons_self hmem)
    simp only [hcut, bodyAt?_of_notMem hmem]
    rfl

lemma eq_of_cut?_mark (h : cut? "[[".toList t = some (gap, u)) : t = gap ++ '[' :: '[' :: u := by
  simpa using eq_of_cut? h

/-- A round that finds brackets at which no link begins passes over the first of them. -/
lemma scans_miss (s : Text) (hcut : cut? "[[".toList t = some (gap, u))
    (hbody : bodyAt? ('[' :: '[' :: u) = none)
    (hrest : Scans (s ++ t) (s ++ gap ++ ['[']).utf8Length (Link.bodies ('[' :: u))) :
    Scans (s ++ t) s.utf8Length (Link.bodies t) := by
  have hnot : ¬Begins ('[' :: '[' :: u) := by
    rw [begins_iff, hbody]
    rintro ⟨body, hsome⟩
    cases hsome
  have hnext : (s ++ gap ++ ['[']).utf8Length = s.utf8Length + gap.utf8Length + 1 := by
    rw [utf8Length_append, utf8Length_append]
    rfl
  have hround := round?_of_cut? s hcut
  rw [hbody] at hround
  rw [hnext, ← bodies_cons hnot] at hrest
  rw [bodies_eq_of_cut?, hcut]
  exact .miss hround hrest

/-- A round that finds a link passes over it. -/
lemma scans_hit (s : Text) {rest : Text} (hcut : cut? "[[".toList t = some (gap, u))
    (hclosed : ']' ∉ body) (hlink : '[' :: '[' :: u = source body ++ rest)
    (hrest : Scans (s ++ t) (s ++ gap ++ source body).utf8Length (Link.bodies rest)) :
    Scans (s ++ t) s.utf8Length (Link.bodies t) := by
  have hsource : (source body).utf8Length = 2 + body.utf8Length + 2 := by
    rw [source, utf8Length_append, utf8Length_append]
    rfl
  have hnext : (s ++ gap ++ source body).utf8Length =
      s.utf8Length + gap.utf8Length + 2 + body.utf8Length + 2 := by
    calc (s ++ gap ++ source body).utf8Length
        = s.utf8Length + gap.utf8Length + (2 + body.utf8Length + 2) := by
          rw [utf8Length_append, utf8Length_append, hsource]
      _ = s.utf8Length + gap.utf8Length + 2 + body.utf8Length + 2 := by omega
  have hround := round?_of_cut? s hcut
  rw [bodyAt?_eq_some_iff.mpr ⟨hclosed, rest, hlink⟩] at hround
  rw [hnext] at hrest
  rw [bodies_eq_of_cut?, hcut]
  simp only [hlink, source, bodies_link hclosed]
  exact .hit hround hrest

/-- **The rounds come to an end** and find the bodies of the links. -/
lemma scans_bodies (s t : Text) : Scans (s ++ t) s.utf8Length (Link.bodies t) := by
  -- the text behind the offset of the next round is shorter, also where no link is found
  induction hn : t.length using Nat.strong_induction_on generalizing s t with
  | _ n ih =>
      cases hcut : cut? "[[".toList t with
      | none =>
          rw [bodies_eq_of_cut?, hcut]
          exact .done (round?_of_cut?_eq_none s hcut)
      | some cut =>
          obtain ⟨gap, u⟩ := cut
          have ht := eq_of_cut?_mark hcut
          have hlength : t.length = gap.length + u.length + 2 := by
            rw [ht, List.length_append, List.length_cons, List.length_cons]
            omega
          cases hbody : bodyAt? ('[' :: '[' :: u) with
          | none =>
              have hlt : ('[' :: u).length < n := by
                rw [List.length_cons]
                omega
              have hsplit : s ++ gap ++ ['['] ++ '[' :: u = s ++ t := by simp [ht]
              have hrest := ih _ hlt (s ++ gap ++ ['[']) ('[' :: u) rfl
              exact scans_miss s hcut hbody (hsplit ▸ hrest)
          | some body =>
              obtain ⟨hclosed, rest, hlink⟩ := bodyAt?_eq_some_iff.mp hbody
              have hlt : rest.length < n := by
                have hlinkLength := congrArg List.length hlink
                rw [source_append] at hlinkLength
                simp only [List.length_cons, List.length_append] at hlinkLength
                omega
              have hsplit : s ++ gap ++ source body ++ rest = s ++ t := by
                rw [ht, hlink, List.append_assoc, List.append_assoc]
              have hrest := ih _ hlt (s ++ gap ++ source body) rest rfl
              exact scans_hit s hcut hclosed hlink (hsplit ▸ hrest)

/-- Rounds from one offset on find the same links. -/
lemma Scans.unique (h : Scans t pos bodies) (h' : Scans t pos bodies') : bodies = bodies' := by
  induction h generalizing bodies' with
  | done round =>
      cases h' with
      | done => rfl
      | miss round' => cases round.symm.trans round'
      | hit round' => cases round.symm.trans round'
  | miss round rest ih =>
      cases h' with
      | done round' => cases round.symm.trans round'
      | miss round' rest' =>
          cases round.symm.trans round'
          exact ih rest'
      | hit round' => cases round.symm.trans round'
  | hit round rest ih =>
      cases h' with
      | done round' => cases round.symm.trans round'
      | miss round' => cases round.symm.trans round'
      | hit round' rest' =>
          cases round.symm.trans round'
          exact congrArg (_ :: ·) (ih rest')

/-! ### The links that are found -/

/-- The bodies are those of the leftmost links of a text that do not overlap. -/
structure AreLeftmost (t : Text) (bodies : List Text) : Prop where
  /-- No body holds a closing bracket. -/
  closed : ∀ body ∈ bodies, ']' ∉ body
  /-- The text is its links, with other text in front of each and behind the last one.  Each link
  begins where one first begins from the end of the one before it, and none begins behind the
  last one. -/
  divided : ∃ links last, Divides t links last ∧ links.map Prod.snd = bodies ∧
    t = (links.flatMap fun (gap, body) => gap ++ source body) ++ last

lemma areLeftmost_bodies (t : Text) : AreLeftmost t (Link.bodies t) := by
  obtain ⟨links, last, hdivides, hlinks⟩ := exists_divides t
  exact
    { closed := hlinks ▸ hdivides.closed
      divided := ⟨links, last, hdivides, hlinks, hdivides.eq_append⟩ }

/-- **The links of a text** are its leftmost ones that do not overlap, and no others are.  The
search by bytes comes to an end, takes no slice inside a character and finds nothing else. -/
theorem areLeftmost_iff : (AreLeftmost t bodies ↔ bodies = Link.bodies t) ∧
    (Scans t 0 bodies ↔ bodies = Link.bodies t) := by
  have hscans : Scans t 0 (Link.bodies t) := scans_bodies [] t
  refine ⟨⟨?_, ?_⟩, ⟨?_, ?_⟩⟩
  · intro h
    obtain ⟨links, last, hdivides, hlinks, -⟩ := h.divided
    rw [← hlinks, hdivides.map_eq]
  · rintro rfl
    exact areLeftmost_bodies t
  · exact fun h => h.unique hscans
  · rintro rfl
    exact hscans

/-- Of opening brackets that overlap the first ones begin the link, and those that begin none are
passed over one by one. -/
example : Link.bodies "[[a]b [[[é]]]] [[x]]".toList = ["[é".toList, "x".toList] := by
  decide

end TweeStory.Link
