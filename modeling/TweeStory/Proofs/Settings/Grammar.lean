/-
What a line of settings says, apart from how it is read.

* `Setting.aliases`, `SettingLine.IsSeparator`: the keys of the settings, and what may stand
  behind them;
* `SettingLine.IsIdle`: lines that say nothing, which are empty or comments;
* `SettingLine.IsPair`, `SettingLine.Sets`: lines that give a setting a value, with a key, a
  separator and the value, and perhaps the old lead before them;
* `ofPair_eq_ok_iff`, `ofBody_eq_ok_iff`: how the pair is read from its first separator;
* `parse_eq_none_iff`, `parse_eq_some_iff`: what lines are read as;
* `parse_trimEnd`, `sets_of_eq`: white space around what a line says does not count.
-/
import TweeStory.Proofs.Text.Quotes
import TweeStory.Proofs.Text.Trim
import TweeStory.Settings.Directive

namespace TweeStory

open Text

/-! ### Keys -/

namespace Setting

variable {setting : Setting} {key : Text}

/-- The keys that stand for a setting. -/
def aliases : Setting → List Text
  | name => ["name".toList, "story_name".toList, "title".toList]
  | format => ["format".toList, "story_format".toList]
  | ifid => ["ifid".toList, "story_ifid".toList]
  | start => ["start".toList, "story_start".toList, "start_passage".toList]

lemma mem_table_iff : (key, setting) ∈ table ↔ key ∈ setting.aliases := by
  cases setting <;> simp [table, aliases]

/-- No key stands for two settings. -/
lemma ofKey?_eq_some_iff : ofKey? key = some setting ↔ key ∈ setting.aliases := by
  have hunique : ∀ entry ∈ table, ofKey? entry.1 = some entry.2 := by decide
  rw [← mem_table_iff]
  refine ⟨fun h => ?_, fun h => hunique _ h⟩
  obtain ⟨entry, hfind, rfl⟩ := Option.map_eq_some_iff.mp h
  have hkey : entry.1 = key := by simpa using List.find?_some hfind
  exact hkey ▸ List.mem_of_find?_eq_some hfind

end Setting

namespace SettingLine

variable {line body key value rest : Text} {sep : Char} {setting : Setting} {set : SettingLine}

/-- The characters that may stand between a key and its value. -/
def IsSeparator (c : Char) : Prop :=
  c = '=' ∨ c = ':'

instance : DecidablePred IsSeparator := fun c =>
  inferInstanceAs (Decidable (c = '=' ∨ c = ':'))

lemma isSeparator_iff {c : Char} : isSeparator c ↔ IsSeparator c := by
  simp [isSeparator, IsSeparator]

lemma isBlank_of_isSeparator (h : IsSeparator sep) : isBlank sep = false := by
  rcases h with rfl | rfl <;> rfl

/-- No separator stands in a key. -/
def IsKey (key : Text) : Prop :=
  ∀ c ∈ key, ¬IsSeparator c

lemma IsKey.isSeparator_eq_false (h : IsKey key) {c : Char} (hc : c ∈ key) :
    isSeparator c = false :=
  Bool.eq_false_iff.mpr fun hsep => h c hc (isSeparator_iff.mp hsep)

lemma isKey_of_isSpace (h : IsSpace key) : IsKey key := by
  intro c hc hsep
  have hblank := h c hc
  rw [isBlank_of_isSeparator hsep] at hblank
  cases hblank

/-- The keys that are known hold no separator, no line feed, and no white space at their ends. -/
lemma isKey_of_mem_aliases (h : key ∈ setting.aliases) :
    IsKey key ∧ key.trim = key ∧ '\n' ∉ key := by
  have hall : ∀ key ∈ setting.aliases,
      key.any isSeparator = false ∧ key.trim = key ∧ '\n' ∉ key := by
    cases setting <;> decide
  obtain ⟨hkey, hrest⟩ := hall key h
  refine ⟨fun c hc hsep => ?_, hrest⟩
  exact List.any_eq_false.mp hkey c hc (isSeparator_iff.mpr hsep)

/-! ### What lines say -/

/-- A line that says nothing: apart from white space at its ends, it is empty or begins with `#`
or `//`. -/
def IsIdle (line : Text) : Prop :=
  line.trim = [] ∨ (∃ rest, line.trim = '#' :: rest) ∨ ∃ rest, line.trim = '/' :: '/' :: rest

/-- One of the keys of a setting, the first separator, and a value that is not empty.  White space
around the key and the value does not count.  The value may stand in quotes, with white space
within them that does not count either. -/
def IsPair (body : Text) (setting : Setting) (value : Text) : Prop :=
  ∃ key sep rest inner, body = key ++ sep :: rest ∧ IsKey key ∧ IsSeparator sep ∧
    key.trim ∈ setting.aliases ∧ (Text.trim rest).Unwraps inner ∧ inner.trim = value ∧
    value ≠ []

/-- A line that gives a setting a value: a key with the value, perhaps behind the old lead. -/
def Sets (line : Text) (setting : Setting) (value : Text) : Prop :=
  ∃ lead body, (lead = [] ∨ lead = "Twee2::build_config.".toList) ∧ line.trim = lead ++ body ∧
    IsPair body setting value

/-! ### Pairs -/

/-- The value of a pair is what stands behind the separator without the quotes around it. -/
lemma isPair_iff : IsPair body setting value ↔
    ∃ key sep rest, body = key ++ sep :: rest ∧ IsKey key ∧ IsSeparator sep ∧
      key.trim ∈ setting.aliases ∧ (Text.trim rest).unwrapQuotes.trim = value ∧
      value ≠ [] := by
  simp only [IsPair, ← unwrapQuotes_eq_iff, exists_and_left, exists_eq_left']

lemma takeWhile_append_separator (hkey : IsKey key) (hsep : IsSeparator sep) :
    (key ++ sep :: rest).takeWhile (fun c => !isSeparator c) = key := by
  rw [List.takeWhile_append_of_pos fun c hc => by rw [hkey.isSeparator_eq_false hc]; rfl,
    List.takeWhile_cons_of_neg (by simp [isSeparator_iff.mpr hsep]), List.append_nil]

lemma dropWhile_append_separator (hkey : IsKey key) (hsep : IsSeparator sep) :
    (key ++ sep :: rest).dropWhile (fun c => !isSeparator c) = sep :: rest := by
  rw [List.dropWhile_append_of_pos fun c hc => by rw [hkey.isSeparator_eq_false hc]; rfl,
    List.dropWhile_cons_of_neg (by simp [isSeparator_iff.mpr hsep])]

/-- What stands before the first separator is a key. -/
lemma eq_of_dropWhile (h : body.dropWhile (fun c => !isSeparator c) = sep :: rest) :
    body = body.takeWhile (fun c => !isSeparator c) ++ sep :: rest ∧
      IsKey (body.takeWhile fun c => !isSeparator c) ∧ IsSeparator sep := by
  refine ⟨by rw [← h, List.takeWhile_append_dropWhile], fun c hc hsep => ?_, ?_⟩
  · have hnot := List.mem_takeWhile_imp hc
    rw [isSeparator_iff.mpr hsep] at hnot
    cases hnot
  · have hhead := List.head?_dropWhile_not (fun c => !isSeparator c) body
    rw [h] at hhead
    exact isSeparator_iff.mp (by simpa using hhead)

lemma ofPair_eq_ok_iff :
    ofPair line key value = .ok set ↔
      key ∈ set.setting.aliases ∧ value = set.value ∧ set.value ≠ [] := by
  have hempty : ∀ setting : Setting, [] ∉ setting.aliases := by
    intro setting
    cases setting <;> decide
  rw [ofPair]
  split
  · rename_i hkey
    obtain rfl := List.isEmpty_iff.mp hkey
    simp [hempty]
  · rw [← Setting.ofKey?_eq_some_iff]
    cases hfind : Setting.ofKey? key with
    | none => simp
    | some setting =>
        cases set
        cases value <;> simp +contextual [eq_comm]

/-- What a line sets that is no comment, without the lead. -/
def ofBody (body : Text) : Except DirectiveError SettingLine :=
  match body.dropWhile fun c => !isSeparator c with
  | [] => .error (.malformed body)
  | _ :: rest =>
    ofPair body (Text.trim (body.takeWhile fun c => !isSeparator c))
      (Text.trim rest).unwrapQuotes.trim

lemma ofBody_append_separator (hkey : IsKey key) (hsep : IsSeparator sep) :
    ofBody (key ++ sep :: rest) =
      ofPair (key ++ sep :: rest) key.trim (Text.trim rest).unwrapQuotes.trim := by
  rw [ofBody, dropWhile_append_separator hkey hsep, takeWhile_append_separator hkey hsep]

lemma ofBody_eq_ok_iff : ofBody body = .ok set ↔ IsPair body set.setting set.value := by
  constructor
  · intro h
    cases hrest : body.dropWhile fun c => !isSeparator c with
    | nil =>
        simp only [ofBody, hrest] at h
        cases h
    | cons sep rest =>
        obtain ⟨hbody, hkey, hsep⟩ := eq_of_dropWhile hrest
        rw [hbody, ofBody_append_separator hkey hsep] at h
        exact isPair_iff.mpr ⟨_, sep, rest, hbody, hkey, hsep, ofPair_eq_ok_iff.mp h⟩
  · intro h
    obtain ⟨key, sep, rest, rfl, hkey, hsep, hpair⟩ := isPair_iff.mp h
    rw [ofBody_append_separator hkey hsep]
    exact ofPair_eq_ok_iff.mpr hpair

/-! ### Lines -/

lemma parse_eq (line : Text) :
    parse line = if isComment line.trim then .ok none
      else (ofBody ((after? legacyLead line.trim).getD line.trim)).map some := by
  rw [parse]
  split
  · rfl
  · simp only [ofBody]
    cases List.dropWhile _ ((after? legacyLead line.trim).getD line.trim) <;> rfl

lemma isComment_iff {t : Text} :
    isComment t ↔ t = [] ∨ (∃ rest, t = '#' :: rest) ∨ ∃ rest, t = '/' :: '/' :: rest := by
  simp [isComment, beginsWith_iff, or_assoc]

instance : DecidablePred IsIdle := fun _ =>
  decidable_of_iff _ isComment_iff

/-- **The lines that set nothing** are the empty ones and the comments. -/
lemma parse_eq_none_iff : parse line = .ok none ↔ IsIdle line := by
  rw [parse_eq, IsIdle, ← isComment_iff]
  split
  · rename_i hcomment
    exact iff_of_true rfl hcomment
  · rename_i hcomment
    refine iff_of_false ?_ hcomment
    cases ofBody _ <;> simp [Except.map]

/-- A pair does not begin as a comment does, since no key does. -/
lemma IsPair.isComment_eq_false (hpair : IsPair body setting value) : isComment body = false := by
  have hkeys : ∀ key ∈ setting.aliases, key.head?.any (fun c => c != '#' && c != '/') := by
    cases setting <;> decide
  obtain ⟨key, sep, rest, -, rfl, -, -, halias, -⟩ := hpair
  have hfirst := hkeys _ halias
  cases key with
  | nil => cases hfirst
  | cons c key =>
      rw [Bool.eq_false_iff, ne_eq, isComment_iff]
      have hmark : isBlank c = false → c ≠ '#' ∧ c ≠ '/' := fun hblank => by
        simpa [trim_cons hblank] using hfirst
      rintro (hnil | ⟨t, ht⟩ | ⟨t, ht⟩)
      · cases hnil
      · obtain ⟨rfl, -⟩ := List.cons_eq_cons.mp ht
        exact (hmark rfl).1 rfl
      · obtain ⟨rfl, -⟩ := List.cons_eq_cons.mp ht
        exact (hmark rfl).2 rfl

/-- The old lead holds a separator, and no key stands before it. -/
lemma IsPair.after?_legacyLead (hpair : IsPair body setting value) :
    after? legacyLead body = none := by
  obtain ⟨key, sep, rest, -, rfl, hkey, hsep, halias, -⟩ := hpair
  rw [Option.eq_none_iff_forall_ne_some]
  intro t ht
  have hfirst := congrArg (List.takeWhile fun c => !isSeparator c) (after?_eq_some_iff.mp ht)
  rw [takeWhile_append_separator hkey hsep] at hfirst
  have hlead : (legacyLead ++ t).takeWhile (fun c => !isSeparator c) = "Twee2".toList := rfl
  rw [hfirst, hlead] at halias
  revert halias
  cases setting <;> decide

/-- A line that is no comment is read behind the lead, if it has one. -/
lemma exists_lead (t : Text) :
    ∃ lead, (lead = [] ∨ lead = "Twee2::build_config.".toList) ∧
      t = lead ++ (after? legacyLead t).getD t := by
  cases hlead : after? legacyLead t with
  | none => exact ⟨[], Or.inl rfl, rfl⟩
  | some body => exact ⟨legacyLead, Or.inr rfl, after?_eq_some_iff.mp hlead⟩

/-- **The lines that set something**, and what they set. -/
theorem parse_eq_some_iff :
    parse line = .ok (some set) ↔ Sets line set.setting set.value := by
  constructor
  · intro h
    rw [parse_eq] at h
    split at h
    · cases h
    · obtain ⟨lead, hlead, hline⟩ := exists_lead line.trim
      refine ⟨lead, _, hlead, hline, ofBody_eq_ok_iff.mp ?_⟩
      cases hbody : ofBody ((after? legacyLead line.trim).getD line.trim) with
      | error e =>
          rw [hbody] at h
          cases h
      | ok found =>
          rw [hbody] at h
          cases h
          rfl
  · rintro ⟨lead, body, rfl | hlead, hline, hpair⟩
    · rw [parse_eq, hline, List.nil_append, hpair.isComment_eq_false, hpair.after?_legacyLead,
        Option.getD_none, ofBody_eq_ok_iff.mpr hpair]
      rfl
    · obtain rfl : lead = legacyLead := hlead
      have hcomment : isComment (legacyLead ++ body) = false := rfl
      rw [parse_eq, hline, hcomment, after?_append, Option.getD_some, ofBody_eq_ok_iff.mpr hpair]
      rfl

/-- White space at the end of a line of settings does not count. -/
lemma parse_trimEnd (line : Text) : parse (trimEnd line) = parse line := by
  simp only [parse, trim_trimEnd]

lemma parse_eq_of_trimEnd_eq {s t : Text} (h : trimEnd s = trimEnd t) : parse s = parse t := by
  rw [← parse_trimEnd s, h, parse_trimEnd]

/-- White space around what a line says does not count, nor does it between the lead and the key. -/
lemma sets_of_eq {lead space : Text} (hspace : IsSpace space)
    (hlead : lead = [] ∨ lead = "Twee2::build_config.".toList)
    (hline : line = space ++ (lead ++ (key ++ sep :: rest))) (hkey : IsKey key)
    (hsep : IsSeparator sep) (halias : key.trim ∈ setting.aliases)
    (hvalue : (Text.trim rest).unwrapQuotes.trim = value) (hne : value ≠ []) :
    Sets line setting value := by
  have hblank := isBlank_of_isSeparator hsep
  rw [← trim_trimEnd rest] at hvalue
  obtain rfl | rfl := hlead
  · refine ⟨[], trimStart key ++ sep :: trimEnd rest, Or.inl rfl, ?_, ?_⟩
    · rw [hline, trim_append_of_blank hspace, List.nil_append, trim_append_cons hblank,
        List.nil_append]
    · have hkey' : IsKey (trimStart key) := fun c hc =>
        hkey c ((List.dropWhile_suffix isBlank).mem hc)
      exact isPair_iff.mpr
        ⟨_, sep, _, rfl, hkey', hsep, (trim_trimStart key).symm ▸ halias, hvalue, hne⟩
  · refine ⟨_, key ++ sep :: trimEnd rest, Or.inr rfl, ?_, ?_⟩
    · rw [hline, trim_append_of_blank hspace, ← List.append_assoc, trim_append_cons hblank,
        ← List.append_assoc]
      rfl
    · exact isPair_iff.mpr ⟨key, sep, _, rfl, hkey, hsep, halias, hvalue, hne⟩

end SettingLine

end TweeStory
