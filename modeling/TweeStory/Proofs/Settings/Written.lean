/-
Settings as they are written, line by line, and as they are read again.

* `WrittenValue`, `WrittenSetting`: a value, in quotes or without, and the line that gives a
  setting the value, with all that may be chosen about it;
* `WrittenSetting.sets_source`: the line is read as what it stands for;
* `SheetLine`, `sheetText`: lines for settings and lines that say nothing, as one text;
* `foldl_set_of_perm`: settings for different things can be made in any order;
* `apply_sheetText`: a text with one line for each setting gives them all.
-/
import TweeStory.Proofs.Settings.Following

namespace TweeStory

open Text

/-! ### Texts on one line -/

namespace Text

/-- White space within a line. -/
def IsGap (t : Text) : Prop :=
  IsSpace t ∧ '\n' ∉ t

instance : DecidablePred IsGap := fun t =>
  decidable_of_iff (isAllBlank t ∧ '\n' ∉ t) (and_congr_left fun _ => isAllBlank_eq_true_iff)

/-- A text on one line that is not empty and has no white space at its ends. -/
structure IsEntry (t : Text) : Prop where
  ne_nil : t ≠ []
  trim_eq : t.trim = t
  line : '\n' ∉ t

instance : DecidablePred IsEntry := fun t =>
  decidable_of_iff (t ≠ [] ∧ t.trim = t ∧ '\n' ∉ t)
    ⟨fun ⟨hne, htrim, hline⟩ => ⟨hne, htrim, hline⟩, fun h => ⟨h.ne_nil, h.trim_eq, h.line⟩⟩

end Text

/-! ### Values -/

/-- The value of a setting as it is written. -/
inductive WrittenValue where
  | plain (value : Text)
  | quoted (quote : Char) (before value after : Text)
deriving DecidableEq, Repr

namespace WrittenValue

/-- The value. -/
def value : WrittenValue → Text
  | plain value | quoted _ _ value _ => value

/-- What is written for the value. -/
def source : WrittenValue → Text
  | plain value => value
  | quoted quote before value after => quote :: (before ++ (value ++ after) ++ [quote])

/-- A value may be any text on one line that is not empty and has no white space at its ends.
Without quotes, it does not look as if it stood in quotes. -/
def IsValid : WrittenValue → Prop
  | plain value => IsEntry value ∧ ¬IsWrapped value
  | quoted quote before value after =>
    IsEntry value ∧ IsQuoteMark quote ∧ IsGap before ∧ IsGap after

instance : DecidablePred IsValid
  | plain value => inferInstanceAs (Decidable (IsEntry value ∧ ¬IsWrapped value))
  | quoted quote before value after =>
    inferInstanceAs (Decidable (IsEntry value ∧ IsQuoteMark quote ∧ IsGap before ∧ IsGap after))

variable {written : WrittenValue}

lemma IsValid.isEntry (h : written.IsValid) : IsEntry written.value := by
  cases written with
  | plain value => exact h.1
  | quoted quote before value after => exact h.1

lemma isBlank_of_isQuoteMark {quote : Char} (h : IsQuoteMark quote) : isBlank quote = false := by
  rcases h with rfl | rfl <;> rfl

/-- A value is read back from what is written for it. -/
lemma unwrapQuotes_source (h : written.IsValid) {front back : Text} (hfront : IsSpace front)
    (hback : IsSpace back) :
    (trim (front ++ (written.source ++ back))).unwrapQuotes.trim = written.value := by
  rw [trim_append_of_blank hfront, trim_append_of_blank_end hback]
  cases written with
  | plain value =>
      have htrim : value.trim = value := h.1.trim_eq
      have hself : unwrapQuotes value = value := unwrapQuotes_eq_self_iff.mpr h.2
      rw [source, htrim, hself, htrim]
      rfl
  | quoted quote before value after =>
      obtain ⟨hentry, hquote, hbefore, hafter⟩ := h
      have hblank := isBlank_of_isQuoteMark hquote
      rw [source, trim_cons_concat hblank hblank, unwrapQuotes_wrapped hquote,
        trim_append_of_blank hbefore.1, trim_append_of_blank_end hafter.1, hentry.trim_eq]
      rfl

lemma notMem_source (h : written.IsValid) : '\n' ∉ written.source := by
  cases written with
  | plain value => exact h.1.line
  | quoted quote before value after =>
      obtain ⟨hentry, hquote, hbefore, hafter⟩ := h
      have hne : '\n' ≠ quote := by
        rcases hquote with rfl | rfl <;> decide
      simp [source, hne, hbefore.2, hentry.line, hafter.2]

end WrittenValue

/-! ### Lines -/

/-- A line that gives a setting a value, as it is written. -/
structure WrittenSetting where
  setting : Setting
  value : WrittenValue
  key : Text
  sep : Char
  /-- Whether the old lead stands in front of the key. -/
  hasLead : Bool
  /-- The white space before the lead, before and behind the key, and before and behind the
  value. -/
  indent : Text
  gap : Text
  margin : Text
  space : Text
  tail : Text
deriving DecidableEq, Repr

namespace WrittenSetting

/-- The old lead, where there is one. -/
def lead (w : WrittenSetting) : Text :=
  if w.hasLead then "Twee2::build_config.".toList else []

/-- What is written. -/
def source (w : WrittenSetting) : Text :=
  w.indent ++ (w.lead ++
    ((w.gap ++ (w.key ++ w.margin)) ++ w.sep :: (w.space ++ (w.value.source ++ w.tail))))

/-- What the line stands for. -/
def set (w : WrittenSetting) : SettingLine :=
  ⟨w.setting, w.value.value⟩

/-- The key may be any key of the setting, and the separator either of the two. -/
structure IsValid (w : WrittenSetting) : Prop where
  key : w.key ∈ w.setting.aliases
  sep : SettingLine.IsSeparator w.sep
  value : w.value.IsValid
  gaps : ∀ t ∈ [w.indent, w.gap, w.margin, w.space, w.tail], IsGap t

variable {w : WrittenSetting}

lemma isValid_iff : w.IsValid ↔ w.setting.aliases.contains w.key ∧ SettingLine.IsSeparator w.sep ∧
    w.value.IsValid ∧ ∀ t ∈ [w.indent, w.gap, w.margin, w.space, w.tail], IsGap t := by
  rw [List.contains_iff_mem]
  exact ⟨fun h => ⟨h.key, h.sep, h.value, h.gaps⟩,
    fun ⟨hkey, hsep, hvalue, hgaps⟩ => ⟨hkey, hsep, hvalue, hgaps⟩⟩

instance : DecidablePred IsValid := fun _ =>
  decidable_of_iff' _ isValid_iff

/-- **A line is read as what it stands for.** -/
lemma sets_source (h : w.IsValid) : SettingLine.Sets w.source w.setting w.value.value := by
  obtain ⟨hindent, hgap, hmargin, hspace, htail⟩ :
      IsGap w.indent ∧ IsGap w.gap ∧ IsGap w.margin ∧ IsGap w.space ∧ IsGap w.tail := by
    simpa using h.gaps
  obtain ⟨hkey, htrim, -⟩ := SettingLine.isKey_of_mem_aliases h.key
  have hkey' : SettingLine.IsKey (w.gap ++ (w.key ++ w.margin)) := by
    simp only [SettingLine.IsKey, List.forall_mem_append]
    exact ⟨SettingLine.isKey_of_isSpace hgap.1, hkey, SettingLine.isKey_of_isSpace hmargin.1⟩
  have htrim' : trim (w.gap ++ (w.key ++ w.margin)) = w.key := by
    rw [trim_append_of_blank hgap.1, trim_append_of_blank_end hmargin.1, htrim]
  refine SettingLine.sets_of_eq hindent.1 ?_ rfl hkey' h.sep (htrim'.symm ▸ h.key)
    (WrittenValue.unwrapQuotes_source h.value hspace.1 htail.1) h.value.isEntry.ne_nil
  rw [lead]
  cases w.hasLead
  · exact Or.inl rfl
  · exact Or.inr rfl

lemma notMem_source (h : w.IsValid) : '\n' ∉ w.source := by
  have hgaps : ∀ t ∈ [w.indent, w.gap, w.margin, w.space, w.tail], '\n' ∉ t := fun t ht =>
    (h.gaps t ht).2
  have hlead : '\n' ∉ w.lead := by
    rw [lead]
    cases w.hasLead <;> decide
  have hsep : '\n' ≠ w.sep := by
    rcases h.sep with heq | heq <;> rw [heq] <;> decide
  have hkey := (SettingLine.isKey_of_mem_aliases h.key).2.2
  have hvalue := WrittenValue.notMem_source h.value
  simp only [List.forall_mem_cons] at hgaps
  simp [source, hlead, hsep, hkey, hvalue, hgaps]

end WrittenSetting

/-! ### Sheets -/

/-- A line of a sheet of settings: one that says nothing, or one for a setting. -/
inductive SheetLine where
  | idle (text : Text)
  | setting (written : WrittenSetting)
deriving DecidableEq, Repr

namespace SheetLine

/-- What is written. -/
def source : SheetLine → Text
  | idle text => text
  | setting written => written.source

/-- What the line stands for. -/
def set? : SheetLine → Option SettingLine
  | idle _ => none
  | setting written => some written.set

/-- What is written for the line is one line, which says just that. -/
def IsValid : SheetLine → Prop
  | idle text => SettingLine.IsIdle text ∧ '\n' ∉ text
  | setting written => written.IsValid

instance : DecidablePred IsValid
  | idle text => inferInstanceAs (Decidable (SettingLine.IsIdle text ∧ '\n' ∉ text))
  | setting written => inferInstanceAs (Decidable written.IsValid)

variable {line : SheetLine}

lemma parse_source (h : line.IsValid) : SettingLine.parse line.source = .ok line.set? := by
  cases line with
  | idle text => exact SettingLine.parse_eq_none_iff.mpr h.1
  | setting written => exact SettingLine.parse_eq_some_iff.mpr (WrittenSetting.sets_source h)

lemma notMem_source (h : line.IsValid) : '\n' ∉ line.source := by
  cases line with
  | idle text => exact h.2
  | setting written => exact WrittenSetting.notMem_source h

end SheetLine

/-- The text of a sheet, with a line feed between each two lines. -/
def sheetText (sheet : List SheetLine) : Text :=
  join ['\n'] (sheet.map SheetLine.source)

namespace BuildSettings

open SettingLine

variable {settings : BuildSettings} {sets sets' : List SettingLine} {texts : List Text}
  {sheet : List SheetLine}

lemma ofLine?_trimEnd (line : Text) : ofLine? (trimEnd line) = ofLine? line := by
  rw [ofLine?, parse_trimEnd, ofLine?]

/-- Texts without line feeds that are joined are followed one by one. -/
lemma apply_join (hline : ∀ t ∈ texts, '\n' ∉ t) (hok : ∀ t ∈ texts, (parse t).isOk) :
    settings.apply (join ['\n'] texts) = .ok ((texts.filterMap ofLine?).foldl set settings) := by
  obtain ⟨rest, hrest, htexts⟩ := exists_map_trimEnd_lines_join hline
  have hread : ∀ lines : List Text, (lines.map trimEnd).filterMap ofLine? =
      lines.filterMap ofLine? := fun lines => by
    simp only [List.filterMap_map, Function.comp_def, ofLine?_trimEnd]
  have hfollow : (join ['\n'] texts).IsFollowable := by
    intro line hmem
    have hmem' : trimEnd line ∈ texts.map trimEnd := by
      rw [htexts]
      exact List.mem_append_left rest (List.mem_map_of_mem hmem)
    obtain ⟨t, ht, heq⟩ := List.mem_map.mp hmem'
    rw [← parse_eq_of_trimEnd_eq heq]
    exact hok t ht
  have hnone : rest.filterMap ofLine? = [] := by
    obtain rfl | rfl := hrest <;> rfl
  rw [apply_of_isFollowable settings hfollow, followed, ← hread texts, htexts,
    List.filterMap_append, hnone, List.append_nil, hread]

/-- A sheet is followed line by line. -/
lemma apply_sheetText_eq (h : ∀ line ∈ sheet, line.IsValid) :
    settings.apply (sheetText sheet) =
      .ok ((sheet.filterMap SheetLine.set?).foldl set settings) := by
  have hparse : ∀ line ∈ sheet, parse line.source = .ok line.set? := fun line hline =>
    SheetLine.parse_source (h line hline)
  have hfeed : ∀ t ∈ sheet.map SheetLine.source, '\n' ∉ t :=
    List.forall_mem_map.mpr fun line hline => SheetLine.notMem_source (h line hline)
  have hok : ∀ t ∈ sheet.map SheetLine.source, (parse t).isOk :=
    List.forall_mem_map.mpr fun line hline => by
      rw [hparse line hline]
      rfl
  have hread : (sheet.map SheetLine.source).filterMap ofLine? = sheet.filterMap SheetLine.set? := by
    rw [List.filterMap_map]
    refine List.filterMap_congr fun line hline => ?_
    rw [Function.comp_apply, ofLine?, hparse line hline]
  rw [sheetText, apply_join hfeed hok, hread]

/-- Settings for different things can be made in either order. -/
lemma set_set_comm {x y : SettingLine} (h : x.setting ≠ y.setting) (settings : BuildSettings) :
    (settings.set x).set y = (settings.set y).set x := by
  obtain ⟨xs, xv⟩ := x
  obtain ⟨ys, yv⟩ := y
  cases xs <;> cases ys <;> first | rfl | exact absurd rfl h

/-- **Settings for different things can be made in any order.** -/
lemma foldl_set_of_perm (hperm : sets.Perm sets') (hnodup : (sets.map setting).Nodup)
    (settings : BuildSettings) : sets.foldl set settings = sets'.foldl set settings := by
  refine hperm.foldl_eq' (fun x hx y hy settings => ?_) settings
  by_cases hsame : x.setting = y.setting
  · rw [List.inj_on_of_nodup_map hnodup hx hy hsame]
  · exact set_set_comm hsame settings

/-- **Settings are read as they were written.**  A sheet with one line for each of the settings,
in whatever order and form, gives them all, whatever the settings were before. -/
theorem apply_sheetText {name format ifid start : Text} (hvalid : ∀ line ∈ sheet, line.IsValid)
    (hsets : (sheet.filterMap SheetLine.set?).Perm
      [⟨.name, name⟩, ⟨.format, format⟩, ⟨.ifid, ifid⟩, ⟨.start, start⟩])
    (settings : BuildSettings) :
    settings.apply (sheetText sheet) = .ok
      { storyName := name
        storyFormat := some format
        ifid := ifid.upper
        ifidSpecified := true
        startPassage := start } := by
  have hfour : [Setting.name, .format, .ifid, .start].Nodup := by decide
  have hnodup := (hsets.map setting).nodup_iff.mpr hfour
  rw [apply_sheetText_eq hvalid, foldl_set_of_perm hsets hnodup]
  rfl

/-- A sheet whose values are full of quotes, separators and signs of comments. -/
def teaSheet : List SheetLine := [
  .idle "# ifid: 0".toList,
  .setting
    { setting := .ifid
      value := .quoted '\'' " ".toList "a1'=\"ß".toList []
      key := "story_ifid".toList
      sep := ':'
      hasLead := true
      indent := "\t ".toList
      gap := " ".toList
      margin := []
      space := []
      tail := "\r".toList },
  .idle "  // name = none".toList,
  .setting
    { setting := .start
      value := .plain "'tis \"here\": #2 // x = y".toList
      key := "start".toList
      sep := '='
      hasLead := false
      indent := []
      gap := []
      margin := " ".toList
      space := " ".toList
      tail := [] },
  .setting
    { setting := .format
      value := .quoted '"' [] "\"Chapbook\"".toList " ".toList
      key := "format".toList
      sep := '='
      hasLead := true
      indent := []
      gap := []
      margin := []
      space := "\t".toList
      tail := [] },
  .idle [],
  .setting
    { setting := .name
      value := .plain "// Tea: 'green'".toList
      key := "title".toList
      sep := ':'
      hasLead := false
      indent := []
      gap := []
      margin := []
      space := []
      tail := [] },
  .idle []]

theorem apply_sheetText_teaSheet :
    let four : List SettingLine := [⟨.name, "// Tea: 'green'".toList⟩,
      ⟨.format, "\"Chapbook\"".toList⟩, ⟨.ifid, "a1'=\"ß".toList⟩,
      ⟨.start, "'tis \"here\": #2 // x = y".toList⟩]
    (∀ line ∈ teaSheet, line.IsValid) ∧ (teaSheet.filterMap SheetLine.set?).Perm four ∧
      (initial "0".toList).apply (sheetText teaSheet) = .ok
        { storyName := "// Tea: 'green'".toList
          storyFormat := some "\"Chapbook\"".toList
          ifid := "A1'=\"SS".toList
          ifidSpecified := true
          startPassage := "'tis \"here\": #2 // x = y".toList } := by
  intro four
  have hvalid : ∀ line ∈ teaSheet, line.IsValid := by decide
  have hsets : (teaSheet.filterMap SheetLine.set?).Perm four := by decide
  exact ⟨hvalid, hsets, apply_sheetText hvalid hsets _⟩

end BuildSettings

end TweeStory
