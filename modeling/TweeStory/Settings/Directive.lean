/-
Settings that a story makes about its own build, one `key = value` a line.

* `Setting`: what can be set, and the keys for it;
* `SettingLine.parse`: what a line sets;
* `DirectiveError`: why a line sets nothing, with its words.

The key and the value are divided by the first `=` or `:`.  The value may stand in
quotes.  Empty lines and lines that begin with `#` or `//` are comments.
-/
import TweeStory.Text.Blank
import TweeStory.Text.Similarity
import TweeStory.Text.Unwrap

namespace TweeStory

/-- What a story can set. -/
inductive Setting where
  | name
  | format
  | ifid
  | start
deriving DecidableEq, Repr

namespace Setting

/-- The keys of the settings. -/
def table : List (Text × Setting) := [
  ("name".toList, name),
  ("story_name".toList, name),
  ("title".toList, name),
  ("format".toList, format),
  ("story_format".toList, format),
  ("ifid".toList, ifid),
  ("story_ifid".toList, ifid),
  ("start".toList, start),
  ("story_start".toList, start),
  ("start_passage".toList, start)]

/-- The keys. -/
def keys : List Text :=
  table.map Prod.fst

/-- The setting with a key. -/
def ofKey? (key : Text) : Option Setting :=
  (table.find? fun entry => entry.1 = key).map Prod.snd

end Setting

/-- Why a line of settings cannot be followed. -/
inductive DirectiveError where
  /-- The line has no separator or no key. -/
  | malformed (line : Text)
  /-- The key is none of those that are known. -/
  | unknownKey (key : Text) (suggestion : Option Text)
  /-- The key has no value. -/
  | emptyValue (key : Text)
deriving DecidableEq, Repr

/-- The words of the error. -/
def DirectiveError.message : DirectiveError → Text
  | malformed line => "expected `key = value`, found `".toList ++ line ++ "`".toList
  | unknownKey key suggestion =>
    "unknown configuration key `".toList ++ key ++ "`".toList ++
      (match suggestion with
        | some close => " (did you mean `".toList ++ close ++ "`?)".toList
        | none => [])
  | emptyValue key => "configuration key `".toList ++ key ++ "` has an empty value".toList

/-- A setting with its value. -/
structure SettingLine where
  setting : Setting
  value : Text
deriving DecidableEq, Repr

namespace SettingLine

/-- What keys may begin with in older stories. -/
def legacyLead : Text := "Twee2::build_config.".toList

/-- Whether a character divides a key from its value. -/
def isSeparator (c : Char) : Bool :=
  c == '=' || c == ':'

/-- Whether a line without white space at its ends sets nothing. -/
def isComment (line : Text) : Bool :=
  line.isEmpty || line.beginsWith ['#'] || line.beginsWith ['/', '/']

/-- What a key and a value set, both without white space at their ends.  `line` is
the line they are from. -/
def ofPair (line key value : Text) : Except DirectiveError SettingLine :=
  if key.isEmpty then .error (.malformed line)
  else
    match Setting.ofKey? key with
    | none => .error (.unknownKey key (bestMatch? key Setting.keys))
    | some setting => if value.isEmpty then .error (.emptyValue key) else .ok ⟨setting, value⟩

/-- What a line sets, if it is no comment. -/
def parse (line : Text) : Except DirectiveError (Option SettingLine) :=
  let line := line.trim
  if isComment line then .ok none
  else
    let line := (Text.after? legacyLead line).getD line
    match line.dropWhile fun c => !isSeparator c with
    | [] => .error (.malformed line)
    | _ :: rest =>
      let key := Text.trim (line.takeWhile fun c => !isSeparator c)
      (ofPair line key (Text.trim rest).unwrapQuotes.trim).map some

end SettingLine

end TweeStory
