/-
Conditions worth telling the author about that do not stop a compile.

* `WarningKind`: the conditions, with their names and their words;
* `Warning`: a condition with the line it was met on;
* `Diagnostics`: the warnings of a compile in the order they were raised.
-/
import TweeStory.Source.Line
import TweeStory.Text.Quoted

namespace TweeStory

/-- The conditions that a compile or a check of links warns about. -/
inductive WarningKind where
  /-- An included file cannot be read. -/
  | missingInclude (path : Text)
  /-- A file includes itself, directly or through other files. -/
  | includeCycle (path : Text)
  /-- A passage takes the place of an earlier one with its name. -/
  | duplicatePassage (name first second : Text)
  /-- The text of a link opens with a quote that does not close. -/
  | unterminatedQuote (text : Text) (quote : Char)
  /-- The quoted text of a link holds a quote without a backslash. -/
  | unquotedQuote (text : Text) (quote : Char)
  /-- The text of a link is made of special characters and not quoted. -/
  | unquotedSpecialCharacters (text : Text)
  /-- The start passage does not exist or is no part of the output. -/
  | missingStartPassage (name : Text) (suggestion : Option Text)
  /-- The story does not say its IFID, so a generated one is used. -/
  | missingIfid (ifid : Text)
deriving DecidableEq, Repr

namespace WarningKind

/-- The name of a kind, by which it is allowed or denied. -/
def name : WarningKind → Text
  | missingInclude _ => "MissingInclude".toList
  | includeCycle _ => "IncludeCycle".toList
  | duplicatePassage .. => "DuplicatePassage".toList
  | unterminatedQuote .. => "UnterminatedQuote".toList
  | unquotedQuote .. => "UnquotedQuote".toList
  | unquotedSpecialCharacters _ => "UnquotedSpecialCharacters".toList
  | missingStartPassage .. => "MissingStartPassage".toList
  | missingIfid _ => "MissingIfid".toList

/-- Whether a kind only informs. -/
def isNotice : WarningKind → Bool
  | missingIfid _ => true
  | _ => false

/-- The word for a quote character. -/
def quoteName (quote : Char) : Text :=
  if quote = '\'' then "single".toList else "double".toList

/-- The words of a kind. -/
def message : WarningKind → Text
  | missingInclude path =>
    "Tried to include file '".toList ++ path ++ "' but it could not be read".toList
  | includeCycle path => "File '".toList ++ path ++ "' includes itself; include skipped".toList
  | duplicatePassage name first second =>
    "Passage named ".toList ++ name ++ " at ".toList ++ first ++
      " is overwritten by a passage with the same name at ".toList ++ second
  | unterminatedQuote text quote =>
    "Link text (".toList ++ text.quoted ++ ") does not end with a ".toList ++ quoteName quote ++
      " quote despite starting with one".toList
  | unquotedQuote text quote =>
    "Link text (".toList ++ text.quoted ++ ") contains an unquoted ".toList ++ quoteName quote ++
      " quote in its body".toList
  | unquotedSpecialCharacters text =>
    "Link text (".toList ++ text.quoted ++
      ") contains special characters but is not quoted".toList
  | missingStartPassage name _ =>
    "Start passage '".toList ++ name ++
      "' is not part of the story; passage 1 will be used".toList
  | missingIfid ifid =>
    "No IFID specified. Consider adding a passage tagged twee2 containing: ifid = ".toList ++ ifid

end WarningKind

/-- A condition with the line it was met on.  The referent is a second line that
it is about, such as the earlier definition of a passage. -/
structure Warning where
  kind : WarningKind
  context : Option Origin
  referent : Option Origin
deriving DecidableEq, Repr

/-- The name of the kind of a warning. -/
def Warning.name (w : Warning) : Text :=
  w.kind.name

/-- The warnings of a compile in the order they were raised. -/
abbrev Diagnostics := List Warning

namespace Diagnostics

/-- The warnings with one more at the end. -/
def push (diagnostics : Diagnostics) (w : Warning) : Diagnostics :=
  diagnostics ++ [w]

/-- The warnings with one more at the end that has no referent. -/
def warn (diagnostics : Diagnostics) (kind : WarningKind) (context : Option Origin) :
    Diagnostics :=
  diagnostics.push ⟨kind, context, none⟩

/-- The number of warnings with a name. -/
def count (diagnostics : Diagnostics) (name : Text) : Nat :=
  diagnostics.countP fun w => w.name = name

end Diagnostics

end TweeStory
