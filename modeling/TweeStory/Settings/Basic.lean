/-
The settings of a build.

* `BuildSettings`: the name, format, IFID and start passage of a story;
* `BuildSettings.set`: the settings after a line of settings;
* `BuildSettings.apply`: the settings after a whole passage of them, if every line
  of it can be followed.
-/
import TweeStory.Settings.Directive
import TweeStory.Text.Lines
import TweeStory.Text.UpperCase

namespace TweeStory

/-- The settings of a build, which a story may change. -/
structure BuildSettings where
  storyName : Text
  /-- The format that the story asks for, by name or by path. -/
  storyFormat : Option Text
  ifid : Text
  /-- Whether the IFID was set and not generated. -/
  ifidSpecified : Bool
  startPassage : Text
deriving DecidableEq, Repr

namespace BuildSettings

/-- The settings before a story is read, with the IFID that was generated. -/
def initial (ifid : Text) : BuildSettings where
  storyName := "Untitled Story".toList
  storyFormat := none
  ifid := ifid.upper
  ifidSpecified := false
  startPassage := "Start".toList

/-- The settings with a given IFID, which is kept in upper case. -/
def setIfid (settings : BuildSettings) (ifid : Text) : BuildSettings :=
  { settings with ifid := ifid.upper, ifidSpecified := true }

/-- The settings after a line of settings. -/
def set (settings : BuildSettings) (line : SettingLine) : BuildSettings :=
  match line.setting with
  | .name => { settings with storyName := line.value }
  | .format => { settings with storyFormat := some line.value }
  | .ifid => settings.setIfid line.value
  | .start => { settings with startPassage := line.value }

/-- What lines set, the first of them having number `n`, or the number of the first
line that cannot be followed and why. -/
def readLines (n : Nat) : List Text → Except (Nat × DirectiveError) (List SettingLine)
  | [] => .ok []
  | line :: rest =>
    match SettingLine.parse line with
    | .error e => .error (n, e)
    | .ok none => readLines (n + 1) rest
    | .ok (some set) => (readLines (n + 1) rest).map (set :: ·)

/-- The settings after a passage of settings.  If a line of it cannot be followed,
gives the number of the first such line, counting from 0, and why. -/
def apply (settings : BuildSettings) (content : Text) :
    Except (Nat × DirectiveError) BuildSettings :=
  (readLines 0 content.lines).map fun lines => lines.foldl set settings

end BuildSettings

end TweeStory
