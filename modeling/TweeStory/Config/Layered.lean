/-
The configuration of a run: the configuration file with the command line over it.

* `Configuration`: the wishes of the command line, the known formats and policies,
  and the policy in force;
* `Configuration.layer`: the configuration before the format of the story is known;
* `Configuration.selectFormat`: the configuration with the policy of the format;
* `Configuration.formatFile`: the file of the format.
-/
import TweeStory.CommandLine.Arguments

namespace TweeStory

/-- The configuration of a run. -/
structure Configuration where
  arguments : Arguments
  /-- The files of the known formats, by name. -/
  formats : List (Text × Path)
  /-- Policies by the name of the format. -/
  policies : List (Text × Policy)
  /-- The policy in force. -/
  policy : Policy
deriving Repr

namespace Configuration

/-- The name of the policy for all formats. -/
def defaultName : Text := "default".toList

/-- The configuration with the policy under a name at the end of the policy in
force, if there is one. -/
def addPolicy (config : Configuration) (name : Text) : Configuration :=
  match config.policies.lookup name with
  | some policy => { config with policy := config.policy.append policy }
  | none => config

/-- The configuration that a file and a command line give.  The policy in force is
that of the command line and then that for all formats. -/
def layer (file : ConfigFile) (arguments : Arguments) : Configuration :=
  addPolicy ⟨arguments, file.formats, file.policies, arguments.policy⟩ defaultName

/-- The format in force: the choice of the story before that of the command line. -/
def formatInForce (config : Configuration) (storyFormat : Option Text) : Option Text :=
  storyFormat.or config.arguments.format

/-- The configuration with the policy of the format in force. -/
def selectFormat (config : Configuration) (storyFormat : Option Text) : Configuration :=
  match config.formatInForce storyFormat with
  | some name => config.addPolicy name
  | none => config

/-- The file of the format where none is in force. -/
def defaultFormatFile : Path := .ofString "format.js"

/-- The file of the format in force.  What is no name of a known format is a path. -/
def formatFile (config : Configuration) (storyFormat : Option Text) : Path :=
  match config.formatInForce storyFormat with
  | some name => (config.formats.lookup name).getD ⟨name⟩
  | none => defaultFormatFile

end Configuration

end TweeStory
