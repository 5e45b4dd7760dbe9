/-
Why a run fails.

* `RunError`: the causes;
* `RunError.message`: the words of a cause;
* `RunError.exitCode`: the exit code of a run that fails for a cause.
-/
import TweeStory.CommandLine.Arguments
import TweeStory.Format.File

namespace TweeStory

/-- Why a run fails. -/
inductive RunError where
  /-- There is no configuration. -/
  | config (e : ConfigError)
  /-- The command line is not well formed. -/
  | usage
  /-- The command line names no story. -/
  | noInput
  /-- The story does not compile, or has a problem that counts as an error. -/
  | problems
  /-- The file of the format gives no format. -/
  | format (path : Path) (e : FormatFileError)
  /-- The directory of the page cannot be made. -/
  | outputDirectory (path : Path)
  /-- The page cannot be written. -/
  | outputFile (path : Path)
deriving Repr

namespace RunError

/-- The words of the cause. -/
def message : RunError → Text
  | config e => e.messages.headD []
  | usage => "The command line is not well formed".toList
  | noInput => "No input file given".toList
  | problems => "Failed due to previous errors".toList
  | format path _ => "Failed to parse story format file: ".toList ++ path.text.quoted
  | outputDirectory path => "Failed to create output directory ".toList ++ path.text
  | outputFile path => "Failed to create output file ".toList ++ path.text

/-- The exit code of the run.  A format file whose object ends before it begins has
one of its own. -/
def exitCode : RunError → Nat
  | format _ (.inSource .crossed) => 101
  | _ => 1

end RunError

end TweeStory
