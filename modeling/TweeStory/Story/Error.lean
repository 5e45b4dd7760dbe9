/-
Errors that end a compile.

* `CompileError`: what ends it;
* `CompileError.name`, `CompileError.origin?`, `CompileError.message`: its name, the
  line that it is about, and its words.
-/
import TweeStory.FileTree
import TweeStory.Settings.Directive
import TweeStory.Source.Line

namespace TweeStory

/-- What ends a compile. -/
inductive CompileError where
  /-- There is no root file. -/
  | notFound (path : Path)
  /-- The root file cannot be read. -/
  | unreadable (path : Path)
  /-- A line of settings cannot be followed. -/
  | directive (passage : Text) (origin : Option Origin) (error : DirectiveError)
deriving DecidableEq, Repr

namespace CompileError

/-- The error of a root file that gives no text. -/
def ofAccess (path : Path) : AccessError → CompileError
  | .notFound => notFound path
  | .unreadable => unreadable path

/-- The name of the error. -/
def name : CompileError → Text
  | notFound _ => "FileNotFound".toList
  | unreadable _ => "FileUnreadable".toList
  | directive .. => "ConfigurationDirective".toList

/-- The line that the error is about. -/
def origin? : CompileError → Option Origin
  | directive _ origin _ => origin
  | _ => none

/-- The words of the error. -/
def message : CompileError → Text
  | notFound path => "story file '".toList ++ path.text ++ "' not found".toList
  | unreadable path => "failed to read story file '".toList ++ path.text ++ "'".toList
  | directive passage _ error =>
    "invalid configuration in passage '".toList ++ passage ++ "': ".toList ++ error.message

end CompileError

end TweeStory
