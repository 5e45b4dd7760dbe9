/-
Where the page of a story goes.

* `Target`: the path of a page's file, and how it came about;
* `Target.directory?`: the directory that the page needs;
* `Configuration.target`: where the page goes.
-/
import TweeStory.Config.Layered

namespace TweeStory

/-- The ending of the names of pages. -/
def pageEnding : Text := ".html".toList

/-- Where a page goes. -/
structure Target where
  path : Path
  /-- Whether the directories on the way are made. -/
  makesDirectory : Bool
  /-- Whether the name of the file is that of the story, as far as it should be. -/
  isNamed : Bool
deriving DecidableEq, Repr

/-- The name of a page's file without its ending. -/
def Path.pageName (path : Path) : Text :=
  let name := path.fileName?.getD []
  (Text.beforeEnd? pageEnding name).getD name

namespace Target

/-- The target in the working directory. -/
def standard (storyName : Text) : Target :=
  ⟨⟨storyName ++ pageEnding⟩, false, true⟩

/-- The target of an export to a path.  A directory that is there gets a file named
for the story. -/
def ofExport (tree : FileTree) (path : Path) (storyName : Text) : Target :=
  if tree.isDirectory path then ⟨path.join (storyName ++ pageEnding), true, true⟩
  else ⟨path, true, path.pageName = storyName⟩

/-- The directory that has to be there for the page. -/
def directory? (target : Target) : Option Path :=
  if target.makesDirectory then target.path.parent?.filter fun dir => dir.text ≠ [] else none

end Target

/-- Where the page of a story goes. -/
def Configuration.target (config : Configuration) (tree : FileTree) (storyName : Text) :
    Target :=
  match config.arguments.output with
  | none => .standard storyName
  | some output =>
    if config.arguments.exportData then .ofExport tree ⟨output⟩ storyName
    else ⟨⟨output⟩, false, true⟩

end TweeStory
