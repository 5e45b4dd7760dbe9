/-
What a run looks at in a file tree, so that a part of the tree is enough for it.

* `soughtPaths`: the paths that a run looks at without finding them, and those that it
  writes to;
* `FileTree.changes`: what a later tree has that an earlier one has not.

A run over a part of a file tree asks for more of it.  Once nothing that it asks for is
outside of the part, the run is the one over the whole tree.
-/
import TweeStory.Run.Basic

namespace TweeStory

/-- The path of an include that was not found. -/
def Warning.missingPath? (w : Warning) : Option Path :=
  match w.kind with
  | .missingInclude path => some ⟨path⟩
  | _ => none

/-- The paths that the build of a story looks at, apart from files that it found. -/
def Configuration.soughtPaths (config : Configuration) (ifid : Text) (tree : FileTree) :
    List Path :=
  match config.arguments.input with
  | none => []
  | some input =>
    let c := compile tree .standard (.initial ifid) input
    input :: c.warnings.filterMap Warning.missingPath? ++
      [config.formatFile c.settings.storyFormat,
        (config.target tree c.settings.storyName).path] ++
      (config.arguments.output.map Path.mk).toList

/-- The paths that the run looks at that the words of a command line ask for. -/
def soughtPaths (env : Environment) (ifid : Text) (words : List Text) (tree : FileTree) :
    List Path :=
  match ConfigFile.load env tree, Arguments.ofTexts words with
  | (tree, .ok file), .ok arguments => (Configuration.layer file arguments).soughtPaths ifid tree
  | _, _ => []

/-- The entries of a later tree that an earlier one has not. -/
def FileTree.changes (earlier later : FileTree) : List (Location × Entry) :=
  later.entries.filter fun (loc, entry) => earlier.at? loc ≠ some entry

end TweeStory
