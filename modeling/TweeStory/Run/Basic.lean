/-
A run of the program, from its command line to what it prints and writes.

* `RunOutcome`: what a run prints, the file tree after it, and why it failed;
* `Configuration.page`: the page of a story;
* `Configuration.deliver`: writes the page;
* `Configuration.build`: compiles a story, prints its problems and writes its page;
* `run`: a whole run.

Nothing is written before all problems are known, so that a run that fails leaves
the files as they were.
-/
import TweeStory.Preprocess.Standard
import TweeStory.Report.Issue
import TweeStory.Run.Error
import TweeStory.Run.Output
import TweeStory.Story.Document
import TweeStory.Story.Links

namespace TweeStory

/-- What a run prints, the file tree after it, and why it failed, if it did. -/
structure RunOutcome where
  printed : List Terminal.Item
  /-- When that is printed in colour. -/
  colour : ColourChoice
  tree : FileTree
  failure : Option RunError
  /-- The page that is to be opened after the run. -/
  toOpen : Option Path
deriving Repr

namespace RunOutcome

/-- The exit code of the run. -/
def exitCode (outcome : RunOutcome) : Nat :=
  match outcome.failure with
  | none => 0
  | some e => e.exitCode

/-- The text that the run prints to a terminal or to a file. -/
def text (outcome : RunOutcome) (isTerminal : Bool) : Text :=
  if outcome.colour.isColoured isTerminal then Terminal.ansi outcome.printed
  else Terminal.plain outcome.printed

end RunOutcome

namespace Configuration

/-! ### The page -/

/-- The page of a story: its data alone if that is asked for, and else the template of
the format with the data in it. -/
def page (config : Configuration) (tree : FileTree) (settings : BuildSettings)
    (story : Story) : Except RunError Text :=
  let data := story.document settings
  if config.arguments.exportData then
    .ok (story.fill data (settings.storyFormat.getD []) [])
  else
    let file := config.formatFile settings.storyFormat
    match StoryFormat.load tree file with
    | .error e => .error (.format file e)
    | .ok format =>
      .ok (format.render settings.storyName (story.fill data format.name format.version))

/-- What is printed about a target whose name is not that of the story. -/
def nameWarning (target : Target) (storyName : Text) : List Terminal.Item :=
  Terminal.styled (.strong .yellow) "Warning: ".toList ++
    [.text ("output file name ".toList ++ target.path.text ++
      " does not match the story name ".toList ++ storyName ++ ['\n'])]

/-- What is printed about a page that was written. -/
def writtenNotice (target : Target) : List Terminal.Item :=
  Terminal.styled (.plain .green) ("Wrote ".toList ++ target.path.text ++ ['\n'])

/-- The file tree with the directory that a target needs.  The error comes with the
tree that the failure leaves. -/
def prepare (tree : FileTree) (target : Target) : Except (FileTree × RunError) FileTree :=
  match target.directory? with
  | none => .ok tree
  | some dir =>
    match tree.makeDirectories dir with
    | .ok made => .ok made
    | .error left => .error (left, .outputDirectory dir)

/-- The file tree with the page in it, with a line feed at the end of the page. -/
def writePage (tree : FileTree) (target : Target) (page : Text) : FileTree × Option RunError :=
  match prepare tree target with
  | .error (left, e) => (left, some e)
  | .ok tree =>
    match tree.write? target.path (page ++ ['\n']) with
    | some tree => (tree, none)
    | none => (tree, some (.outputFile target.path))

/-! ### The run -/

/-- The outcome of a run that ends with what was printed. -/
def finish (config : Configuration) (printed : List Terminal.Item) (tree : FileTree)
    (failure : Option RunError) : RunOutcome :=
  ⟨printed, config.arguments.colour, tree, failure, none⟩

/-- Writes the page of a story. -/
def deliver (config : Configuration) (printed : List Terminal.Item) (tree : FileTree)
    (storyName page : Text) : RunOutcome :=
  let target := config.target tree storyName
  let printed := printed ++ if target.isNamed then [] else nameWarning target storyName
  match writePage tree target page with
  | (tree, some e) => config.finish printed tree (some e)
  | (tree, none) =>
    { config.finish (printed ++ writtenNotice target) tree none with
      toOpen := if config.arguments.openPage then some target.path else none }

/-- Compiles a story, prints its problems, and writes its page if no problem is an
error. -/
def build (config : Configuration) (ifid : Text) (tree : FileTree) (input : Path) :
    RunOutcome :=
  let c := compile tree .standard (.initial ifid) input
  let config := config.selectFormat c.settings.storyFormat
  let report := config.policy.report c.sources config.arguments.compact
  match c.story with
  | .error e => config.finish (report (some e) c.warnings).1 tree (some .problems)
  | .ok story =>
    let (printed, fails) := report none (c.warnings ++ story.checkLinks.2)
    if fails then config.finish printed tree (some .problems)
    else if config.arguments.lint then config.finish printed tree none
    else
      match config.page tree c.settings story with
      | .error e => config.finish printed tree (some e)
      | .ok page => config.deliver printed tree c.settings.storyName page

/-- The list of the known formats. -/
def formatList (config : Configuration) : List Terminal.Item :=
  let names := (config.formats.map Prod.fst).mergeSort fun s t => !Text.precedes t s
  .text "Known story formats:\n".toList ::
    names.map fun name => .text (' ' :: ' ' :: name ++ ['\n'])

/-- The run that a configuration asks for. -/
def run (config : Configuration) (ifid : Text) (tree : FileTree) : RunOutcome :=
  if config.arguments.listFormats then config.finish config.formatList tree none
  else
    match config.arguments.input with
    | none => config.finish [] tree (some .noInput)
    | some input => config.build ifid tree input

end Configuration

/-- The line that tells the version. -/
def versionLine : Text := creatorName ++ ' ' :: creatorVersion ++ ['\n']

/-- The run that the words of a command line ask for, an IFID having been generated. -/
def run (env : Environment) (ifid : Text) (words : List Text) (tree : FileTree) : RunOutcome :=
  match ConfigFile.load env tree with
  | (tree, .error e) => ⟨[], .never, tree, some (.config e), none⟩
  | (tree, .ok file) =>
    match Arguments.ofTexts words with
    | .error .usage => ⟨[], .never, tree, some .usage, none⟩
    | .error .help => ⟨[.text CommandLine.helpText], .never, tree, none, none⟩
    | .error .version => ⟨[.text versionLine], .never, tree, none, none⟩
    | .ok arguments => (Configuration.layer file arguments).run ifid tree

end TweeStory
