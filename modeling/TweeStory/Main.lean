/-
The program.

The run itself is a function on file trees.  What is here reads as much of the files as
the run looks at, and afterwards writes the files that it changed and prints what it
printed.  A page is not opened, for want of a program to open it with.
-/
import TweeStory.Run.Lookup
import TweeStory.Settings.Ifid

namespace TweeStory.Program

/-- The text of a path as the system takes it. -/
def systemPath (p : Path) : String := String.ofList p.text

/-- The path from the root to a location. -/
def locationPath (loc : Location) : Path :=
  ⟨'/' :: Text.join ['/'] loc⟩

/-- A variable of the environment that is an absolute path. -/
def readVariable (name : String) : IO (Option Text) := do
  let value ← IO.getEnv name
  return value.bind fun v => if v.startsWith "/" then some v.toList else none

/-- The places that a run depends on. -/
def environment : IO Environment := do
  let home ← readVariable "HOME"
  let inHome := fun (rest : String) => home.map fun dir => (Path.join ⟨dir⟩ rest.toList).text
  let data := (← readVariable "XDG_DATA_HOME").or (inHome ".local/share")
  let config := (← readVariable "XDG_CONFIG_HOME").or (inHome ".config")
  let program := Path.ofString (← IO.appPath).toString
  return {
    home := home
    workingDirectory := some (← IO.currentDir).toString.toList
    programDirectory := program.parent?.map (·.text)
    dataDirectory := data.map fun dir => (Path.join ⟨dir⟩ creatorName).text
    configDirectory := config }

/-- The names in a directory, if the path leads to one. -/
def directory? (p : Path) : IO (Option (List Text)) :=
  try
    let entries ← (← IO.FS.realPath (systemPath p)).readDir
    return some (entries.toList.map fun entry => entry.fileName.toList)
  catch _ => return none

/-- What stands at a path, if anything does. -/
def standing? (p : Path) : IO (Option Entry) := do
  if (← directory? p).isSome then return some .directory
  try
    let bytes ← IO.FS.readBinFile (systemPath p)
    return some ((String.fromUTF8? bytes).elim Entry.binary fun s => .text s.toList)
  catch
    | .noFileOrDirectory .. => return none
    | _ => return some .binary

/-- The tree with what stands at the places that pieces of a path lead to. -/
def observePieces (tree : FileTree) (loc : Location) : List Text → IO FileTree
  | [] => return tree
  | piece :: rest => do
    if piece = [] || piece = ['.'] then observePieces tree loc rest
    else if piece = ['.', '.'] then observePieces tree loc.dropLast rest
    else
      let loc := loc ++ [piece]
      if (tree.at? loc).isSome then observePieces tree loc rest
      else
        match ← standing? (locationPath loc) with
        | some entry => observePieces (tree.put loc entry) loc rest
        | none => return tree

/-- The tree with what stands where a path leads, and on the way. -/
def observe (tree : FileTree) (p : Path) : IO FileTree :=
  if FileTree.isWellFormed p then
    observePieces tree (tree.origin p) (p.text.pieces (· == '/'))
  else return tree

/-- The tree with the story formats in a directory. -/
def observeFormats (tree : FileTree) (dir : Path) : IO FileTree := do
  let names := (← directory? dir).getD []
  names.foldlM (fun tree name => observe tree ((dir.join name).join formatFileName)) tree

/-- The tree with the configuration file and the formats that it leads to. -/
def observeConfig (env : Environment) (tree : FileTree) : IO FileTree :=
  match ConfigFile.path? env with
  | none => return tree
  | some path => do
    let tree ← observe tree path
    let contents := (tree.read path).toOption.getD ConfigFile.defaultText
    (ConfigFile.directories env contents).foldlM observeFormats tree

/-- The tree with all that a run looks at. -/
partial def observeRun (env : Environment) (ifid : Text) (words : List Text)
    (tree : FileTree) : IO FileTree := do
  let grown ← (soughtPaths env ifid words tree).foldlM observe tree
  if grown.entries.length = tree.entries.length then return tree
  else observeRun env ifid words grown

/-- Writes what a run changed. -/
def writeChanges (earlier later : FileTree) : IO Unit :=
  (earlier.changes later).forM fun (loc, entry) => do
    let place := systemPath (locationPath loc)
    match entry with
    | .directory => IO.FS.createDir place
    | .text contents => IO.FS.writeFile place (String.ofList contents)
    | .binary => return

/-- Runs the program, and gives its exit code. -/
def start (words : List Text) : IO UInt32 := do
  let env ← environment
  let bytes ← IO.getRandomBytes 16
  let ifid := Ifid.ofBytes (bytes.toList.map UInt8.toNat)
  let here := (env.workingDirectory.getD []).pieces (· == '/') |>.filter (· ≠ [])
  let above := (List.range here.length).map fun n => here.take (n + 1)
  let empty : FileTree := ⟨above.map fun loc => (loc, .directory), here⟩
  let tree ← observeRun env ifid words (← observeConfig env empty)
  let outcome := run env ifid words tree
  writeChanges tree outcome.tree
  IO.print (String.ofList (outcome.text (← (← IO.getStdout).isTty)))
  match outcome.failure, outcome.toOpen with
  | none, none => return 0
  | none, some page =>
    IO.eprintln ("Error: Failed to open output file " ++ systemPath page)
    return 1
  | some e, _ =>
    IO.eprintln ("Error: " ++ String.ofList e.message)
    return UInt32.ofNat e.exitCode

end TweeStory.Program

/-- The program. -/
def main (args : List String) : IO UInt32 :=
  TweeStory.Program.start (args.map String.toList)
