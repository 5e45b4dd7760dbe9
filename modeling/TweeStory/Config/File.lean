/-
The configuration file.

* `Policy`: the warnings to ignore and to fail on;
* `ConfigFile`: the story formats that were found, and policies by format;
* `findFormats`: the formats in the directories that the file lists;
* `ConfigFile.ofJson`: the configuration that a text gives;
* `ConfigFile.load`: the configuration of the user, written first if it is not
  there.
-/
import TweeStory.Config.Variables
import TweeStory.FileTree
import TweeStory.Json.Comments
import TweeStory.Json.Decode
import TweeStory.Text.Quoted

namespace TweeStory

/-- The names of warnings to ignore and of warnings to fail on. -/
structure Policy where
  allow : List Text
  deny : List Text
deriving DecidableEq, Repr

namespace Policy

/-- Both lists with those of another policy at their ends. -/
def append (p q : Policy) : Policy :=
  ⟨p.allow ++ q.allow, p.deny ++ q.deny⟩

/-- The policy that a JSON value describes. -/
def ofJson? (json : Json) : Option Policy := do
  match ← json.record? ["allow".toList, "deny".toList] with
  | [allow, deny] =>
    return ⟨← Json.optional? Json.texts? [] allow, ← Json.optional? Json.texts? [] deny⟩
  | _ => none

end Policy

/-- What the configuration file says. -/
structure ConfigFile where
  /-- The files of the formats that were found, by name. -/
  formats : List (Text × Path)
  /-- The policies by the name of the format, `default` for all formats. -/
  policies : List (Text × Policy)
deriving Repr

/-- Why there is no configuration. -/
inductive ConfigError where
  /-- The text is no JSON of the right shape. -/
  | malformed
  /-- A path holds a variable without a value. -/
  | inPath (path : Text) (error : VariableError)
  /-- The directory for the file is not known. -/
  | noDirectory
  /-- The directory for the file cannot be made. -/
  | directory (path : Path)
  /-- The file cannot be made. -/
  | create
  /-- The file cannot be read. -/
  | unreadable (path : Path)
  /-- The text of the file gives no configuration. -/
  | inFile (path : Path) (error : ConfigError)
deriving Repr

/-- Whether the error is one of the text's JSON. -/
def ConfigError.isMalformed : ConfigError → Bool
  | malformed => true
  | inFile _ e => e.isMalformed
  | _ => false

/-- The words of the error and of what caused it, the outermost first. -/
def ConfigError.messages : ConfigError → List Text
  | malformed => ["The configuration is not valid JSON".toList]
  | inPath path e => ["Error while parsing ".toList ++ path, e.message]
  | noDirectory => ["Error getting config directory".toList]
  | directory path => ["Error creating config directory: ".toList ++ path.text.quoted]
  | create => ["The config file cannot be created".toList]
  | unreadable path => ["Error reading config file ".toList ++ path.text.quoted]
  | inFile path e => ("Error in config file ".toList ++ path.text.quoted) :: e.messages

/-! ### Formats -/

/-- The name of the file that makes a directory a story format. -/
def formatFileName : Text := "format.js".toList

/-- The formats with those in a directory, one for each directory in it that has a
format file.  A name that is there already keeps its file. -/
def findFormats (tree : FileTree) (formats : List (Text × Path)) (dir : Path) :
    List (Text × Path) :=
  (tree.list dir).foldl (fun formats name =>
    let file := (dir.join name).join formatFileName
    if tree.isFile file && !(formats.any fun entry => entry.1 = name) then
      formats ++ [(name, file)]
    else formats) formats

/-- The formats in the directories that paths lead to, the earlier path first.  The
variables of a path are replaced before it is followed. -/
def findAllFormats (env : Environment) (tree : FileTree) (formats : List (Text × Path)) :
    List Text → Except ConfigError (List (Text × Path))
  | [] => .ok formats
  | path :: rest =>
    match expandVariables env path with
    | .error e => .error (.inPath path e)
    | .ok dir => findAllFormats env tree (findFormats tree formats ⟨dir⟩) rest

/-! ### Reading -/

/-- The entries with `value` under `key`, in the place of what the key had. -/
def putPolicy (key : Text) (value : Policy) : List (Text × Policy) → List (Text × Policy)
  | [] => [(key, value)]
  | (k, v) :: rest => if k = key then (key, value) :: rest else (k, v) :: putPolicy key value rest

/-- The paths and the policies that a JSON value gives.  Of the policies under one
name the last counts. -/
def readConfig? (json : Json) : Option (List Text × List (Text × Policy)) := do
  match ← json.record? ["format_paths".toList, "format_configs".toList] with
  | [some paths, some policies] =>
    let paths ← paths.texts?
    let entries ← policies.entries?
    let policies ← entries.mapM fun (name, value) =>
      (Policy.ofJson? value).map fun policy => (name, policy)
    return (paths, policies.foldl (fun table (name, policy) => putPolicy name policy table) [])
  | _ => none

namespace ConfigFile

/-- The configuration that a text gives, the formats found in a file tree. -/
def ofJson (env : Environment) (tree : FileTree) (contents : Text) :
    Except ConfigError ConfigFile :=
  match ((Json.stripComments? contents).bind Json.parse?).bind readConfig? with
  | none => .error .malformed
  | some (paths, policies) =>
    (findAllFormats env tree [] paths).map fun formats => ⟨formats, policies⟩

/-- The directories that a text tells to look for formats in, as far as their variables
have values. -/
def directories (env : Environment) (contents : Text) : List Path :=
  match ((Json.stripComments? contents).bind Json.parse?).bind readConfig? with
  | none => []
  | some (paths, _) =>
    paths.filterMap fun path =>
      match expandVariables env path with
      | .ok dir => some ⟨dir⟩
      | .error _ => none

/-- The text that a configuration file is made with. -/
def defaultText : Text :=
  ("// This file defines the configuration for tweeforge\n" ++
  "// It is mostly standard JSON, but supports //, /**/, and # style comments.\n" ++
  "//\n" ++
  "// For path related configuration, tweeforge defines several special variables\n" ++
  "// that can be used to specify locations:\n" ++
  "// * $TWEEFORGE_BIN_DIR: directory in which the tweeforge executable is located\n" ++
  "// * $TWEEFORGE_DATA_DIR: tweeforge's system data dir (OS-specific)\n" ++
  "// * $PWD: directory from which tweeforge is being invoked\n" ++
  "// * $HOME: user's home directory (~ is not currently supported)\n" ++
  "//\n" ++
  "// Arbitrary environment variables are not currently supported\n" ++
  "\x7b\n" ++
  "  // Directories to search for story formats in. Each format lives in its own\n" ++
  "  // directory containing a format.js, and is known by the directory's name\n" ++
  "  \"format_paths\": [\n" ++
  "    \"$TWEEFORGE_DATA_DIR/storyformats\",\n" ++
  "    \"$TWEEFORGE_BIN_DIR/storyformats\",\n" ++
  "    \"$HOME/.storyformats\",\n" ++
  "    \"$PWD/storyformats\"\n" ++
  "  ],\n" ++
  "  \"format_configs\": \x7b\n" ++
  "    // This is the default configuration which other configurations will be\n" ++
  "    // layered over. Items in story format-specific chunks are appended to\n" ++
  "    // the values given here.\n" ++
  "    \"default\": \x7b\n" ++
  "      // Warnings to ignore (\"allow\"), e.g. \"MissingIfid\"\n" ++
  "      \"allow\": [],\n" ++
  "      // Warnings to treat as errors (\"deny\"), e.g. \"DuplicatePassage\"\n" ++
  "      \"deny\": []\n" ++
  "    \x7d\n" ++
  "  \x7d\n" ++
  "\x7d").toList

/-- The place of the configuration file inside the directory for such files. -/
def fileName : Text := "tweeforge/config.json".toList

/-- The path of the configuration file. -/
def path? (env : Environment) : Option Path :=
  env.configDirectory.map fun dir => Path.join ⟨dir⟩ fileName

/-- The text of the configuration file, which is made first if it is not there,
and the tree after that.  Directories that were made for it stay if it cannot be
made itself. -/
def loadText (tree : FileTree) (path : Path) : FileTree × Except ConfigError Text :=
  if (tree.find? path).isSome then
    match tree.read path with
    | .ok contents => (tree, .ok contents)
    | .error _ => (tree, .error (.unreadable path))
  else
    match path.parent? with
    | none => (tree, .error .create)
    | some dir =>
      match tree.makeDirectories dir with
      | .error left => (left, .error (.directory dir))
      | .ok made =>
        match made.write? path defaultText with
        | none => (made, .error .create)
        | some written => (written, .ok defaultText)

/-- The configuration of the user, and the tree after its file was made. -/
def load (env : Environment) (tree : FileTree) :
    FileTree × Except ConfigError ConfigFile :=
  match path? env with
  | none => (tree, .error .noDirectory)
  | some path =>
    match loadText tree path with
    | (tree, .error e) => (tree, .error e)
    | (tree, .ok contents) =>
      match ofJson env tree contents with
      | .ok config => (tree, .ok config)
      | .error e => (tree, .error (.inFile path e))

end ConfigFile

end TweeStory
