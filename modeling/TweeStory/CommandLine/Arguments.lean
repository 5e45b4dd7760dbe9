/-
What a command line asks for.

* `Arguments`: the wishes of a command line;
* `CommandLine.Reading`: what has been read of a command line so far;
* `Arguments.ofTexts`: the wishes that the words of a command line express, or why
  they express none.

An option with values takes the words after it.  One that takes many values takes
all words up to the next option; a word `--` ends the options.
-/
import TweeStory.CommandLine.Option
import TweeStory.Config.File

namespace TweeStory

/-- When to print in colour. -/
inductive ColourChoice where
  /-- Always, in the way of the terminal. -/
  | always
  /-- Always, with escape codes. -/
  | alwaysAnsi
  /-- On a terminal only. -/
  | onTerminal
  | never
deriving DecidableEq, Repr

/-- The wishes of a command line. -/
structure Arguments where
  lint : Bool
  exportData : Bool
  listFormats : Bool
  /-- The root file of the story. -/
  input : Option Path
  /-- The name of a format, or the path of its file. -/
  format : Option Text
  /-- The path of the file to write. -/
  output : Option Text
  openPage : Bool
  /-- The warnings to ignore and to fail on. -/
  policy : Policy
  colour : ColourChoice
  compact : Bool
deriving Repr

/-- Why a command line is not followed. -/
inductive Refusal where
  /-- It is not well formed. -/
  | usage
  /-- It asks for help. -/
  | help
  /-- It asks for the version. -/
  | version
deriving DecidableEq, Repr

namespace CommandLine

/-! ### Reading words -/

/-- What has been read of a command line. -/
structure Reading where
  /-- The options given without a value, in order. -/
  switches : List Switch
  /-- The options given with values, in order. -/
  parameters : List Parameter
  /-- The values of the options, in order. -/
  values : List (Parameter × Text)
  /-- The words that belong to no option, in order. -/
  inputs : List Text
  /-- The option that the next word may be a value of. -/
  awaiting : Option Parameter
  /-- Whether options have ended. -/
  ended : Bool
deriving DecidableEq, Repr

namespace Reading

/-- Nothing has been read. -/
def start : Reading := ⟨[], [], [], [], none, false⟩

/-- A word that belongs to no option. -/
def addInput (r : Reading) (word : Text) : Reading :=
  { r with inputs := r.inputs ++ [word], awaiting := none }

/-- A value of an option.  The next word is one too if the option takes many. -/
def addValue (r : Reading) (p : Parameter) (value : Text) : Reading :=
  { r with
    values := r.values ++ [(p, value)]
    awaiting := if p.takesMany then some p else none }

/-- An option without a value. -/
def addSwitch (r : Reading) (s : Switch) : Reading :=
  { r with switches := r.switches ++ [s], awaiting := none }

/-- An option with values, the first of which may come with it.  After an equals
sign no further values come. -/
def addParameter (r : Reading) (p : Parameter) (attached : Option Text) : Reading :=
  let r := { r with parameters := r.parameters ++ [p], awaiting := some p }
  match attached with
  | none => r
  | some value =>
    let after := (r.addValue p (value.dropWhile (· == '=')))
    if Text.beginsWith value ['='] then { after with awaiting := none } else after

end Reading

/-- Letters in one word.  The letters after that of an option with values are its
value. -/
def readLetters (r : Reading) : Text → Except Refusal Reading
  | [] => .ok r
  | c :: rest =>
    match Key.ofLetter? c with
    | none => .error .usage
    | some .help => .error .help
    | some .version => .error .version
    | some (.switch s) => readLetters (r.addSwitch s) rest
    | some (.parameter p) => .ok (r.addParameter p (if rest = [] then none else some rest))

/-- A long name, with the value after the first equals sign if there is one. -/
def readName (r : Reading) (word : Text) : Except Refusal Reading :=
  let name := word.takeWhile (· ≠ '=')
  let rest := word.dropWhile (· ≠ '=')
  match Key.ofName? name with
  | none => .error .usage
  | some .help => .error .help
  | some .version => .error .version
  | some (.switch s) => .ok (r.addSwitch s)
  | some (.parameter p) => .ok (r.addParameter p (if rest = [] then none else some rest))

/-- The next word of a command line. -/
def readWord (r : Reading) (word : Text) : Except Refusal Reading :=
  if r.ended then .ok (r.addInput word)
  else if word = ['-', '-'] then .ok { r with ended := true }
  else if word.beginsWith ['-', '-'] then readName r (word.dropWhile (· == '-'))
  else if word.beginsWith ['-'] && word ≠ ['-'] then readLetters r word.tail
  else
    match r.awaiting with
    | some p => .ok (r.addValue p word)
    | none => if r.inputs = [] then .ok (r.addInput word) else .error .usage

/-- The words of a command line in order. -/
def readWords (r : Reading) : List Text → Except Refusal Reading
  | [] => .ok r
  | word :: rest =>
    match readWord r word with
    | .error e => .error e
    | .ok r => readWords r rest

/-! ### The meaning of what was read -/

namespace Reading

/-- The values of an option. -/
def valuesOf (r : Reading) (p : Parameter) : List Text :=
  (r.values.filter fun entry => entry.1 = p).map Prod.snd

/-- Whether an option without a value was given. -/
def has (r : Reading) (s : Switch) : Bool :=
  r.switches.contains s

/-- Whether an option with values was given. -/
def hasParameter (r : Reading) (p : Parameter) : Bool :=
  r.parameters.contains p

/-- Whether every option was given as often as it may be, and with values if it
takes any. -/
def isComplete (r : Reading) : Bool :=
  r.switches.Nodup && (r.parameters.filter fun p => !p.takesMany).Nodup &&
    r.parameters.all fun p => !(r.valuesOf p).isEmpty

/-- Whether options were given that exclude each other. -/
def isContradictory (r : Reading) : Bool :=
  r.has .lint && (r.has .exportData || r.has .openPage || r.hasParameter .output)

/-- Whether there is just one input, or none where none is needed. -/
def hasInput (r : Reading) : Bool :=
  match r.inputs with
  | [] => r.has .listFormats
  | [_] => true
  | _ => false

end Reading

end CommandLine

/-- The choice that a word expresses. -/
def ColourChoice.ofText (word : Text) : ColourChoice :=
  if word = "always".toList then always
  else if word = "ansi".toList then alwaysAnsi
  else if word = "auto".toList then onTerminal
  else never

/-- Whether a choice leads to colours on a terminal or elsewhere. -/
def ColourChoice.isColoured (isTerminal : Bool) : ColourChoice → Bool
  | always | alwaysAnsi => true
  | onTerminal => isTerminal
  | never => false

namespace Arguments

/-- The wishes that a well-formed command line expresses. -/
def ofReading (r : CommandLine.Reading) : Arguments where
  lint := r.has .lint
  exportData := r.has .exportData
  listFormats := r.has .listFormats
  input := r.inputs.head?.map Path.mk
  format := (r.valuesOf .format).head?
  output := (r.valuesOf .output).head?
  openPage := r.has .openPage
  policy := ⟨r.valuesOf .allow, r.valuesOf .deny⟩
  colour :=
    match (r.valuesOf .colour).head? with
    | some word => .ofText word
    | none => .onTerminal
  compact := r.has .compact

/-- The wishes that the words of a command line express. -/
def ofTexts (words : List Text) : Except Refusal Arguments :=
  match CommandLine.readWords .start words with
  | .error e => .error e
  | .ok r =>
    if r.isComplete && !r.isContradictory && r.hasInput then .ok (ofReading r)
    else .error .usage

end Arguments

end TweeStory
