/-
The options of the command line.

* `CommandLine.Switch`: the options without a value;
* `CommandLine.Parameter`: the options with values;
* `CommandLine.Key`: the option that a long name or a letter stands for.
-/
import TweeStory.Text.Basic

namespace TweeStory.CommandLine

/-- The options that have no value. -/
inductive Switch where
  /-- Prints problems one a line. -/
  | compact
  /-- Writes the data of the story without a format. -/
  | exportData
  /-- Lists the known formats. -/
  | listFormats
  /-- Prints problems and writes nothing. -/
  | lint
  /-- Opens the page after it is written. -/
  | openPage
deriving DecidableEq, Repr

/-- The options that have values. -/
inductive Parameter where
  /-- Warnings to ignore. -/
  | allow
  /-- Warnings to fail on. -/
  | deny
  /-- When to print in colour. -/
  | colour
  /-- The story format. -/
  | format
  /-- The file to write. -/
  | output
deriving DecidableEq, Repr

/-- Whether the option takes all values up to the next option, and not just one. -/
def Parameter.takesMany : Parameter → Bool
  | allow | deny => true
  | colour | format | output => false

/-- What an option asks for. -/
inductive Key where
  | switch (s : Switch)
  | parameter (p : Parameter)
  | help
  | version
deriving DecidableEq, Repr

/-- The long names of the options. -/
def longNames : List (Text × Key) :=
  [("allow".toList, .parameter .allow), ("color".toList, .parameter .colour),
    ("compact".toList, .switch .compact), ("deny".toList, .parameter .deny),
    ("export".toList, .switch .exportData), ("format".toList, .parameter .format),
    ("formats".toList, .switch .listFormats), ("help".toList, .help),
    ("lint".toList, .switch .lint), ("open".toList, .switch .openPage),
    ("output".toList, .parameter .output), ("version".toList, .version)]

/-- The letters of the options. -/
def letters : List (Char × Key) :=
  [('a', .parameter .allow), ('D', .parameter .deny), ('f', .parameter .format),
    ('L', .switch .lint), ('o', .parameter .output), ('h', .help), ('V', .version)]

/-- The option with a long name. -/
def Key.ofName? (name : Text) : Option Key :=
  longNames.lookup name

/-- The option with a letter. -/
def Key.ofLetter? (letter : Char) : Option Key :=
  letters.lookup letter

/-- What is printed for help. -/
def helpText : Text :=
  ("USAGE:\n" ++
  "    tweeforge [OPTIONS] <INPUT>\n" ++
  "\n" ++
  "OPTIONS:\n" ++
  "    -a, --allow <NAME>...    Warnings to ignore, or all of them\n" ++
  "        --color <WHEN>       When to print in colour: always, ansi, auto or never\n" ++
  "        --compact            Prints problems one a line\n" ++
  "    -D, --deny <NAME>...     Warnings to fail on, or all of them\n" ++
  "        --export             Writes the data of the story without a format\n" ++
  "    -f, --format <FORMAT>    The story format, by name or by file\n" ++
  "        --formats            Lists the known story formats\n" ++
  "    -h, --help               Prints this text\n" ++
  "    -L, --lint               Prints problems and writes nothing\n" ++
  "        --open               Opens the page after it is written\n" ++
  "    -o, --output <FILE>      The file to write\n" ++
  "    -V, --version            Prints the version\n").toList

end TweeStory.CommandLine
