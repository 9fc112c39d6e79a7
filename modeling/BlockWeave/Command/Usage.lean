import BlockWeave.Command.Arguments

/-! # The commands and their arguments

The program has a command to build a file and one to list the encodings. For each of
them, and for the program as a whole, this module has the arguments that are taken and
the texts that explain them. -/

namespace BlockWeave.Command

/-- A program or a command with the texts about it. -/
structure Manual (ι : Type) where
  name : String
  grammar : Grammar ι
  /-- The form of the command line. -/
  usage : String
  /-- What follows the form in the help text. -/
  details : String

/-- The version of the program. -/
def version : String := "1.0.0"

/-- The option that shows the help text. -/
def helpSwitch {ι : Type} : Switch ι :=
  ⟨[['-', 'h'], ['-', '-', 'h', 'e', 'l', 'p']], .help⟩

/-- An option with its spellings. -/
def switch {ι : Type} (spellings : List String) (effect : Effect ι) : Switch ι :=
  ⟨spellings.map String.toList, effect⟩

/-- The options of the command that builds a file. -/
inductive BuildOption where
  | json
  | verbose
  | config
  | output
  | remove
  | trigger
  | noClean
  deriving Repr, DecidableEq

/-- The options of the command that lists the encodings. -/
inductive ListingOption where
  | json
  deriving Repr, DecidableEq

/-- The program as a whole. -/
def program : Manual Empty where
  name := "jdists"
  grammar := ⟨[helpSwitch, switch ["--version"] .version], .command⟩
  usage := "usage: jdists [-h] [--version] <command> ...\n"
  details := "
Expand <!--tag--> and /*<tag>*/ marker blocks in source files.

options:
  -h, --help  show this help message and exit
  --version   show program's version number and exit

commands:
  <command>
    build     Expand marker blocks in a file and write the flattened output
    encodings
              List registered encoding processors
"

/-- The command that builds a file. -/
def buildManual : Manual BuildOption where
  name := "jdists build"
  grammar := ⟨[
    helpSwitch,
    switch ["--json"] (.flag .json),
    switch ["--verbose", "-v"] (.flag .verbose),
    switch ["--config", "-c"] (.value .config),
    switch ["--output", "-o"] (.value .output),
    switch ["--remove", "-r"] (.value .remove),
    switch ["--trigger", "-t"] (.value .trigger),
    switch ["--no-clean"] (.flag .noClean)], .one "input"⟩
  usage := "usage: jdists build [-h] [--json] [--verbose] [--config CONFIG]
                    [--output OUTPUT] [--remove REMOVE] [--trigger TRIGGER]
                    [--no-clean]
                    input
"
  details := "
Expand marker blocks in a file and write the flattened output

positional arguments:
  input                 Entry file to build

options:
  -h, --help            show this help message and exit
  --json                Output as JSON
  --verbose, -v         Enable verbose (debug) logging
  --config CONFIG, -c CONFIG
                        YAML config file layered over the project config
  --output OUTPUT, -o OUTPUT
                        Output file (default: stdout)
  --remove REMOVE, -r REMOVE
                        Comma-separated tags whose blocks are dropped
                        (default: debug,test)
  --trigger TRIGGER, -t TRIGGER
                        Active trigger name (default: release)
  --no-clean            Keep whitespace exactly as produced
"

/-- The command that lists the encodings. -/
def listingManual : Manual ListingOption where
  name := "jdists encodings"
  grammar := ⟨[helpSwitch, switch ["--json"] (.flag .json)], .none⟩
  usage := "usage: jdists encodings [-h] [--json]\n"
  details := "
List registered encoding processors

options:
  -h, --help  show this help message and exit
  --json      Output as JSON
"

end BlockWeave.Command
