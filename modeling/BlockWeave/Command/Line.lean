import BlockWeave.Builder
import BlockWeave.Command.Report
import BlockWeave.Command.Usage
import BlockWeave.Config.Layers
import BlockWeave.Processor.Standard

/-! # The command line

Carrying out a command line is a function of the arguments and of the surroundings: it
gives the exit code, what is written to the two streams, and the disk afterwards. An
error that is not the command's to report ends the program without an exit code. -/

namespace BlockWeave.Command

/-- The surroundings of the program. -/
structure World where
  /-- The working directory. -/
  directory : Text
  environment : Config.Environment := []
  disk : Disk
  libraries : Libraries
  codecs : Codecs := Charset.standard

/-- How the program ends. -/
structure Outcome where
  /-- The exit code, or an error that nobody reported. -/
  ending : Except Error Nat
  output : Output
  disk : Disk

namespace Manual

variable {ι : Type}

/-- What the program writes when it does not carry out the command line, and the exit
code. -/
def halt (manual : Manual ι) : Halt → Nat × Output
  | .help => (0, { stdout := manual.usage ++ manual.details })
  | .version => (0, .line (manual.name ++ " " ++ version))
  | .misuse message =>
      (2, { stderr := manual.usage ++ manual.name ++ ": error: " ++ message ++ "\n" })

end Manual

/-- A request for a build, as the arguments give it. -/
structure BuildRequest where
  input : Text
  json : Bool
  verbose : Bool
  config : Option Text
  output : Option Text
  /-- Settings that count more than the configuration. -/
  settings : Fields

namespace BuildRequest

/-- The value of an option that names a file; an empty name is none. -/
def file? (parsed : Parsed BuildOption) (name : BuildOption) : Option Text :=
  (parsed.value? name).join.filter (· ≠ [])

/-- A setting from an option: its text, or an empty list if it has no value. -/
def setting (parsed : Parsed BuildOption) (name : BuildOption) (key : String) : Fields :=
  match parsed.value? name with
  | none => []
  | some none => [(.str key, .list [])]
  | some (some text) => [(.str key, .str (String.ofList text))]

/-- The request that parsed arguments make. -/
def ofParsed (parsed : Parsed BuildOption) : BuildRequest where
  input := parsed.operands.headD []
  json := parsed.has .json
  verbose := parsed.has .verbose
  config := file? parsed .config
  output := file? parsed .output
  settings :=
    (if parsed.has .noClean then [(.str "clean", .bool false)] else []) ++
      setting parsed .remove "remove" ++ setting parsed .trigger "trigger"

/-- The rank that log entries must have to be shown once a configuration is loaded. -/
def threshold (request : BuildRequest) (config : Value) : Nat :=
  if request.verbose then LogLevel.thresholdOf "DEBUG"
  else
    match (config.field? "logging").bind fun logging => logging.field? "level" with
    | some (.str name) => LogLevel.thresholdOf name
    | _ => LogLevel.thresholdOf "WARNING"

/-- The rank that log entries must have before that. -/
def earlyThreshold (request : BuildRequest) : Nat :=
  LogLevel.thresholdOf (if request.verbose then "DEBUG" else "WARNING")

/-- The form of the reports. -/
def format (request : BuildRequest) : Format :=
  { json := request.json }

/-- Where the configuration comes from. -/
def sources (request : BuildRequest) (world : World) : Config.Sources where
  directory := world.directory
  root := world.directory
  file := request.config
  environment := world.environment
  libraries := world.libraries

end BuildRequest

/-- The entries of a log from a rank on, as lines. -/
def logLines (rank : Nat) (log : List LogEntry) : Output where
  stderr := String.join <|
    (log.filter fun entry => rank ≤ entry.level.rank).map fun entry => entry.line ++ "\n"

/-- The end of a build that failed. -/
def failed (request : BuildRequest) (error : Error) (output : Output) (disk : Disk) : Outcome :=
  match Failure.ofError? error with
  | some failure =>
      { ending := .ok 1
        output := output ++ request.format.failure "build_failed" failure.message failure.payload
        disk }
  | none => { ending := .error error, output, disk }

/-- The end of a build that succeeded: the text is written to a file or shown. -/
def finished (request : BuildRequest) (directory : Text) (options : Options) (text : Text)
    (output : Output) (disk : Disk) : Outcome :=
  let (written, disk) :=
    match request.output with
    | some path => disk.write options.charset (Path.join directory path) (.text text)
    | none => (.ok (), disk)
  let report := do
    written
    request.format.buildResult directory request.input text request.output
  match report with
  | .ok shown => { ending := .ok 0, output := output ++ shown, disk }
  | .error e => { ending := .error e, output, disk }

/-- Carries out a request for a build. References are nested at most as deeply as the
bound says. -/
def build (depth : Nat) (world : World) (request : BuildRequest) : Outcome :=
  let (loaded, early) := (Config.load world.disk (request.sources world)).run []
  let output := logLines request.earlyThreshold early
  match loaded with
  | .error e => failed request e output world.disk
  | .ok config =>
      match Options.ofConfig config request.settings with
      | .error e => failed request e output world.disk
      | .ok options =>
          let options := { options with codecs := world.codecs }
          let builder : Builder := { registry := Registry.standard world.libraries }
          let (result, _, workspace) :=
            builder.buildChoosing depth world.directory request.input world.codecs
              (some options) {} { disk := world.disk }
          let output := output ++ logLines (request.threshold config) workspace.log
          match result with
          | .error e => failed request e output workspace.disk
          | .ok text => finished request world.directory options text output workspace.disk

/-- Lists the encodings. -/
def listEncodings (libraries : Libraries) (parsed : Parsed ListingOption) : Output :=
  let format : Format := { json := parsed.has .json }
  format.listing "encodings" ((Registry.standard libraries).sortedNames.map String.ofList)

/-- Parses the arguments of a command and carries them out, unless the program or the
command has arguments left over. -/
def dispatch {ι : Type} (world : World) (manual : Manual ι) (extras arguments : List Text)
    (carryOut : Parsed ι → Outcome) : Outcome :=
  match manual.grammar.parse arguments with
  | .error halt =>
      let (code, output) := manual.halt halt
      { ending := .ok code, output, disk := world.disk }
  | .ok parsed =>
      match extras ++ parsed.extras with
      | [] => carryOut parsed
      | left =>
          let (code, output) := program.halt (.misuse
            ("unrecognized arguments: " ++ String.ofList (Text.join [' '] left)))
          { ending := .ok code, output, disk := world.disk }

/-- Carries out a command line. -/
def run (depth : Nat) (world : World) (arguments : List Text) : Outcome :=
  let stop (halt : Halt) : Outcome :=
    let (code, output) := program.halt halt
    { ending := .ok code, output, disk := world.disk }
  match program.grammar.parse arguments with
  | .error halt => stop halt
  | .ok parsed =>
      match parsed.operands with
      | [] =>
          if parsed.extras = [] then stop .help
          else
            stop (.misuse ("unrecognized arguments: " ++
              String.ofList (Text.join [' '] parsed.extras)))
      | name :: rest =>
          if name = ['b', 'u', 'i', 'l', 'd'] then
            dispatch world buildManual parsed.extras rest fun parsed =>
              build depth world (.ofParsed parsed)
          else if name = ['e', 'n', 'c', 'o', 'd', 'i', 'n', 'g', 's'] then
            dispatch world listingManual parsed.extras rest fun parsed =>
              { ending := .ok 0
                output := listEncodings world.libraries parsed
                disk := world.disk }
          else
            stop (.misuse ("argument <command>: invalid choice: " ++
              String.ofList (Text.quoted name) ++ " (choose from 'build', 'encodings')"))

end BlockWeave.Command
