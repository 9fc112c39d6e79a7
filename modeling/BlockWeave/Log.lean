/-! # Log entries

Everything worth telling about a run is an entry with a level, the part of the
program that tells it, and a text. Entries are collected in order; who reads them
decides which levels count. -/

namespace BlockWeave

/-- How much an entry matters. -/
inductive LogLevel where
  | debug
  | warning
  deriving Repr, DecidableEq

/-- The part of the program that makes an entry. -/
inductive LogSource where
  | discovery
  | session
  | weaving
  | builder
  | template
  | configuration
  deriving Repr, DecidableEq

/-- The name under which a part of the program logs. -/
def LogSource.name : LogSource → String
  | discovery => "jdists.core.loader"
  | session => "jdists.core.session"
  | weaving => "jdists.core.resolver"
  | builder => "jdists.core.builder"
  | template => "jdists.core.processors.template"
  | configuration => "jdists.core.config.manager"

/-- The name of a level. -/
def LogLevel.name : LogLevel → String
  | debug => "DEBUG"
  | warning => "WARNING"

/-- The rank of a level among those that a reader may ask for. -/
def LogLevel.rank : LogLevel → Nat
  | debug => 10
  | warning => 30

/-- The rank that a named threshold starts at. -/
def LogLevel.thresholdOf : String → Nat
  | "DEBUG" => 10
  | "INFO" => 20
  | "ERROR" => 40
  | "CRITICAL" => 50
  | _ => 30

/-- One entry. -/
structure LogEntry where
  level : LogLevel
  source : LogSource
  text : String
  deriving Repr, DecidableEq

namespace LogEntry

/-- An entry for those who follow every step. -/
def debug (source : LogSource) (text : String) : LogEntry :=
  ⟨.debug, source, text⟩

/-- An entry about something that looks wrong. -/
def warning (source : LogSource) (text : String) : LogEntry :=
  ⟨.warning, source, text⟩

/-- An entry as a line of text. -/
def line (entry : LogEntry) : String :=
  entry.level.name ++ " " ++ entry.source.name ++ ": " ++ entry.text

end LogEntry
end BlockWeave
