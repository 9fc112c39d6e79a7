import BlockWeave.Disk
import BlockWeave.Session.Basic

/-! # Runs

A run is a session at work: the session, the disk that it reads and writes, and the
log of what happened. -/

namespace BlockWeave

/-- A session with its surroundings. -/
structure Run where
  session : Session
  disk : Disk
  log : List LogEntry := []

namespace Run

/-- The run with one more entry in its log. -/
def note (run : Run) (entry : LogEntry) : Run :=
  { run with log := run.log ++ [entry] }

/-- The run with a record stored. -/
def store (run : Run) (record : Record) : Run :=
  { run with session := run.session.store record }

end Run
end BlockWeave
