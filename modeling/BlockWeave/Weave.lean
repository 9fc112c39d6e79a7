import BlockWeave.Discovery

/-! # Programs of a run

A run changes by actions only. A program, of type `Weave`, looks at the run and acts
on it, one action after the other, until it ends with a result or a failure; an action
that fails ends the program, and what has been done before stays. `Weave.run` carries a
program out, and `Weave.actions` lists what it does on the way. -/

namespace BlockWeave

/-- The entry about a block that is now being resolved, as the last of a chain. -/
def Weave.entered (key : BlockKey) (chain : List BlockKey) : LogEntry :=
  .debug .session ("resolve enter " ++ String.ofList key.file ++ "#" ++
    String.ofList key.tag ++ " (depth " ++ toString chain.length ++ ")")

/-- A change of a run. -/
inductive Action where
  /-- An entry goes to the log. -/
  | note (entry : LogEntry)
  /-- All blocks that can be reached from a file are found. -/
  | load (path : Text)
  /-- A record of the table is put in progress. -/
  | enter (record : Record)
  /-- A record of the table gets its content. -/
  | leave (record : Record) (content : Content)
  /-- A content is kept under the name of a variant. -/
  | define (name : Text) (content : Content)
  /-- A content is written to a file. -/
  | write (charset : Except Error Charset) (path : Text) (content : Content)
  /-- A name is listed with a processor for the rest of the build. -/
  | register (name : Text) (processor : Option Processor)

namespace Action

/-- The run after an action, which may fail. -/
def perform (run : Run) : Action → Except Error Unit × Run
  | note entry => (.ok (), run.note entry)
  | load path => Discovery.walk run [.visit path]
  | enter record =>
      match run.session.enter record with
      | .error e => (.error e, run)
      | .ok session =>
          (.ok (), { run with session }.note (Weave.entered record.key session.chain))
  | leave record content =>
      let (result, session) := run.session.leave record content
      (result, { run with session })
  | define name content =>
      let variants := run.session.variants.put name content
      (.ok (), { run with session := { run.session with variants } })
  | write charset path content =>
      let (result, disk) := run.disk.write charset path content
      (result, { run with disk })
  | register name processor =>
      let registry := run.session.registry.register name processor
      (.ok (), { run with session := { run.session with registry } })

end Action

/-- A program of a run. -/
inductive Weave (α : Type) where
  /-- The end, with a result. -/
  | done (result : α)
  /-- The end, with a failure. -/
  | fail (error : Error)
  /-- What is done next depends on the run as it is. -/
  | look (next : Run → Weave α)
  /-- An action, and what is done after it. -/
  | act (action : Action) (next : Weave α)

namespace Weave

variable {α β : Type}

/-- A program followed by another one that depends on its result. -/
def bind : Weave α → (α → Weave β) → Weave β
  | done a, k => k a
  | fail e, _ => fail e
  | look next, k => look fun run => (next run).bind k
  | act action next, k => act action (next.bind k)

instance : Monad Weave where
  pure := done
  bind := bind

/-- Carries a program out: its result or failure, and the run at its end. -/
def run : Weave α → Run → Except Error α × Run
  | done a, now => (.ok a, now)
  | fail e, now => (.error e, now)
  | look next, now => (next now).run now
  | act action next, now =>
      match action.perform now with
      | (.ok (), after) => next.run after
      | (.error e, after) => (.error e, after)

/-- The actions of a program in order, a failed one being the last. -/
def actions : Weave α → Run → List Action
  | done _, _ => []
  | fail _, _ => []
  | look next, now => (next now).actions now
  | act action next, now =>
      match action.perform now with
      | (.ok (), after) => action :: next.actions after
      | (.error _, _) => [action]

/-- A result that may be a failure. -/
def ofExcept : Except Error α → Weave α
  | .ok a => done a
  | .error e => fail e

/-- What can be read off the run as it is. -/
def read (view : Run → α) : Weave α :=
  look fun run => done (view run)

/-- The options of the session. -/
def options : Weave Options :=
  read fun run => run.session.options

/-- The processors of the session. -/
def registry : Weave Registry :=
  read fun run => run.session.registry

/-- The variants as they are. -/
def variants : Weave Variants :=
  read fun run => run.session.variants

/-- The disk as it is. -/
def disk : Weave Disk :=
  read fun run => run.disk

/-- The record of a block as it is. -/
def record? (key : BlockKey) : Weave (Option Record) :=
  read fun run => run.session.record? key

/-- A single action. -/
def perform (action : Action) : Weave Unit :=
  act action (done ())

/-- An entry for the log. -/
def note (entry : LogEntry) : Weave Unit :=
  perform (.note entry)

end Weave

/-- Finds all blocks that can be reached from a file. -/
def Discovery.load (path : Text) : Weave Unit :=
  Weave.perform (.load path)

end BlockWeave
