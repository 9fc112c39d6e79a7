import BlockWeave.Processor.Registry
import BlockWeave.Session.Record

/-! # Sessions

A session is the state of one build: the table of block records, the variants, and
the chain of the blocks that are being resolved, the outermost first. -/

namespace BlockWeave

/-- Contents by the names they were exported under. -/
abbrev Variants := Table Text Content

/-- The state of one build. -/
structure Session where
  options : Options
  registry : Registry
  variants : Variants := []
  records : Table BlockKey Record := []
  chain : List BlockKey := []

namespace Session

/-- The record of a block. -/
def record? (session : Session) (key : BlockKey) : Option Record :=
  session.records.get? key

/-- The session with a record stored under its key. -/
def store (session : Session) (record : Record) : Session :=
  { session with records := session.records.put record.key record }

/-- A new record; a block is created once. -/
def create (session : Session) (key : BlockKey) (isFile : Bool) :
    Except Error (Record × Session) :=
  if session.records.has key then .error (.recordExists key)
  else
    let record : Record := { key, isFile }
    .ok (record, session.store record)

/-- The record of a block, created if it is not there. -/
def getOrCreate (session : Session) (key : BlockKey) : Except Error (Record × Session) :=
  match session.record? key with
  | some record => .ok (record, session)
  | none => session.create key false

/-- A block without a record can be created. -/
theorem create_of_none {session : Session} {key : BlockKey} (h : session.record? key = none)
    (isFile : Bool) : session.create key isFile =
      .ok ({ key, isFile }, session.store { key, isFile }) := by
  have hnew : session.records.has key = false := by
    rw [Table.has, ← record?, h]
    rfl
  simp [create, hnew]

theorem getOrCreate_of_some {session : Session} {key : BlockKey} {record : Record}
    (h : session.record? key = some record) : session.getOrCreate key = .ok (record, session) := by
  simp only [getOrCreate, h]

theorem getOrCreate_of_none {session : Session} {key : BlockKey}
    (h : session.record? key = none) :
    session.getOrCreate key = .ok ({ key }, session.store { key }) := by
  simp only [getOrCreate, h, create_of_none h]

/-- Puts a record of the table in progress. -/
def enter (session : Session) (record : Record) : Except Error Session := do
  let (record, chain) ← record.enter session.chain
  return { session.store record with chain }

/-- Gives a record of the table its content. -/
def leave (session : Session) (record : Record) (content : Content) :
    Except Error Unit × Session :=
  match record.leave content session.chain with
  | (.ok record, chain) => (.ok (), { session.store record with chain })
  | (.error e, chain) => (.error e, { session with chain })

/-- The session without records. -/
def reset (session : Session) : Session :=
  { session with records := [], chain := [] }

end Session
end BlockWeave
