import BlockWeave.Session.Basic

/-! # Desks

Who works with a session holds records of it. A record that is held stays what it is when
the table of the session is cleared: it can be entered and left as before, but the table
does not know it any more. -/

namespace BlockWeave

/-- A session, and records that are not in its table. -/
structure Desk where
  session : Session
  strays : List Record := []

/-- A record that a call is about. -/
inductive Holder where
  /-- The record of a block in the table. -/
  | listed (key : BlockKey)
  /-- A record that is not in the table. -/
  | stray (index : Nat)
  deriving DecidableEq

namespace Desk

/-- The record of a holder as it is. -/
def record? (desk : Desk) : Holder → Option Record
  | .listed key => desk.session.record? key
  | .stray index => desk.strays[index]?

/-- A call of a session. -/
inductive Call where
  | create (key : BlockKey) (isFile : Bool)
  | getOrCreate (key : BlockKey)
  | enter (holder : Holder)
  | leave (holder : Holder) (content : Content)
  deriving DecidableEq

/-- Enters a record. -/
def enter (desk : Desk) : Holder → Except Error Unit × Desk
  | .listed key =>
      match desk.session.record? key with
      | none => (.error .missingKey, desk)
      | some record =>
          match desk.session.enter record with
          | .ok session => (.ok (), { desk with session })
          | .error e => (.error e, desk)
  | .stray index =>
      match desk.strays[index]? with
      | none => (.error .missingKey, desk)
      | some record =>
          match record.enter desk.session.chain with
          | .ok (entered, chain) =>
              (.ok (), ⟨{ desk.session with chain }, desk.strays.set index entered⟩)
          | .error e => (.error e, desk)

/-- Leaves a record with a content. -/
def leave (desk : Desk) (content : Content) : Holder → Except Error Unit × Desk
  | .listed key =>
      match desk.session.record? key with
      | none => (.error .missingKey, desk)
      | some record =>
          let (result, session) := desk.session.leave record content
          (result, { desk with session })
  | .stray index =>
      match desk.strays[index]? with
      | none => (.error .missingKey, desk)
      | some record =>
          match record.leave content desk.session.chain with
          | (.ok left, chain) =>
              (.ok (), ⟨{ desk.session with chain }, desk.strays.set index left⟩)
          | (.error e, chain) => (.error e, { desk with session := { desk.session with chain } })

/-- Carries a call out. -/
def perform (desk : Desk) : Call → Except Error Unit × Desk
  | .create key isFile =>
      match desk.session.create key isFile with
      | .ok (_, session) => (.ok (), { desk with session })
      | .error e => (.error e, desk)
  | .getOrCreate key =>
      match desk.session.getOrCreate key with
      | .ok (_, session) => (.ok (), { desk with session })
      | .error e => (.error e, desk)
  | .enter holder => desk.enter holder
  | .leave holder content => desk.leave content holder

/-- What is there behind some calls, failed ones included. -/
def after (desk : Desk) (calls : List Call) : Desk :=
  calls.foldl (fun desk call => (desk.perform call).2) desk

/-- A holder with another record, and the session with another chain. -/
def put (desk : Desk) (chain : List BlockKey) (record : Record) : Holder → Desk
  | .listed _ => { desk with session := { desk.session.store record with chain } }
  | .stray index => ⟨{ desk.session with chain }, desk.strays.set index record⟩

/-- Gives a record its content, whether or not it has been entered. -/
def complete (desk : Desk) (content : Content) (holder : Holder) : Except Error Unit × Desk :=
  match desk.record? holder with
  | none => (.error .missingKey, desk)
  | some record =>
      match record.complete content with
      | .ok completed => (.ok (), desk.put desk.session.chain completed holder)
      | .error e => (.error e, desk)

/-- Adds an occurrence to a record. -/
def addOccurrence (desk : Desk) (occurrence : Occurrence) (holder : Holder) : Desk :=
  match desk.record? holder with
  | none => desk
  | some record => desk.put desk.session.chain (record.addOccurrence occurrence) holder

/-- Clears the table. Its records are still held. -/
def reset (desk : Desk) : Desk where
  session := desk.session.reset
  strays := desk.strays ++ desk.session.records.map Prod.snd

/-- Where a record is held after the table has been cleared. -/
def afterReset (desk : Desk) : Holder → Holder
  | .listed key =>
      match desk.session.records.names.idxOf? key with
      | some index => .stray (desk.strays.length + index)
      | none => .listed key
  | .stray index => .stray index

end Desk
end BlockWeave
