import BlockWeave.Proofs.Discovery.Fresh
import BlockWeave.Proofs.Weaving.Relation

/-!
# Entering and leaving blocks

What a session makes of a block that is entered and left, and how the content of a
block is found from its record.
-/

namespace BlockWeave

/-- How far the resolution of a block has come, if it has a record. -/
def Session.state? (session : Session) (key : BlockKey) : Option BlockState :=
  (session.record? key).map Record.state

namespace Session

variable {session : Session} {record : Record}

/-- Storing a record changes the state of its own block only. -/
theorem state?_store (session : Session) (record : Record) (key : BlockKey) :
    (session.store record).state? key =
      if record.key = key then some record.state else session.state? key := by
  by_cases h : record.key = key
  · subst h
    simp [state?, record?_store_self]
  · simp [state?, record?_store_of_ne session h, h]

/-- Storing a record of a known block adds no name to the table. -/
theorem names_store {old : Record} (h : session.record? record.key = some old) :
    (session.store record).records.names = session.records.names := by
  have hmem : record.key ∈ session.records.names :=
    List.mem_map.2 ⟨_, Table.mem_of_get?_eq_some h, rfl⟩
  simp [store, Table.names_put, hmem]

end Session

/-- A run in which a record has been stored, with a chain of its own and all else the
same. -/
structure Stored (now : Run) (record : Record) (chain : List BlockKey) (after : Run) : Prop where
  chain_eq : after.session.chain = chain
  records_eq : after.session.records = (now.session.store record).records
  setting : SameSetting after now

namespace Stored

variable {now after : Run} {record : Record} {chain : List BlockKey}

theorem record?_eq (h : Stored now record chain after) (key : BlockKey) :
    after.session.record? key = (now.session.store record).record? key := by
  simp [Session.record?, h.records_eq]

/-- The record stands under its own key. -/
theorem record?_self (h : Stored now record chain after) :
    after.session.record? record.key = some record := by
  rw [h.record?_eq]
  exact Session.record?_store_self ..

theorem state?_eq (h : Stored now record chain after) (key : BlockKey) :
    after.session.state? key =
      if record.key = key then some record.state else now.session.state? key := by
  rw [← Session.state?_store, Session.state?, h.record?_eq, Session.state?]

/-- What stands under a key is the record, or what stood there before. -/
theorem record?_cases (h : Stored now record chain after) {key : BlockKey} {other : Record}
    (hr : after.session.record? key = some other) :
    (record.key = key ∧ other = record) ∨
      (record.key ≠ key ∧ now.session.record? key = some other) := by
  rw [h.record?_eq] at hr
  exact Session.record?_store_cases hr

/-- A record that has been found as the one that it replaces adds nothing to the
findings. -/
theorem found_eq (h : Stored now record chain after) {old : Record}
    (hold : now.session.record? record.key = some old) (hfound : record.found = old.found)
    (key : BlockKey) :
    (after.session.record? key).map Record.found =
      (now.session.record? key).map Record.found := by
  rw [h.record?_eq]
  by_cases hk : record.key = key
  · subst hk
    rw [Session.record?_store_self, hold, Option.map_some, Option.map_some, hfound]
  · rw [Session.record?_store_of_ne _ hk]

end Stored

namespace Action

variable {now after : Run} {record : Record}

/-- Asking for a block in progress fails, and nothing changes. -/
theorem perform_enter_inProgress (now : Run) (h : record.state = .inProgress) :
    (enter record).perform now =
      (.error (.circular record.key (now.session.chain ++ [record.key])), now) := by
  simp [perform, Session.enter, Record.enter, h, bind, Except.bind]

/-- Any other block is put in progress and goes to the end of the chain. -/
theorem perform_enter (now : Run) (h : record.state ≠ .inProgress) :
    ∃ after, (enter record).perform now = (.ok (), after) ∧
      Stored now { record with state := .inProgress } (now.session.chain ++ [record.key])
        after := by
  have henter : now.session.enter record =
      .ok { now.session.store { record with state := .inProgress } with
        chain := now.session.chain ++ [record.key] } := by
    simp [Session.enter, Record.enter, h, bind, Except.bind, pure, Except.pure]
  simp only [perform, henter]
  exact ⟨_, rfl, rfl, rfl, ⟨rfl, rfl, rfl, rfl⟩⟩

/-- The block at the end of the chain gets its content and leaves the chain. -/
theorem perform_leave {chain : List BlockKey} (hchain : now.session.chain = chain ++ [record.key])
    (h : record.state ≠ .done) (content : Content) :
    ∃ after, (leave record content).perform now = (.ok (), after) ∧
      Stored now { record with content := some content, state := .done } chain after := by
  have hleave : now.session.leave record content =
      (.ok (), { now.session.store { record with content := some content, state := .done } with
        chain }) := by
    simp [Session.leave, Record.leave, Record.complete, hchain, h]
  simp only [perform, hleave]
  exact ⟨_, rfl, rfl, rfl, ⟨rfl, rfl, rfl, rfl⟩⟩

/-- A block that has been left has its content. -/
theorem stored_of_leave {content : Content}
    (h : (leave record content).perform now = (.ok (), after)) :
    ∃ chain, Stored now { record with content := some content, state := .done } chain after := by
  simp only [perform, Session.leave, Prod.mk.injEq] at h
  obtain ⟨hok, rfl⟩ := h
  split at hok
  next stored chain hleave =>
    refine ⟨chain, ?_⟩
    simp only [Record.leave, Record.complete] at hleave
    split at hleave
    · cases hleave
    · split at hleave
      · cases hleave
      · split at hleave
        · cases hleave
        · cases hleave
          exact ⟨rfl, rfl, ⟨rfl, rfl, rfl, rfl⟩⟩
  next => cases hok

end Action

open Weaving

/-- A record with content gives it back. -/
theorem resolveRecord_done {resolve : Resolver} {record : Record} {content : Content}
    (hstate : record.state = .done) (hcontent : record.content = some content) :
    resolveRecord resolve record = .done content := by
  simp [resolveRecord, hstate, hcontent]

theorem run_leaveRecord (record : Record) (content : Content) (now : Run) :
    (leaveRecord record content).run now = (Action.leave ((now.session.record? record.key).getD
      { record with state := .inProgress }) content).perform now :=
  Weave.run_perform _ now

/-- What is left is the record of the table. -/
theorem leaveRecord_of_some {record found : Record} {now : Run}
    (h : now.session.record? record.key = some found) (content : Content) :
    (leaveRecord record content).run now = (Action.leave found content).perform now ∧
      (leaveRecord record content).actions now = [.leave found content] := by
  simp only [leaveRecord, Weave.record?, Weave.bind_eq, Weave.read, Weave.bind, Weave.run,
    Weave.actions, h, Option.getD_some]
  exact ⟨Weave.run_perform _ _, Weave.actions_perform _ _⟩

/-- Any other record is entered, evaluated and left. -/
theorem resolveRecord_of_ne {resolve : Resolver} {record : Record} (hstate : record.state ≠ .done) :
    resolveRecord resolve record =
      (Weave.perform (.enter record)).bind fun _ => (evaluate resolve record).bind fun content =>
        (leaveRecord record content).bind fun _ => .done content := by
  simp only [resolveRecord]
  split
  next hdone _ => exact absurd hdone hstate
  next => rfl

/-- A block without a record is not found, and nothing is done. -/
theorem fetchBlock_none {contentOf : Record → Weave Content} {key : BlockKey} {now : Run}
    (h : now.session.record? key = none) :
    (fetchBlock contentOf key).run now = (.ok none, now) ∧
      (fetchBlock contentOf key).actions now = [] := by
  simp [fetchBlock, Weave.record?, Weave.read, Weave.bind, Weave.run, Weave.actions, h]

/-- A block with a record has the content that is found for it. -/
theorem fetchBlock_some {contentOf : Record → Weave Content} {key : BlockKey} {now : Run}
    {record : Record} (h : now.session.record? key = some record) :
    (fetchBlock contentOf key).run now =
        ((contentOf record).bind fun content => .done (some (content, record.isBinary))).run now ∧
      (fetchBlock contentOf key).actions now =
        ((contentOf record).bind fun content =>
          .done (some (content, record.isBinary))).actions now := by
  simp [fetchBlock, Weave.record?, Weave.read, Weave.bind, Weave.run, Weave.actions, h]

end BlockWeave
