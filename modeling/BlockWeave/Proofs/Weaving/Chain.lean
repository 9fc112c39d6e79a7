import BlockWeave.Proofs.Discovery.Fresh
import BlockWeave.Proofs.Weaving.Record
import BlockWeave.Proofs.Weaving.Relation
import Mathlib.Data.List.Nodup

/-!
# The chain of blocks in progress

Resolving is a sequence of actions on a session. At every point of it the chain lists
the blocks in progress in the order in which they were entered, a record has content
exactly when it is done, and the records are those that discovery has found. Every
program of weaving that ends well gives back the chain it was started with, so that
a block is left exactly when it is the innermost one.

## Implementation notes

The invariant speaks of a run together with the blocks that have been entered and
completed so far. Both lists are read off the actions of the past, hence the order of
the chain and "at most once" are statements about what has really been done.
-/

namespace BlockWeave

namespace Action

/-- The block that an action puts in progress. -/
def entering (now : Run) : Action → List BlockKey
  | enter record => if ((enter record).perform now).1.isOk then [record.key] else []
  | _ => []

/-- The block that an action gives its content. -/
def completing (now : Run) : Action → List BlockKey
  | leave record content =>
      if ((leave record content).perform now).1.isOk then [record.key] else []
  | _ => []

end Action

namespace Run

/-- What a list of actions adds up to, each one at the run that it is performed on. -/
def gather {β : Type} (f : Run → Action → List β) (now : Run) : List Action → List β
  | [] => []
  | action :: actions => f now action ++ (action.perform now).2.gather f actions

theorem gather_append {β : Type} (f : Run → Action → List β) (now : Run)
    (actions more : List Action) :
    now.gather f (actions ++ more) = now.gather f actions ++ (now.after actions).gather f more := by
  induction actions generalizing now with
  | nil => rfl
  | cons action actions ih => simp [gather, ih]

/-- The blocks that a list of actions puts in progress, in order. -/
def entered (now : Run) (actions : List Action) : List BlockKey :=
  now.gather Action.entering actions

/-- The blocks that a list of actions gives their content, in order. -/
def completed (now : Run) (actions : List Action) : List BlockKey :=
  now.gather Action.completing actions

theorem entered_append_one (now : Run) (actions : List Action) (action : Action) :
    now.entered (actions ++ [action]) =
      now.entered actions ++ action.entering (now.after actions) := by
  simp [entered, gather_append, gather]

theorem completed_append_one (now : Run) (actions : List Action) (action : Action) :
    now.completed (actions ++ [action]) =
      now.completed actions ++ action.completing (now.after actions) := by
  simp [completed, gather_append, gather]

end Run

/-- The invariant of resolving: a run that was started on a fresh session, with the
blocks that have been entered and completed so far. -/
structure Orderly (start now : Run) (entered completed : List BlockKey) : Prop where
  chain_eq : now.session.chain =
    entered.filter fun key => now.session.state? key = some .inProgress
  entered_nodup : entered.Nodup
  mem_entered : ∀ key, key ∈ entered ↔
    now.session.state? key = some .inProgress ∨ now.session.state? key = some .done
  completed_nodup : completed.Nodup
  mem_completed : ∀ key, key ∈ completed ↔ now.session.state? key = some .done
  content_iff : ∀ key record, now.session.record? key = some record →
    (record.content.isSome ↔ record.state = .done)
  names_eq : now.session.records.names = start.session.records.names
  found_eq : ∀ key, (now.session.record? key).map Record.found =
    (start.session.record? key).map Record.found

namespace Orderly

variable {start now : Run} {entered completed : List BlockKey}

/-- A fresh session is orderly before anything has been done. -/
theorem of_fresh (h : start.session.Fresh) : Orderly start start [] [] := by
  have hstate (key : BlockKey) : start.session.state? key = none ∨
      start.session.state? key = some .unvisited := by
    cases hr : start.session.record? key with
    | none => exact Or.inl (by simp [Session.state?, hr])
    | some record =>
        exact Or.inr (by simp [Session.state?, hr, (h.records key record hr).state_eq])
  constructor
  case chain_eq => simpa using h.chain
  case entered_nodup => exact List.nodup_nil
  case mem_entered =>
    intro key
    rcases hstate key with hs | hs <;> simp [hs]
  case completed_nodup => exact List.nodup_nil
  case mem_completed =>
    intro key
    rcases hstate key with hs | hs <;> simp [hs]
  case content_iff =>
    intro key record hr
    have hnew := h.records key record hr
    simp [hnew.state_eq, hnew.content_eq]
  case names_eq => rfl
  case found_eq => exact fun _ => rfl

theorem chain_nodup (h : Orderly start now entered completed) : now.session.chain.Nodup := by
  rw [h.chain_eq]
  exact h.entered_nodup.filter _

theorem mem_chain_iff (h : Orderly start now entered completed) (key : BlockKey) :
    key ∈ now.session.chain ↔ now.session.state? key = some .inProgress := by
  rw [h.chain_eq, List.mem_filter, h.mem_entered]
  simp only [decide_eq_true_eq]
  exact ⟨fun hk => hk.2, fun hk => ⟨Or.inl hk, hk⟩⟩

/-- A record stands under its key, as discovery has put it there. -/
theorem key_eq (h : Orderly start now entered completed) (hfresh : start.session.Fresh)
    {key : BlockKey} {record : Record} (hr : now.session.record? key = some record) :
    record.key = key := by
  have hfound := h.found_eq key
  rw [hr, Option.map_some] at hfound
  obtain ⟨old, hold, he⟩ := Option.map_eq_some_iff.1 hfound.symm
  have hkey := congrArg Record.key he
  rw [Record.found_key, Record.found_key] at hkey
  rw [← hkey, (hfresh.records key old hold).key_eq]

/-- An orderly run stays orderly when neither records nor chain change. -/
theorem congr (h : Orderly start now entered completed) {other : Run}
    (hrecords : other.session.records = now.session.records)
    (hchain : other.session.chain = now.session.chain) :
    Orderly start other entered completed := by
  have hrecord (key : BlockKey) : other.session.record? key = now.session.record? key := by
    simp [Session.record?, hrecords]
  have hstate (key : BlockKey) : other.session.state? key = now.session.state? key := by
    simp [Session.state?, hrecord]
  constructor
  case chain_eq =>
    rw [hchain, h.chain_eq]
    simp only [hstate]
  case entered_nodup => exact h.entered_nodup
  case mem_entered =>
    intro key
    rw [hstate, h.mem_entered]
  case completed_nodup => exact h.completed_nodup
  case mem_completed =>
    intro key
    rw [hstate, h.mem_completed]
  case content_iff =>
    intro key record hr
    exact h.content_iff key record (hrecord key ▸ hr)
  case names_eq => rw [hrecords, h.names_eq]
  case found_eq =>
    intro key
    rw [hrecord, h.found_eq]

/-- A stored record keeps the facts about the table, when it has been found as the
record that it replaces was. -/
theorem store_facts (h : Orderly start now entered completed) {after : Run} {old record : Record}
    {chain : List BlockKey} (hstored : Stored now record chain after)
    (hold : now.session.record? record.key = some old) (hfound : record.found = old.found)
    (hcontent : record.content.isSome ↔ record.state = .done) :
    (∀ key r, after.session.record? key = some r → (r.content.isSome ↔ r.state = .done)) ∧
    after.session.records.names = start.session.records.names ∧
    ∀ key, (after.session.record? key).map Record.found =
      (start.session.record? key).map Record.found := by
  refine ⟨?_, ?_, ?_⟩
  · intro key r hr
    rcases hstored.record?_cases hr with ⟨rfl, rfl⟩ | ⟨-, hr⟩
    · exact hcontent
    · exact h.content_iff key r hr
  · rw [hstored.records_eq, Session.names_store hold, h.names_eq]
  · intro key
    rw [hstored.found_eq hold hfound, h.found_eq]

/-- Putting an unvisited block in progress at the end of the chain. -/
theorem push (h : Orderly start now entered completed) {after : Run} {record : Record}
    (hstored : Stored now { record with state := .inProgress }
      (now.session.chain ++ [record.key]) after)
    (hr : now.session.record? record.key = some record) (hstate : record.state = .unvisited) :
    Orderly start after (entered ++ [record.key]) completed := by
  have hcontent : record.content.isSome ↔ BlockState.inProgress = .done := by
    have := h.content_iff record.key record hr
    simpa [hstate] using this
  obtain ⟨hcontents, hnames, hfound⟩ := h.store_facts hstored hr rfl hcontent
  have hafter (key : BlockKey) : after.session.state? key =
      if record.key = key then some .inProgress else now.session.state? key :=
    hstored.state?_eq key
  have hbefore : now.session.state? record.key = some .unvisited := by
    simp [Session.state?, hr, hstate]
  have hnew : record.key ∉ entered := by
    rw [h.mem_entered, hbefore]
    simp
  have hrest (key : BlockKey) (hkey : key ∈ entered) : record.key ≠ key := by
    rintro rfl
    exact hnew hkey
  constructor
  case chain_eq =>
    rw [hstored.chain_eq, h.chain_eq, List.filter_append]
    congr 1
    · apply List.filter_congr
      intro key hkey
      rw [hafter, if_neg (hrest key hkey)]
    · simp [hafter]
  case entered_nodup =>
    rw [List.nodup_append]
    refine ⟨h.entered_nodup, List.nodup_singleton _, ?_⟩
    intro key hkey last hlast
    rw [List.mem_singleton.1 hlast]
    exact (hrest key hkey).symm
  case mem_entered =>
    intro key
    rw [List.mem_append, List.mem_singleton, h.mem_entered, hafter]
    by_cases hk : record.key = key
    · simp [hk]
    · simp [hk, Ne.symm hk]
  case completed_nodup => exact h.completed_nodup
  case mem_completed =>
    intro key
    rw [h.mem_completed, hafter]
    by_cases hk : record.key = key
    · simp [← hk, hbefore]
    · simp [hk]
  case content_iff => exact hcontents
  case names_eq => exact hnames
  case found_eq => exact hfound

/-- Giving the innermost block its content takes it off the chain. -/
theorem pop (h : Orderly start now entered completed) {after : Run} {old record : Record}
    {content : Content} {chain : List BlockKey}
    (hstored : Stored now { record with content := some content, state := .done } chain after)
    (hchain : now.session.chain = chain ++ [record.key])
    (hold : now.session.record? record.key = some old) (hfound : record.found = old.found) :
    Orderly start after entered (completed ++ [record.key]) := by
  obtain ⟨hcontents, hnames, hfounds⟩ :=
    h.store_facts hstored hold (by simpa [Record.found] using hfound) (by simp)
  have hafter (key : BlockKey) : after.session.state? key =
      if record.key = key then some .done else now.session.state? key :=
    hstored.state?_eq key
  have hbefore : now.session.state? record.key = some .inProgress :=
    (h.mem_chain_iff record.key).1 (by simp [hchain])
  have hnew : record.key ∉ completed := by
    rw [h.mem_completed, hbefore]
    simp
  have hnodup := h.chain_nodup
  rw [hchain, List.nodup_append] at hnodup
  have hlast (key : BlockKey) (hkey : key ∈ chain) : record.key ≠ key :=
    (hnodup.2.2 key hkey record.key (by simp)).symm
  constructor
  case chain_eq =>
    -- Taking the block out of the chain is the same as no longer counting it.
    have hfilter : entered.filter (fun key => after.session.state? key = some .inProgress) =
        now.session.chain.filter fun key => key ≠ record.key := by
      rw [h.chain_eq, List.filter_filter]
      apply List.filter_congr
      intro key _
      by_cases hk : record.key = key
      · simp [hafter, ← hk]
      · simp [hafter, hk, Ne.symm hk]
    rw [hfilter, hchain, hstored.chain_eq, List.filter_append, List.filter_eq_self.2]
    · simp
    · intro key hkey
      simpa using (hlast key hkey).symm
  case entered_nodup => exact h.entered_nodup
  case mem_entered =>
    intro key
    rw [h.mem_entered, hafter]
    by_cases hk : record.key = key
    · simp [← hk, hbefore]
    · simp [hk]
  case completed_nodup =>
    rw [List.nodup_append]
    refine ⟨h.completed_nodup, List.nodup_singleton _, ?_⟩
    intro key hkey last hl
    rw [List.mem_singleton.1 hl]
    rintro rfl
    exact hnew hkey
  case mem_completed =>
    intro key
    rw [List.mem_append, List.mem_singleton, h.mem_completed, hafter]
    by_cases hk : record.key = key
    · simp [hk]
    · simp [hk, Ne.symm hk]
  case content_iff => exact hcontents
  case names_eq => exact hnames
  case found_eq => exact hfounds

end Orderly

/-- Every point of a past is orderly, and every block that was left was left in order. -/
structure Steady (start : Run) (past : List Action) : Prop where
  orderly : ∀ before, before <+: past →
    Orderly start (start.after before) (start.entered before) (start.completed before)
  leaves : ∀ before record content, before ++ [.leave record content] <+: past →
    ((Action.leave record content).perform (start.after before)).1 = .ok ()

namespace Steady

variable {start : Run} {past : List Action}

theorem now (h : Steady start past) :
    Orderly start (start.after past) (start.entered past) (start.completed past) :=
  h.orderly past (List.prefix_refl past)

theorem nil (h : start.session.Fresh) : Steady start [] := by
  constructor
  · intro before hb
    rw [List.prefix_nil.1 hb]
    exact Orderly.of_fresh h
  · intro before record content hb
    simp at hb

/-- A past goes on with one more action. -/
theorem append_one (h : Steady start past) {action : Action}
    (horderly : Orderly start (action.perform (start.after past)).2
      (start.entered past ++ action.entering (start.after past))
      (start.completed past ++ action.completing (start.after past)))
    (hleave : ∀ record content, action = .leave record content →
      (action.perform (start.after past)).1 = .ok ()) :
    Steady start (past ++ [action]) := by
  constructor
  · intro before hb
    rcases List.prefix_concat_iff.1 hb with rfl | hb
    · rw [Run.after_append, Run.entered_append_one, Run.completed_append_one]
      exact horderly
    · exact h.orderly before hb
  · intro before record content hb
    rcases List.prefix_concat_iff.1 hb with heq | hb
    · obtain ⟨rfl, hlast⟩ := List.append_inj_left' heq rfl, List.append_inj_right' heq rfl
      rw [List.singleton_inj] at hlast
      subst hlast
      exact hleave record content rfl
    · exact h.leaves before record content hb

/-- Actions that leave the records alone keep a past steady. -/
theorem spare (h : Steady start past) {action : Action} (haction : action.SparesRecords) :
    Steady start (past ++ [action]) ∧
      (action.perform (start.after past)).2.session.chain = (start.after past).session.chain := by
  have hkeeps : (action.perform (start.after past)).2.session.records =
        (start.after past).session.records ∧
      (action.perform (start.after past)).2.session.chain = (start.after past).session.chain ∧
      action.entering (start.after past) = [] ∧ action.completing (start.after past) = [] ∧
      ∀ record content, action ≠ .leave record content := by
    cases action with
    | note entry => exact ⟨rfl, rfl, rfl, rfl, by simp⟩
    | define name content => exact ⟨rfl, rfl, rfl, rfl, by simp⟩
    | write charset path content => exact ⟨rfl, rfl, rfl, rfl, by simp⟩
    | register name processor => exact ⟨rfl, rfl, rfl, rfl, by simp⟩
    | load path => exact haction.elim
    | enter record => exact haction.elim
    | leave record content => exact haction.elim
  obtain ⟨hrecords, hchain, hentering, hcompleting, hleave⟩ := hkeeps
  refine ⟨h.append_one ?_ fun record content he => absurd he (hleave record content), hchain⟩
  rw [hentering, hcompleting, List.append_nil, List.append_nil]
  exact h.now.congr hrecords hchain

/-- Asking for a block in progress fails and changes nothing. -/
theorem enter_inProgress (h : Steady start past) {record : Record}
    (hstate : record.state = .inProgress) : Steady start (past ++ [.enter record]) := by
  have hperform := Action.perform_enter_inProgress (start.after past) hstate
  refine h.append_one ?_ (by simp)
  have hentering : (Action.enter record).entering (start.after past) = [] := by
    simp [Action.entering, hperform, Except.isOk, Except.toBool]
  rw [hperform, hentering, List.append_nil]
  simpa [Action.completing] using h.now

/-- Entering an unvisited block puts it at the end of the chain. -/
theorem enter (h : Steady start past) {record : Record}
    (hr : (start.after past).session.record? record.key = some record)
    (hstate : record.state = .unvisited) :
    Steady start (past ++ [.enter record]) ∧
      ((Action.enter record).perform (start.after past)).1 = .ok () ∧
      (start.after (past ++ [.enter record])).session.chain =
        (start.after past).session.chain ++ [record.key] := by
  obtain ⟨after, hperform, hstored⟩ :=
    Action.perform_enter (start.after past) (show record.state ≠ .inProgress by simp [hstate])
  refine ⟨h.append_one ?_ (by simp), by rw [hperform], ?_⟩
  · have hentering : (Action.enter record).entering (start.after past) = [record.key] := by
      simp [Action.entering, hperform, Except.isOk, Except.toBool]
    rw [hentering, hperform]
    simpa [Action.completing] using h.now.push hstored hr hstate
  · rw [Run.after_append, Run.after_cons, hperform]
    exact hstored.chain_eq

/-- Leaving the innermost block succeeds and takes it off the chain. -/
theorem leave (h : Steady start past) {old record : Record} {chain : List BlockKey}
    (hchain : (start.after past).session.chain = chain ++ [record.key])
    (hold : (start.after past).session.record? record.key = some old)
    (hfound : record.found = old.found) (hstate : record.state = .inProgress)
    (content : Content) :
    Steady start (past ++ [.leave record content]) ∧
      ((Action.leave record content).perform (start.after past)).1 = .ok () ∧
      (start.after (past ++ [.leave record content])).session.chain = chain := by
  obtain ⟨after, hperform, hstored⟩ :=
    Action.perform_leave hchain (show record.state ≠ .done by simp [hstate]) content
  refine ⟨h.append_one ?_ (by simp [hperform]), by rw [hperform], ?_⟩
  · have hcompleting :
        (Action.leave record content).completing (start.after past) = [record.key] := by
      simp [Action.completing, hperform, Except.isOk, Except.toBool]
    rw [hcompleting, hperform]
    simpa [Action.entering] using h.now.pop hstored hchain hold hfound
  · rw [Run.after_append, Run.after_cons, hperform]
    exact hstored.chain_eq

end Steady

/-- A program keeps every past steady, and gives back the chain when it ends well. -/
def Balanced (start : Run) : ProgramRelation := fun α m _ =>
  ∀ past, Steady start past →
    Steady start (past ++ m.actions (start.after past)) ∧
      ∀ a after, m.run (start.after past) = (.ok (a : α), after) →
        after.session.chain = (start.after past).session.chain

/-- A single action that leaves the records alone is balanced. -/
theorem balanced_perform (start : Run) {action : Action} (haction : action.SparesRecords) :
    Balanced start Unit (.perform action) fun _ => .perform action := by
  intro past h
  obtain ⟨hsteady, hchain⟩ := h.spare haction
  refine ⟨by simpa using hsteady, fun a after hrun => ?_⟩
  rw [Weave.run_perform] at hrun
  rw [← hchain, hrun]

/-- Balance is kept by the operations that weaving is built from. -/
theorem balanced_compatible (start : Run) : Compatible (Balanced start) where
  done a := by
    intro past h
    refine ⟨by simpa using h, fun b after hrun => ?_⟩
    cases hrun
    rfl
  fail e p := by
    intro past h
    exact ⟨by simpa using h, fun b after hrun => by cases hrun⟩
  bind := by
    intro α β m p k l hm hk past h
    obtain ⟨hsteady, hchain⟩ := hm past h
    cases hrun : m.run (start.after past) with
    | mk result mid =>
        cases result with
        | error e =>
            rw [Weave.actions_bind_of_error hrun, Weave.run_bind_of_error hrun]
            exact ⟨hsteady, fun b after hb => by cases hb⟩
        | ok a =>
            have hmid : start.after (past ++ m.actions (start.after past)) = mid := by
              rw [Run.after_append, Weave.eq_after_of_run hrun]
            obtain ⟨hsteady', hchain'⟩ := hk a _ hsteady
            rw [hmid] at hsteady' hchain'
            rw [Weave.actions_bind_of_ok hrun, Weave.run_bind_of_ok hrun, ← List.append_assoc]
            exact ⟨hsteady', fun b after hb => (hchain' b after hb).trans (hchain a mid hrun)⟩
  read := by
    intro α β view k l _ hk past h
    exact hk (start.after past) past h
  perform _ haction := balanced_perform start haction.sparesRecords

open Weaving

/-- A past goes on with the actions of a program that ends well. -/
theorem after_of_run_ok {α : Type} {start : Run} {past : List Action} {m : Weave α} {a : α}
    {mid : Run} (h : m.run (start.after past) = (.ok a, mid)) :
    mid = start.after (past ++ m.actions (start.after past)) := by
  rw [Run.after_append, Weave.eq_after_of_run h]

section Record

variable {start : Run} {past : List Action} {resolve : Resolver} {record : Record}

/-- Leaving a record that was found in the table is balanced but for the chain, which
loses its last block. -/
theorem Steady.leaveRecord (h : Steady start past) {chain : List BlockKey}
    (hchain : (start.after past).session.chain = chain ++ [record.key])
    (hfound : ((start.after past).session.record? record.key).map Record.found =
      some record.found) (content : Content) :
    let program := (Weaving.leaveRecord record content).bind fun _ => .done content
    Steady start (past ++ program.actions (start.after past)) ∧
      (program.run (start.after past)).2.session.chain = chain := by
  obtain ⟨old, hold, hsame⟩ := Option.map_eq_some_iff.1 hfound
  have hkey : old.key = record.key := by
    rw [← old.found_key, hsame, record.found_key]
  -- The innermost block is in progress, so its record can be left.
  have hstate : old.state = .inProgress := by
    have hinner := (h.now.mem_chain_iff record.key).1 (by simp [hchain])
    rw [Session.state?, hold, Option.map_some] at hinner
    exact Option.some.inj hinner
  obtain ⟨hleft, hok, hrest⟩ := @Steady.leave start past h old old chain (hkey ▸ hchain)
    (hkey ▸ hold) rfl hstate content
  obtain ⟨hrun, hactions⟩ := leaveRecord_of_some hold content
  have hdone : (Weaving.leaveRecord record content).run (start.after past) =
      (.ok (), start.after (past ++ [.leave old content])) := by
    rw [hrun, Run.after_append]
    exact Prod.ext hok rfl
  intro program
  rw [Weave.actions_bind_of_ok hdone, Weave.run_bind_of_ok hdone, hactions]
  exact ⟨by simpa using hleft, hrest⟩

/-- Resolving an unvisited record is balanced when resolving texts is. -/
theorem Steady.resolveUnvisited (h : Steady start past)
    (htext : ∀ file text, Balanced start Text (resolve file text) fun _ => resolve file text)
    (hr : (start.after past).session.record? record.key = some record)
    (hstate : record.state = .unvisited) :
    Steady start (past ++ (resolveRecord resolve record).actions (start.after past)) ∧
      ∀ content after,
        (resolveRecord resolve record).run (start.after past) = (.ok content, after) →
          after.session.chain = (start.after past).session.chain := by
  rw [resolveRecord_of_ne (by simp [hstate])]
  obtain ⟨hentered, hok, hchain⟩ := h.enter hr hstate
  have henter : (Weave.perform (.enter record)).run (start.after past) =
      (.ok (), start.after (past ++ [.enter record])) := by
    rw [Weave.run_perform, Run.after_append]
    exact Prod.ext hok rfl
  rw [Weave.actions_bind_of_ok henter, Weave.run_bind_of_ok henter, Weave.actions_perform,
    ← List.append_assoc]
  obtain ⟨hinner, hback⟩ :=
    (balanced_compatible start).evaluate htext record _ hentered
  cases heval : (evaluate resolve record).run (start.after (past ++ [.enter record])) with
  | mk result mid =>
      cases result with
      | error e =>
          rw [Weave.actions_bind_of_error heval, Weave.run_bind_of_error heval]
          exact ⟨hinner, fun content after hrun => by cases hrun⟩
      | ok content =>
          rw [Weave.actions_bind_of_ok heval, Weave.run_bind_of_ok heval, ← List.append_assoc]
          have hlast := (hback content mid heval).trans hchain
          have hfound := hinner.now.found_eq record.key
          rw [← h.now.found_eq, hr, Option.map_some] at hfound
          rw [after_of_run_ok heval] at hlast ⊢
          obtain ⟨hleft, hrest⟩ := hinner.leaveRecord hlast hfound content
          refine ⟨hleft, fun result after hrun => ?_⟩
          rw [← hrest, hrun]

/-- Resolving a record of the table is balanced when resolving texts is. -/
theorem Steady.resolveRecord (h : Steady start past)
    (htext : ∀ file text, Balanced start Text (resolve file text) fun _ => resolve file text)
    (hr : (start.after past).session.record? record.key = some record) :
    Steady start (past ++ (Weaving.resolveRecord resolve record).actions (start.after past)) ∧
      ∀ content after,
        (Weaving.resolveRecord resolve record).run (start.after past) = (.ok content, after) →
          after.session.chain = (start.after past).session.chain := by
  cases hstate : record.state with
  | done =>
      have hsome := (h.now.content_iff record.key record hr).2 hstate
      obtain ⟨content, hcontent⟩ := Option.isSome_iff_exists.1 hsome
      rw [resolveRecord_done hstate hcontent]
      exact (balanced_compatible start).done content past h
  | inProgress =>
      rw [resolveRecord_of_ne (by simp [hstate])]
      have hfails := Action.perform_enter_inProgress (start.after past) hstate
      rw [← Weave.run_perform] at hfails
      rw [Weave.actions_bind_of_error hfails, Weave.run_bind_of_error hfails,
        Weave.actions_perform]
      exact ⟨h.enter_inProgress hstate, fun content after hrun => by cases hrun⟩
  | unvisited => exact h.resolveUnvisited htext hr hstate

end Record

/-- Finding the content of a block is balanced when resolving texts is. -/
theorem balanced_fetchBlock {start : Run} (hfresh : start.session.Fresh) {resolve : Resolver}
    (htext : ∀ file text, Balanced start Text (resolve file text) fun _ => resolve file text)
    (key : BlockKey) :
    Balanced start _ (fetchBlock (resolveRecord resolve) key) fun _ =>
      fetchBlock (resolveRecord resolve) key := by
  intro past h
  cases hr : (start.after past).session.record? key with
  | none =>
      obtain ⟨hrun, hactions⟩ := fetchBlock_none hr
      rw [hrun, hactions, List.append_nil]
      exact ⟨h, fun found after he => by cases he; rfl⟩
  | some record =>
      obtain ⟨hrun, hactions⟩ := fetchBlock_some hr
      obtain rfl := h.now.key_eq hfresh hr
      obtain ⟨hsteady, hchain⟩ := h.resolveRecord htext hr
      rw [hrun, hactions]
      cases hresolve : (resolveRecord resolve record).run (start.after past) with
      | mk result mid =>
          cases result with
          | error e =>
              rw [Weave.actions_bind_of_error hresolve, Weave.run_bind_of_error hresolve]
              exact ⟨hsteady, fun found after he => by cases he⟩
          | ok content =>
              rw [Weave.actions_bind_of_ok hresolve, Weave.run_bind_of_ok hresolve,
                Weave.actions_done, List.append_nil]
              exact ⟨hsteady, fun found after he => by cases he; exact hchain content mid hresolve⟩

/-- Resolving a text is balanced, whatever processors the session has. -/
theorem balanced_resolveText {start : Run} (hfresh : start.session.Fresh) (depth : Nat) :
    (resolveText depth).Related (Balanced start) fun _ => resolveText depth := by
  have C := balanced_compatible start
  induction depth with
  | zero => exact C.refuse _ _
  | succ depth ih =>
      refine C.weaveText ⟨ih.text, balanced_fetchBlock hfresh ih.text, fun context => ?_⟩
      refine C.runProcessor (fun name other => ?_) ih context fun _ => Nat.le_refl depth
      exact balanced_perform start (Action.sparesRecords_register name other)

theorem balanced_resolveFile {start : Run} (hfresh : start.session.Fresh) (depth : Nat)
    (file : Text) :
    Balanced start Text (resolveFile depth file) fun _ => resolveFile depth file := by
  exact (balanced_compatible start).fileText
    (balanced_fetchBlock hfresh (balanced_resolveText hfresh depth).text) file

/-- The invariant of resolving. On a freshly loaded session, with any processors, at
every point of resolving a file, also when it fails in the end: the chain has no
duplicates and lists the blocks in progress in the order in which they were entered,
a record has content exactly when it is done, no block is entered twice or gets its
content twice, every block is left in order, and the records are those that were
loaded. A file that has been resolved leaves an empty chain and no block in progress. -/
theorem resolveFile_orderly {loaded : Run} (h : Loaded loaded) (depth : Nat) (file : Text) :
    (∀ past, past <+: (resolveFile depth file).actions loaded →
      (loaded.after past).session.chain.Nodup ∧
      (loaded.after past).session.chain = (loaded.entered past).filter
        (fun key => (loaded.after past).session.state? key = some .inProgress) ∧
      (∀ key, (loaded.after past).session.state? key = some .inProgress →
        key ∈ loaded.entered past) ∧
      (∀ key record, (loaded.after past).session.record? key = some record →
        (record.content.isSome ↔ record.state = .done)) ∧
      (loaded.entered past).Nodup ∧ (loaded.completed past).Nodup ∧
      (loaded.after past).session.records.names = loaded.session.records.names ∧
      ∀ key, ((loaded.after past).session.record? key).map Record.found =
        (loaded.session.record? key).map Record.found) ∧
    (∀ past record content,
      past ++ [.leave record content] <+: (resolveFile depth file).actions loaded →
        ((Action.leave record content).perform (loaded.after past)).1 = .ok ()) ∧
    ∀ text after, (resolveFile depth file).run loaded = (.ok text, after) →
      after = loaded.after ((resolveFile depth file).actions loaded) ∧
      after.session.chain = [] ∧ ∀ key, after.session.state? key ≠ some .inProgress := by
  have hfresh := h.fresh
  obtain ⟨hsteady, hchain⟩ := balanced_resolveFile hfresh depth file [] (Steady.nil hfresh)
  rw [List.nil_append] at hsteady
  refine ⟨?_, hsteady.leaves, ?_⟩
  · intro past hpast
    have horderly := hsteady.orderly past hpast
    refine ⟨horderly.chain_nodup, horderly.chain_eq, ?_, horderly.content_iff,
      horderly.entered_nodup, horderly.completed_nodup, horderly.names_eq, horderly.found_eq⟩
    intro key hkey
    exact (horderly.mem_entered key).2 (Or.inl hkey)
  · intro text after hrun
    have hafter := Weave.eq_after_of_run hrun
    have hempty : after.session.chain = [] := (hchain text after hrun).trans hfresh.chain
    refine ⟨hafter, hempty, ?_⟩
    intro key hkey
    have hlast := hsteady.now
    rw [Run.after_nil, ← hafter] at hlast
    have hmem := (hlast.mem_chain_iff key).2 hkey
    rw [hempty] at hmem
    exact List.not_mem_nil hmem

theorem resolveFile_orderly_pair : Loaded Pair.loaded ∧
    ((resolveFile 3 Pair.outer).run Pair.loaded).1 = .ok ['y', 'y'] ∧
      (Pair.loaded.after ((resolveFile 3 Pair.outer).actions Pair.loaded)).session.chain = [] := by
  have hok : ((resolveFile 3 Pair.outer).run Pair.loaded).1 = .ok ['y', 'y'] := by
    with_unfolding_all rfl
  obtain ⟨-, -, hend⟩ := resolveFile_orderly Pair.loaded_loaded 3 Pair.outer
  obtain ⟨hafter, hchain, -⟩ := hend _ _ (Prod.ext hok rfl)
  exact ⟨Pair.loaded_loaded, hok, hafter ▸ hchain⟩

end BlockWeave
