import BlockWeave.Proofs.Discovery.Fresh
import BlockWeave.Session.Desk
import Mathlib.Data.List.Induction
import Mathlib.Order.Nat

/-!
# Calls of a session

Records are created, entered and left in any order, whatever comes of the single calls.
A call changes one record at most: it puts it in progress, or gives it a content. So the
state of a record goes forward, and its content stays once it has one, as long as the record
is not entered again when it is done. This is not refused, and then the content can be
replaced.

## Implementation notes

A call is about a record of the session's table, which is known by its key, or about
another one, which may have a key of the table as well. Both go through the same
operations on records, so one lemma says what a call can do (`Desk.outcome_perform`).
-/

namespace BlockWeave

namespace Desk

/-- The records of the table stand under their own keys. -/
def Keyed (desk : Desk) : Prop :=
  ∀ key record, desk.session.record? key = some record → record.key = key

end Desk

/-- The place of a name is the place of its value. -/
theorem Table.exists_idxOf? {κ β : Type} [DecidableEq κ] {table : Table κ β} {k : κ} {v : β}
    (h : table.get? k = some v) :
    ∃ index, table.names.idxOf? k = some index ∧ (table.map Prod.snd)[index]? = some v := by
  induction table with
  | nil => cases h
  | cons binding table ih =>
      rw [names, List.map_cons, List.idxOf?_cons]
      by_cases hk : binding.1 = k
      · simp only [get?, hk, if_true, Option.some.injEq] at h
        exact ⟨0, by simp [hk], by simp [h]⟩
      · simp only [get?, hk, if_false] at h
        obtain ⟨index, hindex, hget⟩ := ih h
        rw [names] at hindex
        exact ⟨index + 1, by simp [hk, hindex], by simpa using hget⟩

namespace BlockState

/-- How far a state is on the way of a record. -/
def rank : BlockState → Nat
  | unvisited => 0
  | inProgress => 1
  | done => 2

theorem rank_le_done (state : BlockState) : state.rank ≤ done.rank := by
  cases state <;> decide

end BlockState

namespace Record

/-- The record in progress. -/
def entered (record : Record) : Record :=
  { record with state := .inProgress }

/-- The record with its content. -/
def completed (record : Record) (content : Content) : Record :=
  { record with content := some content, state := .done }

@[simp] theorem entered_key (record : Record) : record.entered.key = record.key := rfl

@[simp] theorem completed_key (record : Record) (content : Content) :
    (record.completed content).key = record.key := rfl

/-- A record is entered exactly when it is not in progress. -/
theorem enter_cases (record : Record) (chain : List BlockKey) :
    (record.state = .inProgress ∧ ∃ e, record.enter chain = .error e) ∨
      (record.state ≠ .inProgress ∧
        record.enter chain = .ok (record.entered, chain ++ [record.key])) := by
  rw [enter]
  split
  next h => exact Or.inl ⟨h, _, rfl⟩
  next h => exact Or.inr ⟨h, rfl⟩

/-- A record that is left gets its content, unless it is done. -/
theorem leave_cases (record : Record) (content : Content) (chain : List BlockKey) :
    (∃ e rest, record.leave content chain = (.error e, rest)) ∨
      (record.state ≠ .done ∧ ∃ rest,
        record.leave content chain = (.ok (record.completed content), rest)) := by
  simp only [leave, complete]
  split
  next => exact Or.inl ⟨_, _, rfl⟩
  next popped _ =>
    split
    next => exact Or.inl ⟨_, _, rfl⟩
    next =>
      split
      next => exact Or.inl ⟨_, _, rfl⟩
      next h => exact Or.inr ⟨h, _, rfl⟩

end Record

namespace Desk

variable {desk : Desk} {holder : Holder} {record : Record}

/-- A record is put in the place of one with its key. -/
theorem record?_put (hkeyed : desk.Keyed) (hrecord : desk.record? holder = some record)
    {next : Record} (hkey : next.key = record.key) (chain : List BlockKey) (other : Holder) :
    (desk.put chain next holder).record? other =
      if holder = other then some next else desk.record? other := by
  cases holder with
  | listed key =>
      have hnext : next.key = key := hkey.trans (hkeyed key record hrecord)
      cases other with
      | listed key' =>
          by_cases h : key = key'
          · subst h
            rw [if_pos rfl, ← hnext]
            exact Session.record?_store_self desk.session next
          · rw [if_neg (by simpa using h)]
            exact Session.record?_store_of_ne desk.session (hnext ▸ h)
      | stray index => simp [put, record?]
  | stray index =>
      have hlt := (List.getElem?_eq_some_iff.1 hrecord).1
      cases other with
      | listed key => simp [put, record?, Session.record?]
      | stray index' =>
          by_cases h : index = index'
          · subst h
            simp [put, record?, hlt]
          · simp [put, record?, h]

theorem keyed_put (hkeyed : desk.Keyed) (hrecord : desk.record? holder = some record)
    {next : Record} (hkey : next.key = record.key) (chain : List BlockKey) :
    (desk.put chain next holder).Keyed := by
  intro key found hfound
  have hput := record?_put hkeyed hrecord hkey chain (.listed key)
  rw [record?, hfound] at hput
  split at hput
  next h =>
    subst h
    cases hput
    exact hkey.trans (hkeyed key record hrecord)
  next => exact hkeyed key found hput.symm

/-- A record of the table and another one are entered alike. -/
theorem enter_eq (hrecord : desk.record? holder = some record) :
    desk.enter holder =
      match record.enter desk.session.chain with
      | .ok (entered, chain) => (.ok (), desk.put chain entered holder)
      | .error e => (.error e, desk) := by
  cases holder with
  | listed key =>
      have hsession : desk.session.record? key = some record := hrecord
      simp only [enter, hsession, Session.enter]
      cases record.enter desk.session.chain <;> rfl
  | stray index =>
      have hstray : desk.strays[index]? = some record := hrecord
      simp only [enter, hstray]
      cases record.enter desk.session.chain <;> rfl

/-- A record of the table and another one are left alike. -/
theorem leave_eq (hrecord : desk.record? holder = some record) (content : Content) :
    desk.leave content holder =
      match record.leave content desk.session.chain with
      | (.ok left, chain) => (.ok (), desk.put chain left holder)
      | (.error e, chain) =>
          (.error e, { desk with session := { desk.session with chain } }) := by
  cases holder with
  | listed key =>
      have hsession : desk.session.record? key = some record := hrecord
      simp only [leave, hsession, Session.leave]
      rcases record.leave content desk.session.chain with ⟨e | left, chain⟩ <;> rfl
  | stray index =>
      have hstray : desk.strays[index]? = some record := hrecord
      simp only [leave, hstray]
      rcases record.leave content desk.session.chain with ⟨e | left, chain⟩ <;> rfl

/-- Whoever holds a record holds it still when the table has been cleared. -/
theorem record?_reset (hrecord : desk.record? holder = some record) :
    desk.reset.record? (desk.afterReset holder) = some record := by
  cases holder with
  | listed key =>
      obtain ⟨index, hindex, hget⟩ := Table.exists_idxOf? hrecord
      simp only [afterReset, hindex, record?, reset]
      rw [List.getElem?_append_right (Nat.le_add_right _ _), Nat.add_sub_cancel_left, hget]
  | stray index =>
      have hlt := (List.getElem?_eq_some_iff.1 hrecord).1
      rw [record?] at hrecord
      rw [afterReset, record?, reset, List.getElem?_append_left hlt, hrecord]

/-- A record in progress is not entered; any other one is. -/
theorem enter_cases (hrecord : desk.record? holder = some record) :
    (record.state = .inProgress ∧ ∃ e, desk.enter holder = (.error e, desk)) ∨
      (record.state ≠ .inProgress ∧ ∃ chain,
        desk.enter holder = (.ok (), desk.put chain record.entered holder)) := by
  rw [enter_eq hrecord]
  rcases record.enter_cases desk.session.chain with ⟨hstate, e, henter⟩ | ⟨hstate, henter⟩
  · rw [henter]
    exact Or.inl ⟨hstate, e, rfl⟩
  · rw [henter]
    exact Or.inr ⟨hstate, _, rfl⟩

/-- A record that is left gets its content, or the call fails and no record changes. A
record that is done is not left. -/
theorem leave_cases (hrecord : desk.record? holder = some record) (content : Content) :
    (∃ e chain, desk.leave content holder =
        (.error e, { desk with session := { desk.session with chain } })) ∨
      (record.state ≠ .done ∧ ∃ chain,
        desk.leave content holder =
          (.ok (), desk.put chain (record.completed content) holder)) := by
  rw [leave_eq hrecord]
  rcases record.leave_cases content desk.session.chain with ⟨e, rest, hleave⟩ |
    ⟨hstate, rest, hleave⟩
  · rw [hleave]
    exact Or.inl ⟨e, rest, rfl⟩
  · rw [hleave]
    exact Or.inr ⟨hstate, rest, rfl⟩

theorem enter_missing (h : desk.record? holder = none) :
    desk.enter holder = (.error .missingKey, desk) := by
  cases holder with
  | listed key =>
      have hsession : desk.session.record? key = none := h
      simp only [enter, hsession]
  | stray index =>
      have hstray : desk.strays[index]? = none := h
      simp only [enter, hstray]

theorem leave_missing (h : desk.record? holder = none) (content : Content) :
    desk.leave content holder = (.error .missingKey, desk) := by
  cases holder with
  | listed key =>
      have hsession : desk.session.record? key = none := h
      simp only [leave, hsession]
  | stray index =>
      have hstray : desk.strays[index]? = none := h
      simp only [leave, hstray]

/-- A new record changes no other one. -/
theorem record?_store_new {new : Record} (hnew : desk.session.record? new.key = none)
    (hrecord : desk.record? holder = some record) :
    record? { desk with session := desk.session.store new } holder = some record := by
  cases holder with
  | stray index => exact hrecord
  | listed key =>
      have hne : new.key ≠ key := by
        rintro rfl
        rw [record?, hnew] at hrecord
        cases hrecord
      exact (Session.record?_store_of_ne desk.session hne).trans hrecord

/-- What a call can do: it fails and changes no record, it finds a record or adds a new one,
or it enters or completes the record that it is about. -/
inductive Outcome (desk : Desk) : Call → Except Error Unit → Desk → Prop
  | failed (call : Call) (e : Error) (chain : List BlockKey) :
      Outcome desk call (.error e) { desk with session := { desk.session with chain } }
  | found (key : BlockKey) : Outcome desk (.getOrCreate key) (.ok ()) desk
  | created {call : Call} {new : Record} (hnew : desk.session.record? new.key = none)
      (hcall : call = .create new.key new.isFile ∨ call = .getOrCreate new.key) :
      Outcome desk call (.ok ()) { desk with session := desk.session.store new }
  | entered {holder : Holder} {record : Record} (hrecord : desk.record? holder = some record)
      (hstate : record.state ≠ .inProgress) (chain : List BlockKey) :
      Outcome desk (.enter holder) (.ok ()) (desk.put chain record.entered holder)
  | completed {holder : Holder} {record : Record} (hrecord : desk.record? holder = some record)
      (hstate : record.state ≠ .done) (content : Content) (chain : List BlockKey) :
      Outcome desk (.leave holder content) (.ok ())
        (desk.put chain (record.completed content) holder)

theorem outcome_perform (desk : Desk) (call : Call) :
    Outcome desk call (desk.perform call).1 (desk.perform call).2 := by
  cases call with
  | create key isFile =>
      cases hrecord : desk.session.record? key with
      | none =>
          simp only [perform, Session.create_of_none hrecord]
          exact .created hrecord (Or.inl rfl)
      | some record =>
          have hhas : desk.session.records.has key = true := by
            rw [Table.has, ← Session.record?, hrecord]
            rfl
          simp only [perform, Session.create, hhas, if_true]
          exact .failed _ _ _
  | getOrCreate key =>
      cases hrecord : desk.session.record? key with
      | none =>
          simp only [perform, Session.getOrCreate_of_none hrecord]
          exact .created hrecord (Or.inr rfl)
      | some record =>
          simp only [perform, Session.getOrCreate_of_some hrecord]
          exact .found key
  | enter holder =>
      rw [perform]
      cases hrecord : desk.record? holder with
      | none =>
          rw [enter_missing hrecord]
          exact .failed _ _ _
      | some record =>
          rcases enter_cases hrecord with ⟨-, e, henter⟩ | ⟨hstate, chain, henter⟩
          · rw [henter]
            exact .failed _ e _
          · rw [henter]
            exact .entered hrecord hstate chain
  | leave holder content =>
      rw [perform]
      cases hrecord : desk.record? holder with
      | none =>
          rw [leave_missing hrecord]
          exact .failed _ _ _
      | some record =>
          rcases leave_cases hrecord content with ⟨e, chain, hleave⟩ | ⟨hstate, chain, hleave⟩
          · rw [hleave]
            exact .failed _ e chain
          · rw [hleave]
            exact .completed hrecord hstate content chain

/-- What a call can do to the record of a holder, and how it ends when it is about it. -/
inductive Change (holder : Holder) (record : Record) : Call → Except Error Unit → Record → Prop
  /-- Nothing is done, and a call about the record fails. -/
  | same {call : Call} {result : Except Error Unit}
      (henter : call = .enter holder → ∃ e, result = .error e)
      (hleave : ∀ content, call = .leave holder content → ∃ e, result = .error e) :
      Change holder record call result record
  /-- The record is entered, unless it is in progress. -/
  | entered (h : record.state ≠ .inProgress) :
      Change holder record (.enter holder) (.ok ()) record.entered
  /-- The record gets a content, unless it is done. -/
  | completed (h : record.state ≠ .done) (content : Content) :
      Change holder record (.leave holder content) (.ok ()) (record.completed content)

/-- A call that is not about a record leaves it alone. -/
theorem Change.other {call : Call} {result : Except Error Unit} (henter : call ≠ .enter holder)
    (hleave : ∀ content, call ≠ .leave holder content) :
    Change holder record call result record :=
  .same (fun h => absurd h henter) fun content h => absurd h (hleave content)

namespace Outcome

variable {next : Desk} {call : Call} {result : Except Error Unit}

theorem keyed (h : Outcome desk call result next) (hkeyed : desk.Keyed) : next.Keyed := by
  cases h with
  | failed e chain => exact hkeyed
  | found key => exact hkeyed
  | created hnew hcall =>
      intro key record hrecord
      rcases Session.record?_store_cases hrecord with ⟨rfl, rfl⟩ | ⟨-, hrecord⟩
      · rfl
      · exact hkeyed key record hrecord
  | @entered other found hfound hstate chain =>
      exact keyed_put hkeyed hfound found.entered_key chain
  | @completed other found hfound hstate content chain =>
      exact keyed_put hkeyed hfound (found.completed_key content) chain

/-- A call enters a record, completes it, or leaves it alone. -/
theorem change (h : Outcome desk call result next) (hkeyed : desk.Keyed)
    (hrecord : desk.record? holder = some record) :
    ∃ last, next.record? holder = some last ∧ Change holder record call result last := by
  cases h with
  | failed e chain =>
      refine ⟨record, ?_, .same (fun _ => ⟨_, rfl⟩) fun _ _ => ⟨_, rfl⟩⟩
      cases holder <;> exact hrecord
  | found key => exact ⟨record, hrecord, .other (by simp) (by simp)⟩
  | created hnew hcall =>
      refine ⟨record, record?_store_new hnew hrecord, .other ?_ ?_⟩
      · rcases hcall with rfl | rfl <;> simp
      · rcases hcall with rfl | rfl <;> simp
  | @entered other found hfound hstate chain =>
      have hput := record?_put hkeyed hfound found.entered_key chain holder
      by_cases heq : other = holder
      · subst heq
        obtain rfl := Option.some.inj (hfound.symm.trans hrecord)
        exact ⟨_, hput.trans (if_pos rfl), .entered hstate⟩
      · refine ⟨record, (hput.trans (if_neg heq)).trans hrecord, .other ?_ (by simp)⟩
        simpa using heq
  | @completed other found hfound hstate content chain =>
      have hput := record?_put hkeyed hfound (found.completed_key content) chain holder
      by_cases heq : other = holder
      · subst heq
        obtain rfl := Option.some.inj (hfound.symm.trans hrecord)
        exact ⟨_, hput.trans (if_pos rfl), .completed hstate content⟩
      · refine ⟨record, (hput.trans (if_neg heq)).trans hrecord, .other (by simp) ?_⟩
        simp [heq]

end Outcome

/-- As long as a done record is not entered, its state goes forward, and a done record stays
as it is. -/
theorem Change.forward {call : Call} {result : Except Error Unit} {last : Record}
    (h : Change holder record call result last)
    (hspared : call = .enter holder → record.state ≠ .done) :
    record.state.rank ≤ last.state.rank ∧ (record.state = .done → last = record) := by
  cases h with
  | same => exact ⟨le_rfl, fun _ => rfl⟩
  | entered hstate =>
      have hdone := hspared rfl
      constructor
      · cases hrank : record.state with
        | unvisited => exact Nat.zero_le 1
        | inProgress => exact absurd hrank hstate
        | done => exact absurd hrank hdone
      · exact fun h => absurd h hdone
  | completed hstate content =>
      constructor
      · exact record.state.rank_le_done
      · exact fun h => absurd h hstate

/-- Some call enters a record that is done. -/
def Reenters (desk : Desk) (holder : Holder) (calls : List Call) : Prop :=
  ∃ before rest record, calls = before ++ .enter holder :: rest ∧
    (desk.after before).record? holder = some record ∧ record.state = .done

/-- Between any two points of some calls, the state of a record does not go back. -/
def Forward (desk : Desk) (holder : Holder) (calls : List Call) : Prop :=
  ∀ before more rest earlier later, calls = before ++ more ++ rest →
    (desk.after before).record? holder = some earlier →
    (desk.after (before ++ more)).record? holder = some later →
    earlier.state.rank ≤ later.state.rank

theorem after_append (desk : Desk) (calls more : List Call) :
    desk.after (calls ++ more) = (desk.after calls).after more :=
  List.foldl_append

theorem after_concat (desk : Desk) (calls : List Call) (call : Call) :
    desk.after (calls ++ [call]) = ((desk.after calls).perform call).2 :=
  List.foldl_append

theorem Keyed.after (hkeyed : desk.Keyed) (calls : List Call) : (desk.after calls).Keyed := by
  induction calls using List.reverseRecOn with
  | nil => exact hkeyed
  | append_singleton calls call ih =>
      rw [after_concat]
      exact (outcome_perform _ call).keyed ih

/-- Calls that do not reenter a record keep it on its way. -/
theorem forward_after (hkeyed : desk.Keyed) (hrecord : desk.record? holder = some record)
    {calls : List Call} (hspared : ¬desk.Reenters holder calls) :
    ∃ last, (desk.after calls).record? holder = some last ∧
      record.state.rank ≤ last.state.rank ∧ (record.state = .done → last = record) := by
  induction calls using List.reverseRecOn with
  | nil => exact ⟨record, hrecord, le_rfl, fun _ => rfl⟩
  | append_singleton calls call ih =>
      have hearlier : ¬desk.Reenters holder calls := by
        rintro ⟨before, rest, found, rfl, hfound⟩
        exact hspared ⟨before, rest ++ [call], found, by simp, hfound⟩
      obtain ⟨mid, hmid, hrank, hkept⟩ := ih hearlier
      obtain ⟨last, hlast, hchange⟩ :=
        (outcome_perform (desk.after calls) call).change (hkeyed.after calls) hmid
      have hstep := hchange.forward fun hcall hdone =>
        hspared ⟨calls, [], mid, by rw [hcall], hmid, hdone⟩
      rw [after_concat]
      refine ⟨last, hlast, hrank.trans hstep.1, ?_⟩
      intro hdone
      have hsame := hkept hdone
      rw [hsame] at hstep
      exact hstep.2 hdone

/-- A done record can be entered. -/
theorem enter_done (hkeyed : desk.Keyed) (hrecord : desk.record? holder = some record)
    (hdone : record.state = .done) :
    (desk.perform (.enter holder)).1 = .ok () ∧
      (desk.perform (.enter holder)).2.record? holder = some record.entered := by
  rcases enter_cases hrecord with ⟨hstate, -⟩ | ⟨-, chain, henter⟩
  · rw [hdone] at hstate
    cases hstate
  · rw [perform, henter]
    exact ⟨rfl, (record?_put hkeyed hrecord record.entered_key chain holder).trans (if_pos rfl)⟩

/-- A done record cannot be left. -/
theorem leave_done (hrecord : desk.record? holder = some record) (hdone : record.state = .done)
    (content : Content) : ∃ e, (desk.perform (.leave holder content)).1 = .error e := by
  rcases leave_cases hrecord content with ⟨e, chain, hleave⟩ | ⟨hstate, -⟩
  · exact ⟨e, by rw [perform, hleave]⟩
  · exact absurd hdone hstate

/-- A call that leaves a record gives it its content. -/
theorem record?_leave (hkeyed : desk.Keyed) {content : Content}
    (h : (desk.perform (.leave holder content)).1 = .ok ()) :
    ∃ record, desk.record? holder = some record ∧
      (desk.perform (.leave holder content)).2.record? holder =
        some (record.completed content) := by
  rw [perform] at h ⊢
  cases hrecord : desk.record? holder with
  | none =>
      rw [leave_missing hrecord] at h
      cases h
  | some record =>
      rcases leave_cases hrecord content with ⟨e, chain, hleave⟩ | ⟨-, chain, hleave⟩
      · rw [hleave] at h
        cases h
      · rw [hleave]
        refine ⟨record, rfl, ?_⟩
        exact (record?_put hkeyed hrecord (record.completed_key content) chain holder).trans
          (if_pos rfl)

theorem Reenters.of_after {before more rest : List Call}
    (h : (desk.after before).Reenters holder more) :
    desk.Reenters holder (before ++ more ++ rest) := by
  obtain ⟨earlier, later, record, rfl, hrecord, hdone⟩ := h
  refine ⟨before ++ earlier, later ++ rest, record, by simp, ?_, hdone⟩
  rwa [after_append]

/-- A record goes forward as long as it is not entered when it is done, and only then. For
any calls of a session, in any order and failed ones included, about a record of its table
or another one: the state never goes back exactly when no call enters the record when it is
done. Then a content that it was given stays. A record that is done cannot be completed or
left again, but it can be entered, and this puts it back in progress. -/
theorem forward_iff_not_reenters (hkeyed : desk.Keyed) (holder : Holder) (calls : List Call) :
    (desk.Forward holder calls ↔ ¬desk.Reenters holder calls) ∧
    (¬desk.Reenters holder calls → ∀ before content rest,
      calls = before ++ .leave holder content :: rest →
      ((desk.after before).perform (.leave holder content)).1 = .ok () →
      ∃ last, (desk.after calls).record? holder = some last ∧ last.state = .done ∧
        last.content = some content) ∧
    ∀ before rest record, calls = before ++ rest →
      (desk.after before).record? holder = some record → record.state = .done →
      (∀ content, record.complete content = .error (.alreadyResolved record.key)) ∧
      (∀ content, ∃ e, ((desk.after before).perform (.leave holder content)).1 = .error e) ∧
      ((desk.after before).perform (.enter holder)).1 = .ok () ∧
      ((desk.after before).perform (.enter holder)).2.record? holder = some record.entered := by
  refine ⟨⟨?_, ?_⟩, ?_, ?_⟩
  · rintro hforward ⟨before, rest, record, hcalls, hrecord, hdone⟩
    have hentered := (enter_done (hkeyed.after before) hrecord hdone).2
    rw [← after_concat] at hentered
    have hrank := hforward before [.enter holder] rest record record.entered (by simp [hcalls])
      hrecord hentered
    rw [hdone] at hrank
    exact absurd hrank (show ¬BlockState.done.rank ≤ BlockState.inProgress.rank by decide)
  · intro hspared before more rest earlier later hcalls hearlier hlater
    have hmore : ¬(desk.after before).Reenters holder more := by
      intro h
      apply hspared
      rw [hcalls]
      exact h.of_after
    obtain ⟨last, hlast, hrank, -⟩ := forward_after (hkeyed.after before) hearlier hmore
    rw [after_append, hlast] at hlater
    cases hlater
    exact hrank
  · intro hspared before content rest hcalls hok
    obtain ⟨record, -, hrecord⟩ := record?_leave (hkeyed.after before) hok
    rw [← after_concat] at hrecord
    have hrest : ¬(desk.after (before ++ [.leave holder content])).Reenters holder rest := by
      intro h
      apply hspared
      have hagain := @Reenters.of_after desk holder _ rest [] h
      simpa [hcalls] using hagain
    obtain ⟨last, hlast, -, hkept⟩ := forward_after (hkeyed.after _) hrecord hrest
    rw [hkept rfl] at hlast
    refine ⟨record.completed content, ?_, rfl, rfl⟩
    rw [hcalls, ← List.singleton_append, ← List.append_assoc, after_append, hlast]
  · intro before rest record hcalls hrecord hdone
    refine ⟨?_, leave_done hrecord hdone, enter_done (hkeyed.after before) hrecord hdone⟩
    intro content
    rw [Record.complete, if_pos hdone]

namespace Sample

/-- A new session. -/
def start : Desk := { session := { options := {}, registry := [] } }

def key : BlockKey := ⟨['/', 'a'], ['x']⟩

/-- A record is created, entered twice and left twice; the second of each is refused. -/
def calls : List Call := [.create key false, .enter (.listed key), .enter (.listed key),
  .leave (.listed key) (.text ['1']), .leave (.listed key) (.text ['2'])]

/-- The record is entered and left once more. -/
def again : List Call := [.enter (.listed key), .leave (.listed key) (.text ['2'])]

/-- The record with a content. -/
def found (state : BlockState) (digit : Char) : Record :=
  { key, state, content := some (.text [digit]) }

theorem keyed : start.Keyed := by
  intro key record hrecord
  cases hrecord

/-- The record is done behind the last two calls only, and they do not enter it. -/
theorem spared : ¬start.Reenters (.listed key) calls := by
  rintro ⟨before, rest, record, hcalls, hrecord, hdone⟩
  -- Only the second and the third call enter the record.
  match before with
  | [] => simp [calls] at hcalls
  | [_] =>
      obtain rfl : _ = Call.create key false := by simpa [calls] using (List.cons.inj hcalls).1.symm
      cases hrecord
      cases hdone
  | [_, _] =>
      simp only [calls, List.cons_append, List.nil_append, List.cons.injEq] at hcalls
      obtain ⟨rfl, rfl, -⟩ := hcalls
      cases hrecord
      cases hdone
  | [_, _, _] => simp [calls] at hcalls
  | [_, _, _, _] => simp [calls] at hcalls
  | _ :: _ :: _ :: _ :: _ :: _ => simp [calls] at hcalls

end Sample

theorem forward_iff_not_reenters_once :
    Sample.start.Keyed ∧ Sample.start.Forward (.listed Sample.key) Sample.calls ∧
      ∃ last, (Sample.start.after Sample.calls).record? (.listed Sample.key) = some last ∧
        last.state = .done ∧ last.content = some (.text ['1']) := by
  have h := forward_iff_not_reenters Sample.keyed (.listed Sample.key) Sample.calls
  refine ⟨Sample.keyed, h.1.2 Sample.spared, ?_⟩
  exact h.2.1 Sample.spared (Sample.calls.take 3) _ _ rfl rfl

/-- A record that was entered and left is entered and left again: it goes back, and its content
is replaced. -/
theorem content_replaced :
    (Sample.start.after Sample.calls).record? (.listed Sample.key) = some (Sample.found .done '1') ∧
    ((Sample.start.after Sample.calls).after Sample.again).record? (.listed Sample.key) =
      some (Sample.found .done '2') ∧
    ¬Sample.start.Forward (.listed Sample.key) (Sample.calls ++ Sample.again) := by
  have hdone : (Sample.start.after Sample.calls).record? (.listed Sample.key) =
      some (Sample.found .done '1') := by rfl
  have hentered : (Sample.start.after (Sample.calls ++ Sample.again.take 1)).record?
      (.listed Sample.key) = some (Sample.found .inProgress '1') := by rfl
  refine ⟨hdone, by rfl, ?_⟩
  intro hforward
  have hrank := hforward Sample.calls (Sample.again.take 1) (Sample.again.drop 1) _ _ (by rfl)
    hdone hentered
  exact absurd hrank (by decide)

end Desk
end BlockWeave
