import BlockWeave.Proofs.Weaving.Record
import BlockWeave.Proofs.Weaving.Relation
import Mathlib.Order.Filter.AtTopBot.Basic

/-!
# Expanding texts without a memory

Expanding is resolving without a memory: the content of a block is found anew at every
reference, no content is kept, and no block is ever in progress. Where nothing is
exported, what a text expands to depends on the setting of the run and on what
discovery has found, and on nothing else.

## Implementation notes

A text that needs a greater bound than it is given fails, so two expansions are compared
for all bounds that are great enough. `Follows` says this of a program and a family of
programs; the programs on its left-hand side range over the runs of an invariant.
-/

namespace BlockWeave

open Filter

namespace Weaving

/-- A text expanded in a file, where texts may be nested as deeply as the bound says. -/
def expandText : Nat → Resolver
  | 0 => .refuse .depthExceeded
  | depth + 1 => weaveText (expandText depth) (fetchBlock (evaluate (expandText depth))) depth

/-- The text of a file that has been loaded, expanded. -/
def expandFile (depth : Nat) : (file : Text) → Weave Text :=
  fileText (fetchBlock (evaluate (expandText depth)))

end Weaving

/-- Nothing goes to a variant, to a file or into the registry. -/
def Action.Keeps : Action → Prop
  | .define .. | .write .. | .register .. => False
  | .note _ | .load _ | .enter _ | .leave .. => True

instance : DecidablePred Action.Keeps
  | .define .. | .write .. | .register .. => .isFalse id
  | .note _ | .load _ | .enter _ | .leave .. => .isTrue trivial

/-- A list of actions that exports and registers nothing. -/
def LeavesSetting (actions : List Action) : Prop :=
  ∀ action ∈ actions, action.Keeps

instance (actions : List Action) : Decidable (LeavesSetting actions) :=
  inferInstanceAs (Decidable (∀ action ∈ actions, action.Keeps))

@[simp] theorem leavesSetting_nil : LeavesSetting [] := by
  simp [LeavesSetting]

@[simp] theorem leavesSetting_cons {action : Action} {actions : List Action} :
    LeavesSetting (action :: actions) ↔ action.Keeps ∧ LeavesSetting actions :=
  List.forall_mem_cons

@[simp] theorem leavesSetting_append {actions more : List Action} :
    LeavesSetting (actions ++ more) ↔ LeavesSetting actions ∧ LeavesSetting more :=
  List.forall_mem_append

/-- A run with the setting and the findings of the run at the start. -/
structure Alike (start now : Run) : Prop where
  setting : SameSetting now start
  found_eq : ∀ key, (now.session.record? key).map Record.found =
    (start.session.record? key).map Record.found

namespace Alike

variable {start now : Run}

theorem refl (start : Run) : Alike start start :=
  ⟨SameSetting.refl start, fun _ => rfl⟩

theorem note (h : Alike start now) (entry : LogEntry) : Alike start (now.note entry) :=
  ⟨⟨h.setting.options, h.setting.registry, h.setting.variants, h.setting.disk⟩, h.found_eq⟩

/-- Every run has a record for the same blocks. -/
theorem record?_eq_none (h : Alike start now) {key : BlockKey} :
    now.session.record? key = none ↔ start.session.record? key = none := by
  rw [← Option.map_eq_none_iff, h.found_eq, Option.map_eq_none_iff]

/-- The record of a block is known but for how far its resolution has come. -/
theorem exists_record (h : Alike start now) {key : BlockKey} {record : Record}
    (hr : start.session.record? key = some record) :
    ∃ other, now.session.record? key = some other ∧ other.found = record.found := by
  have hfound := h.found_eq key
  rw [hr, Option.map_some] at hfound
  exact Option.map_eq_some_iff.1 hfound

/-- A record is stored that has been found as the one that it replaces. -/
theorem store (h : Alike start now) {after : Run} {old record : Record} {chain : List BlockKey}
    (hstored : Stored now record chain after)
    (hold : now.session.record? record.key = some old) (hfound : record.found = old.found) :
    Alike start after := by
  refine ⟨hstored.setting.trans h.setting, ?_⟩
  intro key
  rw [hstored.found_eq hold hfound, h.found_eq]

theorem exists_start (h : Alike start now) {key : BlockKey} {record : Record}
    (hr : now.session.record? key = some record) :
    ∃ other, start.session.record? key = some other ∧ record.found = other.found := by
  have hfound := h.found_eq key
  rw [hr, Option.map_some] at hfound
  obtain ⟨other, hother, he⟩ := Option.map_eq_some_iff.1 hfound.symm
  exact ⟨other, hother, he.symm⟩

end Alike

open Weaving

/-- The content of a record does not depend on how far its resolution has come. -/
theorem evaluate_congr (resolve : Resolver) {record other : Record}
    (h : record.found = other.found) : evaluate resolve record = evaluate resolve other := by
  have hfound (r : Record) : evaluate resolve r = evaluate resolve r.found := rfl
  rw [hfound record, h, ← hfound other]

theorem isBinary_congr {record other : Record} (h : record.found = other.found) :
    record.isBinary = other.isBinary := by
  have hbinary := congrArg Record.isBinary h
  exact hbinary

/-- A program ends with one and the same result on every run that is like the one at
the start, and exports nothing. -/
def Yields (start : Run) {α : Type} (m : Weave α) (a : α) : Prop :=
  ∀ now, Alike start now →
    ∃ after, m.run now = (.ok a, after) ∧ Alike start after ∧ LeavesSetting (m.actions now)

namespace Yields

variable {start : Run} {α β : Type}

theorem done (a : α) : Yields start (.done a) a :=
  fun now h => ⟨now, rfl, h, leavesSetting_nil⟩

theorem bind {m : Weave α} {k : α → Weave β} {a : α} {b : β} (hm : Yields start m a)
    (hk : Yields start (k a) b) : Yields start (m.bind k) b := by
  intro now h
  obtain ⟨mid, hrun, hmid, hnone⟩ := hm now h
  obtain ⟨after, hrun', hafter, hnone'⟩ := hk mid hmid
  refine ⟨after, ?_, hafter, ?_⟩
  · rw [Weave.run_bind_of_ok hrun, hrun']
  · rw [Weave.actions_bind_of_ok hrun]
    exact leavesSetting_append.2 ⟨hnone, hnone'⟩

theorem read {view : Run → α} (hview : Settled view) {k : α → Weave β} {b : β} {now : Run}
    (hnow : Alike start now) (hk : Yields start (k (view now)) b) :
    Yields start ((Weave.read view).bind k) b := by
  intro other h
  rw [hview now other (hnow.setting.trans h.setting.symm)] at hk
  exact hk other h

/-- A program has one result. -/
theorem unique {m : Weave α} {a b : α} (ha : Yields start m a) (hb : Yields start m b) :
    a = b := by
  obtain ⟨_, hrun, -⟩ := ha start (Alike.refl start)
  obtain ⟨_, hrun', -⟩ := hb start (Alike.refl start)
  rw [hrun] at hrun'
  cases hrun'
  rfl

/-- The content of a block is that of its record. -/
theorem fetchBlock_some {resolve : Resolver} {key : BlockKey} {record : Record} {content : Content}
    (hr : start.session.record? key = some record)
    (h : Yields start (evaluate resolve record) content) :
    Yields start (fetchBlock (evaluate resolve) key) (some (content, record.isBinary)) := by
  intro now hnow
  obtain ⟨other, hother, hfound⟩ := hnow.exists_record hr
  obtain ⟨hrun, hactions⟩ := BlockWeave.fetchBlock_some hother
  rw [hrun, hactions, evaluate_congr resolve hfound, isBinary_congr hfound]
  have hresult : Yields start
      ((evaluate resolve record).bind fun content => .done (some (content, record.isBinary)))
      (some (content, record.isBinary)) := h.bind (done _)
  exact hresult now hnow

theorem fetchBlock_none {resolve : Resolver} {key : BlockKey}
    (hr : start.session.record? key = none) :
    Yields start (fetchBlock (evaluate resolve) key) none := by
  intro now hnow
  obtain ⟨hrun, hactions⟩ :=
    @BlockWeave.fetchBlock_none (evaluate resolve) key now (hnow.record?_eq_none.2 hr)
  exact ⟨now, hrun, hnow, hactions ▸ leavesSetting_nil⟩

end Yields

/-- Where a program ends well on a run of the invariant and exports nothing, the
invariant holds again, and almost all programs of the family have the same result. -/
def Follows (start : Run) (I : Run → Prop) : ProgramRelation := fun α m p =>
  ∀ now, I now → ∀ a after, m.run now = (.ok (a : α), after) → LeavesSetting (m.actions now) →
    I after ∧ ∀ᶠ n in atTop, Yields start (p n) a

/-- An invariant of runs that are like the one at the start, which says nothing about
the log. -/
structure Invariant (start : Run) (I : Run → Prop) : Prop where
  alike : ∀ now, I now → Alike start now
  note : ∀ now entry, I now → I (now.note entry)

theorem alike_invariant (start : Run) : Invariant start (Alike start) :=
  ⟨fun _ h => h, fun _ entry h => h.note entry⟩

/-- Following is kept by the operations that weaving is built from. -/
theorem Invariant.compatible {start : Run} {I : Run → Prop} (hI : Invariant start I) :
    Compatible (Follows start I) where
  done a := by
    intro now h b after hrun _
    cases hrun
    exact ⟨h, Eventually.of_forall fun _ => Yields.done a⟩
  fail e p := by
    intro now _ b after hrun
    cases hrun
  bind := by
    intro α β m p k l hm hk now h b after hrun hnone
    obtain ⟨a, mid, hrun, hrun'⟩ := Weave.run_bind_eq_ok_iff.1 hrun
    rw [Weave.actions_bind_of_ok hrun, leavesSetting_append] at hnone
    obtain ⟨hmid, hyields⟩ := hm now h a mid hrun hnone.1
    obtain ⟨hafter, hyields'⟩ := hk a mid hmid b after hrun' hnone.2
    refine ⟨hafter, ?_⟩
    filter_upwards [hyields, hyields'] with n hn hn'
    exact hn.bind hn'
  read := by
    intro α β view k l hview hk now h b after hrun hnone
    obtain ⟨hafter, hyields⟩ := hk now now h b after hrun hnone
    refine ⟨hafter, ?_⟩
    filter_upwards [hyields] with n hn
    exact Yields.read hview (hI.alike now h) hn
  perform action haction := by
    intro now h a after hrun hnone
    rw [Weave.run_perform] at hrun
    rw [Weave.actions_perform, leavesSetting_cons] at hnone
    cases action with
    | note entry =>
        cases hrun
        refine ⟨hI.note now entry h, Eventually.of_forall fun _ other hother => ?_⟩
        exact ⟨other.note entry, rfl, hother.note entry, by simpa using hnone.1⟩
    | define name content => exact hnone.1.elim
    | write charset path content => exact hnone.1.elim
    | register name processor => exact haction.elim
    | load path => exact haction.elim
    | enter record => exact haction.elim
    | leave record content => exact haction.elim

namespace Follows

variable {start : Run} {I : Run → Prop} {α : Type} {m : Weave α} {p q : Nat → Weave α}

/-- What almost all programs of a family do is all that counts. -/
theorem congr (h : Follows start I α m p) (hpq : ∀ᶠ n in atTop, p n = q n) :
    Follows start I α m q := by
  intro now hnow a after hrun hnone
  obtain ⟨hafter, hyields⟩ := h now hnow a after hrun hnone
  refine ⟨hafter, ?_⟩
  filter_upwards [hyields, hpq] with n hn he
  exact he ▸ hn

/-- A family may as well be counted from one. -/
theorem of_succ (h : Follows start I α m fun n => p (n + 1)) : Follows start I α m p := by
  intro now hnow a after hrun hnone
  obtain ⟨hafter, hyields⟩ := h now hnow a after hrun hnone
  refine ⟨hafter, ?_⟩
  rw [← map_add_atTop_eq_nat 1]
  exact hyields

/-- A result that is found on one run is found on all of them. -/
theorem yields (h : Follows start (Alike start) α m p) {a : α} (ha : Yields start m a) :
    ∀ᶠ n in atTop, Yields start (p n) a := by
  obtain ⟨after, hrun, -, hnone⟩ := ha start (Alike.refl start)
  exact (h start (Alike.refl start) a after hrun hnone).2

end Follows

/-- A program whose result does not depend on the run. -/
def Uniform (start : Run) {α : Type} (m : Weave α) : Prop :=
  Follows start (Alike start) α m fun _ => m

theorem Uniform.yields {start : Run} {α : Type} {m : Weave α} (h : Uniform start m)
    {now after : Run} {a : α} (hnow : Alike start now) (hrun : m.run now = (.ok a, after))
    (hnone : LeavesSetting (m.actions now)) : Yields start m a :=
  (eventually_const.1 (h now hnow a after hrun hnone).2)

/-- A program in two parts has a result when both parts have one. -/
theorem Uniform.of_bind {start : Run} {α β : Type} {m : Weave α} {k : α → Weave β} {b : β}
    (hm : Uniform start m) (hk : ∀ a, Uniform start (k a)) (h : Yields start (m.bind k) b) :
    ∃ a, Yields start m a ∧ Yields start (k a) b := by
  obtain ⟨after, hrun, -, hnone⟩ := h start (Alike.refl start)
  obtain ⟨a, mid, hrun, hrun'⟩ := Weave.run_bind_eq_ok_iff.1 hrun
  rw [Weave.actions_bind_of_ok hrun, leavesSetting_append] at hnone
  have hmid := (hm start (Alike.refl start) a mid hrun hnone.1).1
  exact ⟨a, hm.yields (Alike.refl start) hrun hnone.1, (hk a).yields hmid hrun' hnone.2⟩

/-- A registration counts as an export. -/
theorem Follows.register (start : Run) (I : Run → Prop) (name : Text)
    (processor : Option Processor) :
    Follows start I Unit (.perform (.register name processor)) fun _ =>
      .perform (.register name processor) := by
  intro now _ a after _ hnone
  rw [Weave.actions_perform, leavesSetting_cons] at hnone
  exact hnone.1.elim

/-- What a processor makes follows when texts do, whatever the processor asks for. -/
theorem Follows.runProcessor {start : Run} {I : Run → Prop} (hI : Invariant start I)
    {resolve : Resolver} {resolves : Nat → Resolver}
    (htext : resolve.Related (Follows start I) resolves) (depth : Nat) (context : Context)
    (processor : Processor) (content : Content) :
    Follows start I Content (Weaving.runProcessor resolve context depth processor content)
      fun n => Weaving.runProcessor (resolves n) context n processor content := by
  have hroom := hI.compatible.runProcessor (Follows.register start I) htext context
    (fun n => Nat.le_max_left depth n) processor content
  refine hroom.congr ?_
  filter_upwards [eventually_ge_atTop depth] with n hn
  rw [Nat.max_eq_right hn]

/-- The content of a block follows when texts do. -/
theorem Follows.fetchBlock {start : Run} {resolve : Resolver} {resolves : Nat → Resolver}
    (htext : ∀ file text,
      Follows start (Alike start) Text (resolve file text) fun n => resolves n file text)
    (key : BlockKey) :
    Follows start (Alike start) _ (Weaving.fetchBlock (evaluate resolve) key) fun n =>
      Weaving.fetchBlock (evaluate (resolves n)) key := by
  have C := (alike_invariant start).compatible
  intro now h found after hrun hnone
  cases hr : now.session.record? key with
  | none =>
      rw [(fetchBlock_none hr).1] at hrun
      cases hrun
      exact ⟨h, Eventually.of_forall fun _ =>
        Yields.fetchBlock_none (h.record?_eq_none.1 hr)⟩
  | some record =>
      obtain ⟨hfetch, hactions⟩ := @fetchBlock_some (evaluate resolve) key now record hr
      obtain ⟨other, hother, hfound⟩ := h.exists_start hr
      rw [hfetch] at hrun
      rw [hactions] at hnone
      obtain ⟨content, mid, heval, hdone⟩ := Weave.run_bind_eq_ok_iff.1 hrun
      rw [Weave.actions_bind_of_ok heval, leavesSetting_append] at hnone
      obtain ⟨hmid, hyields⟩ := C.evaluate htext record now h content mid heval hnone.1
      cases hdone
      refine ⟨hmid, ?_⟩
      filter_upwards [hyields] with n hn
      rw [isBinary_congr hfound]
      exact Yields.fetchBlock_some hother (evaluate_congr _ hfound ▸ hn)

/-- What a text expands to does not depend on the run. -/
theorem uniform_expandText (start : Run) (depth : Nat) :
    (expandText depth).Related (Follows start (Alike start)) fun _ => expandText depth := by
  have C := (alike_invariant start).compatible
  induction depth with
  | zero => exact C.refuse _ _
  | succ depth ih =>
      refine C.weaveText ⟨ih.text, Follows.fetchBlock ih.text, fun context => ?_⟩
      exact C.runProcessor (Follows.register start _) ih context fun _ => Nat.le_refl depth

/-- A family of resolvers may as well be counted from one. -/
theorem Follows.related_of_succ {start : Run} {I : Run → Prop} {resolve : Resolver}
    {resolves : Nat → Resolver}
    (h : resolve.Related (Follows start I) fun n => resolves (n + 1)) :
    resolve.Related (Follows start I) resolves :=
  ⟨fun file text => (h.text file text).of_succ, fun file text => (h.scan file text).of_succ⟩

/-- What a text expands to does not depend on the bound, if it is great enough. -/
theorem expandText_follows (start : Run) (depth : Nat) :
    (expandText depth).Related (Follows start (Alike start)) expandText := by
  have I := alike_invariant start
  induction depth with
  | zero => exact I.compatible.refuse _ _
  | succ depth ih =>
      apply Follows.related_of_succ
      exact I.compatible.weaveText
        ⟨ih.text, Follows.fetchBlock ih.text, Follows.runProcessor I ih depth⟩

end BlockWeave
