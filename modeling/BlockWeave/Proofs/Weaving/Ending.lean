import BlockWeave.Proofs.Weaving.Limit
import BlockWeave.Proofs.Weaving.Record
import Mathlib.Data.Finset.Card
import Mathlib.Data.Finset.Dedup
import Mathlib.Order.Filter.AtTopBot.Basic

/-!
# Resolution below a limit comes to an end

A block is entered once, so the number of blocks that have not been visited falls with
every block that is entered. Inside a block, the body of a marker is shorter than the text
that the marker stands in. Only an emitted text is bound by neither: below a limit on
emitted texts, resolution has one outcome as soon as its bound is great enough.

## Implementation notes

`Terminates` speaks about a family of programs, one for each bound. It is stated as a relation
that does not look at its left-hand side, so that the functions of `Weaving` need not be
gone through again.
-/

namespace BlockWeave

open Filter Weaving

/-- A processor that asks for nothing: it makes its content at once. -/
def Processor.Plain (processor : Processor) : Prop :=
  ∀ context, ∃ content, processor.script context = .done content

theorem Processor.plain_ofFunction (label : String) (f : Content → Text) :
    (Processor.ofFunction label f).Plain :=
  fun context => ⟨.text (f context.content), rfl⟩

/-- All processors of a registry are plain. -/
def Registry.Plain (registry : Registry) : Prop :=
  ∀ name processor, registry.find? name = some processor → processor.Plain

namespace Session

/-- The blocks that have not been visited. -/
def unvisited (session : Session) : Finset BlockKey :=
  session.records.names.toFinset.filter fun key => session.state? key = some .unvisited

theorem mem_unvisited {session : Session} {key : BlockKey} :
    key ∈ session.unvisited ↔ session.state? key = some .unvisited := by
  simp only [unvisited, Finset.mem_filter, List.mem_toFinset, and_iff_right_iff_imp]
  intro h
  obtain ⟨record, hrecord, -⟩ := Option.map_eq_some_iff.1 h
  exact List.mem_map.2 ⟨_, Table.mem_of_get?_eq_some hrecord, rfl⟩

end Session

namespace Stored

variable {now after : Run} {record : Record} {chain : List BlockKey}

/-- Only the block of a record that is stored may be visited by that. -/
theorem unvisited_subset (h : Stored now record chain after) (hstate : record.state ≠ .unvisited) :
    after.session.unvisited ⊆ now.session.unvisited := by
  intro key hkey
  rw [Session.mem_unvisited, h.state?_eq] at hkey
  rw [Session.mem_unvisited]
  split at hkey
  · exact absurd (Option.some.inj hkey) hstate
  · exact hkey

/-- A block that has been visited is not unvisited any more. -/
theorem card_unvisited_lt (h : Stored now record chain after) (hstate : record.state ≠ .unvisited)
    (hold : now.session.state? record.key = some .unvisited) :
    after.session.unvisited.card < now.session.unvisited.card := by
  refine Finset.card_lt_card ((Finset.ssubset_iff_of_subset (h.unvisited_subset hstate)).2 ?_)
  refine ⟨record.key, Session.mem_unvisited.2 hold, fun hkey => ?_⟩
  rw [Session.mem_unvisited, h.state?_eq, if_pos rfl] at hkey
  exact hstate (Option.some.inj hkey)

end Stored

/-- A run whose records stand under their keys and have content where they are done, and
whose processors are plain. -/
structure Consistent (run : Run) : Prop where
  keyed : ∀ key record, run.session.record? key = some record → record.key = key
  content : ∀ key record, run.session.record? key = some record → record.state = .done →
    ∃ content, record.content = some content
  plain : run.session.registry.Plain

namespace Consistent

variable {now after : Run}

theorem of_fresh (h : now.session.Fresh) (hplain : now.session.registry.Plain) :
    Consistent now := by
  constructor
  case keyed =>
    intro key record hr
    exact (h.records key record hr).key_eq
  case content =>
    intro key record hr hdone
    rw [(h.records key record hr).state_eq] at hdone
    cases hdone
  case plain => exact hplain

/-- Only the records and the processors matter. -/
theorem congr (h : Consistent now) (hrecords : after.session.records = now.session.records)
    (hregistry : after.session.registry = now.session.registry) : Consistent after := by
  have hrecord (key : BlockKey) : after.session.record? key = now.session.record? key := by
    rw [Session.record?, Session.record?, hrecords]
  constructor
  case keyed =>
    intro key record hr
    exact h.keyed key record (hrecord key ▸ hr)
  case content =>
    intro key record hr
    exact h.content key record (hrecord key ▸ hr)
  case plain => exact hregistry ▸ h.plain

/-- A record is stored that has content if it is done. -/
theorem store (h : Consistent now) {record : Record} {chain : List BlockKey}
    (hstored : Stored now record chain after)
    (hdone : record.state = .done → ∃ content, record.content = some content) :
    Consistent after := by
  constructor
  case keyed =>
    intro key other hr
    rcases hstored.record?_cases hr with ⟨rfl, rfl⟩ | ⟨-, hr⟩
    · rfl
    · exact h.keyed key other hr
  case content =>
    intro key other hr
    rcases hstored.record?_cases hr with ⟨rfl, rfl⟩ | ⟨-, hr⟩
    · exact hdone
    · exact h.content key other hr
  case plain => exact hstored.setting.registry ▸ h.plain

end Consistent

/-- A block is left with failures of the chain only. -/
theorem Record.leave_ne_depthExceeded (record : Record) (content : Content)
    (chain : List BlockKey) : (record.leave content chain).1 ≠ .error .depthExceeded := by
  simp only [leave, complete]
  split
  · simp
  · split
    · simp
    · split <;> simp

/-- An outcome that does not come from the bound, with no more blocks to visit than before. -/
structure Proper {α : Type} (now : Run) (outcome : Except Error α × Run) : Prop where
  result : outcome.1 ≠ .error .depthExceeded
  consistent : Consistent outcome.2
  unvisited : outcome.2.session.unvisited ⊆ now.session.unvisited

namespace Proper

variable {α : Type} {now : Run}

/-- The records stay as they are. -/
theorem of_eq {outcome : Except Error α × Run} (h : Consistent now)
    (hresult : outcome.1 ≠ .error .depthExceeded)
    (hrecords : outcome.2.session.records = now.session.records)
    (hregistry : outcome.2.session.registry = now.session.registry) : Proper now outcome := by
  refine ⟨hresult, h.congr hrecords hregistry, ?_⟩
  intro key hkey
  rw [Session.mem_unvisited] at hkey ⊢
  rwa [Session.state?, Session.record?, hrecords] at hkey

theorem error {β : Type} {e : Error} {after : Run}
    (h : Proper now ((.error e, after) : Except Error α × Run)) :
    Proper now ((.error e, after) : Except Error β × Run) :=
  ⟨fun he => h.result (congrArg Except.error (Except.error.inj he)), h.consistent, h.unvisited⟩

theorem trans {β : Type} {result : Except Error α} {mid : Run} {outcome : Except Error β × Run}
    (h : Proper now (result, mid)) (h' : Proper mid outcome) : Proper now outcome :=
  ⟨h'.result, h'.consistent, h'.unvisited.trans h.unvisited⟩

/-- An action that leaves the records alone. -/
theorem perform (h : Consistent now) {action : Action} (houtput : action.IsOutput)
    (hexternal : action.External) : Proper now (action.perform now) := by
  cases action with
  | note entry => exact of_eq h (by simp [Action.perform]) rfl rfl
  | define name content => exact of_eq h (by simp [Action.perform]) rfl rfl
  | write charset path content =>
      exact of_eq h ((external_write now.disk hexternal path content).ne_error rfl) rfl rfl
  | load path => exact houtput.elim
  | enter record => exact houtput.elim
  | leave record content => exact houtput.elim
  | register name processor => exact houtput.elim

/-- A block is left, or is not the innermost one. -/
theorem leave (h : Consistent now) (record : Record) (content : Content) :
    Proper now ((Action.leave record content).perform now) := by
  cases hperform : (Action.leave record content).perform now with
  | mk result after =>
      cases result with
      | ok _ =>
          obtain ⟨chain, hstored⟩ := Action.stored_of_leave hperform
          refine ⟨by simp, h.store hstored fun _ => ⟨content, rfl⟩, ?_⟩
          exact hstored.unvisited_subset (by simp)
      | error e =>
          simp only [Action.perform, Session.leave, Prod.mk.injEq] at hperform
          obtain ⟨hresult, rfl⟩ := hperform
          split at hresult
          · cases hresult
          next failure chain hleave =>
            cases hresult
            refine of_eq h ?_ rfl rfl
            have hne := record.leave_ne_depthExceeded content now.session.chain
            simpa [hleave] using hne

end Proper

/-- A family of programs has one proper outcome as soon as the bound is great enough. -/
def Halts {α : Type} (now : Run) (p : Nat → Weave α) : Prop :=
  ∃ outcome, Proper now outcome ∧ ∀ᶠ n in atTop, (p n).run now = outcome

namespace Halts

variable {α β : Type} {now : Run}

/-- A program that ends properly with any bound. -/
theorem of_run {p : Nat → Weave α} {outcome : Except Error α × Run}
    (hrun : ∀ n, (p n).run now = outcome) (h : Proper now outcome) : Halts now p :=
  ⟨outcome, h, Eventually.of_forall hrun⟩

theorem done (h : Consistent now) (a : α) : Halts now fun _ => .done a :=
  of_run (fun _ => Weave.run_done a now) (.of_eq h (by simp) rfl rfl)

theorem congr {p q : Nat → Weave α} (h : Halts now p)
    (hpq : ∀ᶠ n in atTop, (q n).run now = (p n).run now) : Halts now q := by
  obtain ⟨outcome, hproper, hrun⟩ := h
  refine ⟨outcome, hproper, ?_⟩
  filter_upwards [hpq, hrun] with n hn hp
  rw [hn, hp]

theorem bind {p : Nat → Weave α} {l : Nat → α → Weave β} (hp : Halts now p)
    (hl : ∀ a mid, Proper now ((.ok a, mid) : Except Error α × Run) → Halts mid fun n => l n a) :
    Halts now fun n => (p n).bind (l n) := by
  obtain ⟨⟨result, mid⟩, hmid, hrun⟩ := hp
  cases result with
  | error e =>
      refine ⟨(.error e, mid), hmid.error, ?_⟩
      filter_upwards [hrun] with n hn
      exact Weave.run_bind_of_error hn
  | ok a =>
      obtain ⟨outcome, hproper, hlast⟩ := hl a mid hmid
      refine ⟨outcome, hmid.trans hproper, ?_⟩
      filter_upwards [hrun, hlast] with n hn hl
      rw [Weave.run_bind_of_ok hn, hl]

/-- The first part is a program without a bound. -/
theorem after_ok {m : Weave α} {l : Nat → α → Weave β} {a : α} {mid : Run}
    (hrun : m.run now = (.ok a, mid)) (hmid : Proper now ((.ok a, mid) : Except Error α × Run))
    (hl : Halts mid fun n => l n a) : Halts now fun n => m.bind (l n) := by
  obtain ⟨outcome, hproper, hlast⟩ := hl
  refine ⟨outcome, hmid.trans hproper, ?_⟩
  filter_upwards [hlast] with n hn
  rw [Weave.run_bind_of_ok hrun, hn]

/-- What is read is read off the run as it is. -/
theorem read {view : Run → α} {l : Nat → α → Weave β} (h : Halts now fun n => l n (view now)) :
    Halts now fun n => (Weave.read view).bind (l n) :=
  h

end Halts

/-- A text as it stands, where a left-hand side is not looked at. -/
def Weaving.asIs : Resolver where
  resolve := fun _ text => .done text
  scan := fun _ text => .done text

/-- A family of programs halts where at most so many blocks are unvisited. -/
def Terminates (blocks : Nat) : ProgramRelation := fun _ _ p =>
  ∀ now, Consistent now → now.session.unvisited.card ≤ blocks → Halts now p

namespace Terminates

variable {blocks : Nat}

theorem of_succ {α : Type} {left right : Weave α} {p : Nat → Weave α}
    (h : Terminates blocks α left fun n => p (n + 1)) : Terminates blocks α right p := by
  intro now hnow hblocks
  obtain ⟨outcome, hproper, hrun⟩ := h now hnow hblocks
  refine ⟨outcome, hproper, ?_⟩
  rw [← map_add_atTop_eq_nat 1]
  exact hrun

theorem congruent (blocks : Nat) : Congruent (Terminates blocks) where
  done a now hnow _ := Halts.done hnow a
  error e he now hnow _ :=
    Halts.of_run (fun _ => Weave.run_fail e now)
      (.of_eq hnow ((external_error he).ne_error rfl) rfl rfl)
  bind hm hk now hnow hblocks := by
    refine (hm now hnow hblocks).bind fun a mid hmid => ?_
    have hcard := Finset.card_le_card hmid.unvisited
    exact hk a mid hmid.consistent (hcard.trans hblocks)
  read _ hk now := hk now now
  act action houtput hexternal now hnow _ :=
    Halts.of_run (fun _ => Weave.run_perform action now) (.perform hnow houtput hexternal)

section Block

variable {resolves : Nat → Resolver}
  (htext : ∀ b < blocks, ∀ file text,
    Terminates b Text (asIs file text) fun n => resolves n file text)
include htext

/-- A block that is entered leaves fewer blocks unvisited, and is evaluated among these. -/
theorem resolveUnvisited {now : Run} (hnow : Consistent now)
    (hblocks : now.session.unvisited.card ≤ blocks) {record : Record}
    (hr : now.session.record? record.key = some record) (hstate : record.state = .unvisited) :
    Halts now fun n => Weaving.resolveRecord (resolves n) record := by
  obtain ⟨entered, henter, hstored⟩ :=
    Action.perform_enter now (show record.state ≠ .inProgress by simp [hstate])
  have hentered : Consistent entered := hnow.store hstored (by simp)
  have hold : now.session.state? record.key = some .unvisited := by
    simp [Session.state?, hr, hstate]
  have hfewer : entered.session.unvisited.card < now.session.unvisited.card :=
    hstored.card_unvisited_lt (by simp) hold
  have hevaluate : Halts entered fun n => evaluate (resolves n) record :=
    (congruent _).evaluate (htext _ (hfewer.trans_le hblocks)) record entered hentered le_rfl
  simp only [resolveRecord_of_ne (show record.state ≠ .done by simp [hstate])]
  refine Halts.after_ok ((Weave.run_perform _ now).trans henter) ?_ ?_
  · exact ⟨by simp, hentered, hstored.unvisited_subset (by simp)⟩
  · refine hevaluate.bind fun content mid hmid => ?_
    refine Halts.bind (Halts.of_run (fun _ => run_leaveRecord record content mid) ?_)
      fun _ last hlast => ?_
    · exact Proper.leave hmid.consistent _ content
    · exact Halts.done hlast.consistent content

/-- A block in progress is a failure, and one that is done has its content. -/
theorem resolveRecord {now : Run} (hnow : Consistent now)
    (hblocks : now.session.unvisited.card ≤ blocks) {record : Record}
    (hr : now.session.record? record.key = some record) :
    Halts now fun n => Weaving.resolveRecord (resolves n) record := by
  cases hstate : record.state with
  | done =>
      obtain ⟨content, hcontent⟩ := hnow.content _ _ hr hstate
      simp only [resolveRecord_done hstate hcontent]
      exact Halts.done hnow content
  | inProgress =>
      have hfail := (Weave.run_perform _ now).trans (Action.perform_enter_inProgress now hstate)
      simp only [resolveRecord_of_ne (show record.state ≠ .done by simp [hstate])]
      refine Halts.of_run (fun _ => Weave.run_bind_of_error hfail) ?_
      exact .of_eq hnow (by simp) rfl rfl
  | unvisited => exact resolveUnvisited htext hnow hblocks hr hstate

theorem fetchBlock (key : BlockKey) :
    Terminates blocks _ (.done none) fun n =>
      Weaving.fetchBlock (Weaving.resolveRecord (resolves n)) key := by
  intro now hnow hblocks
  cases hr : now.session.record? key with
  | none =>
      exact Halts.of_run (fun _ => (fetchBlock_none hr).1) (.of_eq hnow (by simp) rfl rfl)
  | some record =>
      obtain rfl := hnow.keyed key record hr
      refine Halts.congr ?_ (Eventually.of_forall fun n => (fetchBlock_some hr).1)
      refine (resolveRecord htext hnow hblocks hr).bind fun content mid hmid => ?_
      exact Halts.done hmid.consistent _

end Block

/-- A plain processor needs no room but its own. -/
theorem applyProcessor {emits : Nat → Resolver}
    (hemit : ∀ file text, Terminates blocks Text (asIs file text) fun n => emits n file text)
    (file : Text) (marker : Marker) (attributes : Attributes) (target : Target) :
    Terminates blocks Content (.done target.content) fun n =>
      Weaving.applyProcessor (emits n) n file marker attributes target := by
  intro now hnow hblocks
  simp only [Weaving.applyProcessor, Weave.bind_eq]
  refine Halts.read ?_
  split
  · exact Halts.done hnow target.content
  next processor hprocessor =>
    obtain ⟨name, -, hfind⟩ := Option.bind_eq_some_iff.1 hprocessor
    refine Halts.read ?_
    refine ((congruent blocks).processorInput hemit _ file target now hnow hblocks).bind ?_
    intro content mid hmid
    generalize processorContext _ _ _ _ _ _ = context
    obtain ⟨made, hmade⟩ := hnow.plain name processor hfind { context with content }
    refine (Halts.done hmid.consistent made).congr ?_
    filter_upwards [eventually_ge_atTop 1] with n hn
    obtain ⟨room, rfl⟩ := Nat.exists_eq_add_of_le' hn
    simp [runProcessor, hmade, Script.run]

end Terminates

namespace Weaving

variable {stop : Error}

/-- A text terminates where the texts that it emits do, and all texts do once a block has
been entered. -/
theorem terminates_of_emit {limit blocks : Nat}
    (hemit : ∀ file text, Terminates blocks Text (asIs file text) fun n =>
      emitWithin stop (resolveWithin stop n) limit file text)
    (hblock : ∀ b < blocks, ∀ file text, Terminates b Text (asIs file text) fun n =>
      resolveWithin stop n limit file text)
    (file text : Text) :
    Terminates blocks Text (asIs file text) fun n => resolveWithin stop n limit file text := by
  have inner : Congruent.Inner (Terminates blocks) asIs (fun _ => .done none)
      0 (fun n => emitWithin stop (resolveWithin stop n) limit)
      (fun n => fetchBlock (resolveRecord (resolveWithin stop n limit))) (fun n => n) :=
    ⟨hemit, Terminates.fetchBlock hblock, Terminates.applyProcessor hemit⟩
  -- The bodies of markers are texts of the same limit, but shorter ones.
  induction hlength : text.length using Nat.strong_induction_on generalizing text with
  | _ length ih =>
      have hbody : ∀ marker ∈ markers 0 text, Terminates blocks Text (asIs file marker.body)
          fun n => resolveWithin stop n limit file marker.body := by
        intro marker hmarker
        refine ih marker.body.length ?_ marker.body rfl
        rw [← hlength]
        exact marker.body_length_lt.trans_le (length_text_le_of_mem_markers hmarker)
      exact Terminates.of_succ ((Terminates.congruent blocks).weaveApart inner file hbody)

/-- Below a limit, every text terminates. -/
theorem resolveWithin_terminates (hstop : stop.isInternal = false) (limit blocks : Nat)
    (file text : Text) :
    Terminates blocks Text (asIs file text) fun n => resolveWithin stop n limit file text := by
  induction limit generalizing blocks file text with
  | zero =>
      induction blocks using Nat.strong_induction_on generalizing file text with
      | _ blocks ih =>
          refine terminates_of_emit (fun file text => ?_) ih file text
          exact (Terminates.congruent blocks).error stop hstop
  | succ limit hlimit =>
      induction blocks using Nat.strong_induction_on generalizing file text with
      | _ blocks ih => exact terminates_of_emit (hlimit blocks) ih file text

/-- Below a limit, every file terminates. -/
theorem fileWithin_terminates (hstop : stop.isInternal = false) (limit blocks : Nat)
    (file : Text) :
    Terminates blocks Text (.done []) fun n => fileWithin stop n limit file := by
  have htext (b : Nat) (_ : b < blocks) := resolveWithin_terminates hstop limit b
  exact (Terminates.congruent blocks).fileText (Terminates.fetchBlock htext) file

end Weaving
end BlockWeave
