import BlockWeave.Proofs.Discovery.Reading
import BlockWeave.Proofs.Weaving.Record

/-!
# Processors that register no others

Processors change by registrations only, and only the script of a processor registers. Where
no processor of the registry does, no resolution does, and the registry stays as it is.
-/

namespace BlockWeave

open Weaving

/-- The name that an action lists, with its processor. -/
def Action.registration? : Action → Option (Text × Option Processor)
  | .register name processor => some (name, processor)
  | .note _ | .load _ | .enter _ | .leave .. | .write .. | .define .. => none

/-- Processors change by registrations only. -/
theorem Action.perform_registry (now : Run) (action : Action) :
    (action.perform now).2.session.registry =
      match action.registration? with
      | some (name, processor) => now.session.registry.register name processor
      | none => now.session.registry := by
  cases action with
  | note entry => rfl
  | load path => exact (Discovery.walk_setting rfl).registry
  | enter record =>
      by_cases hstate : record.state = .inProgress
      · rw [perform_enter_inProgress now hstate]
        rfl
      · obtain ⟨after, hperform, hstored⟩ := perform_enter now hstate
        rw [hperform]
        exact hstored.setting.registry
  | leave record content =>
      simp only [perform, Session.leave]
      split <;> rfl
  | define name content => rfl
  | write charset path content => rfl
  | register name processor => rfl

/-- A registry with some names listed, one after the other. -/
def Registry.registerAll (registry : Registry) (listed : List (Text × Option Processor)) :
    Registry :=
  listed.foldl (fun registry entry => registry.register entry.1 entry.2) registry

theorem Registry.registerAll_append (registry : Registry)
    (listed more : List (Text × Option Processor)) :
    registry.registerAll (listed ++ more) = (registry.registerAll listed).registerAll more :=
  List.foldl_append

/-- Behind some actions, the processors are those from before with the registrations added. -/
theorem Run.after_registry (now : Run) (actions : List Action) :
    (now.after actions).session.registry =
      now.session.registry.registerAll (actions.filterMap Action.registration?) := by
  induction actions generalizing now with
  | nil => rfl
  | cons action actions ih =>
      have hperform := action.perform_registry now
      rw [after_cons, ih]
      cases hregistration : action.registration? with
      | none =>
          rw [hregistration] at hperform
          rw [hperform, List.filterMap_cons_none hregistration]
      | some entry =>
          rw [hregistration] at hperform
          rw [hperform, List.filterMap_cons_some hregistration]
          rfl

/-- A script that registers no processor, whatever it is told. -/
def Script.Still {P α : Type} : Script P α → Prop
  | .done _ | .fail _ => True
  | .log _ next => next.Still
  | .resolve _ next | .scan _ next => ∀ reply, (next reply).Still
  | .variant _ next => ∀ reply, (next reply).Still
  | .reference _ next => ∀ reply, (next reply).Still
  | .encodings next => ∀ reply, (next reply).Still
  | .process _ _ next => ∀ reply, (next reply).Still
  | .register .. => False

/-- A processor whose scripts register nothing. -/
def Processor.Still (processor : Processor) : Prop :=
  ∀ context, (processor.script context).Still

/-- All processors of a registry are still. -/
def Registry.Still (registry : Registry) : Prop :=
  ∀ name processor, registry.find? name = some processor → processor.Still

/-- What holds of everything in a registry holds of every processor that is found there. -/
theorem Registry.forall_of_mem {registry : Registry} {P : Processor → Prop}
    (h : ∀ name processor, (name, some processor) ∈ registry → P processor) (name : Text)
    (processor : Processor) (hfind : registry.find? name = some processor) : P processor := by
  simp only [find?] at hfind
  split at hfind
  · cases hfind
  · exact h name processor (Table.mem_of_get?_eq_some (Option.join_eq_some_iff.1 hfind))

/-- Each processor that needs no library is a function of its content. -/
theorem Registry.exists_ofFunction {name : Text} {processor : Processor}
    (h : (name, some processor) ∈ encodings) :
    ∃ label f, processor = Processor.ofFunction label f := by
  simp only [encodings, List.mem_cons, Prod.mk.injEq, Option.some.injEq, List.not_mem_nil,
    or_false] at h
  rcases h with ⟨-, rfl⟩ | ⟨-, rfl⟩ | ⟨-, rfl⟩ | ⟨-, rfl⟩ | ⟨-, rfl⟩ | ⟨-, rfl⟩
  · exact ⟨_, _, rfl⟩
  · exact ⟨_, _, rfl⟩
  · exact ⟨_, _, rfl⟩
  · exact ⟨_, _, rfl⟩
  · exact ⟨_, _, rfl⟩
  · exact ⟨_, _, rfl⟩

theorem Registry.still_encodings : Registry.encodings.Still := by
  refine forall_of_mem fun name processor hmem => ?_
  obtain ⟨label, f, rfl⟩ := exists_ofFunction hmem
  exact fun context => trivial

namespace Weave

variable {α β : Type} {m : Weave α}

/-- From every run with still processors, a program registers nothing. -/
def RegistersNothing (m : Weave α) : Prop :=
  ∀ now, now.session.registry.Still → ∀ action ∈ m.actions now, action.registration? = none

namespace RegistersNothing

/-- Behind such a program the processors are the same. -/
theorem registry_eq (h : m.RegistersNothing) {now : Run} (hstill : now.session.registry.Still) :
    (m.run now).2.session.registry = now.session.registry := by
  rw [run_snd, Run.after_registry, List.filterMap_eq_nil_iff.2 (h now hstill)]
  rfl

theorem done (a : α) : (Weave.done a).RegistersNothing := by
  simp [RegistersNothing]

theorem fail (e : Error) : (Weave.fail e : Weave α).RegistersNothing := by
  simp [RegistersNothing]

theorem perform {action : Action} (h : action.registration? = none) :
    (Weave.perform action).RegistersNothing := by
  simp [RegistersNothing, h]

theorem bind (h : m.RegistersNothing) {k : α → Weave β} (hk : ∀ a, (k a).RegistersNothing) :
    (m.bind k).RegistersNothing := by
  intro now hstill action haction
  rw [actions_bind, List.mem_append] at haction
  rcases haction with hfirst | hsecond
  · exact h now hstill action hfirst
  · have hregistry := h.registry_eq hstill
    split at hsecond
    next a mid hrun =>
      rw [hrun] at hregistry
      exact hk a mid (hregistry ▸ hstill) action hsecond
    next => cases hsecond

/-- What is read off a run may count on its processors to be still. -/
theorem read {view : Run → β} {k : β → Weave α}
    (h : ∀ now, now.session.registry.Still → (k (view now)).RegistersNothing) :
    ((Weave.read view).bind k).RegistersNothing :=
  fun now hstill => h now hstill now hstill

/-- Registering nothing as a relation that does not look at its right-hand side. -/
def Relation : ProgramRelation :=
  fun _ m _ => m.RegistersNothing

theorem congruent : Congruent Relation where
  done a := done a
  error e _ := fail e
  bind h hk := bind h hk
  read _ h := read fun now _ => h now
  act action h _ := perform (by cases action <;> first | rfl | cases h)

/-- A host that registers nothing when it answers any other request. -/
structure Answers (host : Script.Host Processor Weave) : Prop where
  fail : ∀ (α : Type) (e : Error), (host.fail e : Weave α).RegistersNothing
  log : ∀ entry, (host.log entry).RegistersNothing
  resolve : ∀ text, (host.resolve text).RegistersNothing
  scan : ∀ text, (host.scan text).RegistersNothing
  variant : ∀ name, (host.variant name).RegistersNothing
  reference : ∀ name, (host.reference name).RegistersNothing
  encodings : host.encodings.RegistersNothing
  process : ∀ name content, (host.process name content).RegistersNothing

theorem Answers.script {host : Script.Host Processor Weave} (answers : Answers host)
    {s : Script Processor α} (h : s.Still) : (s.run host).RegistersNothing := by
  induction s with
  | done a => exact done a
  | fail e => exact answers.fail α e
  | log entry next ih => exact (answers.log entry).bind fun _ => ih h
  | resolve text next ih => exact (answers.resolve text).bind fun reply => ih reply (h reply)
  | scan text next ih => exact (answers.scan text).bind fun reply => ih reply (h reply)
  | variant name next ih => exact (answers.variant name).bind fun reply => ih reply (h reply)
  | reference name next ih => exact (answers.reference name).bind fun reply => ih reply (h reply)
  | encodings next ih => exact answers.encodings.bind fun reply => ih reply (h reply)
  | process name content next ih =>
      exact (answers.process name content).bind fun reply => ih reply (h reply)
  | register name processor next ih => exact h.elim

section Inner

variable {resolve : Resolver} (htext : resolve.Related Relation fun _ => resolve)
include htext

/-- A still processor may run, with all those of the registry that it calls. -/
theorem runProcessor (context : Context) (depth : Nat) {processor : Processor}
    (hstill : processor.Still) (content : Content) :
    (Weaving.runProcessor resolve context depth processor content).RegistersNothing := by
  induction depth generalizing processor content with
  | zero => exact fail .depthExceeded
  | succ depth ih =>
      refine Answers.script ?_ (hstill { context with content })
      constructor
      case fail => exact fun β e => fail e
      case log => exact congruent.note
      case resolve => exact htext.text context.sourceFile
      case scan => exact htext.scan context.sourceFile
      case variant => exact fun name => read fun now _ => done _
      case reference => exact congruent.readReference context.options context.directory
      case encodings => exact read fun now _ => done _
      case process =>
        intro name content
        refine read fun now hnow => ?_
        split
        next other hfind => exact ih (hnow name other hfind) content
        next => exact fail .wrongType

theorem applyProcessor (depth : Nat) (file : Text) (marker : Marker) (attributes : Attributes)
    (target : Target) :
    (Weaving.applyProcessor resolve depth file marker attributes target).RegistersNothing := by
  refine read fun now hnow => ?_
  split
  · exact done target.content
  next processor hprocessor =>
    obtain ⟨name, -, hfind⟩ := Option.bind_eq_some_iff.1 hprocessor
    refine read fun other _ => ?_
    refine bind (congruent.processorInput htext.text _ file target) fun content => ?_
    exact runProcessor htext _ depth (hnow name processor hfind) content

theorem resolveRecord (record : Record) :
    (Weaving.resolveRecord resolve record).RegistersNothing := by
  rw [Weaving.resolveRecord]
  split
  · exact done _
  · refine bind (perform rfl) fun _ => ?_
    refine bind (congruent.evaluate htext.text record) fun content => ?_
    exact bind (read fun now _ => perform rfl) fun _ => done content

theorem fetchBlock (key : BlockKey) :
    (Weaving.fetchBlock (Weaving.resolveRecord resolve) key).RegistersNothing := by
  refine read fun now _ => ?_
  split
  · exact done none
  · exact bind (resolveRecord htext _) fun content => done _

end Inner

/-- No text that is resolved registers anything. -/
theorem resolveText (depth : Nat) :
    (Weaving.resolveText depth).Related Relation fun _ => Weaving.resolveText depth := by
  induction depth with
  | zero => exact ⟨fun _ _ => fail _, fun _ _ => fail _⟩
  | succ depth ih =>
      rw [Weaving.resolveText, ← weaveApart_self]
      exact congruent.related_weaveApart ⟨ih.text, fetchBlock ih, applyProcessor ih depth⟩ ih.text

/-- Resolving a file registers nothing. -/
theorem resolveFile (depth : Nat) (file : Text) :
    (Weaving.resolveFile depth file).RegistersNothing := by
  have hfetch := fetchBlock (resolveText depth)
  exact congruent.fileText (show ∀ key, Relation _ _ fun _ => .done none from hfetch) file

theorem mapM {f : β → Weave α} (xs : List β) (h : ∀ x, (f x).RegistersNothing) :
    (xs.mapM f).RegistersNothing :=
  congruent.mapM (g := fun _ => f) xs fun x _ => h x

end RegistersNothing
end Weave
end BlockWeave
