import BlockWeave.Proofs.Discovery.Closure
import BlockWeave.Proofs.Include.Splicing
import BlockWeave.Proofs.Weaving.Chain
import BlockWeave.Proofs.Weaving.Limit

/-!
# Cycles that are reported

A build fails for a cycle when it asks for a block in progress. Its failure names this block
and the chain at that moment, which starts at the entry and lists the blocks that have been
entered and not been left.

## Implementation notes

The failure is followed back through the program to the action that it comes from. The
failure of a processor of its own could look the same, hence processors are taken that do
not make up such a failure, and register none that does; they cannot catch one.
-/

namespace BlockWeave

open Weaving

/-- The failure that reports a cycle. -/
def Error.isCircular : Error → Bool
  | .circular .. => true
  | _ => false

/-- Failures of data report no cycle. -/
theorem Error.not_isCircular_of_external {e : Error} (h : e.isInternal = false) :
    e.isCircular = false := by
  cases e with
  | circular key chain => cases h
  | _ => rfl

mutual

/-- A script that makes up no cycle, whatever it is answered, and neither do the processors
that it registers. -/
inductive Script.ReportsNoCycle : {α : Type} → Script Processor α → Prop
  | done {α : Type} (a : α) : Script.ReportsNoCycle (.done a)
  | fail {α : Type} {e : Error} (h : e.isCircular = false) :
      Script.ReportsNoCycle (.fail e : Script Processor α)
  | log {α : Type} {entry : LogEntry} {next : Script Processor α}
      (h : Script.ReportsNoCycle next) : Script.ReportsNoCycle (.log entry next)
  | resolve {α : Type} {text : Text} {next : Text → Script Processor α}
      (h : ∀ reply, Script.ReportsNoCycle (next reply)) :
      Script.ReportsNoCycle (.resolve text next)
  | scan {α : Type} {text : Text} {next : Text → Script Processor α}
      (h : ∀ reply, Script.ReportsNoCycle (next reply)) : Script.ReportsNoCycle (.scan text next)
  | variant {α : Type} {name : Text} {next : Option Content → Script Processor α}
      (h : ∀ reply, Script.ReportsNoCycle (next reply)) :
      Script.ReportsNoCycle (.variant name next)
  | reference {α : Type} {name : Text} {next : Option Text → Script Processor α}
      (h : ∀ reply, Script.ReportsNoCycle (next reply)) :
      Script.ReportsNoCycle (.reference name next)
  | encodings {α : Type} {next : List Text → Script Processor α}
      (h : ∀ reply, Script.ReportsNoCycle (next reply)) :
      Script.ReportsNoCycle (.encodings next)
  | process {α : Type} {name : Text} {content : Content} {next : Content → Script Processor α}
      (h : ∀ reply, Script.ReportsNoCycle (next reply)) :
      Script.ReportsNoCycle (.process name content next)
  | register {α : Type} {name : Text} {processor : Option Processor}
      {next : Script Processor α}
      (hprocessor : ∀ other, processor = some other → Processor.ReportsNoCycle other)
      (h : Script.ReportsNoCycle next) :
      Script.ReportsNoCycle (.register name processor next)

/-- A processor that makes up no cycle. -/
inductive Processor.ReportsNoCycle : Processor → Prop
  | intro {processor : Processor}
      (h : ∀ context, Script.ReportsNoCycle (processor.script context)) :
      Processor.ReportsNoCycle processor

end

/-- The processors of a registry make up no cycle. -/
def Registry.ReportsNoCycle (registry : Registry) : Prop :=
  ∀ name processor, registry.find? name = some processor → processor.ReportsNoCycle

/-- The test for binary files makes up no cycle. -/
def Options.ReportsNoCycle (options : Options) : Prop :=
  ∀ test path e, options.isBinary = some test → test path = .error e → e.isCircular = false

theorem Registry.Plain.reportsNoCycle {registry : Registry} (h : registry.Plain) :
    registry.ReportsNoCycle := by
  intro name processor hfind
  refine .intro fun context => ?_
  obtain ⟨content, hscript⟩ := h name processor hfind context
  rw [hscript]
  exact .done content

/-- What is found is what has been registered last under the name. -/
theorem Registry.ReportsNoCycle.register {registry : Registry} (h : registry.ReportsNoCycle)
    (name : Text) {processor : Option Processor}
    (hprocessor : ∀ other, processor = some other → other.ReportsNoCycle) :
    (registry.register name processor).ReportsNoCycle := by
  intro key found hfind
  by_cases he : name = key
  · subst he
    simp only [find?, Registry.register, Table.get?_put_self] at hfind
    split at hfind
    · cases hfind
    · exact hprocessor found (by simpa using hfind)
  · rw [find?, Registry.register, Table.get?_put_of_ne _ _ he] at hfind
    exact h key found hfind

/-- A program leaves no processor behind that makes up a cycle. -/
def Harmless : ProgramRelation := fun _ m _ =>
  ∀ now, now.session.registry.ReportsNoCycle → (m.run now).2.session.registry.ReportsNoCycle

namespace Harmless

theorem bind {α β : Type} {m : Weave α} {p : Nat → Weave α} {k : α → Weave β}
    {l : Nat → α → Weave β} (hm : Harmless α m p) (hk : ∀ a, Harmless β (k a) fun n => l n a) :
    Harmless β (m.bind k) fun n => (p n).bind (l n) := by
  intro now h
  have hmid := hm now h
  rw [Weave.run_bind]
  split
  next a mid hrun =>
    rw [hrun] at hmid
    exact hk a mid hmid
  next e mid hrun =>
    rw [hrun] at hmid
    exact hmid

theorem congruent : Congruent Harmless where
  done _ _ h := h
  error _ _ _ h := h
  bind := bind
  read _ hk now h := hk now now h
  act action houtput _ now h := by
    rw [Weave.run_perform]
    cases action with
    | note entry => exact h
    | define name content => exact h
    | write charset path content => exact h
    | load path => exact houtput.elim
    | enter record => exact houtput.elim
    | leave record content => exact houtput.elim
    | register name processor => exact houtput.elim

theorem register (name : Text) {processor : Option Processor}
    (hprocessor : ∀ other, processor = some other → other.ReportsNoCycle) :
    Harmless Unit (.perform (.register name processor)) fun _ =>
      .perform (.register name processor) := by
  intro now h
  rw [Weave.run_perform]
  exact h.register name hprocessor

/-- A block is entered and left with the processors that there are. -/
theorem resolveRecord {resolve : Resolver}
    (htext : ∀ file text, Harmless Text (resolve file text) fun _ => resolve file text)
    (record : Record) :
    Harmless Content (Weaving.resolveRecord resolve record) fun _ =>
      Weaving.resolveRecord resolve record := by
  have henter : Harmless Unit (.perform (.enter record)) fun _ => .perform (.enter record) := by
    intro now h
    rw [Weave.run_perform]
    by_cases hstate : record.state = .inProgress
    · rwa [Action.perform_enter_inProgress now hstate]
    · obtain ⟨after, hperform, hstored⟩ := Action.perform_enter now hstate
      rw [hperform, hstored.setting.registry]
      exact h
  have hleave (content : Content) : Harmless Unit (leaveRecord record content) fun _ =>
      leaveRecord record content := by
    intro now h
    rw [run_leaveRecord]
    simp only [Action.perform, Session.leave]
    split <;> exact h
  simp only [Weaving.resolveRecord]
  split
  · exact congruent.done _
  · refine bind henter fun _ => bind (congruent.evaluate htext record) fun content => ?_
    exact bind (hleave content) fun _ => congruent.done content

theorem fetchBlock {resolve : Resolver}
    (htext : ∀ file text, Harmless Text (resolve file text) fun _ => resolve file text)
    (key : BlockKey) :
    Harmless _ (Weaving.fetchBlock (Weaving.resolveRecord resolve) key) fun _ =>
      Weaving.fetchBlock (Weaving.resolveRecord resolve) key := by
  intro now h
  cases hr : now.session.record? key with
  | none => rwa [(fetchBlock_none hr).1]
  | some record =>
      rw [(fetchBlock_some hr).1]
      exact bind (resolveRecord htext record) (fun content => congruent.done _) now h

end Harmless

/-- A block is left with other failures of the chain. -/
theorem Action.perform_leave_ne_circular (now : Run) (record : Record) (content : Content)
    (key : BlockKey) (chain : List BlockKey) :
    ((leave record content).perform now).1 ≠ .error (.circular key chain) := by
  simp only [perform, Session.leave, Record.leave, Record.complete]
  split
  next h =>
    split at h <;> simp_all
  next e rest h =>
    split at h
    · cases h
      simp
    · split at h
      · cases h
        simp
      · split at h
        · cases h
          simp
        · cases h

/-- A block is asked for while it is in progress, below the given chain. -/
structure AskedAgain (above : List BlockKey) (now : Run) (key : BlockKey) (chain : List BlockKey)
    (record : Record) : Prop where
  key_eq : record.key = key
  state_eq : record.state = .inProgress
  record?_eq : now.session.record? key = some record
  chain_eq : chain = now.session.chain ++ [key]
  goes_on : above <+: now.session.chain

theorem AskedAgain.mono {above higher : List BlockKey} {now : Run} {key : BlockKey}
    {chain : List BlockKey} {record : Record} (h : AskedAgain above now key chain record)
    (hhigher : higher <+: above) : AskedAgain higher now key chain record :=
  ⟨h.key_eq, h.state_eq, h.record?_eq, h.chain_eq, hhigher.trans h.goes_on⟩

/-- Every cycle that a program reports is one: the last thing that it does is to ask for
a block in progress. -/
def Traces {α : Type} (above : List BlockKey) (now : Run) (m : Weave α) : Prop :=
  ∀ key chain after, m.run now = (.error (.circular key chain), after) →
    ∃ before record, m.actions now = before ++ [.enter record] ∧
      AskedAgain above (now.after before) key chain record

namespace Traces

variable {α β : Type} {above : List BlockKey} {now : Run}

theorem of_ne {m : Weave α}
    (h : ∀ key chain, (m.run now).1 ≠ .error (.circular key chain)) : Traces above now m := by
  intro key chain after hrun
  exact absurd (congrArg Prod.fst hrun) (h key chain)

theorem done (a : α) : Traces above now (.done a) :=
  of_ne fun key chain h => by cases h

theorem fail {e : Error} (h : e.isCircular = false) : Traces above now (.fail e : Weave α) := by
  intro key chain after hrun
  cases hrun
  cases h

theorem mono {m : Weave α} {higher : List BlockKey} (h : Traces above now m)
    (hhigher : higher <+: above) : Traces higher now m := by
  intro key chain after hrun
  obtain ⟨before, record, hactions, hasked⟩ := h key chain after hrun
  exact ⟨before, record, hactions, hasked.mono hhigher⟩

/-- Programs that do the same report the same. -/
theorem congr {m m' : Weave α} (h : Traces above now m)
    (hsame : m'.run now = m.run now ∧ m'.actions now = m.actions now) : Traces above now m' := by
  intro key chain after hrun
  rw [hsame.2]
  exact h key chain after (hsame.1.symm.trans hrun)

theorem bind {m : Weave α} {k : α → Weave β} (hm : Traces above now m)
    (hk : ∀ a mid, m.run now = (.ok a, mid) → Traces above mid (k a)) :
    Traces above now (m.bind k) := by
  intro key chain after hrun
  rcases Weave.run_bind_eq_error_iff.1 hrun with herror | ⟨a, mid, hok, hrest⟩
  · rw [Weave.actions_bind_of_error herror]
    exact hm key chain after herror
  · obtain ⟨before, record, hactions, hasked⟩ := hk a mid hok key chain after hrest
    refine ⟨m.actions now ++ before, record, ?_, ?_⟩
    · rw [Weave.actions_bind_of_ok hok, hactions, List.append_assoc]
    · rw [Run.after_append, ← Weave.eq_after_of_run hok]
      exact hasked

theorem ofExcept {result : Except Error α} (h : External result) :
    Traces above now (.ofExcept result) := by
  cases result with
  | ok a => exact done a
  | error e => exact fail (Error.not_isCircular_of_external (h e rfl))

end Traces

/-- A program is balanced and harmless, and every cycle that it reports is one. -/
structure Reports (start : Run) (α : Type) (m : Weave α) (p : Nat → Weave α) : Prop where
  balanced : Balanced start α m p
  harmless : Harmless α m p
  traces : ∀ past, Steady start past → (start.after past).session.registry.ReportsNoCycle →
    Traces (start.after past).session.chain (start.after past) m

namespace Reports

variable {start : Run}

/-- What has been done before is steady where the second part of a program starts. -/
theorem bind {α β : Type} {m : Weave α} {p : Nat → Weave α} {k : α → Weave β}
    {l : Nat → α → Weave β} (hm : Reports start α m p)
    (hk : ∀ a, Reports start β (k a) fun n => l n a) :
    Reports start β (m.bind k) fun n => (p n).bind (l n) where
  balanced := (balanced_compatible start).bind hm.balanced fun a => (hk a).balanced
  harmless := hm.harmless.bind fun a => (hk a).harmless
  traces past h hregistry := by
    obtain ⟨hsteady, hchain⟩ := hm.balanced past h
    refine (hm.traces past h hregistry).bind fun a mid hrun => ?_
    have hmid := hm.harmless _ hregistry
    rw [hrun] at hmid
    have htraces := (hk a).traces _ hsteady
    rw [← after_of_run_ok hrun, hchain a mid hrun] at htraces
    exact htraces hmid

/-- A program that does not look at the chain and fails with data only. -/
theorem congruent (start : Run) : Congruent (Reports start) where
  done a :=
    ⟨(balanced_compatible start).done a, Harmless.congruent.done a, fun past _ _ => Traces.done a⟩
  error e he :=
    ⟨(balanced_compatible start).fail e _, Harmless.congruent.error e he, fun past _ _ =>
      Traces.fail (Error.not_isCircular_of_external he)⟩
  bind := bind
  read hview hk :=
    ⟨(balanced_compatible start).read hview fun run => (hk run).balanced,
      Harmless.congruent.read hview fun run => (hk run).harmless, fun past h =>
        (hk (start.after past)).traces past h⟩
  act action houtput hexternal := by
    refine ⟨(balanced_compatible start).perform action houtput,
      Harmless.congruent.act action houtput hexternal, fun past _ _ => ?_⟩
    refine Traces.of_ne fun key chain => ?_
    rw [Weave.run_perform]
    cases action with
    | note entry => simp [Action.perform]
    | define name content => simp [Action.perform]
    | write charset path content =>
        exact (external_write (start.after past).disk hexternal path content).ne_error rfl
    | load path => exact houtput.elim
    | enter record => exact houtput.elim
    | leave record content => exact houtput.elim
    | register name processor => exact houtput.elim

theorem depthExceeded {α : Type} (p : Nat → Weave α) (hp : Harmless α (.fail .depthExceeded) p) :
    Reports start α (.fail .depthExceeded) p :=
  ⟨(balanced_compatible start).fail _ _, hp, fun _ _ _ => Traces.fail rfl⟩

theorem register (name : Text) {processor : Option Processor}
    (hprocessor : ∀ other, processor = some other → other.ReportsNoCycle) :
    Reports start Unit (.perform (.register name processor)) fun _ =>
      .perform (.register name processor) := by
  refine ⟨balanced_perform start trivial, Harmless.register name hprocessor, fun past _ _ => ?_⟩
  refine Traces.of_ne fun key chain => ?_
  simp [Weave.run_perform, Action.perform]

section Block

variable {resolve : Resolver}
  (htext : ∀ file text, Reports start Text (resolve file text) fun _ => resolve file text)
include htext

/-- Inside a block that is entered, the chain goes on from this block. -/
theorem resolveUnvisited {past : List Action} (h : Steady start past)
    (hregistry : (start.after past).session.registry.ReportsNoCycle) {record : Record}
    (hr : (start.after past).session.record? record.key = some record)
    (hstate : record.state = .unvisited) :
    Traces ((start.after past).session.chain ++ [record.key]) (start.after past)
      (Weaving.resolveRecord resolve record) := by
  rw [resolveRecord_of_ne (by simp [hstate])]
  obtain ⟨hentered, hok, hchain⟩ := h.enter hr hstate
  have hsame : (start.after (past ++ [.enter record])).session.registry =
      (start.after past).session.registry := by
    obtain ⟨after, hperform, hstored⟩ := Action.perform_enter (start.after past)
      (show record.state ≠ .inProgress by simp [hstate])
    rw [Run.after_append, Run.after_cons, hperform]
    exact hstored.setting.registry
  have hevaluate := ((congruent start).evaluate htext record).traces _ hentered
    (hsame ▸ hregistry)
  rw [hchain] at hevaluate
  refine Traces.bind (Traces.of_ne ?_) fun _ mid henter => ?_
  · intro key chain
    rw [Weave.run_perform, hok]
    simp
  · rw [after_of_run_ok henter, Weave.actions_perform]
    refine hevaluate.bind fun content last _ => Traces.bind (Traces.of_ne ?_) fun _ _ _ => ?_
    · intro key chain
      rw [run_leaveRecord]
      exact Action.perform_leave_ne_circular last _ content key chain
    · exact Traces.done content

/-- A block in progress is a cycle. -/
theorem resolveRecord {past : List Action} (h : Steady start past)
    (hregistry : (start.after past).session.registry.ReportsNoCycle) {record : Record}
    (hr : (start.after past).session.record? record.key = some record) :
    Traces (start.after past).session.chain (start.after past)
      (Weaving.resolveRecord resolve record) := by
  cases hstate : record.state with
  | done =>
      have hsome := (h.now.content_iff record.key record hr).2 hstate
      obtain ⟨content, hcontent⟩ := Option.isSome_iff_exists.1 hsome
      rw [resolveRecord_done hstate hcontent]
      exact Traces.done content
  | inProgress =>
      have hfails := Action.perform_enter_inProgress (start.after past) hstate
      rw [← Weave.run_perform] at hfails
      rw [resolveRecord_of_ne (by simp [hstate])]
      intro key chain after hrun
      rw [Weave.run_bind_of_error hfails] at hrun
      cases hrun
      refine ⟨[], record, ?_, rfl, hstate, hr, rfl, List.prefix_refl _⟩
      rw [Weave.actions_bind_of_error hfails, Weave.actions_perform, List.nil_append]
  | unvisited =>
      exact (resolveUnvisited htext h hregistry hr hstate).mono (List.prefix_append _ _)

theorem fetchBlock (hfresh : start.session.Fresh) (key : BlockKey) :
    Reports start _ (Weaving.fetchBlock (Weaving.resolveRecord resolve) key) fun _ =>
      Weaving.fetchBlock (Weaving.resolveRecord resolve) key := by
  refine ⟨balanced_fetchBlock hfresh (fun file text => (htext file text).balanced) key,
    Harmless.fetchBlock (fun file text => (htext file text).harmless) key,
    fun past h hregistry => ?_⟩
  cases hr : (start.after past).session.record? key with
  | none =>
      refine Traces.of_ne fun other chain => ?_
      rw [(fetchBlock_none hr).1]
      simp
  | some record =>
      obtain rfl := h.now.key_eq hfresh hr
      have htraces := (resolveRecord htext h hregistry hr).bind fun content mid _ =>
        Traces.done (some (content, record.isBinary))
      exact htraces.congr (fetchBlock_some hr)

end Block

/-- A script reports the cycles of what it asks for. -/
theorem script {host : Script.Host Processor Weave} {α : Type}
    (hfail : ∀ (β : Type) (e : Error), host.fail e = (.fail e : Weave β))
    (hlog : ∀ entry, Reports start Unit (host.log entry) fun _ => host.log entry)
    (hresolve : ∀ text, Reports start Text (host.resolve text) fun _ => host.resolve text)
    (hscan : ∀ text, Reports start Text (host.scan text) fun _ => host.scan text)
    (hvariant : ∀ name, Reports start _ (host.variant name) fun _ => host.variant name)
    (hreference : ∀ name, Reports start _ (host.reference name) fun _ => host.reference name)
    (hencodings : Reports start _ host.encodings fun _ => host.encodings)
    (hprocess : ∀ name content,
      Reports start _ (host.process name content) fun _ => host.process name content)
    (hregister : ∀ name processor,
      (∀ other, processor = some other → other.ReportsNoCycle) →
        Reports start Unit (host.register name processor) fun _ => host.register name processor)
    {s : Script Processor α} (h : s.ReportsNoCycle) :
    Reports start α (s.run host) fun _ => s.run host := by
  induction s with
  | done a => exact (congruent start).done a
  | fail e =>
      obtain - | hcircular := h
      rw [Script.run, hfail]
      exact ⟨(balanced_compatible start).fail e _, fun _ h => h, fun past _ _ =>
        Traces.fail hcircular⟩
  | log entry next ih =>
      cases h with
      | log h => exact bind (hlog entry) fun _ => ih h
  | resolve text next ih =>
      cases h with
      | resolve h => exact bind (hresolve text) fun reply => ih reply (h reply)
  | scan text next ih =>
      cases h with
      | scan h => exact bind (hscan text) fun reply => ih reply (h reply)
  | variant name next ih =>
      cases h with
      | variant h => exact bind (hvariant name) fun reply => ih reply (h reply)
  | reference name next ih =>
      cases h with
      | reference h => exact bind (hreference name) fun reply => ih reply (h reply)
  | encodings next ih =>
      cases h with
      | encodings h => exact bind hencodings fun reply => ih reply (h reply)
  | process name content next ih =>
      cases h with
      | process h => exact bind (hprocess name content) fun reply => ih reply (h reply)
  | register name processor next ih =>
      cases h with
      | register hprocessor h => exact bind (hregister name processor hprocessor) fun _ => ih h

/-- What depends on the processors may rely on those that there are. -/
theorem registry {α : Type} {k : Registry → Weave α}
    (hk : ∀ registry : Registry, registry.ReportsNoCycle →
      Reports start α (k registry) fun _ => k registry)
    (hbalanced : ∀ registry, Balanced start α (k registry) fun _ => k registry) :
    Reports start α (Weave.registry.bind k) fun _ => Weave.registry.bind k where
  balanced := (balanced_compatible start).read (fun _ _ h => h.registry) fun run =>
    hbalanced run.session.registry
  harmless now h := (hk _ h).harmless now h
  traces past h hregistry := (hk _ hregistry).traces past h hregistry

section Processor

variable {resolve : Resolver} (htext : resolve.Related (Reports start) fun _ => resolve)
include htext

/-- Processors are balanced, whatever they fail with. -/
theorem balanced_runProcessor (context : Context) (depth : Nat) (processor : Processor)
    (content : Content) :
    Balanced start Content (runProcessor resolve context depth processor content) fun _ =>
      runProcessor resolve context depth processor content := by
  refine (balanced_compatible start).runProcessor (fun name other => ?_)
    ⟨fun file text => (htext.text file text).balanced,
      fun file text => (htext.scan file text).balanced⟩ context
    (fun _ => Nat.le_refl depth) processor content
  exact balanced_perform start (Action.sparesRecords_register name other)

theorem runProcessor (context : Context) (depth : Nat) {processor : Processor}
    (hprocessor : processor.ReportsNoCycle) (content : Content) :
    Reports start Content (Weaving.runProcessor resolve context depth processor content) fun _ =>
      Weaving.runProcessor resolve context depth processor content := by
  have C := congruent start
  induction depth generalizing processor content with
  | zero => exact depthExceeded _ fun _ h => h
  | succ depth ih =>
      obtain ⟨hscript⟩ := hprocessor
      refine script (fun β e => rfl) C.note (htext.text context.sourceFile)
        (htext.scan context.sourceFile) ?variant
        (C.readReference context.options context.directory) ?encodings ?process
        (fun name other => register name) (hscript { context with content })
      case variant =>
        intro variant
        exact C.read (fun run other h => h.variants) fun run => C.done _
      case encodings => exact C.read (fun run other h => h.registry) fun run => C.done _
      case process =>
        intro other content
        refine registry (fun registry hregistry => ?_) fun registry => ?_
        · split
          next found hfound => exact ih (hregistry other found hfound) content
          next => exact C.error .wrongType rfl
        · split
          · exact balanced_runProcessor htext context depth _ content
          · exact (balanced_compatible start).fail _ _

theorem applyProcessor (depth : Nat) (file : Text) (marker : Marker) (attributes : Attributes)
    (target : Target) :
    Reports start Content (Weaving.applyProcessor resolve depth file marker attributes target)
      fun _ => Weaving.applyProcessor resolve depth file marker attributes target := by
  have C := congruent start
  refine registry (fun registry hregistry => ?_) fun registry => ?_
  · split
    · exact C.done target.content
    next processor hprocessor =>
      obtain ⟨name, -, hfind⟩ := Option.bind_eq_some_iff.1 hprocessor
      refine C.read (fun run other h => h.options) fun run => ?_
      refine bind (C.processorInput htext.text _ file target) fun content => ?_
      exact runProcessor htext _ depth (hregistry name processor hfind) content
  · have B := balanced_compatible start
    split
    · exact B.done target.content
    next processor _ =>
      refine B.read (fun run other h => h.options) fun run => ?_
      refine B.bind (C.processorInput htext.text _ file target).balanced fun content => ?_
      exact balanced_runProcessor htext _ depth processor content

end Processor

section Text

variable (hfresh : start.session.Fresh)
include hfresh

theorem resolveText (depth : Nat) :
    (Weaving.resolveText depth).Related (Reports start) fun _ => Weaving.resolveText depth := by
  have C := congruent start
  induction depth with
  | zero =>
      exact ⟨fun _ _ => depthExceeded _ fun _ h => h, fun _ _ => depthExceeded _ fun _ h => h⟩
  | succ depth ih =>
      simp only [Weaving.resolveText, ← weaveApart_self]
      refine C.related_weaveApart ⟨ih.text, fetchBlock ih.text hfresh, ?_⟩ ih.text
      exact applyProcessor ih depth

/-- The chain of a cycle that a file reports starts with this file. -/
theorem resolveFile (hregistry : start.session.registry.ReportsNoCycle) (depth : Nat)
    (file : Text) : Traces [.ofFile file] start (Weaving.resolveFile depth file) := by
  have hsteady := Steady.nil hfresh
  refine Traces.bind ?_ fun found mid _ => ?_
  · cases hr : start.session.record? (.ofFile file) with
    | none =>
        refine Traces.of_ne fun key chain => ?_
        rw [(fetchBlock_none hr).1]
        simp
    | some record =>
        have hnew := hfresh.records _ record hr
        have hrecord : start.session.record? record.key = some record := by
          rw [hnew.key_eq, hr]
        have hunvisited := resolveUnvisited (resolveText hfresh depth).text hsteady hregistry
          hrecord hnew.state_eq
        rw [Run.after_nil, hfresh.chain, List.nil_append, hnew.key_eq] at hunvisited
        have htraces := hunvisited.bind fun content mid _ =>
          Traces.done (some (content, record.isBinary))
        exact htraces.congr (fetchBlock_some hr)
  · cases found with
    | none => exact Traces.done []
    | some found => exact Traces.ofExcept (external_toText (external_charset _) _)

end Text
end Reports

/-- The chain at a point of a run holds the blocks that have been entered and not been
given their content. -/
theorem Orderly.chain_eq_filter {start now : Run} {entered completed : List BlockKey}
    (h : Orderly start now entered completed) :
    now.session.chain = entered.filter fun key => key ∉ completed := by
  rw [h.chain_eq]
  apply List.filter_congr
  intro key hkey
  rw [decide_eq_decide, h.mem_completed]
  rcases (h.mem_entered key).1 hkey with hstate | hstate
  · simp [hstate]
  · simp [hstate]

/-- A block of the chain has a record from the start. -/
theorem Orderly.exists_record {start now : Run} {entered completed : List BlockKey}
    (h : Orderly start now entered completed) {key : BlockKey}
    (hkey : key ∈ now.session.chain) : ∃ record, start.session.record? key = some record := by
  obtain ⟨record, hr, -⟩ := Option.map_eq_some_iff.1 ((h.mem_chain_iff key).1 hkey)
  have hfound := h.found_eq key
  rw [hr, Option.map_some] at hfound
  obtain ⟨old, hold, -⟩ := Option.map_eq_some_iff.1 hfound.symm
  exact ⟨old, hold⟩

/-- The failure of a file that cannot be read reports no cycle. -/
theorem Discovery.Unreadable.not_isCircular {options : Options} {disk : Disk}
    {paths : List Text} {e : Error} (h : Unreadable options disk paths e)
    (hoptions : options.ReportsNoCycle) : e.isCircular = false := by
  obtain ⟨file, -, hreading | herror⟩ := h
  · rcases reading_error hreading with hexternal | ⟨test, hsome, hfails⟩
    · exact e.not_isCircular_of_external hexternal
    · exact hoptions test file e hsome hfails
  · obtain ⟨attrText, hparse⟩ := exists_parse_of_error_mem_foundIn herror
    exact e.not_isCircular_of_external (external_parse _ attrText e hparse)

namespace Builder

variable {builder : Builder} {options : Options} {workspace : Workspace} {entry : Text}

/-- What a build does first is to load its file in a new session. -/
theorem prepare_cases (hoptions : options.ReportsNoCycle) :
    (∃ loaded, (prepare entry options).run (builder.start options workspace) = (.ok (), loaded) ∧
        Loaded loaded ∧ loaded.session.registry = builder.registry) ∨
      ∃ e after, (prepare entry options).run (builder.start options workspace) =
        (.error e, after) ∧ e.isCircular = false := by
  cases hremoved : options.removeList with
  | error e =>
      refine Or.inr ⟨e, builder.start options workspace, ?_, ?_⟩
      · simp only [prepare, hremoved]
        rfl
      · exact e.not_isCircular_of_external (external_removeList options e hremoved)
  | ok removed =>
      obtain ⟨log, hprepare⟩ : ∃ log, (prepare entry options).run
          (builder.start options workspace) =
            (Discovery.load entry).run { builder.start options workspace with log } := by
        simp only [prepare, hremoved]
        exact ⟨_, rfl⟩
      have hload := (Weave.run_perform (.load entry) { builder.start options workspace with log })
      have hwalking :=
        (@Discovery.Walking.start { builder.start options workspace with log } rfl rfl).visit entry
      rcases hwalking.walk with ⟨loaded, hwalk, -⟩ | ⟨e, after, hwalk, hfails⟩
      · refine Or.inl ⟨loaded, hprepare.trans (hload.trans hwalk), ?_, ?_⟩
        · exact Loaded.load (Loaded.start builder options workspace.disk log) (hload.trans hwalk)
        · exact (Discovery.walk_setting hwalk).registry
      · refine Or.inr ⟨e, after, hprepare.trans (hload.trans hwalk), ?_⟩
        exact hfails.not_isCircular hoptions

/-- A cycle is reported only where the entry has been loaded and is resolved. -/
theorem exists_loaded_of_circular (hoptions : options.ReportsNoCycle) {depth : Nat}
    {directory path : Text} {key : BlockKey} {chain : List BlockKey}
    (h : (builder.build depth directory path options workspace).1 =
      .error (.circular key chain)) :
    ∃ entry loaded after, Path.resolve directory path = .ok entry ∧
      (prepare entry options).run (builder.start options workspace) = (.ok (), loaded) ∧
      Loaded loaded ∧ loaded.session.registry = builder.registry ∧
      (resolveFile depth entry).run loaded = (.error (.circular key chain), after) := by
  rw [build_eq, buildWith] at h
  cases hpath : Path.resolve directory path with
  | error e =>
      rw [hpath] at h
      cases h
      cases external_resolve directory path _ hpath
  | ok entry =>
      simp only [hpath, finish_fst, stepsWith, Weave.bind_eq, Weave.pure_eq] at h
      rcases @prepare_cases builder options workspace entry hoptions with
        ⟨loaded, hprepare, hloaded, hregistry⟩ | ⟨e, after, hprepare, he⟩
      · rw [Weave.run_bind_of_ok hprepare] at h
        obtain ⟨after, hrun⟩ : ∃ after, (resolveFile depth entry).run loaded =
            (.error (.circular key chain), after) := by
          rcases Weave.run_bind_eq_error_iff.1 (Prod.ext h rfl) with hrun | ⟨_, _, _, hdone⟩
          · exact ⟨_, hrun⟩
          · cases hdone
        exact ⟨entry, loaded, after, rfl, hprepare, hloaded, hregistry, hrun⟩
      · rw [Weave.run_bind_of_error hprepare] at h
        cases h
        cases he

end Builder

/-- A cycle that is reported while a file is resolved is a cycle of the active path. -/
theorem resolveFile_reports_cycle {loaded : Run} (hloaded : Loaded loaded)
    (hregistry : loaded.session.registry.ReportsNoCycle) {depth : Nat} {file : Text}
    {key : BlockKey} {chain : List BlockKey} {after : Run}
    (hrun : (resolveFile depth file).run loaded = (.error (.circular key chain), after)) :
    ∃ past record, (resolveFile depth file).actions loaded = past ++ [.enter record] ∧
      AskedAgain [.ofFile file] (loaded.after past) key chain record ∧
      Orderly loaded (loaded.after past) (loaded.entered past) (loaded.completed past) := by
  have hfresh := hloaded.fresh
  obtain ⟨past, record, hactions, hasked⟩ :=
    Reports.resolveFile hfresh hregistry depth file key chain after hrun
  obtain ⟨hsteady, -⟩ := balanced_resolveFile hfresh depth file [] (Steady.nil hfresh)
  rw [List.nil_append, Run.after_nil, hactions] at hsteady
  exact ⟨past, record, hactions, hasked, hsteady.orderly past (List.prefix_append _ _)⟩

/-- A chain without duplicates that ends with one of its blocks once more. -/
theorem AskedAgain.counts {file : Text} {now : Run} {key : BlockKey} {chain : List BlockKey}
    {record : Record} (h : AskedAgain [.ofFile file] now key chain record)
    (hmem : key ∈ now.session.chain) (hnodup : now.session.chain.Nodup) :
    chain.head? = some (.ofFile file) ∧ chain.getLast? = some key ∧ chain.count key = 2 ∧
      ∀ other ∈ chain, other ≠ key → chain.count other = 1 := by
  obtain ⟨rest, hrest⟩ := h.goes_on
  rw [h.chain_eq]
  refine ⟨?_, ?_, ?_, ?_⟩
  · rw [← hrest]
    simp
  · simp
  · rw [List.count_append, List.count_eq_one_of_mem hnodup hmem, List.count_singleton_self]
  · intro other hother hne
    have hbefore : other ∈ now.session.chain := by simpa [hne] using hother
    rw [List.count_append, List.count_eq_one_of_mem hnodup hbefore, List.count_singleton]
    simp [Ne.symm hne]

/-- A reported cycle is one on the active path. With processors and a test for binary files
that make up no such failure: whenever a build fails for a cycle, it got as far as resolving
its entry, and its last action asked for a block that was in progress. The chain of the
failure starts with the entry and ends with this block, which is on it twice; all others
are on it once, and all of them are records that were loaded. Without its last block it is the
chain at that moment: the blocks that had been entered and not been given their content, in
the order in which they were entered. -/
theorem build_reports_cycle (builder : Builder) (hregistry : builder.registry.ReportsNoCycle)
    (options : Options) (hoptions : options.ReportsNoCycle) (depth : Nat) (directory path : Text)
    (workspace : Workspace) (key : BlockKey) (chain : List BlockKey)
    (h : (builder.build depth directory path options workspace).1 =
      .error (.circular key chain)) :
    ∃ entry loaded past record,
      Path.resolve directory path = .ok entry ∧
      (Builder.prepare entry options).run (builder.start options workspace) = (.ok (), loaded) ∧
      (resolveFile depth entry).actions loaded = past ++ [.enter record] ∧
      ((Action.enter record).perform (loaded.after past)).1 = .error (.circular key chain) ∧
      chain.head? = some (.ofFile entry) ∧ chain.getLast? = some key ∧ chain.count key = 2 ∧
      (∀ other ∈ chain, other ≠ key → chain.count other = 1) ∧
      (∀ other ∈ chain, ∃ found, loaded.session.record? other = some found) ∧
      chain.dropLast = (loaded.after past).session.chain ∧
      chain.dropLast = (loaded.entered past).filter fun other => other ∉ loaded.completed past := by
  obtain ⟨entry, loaded, after, hpath, hprepare, hloaded, hsame, hrun⟩ :=
    Builder.exists_loaded_of_circular hoptions h
  obtain ⟨past, record, hactions, hasked, horderly⟩ :=
    resolveFile_reports_cycle hloaded (hsame ▸ hregistry) hrun
  have hchain := hasked.chain_eq
  have hlast : chain.dropLast = (loaded.after past).session.chain := by simp [hchain]
  have hmem : key ∈ (loaded.after past).session.chain := by
    rw [horderly.mem_chain_iff, Session.state?, hasked.record?_eq, Option.map_some,
      hasked.state_eq]
  obtain ⟨hhead, hkey, hcount, hothers⟩ := hasked.counts hmem horderly.chain_nodup
  have hfails := Action.perform_enter_inProgress (loaded.after past) hasked.state_eq
  refine ⟨entry, loaded, past, record, hpath, hprepare, hactions, ?_, hhead, hkey, hcount,
    hothers, ?_, hlast, ?_⟩
  · rw [hfails, hasked.key_eq, hchain]
  · intro other hother
    have hon : other ∈ (loaded.after past).session.chain := by
      rw [hchain, List.mem_append, List.mem_singleton] at hother
      rcases hother with hother | rfl
      · exact hother
      · exact hmem
    exact horderly.exists_record hon
  · rw [hlast, horderly.chain_eq_filter]

namespace Loop

open Discovery

/-- A file that includes another one. -/
def entry : Text := ['/', 'a']

/-- The other file, which includes itself. -/
def inner : Text := ['/', 'b']

def disk : Disk :=
  { nodes := [(entry, .file (Utf8.encode (includeText ['b']))),
    (inner, .file (Utf8.encode (includeText ['b'])))] }

def builder : Builder := { registry := Registry.encodings }

def inclusion : Occurrence where
  offset := 0
  attributes := includeAttributes [] ['b']
  body := []

def fileRecord (path : Text) : Record :=
  { key := .ofFile path, isFile := true, source := some (includeText ['b']) }

def markerRecord (path : Text) : Record :=
  { key := ⟨path, includeTag⟩, occurrences := [inclusion] }

/-- A run on this disk in which some records have been made. -/
def run (log : List LogEntry) (records : List Record) : Run where
  session := {
    builder.newSession {} with
    records := records.map fun record => (record.key, record) }
  disk := disk
  log := log

/-- All that there is to find. -/
def records : List Record :=
  [fileRecord entry, markerRecord entry, fileRecord inner, markerRecord inner]

/-- A file that has not been recorded is recorded with the marker that it is made of. -/
theorem visit_file {path : Text} (h : path ∈ [entry, inner]) (log : List LogEntry)
    {records : List Record}
    (hnew : (run log records).session.record? (.ofFile path) = none) :
    visit (run log records) path =
      (.ok [.note (.ok ⟨path, includeTag, inclusion⟩)],
        (((run log records).store { key := .ofFile path, isFile := true }).note
          (.debug .discovery ("load " ++ String.ofList path))).store (fileRecord path)) := by
  have htidy : Text.tidy (includeText ['b']) = includeText ['b'] := by with_unfolding_all rfl
  have hfile : ∀ path ∈ [entry, inner],
      ({} : Options).treatsAsBinary path = .ok false ∧
      disk.readText ({} : Options).fileCharset path = .ok (includeText ['b']) ∧
      findings path ({} : Options).activeTrigger 0 (includeText ['b']) =
        [.ok ⟨path, includeTag, inclusion⟩] := by
    with_unfolding_all decide
  obtain ⟨hbinary, hread, hfindings⟩ := hfile path h
  exact visit_tidied (run log records) hnew hbinary hread htidy hfindings

/-- What a build logs until its files are loaded. -/
def seen : List LogEntry := [
  .debug .builder "build /a (trigger=release, remove=['debug', 'test'])",
  .debug .discovery "load /a", .debug .discovery "load /b"]

theorem load_entry : (load entry).run (run (seen.take 1) []) = (.ok (), run seen records) := by
  have hentry : step (run (seen.take 1) []) (.visit entry) =
      (.ok [.note (.ok ⟨entry, includeTag, inclusion⟩)],
        run (seen.take 2) [fileRecord entry]) :=
    visit_file (by simp) (seen.take 1) rfl
  have houter : step (run (seen.take 2) [fileRecord entry])
      (.note (.ok ⟨entry, includeTag, inclusion⟩)) =
      (.ok [.visit inner], run (seen.take 2) [fileRecord entry, markerRecord entry]) := by
    rfl
  have hinner : step (run (seen.take 2) [fileRecord entry, markerRecord entry])
      (.visit inner) = (.ok [.note (.ok ⟨inner, includeTag, inclusion⟩)],
        run seen [fileRecord entry, markerRecord entry, fileRecord inner]) :=
    visit_file (by simp) (seen.take 2) rfl
  have hself : step (run seen [fileRecord entry, markerRecord entry, fileRecord inner])
      (.note (.ok ⟨inner, includeTag, inclusion⟩)) =
        (.ok [.visit inner], run seen records) := by
    rfl
  have hknown : step (run seen records) (.visit inner) = (.ok [], run seen records) := by
    rfl
  rw [load, Weave.run_perform, Action.perform, walk_cons hentry, List.singleton_append,
    walk_cons houter, List.singleton_append, walk_cons hinner, List.singleton_append,
    walk_cons hself, List.singleton_append, walk_cons hknown, List.nil_append, walk]

theorem resolve_entry : ((resolveFile 3 entry).run (run seen records)).1 =
    .error (.circular (.ofFile inner) [.ofFile entry, .ofFile inner, .ofFile inner]) := by
  with_unfolding_all rfl

/-- The entry is entered, the other file is entered, and then it is asked for again. -/
theorem build_circular : (builder.build 3 ['/'] ['a'] {} { disk }).1 =
    .error (.circular (.ofFile inner) [.ofFile entry, .ofFile inner, .ofFile inner]) := by
  have hpath : Path.resolve ['/'] ['a'] = .ok entry := by rfl
  have hremove : ({} : Options).removeList = .ok ["debug".toList, "test".toList] := by rfl
  have hprepare : (Builder.prepare entry {}).run (builder.start {} { disk }) =
      (.ok (), run seen records) := by
    simp only [Builder.prepare, hremove, Weave.ofExcept, Weave.bind_eq, Weave.bind]
    exact load_entry
  simp only [Builder.build_eq, Builder.buildWith, hpath, Builder.finish_fst, Builder.stepsWith,
    Weave.bind_eq, Weave.pure_eq]
  rw [Weave.run_bind_of_ok hprepare, Weave.run_bind_of_error (Prod.ext resolve_entry rfl)]

end Loop

theorem build_reports_cycle_loop :
    Loop.builder.registry.ReportsNoCycle ∧ ({} : Options).ReportsNoCycle ∧
      (Loop.builder.build 3 ['/'] ['a'] {} { disk := Loop.disk }).1 =
        .error (.circular (.ofFile Loop.inner)
          [.ofFile Loop.entry, .ofFile Loop.inner, .ofFile Loop.inner]) ∧
      ∃ loaded past, [.ofFile Loop.entry, .ofFile Loop.inner] =
        (Run.entered loaded past).filter fun other => other ∉ loaded.completed past := by
  have hregistry := Registry.plain_encodings.reportsNoCycle
  have hoptions : ({} : Options).ReportsNoCycle := by
    intro test path e hsome
    cases hsome
  obtain ⟨_, loaded, past, _, -, -, -, -, -, -, -, -, -, -, hpath⟩ :=
    build_reports_cycle Loop.builder hregistry {} hoptions 3 ['/'] ['a'] { disk := Loop.disk } _ _
      Loop.build_circular
  exact ⟨hregistry, hoptions, Loop.build_circular, loaded, past, hpath⟩

end BlockWeave
