import BlockWeave.Proofs.Discovery.Reading
import BlockWeave.Proofs.Marker.Writing
import BlockWeave.Proofs.Weaving.Limit
import BlockWeave.Proofs.Weaving.Registration

/-!
# Histories of a builder

A builder is called any number of times: variants are preset, processors are registered and
files are built, and some of the calls fail. What counts for a later call is decided by the
calls that preset and register alone, and a variant that is asked for has the content that
was written last.

## Implementation notes

Each call leaves an event. What a build exports and registers is read off the actions of its
steps, so the variants of the last session are one list of writes in order: the presets before
the build, its exports, and the presets since (`last_since`). The content of a name is the
last one in that list. The registry of that session is a list of writes in the same way, and
no call makes it the registry of the builder.
-/

namespace BlockWeave

/-- The variant that an action defines. -/
def Action.definition? : Action → Option (Text × Content)
  | .define name content => some (name, content)
  | .note _ | .load _ | .enter _ | .leave .. | .write .. | .register .. => none

/-- Variants change by definitions only. -/
theorem Action.perform_variants (now : Run) (action : Action) :
    (action.perform now).2.session.variants =
      match action.definition? with
      | some (name, content) => now.session.variants.put name content
      | none => now.session.variants := by
  cases action with
  | note entry => rfl
  | load path => exact (Discovery.walk_setting rfl).variants
  | enter record =>
      by_cases hstate : record.state = .inProgress
      · rw [perform_enter_inProgress now hstate]
        rfl
      · obtain ⟨after, hperform, hstored⟩ := perform_enter now hstate
        rw [hperform]
        exact hstored.setting.variants
  | leave record content =>
      simp only [perform, Session.leave]
      split <;> rfl
  | define name content => rfl
  | write charset path content => rfl
  | register name processor => rfl

/-- Behind some actions, the variants are those from before with the definitions added. -/
theorem Run.after_variants {now : Run} {bindings : List (Text × Content)}
    (h : now.session.variants = Table.ofList bindings) (actions : List Action) :
    (now.after actions).session.variants =
      Table.ofList (bindings ++ actions.filterMap Action.definition?) := by
  induction actions generalizing now bindings with
  | nil => rw [after_nil, h, List.filterMap_nil, List.append_nil]
  | cons action actions ih =>
      have hperform := action.perform_variants now
      rw [after_cons]
      cases hdefinition : action.definition? with
      | none =>
          rw [hdefinition] at hperform
          rw [ih (hperform.trans h), List.filterMap_cons_none hdefinition]
      | some binding =>
          rw [hdefinition, h] at hperform
          have hconcat := hperform.trans (Table.ofList_concat bindings binding).symm
          rw [ih hconcat, List.filterMap_cons_some hdefinition, List.append_assoc,
            List.singleton_append]

namespace Builder

/-- What a build is asked to do, and the surroundings that it finds. -/
structure Request where
  depth : Nat
  directory : Text
  path : Text
  options : Options
  workspace : Workspace

namespace Request

/-- The result of a build, the builder behind it and the surroundings that it leaves. -/
def outcome (request : Request) (builder : Builder) : Except Error Text × Builder × Workspace :=
  builder.build request.depth request.directory request.path request.options request.workspace

/-- What a build does, in order. -/
def actions (request : Request) (builder : Builder) : List Action :=
  match Path.resolve request.directory request.path with
  | .error _ => []
  | .ok entry =>
      (steps request.depth entry request.options).actions
        (builder.start request.options request.workspace)

/-- The variants that a build exports, in order. -/
def exports (request : Request) (builder : Builder) : List (Text × Content) :=
  (request.actions builder).filterMap Action.definition?

/-- The names that a build lists with processors in its session, in order. -/
def registrations (request : Request) (builder : Builder) : List (Text × Option Processor) :=
  (request.actions builder).filterMap Action.registration?

end Request

/-- A call of a builder. -/
inductive Call where
  /-- Presets a variant. -/
  | setVariant (name : Text) (content : Content)
  /-- Registers a processor. -/
  | registerEncoding (name : Text) (processor : Option Processor)
  /-- Builds a file. -/
  | build (request : Request)

/-- How a call ended. -/
inductive Event where
  /-- A variant has been preset. -/
  | preset (name : Text) (content : Content)
  /-- A processor has been registered. -/
  | registered (name : Text) (processor : Option Processor)
  /-- A build has succeeded, and exported variants and registered processors on the way. -/
  | built (exports : List (Text × Content)) (listed : List (Text × Option Processor))
  /-- The call has failed. -/
  | failed (error : Error)

namespace Event

/-- The variant that was preset. -/
def preset? : Event → Option (Text × Content)
  | preset name content => some (name, content)
  | registered .. | built .. | failed _ => none

/-- The name that was registered by a call, with its processor. -/
def registration? : Event → Option (Text × Option Processor)
  | registered name processor => some (name, processor)
  | preset .. | built .. | failed _ => none

/-- A build has succeeded. -/
def IsBuilt : Event → Prop
  | built .. => True
  | preset .. | registered .. | failed _ => False

end Event

namespace Call

/-- The variant that a call presets. -/
def preset? : Call → Option (Text × Content)
  | setVariant name content => some (name, content)
  | registerEncoding .. | build _ => none

/-- The processors behind a call; one that is refused changes none. -/
def register (registry : Registry) : Call → Registry
  | registerEncoding name processor =>
      match registry.add name processor with
      | .ok after => after
      | .error _ => registry
  | setVariant .. | build _ => registry

/-- Carries a call out. -/
def perform (builder : Builder) : Call → Event × Builder
  | setVariant name content => (.preset name content, builder.setVariant name content)
  | registerEncoding name processor =>
      match builder.registerEncoding name processor with
      | .ok after => (.registered name processor, after)
      | .error e => (.failed e, builder)
  | build request =>
      match request.outcome builder with
      | (.ok _, after, _) =>
          (.built (request.exports builder) (request.registrations builder), after)
      | (.error e, after, _) => (.failed e, after)

end Call

/-- The builder behind some calls. -/
def after (builder : Builder) (calls : List Call) : Builder :=
  calls.foldl (fun builder call => (call.perform builder).2) builder

/-- What some calls have led to, one event for each. -/
def events (builder : Builder) : List Call → List Event
  | [] => []
  | call :: calls => (call.perform builder).1 :: events (call.perform builder).2 calls

section Histories

variable {builder : Builder} {calls : List Call}

theorem after_concat (builder : Builder) (calls : List Call) (call : Call) :
    builder.after (calls ++ [call]) = (call.perform (builder.after calls)).2 := by
  rw [after, List.foldl_append]
  rfl

theorem events_concat (builder : Builder) (calls : List Call) (call : Call) :
    builder.events (calls ++ [call]) =
      builder.events calls ++ [(call.perform (builder.after calls)).1] := by
  induction calls generalizing builder with
  | nil => rfl
  | cons first calls ih =>
      rw [List.cons_append, events, ih]
      rfl

end Histories

section Outcomes

variable (request : Request) (builder : Builder)

/-- A build that fails leaves the builder as it was. One that succeeds becomes the last one. Its
variants are the presets with its exports added, and its processors are those of the builder
with its registrations added. -/
theorem outcome_cases :
    (∃ e surroundings, request.outcome builder = (.error e, builder, surroundings)) ∨
      ∃ text session surroundings,
        request.outcome builder = (.ok text, { builder with last := some session }, surroundings) ∧
        (∀ bindings, builder.presets = Table.ofList bindings →
          session.variants = Table.ofList (bindings ++ request.exports builder)) ∧
        session.registry = builder.registry.registerAll (request.registrations builder) := by
  simp only [Request.outcome, build, Request.exports, Request.registrations, Request.actions]
  cases hpath : Path.resolve request.directory request.path with
  | error e => exact Or.inl ⟨e, request.workspace, rfl⟩
  | ok entry =>
      cases hrun : (steps request.depth entry request.options).run
          (builder.start request.options request.workspace) with
      | mk result last =>
          have hlast := Weave.eq_after_of_run hrun
          simp only [start] at hrun
          simp only [hrun]
          cases result with
          | error e => exact Or.inl ⟨e, _, rfl⟩
          | ok text =>
              refine Or.inr ⟨text, last.session.reset, _, rfl, ?_, ?_⟩
              · intro bindings hpresets
                rw [Session.reset, hlast]
                exact Run.after_variants hpresets _
              · rw [Session.reset, hlast]
                exact Run.after_registry _ _

/-- What a build gives and leaves behind does not depend on the last session. -/
theorem outcome_congr (last : Option Session) :
    (request.outcome { builder with last }).1 = (request.outcome builder).1 ∧
      (request.outcome { builder with last }).2.2 = (request.outcome builder).2.2 := by
  simp only [Request.outcome, build, newSession]
  cases Path.resolve request.directory request.path with
  | error e => exact ⟨rfl, rfl⟩
  | ok entry =>
      dsimp only
      split <;> exact ⟨rfl, rfl⟩

end Outcomes

/-- What a call can do. -/
inductive Step (builder : Builder) : Call → Event → Builder → Prop
  /-- A variant is preset, also in the last session. -/
  | preset (name : Text) (content : Content) :
      Step builder (.setVariant name content) (.preset name content)
        (builder.setVariant name content)
  /-- A processor is registered. -/
  | registered {name : Text} {processor : Option Processor} {registry : Registry}
      (h : builder.registry.add name processor = .ok registry) :
      Step builder (.registerEncoding name processor) (.registered name processor)
        { builder with registry }
  /-- A processor is refused. -/
  | refused {name : Text} {processor : Option Processor} {e : Error}
      (h : builder.registry.add name processor = .error e) :
      Step builder (.registerEncoding name processor) (.failed e) builder
  /-- A build succeeds. -/
  | built (request : Request) {session : Session}
      (hvariants : ∀ bindings, builder.presets = Table.ofList bindings →
        session.variants = Table.ofList (bindings ++ request.exports builder))
      (hregistry :
        session.registry = builder.registry.registerAll (request.registrations builder)) :
      Step builder (.build request)
        (.built (request.exports builder) (request.registrations builder))
        { builder with last := some session }
  /-- A build fails. -/
  | failed (request : Request) (e : Error) : Step builder (.build request) (.failed e) builder

theorem step_perform (builder : Builder) (call : Call) :
    Step builder call (call.perform builder).1 (call.perform builder).2 := by
  cases call with
  | setVariant name content => exact .preset name content
  | registerEncoding name processor =>
      simp only [Call.perform, registerEncoding]
      cases hadd : builder.registry.add name processor with
      | ok registry => exact .registered hadd
      | error e => exact .refused hadd
  | build request =>
      simp only [Call.perform]
      rcases outcome_cases request builder with ⟨e, _, houtcome⟩ |
        ⟨text, session, _, houtcome, hvariants, hregistry⟩
      · rw [houtcome]
        exact .failed request e
      · rw [houtcome]
        exact .built request hvariants hregistry

namespace Step

variable {builder next : Builder} {call : Call} {event : Event} {bindings : List (Text × Content)}

theorem preset?_eq (h : Step builder call event next) : event.preset? = call.preset? := by
  cases h <;> rfl

theorem registry_eq (h : Step builder call event next) :
    next.registry = call.register builder.registry := by
  cases h with
  | preset name content => rfl
  | registered hadd => simp only [Call.register, hadd]
  | refused hadd => simp only [Call.register, hadd]
  | built request hvariants hregistry => rfl
  | failed request e => rfl

/-- What a call registers can be read off its event. -/
theorem registerAll_eq (h : Step builder call event next) :
    next.registry = builder.registry.registerAll ([event].filterMap Event.registration?) := by
  cases h with
  | preset name content => rfl
  | registered hadd =>
      rw [Registry.add] at hadd
      split at hadd
      · cases hadd
      · cases hadd
        rfl
  | refused hadd => rfl
  | built request hvariants hregistry => rfl
  | failed request e => rfl

theorem presets_eq (h : Step builder call event next)
    (hpresets : builder.presets = Table.ofList bindings) :
    next.presets = Table.ofList (bindings ++ [call].filterMap Call.preset?) := by
  have hsame : builder.presets = Table.ofList (bindings ++ []) := by rwa [List.append_nil]
  cases h with
  | preset name content =>
      rw [setVariant, hpresets]
      exact (Table.ofList_concat bindings (name, content)).symm
  | registered hadd => exact hsame
  | refused hadd => exact hsame
  | built request hvariants hregistry => exact hsame
  | failed request e => exact hsame

/-- The session of a build that has just succeeded. -/
theorem last_of_built {exports : List (Text × Content)} {listed : List (Text × Option Processor)}
    (h : Step builder call (.built exports listed) next)
    (hpresets : builder.presets = Table.ofList bindings) :
    ∃ session, next.last = some session ∧
      session.variants = Table.ofList (bindings ++ exports) ∧
      session.registry = builder.registry.registerAll listed := by
  cases h with
  | built request hvariants hregistry => exact ⟨_, rfl, hvariants bindings hpresets, hregistry⟩

/-- As long as no build succeeds there is no last session. -/
theorem last_eq_none (h : Step builder call event next) (hbuilt : ¬event.IsBuilt)
    (hlast : builder.last = none) : next.last = none := by
  cases h with
  | preset name content => rw [setVariant, hlast, Option.map_none]
  | registered hadd => exact hlast
  | refused hadd => exact hlast
  | built request hvariants hregistry => exact absurd trivial hbuilt
  | failed request e => exact hlast

/-- Until the next build succeeds, presets go to the last session too, and registrations do
not. -/
theorem last_eq_some (h : Step builder call event next) (hbuilt : ¬event.IsBuilt)
    {session : Session} (hlast : builder.last = some session)
    (hvariants : session.variants = Table.ofList bindings) :
    ∃ session', next.last = some session' ∧
      session'.variants = Table.ofList (bindings ++ [event].filterMap Event.preset?) ∧
      session'.registry = session.registry := by
  have hsame : session.variants = Table.ofList (bindings ++ []) := by rwa [List.append_nil]
  cases h with
  | preset name content =>
      refine ⟨{ session with variants := session.variants.put name content }, ?_, ?_, rfl⟩
      · rw [setVariant, hlast, Option.map_some]
      · rw [hvariants]
        exact (Table.ofList_concat bindings (name, content)).symm
  | registered hadd => exact ⟨session, hlast, hsame, rfl⟩
  | refused hadd => exact ⟨session, hlast, hsame, rfl⟩
  | built request hstart hlisted => exact absurd trivial hbuilt
  | failed request e => exact ⟨session, hlast, hsame, rfl⟩

end Step

section Run

variable (registry : Registry) (calls : List Call)

/-- The presets are those of the calls that preset. -/
theorem presets_after :
    (after { registry } calls).presets = Table.ofList (calls.filterMap Call.preset?) := by
  induction calls using List.reverseRecOn with
  | nil => rfl
  | append_singleton calls call ih =>
      rw [after_concat, List.filterMap_append]
      exact (step_perform _ call).presets_eq ih

/-- The processors are those of the calls that register. -/
theorem registry_after :
    (after { registry } calls).registry = calls.foldl Call.register registry := by
  induction calls using List.reverseRecOn with
  | nil => rfl
  | append_singleton calls call ih =>
      rw [after_concat, (step_perform _ call).registry_eq, ih, List.foldl_append]
      rfl

/-- The processors can be read off the events. -/
theorem registry_after_events (builder : Builder) :
    (builder.after calls).registry =
      builder.registry.registerAll ((builder.events calls).filterMap Event.registration?) := by
  induction calls using List.reverseRecOn with
  | nil => rfl
  | append_singleton calls call ih =>
      rw [after_concat, events_concat, List.filterMap_append, Registry.registerAll_append, ← ih]
      exact (step_perform _ call).registerAll_eq

/-- The calls that preset are those with the event. -/
theorem events_presets (builder : Builder) :
    (builder.events calls).filterMap Event.preset? = calls.filterMap Call.preset? := by
  induction calls generalizing builder with
  | nil => rfl
  | cons call calls ih =>
      rw [events, List.filterMap_cons, List.filterMap_cons, (step_perform _ call).preset?_eq, ih]

variable {registry calls}

/-- Without a build that succeeds there is no last session. -/
theorem last_eq_none (h : ∀ event ∈ events { registry } calls, ¬event.IsBuilt) :
    (after { registry } calls).last = none := by
  induction calls using List.reverseRecOn with
  | nil => rfl
  | append_singleton calls call ih =>
      rw [events_concat, List.forall_mem_append, List.forall_mem_singleton] at h
      rw [after_concat]
      exact (step_perform _ call).last_eq_none h.2 (ih h.1)

/-- The variants of the last session are the presets before its build, its exports and the
presets since, in this order. Its processors are the ones registered before its build and in
it. -/
theorem last_since {before since : List Event} {exports : List (Text × Content)}
    {listed : List (Text × Option Processor)}
    (h : events { registry } calls = before ++ .built exports listed :: since)
    (hsince : ∀ event ∈ since, ¬event.IsBuilt) :
    ∃ session, (after { registry } calls).last = some session ∧
      session.variants = Table.ofList (before.filterMap Event.preset? ++ exports ++
        since.filterMap Event.preset?) ∧
      session.registry =
        registry.registerAll (before.filterMap Event.registration? ++ listed) := by
  induction calls using List.reverseRecOn generalizing since with
  | nil => simp [events] at h
  | append_singleton calls call ih =>
      have hstep := step_perform (after { registry } calls) call
      rw [events_concat] at h
      rw [after_concat]
      -- The last event is the build itself, or one of those since.
      rcases List.eq_nil_or_concat' since with rfl | ⟨earlier, event, rfl⟩
      · obtain ⟨rfl, hevent⟩ := List.append_inj' h rfl
        rw [List.singleton_inj.1 hevent] at hstep
        obtain ⟨session, hlast, hvariants, hregistry⟩ :=
          hstep.last_of_built (presets_after registry calls)
        refine ⟨session, hlast, ?_, ?_⟩
        · rw [hvariants, events_presets, List.filterMap_nil, List.append_nil]
        · rw [hregistry, registry_after_events, Registry.registerAll_append]
      · rw [← List.cons_append, ← List.append_assoc] at h
        obtain ⟨hearlier, hevent⟩ := List.append_inj' h rfl
        rw [List.forall_mem_append, List.forall_mem_singleton] at hsince
        rw [List.singleton_inj.1 hevent] at hstep
        obtain ⟨session, hlast, hvariants, hregistry⟩ := ih hearlier hsince.1
        rw [List.filterMap_append, ← List.append_assoc, ← hregistry]
        exact hstep.last_eq_some hsince.2 hlast hvariants

end Run

/-- Builds are isolated from each other, over any history of a new builder. Behind any calls,
successful or not, the presets and the processors are those of the calls that preset and
register, whatever the builds have exported and registered. The next build starts in a session
with just these, and gives what it would give with any other last session; where it fails the
builder stays as it was. A variant has the content that was written last, by the presets or by
the last build that succeeded: a preset since that build counts most, then the exports of that
build, then the presets before it, and exports of earlier builds do not count. From then on
every preset is also a variant of the last session. The processors that the build registered
are in that session, on top of those in force when it began, and nowhere else. -/
theorem history_isolated (registry : Registry) (calls : List Call) :
    (after { registry } calls).presets = Table.ofList (calls.filterMap Call.preset?) ∧
    (after { registry } calls).registry = calls.foldl Call.register registry ∧
    (∀ request : Request,
      (after { registry } calls).newSession request.options =
        { options := request.options, registry := calls.foldl Call.register registry,
          variants := Table.ofList (calls.filterMap Call.preset?) } ∧
      (∀ last, (request.outcome { after { registry } calls with last }).1 =
          (request.outcome (after { registry } calls)).1 ∧
        (request.outcome { after { registry } calls with last }).2.2 =
          (request.outcome (after { registry } calls)).2.2) ∧
      ∀ e, (request.outcome (after { registry } calls)).1 = .error e →
        (request.outcome (after { registry } calls)).2.1 = after { registry } calls) ∧
    ((∀ event ∈ events { registry } calls, ¬event.IsBuilt) →
      (after { registry } calls).last = none ∧
      ∀ name, (after { registry } calls).variant? name =
        (calls.filterMap Call.preset?).reverse.lookup name) ∧
    ∀ before exports listed since,
      events { registry } calls = before ++ .built exports listed :: since →
      (∀ event ∈ since, ¬event.IsBuilt) →
      (∀ name, (after { registry } calls).variant? name =
        ((since.filterMap Event.preset?).reverse.lookup name).or
          ((exports.reverse.lookup name).or
            ((before.filterMap Event.preset?).reverse.lookup name))) ∧
      ∃ session, (after { registry } calls).last = some session ∧
        (∀ name, (after { registry } calls).presets.has name = true →
          session.variants.has name = true) ∧
        session.registry =
          registry.registerAll (before.filterMap Event.registration? ++ listed) := by
  have hpresets := presets_after registry calls
  have hregistry := registry_after registry calls
  refine ⟨hpresets, hregistry, ?_, ?_, ?_⟩
  · intro request
    refine ⟨?_, outcome_congr request _, ?_⟩
    · rw [newSession, hpresets, hregistry]
    · intro e he
      rcases outcome_cases request (after { registry } calls) with
        ⟨_, _, houtcome⟩ | ⟨_, _, _, houtcome, -⟩
      · rw [houtcome]
      · rw [houtcome] at he
        cases he
  · intro hnone
    have hlast := last_eq_none hnone
    refine ⟨hlast, ?_⟩
    intro name
    rw [variant?, hlast, Option.bind_none, hpresets, Table.get?_ofList]
  · intro before exports listed since hevents hsince
    obtain ⟨session, hlast, hvariants, hlisted⟩ := last_since hevents hsince
    have hwritten (name : Text) : session.variants.get? name =
        ((since.filterMap Event.preset?).reverse.lookup name).or
          ((exports.reverse.lookup name).or
            ((before.filterMap Event.preset?).reverse.lookup name)) := by
      rw [hvariants, Table.get?_ofList, List.reverse_append, List.reverse_append,
        List.lookup_append, List.lookup_append]
    -- All presets are among the writes of the last session.
    have hkept (name : Text) (h : session.variants.get? name = none) :
        (after { registry } calls).presets.get? name = none := by
      rw [hwritten, Option.or_eq_none_iff, Option.or_eq_none_iff] at h
      rw [hpresets, ← events_presets calls { registry }, hevents, Table.get?_ofList,
        List.filterMap_append, List.filterMap_cons_none (by rfl), List.reverse_append,
        List.lookup_append, h.1, h.2.2]
      rfl
    refine ⟨?_, session, hlast, ?_, hlisted⟩
    · intro name
      rw [← hwritten, variant?, hlast, Option.bind_some]
      cases hget : session.variants.get? name with
      | some content => rfl
      | none => exact hkept name hget
    · intro name hname
      rw [Table.has, ← Option.ne_none_iff_isSome] at hname ⊢
      intro hget
      exact hname (hkept name hget)

end Builder
end BlockWeave
