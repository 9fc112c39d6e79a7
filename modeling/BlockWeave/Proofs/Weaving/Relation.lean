import BlockWeave.Proofs.Failure
import BlockWeave.Proofs.Weave.Basic
import BlockWeave.Weaving

/-!
# Relations kept by weaving

All of weaving is built from a few operations: results and failures, one program after
another, reading the settings of the run, and actions that leave the records alone. A
relation between programs that these operations keep is kept by every function of
`Weaving`, as soon as it holds for the texts and blocks that the function asks for, and
for the registrations of processors.
Each property of weaving is such a relation, and the functions are gone through once.

## Implementation notes

The right-hand side is a family of programs, one for each bound on the nesting of
texts, because a program may need a greater bound than the one it is compared with.

There are two kinds of relations. Where programs that end well are compared, a failure is
related to every family (`Compatible`). Where failures count as well, a failure is related
to itself, and only failures of data are asked for (`Congruent`).

The texts that references emit and the bodies of other markers may be resolved by
different resolvers (`weaveApart`). Weaving uses one for both.
-/

namespace BlockWeave

/-- Two runs with the same options, processors, variants and files. -/
structure SameSetting (run other : Run) : Prop where
  options : run.session.options = other.session.options
  registry : run.session.registry = other.session.registry
  variants : run.session.variants = other.session.variants
  disk : run.disk = other.disk

namespace SameSetting

variable {run other third : Run}

theorem refl (run : Run) : SameSetting run run := ⟨rfl, rfl, rfl, rfl⟩

theorem symm (h : SameSetting run other) : SameSetting other run :=
  ⟨h.options.symm, h.registry.symm, h.variants.symm, h.disk.symm⟩

theorem trans (h : SameSetting run other) (h' : SameSetting other third) :
    SameSetting run third :=
  ⟨h.options.trans h'.options, h.registry.trans h'.registry, h.variants.trans h'.variants,
    h.disk.trans h'.disk⟩

end SameSetting

/-- What is read off a run depends on its setting alone. -/
def Settled {α : Type} (view : Run → α) : Prop :=
  ∀ run other, SameSetting run other → view run = view other

/-- The actions that leave the table of records and the chain alone. -/
def Action.SparesRecords : Action → Prop
  | .note _ | .define .. | .write .. | .register .. => True
  | .load _ | .enter _ | .leave .. => False

theorem Action.sparesRecords_register (name : Text) (processor : Option Processor) :
    (Action.register name processor).SparesRecords := trivial

/-- The actions that put something into the log, under a variant or into a file. They leave
the processors alone too. -/
def Action.IsOutput : Action → Prop
  | .note _ | .define .. | .write .. => True
  | .load _ | .enter _ | .leave .. | .register .. => False

theorem Action.IsOutput.sparesRecords {action : Action} (h : action.IsOutput) :
    action.SparesRecords := by
  cases action <;> trivial

/-- A relation between a program and a family of programs. -/
abbrev ProgramRelation := (α : Type) → Weave α → (Nat → Weave α) → Prop

/-- The character sets of an action fail for their names only. -/
def Action.External : Action → Prop
  | .write charset .. => BlockWeave.External charset
  | .note _ | .define .. | .load _ | .enter _ | .leave .. | .register .. => True

/-- A relation holds for all texts of a resolver and of a family of resolvers. -/
structure Weaving.Resolver.Related (R : ProgramRelation) (resolve : Resolver)
    (resolves : Nat → Resolver) : Prop where
  text : ∀ file text, R Text (resolve file text) fun n => resolves n file text
  scan : ∀ file text, R Text (resolve.scan file text) fun n => (resolves n).scan file text

/-- A relation that is kept by the operations that weaving is built from. Failures of data
are related to themselves. -/
structure Congruent (R : ProgramRelation) : Prop where
  done : ∀ {α : Type} (a : α), R α (.done a) fun _ => .done a
  error : ∀ {α : Type} (e : Error), e.isInternal = false → R α (.fail e) fun _ => .fail e
  bind : ∀ {α β : Type} {m : Weave α} {p : Nat → Weave α} {k : α → Weave β}
    {l : Nat → α → Weave β}, R α m p → (∀ a, R β (k a) fun n => l n a) →
      R β (m.bind k) fun n => (p n).bind (l n)
  read : ∀ {α β : Type} {view : Run → α} {k : α → Weave β} {l : Nat → α → Weave β},
    Settled view → (∀ run, R β (k (view run)) fun n => l n (view run)) →
      R β ((Weave.read view).bind k) fun n => (Weave.read view).bind (l n)
  act : ∀ action : Action, action.IsOutput → action.External →
    R Unit (.perform action) fun _ => .perform action

/-- A relation that is kept by the operations that weaving is built from, and in which a
failure is related to everything. -/
structure Compatible (R : ProgramRelation) : Prop extends Congruent R where
  fail : ∀ {α : Type} (e : Error) (p : Nat → Weave α), R α (.fail e) p
  perform : ∀ action : Action, action.IsOutput →
    R Unit (.perform action) fun _ => .perform action
  error := fun e _ => fail e _
  act := fun action h _ => perform action h

namespace Weaving

/-- What stands in the place of a marker, where the texts of references and the bodies of
other markers are resolved apart. -/
def emitApart (emit resolve : Resolver) (fetch : Fetcher) (depth : Nat) (file : Text)
    (removed : List Text) (marker : Marker) : Weave Text := do
  if removed.contains marker.tag then return []
  else
    let options ← Weave.options
    let attributes ← Weave.ofExcept (Attributes.parse (Path.parent file) marker.attrText)
    if attributes.excludes options.activeTrigger then
      return if attributes.exportTarget.isSome then [] else marker.text
    else if Discovery.referenceTags.contains marker.tag then
      emitReference emit fetch depth file marker attributes
    else if marker.tag = removeTag then return []
    else return marker.rebuild (← resolve file marker.body)

/-- A text with its markers replaced, where the texts of references and the bodies of other
markers are resolved apart. -/
def weaveMarkersApart (emit resolve : Resolver) (fetch : Fetcher) (depth : Nat)
    (file text : Text) : Weave Text := do
  let removed ← Weave.ofExcept (← Weave.options).removeList
  replaceMarkers (emitApart emit resolve fetch depth file removed) 0 text

/-- A text with its markers replaced and its shorthands expanded, where the texts of
references and the bodies of other markers are resolved apart. -/
def weaveApart (emit resolve : Resolver) (fetch : Fetcher) (depth : Nat) : Resolver where
  resolve := fun file text =>
    return Shorthand.expand (← weaveMarkersApart emit resolve fetch depth file text)
  scan := weaveMarkersApart emit resolve fetch depth

/-- The steps of weaving a text. -/
theorem weaveText_eq (resolve : Resolver) (fetch : Fetcher) (depth : Nat) (file text : Text) :
    weaveText resolve fetch depth file text = Weave.options.bind fun options =>
      (Weave.ofExcept options.removeList).bind fun removed =>
        (replaceMarkers (emitMarker resolve fetch depth file removed) 0 text).bind fun woven =>
          .done (Shorthand.expand woven) := by
  simp only [weaveText, weaveMarkers, Weave.bind_eq, Weave.bind_assoc, Weave.pure_eq]

/-- Weaving resolves both by the same resolver. -/
theorem weaveApart_self (resolve : Resolver) (fetch : Fetcher) (depth : Nat) :
    weaveApart resolve resolve fetch depth = weaveText resolve fetch depth := rfl

end Weaving

namespace Congruent

open Weaving

variable {R : ProgramRelation} (C : Congruent R)
include C

theorem ofExcept {α : Type} {result : Except Error α} (h : External result) :
    R α (.ofExcept result) fun _ => .ofExcept result := by
  cases result with
  | ok a => exact C.done a
  | error e => exact C.error e (h e rfl)

theorem note (entry : LogEntry) : R Unit (.note entry) fun _ => .note entry :=
  C.act (.note entry) trivial trivial

theorem mapM {α β : Type} {f : α → Weave β} {g : Nat → α → Weave β} (xs : List α)
    (h : ∀ x ∈ xs, R β (f x) fun n => g n x) :
    R (List β) (xs.mapM f) fun n => xs.mapM (g n) := by
  induction xs with
  | nil => exact C.done []
  | cons x xs ih =>
      simp only [List.mapM_cons, Weave.bind_eq, Weave.pure_eq]
      refine C.bind (h x (by simp)) fun y => ?_
      refine C.bind (ih fun z hz => h z (by simp [hz])) fun ys => ?_
      exact C.done (y :: ys)

theorem forM {α : Type} {f : α → Weave Unit} {g : Nat → α → Weave Unit} (xs : List α)
    (h : ∀ x ∈ xs, R Unit (f x) fun n => g n x) :
    R Unit (xs.forM f) fun n => xs.forM (g n) := by
  induction xs with
  | nil => exact C.done ()
  | cons x xs ih =>
      refine C.bind (h x (by simp)) fun _ => ?_
      exact ih fun z hz => h z (by simp [hz])

theorem replaceMarkers {handler : Marker → Weave Text} {handlers : Nat → Marker → Weave Text}
    {offset : Int} {content : Text}
    (h : ∀ marker ∈ markers offset content, R Text (handler marker) fun n => handlers n marker) :
    R Text (BlockWeave.replaceMarkers handler offset content) fun n =>
      BlockWeave.replaceMarkers (handlers n) offset content := by
  refine C.bind (C.mapM _ fun segment hsegment => ?_) fun pieces => C.done pieces.flatten
  cases segment with
  | literal t => exact C.done t
  | marker marker => exact h marker (List.mem_filterMap.2 ⟨_, hsegment, rfl⟩)

theorem applySlice (attributes : Attributes) (content : Content) :
    R Content (Weaving.applySlice attributes content) fun _ =>
      Weaving.applySlice attributes content := by
  simp only [Weaving.applySlice]
  split
  · exact C.done content
  next spec _ =>
    refine C.bind (C.forM _ fun entry _ => C.note entry) fun _ => ?_
    exact C.done ((Slice.parse spec).apply content)

theorem exportText (options : Options) (attributes : Attributes) (text : Text) :
    R Text (Weaving.exportText options attributes text) fun _ =>
      Weaving.exportText options attributes text := by
  simp only [Weaving.exportText]
  split
  · exact C.done text
  next name =>
    split
    · refine C.bind (C.act _ trivial trivial) fun _ => ?_
      exact C.bind (C.note _) fun _ => C.done []
    · split
      · exact C.done []
      next path =>
        refine C.bind (C.act _ trivial (external_charset options)) fun _ => ?_
        exact C.bind (C.note _) fun _ => C.done []

section Inner

variable {resolve : Resolver} {resolves : Nat → Resolver}
  (htext : ∀ file text, R Text (resolve file text) fun n => resolves n file text)
include htext

theorem resolveOccurrence (file : Text) (occurrence : Occurrence) :
    R Text (Weaving.resolveOccurrence resolve file occurrence) fun n =>
      Weaving.resolveOccurrence (resolves n) file occurrence :=
  C.bind (htext file occurrence.body) fun _ => C.done _

/-- The content of a record is found by reading the disk or by resolving texts. -/
theorem evaluate (record : Record) :
    R Content (Weaving.evaluate resolve record) fun n =>
      Weaving.evaluate (resolves n) record := by
  simp only [Weaving.evaluate]
  split
  · split
    · refine C.read (fun run other h => h.disk) fun run => ?_
      exact C.bind (C.ofExcept (external_readBytes _ _)) fun _ => C.done _
    · exact C.bind (htext _ _) fun _ => C.done _
  · refine C.bind (C.mapM _ fun occurrence _ => ?_) fun bodies => C.done _
    exact C.resolveOccurrence htext record.key.file occurrence

theorem processorInput (options : Options) (file : Text) (target : Target) :
    R Content (Weaving.processorInput resolve options file target) fun n =>
      Weaving.processorInput (resolves n) options file target := by
  simp only [Weaving.processorInput]
  split
  · exact C.done target.content
  · refine C.bind (C.ofExcept (external_toText (external_charset options) _)) fun text => ?_
    exact C.bind (htext file text) fun _ => C.done _

end Inner

theorem findTarget {fetch : Fetcher} {fetches : Nat → Fetcher}
    (hblock : ∀ key, R _ (fetch key) fun n => fetches n key)
    (file : Text) (marker : Marker) (attributes : Attributes) :
    R (Option Target) (Weaving.findTarget fetch file marker attributes) fun n =>
      Weaving.findTarget (fetches n) file marker attributes := by
  simp only [Weaving.findTarget]
  refine C.read (fun run other h => h.variants) fun run => ?_
  split
  · exact C.done _
  · split
    · exact C.done _
    · split
      · exact C.bind (C.note _) fun _ => C.done none
      · refine C.bind (hblock _) fun found => ?_
        cases found with
        | none => exact C.done none
        | some found => exact C.done _

theorem fileText {fetch : Fetcher} {fetches : Nat → Fetcher}
    (hblock : ∀ key, R _ (fetch key) fun n => fetches n key) (file : Text) :
    R Text (Weaving.fileText fetch file) fun n => Weaving.fileText (fetches n) file := by
  refine C.bind (hblock (.ofFile file)) fun found => ?_
  cases found with
  | none => exact C.done []
  | some found =>
      refine C.read (fun run other h => h.options) fun run => ?_
      exact C.ofExcept (external_toText (external_charset _) _)

theorem readReference (options : Options) (directory name : Text) :
    R (Option Text) (Weaving.readReference options directory name) fun _ =>
      Weaving.readReference options directory name := by
  simp only [Weaving.readReference]
  split
  · refine C.read (fun run other h => h.variants) fun run => ?_
    split
    · exact C.done none
    next content _ =>
      refine C.bind (C.ofExcept (external_toText (external_charset options) content)) ?_
      exact fun text => C.done (some text)
  · refine C.bind (C.ofExcept (external_resolve directory name)) fun path => ?_
    refine C.read (fun run other h => h.disk) fun run => ?_
    refine C.bind (C.ofExcept (external_isFile? run.disk path)) fun isFile => ?_
    split
    · exact C.bind (C.ofExcept (external_readText run.disk options path)) fun text =>
        C.done (some text)
    · exact C.done none

/-- A script is kept in a relation by the answers to its requests. -/
theorem script {P α : Type} {host : Script.Host P Weave} {hosts : Nat → Script.Host P Weave}
    (hfail : ∀ (β : Type) (e : Error), R β (host.fail e) fun n => (hosts n).fail e)
    (hlog : ∀ entry, R Unit (host.log entry) fun n => (hosts n).log entry)
    (hresolve : ∀ text, R Text (host.resolve text) fun n => (hosts n).resolve text)
    (hscan : ∀ text, R Text (host.scan text) fun n => (hosts n).scan text)
    (hvariant : ∀ name, R _ (host.variant name) fun n => (hosts n).variant name)
    (hreference : ∀ name, R _ (host.reference name) fun n => (hosts n).reference name)
    (hencodings : R _ host.encodings fun n => (hosts n).encodings)
    (hprocess : ∀ name content,
      R _ (host.process name content) fun n => (hosts n).process name content)
    (hregister : ∀ name processor,
      R Unit (host.register name processor) fun n => (hosts n).register name processor)
    (s : Script P α) : R α (s.run host) fun n => s.run (hosts n) := by
  induction s with
  | done a => exact C.done a
  | fail e => exact hfail α e
  | log entry next ih => exact C.bind (hlog entry) fun _ => ih
  | resolve text next ih => exact C.bind (hresolve text) ih
  | scan text next ih => exact C.bind (hscan text) ih
  | variant name next ih => exact C.bind (hvariant name) ih
  | reference name next ih => exact C.bind (hreference name) ih
  | encodings next ih => exact C.bind hencodings ih
  | process name content next ih => exact C.bind (hprocess name content) ih
  | register name processor next ih => exact C.bind (hregister name processor) fun _ => ih

/-- Any processor may run, whatever it asks for, where the others have the same room, or
have room enough and running out of room is related to everything. -/
theorem runProcessor (hfail : ∀ {α : Type} (e : Error), R α (.fail e) fun _ => .fail e)
    (hregister : ∀ name other, R Unit (.perform (.register name other)) fun _ =>
      .perform (.register name other))
    {resolve : Resolver} {resolves : Nat → Resolver} (htext : resolve.Related R resolves)
    (context : Context) {depth : Nat} {depths : Nat → Nat}
    (hdepths : (∀ n, depths n = depth) ∨
      (∀ n, depth ≤ depths n) ∧ ∀ p, R Content (.fail .depthExceeded) p)
    (processor : Processor) (content : Content) :
    R Content (Weaving.runProcessor resolve context depth processor content) fun n =>
      Weaving.runProcessor (resolves n) context (depths n) processor content := by
  induction depth generalizing depths processor content with
  | zero =>
      rcases hdepths with hsame | ⟨-, hfloor⟩
      · simp only [hsame, Weaving.runProcessor]
        exact hfail .depthExceeded
      · exact hfloor _
  | succ depth ih =>
      have hle (n : Nat) : depth + 1 ≤ depths n := by
        rcases hdepths with hsame | ⟨hroom, -⟩
        · exact Nat.le_of_eq (hsame n).symm
        · exact hroom n
      obtain ⟨room, rfl⟩ : ∃ room : Nat → Nat, depths = fun n => room n + 1 := by
        refine ⟨fun n => depths n - 1, funext fun n => ?_⟩
        have hn := hle n
        show depths n = depths n - 1 + 1
        omega
      have hroom : (∀ n, room n = depth) ∨
          (∀ n, depth ≤ room n) ∧ ∀ p, R Content (.fail .depthExceeded) p := by
        rcases hdepths with hsame | ⟨-, hfloor⟩
        · exact Or.inl fun n => Nat.succ.inj (hsame n)
        · exact Or.inr ⟨fun n => Nat.le_of_succ_le_succ (hle n), hfloor⟩
      refine C.script (fun β e => hfail e) C.note (htext.text context.sourceFile)
        (htext.scan context.sourceFile) ?variant
        (C.readReference context.options context.directory) ?encodings ?process hregister _
      case variant =>
        intro name
        exact C.read (fun run other h => h.variants) fun run => C.done _
      case encodings => exact C.read (fun run other h => h.registry) fun run => C.done _
      case process =>
        intro name content
        refine C.read (fun run other h => h.registry) fun run => ?_
        split
        · exact ih hroom _ content
        · exact hfail .wrongType

theorem applyProcessor {resolve : Resolver} {resolves : Nat → Resolver} {depth : Nat}
    {depths : Nat → Nat}
    (htext : ∀ file text, R Text (resolve file text) fun n => resolves n file text)
    (hprocessor : ∀ context processor content,
      R Content (Weaving.runProcessor resolve context depth processor content) fun n =>
        Weaving.runProcessor (resolves n) context (depths n) processor content)
    (file : Text) (marker : Marker) (attributes : Attributes) (target : Target) :
    R Content (Weaving.applyProcessor resolve depth file marker attributes target) fun n =>
      Weaving.applyProcessor (resolves n) (depths n) file marker attributes target := by
  simp only [Weaving.applyProcessor]
  refine C.read (fun run other h => h.registry) fun run => ?_
  split
  · exact C.done target.content
  next processor _ =>
    refine C.read (fun run other h => h.options) fun other => ?_
    refine C.bind (C.processorInput htext _ file target) fun content => ?_
    exact hprocessor _ processor content

/-- The relation holds for what the references of a text ask for: the texts that they
emit, the blocks that they refer to, and their processors. -/
structure Inner (R : ProgramRelation) (emit : Resolver) (fetch : Fetcher) (depth : Nat)
    (emits : Nat → Resolver) (fetches : Nat → Fetcher) (depths : Nat → Nat) : Prop where
  text : ∀ file text, R Text (emit file text) fun n => emits n file text
  block : ∀ key, R _ (fetch key) fun n => fetches n key
  processor : ∀ file marker attributes target,
    R Content (Weaving.applyProcessor emit depth file marker attributes target) fun n =>
      Weaving.applyProcessor (emits n) (depths n) file marker attributes target

section Text

variable {emit resolve : Resolver} {fetch : Fetcher} {depth : Nat} {emits resolves : Nat → Resolver}
  {fetches : Nat → Fetcher} {depths : Nat → Nat}
  (inner : Inner R emit fetch depth emits fetches depths)
include inner

theorem emitReference (file : Text) (marker : Marker) (attributes : Attributes) :
    R Text (Weaving.emitReference emit fetch depth file marker attributes) fun n =>
      Weaving.emitReference (emits n) (fetches n) (depths n) file marker attributes := by
  simp only [Weaving.emitReference]
  refine C.read (fun run other h => h.options) fun run => ?_
  refine C.bind (C.findTarget inner.block file marker attributes) fun found => ?_
  cases found with
  | none => exact C.done []
  | some target =>
      refine C.bind (inner.processor file marker attributes target) fun processed => ?_
      refine C.bind (C.applySlice attributes processed) fun content => ?_
      refine C.bind (C.ofExcept (external_toText (external_charset _) content)) fun text => ?_
      refine C.bind (inner.text file _) fun resolved => ?_
      exact C.exportText _ attributes resolved

theorem emitApart (file : Text) (removed : List Text) {marker : Marker}
    (hbody : R Text (resolve file marker.body) fun n => resolves n file marker.body) :
    R Text (Weaving.emitApart emit resolve fetch depth file removed marker) fun n =>
      Weaving.emitApart (emits n) (resolves n) (fetches n) (depths n) file removed marker := by
  simp only [Weaving.emitApart]
  split
  · exact C.done []
  · refine C.read (fun run other h => h.options) fun run => ?_
    refine C.bind (C.ofExcept (external_parse _ _)) fun attributes => ?_
    split
    · exact C.done _
    · split
      · exact C.emitReference inner file marker attributes
      · split
        · exact C.done []
        · exact C.bind hbody fun body => C.done (marker.rebuild body)

/-- The relation holds for the markers of a text when it holds for what the references ask
for, and for the bodies. -/
theorem weaveMarkersApart (file : Text) {text : Text}
    (hbody : ∀ marker ∈ markers 0 text,
      R Text (resolve file marker.body) fun n => resolves n file marker.body) :
    R Text (Weaving.weaveMarkersApart emit resolve fetch depth file text) fun n =>
      Weaving.weaveMarkersApart (emits n) (resolves n) (fetches n) (depths n) file text := by
  refine C.read (fun run other h => h.options) fun run => ?_
  refine C.bind (C.ofExcept (external_removeList _)) fun removed => ?_
  refine C.replaceMarkers fun marker hmarker => ?_
  exact C.emitApart inner file removed (hbody marker hmarker)

/-- The relation holds for a text when it holds for its markers. -/
theorem weaveApart (file : Text) {text : Text}
    (hbody : ∀ marker ∈ markers 0 text,
      R Text (resolve file marker.body) fun n => resolves n file marker.body) :
    R Text (Weaving.weaveApart emit resolve fetch depth file text) fun n =>
      Weaving.weaveApart (emits n) (resolves n) (fetches n) (depths n) file text :=
  C.bind (C.weaveMarkersApart inner file hbody) fun woven => C.done (Shorthand.expand woven)

/-- The relation holds for all texts when it holds for what they ask for. -/
theorem related_weaveApart
    (hbody : ∀ file text, R Text (resolve file text) fun n => resolves n file text) :
    (Weaving.weaveApart emit resolve fetch depth).Related R fun n =>
      Weaving.weaveApart (emits n) (resolves n) (fetches n) (depths n) where
  text file _ := C.weaveApart inner file fun marker _ => hbody file marker.body
  scan file _ := C.weaveMarkersApart inner file fun marker _ => hbody file marker.body

end Text
end Congruent

namespace Compatible

open Weaving

variable {R : ProgramRelation} (C : Compatible R)
include C

/-- Any processor may run, whatever it asks for, where the others have room enough. -/
theorem runProcessor (hregister : ∀ name other, R Unit (.perform (.register name other)) fun _ =>
      .perform (.register name other))
    {resolve : Resolver} {resolves : Nat → Resolver} (htext : resolve.Related R resolves)
    (context : Context) {depth : Nat} {depths : Nat → Nat} (hdepths : ∀ n, depth ≤ depths n)
    (processor : Processor) (content : Content) :
    R Content (Weaving.runProcessor resolve context depth processor content) fun n =>
      Weaving.runProcessor (resolves n) context (depths n) processor content :=
  C.toCongruent.runProcessor (fun e => C.fail e _) hregister htext context
    (Or.inr ⟨hdepths, C.fail .depthExceeded⟩) processor content

theorem refuse (e : Error) (resolves : Nat → Resolver) : (Resolver.refuse e).Related R resolves :=
  ⟨fun _ _ => C.fail e _, fun _ _ => C.fail e _⟩

/-- The relation holds for what a text asks for: the texts inside, the blocks that are
referred to, and processors. -/
structure Inner (R : ProgramRelation) (resolve : Resolver) (fetch : Fetcher) (depth : Nat)
    (resolves : Nat → Resolver) (fetches : Nat → Fetcher) (depths : Nat → Nat) : Prop where
  text : ∀ file text, R Text (resolve file text) fun n => resolves n file text
  block : ∀ key, R _ (fetch key) fun n => fetches n key
  processor : ∀ context processor content,
    R Content (Weaving.runProcessor resolve context depth processor content) fun n =>
      Weaving.runProcessor (resolves n) context (depths n) processor content

/-- The relation holds for all texts when it holds for what they ask for. -/
theorem weaveText {resolve : Resolver} {fetch : Fetcher} {depth : Nat} {resolves : Nat → Resolver}
    {fetches : Nat → Fetcher} {depths : Nat → Nat}
    (inner : Inner R resolve fetch depth resolves fetches depths) :
    (Weaving.weaveText resolve fetch depth).Related R fun n =>
      Weaving.weaveText (resolves n) (fetches n) (depths n) := by
  simp only [← weaveApart_self]
  refine C.related_weaveApart ⟨inner.text, inner.block, ?_⟩ inner.text
  exact C.applyProcessor inner.text inner.processor

end Compatible
end BlockWeave
