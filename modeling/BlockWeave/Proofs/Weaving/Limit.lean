import BlockWeave.Builder
import BlockWeave.Proofs.Weaving.Relation

/-!
# A limit on emitted texts

The text that a reference emits is resolved again, and may hold references that emit texts
in their turn. Here resolution is done with a limit on how deeply such texts stand inside
each other, beside the bound on the nesting of all texts. Where the limit is not reached,
the outcome is the same as without it, and a build that does not exceed its bound does not
reach a limit of the same size.

## Implementation notes

Two programs are compared up to one failure (`Refines`): where the first one does not end
with it, the second one does the same. This failure is the one at the limit, or the one at
the bound.
-/

namespace BlockWeave

namespace Weaving

/-- The resolver for emitted texts below a limit: one level further inside, or a failure
where the limit leaves no room. -/
def emitWithin (stop : Error) (resolve : Nat → Resolver) : Nat → Resolver
  | 0 => .refuse stop
  | limit + 1 => resolve limit

/-- A text resolved in a file, where texts may be nested as deeply as the bound says, and
emitted texts inside each other as deeply as the limit says. -/
def resolveWithin (stop : Error) : (depth limit : Nat) → Resolver
  | 0, _ => .refuse .depthExceeded
  | depth + 1, limit =>
      weaveApart (emitWithin stop (resolveWithin stop depth) limit)
        (resolveWithin stop depth limit)
        (fetchBlock (resolveRecord (resolveWithin stop depth limit))) depth

/-- The text of a file that has been loaded, with a limit on emitted texts. -/
def fileWithin (stop : Error) (depth limit : Nat) : (file : Text) → Weave Text :=
  fileText (fetchBlock (resolveRecord (resolveWithin stop depth limit)))

end Weaving

namespace Builder

/-- What a build does before it resolves its file. -/
def prepare (entry : Text) (options : Options) : Weave Unit := do
  let removed ← Weave.ofExcept options.removeList
  let shownTags := Value.list (removed.map fun tag => .str (String.ofList tag))
  Weave.note (.debug .builder ("build " ++ String.ofList entry ++ " (trigger=" ++
    options.trigger.shown ++ ", remove=" ++ shownTags.quoted ++ ")"))
  Discovery.load entry

/-- The steps of a build, for any way to resolve a file. -/
def stepsWith (resolveFile : Text → Weave Text) (entry : Text) (options : Options) :
    Weave Text := do
  prepare entry options
  let text ← resolveFile entry
  return if options.tidies then Text.tidy text else text

theorem steps_eq (depth : Nat) (entry : Text) (options : Options) :
    steps depth entry options = stepsWith (Weaving.resolveFile depth) entry options := by
  simp only [steps, stepsWith, prepare, Weave.bind_eq, Weave.bind_assoc]

/-- The run that a build starts with. -/
def start (builder : Builder) (options : Options) (workspace : Workspace) : Run where
  session := builder.newSession options
  disk := workspace.disk
  log := workspace.log

/-- What a build makes of the outcome of its steps. -/
def finish (builder : Builder) : Except Error Text × Run → Except Error Text × Builder × Workspace
  | (.error e, run) => (.error e, builder, { disk := run.disk, log := run.log })
  | (.ok text, run) =>
      (.ok text, { builder with last := some run.session.reset },
        { disk := run.disk, log := run.log })

theorem finish_fst (builder : Builder) (outcome : Except Error Text × Run) :
    (builder.finish outcome).1 = outcome.1 := by
  obtain ⟨result, run⟩ := outcome
  cases result <;> rfl

section Build

variable (builder : Builder) (directory path : Text) (options : Options) (workspace : Workspace)

/-- A build, for any way to resolve a file. -/
def buildWith (resolveFile : Text → Weave Text) : Except Error Text × Builder × Workspace :=
  match Path.resolve directory path with
  | .error e => (.error e, builder, workspace)
  | .ok entry =>
      builder.finish ((stepsWith resolveFile entry options).run (builder.start options workspace))

theorem build_eq (depth : Nat) :
    builder.build depth directory path options workspace =
      builder.buildWith directory path options workspace (Weaving.resolveFile depth) := by
  cases hpath : Path.resolve directory path with
  | error e => simp only [build, buildWith, hpath]
  | ok entry =>
      simp only [build, buildWith, hpath, steps_eq]
      rfl

/-- A build with a limit on emitted texts. -/
def buildWithin (stop : Error) (depth limit : Nat) : Except Error Text × Builder × Workspace :=
  builder.buildWith directory path options workspace (Weaving.fileWithin stop depth limit)

/-- A build gets as far as resolving its file. -/
def Starts : Prop :=
  ∃ entry now, Path.resolve directory path = .ok entry ∧
    (prepare entry options).run (builder.start options workspace) = (.ok (), now)

end Build
end Builder

/-- Up to one failure of the first program, the others do the same. -/
def Refines (e : Error) : ProgramRelation := fun _ m p =>
  ∀ n now, (m.run now).1 ≠ .error e → (p n).run now = m.run now

namespace Refines

open Weaving

variable {e : Error} {α β : Type}

theorem refl (m : Weave α) : Refines e α m fun _ => m :=
  fun _ _ _ => rfl

theorem fail (p : Nat → Weave α) : Refines e α (.fail e) p :=
  fun _ _ h => absurd rfl h

theorem refuse (resolves : Nat → Resolver) :
    (Resolver.refuse e).Related (Refines e) resolves :=
  ⟨fun _ _ => fail _, fun _ _ => fail _⟩

theorem bind {m : Weave α} {p : Nat → Weave α} {k : α → Weave β} {l : Nat → α → Weave β}
    (hm : Refines e α m p) (hk : ∀ a, Refines e β (k a) fun n => l n a) :
    Refines e β (m.bind k) fun n => (p n).bind (l n) := by
  intro n now h
  cases hrun : m.run now with
  | mk result mid =>
      cases result with
      | ok a =>
          have hp : (p n).run now = (.ok a, mid) := by
            rw [hm n now (by simp [hrun]), hrun]
          rw [Weave.run_bind_of_ok hrun] at h ⊢
          rw [Weave.run_bind_of_ok hp]
          exact hk a n mid h
      | error e' =>
          rw [Weave.run_bind_of_error hrun] at h ⊢
          have hne : e' ≠ e := fun he => h (congrArg Except.error he)
          have hp : (p n).run now = (.error e', mid) := by
            rw [hm n now (by simpa [hrun] using hne), hrun]
          rw [Weave.run_bind_of_error hp]

/-- What is read may be anything. -/
theorem read {view : Run → α} {k : α → Weave β} {l : Nat → α → Weave β}
    (hk : ∀ run, Refines e β (k (view run)) fun n => l n (view run)) :
    Refines e β ((Weave.read view).bind k) fun n => (Weave.read view).bind (l n) :=
  fun n now h => hk now n now h

theorem congruent (e : Error) : Congruent (Refines e) where
  done a := refl (.done a)
  error e' _ := refl (.fail e')
  bind := bind
  read _ := read
  act action _ _ := refl (.perform action)

/-- A block is found in the same way when texts are resolved in the same way. -/
theorem fetchBlock {resolve : Resolver} {resolves : Nat → Resolver}
    (htext : ∀ file text, Refines e Text (resolve file text) fun n => resolves n file text)
    (key : BlockKey) :
    Refines e _ (Weaving.fetchBlock (resolveRecord resolve) key) fun n =>
      Weaving.fetchBlock (resolveRecord (resolves n)) key := by
  have hrecord (record : Record) :
      Refines e Content (resolveRecord resolve record) fun n =>
        resolveRecord (resolves n) record := by
    simp only [resolveRecord]
    split
    · exact refl _
    · refine bind (refl _) fun _ => ?_
      refine bind ((congruent e).evaluate htext record) fun content => ?_
      exact refl _
  simp only [Weaving.fetchBlock]
  refine read fun run => ?_
  cases run.session.record? key with
  | none => exact refl _
  | some record => exact bind (hrecord record) fun _ => refl _

/-- Texts are woven in the same way when what they ask for is found in the same way. -/
theorem weaveApart {emit resolve : Resolver} {emits resolves : Nat → Resolver} {depth : Nat}
    {depths : Nat → Nat} (hemit : emit.Related (Refines e) emits)
    (htext : resolve.Related (Refines e) resolves)
    (hdepths : (∀ n, depths n = depth) ∨ (∀ n, depth ≤ depths n) ∧ e = .depthExceeded) :
    (Weaving.weaveApart emit resolve (Weaving.fetchBlock (resolveRecord resolve))
      depth).Related (Refines e) fun n =>
      Weaving.weaveApart (emits n) (resolves n)
        (Weaving.fetchBlock (resolveRecord (resolves n))) (depths n) := by
  have hroom : (∀ n, depths n = depth) ∨
      (∀ n, depth ≤ depths n) ∧ ∀ p, Refines e Content (.fail .depthExceeded) p := by
    rcases hdepths with hsame | ⟨hle, rfl⟩
    · exact Or.inl hsame
    · exact Or.inr ⟨hle, fail⟩
  have C := congruent e
  refine C.related_weaveApart ⟨hemit.text, fetchBlock htext.text, ?_⟩ htext.text
  refine C.applyProcessor hemit.text fun context processor content => ?_
  exact C.runProcessor (fun e' => refl (.fail e')) (fun _ _ => refl _) hemit context hroom
    processor content

/-- A file is resolved in the same way when texts are. -/
theorem fileText {resolve : Resolver} {resolves : Nat → Resolver}
    (htext : ∀ file text, Refines e Text (resolve file text) fun n => resolves n file text)
    (file : Text) :
    Refines e Text (Weaving.fileText (Weaving.fetchBlock (resolveRecord resolve)) file) fun n =>
      Weaving.fileText (Weaving.fetchBlock (resolveRecord (resolves n))) file :=
  (congruent e).fileText (fetchBlock htext) file

/-- A build is the same when its file is resolved in the same way. -/
theorem build {resolveFile : Text → Weave Text} {resolveFiles : Nat → Text → Weave Text}
    (hfile : ∀ file, Refines e Text (resolveFile file) fun n => resolveFiles n file)
    (builder : Builder) (directory path : Text) (options : Options) (workspace : Workspace)
    (h : (builder.buildWith directory path options workspace resolveFile).1 ≠ .error e) (n : Nat) :
    builder.buildWith directory path options workspace (resolveFiles n) =
      builder.buildWith directory path options workspace resolveFile := by
  have hsteps (entry : Text) : Refines e Text (Builder.stepsWith resolveFile entry options)
      fun n => Builder.stepsWith (resolveFiles n) entry options := by
    refine bind (refl _) fun _ => ?_
    exact bind (hfile entry) fun _ => refl _
  simp only [Builder.buildWith] at h ⊢
  cases hpath : Path.resolve directory path with
  | error e' => rfl
  | ok entry =>
      simp only [hpath, Builder.finish_fst] at h
      simp only [hsteps entry n _ h]

end Refines

namespace Weaving

/-- Where the limit is not reached, it does not matter. -/
theorem resolveWithin_refines (stop : Error) (depth limit : Nat) :
    (resolveWithin stop depth limit).Related (Refines stop) fun _ => resolveText depth := by
  induction depth generalizing limit with
  | zero => exact ⟨fun _ _ => Refines.refl _, fun _ _ => Refines.refl _⟩
  | succ depth ih =>
      simp only [resolveText, ← weaveApart_self]
      refine Refines.weaveApart ?_ (ih limit) (Or.inl fun _ => rfl)
      cases limit with
      | zero => exact Refines.refuse _
      | succ limit => exact ih limit

/-- Where the bound is not exceeded, a limit of the same size is not reached, whatever the
bound is raised to. -/
theorem resolveText_refines (stop : Error) {depth limit : Nat} (hlimit : depth ≤ limit) :
    (resolveText depth).Related (Refines .depthExceeded) fun n =>
      resolveWithin stop (depth + n) limit := by
  induction depth generalizing limit with
  | zero => exact Refines.refuse _
  | succ depth ih =>
      obtain ⟨limit, rfl⟩ : ∃ l, limit = l + 1 := ⟨limit - 1, by omega⟩
      have hraised (n : Nat) : depth + 1 + n = depth + n + 1 := by omega
      simp only [hraised, resolveText, ← weaveApart_self]
      refine Refines.weaveApart ?_ ?_ (Or.inr ⟨fun n => Nat.le_add_right depth n, rfl⟩)
      · exact ih (Nat.le_of_succ_le_succ hlimit)
      · exact ih (Nat.le_of_succ_le hlimit)

end Weaving

namespace Builder

variable {builder : Builder} {directory path : Text} {options : Options} {workspace : Workspace}

/-- A build that does not get so far ends in the same way whatever comes later. -/
theorem buildWith_of_not_starts (h : ¬builder.Starts directory path options workspace)
    (resolveFile other : Text → Weave Text) :
    builder.buildWith directory path options workspace resolveFile =
      builder.buildWith directory path options workspace other := by
  simp only [buildWith]
  cases hpath : Path.resolve directory path with
  | error e => rfl
  | ok entry =>
      cases hrun : (prepare entry options).run (builder.start options workspace) with
      | mk result now =>
          cases result with
          | ok _ => exact absurd ⟨entry, now, hpath, hrun⟩ h
          | error e =>
              simp only [stepsWith, Weave.bind_eq]
              rw [Weave.run_bind_of_error hrun, Weave.run_bind_of_error hrun]

/-- A build that does not reach its limit is the build without one. -/
theorem build_eq_buildWithin {stop : Error} {depth limit : Nat}
    (h : (builder.buildWithin directory path options workspace stop depth limit).1 ≠
      .error stop) :
    builder.build depth directory path options workspace =
      builder.buildWithin directory path options workspace stop depth limit := by
  rw [build_eq]
  have htext := Weaving.resolveWithin_refines stop depth limit
  exact Refines.build (Refines.fileText htext.text) builder directory path options workspace h 0

/-- A build that does not exceed its bound reaches no limit of the same size. -/
theorem buildWithin_eq_build {depth limit : Nat} (hlimit : depth ≤ limit)
    (h : (builder.build depth directory path options workspace).1 ≠ .error .depthExceeded)
    (stop : Error) (n : Nat) :
    builder.buildWithin directory path options workspace stop (depth + n) limit =
      builder.build depth directory path options workspace := by
  rw [build_eq] at h ⊢
  have htext := Weaving.resolveText_refines stop hlimit
  exact Refines.build (Refines.fileText htext.text) builder directory path options workspace h n

end Builder
end BlockWeave
