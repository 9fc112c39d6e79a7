import BlockWeave.Proofs.Discovery.Reading
import BlockWeave.Proofs.Include.Splicing

/-!
# Which builds come to an end

A build settles when it has one outcome as soon as its bound is great enough. With
processors that ask for nothing, the only way not to settle is to emit texts inside emitted
texts without end: below any limit on these, a build settles. Blocks that refer to each
other do not lead there, since the build fails where a block in progress is asked for.
-/

namespace BlockWeave.Builder

open Filter Weaving

section Settles

variable (builder : Builder) (directory path : Text) (options : Options) (workspace : Workspace)

/-- A build has one outcome as soon as its bound is great enough, and this is not that the
bound was exceeded, if the build gets as far as resolving its file. -/
def Settles (build : Nat → Except Error Text × Builder × Workspace) : Prop :=
  ∃ outcome, (∀ᶠ depth in atTop, build depth = outcome) ∧
    (builder.Starts directory path options workspace → outcome.1 ≠ .error .depthExceeded)

end Settles

variable {builder : Builder} {directory path : Text} {options : Options} {workspace : Workspace}

/-- What has been loaded is consistent. -/
theorem consistent_of_prepare (hplain : builder.registry.Plain) {entry : Text} {now : Run}
    (h : (prepare entry options).run (builder.start options workspace) = (.ok (), now)) :
    Consistent now := by
  obtain ⟨removed, mid, hremoved, hrest⟩ := Weave.run_bind_eq_ok_iff.1 h
  obtain ⟨_, noted, hnote, hload⟩ := Weave.run_bind_eq_ok_iff.1 hrest
  obtain rfl : mid = builder.start options workspace := by
    cases hlist : options.removeList with
    | error e =>
        rw [hlist] at hremoved
        cases hremoved
    | ok tags =>
        rw [hlist] at hremoved
        cases hremoved
        rfl
  cases hnote
  have hstart := Loaded.start builder options workspace.disk
  have hloaded := Loaded.load (hstart _) hload
  have hwalk := (Weave.run_perform _ _).symm.trans hload
  have hsetting := Discovery.walk_setting hwalk
  exact .of_fresh hloaded.fresh (hsetting.registry ▸ hplain)

/-- Below a limit on emitted texts, a build settles. -/
theorem buildWithin_settles (hplain : builder.registry.Plain) {stop : Error}
    (hstop : stop.isInternal = false) (limit : Nat) :
    builder.Settles directory path options workspace fun depth =>
      builder.buildWithin directory path options workspace stop depth limit := by
  by_cases hstarts : builder.Starts directory path options workspace
  · obtain ⟨entry, now, hpath, hprepare⟩ := hstarts
    have hnow := consistent_of_prepare hplain hprepare
    have hfile := fileWithin_terminates hstop limit _ entry now hnow le_rfl
    obtain ⟨outcome, hproper, hrun⟩ := hfile.bind fun text mid hmid =>
      Halts.done hmid.consistent (if options.tidies then Text.tidy text else text)
    refine ⟨builder.finish outcome, ?_, fun _ => ?_⟩
    · filter_upwards [hrun] with depth hdepth
      simp only [buildWithin, buildWith, hpath, stepsWith, Weave.bind_eq, Weave.pure_eq]
      rw [Weave.run_bind_of_ok hprepare, hdepth]
    · rw [finish_fst]
      exact hproper.result
  · refine ⟨builder.buildWith directory path options workspace fun _ => .done [], ?_, ?_⟩
    · exact Eventually.of_forall fun depth => buildWith_of_not_starts hstarts _ _
    · exact fun h => absurd h hstarts

/-- The failure at a limit can be told from any outcome. -/
theorem exists_stop_ne (result : Except Error Text) :
    ∃ stop : Error, stop.isInternal = false ∧ result ≠ .error stop := by
  by_cases hfound : result = .error .notFound
  · exact ⟨.busy, rfl, by simp [hfound]⟩
  · exact ⟨.notFound, rfl, hfound⟩

/-- A build that does not settle exceeds every bound. -/
theorem exceeds_of_not_settles
    (h : ¬builder.Settles directory path options workspace fun depth =>
      builder.build depth directory path options workspace) (depth : Nat) :
    (builder.build depth directory path options workspace).1 = .error .depthExceeded := by
  by_contra hbounded
  obtain ⟨stop, -, hne⟩ := exists_stop_ne (builder.build depth directory path options workspace).1
  refine h ⟨builder.build depth directory path options workspace, ?_, fun _ => hbounded⟩
  filter_upwards [eventually_ge_atTop depth] with greater hge
  obtain ⟨more, rfl⟩ := Nat.exists_eq_add_of_le hge
  have hwithin := buildWithin_eq_build le_rfl hbounded stop more
  rw [← hwithin] at hne ⊢
  exact build_eq_buildWithin hne

/-- A build that does not settle reaches every limit on emitted texts, and the other way
round. -/
theorem not_settles_iff (hplain : builder.registry.Plain) :
    (¬builder.Settles directory path options workspace fun depth =>
        builder.build depth directory path options workspace) ↔
      ∀ stop limit, stop.isInternal = false → ∀ᶠ depth in atTop,
        (builder.buildWithin directory path options workspace stop depth limit).1 =
          .error stop := by
  constructor
  · intro h stop limit hstop
    obtain ⟨outcome, hsettled, hstarts⟩ :=
      @buildWithin_settles builder directory path options workspace hplain stop hstop limit
    beta_reduce at hsettled
    by_contra hreached
    have hne : outcome.1 ≠ .error stop := by
      intro he
      refine hreached ?_
      filter_upwards [hsettled] with depth hdepth
      rw [hdepth, he]
    refine h ⟨outcome, ?_, hstarts⟩
    filter_upwards [hsettled] with depth hdepth
    rw [build_eq_buildWithin (hdepth ▸ hne), hdepth]
  · rintro h ⟨outcome, hsettled, hstarts⟩
    beta_reduce at hsettled
    obtain ⟨stop, hstop, hne⟩ := exists_stop_ne outcome.1
    by_cases hstart : builder.Starts directory path options workspace
    · obtain ⟨bound, hbound⟩ := hsettled.exists
      have hbounded : (builder.build bound directory path options workspace).1 ≠
          .error .depthExceeded := by
        rw [hbound]
        exact hstarts hstart
      obtain ⟨more, hmore⟩ := eventually_atTop.1 (h stop bound hstop)
      have hreached := hmore (bound + more) (Nat.le_add_left more bound)
      rw [buildWithin_eq_build le_rfl hbounded, hbound] at hreached
      exact hne hreached
    · obtain ⟨depth, hdepth, hreached⟩ := (hsettled.and (h stop 0 hstop)).exists
      rw [buildWithin, buildWith_of_not_starts hstart _ (resolveFile depth), ← build_eq,
        hdepth] at hreached
      exact hne hreached

/-- A build that asks for a block in progress fails there. -/
theorem build_of_enter_inProgress {depth : Nat} {entry : Text}
    (hpath : Path.resolve directory path = .ok entry) {before after : List Action}
    {record : Record}
    (hactions : (steps depth entry options).actions (builder.start options workspace) =
      before ++ .enter record :: after) (hstate : record.state = .inProgress) :
    after = [] ∧ (builder.build depth directory path options workspace).1 =
      .error (.circular record.key
        (((builder.start options workspace).after before).session.chain ++ [record.key])) := by
  have hfail := Action.perform_enter_inProgress
    ((builder.start options workspace).after before) hstate
  obtain ⟨hlast, hrun⟩ := Weave.run_of_failed hactions hfail
  refine ⟨hlast, ?_⟩
  rw [build_eq, buildWith, hpath]
  refine (finish_fst builder _).trans ?_
  rw [← steps_eq, hrun]

/-- With plain processors, a build has one outcome below every limit on emitted texts as soon
as its bound is great enough. Without a limit it has one as well, unless it emits texts
inside emitted texts beyond every limit; then it exceeds every bound. A block that is asked
for while it is in progress is reported as a cycle. -/
theorem build_settles_unless_emitting (builder : Builder) (hplain : builder.registry.Plain)
    (directory path : Text) (options : Options) (workspace : Workspace) :
    (∀ stop limit, stop.isInternal = false →
      builder.Settles directory path options workspace fun depth =>
        builder.buildWithin directory path options workspace stop depth limit) ∧
    ((¬builder.Settles directory path options workspace fun depth =>
        builder.build depth directory path options workspace) ↔
      ∀ stop limit, stop.isInternal = false → ∀ᶠ depth in atTop,
        (builder.buildWithin directory path options workspace stop depth limit).1 =
          .error stop) ∧
    ((¬builder.Settles directory path options workspace fun depth =>
        builder.build depth directory path options workspace) →
      ∀ depth, (builder.build depth directory path options workspace).1 =
        .error .depthExceeded) ∧
    (∀ depth entry before record after, Path.resolve directory path = .ok entry →
      (steps depth entry options).actions (builder.start options workspace) =
        before ++ .enter record :: after → record.state = .inProgress →
      after = [] ∧ (builder.build depth directory path options workspace).1 =
        .error (.circular record.key
          (((builder.start options workspace).after before).session.chain ++ [record.key]))) := by
  refine ⟨?_, not_settles_iff hplain, exceeds_of_not_settles, ?_⟩
  · intro stop limit hstop
    exact buildWithin_settles hplain hstop limit
  · intro depth entry before record after hpath hactions hstate
    exact build_of_enter_inProgress hpath hactions hstate

end BlockWeave.Builder

namespace BlockWeave

open Filter

theorem Splice.not_settles :
    ¬Splice.builder.Settles ['/'] ['a'] {} { disk := Splice.disk } fun depth =>
      Splice.builder.build depth ['/'] ['a'] {} { disk := Splice.disk } := by
  rintro ⟨outcome, hsettled, hstarts⟩
  obtain ⟨depth, hdepth⟩ := hsettled.exists
  exact hstarts Splice.starts (hdepth ▸ Splice.build_exceeds depth)

theorem build_settles_unless_emitting_splice :
    Splice.builder.registry.Plain ∧ ∀ limit, ∀ᶠ depth in atTop,
      (Splice.builder.buildWithin ['/'] ['a'] {} { disk := Splice.disk } .notFound depth
        limit).1 = .error .notFound := by
  have h := Builder.build_settles_unless_emitting Splice.builder Registry.plain_encodings ['/']
    ['a'] {} { disk := Splice.disk }
  exact ⟨Registry.plain_encodings, fun limit => h.2.1.1 Splice.not_settles .notFound limit rfl⟩

end BlockWeave
