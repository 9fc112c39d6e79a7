import BlockWeave.Proofs.Weaving.Memo
import BlockWeave.Proofs.Weaving.Registration
import Mathlib.Data.List.Forall2

/-!
# Keeping contents can not be noticed

A text that can be expanded without exports is also resolved, and to the same text,
whatever has been resolved before. With `resolveText_follows` this makes the memory of a
session invisible: files are resolved to the same texts in any order.

## Implementation notes

The one thing that could go wrong is that a block is asked for while it is in progress.
The least bound at which a block can be expanded rules this out: all that a block refers
to is expanded at a smaller bound, and blocks in progress can not be (`Pending`).
-/

namespace BlockWeave

open Filter Weaving

/-- No block in progress can be expanded at a smaller bound. -/
def Pending (start : Run) (bound : Nat) (now : Run) : Prop :=
  ∀ key, now.session.state? key = some .inProgress →
    ∀ depth < bound, ∀ content, ¬ Evaluates start depth key content

/-- The chain is the same, and so are the blocks in progress. -/
structure Settles (now after : Run) : Prop where
  chain : after.session.chain = now.session.chain
  inProgress_iff : ∀ key, after.session.state? key = some .inProgress ↔
    now.session.state? key = some .inProgress

namespace Settles

variable {now mid after : Run}

theorem refl (now : Run) : Settles now now := ⟨rfl, fun _ => Iff.rfl⟩

theorem trans (h : Settles now mid) (h' : Settles mid after) : Settles now after :=
  ⟨h'.chain.trans h.chain, fun key => (h'.inProgress_iff key).trans (h.inProgress_iff key)⟩

theorem pending {start : Run} {bound : Nat} (h : Settles now after)
    (hpending : Pending start bound now) : Pending start bound after :=
  fun key hkey => hpending key ((h.inProgress_iff key).1 hkey)

end Settles

/-- A program ends well with a result, exports nothing and keeps the run in order. -/
def Reaches (start : Run) {α : Type} (m : Weave α) (now : Run) (a : α) : Prop :=
  ∃ after, m.run now = (.ok a, after) ∧ LeavesSetting (m.actions now) ∧ Sound start after ∧
    Settles now after

theorem Reaches.bind {start : Run} {α β : Type} {m : Weave α} {k : α → Weave β} {now : Run}
    {a : α} {b : β} (hm : Reaches start m now a)
    (hk : ∀ mid, Sound start mid → Settles now mid → Reaches start (k a) mid b) :
    Reaches start (m.bind k) now b := by
  obtain ⟨mid, hrun, hnone, hsound, hsettles⟩ := hm
  obtain ⟨after, hrun', hnone', hsound', hsettles'⟩ := hk mid hsound hsettles
  refine ⟨after, ?_, ?_, hsound', hsettles.trans hsettles'⟩
  · rw [Weave.run_bind_of_ok hrun, hrun']
  · rw [Weave.actions_bind_of_ok hrun]
    exact leavesSetting_append.2 ⟨hnone, hnone'⟩

theorem Reaches.done {start now : Run} (h : Sound start now) {α : Type} (a : α) :
    Reaches start (.done a) now a :=
  ⟨now, rfl, leavesSetting_nil, h, Settles.refl now⟩

/-- The result of a program is reached by the programs of a family from a bound on, where
the blocks in progress are pending. -/
def Mirrors (start : Run) (least bound : Nat) : ProgramRelation := fun α m p =>
  Uniform start m ∧ ∀ a : α, Yields start m a → ∀ n ≥ least, ∀ now, Sound start now →
    Pending start bound now → Reaches start (p n) now a

/-- Mirroring is kept by the operations that weaving is built from. -/
theorem mirrors_compatible (start : Run) (least bound : Nat) :
    Compatible (Mirrors start least bound) where
  done a := by
    refine ⟨(alike_invariant start).compatible.done a, fun b hb n _ now hnow _ => ?_⟩
    rw [hb.unique (Yields.done a)]
    exact Reaches.done hnow a
  fail e p := by
    refine ⟨(alike_invariant start).compatible.fail e _, fun b hb => ?_⟩
    obtain ⟨_, hrun, -⟩ := hb start (Alike.refl start)
    cases hrun
  bind := by
    intro α β m p k l hm hk
    refine ⟨(alike_invariant start).compatible.bind hm.1 fun a => (hk a).1, ?_⟩
    intro b hb n hn now hnow hpending
    obtain ⟨a, ha, hka⟩ := hm.1.of_bind (fun a => (hk a).1) hb
    refine (hm.2 a ha n hn now hnow hpending).bind fun mid hmid hsettles => ?_
    exact (hk a).2 b hka n hn mid hmid (hsettles.pending hpending)
  read := by
    intro α β view k l hview hk
    refine ⟨(alike_invariant start).compatible.read hview fun run => (hk run).1, ?_⟩
    intro b hb n hn now hnow hpending
    refine (hk now).2 b (fun other hother => ?_) n hn now hnow hpending
    rw [hview now other (hnow.alike.setting.trans hother.setting.symm)]
    exact hb other hother
  perform action haction := by
    refine ⟨(alike_invariant start).compatible.perform action haction, ?_⟩
    intro b hb n _ now hnow _
    obtain ⟨after, -, -, hnone⟩ := hb start (Alike.refl start)
    rw [Weave.actions_perform, leavesSetting_cons] at hnone
    cases action with
    | note entry =>
        refine ⟨now.note entry, rfl, by simpa using hnone, ?_, rfl, fun _ => Iff.rfl⟩
        exact (Sound.invariant start).note now entry hnow
    | define name content => exact hnone.1.elim
    | write charset path content => exact hnone.1.elim
    | register name processor => exact haction.elim
    | load path => exact haction.elim
    | enter record => exact haction.elim
    | leave record content => exact haction.elim

theorem Mirrors.register (start : Run) (least bound : Nat) (name : Text)
    (processor : Option Processor) :
    Mirrors start least bound Unit (.perform (.register name processor)) fun _ =>
      .perform (.register name processor) := by
  refine ⟨Follows.register start _ name processor, fun a ha => ?_⟩
  obtain ⟨_, -, -, hnone⟩ := ha start (Alike.refl start)
  rw [Weave.actions_perform, leavesSetting_cons] at hnone
  exact hnone.1.elim

theorem Mirrors.congr {start : Run} {least bound : Nat} {α : Type} {m : Weave α}
    {p q : Nat → Weave α} (h : Mirrors start least bound α m p) (hpq : ∀ n ≥ least, p n = q n) :
    Mirrors start least bound α m q := by
  refine ⟨h.1, fun a ha n hn now hnow hpending => ?_⟩
  rw [← hpq n hn]
  exact h.2 a ha n hn now hnow hpending

/-- A family may as well be counted from one. -/
theorem Mirrors.of_succ {start : Run} {least bound : Nat} {α : Type} {m : Weave α}
    {p : Nat → Weave α} (h : Mirrors start least bound α m fun n => p (n + 1)) :
    Mirrors start (least + 1) bound α m p := by
  refine ⟨h.1, fun a ha n hn => ?_⟩
  obtain ⟨k, rfl⟩ := Nat.exists_eq_succ_of_ne_zero (Nat.ne_zero_of_lt hn)
  exact h.2 a ha k (Nat.le_of_succ_le_succ hn)

theorem Mirrors.mono {start : Run} {least bound more : Nat} {α : Type} {m : Weave α}
    {p : Nat → Weave α} (h : Mirrors start least bound α m p) (hle : bound ≤ more) :
    Mirrors start least more α m p := by
  refine ⟨h.1, fun a ha n hn now hnow hpending => h.2 a ha n hn now hnow fun key hkey => ?_⟩
  exact fun depth hdepth => hpending key hkey depth (Nat.lt_of_lt_of_le hdepth hle)

variable {start : Run}

/-- A block expands to one content. -/
theorem Evaluates.eventually {depth : Nat} {key : BlockKey} {content : Content}
    (h : Evaluates start depth key content) :
    ∀ᶠ n in atTop, Evaluates start n key content := by
  obtain ⟨record, hr, hyields⟩ := h
  have hfollows := (alike_invariant start).compatible.evaluate
    (expandText_follows start depth).text record
  filter_upwards [Follows.yields hfollows hyields] with n hn
  exact ⟨record, hr, hn⟩

theorem Evaluates.unique {depth : Nat} {key : BlockKey} {content other : Content}
    (h : Evaluates start depth key content)
    (h' : ∀ᶠ n in atTop, Evaluates start n key other) : content = other := by
  obtain ⟨n, ⟨record, hr, hn⟩, ⟨_, hr', hn'⟩⟩ := ((h.eventually).and h').exists
  rw [hr] at hr'
  cases hr'
  exact hn.unique hn'

/-- There is a least bound at which a block can be expanded. -/
theorem Evaluates.exists_least {depth : Nat} {key : BlockKey} {content : Content}
    (h : Evaluates start depth key content) :
    ∃ least ≤ depth, (∃ other, Evaluates start least key other) ∧
      ∀ smaller < least, ∀ other, ¬ Evaluates start smaller key other := by
  classical
  have hexists : ∃ d other, Evaluates start d key other := ⟨depth, content, h⟩
  refine ⟨Nat.find hexists, Nat.find_min' hexists ⟨content, h⟩, Nat.find_spec hexists, ?_⟩
  intro smaller hsmaller other hother
  exact Nat.find_min hexists hsmaller ⟨other, hother⟩

/-- A block is put in progress, evaluated and left. -/
theorem resolveRecord_reaches_of_unvisited {now : Run} (h : Sound start now) {resolve : Resolver}
    {record : Record} (hr : now.session.record? record.key = some record)
    (hstate : record.state = .unvisited) {content : Content}
    (hkept : ∀ᶠ n in atTop, Evaluates start n record.key content)
    (heval : ∀ entered, Sound start entered →
      (∀ key, entered.session.state? key = some .inProgress →
        key = record.key ∨ now.session.state? key = some .inProgress) →
      Reaches start (evaluate resolve record) entered content) :
    Reaches start (resolveRecord resolve record) now content := by
  obtain ⟨entered, henter, hentered⟩ :=
    Action.perform_enter now (show record.state ≠ .inProgress by simp [hstate])
  rw [← Weave.run_perform] at henter
  have hprogress (key : BlockKey) : entered.session.state? key =
      if record.key = key then some .inProgress else now.session.state? key :=
    hentered.state?_eq key
  obtain ⟨mid, hmidrun, hmidnone, hmid, hsettles⟩ := heval entered (h.enter hentered hr) <| by
    intro key hkey
    rw [hprogress] at hkey
    split at hkey
    next he => exact Or.inl he.symm
    next => exact Or.inr hkey
  obtain ⟨first, hfirst, -⟩ := h.alike.exists_start hr
  obtain ⟨old, hold, -⟩ := hmid.alike.exists_record hfirst
  have hkey : old.key = record.key := hmid.keyed record.key old hold
  -- The block has been in progress all the time, so its record can be left.
  have hold' : old.state = .inProgress := by
    have hinner := (hsettles.inProgress_iff record.key).2 (by rw [hprogress, if_pos rfl])
    rw [Session.state?, hold, Option.map_some] at hinner
    exact Option.some.inj hinner
  obtain ⟨after, hleave, hleft⟩ := @Action.perform_leave mid old now.session.chain
    (hkey ▸ hsettles.chain.trans hentered.chain_eq) (by simp [hold']) content
  obtain ⟨hrun, hactions⟩ := leaveRecord_of_some hold content
  rw [← hrun] at hleave
  rw [resolveRecord_of_ne (by simp [hstate])]
  refine ⟨after, ?_, ?_, hmid.leave hleft (hkey ▸ hold) rfl (hkey ▸ hkept), hleft.chain_eq, ?_⟩
  · rw [Weave.run_bind_of_ok henter, Weave.run_bind_of_ok hmidrun, Weave.run_bind_of_ok hleave,
      Weave.run_done]
  · rw [Weave.actions_bind_of_ok henter, Weave.actions_bind_of_ok hmidrun,
      Weave.actions_bind_of_ok hleave, hactions]
    simp [hmidnone, Action.Keeps]
  · intro key
    rw [hleft.state?_eq, hkey]
    split
    next hk =>
      subst hk
      simp [Session.state?, hr, hstate]
    next hk => rw [hsettles.inProgress_iff, hprogress, if_neg hk]

/-- A record that can be expanded is resolved, if texts are. -/
theorem resolveRecord_reaches {depth n : Nat} (hn : depth ≤ n)
    (htext : ∀ least ≤ depth, (expandText least).Related (Mirrors start least least) resolveText)
    {now : Run} (h : Sound start now) (hpending : Pending start (depth + 1) now)
    {record : Record} (hr : now.session.record? record.key = some record) {content : Content}
    (heval : Evaluates start depth record.key content) :
    Reaches start (resolveRecord (resolveText n) record) now content := by
  cases hstate : record.state with
  | done =>
      obtain ⟨kept, hkept, heval'⟩ := h.done record.key record hr hstate
      rw [resolveRecord_done hstate hkept, heval.unique heval']
      exact Reaches.done h kept
  | inProgress =>
      have hprogress : now.session.state? record.key = some .inProgress := by
        simp [Session.state?, hr, hstate]
      exact absurd heval (hpending record.key hprogress depth (Nat.lt_succ_self depth) content)
  | unvisited =>
      have hkept := heval.eventually
      obtain ⟨least, hle, ⟨other, hother⟩, hleast⟩ := heval.exists_least
      obtain rfl := hother.unique hkept
      refine resolveRecord_reaches_of_unvisited h hr hstate hkept fun entered hentered hkeys => ?_
      obtain ⟨first, hfirst, hyields⟩ := hother
      obtain ⟨same, hsame, hfound⟩ := h.alike.exists_start hr
      rw [hfirst] at hsame
      cases hsame
      rw [← evaluate_congr _ hfound] at hyields
      have hmirrors := (mirrors_compatible start least least).evaluate (htext least hle).text record
      refine hmirrors.2 other hyields n (hle.trans hn) entered hentered fun key hkey => ?_
      -- The block itself is pending because its bound is the least one.
      rcases hkeys key hkey with rfl | hbefore
      · exact hleast
      · intro smaller hsmaller
        exact hpending key hbefore smaller (by omega)

/-- A block that can be expanded is found, if texts are resolved. -/
theorem fetchBlock_mirrors {depth : Nat}
    (htext : ∀ least ≤ depth, (expandText least).Related (Mirrors start least least) resolveText)
    (key : BlockKey) :
    Mirrors start depth (depth + 1) _ (fetchBlock (evaluate (expandText depth)) key) fun n =>
      fetchBlock (resolveRecord (resolveText n)) key := by
  have huniform := (uniform_expandText start depth).text
  refine ⟨Follows.fetchBlock huniform key, fun found hfound n hn now h hpending => ?_⟩
  cases hr : start.session.record? key with
  | none =>
      obtain ⟨hrun, hactions⟩ := @fetchBlock_none (resolveRecord (resolveText n)) key now
        (h.alike.record?_eq_none.2 hr)
      rw [hfound.unique (Yields.fetchBlock_none hr)]
      exact ⟨now, hrun, hactions ▸ leavesSetting_nil, h, Settles.refl now⟩
  | some record =>
      obtain ⟨after, hrun, -, hnone⟩ := hfound start (Alike.refl start)
      obtain ⟨hfetch, hactions⟩ :=
        @fetchBlock_some (evaluate (expandText depth)) key start record hr
      rw [hfetch] at hrun
      obtain ⟨content, mid, heval, hdone⟩ := Weave.run_bind_eq_ok_iff.1 hrun
      rw [hactions, Weave.actions_bind_of_ok heval, leavesSetting_append] at hnone
      have hyields : Yields start (evaluate (expandText depth) record) content :=
        Uniform.yields ((alike_invariant start).compatible.evaluate huniform record)
          (Alike.refl start) heval hnone.1
      obtain ⟨other, hother, hsame⟩ := h.alike.exists_record hr
      obtain rfl := h.keyed key other hother
      have hreaches := resolveRecord_reaches hn htext h hpending hother
        ⟨record, hr, hyields⟩
      obtain ⟨hfetch', hactions'⟩ :=
        @fetchBlock_some (resolveRecord (resolveText n)) other.key now other hother
      rw [hfound.unique (Yields.fetchBlock_some hr hyields), ← isBinary_congr hsame]
      rw [Reaches, hfetch', hactions']
      exact hreaches.bind fun mid hmid _ => Reaches.done hmid _

/-- A text that can be expanded is resolved. -/
theorem resolveText_mirrors (depth : Nat) :
    (expandText depth).Related (Mirrors start depth depth) resolveText := by
  induction depth using Nat.strong_induction_on with
  | _ depth ih =>
      cases depth with
      | zero => exact (mirrors_compatible start 0 0).refuse _ _
      | succ depth =>
          have C := mirrors_compatible start depth (depth + 1)
          have hinner (least : Nat) (hle : least ≤ depth) :
              (expandText least).Related (Mirrors start least least) resolveText :=
            ih least (Nat.lt_succ_of_le hle)
          have hdepth := hinner depth (Nat.le_refl depth)
          have htext : (expandText depth).Related (Mirrors start depth (depth + 1)) resolveText :=
            ⟨fun file text => (hdepth.text file text).mono (Nat.le_succ depth),
              fun file text => (hdepth.scan file text).mono (Nat.le_succ depth)⟩
          have hnext : (expandText (depth + 1)).Related (Mirrors start depth (depth + 1))
              fun n => resolveText (n + 1) := by
            refine C.weaveText ⟨htext.text, fetchBlock_mirrors hinner, ?_⟩
            intro context processor content
            refine (C.runProcessor (Mirrors.register start depth (depth + 1)) htext context
              (fun n => Nat.le_max_left depth n) processor content).congr fun n hn => ?_
            rw [Nat.max_eq_right hn]
          exact ⟨fun file text => (hnext.text file text).of_succ,
            fun file text => (hnext.scan file text).of_succ⟩

/-- A file that can be expanded is resolved. -/
theorem resolveFile_mirrors (depth : Nat) (file : Text) :
    Mirrors start depth (depth + 1) Text (expandFile depth file) fun n => resolveFile n file :=
  (mirrors_compatible start depth (depth + 1)).fileText
    (fetchBlock_mirrors fun least _ => resolveText_mirrors least) file

/-- Files that can be expanded are resolved one after another, where no block is in
progress. -/
theorem mapM_reaches {textOf : Text → Text} (files : List Text)
    (h : ∀ file ∈ files, ∃ depth, Yields start (expandFile depth file) (textOf file)) :
    ∀ᶠ n in atTop, ∀ now, Sound start now →
      (∀ key, now.session.state? key ≠ some .inProgress) →
        Reaches start (files.mapM (resolveFile n)) now (files.map textOf) := by
  induction files with
  | nil => exact Eventually.of_forall fun n now hnow _ => Reaches.done hnow []
  | cons file files ih =>
      obtain ⟨depth, hyields⟩ := h file (by simp)
      filter_upwards [ih fun other hother => h other (by simp [hother]),
        eventually_ge_atTop depth] with n hn hdepth now hnow hidle
      have hfirst := (resolveFile_mirrors depth file).2 _ hyields n hdepth now hnow
        fun key hkey => absurd hkey (hidle key)
      rw [List.mapM_cons, List.map_cons]
      refine hfirst.bind fun mid hmid hsettles => ?_
      refine (hn mid hmid fun key hkey => hidle key ((hsettles.inProgress_iff key).1 hkey)).bind
        fun last hlast _ => ?_
      exact Reaches.done hlast _

/-- Files that are expanded one after another are expanded one by one. -/
theorem forall₂_of_mapM_yields {depth : Nat} {files texts : List Text}
    (h : Yields start (files.mapM (expandFile depth)) texts) :
    List.Forall₂ (fun file text => Yields start (expandFile depth file) text) files texts := by
  have C := (alike_invariant start).compatible
  have huniform (file : Text) : Uniform start (expandFile depth file) :=
    C.fileText (Follows.fetchBlock (uniform_expandText start depth).text) file
  induction files generalizing texts with
  | nil =>
      rw [h.unique (Yields.done [])]
      exact List.Forall₂.nil
  | cons file files ih =>
      rw [List.mapM_cons] at h
      have hrest (text : Text) : Uniform start
          ((files.mapM (expandFile depth)).bind fun texts => .done (text :: texts)) :=
        C.bind (C.mapM files fun other _ => huniform other) fun texts => C.done _
      obtain ⟨text, htext, hlast⟩ := (huniform file).of_bind hrest h
      obtain ⟨others, hothers, hdone⟩ := Uniform.of_bind
        (C.mapM files fun other _ => huniform other) (fun _ => C.done _) hlast
      rw [hdone.unique (Yields.done _)]
      exact List.Forall₂.cons htext (ih hothers)

/-- What is related to one text each is a function of it. -/
theorem exists_textOf {R : Text → Text → Prop} {files texts : List Text}
    (hunique : ∀ file text other, R file text → R file other → text = other)
    (h : List.Forall₂ R files texts) :
    ∃ textOf : Text → Text, texts = files.map textOf ∧ ∀ file ∈ files, R file (textOf file) := by
  classical
  let textOf (file : Text) : Text := if h : ∃ text, R file text then h.choose else []
  have htextOf {file text : Text} (hr : R file text) : textOf file = text := by
    have hexists : ∃ text, R file text := ⟨text, hr⟩
    simp only [textOf, dif_pos hexists]
    exact hunique file _ _ hexists.choose_spec hr
  refine ⟨textOf, ?_⟩
  induction h with
  | nil => simp
  | cons hr _ ih =>
      refine ⟨by rw [List.map_cons, htextOf hr, ← ih.1], fun other hother => ?_⟩
      rcases List.mem_cons.1 hother with rfl | hother
      · exact htextOf hr ▸ hr
      · exact ih.2 other hother

/-- The actions that carry a text to a variant or to a file. -/
def Action.IsExport : Action → Prop
  | .define .. | .write .. => True
  | .note _ | .load _ | .enter _ | .leave .. | .register .. => False

instance : DecidablePred Action.IsExport
  | .define .. | .write .. => .isTrue trivial
  | .note _ | .load _ | .enter _ | .leave .. | .register .. => .isFalse id

/-- A list of actions that exports nothing. -/
def NoExport (actions : List Action) : Prop :=
  ∀ action ∈ actions, ¬action.IsExport

instance (actions : List Action) : Decidable (NoExport actions) :=
  inferInstanceAs (Decidable (∀ action ∈ actions, ¬action.IsExport))

/-- What registers nothing leaves the setting when it exports nothing. -/
theorem Weave.RegistersNothing.leavesSetting {α : Type} {m : Weave α} (h : m.RegistersNothing)
    (hstill : start.session.registry.Still) (hnone : NoExport (m.actions start)) :
    LeavesSetting (m.actions start) := by
  intro action haction
  have hregistration := h start hstill action haction
  have hexport := hnone action haction
  cases action with
  | register name processor => cases hregistration
  | define | write => exact hexport trivial
  | note | load | enter | leave => trivial

/-- Keeping contents can not be noticed. On a session in which no block has been visited,
with any processors that register no others: a file that is resolved without exports expands
to the same text, which is found without keeping anything, and files that are resolved one
after another without exports are resolved to the same texts in any other order. -/
theorem resolveFile_transparent (hfresh : start.session.Fresh)
    (hstill : start.session.registry.Still) (depth : Nat) :
    (∀ file text after, (resolveFile depth file).run start = (.ok text, after) →
      NoExport ((resolveFile depth file).actions start) →
        ∃ bound, ∀ n ≥ bound, ((expandFile n file).run start).1 = .ok text) ∧
    ∀ (files texts : List Text) (after : Run),
      (files.mapM (resolveFile depth)).run start = (.ok texts, after) →
      NoExport ((files.mapM (resolveFile depth)).actions start) →
        ∃ textOf : Text → Text, texts = files.map textOf ∧
          ∀ order : List Text, order ⊆ files → ∃ bound, ∀ n ≥ bound,
            ((order.mapM (resolveFile n)).run start).1 = .ok (order.map textOf) := by
  have hsound := Sound.of_fresh hfresh
  constructor
  · intro file text after hrun hnone
    replace hnone := (Weave.RegistersNothing.resolveFile depth file).leavesSetting hstill hnone
    obtain ⟨-, hyields⟩ := resolveFile_follows start depth file start hsound text after hrun hnone
    obtain ⟨bound, hbound⟩ := eventually_atTop.1 hyields
    refine ⟨bound, fun n hn => ?_⟩
    obtain ⟨_, hexpand, -⟩ := hbound n hn start (Alike.refl start)
    rw [hexpand]
  · intro files texts after hrun hnone
    have hfile (file : Text) := Weave.RegistersNothing.resolveFile depth file
    replace hnone := (Weave.RegistersNothing.mapM files hfile).leavesSetting hstill hnone
    obtain ⟨-, hyields⟩ := (Sound.invariant start).compatible.mapM files
      (fun file _ => resolveFile_follows start depth file) start hsound texts after hrun hnone
    obtain ⟨d, hd⟩ := hyields.exists
    have hall := forall₂_of_mapM_yields hd
    obtain ⟨textOf, htexts, hfiles⟩ := exists_textOf (fun _ _ _ h h' => h.unique h') hall
    refine ⟨textOf, htexts, fun order horder => ?_⟩
    have hreaches := mapM_reaches order fun file hfile => ⟨d, hfiles file (horder hfile)⟩
    obtain ⟨bound, hbound⟩ := eventually_atTop.1 hreaches
    refine ⟨bound, fun n hn => ?_⟩
    obtain ⟨_, hresolve, -⟩ := hbound n hn start hsound fun key hkey => by
      obtain ⟨record, hr, hstate⟩ := Option.map_eq_some_iff.1 hkey
      rw [(hfresh.records key record hr).state_eq] at hstate
      cases hstate
    rw [hresolve]

theorem resolveFile_transparent_pair :
    ((resolveFile 3 Pair.outer).run Pair.loaded).1 = .ok ['y', 'y'] ∧
      ∃ bound, ∀ n ≥ bound, ((expandFile n Pair.outer).run Pair.loaded).1 = .ok ['y', 'y'] := by
  have hok : ((resolveFile 3 Pair.outer).run Pair.loaded).1 = .ok ['y', 'y'] := by
    with_unfolding_all rfl
  have hnone : NoExport ((resolveFile 3 Pair.outer).actions Pair.loaded) := by
    with_unfolding_all decide
  obtain ⟨hexpand, -⟩ :=
    resolveFile_transparent Pair.loaded_loaded.fresh Registry.still_encodings 3
  exact ⟨hok, hexpand Pair.outer ['y', 'y'] _ (Prod.ext hok rfl) hnone⟩

end BlockWeave
