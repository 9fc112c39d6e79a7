import BlockWeave.Proofs.Weaving.Expansion

/-!
# What is kept is what would be found

A session keeps the content of every block that has been resolved, and fails when it is
asked for a block that is in progress. Where nothing is exported, a text that is resolved
is the text that expands: what is kept for a block is what its record expands to.
-/

namespace BlockWeave

open Filter Weaving

/-- What a block expands to. -/
def Evaluates (start : Run) (depth : Nat) (key : BlockKey) (content : Content) : Prop :=
  ∃ record, start.session.record? key = some record ∧
    Yields start (evaluate (expandText depth) record) content

/-- A run in which the content of every block that is done is what the block expands to. -/
structure Sound (start now : Run) : Prop where
  alike : Alike start now
  keyed : ∀ key record, now.session.record? key = some record → record.key = key
  done : ∀ key record, now.session.record? key = some record → record.state = .done →
    ∃ content, record.content = some content ∧ ∀ᶠ n in atTop, Evaluates start n key content

namespace Sound

variable {start now : Run}

theorem of_fresh (h : start.session.Fresh) : Sound start start := by
  constructor
  case alike => exact Alike.refl start
  case keyed =>
    intro key record hr
    exact (h.records key record hr).key_eq
  case done =>
    intro key record hr hdone
    rw [(h.records key record hr).state_eq] at hdone
    cases hdone

theorem invariant (start : Run) : Invariant start (Sound start) :=
  ⟨fun _ h => h.alike, fun _ entry h => ⟨h.alike.note entry, h.keyed, h.done⟩⟩

/-- A record is stored that has been found as the one that it replaces. -/
theorem store (h : Sound start now) {after : Run} {old record : Record} {chain : List BlockKey}
    (hstored : Stored now record chain after)
    (hold : now.session.record? record.key = some old) (hfound : record.found = old.found)
    (hdone : record.state = .done → ∃ content, record.content = some content ∧
      ∀ᶠ n in atTop, Evaluates start n record.key content) : Sound start after := by
  constructor
  case alike => exact h.alike.store hstored hold hfound
  case keyed =>
    intro key r hr
    rcases hstored.record?_cases hr with ⟨rfl, rfl⟩ | ⟨-, hr⟩
    · rfl
    · exact h.keyed key r hr
  case done =>
    intro key r hr
    rcases hstored.record?_cases hr with ⟨rfl, rfl⟩ | ⟨-, hr⟩
    · exact hdone
    · exact h.done key r hr

/-- A block is put in progress. -/
theorem enter (h : Sound start now) {entered : Run} {record : Record} {chain : List BlockKey}
    (hstored : Stored now { record with state := .inProgress } chain entered)
    (hr : now.session.record? record.key = some record) : Sound start entered :=
  h.store hstored hr rfl (by simp)

/-- A block that was entered gets the content that it expands to. -/
theorem leave (h : Sound start now) {after : Run} {old record : Record} {content : Content}
    {chain : List BlockKey}
    (hstored : Stored now { record with content := some content, state := .done } chain after)
    (hold : now.session.record? record.key = some old) (hfound : record.found = old.found)
    (heval : ∀ᶠ n in atTop, Evaluates start n record.key content) : Sound start after :=
  h.store hstored hold hfound fun _ => ⟨content, rfl, heval⟩

end Sound

theorem evaluates_of_yields {start now : Run} (h : Alike start now) {key : BlockKey}
    {record : Record} (hr : now.session.record? key = some record) {depth : Nat}
    {content : Content} (hyields : Yields start (evaluate (expandText depth) record) content) :
    Evaluates start depth key content := by
  obtain ⟨other, hother, hfound⟩ := h.exists_start hr
  exact ⟨other, hother, evaluate_congr _ hfound ▸ hyields⟩

section Follows

variable {start : Run} {resolve : Resolver}
  (htext : ∀ file text,
    Follows start (Sound start) Text (resolve file text) fun n => expandText n file text)
include htext

/-- The content that is kept or found for a record is what its block expands to. -/
theorem resolveRecord_follows {now after : Run} (h : Sound start now) {record : Record}
    (hr : now.session.record? record.key = some record) {content : Content}
    (hrun : (resolveRecord resolve record).run now = (.ok content, after))
    (hnone : LeavesSetting ((resolveRecord resolve record).actions now)) :
    Sound start after ∧ ∀ᶠ n in atTop, Evaluates start n record.key content := by
  have C := (Sound.invariant start).compatible
  cases hstate : record.state with
  | done =>
      obtain ⟨kept, hkept, heval⟩ := h.done record.key record hr hstate
      rw [resolveRecord_done hstate hkept] at hrun
      cases hrun
      exact ⟨h, heval⟩
  | inProgress =>
      rw [resolveRecord_of_ne (by simp [hstate])] at hrun
      obtain ⟨_, mid, henter, -⟩ := Weave.run_bind_eq_ok_iff.1 hrun
      rw [Weave.run_perform, Action.perform_enter_inProgress now hstate] at henter
      cases henter
  | unvisited =>
      rw [resolveRecord_of_ne (by simp [hstate])] at hrun hnone
      obtain ⟨_, entered, henter, hrest⟩ := Weave.run_bind_eq_ok_iff.1 hrun
      obtain ⟨result, mid, heval, hleft⟩ := Weave.run_bind_eq_ok_iff.1 hrest
      obtain ⟨_, last, hleave, hdone⟩ := Weave.run_bind_eq_ok_iff.1 hleft
      cases hdone
      rw [Weave.actions_bind_of_ok henter, Weave.actions_bind_of_ok heval, leavesSetting_append,
        leavesSetting_append] at hnone
      rw [Weave.run_perform] at henter
      obtain ⟨_, hperform, hstored⟩ :=
        Action.perform_enter now (show record.state ≠ .inProgress by simp [hstate])
      rw [hperform] at henter
      cases henter
      have hentered : Sound start entered := h.enter hstored hr
      obtain ⟨hmid, hyields⟩ :=
        C.evaluate htext record entered hentered content mid heval hnone.2.1
      have hevaluates : ∀ᶠ n in atTop, Evaluates start n record.key content := by
        filter_upwards [hyields] with n hn
        exact evaluates_of_yields h.alike hr hn
      obtain ⟨first, hfirst, -⟩ := h.alike.exists_start hr
      obtain ⟨old, hold, -⟩ := hmid.alike.exists_record hfirst
      have hkey : old.key = record.key := hmid.keyed record.key old hold
      rw [(leaveRecord_of_some hold content).1] at hleave
      obtain ⟨chain, hstored'⟩ := Action.stored_of_leave hleave
      rw [← hkey] at hold hevaluates ⊢
      exact ⟨hmid.leave hstored' hold rfl hevaluates, hevaluates⟩

/-- The content that is kept or found for a block is what the block expands to. -/
theorem fetchBlock_follows (key : BlockKey) :
    Follows start (Sound start) _ (fetchBlock (resolveRecord resolve) key) fun n =>
      fetchBlock (evaluate (expandText n)) key := by
  intro now h found after hrun hnone
  cases hr : now.session.record? key with
  | none =>
      rw [(fetchBlock_none hr).1] at hrun
      cases hrun
      exact ⟨h, Eventually.of_forall fun _ =>
        Yields.fetchBlock_none (h.alike.record?_eq_none.1 hr)⟩
  | some record =>
      obtain ⟨hfetch, hactions⟩ := @fetchBlock_some (resolveRecord resolve) key now record hr
      obtain ⟨other, hother, hfound⟩ := h.alike.exists_start hr
      obtain rfl := h.keyed key record hr
      rw [hfetch] at hrun
      obtain ⟨content, mid, hresolve, hdone⟩ := Weave.run_bind_eq_ok_iff.1 hrun
      cases hdone
      rw [hactions, Weave.actions_bind_of_ok hresolve, leavesSetting_append] at hnone
      obtain ⟨hafter, heval⟩ := resolveRecord_follows htext h hr hresolve hnone.1
      refine ⟨hafter, ?_⟩
      filter_upwards [heval] with n ⟨first, hfirst, hyields⟩
      rw [hother] at hfirst
      cases hfirst
      rw [isBinary_congr hfound]
      exact Yields.fetchBlock_some hother hyields

end Follows

/-- A text that is resolved has been expanded. -/
theorem resolveText_follows (start : Run) (depth : Nat) :
    (resolveText depth).Related (Follows start (Sound start)) expandText := by
  have I := Sound.invariant start
  induction depth with
  | zero => exact I.compatible.refuse _ _
  | succ depth ih =>
      apply Follows.related_of_succ
      exact I.compatible.weaveText
        ⟨ih.text, fetchBlock_follows ih.text, Follows.runProcessor I ih depth⟩

/-- A file that is resolved has been expanded. -/
theorem resolveFile_follows (start : Run) (depth : Nat) (file : Text) :
    Follows start (Sound start) Text (resolveFile depth file) fun n => expandFile n file :=
  (Sound.invariant start).compatible.fileText
    (fetchBlock_follows (resolveText_follows start depth).text) file

end BlockWeave
