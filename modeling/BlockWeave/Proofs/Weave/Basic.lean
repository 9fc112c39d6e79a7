import BlockWeave.Weave

/-!
# Programs and what they do

Programs form a lawful monad. The run at the end of a program is the run that its
actions lead to, so everything that happens to a run can be read off the list of
actions: a point of a program is a leading part of that list.
-/

namespace BlockWeave

/-- The run that a list of actions leads to, failed ones included. -/
def Run.after (now : Run) (actions : List Action) : Run :=
  actions.foldl (fun run action => (action.perform run).2) now

namespace Run

@[simp] theorem after_nil (now : Run) : now.after [] = now := rfl

@[simp] theorem after_cons (now : Run) (action : Action) (actions : List Action) :
    now.after (action :: actions) = (action.perform now).2.after actions := rfl

theorem after_append (now : Run) (actions more : List Action) :
    now.after (actions ++ more) = (now.after actions).after more := by
  simp [after, List.foldl_append]

end Run

namespace Weave

variable {α β : Type}

@[simp] theorem pure_eq (a : α) : (pure a : Weave α) = done a := rfl

@[simp] theorem bind_eq (m : Weave α) (k : α → Weave β) : (m >>= k) = m.bind k := rfl

theorem bind_done (m : Weave α) : m.bind done = m := by
  induction m with
  | done a => rfl
  | fail e => rfl
  | look next ih => simp only [bind, ih]
  | act action next ih => simp only [bind, ih]

theorem bind_assoc {γ : Type} (m : Weave α) (k : α → Weave β) (l : β → Weave γ) :
    (m.bind k).bind l = m.bind fun a => (k a).bind l := by
  induction m with
  | done a => rfl
  | fail e => rfl
  | look next ih => simp only [bind, ih]
  | act action next ih => simp only [bind, ih]

instance : LawfulMonad Weave :=
  LawfulMonad.mk' Weave bind_done (fun _ _ => rfl) bind_assoc

/-- A program in two parts runs the first, and the second where the first ends well. -/
theorem run_bind (m : Weave α) (k : α → Weave β) (now : Run) :
    (m.bind k).run now =
      match m.run now with
      | (.ok a, mid) => (k a).run mid
      | (.error e, mid) => (.error e, mid) := by
  induction m generalizing now with
  | done a => rfl
  | fail e => rfl
  | look next ih => simp only [bind, run, ih]
  | act action next ih =>
      simp only [bind, run]
      split <;> simp only [ih]

/-- The actions of a program in two parts are those of both parts. -/
theorem actions_bind (m : Weave α) (k : α → Weave β) (now : Run) :
    (m.bind k).actions now = m.actions now ++
      match m.run now with
      | (.ok a, mid) => (k a).actions mid
      | (.error _, _) => [] := by
  induction m generalizing now with
  | done a => rfl
  | fail e => rfl
  | look next ih => simp only [bind, run, actions, ih]
  | act action next ih =>
      simp only [bind, run, actions]
      split <;> simp [ih]

/-- The run at the end of a program is the run that its actions lead to. -/
theorem run_snd (m : Weave α) (now : Run) : (m.run now).2 = now.after (m.actions now) := by
  induction m generalizing now with
  | done a => rfl
  | fail e => rfl
  | look next ih => simp only [run, actions, ih]
  | act action next ih =>
      simp only [run, actions]
      split
      next mid h => simp [ih, h]
      next mid h => simp [h]

theorem eq_after_of_run {m : Weave α} {now after : Run} {result : Except Error α}
    (h : m.run now = (result, after)) : after = now.after (m.actions now) := by
  rw [← run_snd, h]

/-- A program in two parts ends well when both parts do. -/
theorem run_bind_eq_ok_iff {m : Weave α} {k : α → Weave β} {now after : Run} {b : β} :
    (m.bind k).run now = (.ok b, after) ↔
      ∃ a mid, m.run now = (.ok a, mid) ∧ (k a).run mid = (.ok b, after) := by
  rw [run_bind]
  split
  next a mid h =>
    constructor
    · exact fun hk => ⟨a, mid, h, hk⟩
    · rintro ⟨a', mid', h', hk⟩
      rw [h] at h'
      cases h'
      exact hk
  next e mid h => simp [h]

/-- A program in two parts fails where one of the parts does. -/
theorem run_bind_eq_error_iff {m : Weave α} {k : α → Weave β} {now after : Run} {e : Error} :
    (m.bind k).run now = (.error e, after) ↔
      m.run now = (.error e, after) ∨
        ∃ a mid, m.run now = (.ok a, mid) ∧ (k a).run mid = (.error e, after) := by
  rw [run_bind]
  split
  next a mid h =>
    constructor
    · exact fun hk => Or.inr ⟨a, mid, h, hk⟩
    · rintro (h' | ⟨a', mid', h', hk⟩)
      · rw [h] at h'
        cases h'
      · rw [h] at h'
        cases h'
        exact hk
  next e' mid h => simp [h]

theorem run_bind_of_ok {m : Weave α} {k : α → Weave β} {now mid : Run} {a : α}
    (h : m.run now = (.ok a, mid)) : (m.bind k).run now = (k a).run mid := by
  rw [run_bind, h]

theorem actions_bind_of_ok {m : Weave α} {k : α → Weave β} {now mid : Run} {a : α}
    (h : m.run now = (.ok a, mid)) :
    (m.bind k).actions now = m.actions now ++ (k a).actions mid := by
  rw [actions_bind, h]

theorem run_bind_of_error {m : Weave α} {k : α → Weave β} {now mid : Run} {e : Error}
    (h : m.run now = (.error e, mid)) : (m.bind k).run now = (.error e, mid) := by
  rw [run_bind, h]

theorem actions_bind_of_error {m : Weave α} {k : α → Weave β} {now mid : Run} {e : Error}
    (h : m.run now = (.error e, mid)) : (m.bind k).actions now = m.actions now := by
  rw [actions_bind, h, List.append_nil]

/-- An action that fails is the last one, and the program fails with it. -/
theorem run_of_failed {m : Weave α} {now last : Run} {before after : List Action}
    {action : Action} {e : Error} (h : m.actions now = before ++ action :: after)
    (hfail : action.perform (now.after before) = (.error e, last)) :
    after = [] ∧ m.run now = (.error e, last) := by
  induction m generalizing now before with
  | done a => simp [actions] at h
  | fail e => simp [actions] at h
  | look next ih => exact ih now h hfail
  | act first next ih =>
      simp only [actions, run] at h ⊢
      split at h
      next mid hperform =>
        cases before with
        | nil =>
            obtain ⟨rfl, -⟩ := List.cons.inj h
            rw [Run.after_nil, hperform] at hfail
            cases hfail
        | cons _ before =>
            obtain ⟨rfl, hrest⟩ := List.cons.inj h
            rw [Run.after_cons, hperform] at hfail
            exact ih hrest hfail
      next failure mid hperform =>
        cases before with
        | nil =>
            obtain ⟨rfl, rfl⟩ := List.cons.inj h
            rw [Run.after_nil, hperform] at hfail
            cases hfail
            exact ⟨rfl, rfl⟩
        | cons _ before => simp at h

@[simp] theorem run_done (a : α) (now : Run) : (done a).run now = (.ok a, now) := rfl

@[simp] theorem run_fail (e : Error) (now : Run) :
    (fail e : Weave α).run now = (.error e, now) := rfl

@[simp] theorem actions_done (a : α) (now : Run) : (done a).actions now = [] := rfl

@[simp] theorem actions_fail (e : Error) (now : Run) :
    (fail e : Weave α).actions now = [] := rfl

@[simp] theorem run_read (view : Run → α) (now : Run) :
    (read view).run now = (.ok (view now), now) := rfl

@[simp] theorem run_perform (action : Action) (now : Run) :
    (perform action).run now = action.perform now := by
  simp only [perform, run]
  split <;> simp_all

@[simp] theorem actions_perform (action : Action) (now : Run) :
    (perform action).actions now = [action] := by
  simp only [perform, actions]
  split <;> rfl

end Weave
end BlockWeave
