import Mathlib.Logic.Function.Basic

/-!
# Guarded runs of a partial step function

`GuardedRun step ok init s` says that `s` is reached from `init` by finitely many
steps, each of which meets `ok` in the state it is taken from. The invariant rules
below are what every safety result of the development is assembled from.
-/

namespace DisStore.Lib

/-- States reached from `init` by steps that meet `ok`. -/
inductive GuardedRun {σ α : Type*} (step : σ → α → Option σ) (ok : σ → α → Prop) (init : σ) :
    σ → Prop
  | start : GuardedRun step ok init init
  | next {s s' : σ} (a : α) : GuardedRun step ok init s → ok s a → step s a = some s' →
      GuardedRun step ok init s'

namespace GuardedRun

variable {σ α : Type*} {step : σ → α → Option σ} {ok : σ → α → Prop} {init : σ}

/-- A property of the initial state that every guarded step keeps holds along every run. -/
theorem invariant {P : σ → Prop} (h0 : P init)
    (hstep : ∀ s a s', P s → ok s a → step s a = some s' → P s')
    {s : σ} (h : GuardedRun step ok init s) : P s := by
  induction h with
  | start => exact h0
  | next a _ hok hs ih => exact hstep _ a _ ih hok hs

/-- A weaker guard admits more runs. -/
theorem weaken {ok' : σ → α → Prop} (himp : ∀ s a, ok s a → ok' s a) {s : σ}
    (h : GuardedRun step ok init s) : GuardedRun step ok' init s := by
  induction h with
  | start => exact .start
  | next a _ hok hs ih => exact .next a ih (himp _ _ hok) hs

end GuardedRun

/-- Executes the listed actions in order. -/
def runActions {σ α : Type*} (step : σ → α → Option σ) : σ → List α → Option σ
  | s, [] => some s
  | s, a :: rest => (step s a).bind fun s' => runActions step s' rest

lemma runActions_snoc {σ α : Type*} (step : σ → α → Option σ) (s : σ) (acts : List α) (a : α) :
    runActions step s (acts ++ [a]) = (runActions step s acts).bind fun s' => step s' a := by
  induction acts generalizing s with
  | nil => simp [runActions]
  | cons b rest ih =>
    rw [List.cons_append, runActions, runActions, Option.bind_assoc]
    exact congrArg _ (funext ih)

/-- An executed list of actions that meet the guard everywhere is a run. -/
theorem runActions_reaches {σ α : Type*} {step : σ → α → Option σ} {ok : σ → α → Prop}
    {init s s' : σ} (acts : List α) (hok : ∀ a ∈ acts, ∀ s, ok s a)
    (hr : GuardedRun step ok init s) (h : runActions step s acts = some s') :
    GuardedRun step ok init s' := by
  induction acts generalizing s with
  | nil =>
    simp only [runActions, Option.some.injEq] at h
    exact h ▸ hr
  | cons a rest ih =>
    simp only [runActions, Option.bind_eq_some_iff] at h
    obtain ⟨t, ht, hrest⟩ := h
    have hnext := GuardedRun.next a hr (hok a List.mem_cons_self s) ht
    exact ih (fun b hb => hok b (List.mem_cons_of_mem _ hb)) hnext hrest

/-- Executes the listed actions as long as each one passes a check. -/
def runChecked {σ α : Type*} (step : σ → α → Option σ) (check : σ → α → Bool) (s : σ)
    (acts : List α) : Option σ :=
  runActions (fun s a => if check s a then step s a else none) s acts

/-- An executed list of actions is a run if the check implies the guard in the states that are
reached. -/
theorem runChecked_reaches_of_reached {σ α : Type*} {step : σ → α → Option σ}
    {check : σ → α → Bool} {ok : σ → α → Prop} {init s s' : σ} (acts : List α)
    (hok : ∀ a ∈ acts, ∀ s, GuardedRun step ok init s → check s a = true → ok s a)
    (hr : GuardedRun step ok init s)
    (h : runChecked step check s acts = some s') : GuardedRun step ok init s' := by
  induction acts generalizing s with
  | nil =>
    rw [← Option.some.inj h]
    exact hr
  | cons a rest ih =>
    simp only [runChecked, runActions, Option.bind_eq_some_iff,
      Option.ite_none_right_eq_some] at h
    obtain ⟨t, ⟨hcheck, ht⟩, hrest⟩ := h
    have hnext := GuardedRun.next a hr (hok a List.mem_cons_self s hr hcheck) ht
    exact ih (fun b hb => hok b (List.mem_cons_of_mem _ hb)) hnext hrest

theorem runChecked_reaches {σ α : Type*} {step : σ → α → Option σ} {check : σ → α → Bool}
    {ok : σ → α → Prop} {init s s' : σ} (acts : List α)
    (hok : ∀ a ∈ acts, ∀ s, check s a = true → ok s a) (hr : GuardedRun step ok init s)
    (h : runChecked step check s acts = some s') : GuardedRun step ok init s' :=
  runChecked_reaches_of_reached acts (fun a ha s _ hcheck => hok a ha s hcheck) hr h

/-- The guard as its own check. -/
theorem runChecked_decide_reaches {σ α : Type*} {step : σ → α → Option σ} {ok : σ → α → Prop}
    [∀ s, DecidablePred (ok s)] {init s : σ} {acts : List α}
    (h : runChecked step (fun s a => decide (ok s a)) init acts = some s) :
    GuardedRun step ok init s :=
  runChecked_reaches acts (fun _ _ _ hcheck => of_decide_eq_true hcheck) .start h

/-- An action that is enabled until the goal holds, and reaches it or lowers a rank, leads to
the goal when it is repeated. -/
theorem runActions_reaches_goal {σ α : Type*} (step : σ → α → Option σ) {P : σ → Prop}
    (goal : σ → Prop) (a : α) (rank : σ → Nat)
    (hstep : ∀ s, P s → ¬goal s →
      ∃ s', step s a = some s' ∧ P s' ∧ (goal s' ∨ rank s' < rank s))
    (s : σ) (hs : P s) :
    ∃ k s', runActions step s (List.replicate k a) = some s' ∧ P s' ∧ goal s' := by
  induction hn : rank s using Nat.strongRecOn generalizing s with
  | ind n ih =>
    by_cases hg : goal s
    · exact ⟨0, s, rfl, hs, hg⟩
    · obtain ⟨t, hst, ht, hgoal | hlt⟩ := hstep s hs hg
      · refine ⟨1, t, ?_, ht, hgoal⟩
        simp only [List.replicate_one, runActions, hst, Option.bind_some]
      · obtain ⟨k, s', hrun, hgoal⟩ := ih (rank t) (hn ▸ hlt) t ht rfl
        refine ⟨k + 1, s', ?_, hgoal⟩
        simp only [List.replicate_succ, runActions, hst, Option.bind_some]
        exact hrun

end DisStore.Lib
