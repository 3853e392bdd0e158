import DisStore.Lib.Run

/-!
# Traces of guarded steps

`GuardedTrace step ok s acts t` names the actions that lead from `s` to `t`. If every step that
meets `ok` lowers a measure, traces are not longer than the measure, and each of them can be
continued until no step is left. A forward simulation carries traces over to an abstract machine,
where an observation may be made later than in the concrete one.
-/

namespace DisStore.Lib

/-- The listed actions lead from one state to the other, each meets `ok` where it is taken. -/
inductive GuardedTrace {σ α : Type*} (step : σ → α → Option σ) (ok : σ → α → Prop) :
    σ → List α → σ → Prop
  | nil (s : σ) : GuardedTrace step ok s [] s
  | cons {s t u : σ} {a : α} {acts : List α} : ok s a → step s a = some t →
      GuardedTrace step ok t acts u → GuardedTrace step ok s (a :: acts) u

namespace GuardedTrace

variable {σ α : Type*} {step : σ → α → Option σ} {ok ok' : σ → α → Prop} {init s t u : σ}
  {acts acts' : List α}

theorem append (h : GuardedTrace step ok s acts t) (h' : GuardedTrace step ok t acts' u) :
    GuardedTrace step ok s (acts ++ acts') u := by
  induction h with
  | nil s => exact h'
  | cons hok hs _ ih => exact .cons hok hs (ih h')

theorem weaken (himp : ∀ s a, ok s a → ok' s a) (h : GuardedTrace step ok s acts t) :
    GuardedTrace step ok' s acts t := by
  induction h with
  | nil s => exact .nil s
  | cons hok hs _ ih => exact .cons (himp _ _ hok) hs ih

/-- An executed list of actions is a trace if each of them meets the guard everywhere. -/
theorem of_runActions (hok : ∀ a ∈ acts, ∀ s, ok s a) (h : runActions step s acts = some t) :
    GuardedTrace step ok s acts t := by
  induction acts generalizing s with
  | nil =>
    cases h
    exact .nil _
  | cons a rest ih =>
    simp only [runActions, Option.bind_eq_some_iff] at h
    obtain ⟨s', hs', hrest⟩ := h
    exact .cons (hok a List.mem_cons_self s) hs'
      (ih (fun b hb => hok b (List.mem_cons_of_mem _ hb)) hrest)

/-- A measure that every step lowers bounds the length. -/
theorem length_le {P : σ → Prop} (measure : σ → Nat)
    (hstep : ∀ s a s', P s → ok s a → step s a = some s' → P s' ∧ measure s' < measure s)
    (hs : P s) (h : GuardedTrace step ok s acts t) : acts.length + measure t ≤ measure s := by
  induction h with
  | nil s => simp
  | cons hok hs' _ ih =>
    obtain ⟨hP, hlt⟩ := hstep _ _ _ hs hok hs'
    have hle := ih hP
    rw [List.length_cons]
    omega

/-- As long as a measure can be lowered the steps go on, so they reach a state without further
steps. -/
theorem exists_stuck {P : σ → Prop} (measure : σ → Nat)
    (hstep : ∀ s a s', P s → ok s a → step s a = some s' → P s' ∧ measure s' < measure s)
    (s : σ) (hs : P s) :
    ∃ acts t, GuardedTrace step ok s acts t ∧ P t ∧ ∀ a, ok t a → step t a = none := by
  induction hn : measure s using Nat.strongRecOn generalizing s with
  | ind n ih =>
    by_cases hstuck : ∀ a, ok s a → step s a = none
    · exact ⟨[], s, .nil s, hs, hstuck⟩
    · simp only [not_forall] at hstuck
      obtain ⟨a, hok, hne⟩ := hstuck
      obtain ⟨s', hs'⟩ := Option.ne_none_iff_exists'.mp hne
      obtain ⟨hP, hlt⟩ := hstep s a s' hs hok hs'
      obtain ⟨acts, t, htrace, ht⟩ := ih (measure s') (hn ▸ hlt) s' hP rfl
      exact ⟨a :: acts, t, .cons hok hs' htrace, ht⟩

/-- What every step keeps holds at the end of a trace. -/
theorem invariant {P : σ → Prop} (hstep : ∀ s a s', P s → ok s a → step s a = some s' → P s')
    (hs : P s) (h : GuardedTrace step ok s acts t) : P t := by
  induction h with
  | nil s => exact hs
  | cons hok hs' _ ih => exact ih (hstep _ _ _ hs hok hs')

/-- If each step is matched by abstract ones, a trace is matched by an abstract trace. The
abstract machine observes the same in the same order, except for what is `pending`. -/
theorem simulation {τ β γ : Type*} {astep : τ → β → Option τ} {aok : τ → β → Prop}
    {P : σ → Prop} (abs : σ → τ) (obs : α → List γ) (aobs : β → List γ) (pending : σ → List γ)
    (hstep : ∀ s a s', P s → ok s a → step s a = some s' → P s' ∧
      ∃ bs, GuardedTrace astep aok (abs s) bs (abs s') ∧
        pending s ++ obs a = bs.flatMap aobs ++ pending s')
    (hs : P s) (h : GuardedTrace step ok s acts t) :
    ∃ bs, GuardedTrace astep aok (abs s) bs (abs t) ∧
      pending s ++ acts.flatMap obs = bs.flatMap aobs ++ pending t := by
  induction h with
  | nil s => exact ⟨[], .nil _, by simp⟩
  | @cons s t u a acts hok hs' _ ih =>
    obtain ⟨hP, bs, hbs, hobs⟩ := hstep _ _ _ hs hok hs'
    obtain ⟨cs, hcs, hrest⟩ := ih hP
    refine ⟨bs ++ cs, hbs.append hcs, ?_⟩
    calc pending s ++ (a :: acts).flatMap obs
        = (pending s ++ obs a) ++ acts.flatMap obs := by simp
      _ = bs.flatMap aobs ++ (pending t ++ acts.flatMap obs) := by rw [hobs, List.append_assoc]
      _ = (bs ++ cs).flatMap aobs ++ pending u := by
        rw [hrest, List.flatMap_append, List.append_assoc]

end GuardedTrace

end DisStore.Lib
