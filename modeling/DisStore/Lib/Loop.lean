import Mathlib.Tactic

/-!
# Loops that act on the first entries of a kind

`takeLoop p f target` walks a list of indices, applies `f` at the entries that satisfy `p`
and is left as soon as it has acted `target` times.
-/

namespace DisStore.Lib

variable {σ : Type*}

/-- The state, the number of actions and whether the loop was left early. -/
def takeLoop (p : σ → Nat → Bool) (f : σ → Nat → σ) (target : Int) :
    List Nat → Int → σ → σ × Int × Bool
  | [], j, s => (s, j, false)
  | i :: rest, j, s =>
    if p s i then
      if j + 1 = target then (f s i, j + 1, true) else takeLoop p f target rest (j + 1) (f s i)
    else takeLoop p f target rest j s

variable {p : σ → Nat → Bool} {f : σ → Nat → σ} {t : Int}

/-- The number of entries that the loop acts on, when `c` of them qualify. -/
def takeCount (target j : Int) (c : Nat) : Int :=
  if j + 1 ≤ target ∧ target ≤ j + c then target else j + c

lemma countP_after (is : List Nat) (i : Nat) (s : σ) (hi : i ∉ is)
    (hframe : ∀ k, k ≠ i → p (f s i) k = p s k) :
    is.countP (p (f s i)) = is.countP (p s) := by
  apply List.countP_congr
  intro k hk
  rw [hframe k (fun he => hi (he ▸ hk))]

/-- The loop rule: an invariant indexed by the number of actions, and the exact number. -/
theorem takeLoop_spec {I : Int → σ → Prop} (is : List Nat) (j : Int) (s : σ)
    (hnodup : is.Nodup) (hinit : I j s)
    (hact : ∀ j s i, i ∈ is → I j s → p s i = true → I (j + 1) (f s i))
    (hframe : ∀ s i k, k ≠ i → p (f s i) k = p s k) :
    I (takeLoop p f t is j s).2.1 (takeLoop p f t is j s).1 ∧
      (takeLoop p f t is j s).2.1 = takeCount t j (is.countP (p s)) := by
  induction is generalizing j s with
  | nil =>
    refine ⟨hinit, ?_⟩
    have hno : ¬(j + 1 ≤ t ∧ t ≤ j + ((0 : Nat) : Int)) := by omega
    rw [List.countP_nil, takeCount, if_neg hno]
    simp [takeLoop]
  | cons i is ih =>
    obtain ⟨hi, hnd⟩ := List.nodup_cons.mp hnodup
    have hact' : ∀ j s k, k ∈ is → I j s → p s k = true → I (j + 1) (f s k) :=
      fun j s k hk => hact j s k (List.mem_cons_of_mem _ hk)
    by_cases hp : p s i = true
    · have hnext := hact j s i (List.mem_cons_self) hinit hp
      have hcount : (i :: is).countP (p s) = is.countP (p (f s i)) + 1 := by
        rw [List.countP_cons_of_pos hp, countP_after is i s hi (hframe s i)]
      by_cases ht : j + 1 = t
      · simp only [takeLoop, hp, ht, if_true]
        rw [ht] at hnext
        refine ⟨hnext, ?_⟩
        rw [hcount, takeCount, if_pos]
        omega
      · obtain ⟨hinv, hcnt⟩ := ih (j + 1) (f s i) hnd hnext hact'
        simp only [takeLoop, hp, ht, if_true, if_false]
        refine ⟨hinv, ?_⟩
        rw [hcnt, hcount]
        simp only [takeCount]
        split <;> split <;> omega
    · obtain ⟨hinv, hcnt⟩ := ih j s hnd hinit hact'
      have hcount : (i :: is).countP (p s) = is.countP (p s) := List.countP_cons_of_neg hp
      simp only [takeLoop, hp, Bool.false_eq_true, if_false]
      rw [hcount]
      exact ⟨hinv, hcnt⟩

/-- The loop acts on the first entries that qualify at its start. -/
theorem takeLoop_eq_foldl (is : List Nat) (j : Int) (s : σ) (hnodup : is.Nodup) (ht : j < t)
    (hframe : ∀ s i k, k ≠ i → p (f s i) k = p s k) :
    (takeLoop p f t is j s).1 = ((is.filter (p s)).take (t - j).toNat).foldl f s := by
  induction is generalizing j s with
  | nil => simp [takeLoop]
  | cons i is ih =>
    obtain ⟨hi, hnd⟩ := List.nodup_cons.mp hnodup
    by_cases hp : p s i = true
    · have hlen : (t - j).toNat = (t - (j + 1)).toNat + 1 := by omega
      rw [List.filter_cons_of_pos hp, hlen, List.take_succ_cons, List.foldl_cons]
      by_cases he : j + 1 = t
      · simp [takeLoop, hp, he]
      · have hsame : is.filter (p s) = is.filter (p (f s i)) := by
          apply List.filter_congr
          intro k hk
          rw [hframe s i k fun he => hi (he ▸ hk)]
        simp only [takeLoop, hp, he, if_true, if_false]
        rw [ih (j + 1) (f s i) hnd (by omega), hsame]
    · rw [List.filter_cons_of_neg hp]
      simp only [takeLoop, hp, Bool.false_eq_true, if_false]
      exact ih j s hnd ht

/-- The loop is left early exactly when it reaches its target. -/
theorem takeLoop_early (is : List Nat) (j : Int) (s : σ) (ht : j < t) :
    (takeLoop p f t is j s).2.2 = true ↔ (takeLoop p f t is j s).2.1 = t := by
  induction is generalizing j s with
  | nil =>
    simp only [takeLoop, Bool.false_eq_true, false_iff]
    omega
  | cons i is ih =>
    by_cases hp : p s i = true
    · by_cases he : j + 1 = t
      · simp [takeLoop, hp, he]
      · simp only [takeLoop, hp, he, if_true, if_false]
        exact ih (j + 1) (f s i) (by omega)
    · simp only [takeLoop, hp, Bool.false_eq_true, if_false]
      exact ih j s ht

end DisStore.Lib
