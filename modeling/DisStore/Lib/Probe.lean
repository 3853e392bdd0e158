import DisStore.Lib.Count

/-!
# Circular probing and drawing without replacement

`probe n ok fuel r` walks round the indices below `n` from `r` to the first one that is still
there, `drawDistinct` starts such a walk for each draw and takes away what it finds.
-/

namespace DisStore.Lib

/-- At most `fuel` steps of the walk. -/
def probe (n : Nat) (ok : Nat → Bool) : Nat → Nat → Option Nat
  | 0, _ => none
  | fuel + 1, r => if ok r then some r else probe n ok fuel ((r + 1) % n)

/-- The picks of the draws, in their order. -/
def drawDistinct (n : Nat) : List Nat → (Nat → Bool) → Option (List Nat)
  | [], _ => some []
  | r :: rest, ok => do
    let i ← probe n ok n (r % n)
    let picked ← drawDistinct n rest (Function.update ok i false)
    some (i :: picked)

variable {n : Nat} {ok : Nat → Bool}

/-- The walk ends at an index within its reach. -/
theorem probe_finds (fuel r : Nat) (hr : r < n) (h : ∃ t < fuel, ok ((r + t) % n) = true) :
    ∃ i < n, probe n ok fuel r = some i ∧ ok i = true := by
  induction fuel generalizing r with
  | zero =>
    obtain ⟨t, ht, -⟩ := h
    omega
  | succ fuel ih =>
    by_cases hok : ok r = true
    · refine ⟨r, hr, ?_, hok⟩
      rw [probe, if_pos hok]
    · have hnext : ∃ t < fuel, ok (((r + 1) % n + t) % n) = true := by
        obtain ⟨t, ht, hz⟩ := h
        cases t with
        | zero =>
          rw [add_zero, Nat.mod_eq_of_lt hr] at hz
          exact (hok hz).elim
        | succ t =>
          refine ⟨t, by omega, ?_⟩
          rw [Nat.mod_add_mod]
          rwa [show r + 1 + t = r + (t + 1) by omega]
      rw [probe, if_neg hok]
      exact ih ((r + 1) % n) (Nat.mod_lt _ (by omega)) hnext

/-- A whole turn reaches every index. -/
theorem probe_turn {i : Nat} (r : Nat) (hi : i < n) (hok : ok i = true) :
    ∃ i < n, probe n ok n (r % n) = some i ∧ ok i = true := by
  have hr : r % n < n := Nat.mod_lt r (by omega)
  apply probe_finds n (r % n) hr
  by_cases hle : r % n ≤ i
  · refine ⟨i - r % n, by omega, ?_⟩
    rw [show r % n + (i - r % n) = i by omega, Nat.mod_eq_of_lt hi]
    exact hok
  · refine ⟨i + n - r % n, by omega, ?_⟩
    rw [show r % n + (i + n - r % n) = i + n by omega, Nat.add_mod_right, Nat.mod_eq_of_lt hi]
    exact hok

/-- As long as there is something left for every draw, each walk ends and the picks are
distinct. -/
theorem drawDistinct_spec (draws : List Nat) (ok : Nat → Bool)
    (henough : draws.length ≤ Nat.count (fun i => ok i = true) n) :
    ∃ picked, drawDistinct n draws ok = some picked ∧ picked.Nodup ∧
      picked.length = draws.length ∧ ∀ i ∈ picked, i < n ∧ ok i = true := by
  induction draws generalizing ok with
  | nil => exact ⟨[], rfl, List.nodup_nil, rfl, by simp⟩
  | cons r draws ih =>
    rw [List.length_cons] at henough
    have hpos : Nat.count (fun i => ok i = true) n ≠ 0 := by omega
    obtain ⟨i₀, hi₀, hok₀⟩ := Nat.count_ne_iff_exists.mp hpos
    obtain ⟨i, hi, hprobe, hok⟩ := probe_turn r hi₀ hok₀
    have hcount := count_insert (p := fun j => Function.update ok i false j = true)
      (q := fun j => ok j = true) hi (by simp) hok (fun j _ hne => by simp [hne])
    obtain ⟨picked, hdraw, hnodup, hlen, hpicked⟩ := ih (Function.update ok i false) (by omega)
    have hne : ∀ j ∈ picked, j ≠ i := by
      rintro j hj rfl
      simpa using (hpicked j hj).2
    refine ⟨i :: picked, ?_, ?_, ?_, ?_⟩
    · simp [drawDistinct, hprobe, hdraw]
    · exact List.nodup_cons.mpr ⟨fun hmem => hne i hmem rfl, hnodup⟩
    · rw [List.length_cons, List.length_cons, hlen]
    · intro j hj
      rcases List.mem_cons.mp hj with rfl | hj
      · exact ⟨hi, hok⟩
      · have hpick := hpicked j hj
        rw [Function.update_of_ne (hne j hj)] at hpick
        exact hpick

lemma probe_self {r : Nat} (hr : r < n) (hok : ok r = true) : probe n ok n (r % n) = some r := by
  obtain ⟨m, rfl⟩ := Nat.exists_eq_succ_of_ne_zero (show n ≠ 0 by omega)
  rw [Nat.mod_eq_of_lt hr, probe, if_pos hok]

/-- Distinct draws that are all there are the picks. -/
theorem drawDistinct_self (draws : List Nat) (ok : Nat → Bool) (hnodup : draws.Nodup)
    (hok : ∀ r ∈ draws, r < n ∧ ok r = true) : drawDistinct n draws ok = some draws := by
  induction draws generalizing ok with
  | nil => rfl
  | cons r draws ih =>
    obtain ⟨hr, hnd⟩ := List.nodup_cons.mp hnodup
    have hfirst := hok r List.mem_cons_self
    have hrest := ih (Function.update ok r false) hnd (by
      intro r' hr'
      have hne : r' ≠ r := fun he => hr (he ▸ hr')
      rw [Function.update_of_ne hne]
      exact hok r' (List.mem_cons_of_mem _ hr'))
    simp [drawDistinct, probe_self hfirst.1 hfirst.2, hrest]

end DisStore.Lib
