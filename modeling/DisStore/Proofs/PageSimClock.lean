import DisStore.PageSim
import DisStore.Lib.Ring
import Mathlib.Data.List.TakeWhile
import Mathlib.Tactic

/-!
# The clock ring of the paging simulator

The resident pages are the nodes of a ring in the `cnext` fields, read from the hand.
The sweep of `page_fault` only rotates that ring and clears reference bits, and the
replacement splices the faulting page into the place of the victim.
-/

namespace DisStore.Proofs
open DisStore DisStore.Lib

/-- The `cnext` fields as a successor function. -/
def cnextOf (s : SimState) (v : Nat) : Nat := (s.pgtable v).cnext

/-- The page is in memory. -/
def Resident (s : SimState) (v : Nat) : Prop := (s.pgtable v).clear ≠ -1

/-- The ring read from the hand. `last_c` may lag behind the ring only while the page at the
hand still has its reference bit, so that the next sweep passes it first. -/
structure ClockInv (np : Nat) (s : SimState) (ring : List Nat) : Prop where
  isRing : IsRing (cnextOf s) ring
  head : ring.head? = some s.currC
  length : ring.length = np
  bound : ∀ v ∈ ring, v < s.numPages
  resident : ∀ v, v < s.numPages → (Resident s v ↔ v ∈ ring)
  bit : ∀ v ∈ ring, (s.pgtable v).clear = 0 ∨ (s.pgtable v).clear = 1
  lastBound : s.lastC < s.numPages
  lastNext : cnextOf s s.lastC = s.currC
  lastPlace : ring.getLast? = some s.lastC ∨ (s.pgtable s.currC).clear = 1

/-- Everything but the hand and the reference bits of resident pages is unchanged. -/
structure SweptFrom (s s' : SimState) : Prop where
  physMemSize : s'.physMemSize = s.physMemSize
  physMem : s'.physMem = s.physMem
  numPages : s'.numPages = s.numPages
  swap : s'.swap = s.swap
  pframe : ∀ v, (s'.pgtable v).pframe = (s.pgtable v).pframe
  dirty : ∀ v, (s'.pgtable v).dirty = (s.pgtable v).dirty
  resident : ∀ v, Resident s' v ↔ Resident s v

lemma SweptFrom.refl (s : SimState) : SweptFrom s s :=
  ⟨rfl, rfl, rfl, rfl, fun _ => rfl, fun _ => rfl, fun _ => Iff.rfl⟩

lemma SweptFrom.trans {s t u : SimState} (h : SweptFrom s t) (h' : SweptFrom t u) :
    SweptFrom s u where
  physMemSize := h'.physMemSize.trans h.physMemSize
  physMem := h'.physMem.trans h.physMem
  numPages := h'.numPages.trans h.numPages
  swap := h'.swap.trans h.swap
  pframe v := (h'.pframe v).trans (h.pframe v)
  dirty v := (h'.dirty v).trans (h.dirty v)
  resident v := (h'.resident v).trans (h.resident v)

lemma setEntry_get (s : SimState) (v : Nat) (f : PageEntry → PageEntry) (w : Nat) :
    (s.setEntry v f).pgtable w = if w = v then f (s.pgtable v) else s.pgtable w := by
  by_cases h : w = v
  · subst h
    simp [SimState.setEntry]
  · simp [SimState.setEntry, h]

lemma exists_first_of_mem {s : SimState} (ring : List Nat)
    (h : ∃ v ∈ ring, (s.pgtable v).clear = 0) :
    ∃ passed victim rest, ring = passed ++ victim :: rest ∧ (s.pgtable victim).clear = 0 ∧
      ∀ v ∈ passed, (s.pgtable v).clear ≠ 0 := by
  induction ring with
  | nil => simp at h
  | cons a ring ih =>
    by_cases ha : (s.pgtable a).clear = 0
    · exact ⟨[], a, ring, rfl, ha, by simp⟩
    · have hrest : ∃ v ∈ ring, (s.pgtable v).clear = 0 := by
        obtain ⟨v, hv, he⟩ := h
        rcases List.mem_cons.mp hv with rfl | hv
        · exact (ha he).elim
        · exact ⟨v, hv, he⟩
      obtain ⟨passed, victim, rest, rfl, hz, hp⟩ := ih hrest
      refine ⟨a :: passed, victim, rest, rfl, hz, ?_⟩
      intro v hv
      rcases List.mem_cons.mp hv with rfl | hv
      · exact ha
      · exact hp v hv

/-- The state after one iteration of the sweep loop. -/
def sweepOnce (s : SimState) : SimState :=
  { s.setEntry s.currC (fun e => { e with clear := 0 }) with
    lastC := s.currC
    currC := (s.pgtable s.currC).cnext }

lemma sweepOnce_entry (s : SimState) (v : Nat) :
    (sweepOnce s).pgtable v =
      if v = s.currC then { s.pgtable s.currC with clear := 0 } else s.pgtable v :=
  setEntry_get s s.currC (fun e => { e with clear := 0 }) v

lemma cnextOf_sweepOnce (s : SimState) : cnextOf (sweepOnce s) = cnextOf s := by
  funext v
  unfold cnextOf
  rw [sweepOnce_entry]
  split
  · next h => rw [h]
  · rfl

lemma sweepOnce_swept {s : SimState} (hr : Resident s s.currC) : SweptFrom s (sweepOnce s) := by
  refine ⟨rfl, rfl, rfl, rfl, ?_, ?_, ?_⟩
  · intro v
    rw [sweepOnce_entry]
    split
    · next h => rw [h]
    · rfl
  · intro v
    rw [sweepOnce_entry]
    split
    · next h => rw [h]
    · rfl
  · intro v
    unfold Resident
    rw [sweepOnce_entry]
    split
    · next h =>
      subst h
      simp only [Resident] at hr
      simp [hr]
    · exact Iff.rfl

lemma ClockInv.sweepOnce {np : Nat} {s : SimState} {a : Nat} {rest : List Nat}
    (h : ClockInv np s (a :: rest)) : ClockInv np (sweepOnce s) (rest ++ [a]) := by
  have ha : a = s.currC := by simpa using h.head
  subst ha
  have hrot := h.isRing.rotate
  have hres : Resident s s.currC := (h.resident _ (h.bound _ (by simp))).mpr (by simp)
  have hmem : ∀ v, v ∈ rest ++ [s.currC] ↔ v ∈ s.currC :: rest := by
    intro v
    simp only [List.mem_append, List.mem_cons, List.not_mem_nil, or_false]
    tauto
  refine ⟨?_, ?_, ?_, ?_, ?_, ?_, ?_, ?_, ?_⟩
  · rw [cnextOf_sweepOnce]
    exact hrot.1
  · exact hrot.2
  · have hl := h.length
    simp only [List.length_cons] at hl
    simpa using hl
  · intro v hv
    exact h.bound v ((hmem v).mp hv)
  · intro v hv
    rw [(sweepOnce_swept hres).resident v, h.resident v hv, hmem]
  · intro v hv
    rw [sweepOnce_entry]
    split
    · exact .inl rfl
    · exact h.bit v ((hmem v).mp hv)
  · exact h.bound s.currC (by simp)
  · rw [cnextOf_sweepOnce]
    rfl
  · exact .inl List.getLast?_concat

/-- The bits of the listed pages are clear, all other bits are as before. -/
def BitsCleared (s s' : SimState) (passed : List Nat) : Prop :=
  ∀ v, (s'.pgtable v).clear = if v ∈ passed then 0 else (s.pgtable v).clear

lemma BitsCleared.cons {s s' : SimState} {passed : List Nat}
    (h : BitsCleared (sweepOnce s) s' passed) :
    BitsCleared s s' (s.currC :: passed) := by
  intro v
  rw [h v, sweepOnce_entry]
  by_cases hv : v ∈ passed
  · simp [hv]
  · by_cases hc : v = s.currC <;> simp [hv, hc]

lemma clockSweep_succ {s : SimState} (fuel : Nat) (hb : s.currC < s.numPages)
    (hset : (s.pgtable s.currC).clear ≠ 0) :
    clockSweep (fuel + 1) s = clockSweep fuel (sweepOnce s) := by
  simp [clockSweep, hb, hset, sweepOnce]

lemma clockSweep_stops {np : Nat} {s : SimState} (passed : List Nat) (victim : Nat)
    (rest : List Nat) (fuel : Nat) (h : ClockInv np s (passed ++ victim :: rest))
    (hset : ∀ v ∈ passed, (s.pgtable v).clear ≠ 0) (hzero : (s.pgtable victim).clear = 0)
    (hf : passed.length < fuel) :
    ∃ s', clockSweep fuel s = some s' ∧ ClockInv np s' (victim :: rest ++ passed) ∧
      SweptFrom s s' ∧ BitsCleared s s' passed := by
  -- Each iteration moves the first passed page to the end of the ring.
  induction passed generalizing s rest fuel with
  | nil =>
    obtain ⟨fuel, rfl⟩ : ∃ k, fuel = k + 1 := ⟨fuel - 1, by simp at hf; omega⟩
    have hv : victim = s.currC := by simpa using h.head
    have hb : victim < s.numPages := h.bound _ (by simp)
    refine ⟨s, ?_, by simpa using h, SweptFrom.refl s, fun v => by simp⟩
    subst hv
    simp [clockSweep, hb, hzero]
  | cons a passed ih =>
    obtain ⟨fuel, rfl⟩ : ∃ k, fuel = k + 1 := ⟨fuel - 1, by simp at hf; omega⟩
    have ha : a = s.currC := by simpa using h.head
    have hb : a < s.numPages := h.bound _ (by simp)
    have hc := hset a (by simp)
    subst ha
    have hres : Resident s s.currC := (h.resident _ hb).mpr (by simp)
    have hne : ∀ v ∈ passed ++ victim :: rest, v ≠ s.currC := by
      intro v hv he
      exact (List.nodup_cons.mp h.isRing.nodup).1 (he ▸ hv)
    have hrot : ClockInv np (sweepOnce s) (passed ++ victim :: (rest ++ [s.currC])) := by
      simpa using (show ClockInv np s (s.currC :: (passed ++ victim :: rest)) from h).sweepOnce
    have hset' : ∀ v ∈ passed, ((sweepOnce s).pgtable v).clear ≠ 0 := by
      intro v hv
      rw [sweepOnce_entry, if_neg (hne v (by simp [hv]))]
      exact hset v (by simp [hv])
    have hzero' : ((sweepOnce s).pgtable victim).clear = 0 := by
      rw [sweepOnce_entry, if_neg (hne victim (by simp))]
      exact hzero
    obtain ⟨s', hs', hinv, hsw, hbits⟩ := ih (rest ++ [s.currC]) fuel hrot hset' hzero'
      (by simp at hf; omega)
    exact ⟨s', (clockSweep_succ fuel hb hc).trans hs', by simpa using hinv,
      (sweepOnce_swept hres).trans hsw, hbits.cons⟩

/-- The pages that the sweep passes over, in the order of the ring. -/
def passedOf (s : SimState) (ring : List Nat) : List Nat :=
  ring.takeWhile fun v => decide ((s.pgtable v).clear ≠ 0)

/-- The first page whose bit is clear, or the page at the hand when all bits are set. -/
def victimOf (s : SimState) (ring : List Nat) : Nat :=
  (ring.find? fun v => decide ((s.pgtable v).clear = 0)).getD s.currC

lemma passedOf_length_le (s : SimState) (ring : List Nat) :
    (passedOf s ring).length ≤ ring.length := (List.takeWhile_prefix _).length_le

lemma passedOf_append {s : SimState} {passed : List Nat} {victim : Nat} (rest : List Nat)
    (hset : ∀ v ∈ passed, (s.pgtable v).clear ≠ 0) (hzero : (s.pgtable victim).clear = 0) :
    passedOf s (passed ++ victim :: rest) = passed := by
  unfold passedOf
  rw [List.takeWhile_append_of_pos (fun v hv => decide_eq_true (hset v hv)),
    List.takeWhile_cons_of_neg (by simp [hzero]), List.append_nil]

lemma victimOf_append {s : SimState} {passed : List Nat} {victim : Nat} (rest : List Nat)
    (hset : ∀ v ∈ passed, (s.pgtable v).clear ≠ 0) (hzero : (s.pgtable victim).clear = 0) :
    victimOf s (passed ++ victim :: rest) = victim := by
  have hnone : passed.find? (fun v => decide ((s.pgtable v).clear = 0)) = none :=
    List.find?_eq_none.mpr fun v hv => by simpa using hset v hv
  unfold victimOf
  rw [List.find?_append, hnone, List.find?_cons_of_pos (by simp [hzero])]
  rfl

/-- What the sweep does: it turns the ring to the victim and clears the bits on its way. -/
lemma clockSweep_spec {np : Nat} {s : SimState} {ring : List Nat} (fuel : Nat)
    (h : ClockInv np s ring) (hf : (passedOf s ring).length < fuel) :
    ∃ s', clockSweep fuel s = some s' ∧ s'.currC = victimOf s ring ∧
      ClockInv np s' (ring.rotate (passedOf s ring).length) ∧ SweptFrom s s' ∧
      BitsCleared s s' (passedOf s ring) ∧ (s'.pgtable s'.currC).clear = 0 := by
  by_cases hz : ∃ v ∈ ring, (s.pgtable v).clear = 0
  · obtain ⟨passed, victim, rest, rfl, hzero, hset⟩ := exists_first_of_mem ring hz
    rw [passedOf_append rest hset hzero] at hf ⊢
    rw [victimOf_append rest hset hzero, List.rotate_append_length_eq]
    have hnot : victim ∉ passed := fun hm => hset _ hm hzero
    obtain ⟨s', hs', hinv, hsw, hbits⟩ := clockSweep_stops passed victim rest fuel h hset hzero hf
    have hcur : victim = s'.currC := by simpa using hinv.head
    refine ⟨s', hs', hcur.symm, hinv, hsw, hbits, ?_⟩
    rw [← hcur, hbits, if_neg hnot]
    exact hzero
  · -- All bits are set: the first iteration clears the head, which ends the sweep a turn later.
    have hset : ∀ v ∈ ring, (s.pgtable v).clear ≠ 0 := fun v hv he => hz ⟨v, hv, he⟩
    have hpassed : passedOf s ring = ring :=
      List.takeWhile_eq_self_iff.mpr fun v hv => decide_eq_true (hset v hv)
    have hvictim : victimOf s ring = s.currC := by
      unfold victimOf
      rw [List.find?_eq_none.mpr fun v hv => by simpa using hset v hv]
      rfl
    rw [hpassed] at hf ⊢
    rw [hvictim, List.rotate_length]
    cases ring with
    | nil => exact (h.isRing.ne_nil rfl).elim
    | cons a rest =>
      have ha : a = s.currC := by simpa using h.head
      subst ha
      have hb : s.currC < s.numPages := h.bound _ (by simp)
      have hres : Resident s s.currC := (h.resident _ hb).mpr (by simp)
      obtain ⟨fuel, rfl⟩ : ∃ k, fuel = k + 1 := ⟨fuel - 1, by omega⟩
      have hset' : ∀ v ∈ rest, ((sweepOnce s).pgtable v).clear ≠ 0 := by
        intro v hv
        have hne : v ≠ s.currC := fun he => (List.nodup_cons.mp h.isRing.nodup).1 (he ▸ hv)
        rw [sweepOnce_entry, if_neg hne]
        exact hset v (by simp [hv])
      have hzero' : ((sweepOnce s).pgtable s.currC).clear = 0 := by simp [sweepOnce_entry]
      obtain ⟨s', hs', hinv, hsw, hbits⟩ := clockSweep_stops rest s.currC [] fuel h.sweepOnce
        hset' hzero' (by simp at hf; omega)
      have hcur : s.currC = s'.currC := by simpa using hinv.head
      refine ⟨s', (clockSweep_succ fuel hb (hset _ (by simp))).trans hs', hcur.symm,
        by simpa using hinv, (sweepOnce_swept hres).trans hsw, hbits.cons, ?_⟩
      rw [← hcur, hbits.cons]
      simp

/-- The sweep always ends: after a full turn every reference bit is clear. -/
theorem clockSweep_ends {np : Nat} {s : SimState} {ring : List Nat} (fuel : Nat)
    (h : ClockInv np s ring) (hf : np < fuel) :
    ∃ s' ring', clockSweep fuel s = some s' ∧ ClockInv np s' ring' ∧ SweptFrom s s' ∧
      (s'.pgtable s'.currC).clear = 0 := by
  have hle := passedOf_length_le s ring
  rw [h.length] at hle
  obtain ⟨s', hs', -, hinv, hsw, -, hzero⟩ := clockSweep_spec fuel h (by omega)
  exact ⟨s', _, hs', hinv, hsw, hzero⟩

end DisStore.Proofs
