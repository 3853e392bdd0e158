import DisStore.Proofs.PageSimMemory
import DisStore.Lib.Run

/-!
# The representation of the paging simulator

With at least as many pages as frames the clock ring is intact after every call: the pages on
it are the resident ones, they share out the frames, and a clean page is in its frame as the
swap backend has it.
-/

namespace DisStore.Proofs
open DisStore DisStore.Lib

/-- The page that is `i` steps ahead of the hand. -/
def walk (s : SimState) (i : Nat) : Nat := (cnextOf s)^[i] s.currC

/-- The representation that `page_fault` relies on, for `np` frames. -/
structure RingIntact (np : Nat) (s : SimState) : Prop where
  distinct : ((List.range np).map (walk s)).Nodup
  closed : walk s np = s.currC
  inTable : ∀ i < np, walk s i < s.numPages
  resident : ∀ v < s.numPages, (s.pgtable v).clear ≠ -1 ↔ ∃ i < np, walk s i = v
  frames : ((List.range np).map fun i => (s.pgtable (walk s i)).pframe).Perm (List.range np)
  last : s.lastC < s.numPages ∧ (s.pgtable s.lastC).cnext = s.currC
  clean : ∀ v < s.numPages, (s.pgtable v).clear ≠ -1 → (s.pgtable v).dirty = 0 →
    pageLoad s v (s.pgtable v).pframe = some s

lemma ClockInv.map_walk {np : Nat} {s : SimState} {ring : List Nat} (h : ClockInv np s ring) :
    (List.range np).map (walk s) = ring ∧ walk s np = s.currC := by
  cases ring with
  | nil => exact (h.isRing.ne_nil rfl).elim
  | cons a rest =>
    have ha : a = s.currC := by simpa using h.head
    subst ha
    have hwalk := h.isRing.map_iterate
    rw [h.length] at hwalk
    exact hwalk

lemma MemInv.load_clean {np : Nat} {s : SimState} {virt : Nat → UInt8} (h : MemInv np s virt)
    {v : Nat} (hv : v < s.numPages) (hres : Resident s v) (hd : (s.pgtable v).dirty = 0) :
    pageLoad s v (s.pgtable v).pframe = some s := by
  have hf := h.frame v hv hres
  obtain ⟨bytes, hfetch, hbytes⟩ := fetch_ready h.ready hv h.pages
  have hclean := h.swapped v hv (fun _ => by rw [hd]; decide)
  have hdata := h.data v hv hres
  unfold pageLoad
  rw [frameAddress_eq (hf.trans_le h.frames), if_pos (page_room hf h.room), hfetch,
    Option.map_some]
  congr 1
  have hmem : (fun a => if (s.pgtable v).pframe * pageSize ≤ a ∧
      a < (s.pgtable v).pframe * pageSize + pageSize then
      bytes (a - (s.pgtable v).pframe * pageSize) else s.physMem a) = s.physMem := by
    funext a
    split_ifs with ha
    · have hk : a - (s.pgtable v).pframe * pageSize < pageSize := by omega
      rw [hbytes _ hk, hclean _ hk, ← hdata _ hk, Nat.add_sub_cancel' ha.1]
    · rfl
  rw [hmem]

lemma MemInv.frames_perm {np : Nat} {s : SimState} {virt : Nat → UInt8} {ring : List Nat}
    (h : MemInv np s virt) (hr : ClockInv np s ring) :
    (ring.map fun v => (s.pgtable v).pframe).Perm (List.range np) := by
  have hres : ∀ v ∈ ring, Resident s v := fun v hv => (hr.resident v (hr.bound v hv)).mpr hv
  have hnodup : (ring.map fun v => (s.pgtable v).pframe).Nodup := by
    apply List.Nodup.map_on _ hr.isRing.nodup
    intro v hv w hw he
    exact h.frameInj v (hr.bound v hv) w (hr.bound w hw) (hres v hv) (hres w hw) he
  have hsub : (ring.map fun v => (s.pgtable v).pframe) ⊆ List.range np := by
    intro f hf
    obtain ⟨v, hv, rfl⟩ := List.mem_map.mp hf
    exact List.mem_range.mpr (h.frame v (hr.bound v hv) (hres v hv))
  have hlen : (List.range np).length ≤ (ring.map fun v => (s.pgtable v).pframe).length := by
    rw [List.length_range, List.length_map, hr.length]
  exact (List.subperm_of_subset hnodup hsub).perm_of_length_le hlen

lemma MemInv.ringIntact {np : Nat} {s : SimState} {virt : Nat → UInt8} {ring : List Nat}
    (h : MemInv np s virt) (hr : ClockInv np s ring) : RingIntact np s := by
  obtain ⟨hwalk, hend⟩ := hr.map_walk
  have hmem : ∀ v, v ∈ ring ↔ ∃ i < np, walk s i = v := by
    intro v
    rw [← hwalk, List.mem_map]
    simp only [List.mem_range]
  constructor
  · rw [hwalk]
    exact hr.isRing.nodup
  · exact hend
  · intro i hi
    exact hr.bound _ ((hmem _).mpr ⟨i, hi, rfl⟩)
  · intro v hv
    rw [← hmem]
    exact hr.resident v hv
  · have hperm := h.frames_perm hr
    rw [← hwalk, List.map_map] at hperm
    exact hperm
  · exact ⟨hr.lastBound, hr.lastNext⟩
  · intro v hv hres hd
    exact h.load_clean hv hres hd

lemma MemInv.next {np fuel : Nat} {s : SimState} {virt : Nat → UInt8} (h : MemInv np s virt)
    (hr : ∃ ring, ClockInv np s ring) (hf : np < fuel) (op : SimOp)
    (hop : pageIndex op.vaddr.toNat < s.numPages) :
    ∃ s' virt', simNext fuel s op = some s' ∧ MemInv np s' virt' ∧
      (∃ ring, ClockInv np s' ring) ∧ s'.numPages = s.numPages := by
  cases op with
  | get a =>
    obtain ⟨s', hget, hinv, hring, hn⟩ := h.get hf a hop
    exact ⟨s', virt, by simp [simNext, simStep, hget], hinv, hring hr, hn⟩
  | put a c =>
    obtain ⟨s', hput, hinv, hring, hn⟩ := h.put hf a c hop
    exact ⟨s', _, by simp [simNext, simStep, hput], hinv, hring hr, hn⟩

lemma MemInv.runActions {np fuel : Nat} (hf : np < fuel) (ops : List SimOp) {s : SimState}
    {virt : Nat → UInt8} (h : MemInv np s virt) (hr : ∃ ring, ClockInv np s ring)
    (hops : ∀ op ∈ ops, pageIndex op.vaddr.toNat < s.numPages) :
    ∃ s', Lib.runActions (simNext fuel) s ops = some s' ∧ RingIntact np s' := by
  induction ops generalizing s virt with
  | nil =>
    obtain ⟨ring, hr⟩ := hr
    exact ⟨s, rfl, h.ringIntact hr⟩
  | cons op ops ih =>
    obtain ⟨s₁, virt₁, hstep, h₁, hr₁, hn⟩ := h.next hr hf op (hops op List.mem_cons_self)
    obtain ⟨s', hrun, hintact⟩ := ih h₁ hr₁ fun o ho =>
      hn ▸ hops o (List.mem_cons_of_mem _ ho)
    refine ⟨s', ?_, hintact⟩
    simp only [Lib.runActions, hstep, Option.bind_some]
    exact hrun

/-- After every sequence of calls in range the ring, the frames and the clean pages are as
`page_fault` needs them. -/
theorem simNext_keeps_ring (phys vir : UInt32) (swap : SwapDevice)
    (hnp : 1 ≤ phys.toNat / pageSize) (hle : phys.toNat / pageSize ≤ vir.toNat / pageSize)
    (hsw : SwapFresh (vir.toNat / pageSize) swap) (fuel : Nat)
    (hf : phys.toNat / pageSize < fuel) (ops : List SimOp)
    (hops : ∀ op ∈ ops, pageIndex op.vaddr.toNat < vir.toNat / pageSize) :
    ∃ s, runActions (simNext fuel) (simInit phys vir swap) ops = some s ∧
      RingIntact (phys.toNat / pageSize) s :=
  (memInv_init hnp hsw).runActions hf ops ⟨_, clockInv_init swap hnp hle⟩ hops

/-- A ring of one page, whose victim is the page at the hand and at `last_c`. -/
theorem simNext_keeps_ring_one_frame :
    ∃ s, runActions (simNext 2) (simInit 4096 8192 (.files fun _ => none))
        [.put 5 7, .get 4096, .get 5] = some s ∧ RingIntact 1 s :=
  simNext_keeps_ring 4096 8192 (.files fun _ => none) (by decide) (by decide) (fun _ => rfl) 2
    (by decide) [.put 5 7, .get 4096, .get 5] (by decide)

end DisStore.Proofs
