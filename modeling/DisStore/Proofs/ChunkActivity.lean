import DisStore.Activity
import DisStore.Lib.Run

/-!
# Activity of chunks over whole runs of the trigger

The weights 50/50 and 80/20 are never divided by 100, so `last_ops` is a multiple of four at
every moment, also after it has wrapped around; one more than it is never zero. It grows with
the use of a chunk as long as it does not wrap around.
-/

namespace DisStore.Proofs
open DisStore DisStore.Lib

variable {capacityG : Nat}

/-- What the counts of a period weigh in `last_ops`, before it is cut to 64 bits. -/
def exactOps (ops : PeriodOps) (lastOps : Int → Nat) (i : Nat) : Nat :=
  rdmaCurWeight * ops.weighted i + (100 - rdmaCurWeight) * lastOps i

lemma filteredOps_eq_mod (ops : PeriodOps) (lastOps : Int → Nat) (i : Nat) :
    filteredOps ops lastOps i = exactOps ops lastOps i % 2 ^ 64 := by
  unfold filteredOps exactOps
  rw [Nat.add_mod, Nat.mul_mod, Nat.mod_mod, ← Nat.mul_mod, ← Nat.add_mod]

lemma filteredOps_mod_four (ops : PeriodOps) (lastOps : Int → Nat) (i : Nat) :
    filteredOps ops lastOps i % 4 = 0 := by
  rw [filteredOps_eq_mod, exactOps, rdmaCurWeight]
  omega

/-- A number that `last_ops` can have. -/
structure IsActivity (x : Nat) : Prop where
  lt : x < 2 ^ 64
  four : x % 4 = 0

lemma IsActivity.succ_lt {x : Nat} (h : IsActivity x) : x + 1 < 2 ^ 64 := by
  have h1 := h.lt
  have h2 := h.four
  omega

lemma isActivity_filteredOps (ops : PeriodOps) (lastOps : Int → Nat) (i : Nat) :
    IsActivity (filteredOps ops lastOps i) := by
  refine ⟨?_, filteredOps_mod_four ops lastOps i⟩
  rw [filteredOps_eq_mod]
  exact Nat.mod_lt _ (by norm_num)

lemma isActivity_sampleChunk {lastOps : Int → Nat} (h : ∀ x, IsActivity (lastOps x))
    (ops : PeriodOps) (i : Nat) : ∀ x, IsActivity (sampleChunk ops lastOps i x) := by
  intro x
  unfold sampleChunk
  by_cases hx : x = i
  · rw [hx, Function.update_self]
    exact isActivity_filteredOps ops lastOps i
  · rw [Function.update_of_ne hx]
    exact h x

/-- Every entry of `last_ops` is a possible one along every run, in the middle of a period
as well. -/
lemma sampleRun_isActivity {lastOps : Int → Nat}
    (h : GuardedRun (sampleStep capacityG) (fun _ _ => True) (sessionCreate capacityG).lastOps
      lastOps) : ∀ x, IsActivity (lastOps x) := by
  apply h.invariant (P := fun l => ∀ x, IsActivity (l x))
  · exact fun x => ⟨by norm_num [sessionCreate], rfl⟩
  · rintro l ⟨ops, i⟩ l' hl - hstep
    unfold sampleStep at hstep
    split at hstep
    · rw [← Option.some.inj hstep]
      exact isActivity_sampleChunk hl ops i
    · exact (Option.some_ne_none _ hstep.symm).elim

lemma sendActivity_flags {maxMr : Nat} {s : Session} (hs : ∀ x, IsActivity (s.lastOps x))
    (cb : ControlBlock) {m : Nat} (hm : m < maxMr) :
    (sendActivity maxMr s cb).sendBuf.buf m ≠ 0 ↔ cb.chunkMap m ≠ -1 := by
  simp only [sendActivity, if_pos hm]
  split_ifs with hmap
  · have hlt := (hs (cb.chunkMap m)).succ_lt
    simp [ntohll_eq_zero hlt, hmap]
  · simpa using hmap

lemma reportedActivity_sendActivity (cfg : DaemonConfig) {s : Session}
    (hs : ∀ x, IsActivity (s.lastOps x)) (cb : ControlBlock) :
    reportedActivity cfg (sendActivity cfg.maxFreeMemGb s cb).sendBuf =
      ((List.range cfg.maxFreeMemGb).filter fun m => decide (cb.chunkMap m ≠ -1)).map
        fun m => ⟨s.lastOps (cb.chunkMap m) + 1, m⟩ := by
  have hbuf : ∀ m < cfg.maxFreeMemGb, (sendActivity cfg.maxFreeMemGb s cb).sendBuf.buf m =
      if cb.chunkMap m ≠ -1 then ntohll (s.lastOps (cb.chunkMap m) + 1) else 0 := by
    intro m hm
    simp only [sendActivity, if_pos hm]
  unfold reportedActivity
  have hfilter : ((List.range cfg.maxFreeMemGb).filter fun m =>
      decide ((sendActivity cfg.maxFreeMemGb s cb).sendBuf.buf m ≠ 0)) =
      (List.range cfg.maxFreeMemGb).filter fun m => decide (cb.chunkMap m ≠ -1) := by
    apply List.filter_congr
    intro m hm
    rw [decide_eq_decide]
    exact sendActivity_flags hs cb (List.mem_range.mp hm)
  rw [hfilter]
  apply List.map_congr_left
  intro m hm
  obtain ⟨hlt, hmap⟩ := List.mem_filter.mp hm
  rw [hbuf m (List.mem_range.mp hlt), if_pos (of_decide_eq_true hmap),
    ntohll_ntohll (hs (cb.chunkMap m)).succ_lt]

/-- The daemon decodes an ACTIVITY message to one entry for each mapped slab, with one more
than the operations on its chunk, whatever `last_ops` has become. -/
theorem activity_message_names_mapped_slabs (cfg : DaemonConfig) (capacityG : Nat) (s : Session)
    (cb : ControlBlock)
    (hrun : GuardedRun (sampleStep capacityG) (fun _ _ => True) (sessionCreate capacityG).lastOps
      s.lastOps) :
    (∀ m < cfg.maxFreeMemGb, s.lastOps (cb.chunkMap m) + 1 < 2 ^ 64) ∧
      reportedActivity cfg (sendActivity cfg.maxFreeMemGb s cb).sendBuf =
        ((List.range cfg.maxFreeMemGb).filter fun m => decide (cb.chunkMap m ≠ -1)).map
          fun m => ⟨s.lastOps (cb.chunkMap m) + 1, m⟩ := by
  have hs := sampleRun_isActivity hrun
  exact ⟨fun m _ => (hs _).succ_lt, reportedActivity_sendActivity cfg hs cb⟩

/-- Chunk 0 is written twice in a period and every other chunk once. -/
def twiceOps : PeriodOps := ⟨fun i => if i = 0 then 2 else 1, fun _ => 0⟩

/-- Slab 1 of a server has chunk 0, which was written twice in the last period. -/
theorem activity_message_names_one_slab :
    reportedActivity (zeroThresholds 2 1) (sendActivity 2 { sessionCreate 1 with
      lastOps := sampleChunk twiceOps (sessionCreate 1).lastOps 0 }
      { kernelCbInit with chunkMap := Function.update kernelCbInit.chunkMap 1 0 }).sendBuf =
      [⟨8001, 1⟩] := by
  have hrun : GuardedRun (sampleStep 1) (fun _ _ => True) (sessionCreate 1).lastOps
      (sampleChunk twiceOps (sessionCreate 1).lastOps 0) := .next (twiceOps, 0) .start trivial rfl
  exact (activity_message_names_mapped_slabs (zeroThresholds 2 1) 1 { sessionCreate 1 with
      lastOps := sampleChunk twiceOps (sessionCreate 1).lastOps 0 }
    { kernelCbInit with chunkMap := Function.update kernelCbInit.chunkMap 1 0 } hrun).2

lemma triggerPeriod_apply (lastOps : Int → Nat) (ops : PeriodOps) {i : Nat} (hi : i < capacityG) :
    triggerPeriod capacityG lastOps ops i = filteredOps ops lastOps i := by
  unfold triggerPeriod
  -- chunks that have been gone through keep their entry, the others still have the old one
  have hloop : ∀ n, (∀ j < n, (List.range n).foldl (sampleChunk ops) lastOps (j : Nat) =
      filteredOps ops lastOps j) ∧
      ∀ x : Int, (n : Int) ≤ x → (List.range n).foldl (sampleChunk ops) lastOps x = lastOps x := by
    intro n
    induction n with
    | zero => exact ⟨fun j hj => by omega, fun x _ => rfl⟩
    | succ n ih =>
      obtain ⟨hdone, hkeep⟩ := ih
      simp only [List.range_succ, List.foldl_append, List.foldl_cons, List.foldl_nil]
      constructor
      · intro j hj
        by_cases hjn : j = n
        · subst hjn
          rw [sampleChunk, Function.update_self]
          unfold filteredOps
          rw [hkeep j le_rfl]
        · rw [sampleChunk, Function.update_of_ne (by omega)]
          exact hdone j (by omega)
      · intro x hx
        rw [sampleChunk, Function.update_of_ne (by omega)]
        exact hkeep x (by omega)
  exact (hloop capacityG).1 i hi

lemma triggerPeriod_reaches {init lastOps : Int → Nat} (ops : PeriodOps)
    (h : GuardedRun (sampleStep capacityG) (fun _ _ => True) init lastOps) :
    GuardedRun (sampleStep capacityG) (fun _ _ => True) init
      (triggerPeriod capacityG lastOps ops) := by
  unfold triggerPeriod
  have hloop : ∀ n ≤ capacityG, GuardedRun (sampleStep capacityG) (fun _ _ => True) init
      ((List.range n).foldl (sampleChunk ops) lastOps) := by
    intro n
    induction n with
    | zero => exact fun _ => h
    | succ n ih =>
      intro hn
      rw [List.range_succ, List.foldl_append]
      exact (ih (by omega)).next (ops, n) trivial (if_pos (by simpa using hn))
  exact hloop capacityG le_rfl

/-- The counts of a period, below 2 ^ 32, in which chunk `a` is used no less than chunk `b`. -/
structure BusierPeriod (a b : Nat) (ops : PeriodOps) : Prop where
  writes : ops.writeOps b ≤ ops.writeOps a
  reads : ops.readOps b ≤ ops.readOps a
  writes_lt : ∀ i, ops.writeOps i < 2 ^ 32
  reads_lt : ∀ i, ops.readOps i < 2 ^ 32

lemma twiceOps_busier : BusierPeriod 0 1 twiceOps := by
  constructor
  · decide
  · decide
  · intro i
    change (if i = 0 then 2 else 1) < _
    split <;> norm_num
  · intro i
    norm_num [twiceOps]

/-- The new activity of a chunk fits into 64 bits. -/
def PeriodFits (ops : PeriodOps) (lastOps : Int → Nat) (i : Nat) : Prop :=
  rdmaCurWeight * ops.weighted i + (100 - rdmaCurWeight) * lastOps i < 2 ^ 64

lemma filteredOps_of_fits {ops : PeriodOps} {lastOps : Int → Nat} {i : Nat}
    (h : PeriodFits ops lastOps i) : filteredOps ops lastOps i = exactOps ops lastOps i := by
  rw [filteredOps_eq_mod]
  exact Nat.mod_eq_of_lt h

lemma exactOps_mono {a b : Nat} {ops : PeriodOps} {lastOps : Int → Nat}
    (hops : BusierPeriod a b ops) (hlast : lastOps b ≤ lastOps a) :
    exactOps ops lastOps b ≤ exactOps ops lastOps a := by
  have hw : ops.weighted b ≤ ops.weighted a := by
    unfold PeriodOps.weighted
    gcongr
    · exact hops.writes
    · exact hops.reads
  unfold exactOps
  gcongr

lemma PeriodFits.of_busier {a b : Nat} {ops : PeriodOps} {lastOps : Int → Nat}
    (h : PeriodFits ops lastOps a) (hops : BusierPeriod a b ops)
    (hlast : lastOps b ≤ lastOps a) : PeriodFits ops lastOps b :=
  (exactOps_mono hops hlast).trans_lt h

lemma triggerPeriod_mono {a b : Nat} (ha : a < capacityG) (hb : b < capacityG) {ops : PeriodOps}
    {lastOps : Int → Nat} (hops : BusierPeriod a b ops) (hfits : PeriodFits ops lastOps a)
    (hlast : lastOps b ≤ lastOps a) :
    triggerPeriod capacityG lastOps ops b ≤ triggerPeriod capacityG lastOps ops a := by
  rw [triggerPeriod_apply lastOps ops ha, triggerPeriod_apply lastOps ops hb,
    filteredOps_of_fits hfits, filteredOps_of_fits (hfits.of_busier hops hlast)]
  exact exactOps_mono hops hlast

lemma filteredOps_pos {ops : PeriodOps} {lastOps : Int → Nat} {i : Nat}
    (hfits : PeriodFits ops lastOps i) (hused : 0 < ops.writeOps i + ops.readOps i) :
    rdmaTriggerThreshold < filteredOps ops lastOps i := by
  rw [filteredOps_of_fits hfits, exactOps, PeriodOps.weighted, rdmaTriggerThreshold,
    rdmaCurWeight, rdmaWWeight]
  omega

/-- The runs of whole periods in which `a` is used no less than `b` and does not overflow. -/
def BusierRun (capacityG a b : Nat) (lastOps : Int → Nat) : Prop :=
  GuardedRun (periodStep capacityG) (fun l ops => BusierPeriod a b ops ∧ PeriodFits ops l a)
    (sessionCreate capacityG).lastOps lastOps

lemma BusierRun.sampled {a b : Nat} {lastOps : Int → Nat} (h : BusierRun capacityG a b lastOps) :
    GuardedRun (sampleStep capacityG) (fun _ _ => True) (sessionCreate capacityG).lastOps
      lastOps := by
  induction h with
  | start => exact .start
  | next ops _ _ hstep ih =>
    rw [← Option.some.inj hstep]
    exact triggerPeriod_reaches ops ih

/-- Along every run whose periods fit into 64 bits the busier of two chunks has the larger
activity and is reported with it, and a chunk that is used comes above the threshold and is
considered for mapping. -/
theorem activity_grows_with_use (capacityG a b : Nat) (ha : a < capacityG) (hb : b < capacityG)
    (lastOps : Int → Nat) (hrun : BusierRun capacityG a b lastOps) :
    lastOps b ≤ lastOps a ∧
      (∀ ops, BusierPeriod a b ops → PeriodFits ops lastOps a → ∀ i ∈ [a, b],
        0 < ops.writeOps i + ops.readOps i →
          rdmaTriggerThreshold < triggerPeriod capacityG lastOps ops i ∧
          ∀ s : Session, s.lastOps i = lastOps i → s.triggerOn = true → s.cbIndexMap i = -1 →
            (triggerChunk ops s i).2 = true) ∧
      ∀ (cfg : DaemonConfig) (s : Session) (cb : ControlBlock), s.lastOps = lastOps →
        ∀ x ∈ reportedActivity cfg (sendActivity cfg.maxFreeMemGb s cb).sendBuf,
        ∀ y ∈ reportedActivity cfg (sendActivity cfg.maxFreeMemGb s cb).sendBuf,
          cb.chunkMap x.chunkIndex = a → cb.chunkMap y.chunkIndex = b → y.activity ≤ x.activity := by
  have hle : lastOps b ≤ lastOps a := by
    apply GuardedRun.invariant (P := fun l => l (b : Nat) ≤ l (a : Nat)) _ _ hrun
    · exact le_rfl
    · intro l ops l' hl hok hstep
      rw [← Option.some.inj hstep]
      exact triggerPeriod_mono ha hb hok.1 hok.2 hl
  refine ⟨hle, ?_, ?_⟩
  · intro ops hops hfits i hi hused
    have hfit : PeriodFits ops lastOps i ∧ i < capacityG := by
      rcases List.mem_pair.mp hi with rfl | rfl
      · exact ⟨hfits, ha⟩
      · exact ⟨hfits.of_busier hops hle, hb⟩
    rw [triggerPeriod_apply lastOps ops hfit.2]
    refine ⟨filteredOps_pos hfit.1 hused, ?_⟩
    intro s hs hon hmap
    have hsame : PeriodFits ops s.lastOps i := by
      unfold PeriodFits
      rw [hs]
      exact hfit.1
    have hpos := filteredOps_pos hsame hused
    simp [triggerChunk, sampleChunk, hpos, hon, hmap]
  · intro cfg s cb hs x hx y hy hxa hyb
    have hact := sampleRun_isActivity hrun.sampled
    rw [← hs] at hact
    rw [reportedActivity_sendActivity cfg hact cb] at hx hy
    obtain ⟨m, -, rfl⟩ := List.mem_map.mp hx
    obtain ⟨n, -, rfl⟩ := List.mem_map.mp hy
    change s.lastOps (cb.chunkMap n) + 1 ≤ s.lastOps (cb.chunkMap m) + 1
    rw [show cb.chunkMap m = a from hxa, show cb.chunkMap n = b from hyb, hs]
    exact Nat.add_le_add_right hle 1

/-- Two periods in which chunk 0 is written twice and chunk 1 once. -/
theorem activity_grows_two_periods :
    triggerPeriod 2 (triggerPeriod 2 (sessionCreate 2).lastOps twiceOps) twiceOps 1 ≤
      triggerPeriod 2 (triggerPeriod 2 (sessionCreate 2).lastOps twiceOps) twiceOps 0 := by
  have hrun : BusierRun 2 0 1
      (triggerPeriod 2 (triggerPeriod 2 (sessionCreate 2).lastOps twiceOps) twiceOps) := by
    apply GuardedRun.next twiceOps _ ⟨twiceOps_busier, by unfold PeriodFits; decide⟩ rfl
    exact GuardedRun.next twiceOps .start ⟨twiceOps_busier, by unfold PeriodFits; decide⟩ rfl
  exact (activity_grows_with_use 2 0 1 (by decide) (by decide) _ hrun).1

/-- Chunk 0 is only written, `n` times. -/
def writesOnly (n : Nat) : PeriodOps := ⟨fun _ => n, fun _ => 0⟩

/-- Two chunks are written twice and once in each period; after 13 periods the busier one has
wrapped around. In the second run a chunk is written 20 times in the last period and its
activity is 0 after it. -/
theorem activity_wraps_for_busier : BusierPeriod 0 1 twiceOps ∧
    (runActions (periodStep 2) (sessionCreate 2).lastOps (List.replicate 13 twiceOps)).any
      (fun lastOps => decide (lastOps 0 < lastOps 1)) = true ∧
    (runActions (periodStep 1) (sessionCreate 1).lastOps
      ([1, 15, 3, 13, 14, 19, 10, 13, 13, 14, 1, 19, 13, 11, 20].map writesOnly)).any
      (fun lastOps => decide (lastOps 0 = 0)) = true :=
  ⟨twiceOps_busier, by decide +kernel, by decide +kernel⟩

end DisStore.Proofs
