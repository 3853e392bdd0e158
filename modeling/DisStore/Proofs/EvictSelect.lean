import DisStore.Lib.Probe
import DisStore.Proofs.DaemonBooks

/-!
# What an eviction round asks for and picks

The sampling of `evict_mem` draws distinct mapped slabs, and its partial exchange sort moves
distinct reported slabs to the front.
-/

namespace DisStore.Proofs
open DisStore DisStore.Lib

lemma foldl_update_one {α β : Type*} [DecidableEq α] (key : β → α) (l : List β) (f : α → Int)
    (x : α) : l.foldl (fun f b => Function.update f (key b) 1) f x =
      if ∃ b ∈ l, key b = x then 1 else f x := by
  induction l generalizing f with
  | nil => simp
  | cons b l ih =>
    rw [List.foldl_cons, ih]
    by_cases hx : key b = x
    · subst hx
      simp
    · simp [hx, Function.update_of_ne (Ne.symm hx)]

lemma sampleDraws_eq_drawDistinct (cfg : DaemonConfig) (d : DaemonState) (draws : List Nat)
    (select : Nat → Int) (sendList : Int → Int) :
    sampleDraws cfg d draws select sendList =
      (drawDistinct cfg.maxFreeMemGb draws fun i => decide (select i = 0)).map fun picked =>
        (picked.foldl (fun f i => Function.update f i 1) select,
          picked.foldl (fun f i => Function.update f (d.connMap i) 1) sendList) := by
  induction draws generalizing select sendList with
  | nil => rfl
  | cons r draws ih =>
    have htaken : ∀ i, (fun j => decide (Function.update select i 1 j = 0)) =
        Function.update (fun j => decide (select j = 0)) i false := by
      intro i
      funext j
      by_cases hj : j = i
      · subst hj
        simp
      · simp [hj]
    simp only [sampleDraws, drawDistinct, Option.bind_eq_bind, probeSlab, ih, htaken,
      Option.map_bind]
    congr 1
    funext i
    rw [Function.comp_apply]
    cases drawDistinct cfg.maxFreeMemGb draws
      (Function.update (fun j => decide (select j = 0)) i false) <;> rfl

lemma sampleDraws_selects (cfg : DaemonConfig) (d : DaemonState) (draws : List Nat)
    (select : Nat → Int) (sendList : Int → Int)
    (henough : draws.length ≤ Nat.count (fun i => select i = 0) cfg.maxFreeMemGb) :
    ∃ (picked : List Nat) (select' : Nat → Int) (sendList' : Int → Int),
      sampleDraws cfg d draws select sendList = some (select', sendList') ∧
      picked.Nodup ∧ picked.length = draws.length ∧
      (∀ i ∈ picked, i < cfg.maxFreeMemGb ∧ select i = 0) ∧
      (∀ i, select' i = if i ∈ picked then 1 else select i) ∧
      ∀ x, sendList' x = if ∃ i ∈ picked, d.connMap i = x then 1 else sendList x := by
  have hcount : Nat.count (fun i => decide (select i = 0) = true) cfg.maxFreeMemGb =
      Nat.count (fun i => select i = 0) cfg.maxFreeMemGb :=
    count_congr fun j _ => decide_eq_true_iff
  obtain ⟨picked, hdraw, hnodup, hlen, hpicked⟩ :=
    drawDistinct_spec draws (fun i => decide (select i = 0)) (hcount ▸ henough)
  have hdraws := sampleDraws_eq_drawDistinct cfg d draws select sendList
  rw [hdraw, Option.map_some] at hdraws
  refine ⟨picked, _, _, hdraws, hnodup, hlen, ?_, ?_, ?_⟩
  · intro i hi
    exact ⟨(hpicked i hi).1, of_decide_eq_true (hpicked i hi).2⟩
  · intro i
    rw [foldl_update_one (fun i => i)]
    simp
  · intro x
    rw [foldl_update_one d.connMap]

lemma count_mappedSelect (d : DaemonState) (n : Nat) :
    Nat.count (fun i => mappedSelect d i = 0) n = Nat.count (fun i => d.connMap i ≠ -1) n := by
  apply count_congr
  intro j _
  unfold mappedSelect
  split <;> simp [*]

/-- The sampling of `evict_mem` ends: for every outcome of `rand()` exactly as many slabs as
there are draws are selected, all of them mapped, and the connections that are asked are the
owners of the selected slabs. -/
theorem sampling_without_replacement (cfg : DaemonConfig) (d : DaemonState) (rand : Nat → Nat)
    (evictG : Int)
    (hmapped : d.mappedSize = Nat.count (fun i => d.connMap i ≠ -1) cfg.maxFreeMemGb)
    (hbranch : evictG + extraChunkNum ≤ d.mappedSize) :
    ∃ (select : Nat → Int) (sendList : Int → Int),
      sampleDraws cfg d ((List.range (evictG + extraChunkNum).toNat).map rand) (mappedSelect d)
        (fun _ => -1) = some (select, sendList) ∧
      selectTargets cfg d rand evictG = some (evictG, sendList) ∧
      Nat.count (fun i => select i = 1) cfg.maxFreeMemGb = (evictG + extraChunkNum).toNat ∧
      (∀ i, select i = 1 → i < cfg.maxFreeMemGb ∧ d.connMap i ≠ -1) ∧
      ∀ x, sendList x = 1 ↔ ∃ i, select i = 1 ∧ d.connMap i = x := by
  obtain ⟨picked, select, sendList, hdraws, hnodup, hlen, hpicked, hselect, hsend⟩ :=
    sampleDraws_selects cfg d ((List.range (evictG + extraChunkNum).toNat).map rand)
      (mappedSelect d) (fun _ => -1) (by
        rw [count_mappedSelect, List.length_map, List.length_range]
        omega)
  rw [List.length_map, List.length_range] at hlen
  have hone : ∀ i, select i = 1 ↔ i ∈ picked := by
    intro i
    rw [hselect i, mappedSelect]
    split_ifs <;> simp [*]
  refine ⟨select, sendList, hdraws, ?_, ?_, ?_, ?_⟩
  · rw [selectTargets, if_neg (by omega)]
    simp only [hdraws, Option.bind_eq_bind, Option.bind_some]
  · rw [count_congr fun i _ => hone i, ← hlen, count_mem_eq_length hnodup fun i hi =>
      (hpicked i hi).1]
  · intro i hi
    obtain ⟨hlt, hz⟩ := hpicked i ((hone i).mp hi)
    refine ⟨hlt, fun hno => ?_⟩
    rw [mappedSelect, if_pos hno] at hz
    omega
  · intro x
    rw [hsend x]
    simp only [hone]
    split_ifs with hx
    · simpa using hx
    · simpa using hx

/-- Four slabs are mapped and every draw starts at slab 3. -/
theorem sampling_without_replacement_same_draw :
    ∃ (select : Nat → Int) (sendList : Int → Int),
      selectTargets (zeroThresholds 4 1) { rdmaSessionInit (zeroThresholds 4 1) 4 with
        connMap := fun _ => 0, mappedSize := 4 } (fun _ => 7) 1 = some (1, sendList) ∧
      Nat.count (fun i => select i = 1) 4 = 3 := by
  obtain ⟨select, sendList, -, htargets, hcount, -⟩ :=
    sampling_without_replacement (zeroThresholds 4 1) { rdmaSessionInit (zeroThresholds 4 1) 4 with
      connMap := fun _ => 0, mappedSize := 4 } (fun _ => 7) 1 (by decide) (by decide)
  exact ⟨select, sendList, htargets, hcount⟩

/-- The counters agree with the maps, the slot table with the connections, and a connection
is in state `CONN_MAPPED` exactly when it has slabs. -/
structure RoundReady (cfg : DaemonConfig) (d : DaemonState) : Prop where
  books : ∀ id, Books cfg id 0 0 d
  slot_lt : ∀ k c, d.heap k = some c → c.connIndex < cfg.maxClient
  slot : ∀ i k, d.conns i = some k → ∃ c, d.heap k = some c ∧ c.connIndex = i
  state : ∀ i : Nat, i < cfg.maxClient → (d.connsState i = .mapped ↔
    ∃ k c, d.conns i = some k ∧ d.heap k = some c ∧ 0 < c.mappedChunkSize)

variable {cfg : DaemonConfig} {d : DaemonState}

lemma RoundReady.owner (h : RoundReady cfg d) {i : Nat} (hi : i < cfg.maxFreeMemGb)
    (hmap : d.connMap i ≠ -1) :
    ∃ k c, d.conns (d.connMap i) = some k ∧ d.heap k = some c ∧ c.connIndex = d.connMap i ∧
      0 ≤ d.connMap i ∧ d.connMap i < cfg.maxClient ∧ 0 < c.mappedChunkSize := by
  obtain ⟨-, k, c, hc, hidx⟩ := (h.books 0).owned i hi hmap
  obtain ⟨hslot, hpos, -⟩ := (h.books 0).table k c hc
  have hlt := h.slot_lt k c hc
  rw [hidx] at hslot hpos hlt
  refine ⟨k, c, hslot, hc, hidx, hpos, hlt, ?_⟩
  have hchunk := (h.books k).chunk k c hc
  rw [if_pos rfl] at hchunk
  have hsess : c.sessChunkMap i ≠ -1 := by
    rw [(h.books 0).sess k c hc i hi, if_pos hidx.symm]
    omega
  have hne := (Nat.count_ne_iff_exists (p := fun j => c.sessChunkMap j ≠ -1)).mpr ⟨i, hi, hsess⟩
  omega

/-- The connections that are asked have slots, and together they have more slabs than the
round decides to evict. -/
lemma selectTargets_asks (h : RoundReady cfg d) (rand : Nat → Nat) {evictG : Int}
    (hevict : 0 ≤ evictG) :
    ∃ (sendList : Int → Int) (picked : List Nat),
      selectTargets cfg d rand evictG = some (min evictG d.mappedSize, sendList) ∧
      0 ≤ d.mappedSize ∧ picked.Nodup ∧ min evictG d.mappedSize ≤ picked.length ∧
      (∀ i ∈ picked, i < cfg.maxFreeMemGb ∧ d.connMap i ≠ -1 ∧ sendList (d.connMap i) = 1) ∧
      ∀ x, sendList x = -1 ∨ sendList x = 1 ∧ 0 ≤ x ∧ x < cfg.maxClient ∧
        ∃ k, d.conns x = some k := by
  have hmapped := (h.books 0).mapped
  have hpos : 0 ≤ d.mappedSize := by omega
  by_cases hbranch : d.mappedSize < evictG + extraChunkNum
  · -- every mapped connection is asked
    refine ⟨fun i => if 0 ≤ i ∧ i < cfg.maxClient ∧ d.connsState i = .mapped then 1 else -1,
      (List.range cfg.maxFreeMemGb).filter fun i => decide (d.connMap i ≠ -1), ?_, hpos, List.nodup_range.filter _, ?_, ?_, ?_⟩
    · rw [selectTargets, if_pos hbranch]
      simp only [Option.some.injEq, Prod.mk.injEq, and_true]
      split <;> omega
    · rw [← List.countP_eq_length_filter]
      change _ ≤ ((Nat.count (fun i => d.connMap i ≠ -1) cfg.maxFreeMemGb : Nat) : Int)
      omega
    · intro i hi
      obtain ⟨hi, hmap⟩ := List.mem_filter.mp hi
      have hi := List.mem_range.mp hi
      have hmap : d.connMap i ≠ -1 := by simpa using hmap
      obtain ⟨k, c, hslot, hc, -, h0, hlt, hsize⟩ := h.owner hi hmap
      refine ⟨hi, hmap, if_pos ⟨h0, hlt, ?_⟩⟩
      have hst := (h.state (d.connMap i).toNat (by omega)).mpr
      rw [Int.toNat_of_nonneg h0] at hst
      exact hst ⟨k, c, hslot, hc, hsize⟩
    · intro x
      by_cases hx : 0 ≤ x ∧ x < cfg.maxClient ∧ d.connsState x = .mapped
      · have hst := (h.state x.toNat (by omega)).mp
        rw [Int.toNat_of_nonneg hx.1] at hst
        obtain ⟨k, c, hslot, -, -⟩ := hst hx.2.2
        exact .inr ⟨if_pos hx, hx.1, hx.2.1, k, hslot⟩
      · exact .inl (if_neg hx)
  · have hext : extraChunkNum = 2 := rfl
    obtain ⟨picked, _, sendList, hdraws, hnodup, hlen, hpicked, -, hsend⟩ :=
      sampleDraws_selects cfg d ((List.range (evictG + extraChunkNum).toNat).map rand)
        (mappedSelect d) (fun _ => -1) (by
          rw [count_mappedSelect, List.length_map, List.length_range]
          omega)
    rw [List.length_map, List.length_range] at hlen
    have hmap : ∀ i ∈ picked, d.connMap i ≠ -1 := by
      intro i hi he
      have hz := (hpicked i hi).2
      rw [mappedSelect, if_pos he] at hz
      omega
    refine ⟨sendList, picked, ?_, hpos, hnodup, by omega, ?_, ?_⟩
    · rw [selectTargets, if_neg hbranch]
      simp only [hdraws, Option.bind_eq_bind, Option.bind_some, Option.some.injEq,
        Prod.mk.injEq, and_true]
      omega
    · intro i hi
      exact ⟨(hpicked i hi).1, hmap i hi, (hsend _).trans (if_pos ⟨i, hi, rfl⟩)⟩
    · intro x
      by_cases hx : ∃ i ∈ picked, d.connMap i = x
      · have he := (hsend x).trans (if_pos hx)
        obtain ⟨i, hi, hix⟩ := hx
        obtain ⟨k, c, hslot, -, -, h0, hlt, -⟩ := h.owner (hpicked i hi).1 (hmap i hi)
        rw [hix] at hslot h0 hlt
        exact .inr ⟨he, h0, hlt, k, hslot⟩
      · exact .inl ((hsend x).trans (if_neg hx))

/-- The first `k` entries name distinct slabs, each with the property `P`. -/
structure Listed (k : Nat) (P : Nat → Prop) (ev : Nat → ChunkActivity) : Prop where
  good : ∀ i < k, P (ev i).chunkIndex
  inj : ∀ i i', i < k → i' < k → (ev i).chunkIndex = (ev i').chunkIndex → i = i'

variable {k : Nat} {P : Nat → Prop} {ev : Nat → ChunkActivity}

lemma exchangeActivity_swap (n m : Nat) (ev : Nat → ChunkActivity) :
    exchangeActivity n ev m = ev ∨ exchangeActivity n ev m = ev ∘ Equiv.swap n m := by
  unfold exchangeActivity
  split
  · refine .inr (funext fun i => ?_)
    by_cases him : i = m
    · subst him
      simp
    · by_cases hin : i = n
      · subst hin
        simp [him]
      · simp [him, hin, Equiv.swap_apply_of_ne_of_ne hin him]
  · exact .inl rfl

lemma Listed.swap (h : Listed k P ev) {n m : Nat} (hn : n < k) (hm : m < k) :
    Listed k P (ev ∘ Equiv.swap n m) := by
  have hlt : ∀ i < k, Equiv.swap n m i < k := by
    intro i hi
    rw [Equiv.swap_apply_def]
    split_ifs <;> omega
  constructor
  · intro i hi
    exact h.good _ (hlt i hi)
  · intro i i' hi hi' he
    exact (Equiv.swap n m).injective (h.inj _ _ (hlt i hi) (hlt i' hi') he)

lemma Listed.placeColdest (h : Listed k P ev) {n : Nat} (hn : n < k) :
    Listed k P (placeColdest k n ev) ∧ ∀ i < n, placeColdest k n ev i = ev i := by
  have hloop : ∀ (ms : List Nat) (ev : Nat → ChunkActivity), (∀ m ∈ ms, n < m ∧ m < k) →
      Listed k P ev → Listed k P (ms.foldl (exchangeActivity n) ev) ∧
        ∀ i < n, ms.foldl (exchangeActivity n) ev i = ev i := by
    intro ms
    induction ms with
    | nil => exact fun ev _ h => ⟨h, fun i _ => rfl⟩
    | cons m ms ih =>
      intro ev hms h
      obtain ⟨hnm, hmk⟩ := hms m List.mem_cons_self
      have hms' : ∀ m' ∈ ms, n < m' ∧ m' < k := fun m' hm' => hms m' (List.mem_cons_of_mem _ hm')
      rw [List.foldl_cons]
      rcases exchangeActivity_swap n m ev with he | he
      · rw [he]
        exact ih ev hms' h
      · rw [he]
        obtain ⟨hlisted, hfix⟩ := ih _ hms' (h.swap hn hmk)
        refine ⟨hlisted, fun i hi => ?_⟩
        rw [hfix i hi, Function.comp_apply, Equiv.swap_apply_of_ne_of_ne (by omega) (by omega)]
  apply hloop _ ev _ h
  intro m hm
  rw [List.mem_range'_1] at hm
  omega

/-- The list of reports after `n` places of the partial exchange sort. -/
def coldestFirst (k : Nat) (ev : Nat → ChunkActivity) : Nat → Nat → ChunkActivity
  | 0 => ev
  | n + 1 => placeColdest k n (coldestFirst k ev n)

/-- The slabs that the sort puts in the first `n` places. -/
def coldestSlabs (k : Nat) (ev : Nat → ChunkActivity) (n : Nat) : List Nat :=
  (List.range n).map fun i => (coldestFirst k ev n i).chunkIndex

lemma coldestFirst_congr {ev ev' : Nat → ChunkActivity} (h : ∀ i < k, ev i = ev' i) (n : Nat)
    (hn : n ≤ k) : ∀ i < k, coldestFirst k ev n i = coldestFirst k ev' n i := by
  have hstep : ∀ (n m : Nat) (f f' : Nat → ChunkActivity), n < k → m < k →
      (∀ i < k, f i = f' i) → ∀ i < k, exchangeActivity n f m i = exchangeActivity n f' m i := by
    intro n m f f' hn hm hf i hi
    unfold exchangeActivity
    rw [hf n hn, hf m hm]
    split
    · by_cases him : i = m
      · subst him
        simp
      · by_cases hin : i = n
        · subst hin
          simp [him]
        · simp [him, hin, hf i hi]
    · exact hf i hi
  have hloop : ∀ (n : Nat), n < k → ∀ (ms : List Nat) (f f' : Nat → ChunkActivity),
      (∀ m ∈ ms, m < k) → (∀ i < k, f i = f' i) →
      ∀ i < k, ms.foldl (exchangeActivity n) f i = ms.foldl (exchangeActivity n) f' i := by
    intro n hn ms
    induction ms with
    | nil => exact fun f f' _ hf => hf
    | cons m ms ih =>
      intro f f' hms hf
      apply ih _ _ (fun m' hm' => hms m' (List.mem_cons_of_mem _ hm'))
      exact hstep n m f f' hn (hms m List.mem_cons_self) hf
  induction n with
  | zero => exact h
  | succ n ih =>
    apply hloop n (by omega) _ _ _ _ (ih (by omega))
    intro m hm
    rw [List.mem_range'_1] at hm
    omega

lemma coldestSlabs_congr {ev ev' : Nat → ChunkActivity} (h : ∀ i < k, ev i = ev' i) {n : Nat}
    (hn : n ≤ k) : coldestSlabs k ev n = coldestSlabs k ev' n := by
  apply List.map_congr_left
  intro i hi
  rw [coldestFirst_congr h n hn i (by have := List.mem_range.mp hi; omega)]

lemma Listed.coldestFirst (h : Listed k P ev) (n : Nat) (hn : n ≤ k) :
    Listed k P (coldestFirst k ev n) := by
  induction n with
  | zero => exact h
  | succ n ih => exact ((ih (by omega)).placeColdest (by omega)).1

lemma Listed.coldestSlabs_succ (h : Listed k P ev) {n : Nat} (hn : n < k) :
    coldestSlabs k ev (n + 1) =
      coldestSlabs k ev n ++ [(DisStore.Proofs.coldestFirst k ev (n + 1) n).chunkIndex] := by
  unfold coldestSlabs
  rw [List.range_succ, List.map_append, List.map_singleton]
  congr 1
  apply List.map_congr_left
  intro i hi
  have hfix := ((h.coldestFirst n (by omega)).placeColdest hn).2 i (List.mem_range.mp hi)
  rw [DisStore.Proofs.coldestFirst, hfix]

lemma Listed.coldestSlabs (h : Listed k P ev) {n : Nat} (hn : n ≤ k) :
    (coldestSlabs k ev n).Nodup ∧ ∀ i ∈ coldestSlabs k ev n, P i := by
  have hlisted := h.coldestFirst n hn
  constructor
  · apply List.Nodup.map_on _ List.nodup_range
    intro i hi i' hi' he
    exact hlisted.inj i i' (by have := List.mem_range.mp hi; omega)
      (by have := List.mem_range.mp hi'; omega) he
  · intro m hm
    obtain ⟨i, hi, rfl⟩ := List.mem_map.mp hm
    exact hlisted.good i (by have := List.mem_range.mp hi; omega)

end DisStore.Proofs
