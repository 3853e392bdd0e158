import DisStore.Lib.Buckets
import DisStore.Hctx
import DisStore.Proofs.Routing

/-!
# The split of the hardware queues over the nodes

The loop of `IS_alloc_hctx` walks through the buckets of an even split: `node` is the bucket
that the queue lies in, `n - 1` its position there and `b_size` the size of the bucket.
-/

namespace DisStore.Proofs

open DisStore DisStore.Lib

variable {q n : Nat}

lemma divRoundUp_eq (hn : 0 < n) (hq : q < 2 ^ 31) (hn' : n < 2 ^ 31) :
    divRoundUp q n = (q + n - 1) / n := by
  have hsum : (q + n + (2 ^ 32 - 1)) % 2 ^ 32 = q + n - 1 := by omega
  rw [divRoundUp, hsum]

lemma bucketSize_lt (hn : 0 < n) (hq : q < 2 ^ 31) (k : Nat) : bucketSize q n k < 2 ^ 31 := by
  have hdiv := Nat.div_add_mod q n
  have hle := Nat.div_le_self q n
  unfold bucketSize
  split
  · rename_i hk
    -- a remainder is left, so that the quotient is not `q` itself
    have hmul : q / n ≤ n * (q / n) := Nat.le_mul_of_pos_left _ hn
    omega
  · omega

/-- Where the loop stands after `i` iterations: item `j` of bucket `k`. -/
structure HctxAt (q n i k j : Nat) (l : HctxCount) : Prop where
  node : l.node = k
  pos : l.n = j + 1
  tip : l.tip = (q % n : Nat) - (k : Int)
  size : l.bSize = bucketSize q n k
  item : i = bucketStart q n k + j
  lt : j < bucketSize q n k

lemma hctxAt_init (hn : 0 < n) (hq0 : 0 < q) (hq : q < 2 ^ 31) (hn' : n < 2 ^ 31) :
    HctxAt q n 0 0 0 (hctxInit q n) := by
  have hstart : bucketStart q n 0 = 0 := bucketStart_zero q n
  refine ⟨rfl, rfl, ?_, ?_, by omega, bucketSize_pos (by omega)⟩
  · have hmod := Nat.mod_lt q hn
    have htip : toInt32 (q % n : Nat) = (q % n : Nat) := toInt32_natCast (by omega)
    rw [hctxInit, htip]
    simp
  · have hlt := bucketSize_lt hn hq 0
    rw [hctxInit, divRoundUp_eq hn hq hn', ceil_eq_bucketSize_zero hn, toInt32_natCast hlt]

lemma HctxAt.next (hn : 0 < n) (hq : q < 2 ^ 31) {i k j : Nat} {l : HctxCount}
    (h : HctxAt q n i k j l) (hi : i + 1 < q) :
    ∃ l' k' j', hctxBody q n l = some l' ∧ HctxAt q n (i + 1) k' j' l' := by
  have hlt := h.lt
  have hitem := h.item
  have hsize : l.bSize ≠ 0 := by
    rw [h.size]
    omega
  have hmod : l.n.tmod l.bSize = 0 ↔ j + 1 = bucketSize q n k := by
    have hcast : l.n.tmod l.bSize = ((j + 1) % bucketSize q n k : Nat) := by
      rw [h.pos, h.size]
      rfl
    rw [hcast]
    constructor
    · intro hzero
      by_contra hne
      rw [Nat.mod_eq_of_lt (by omega)] at hzero
      omega
    · intro heq
      rw [heq, Nat.mod_self]
      rfl
  rw [hctxBody, if_neg hsize]
  by_cases hfull : j + 1 = bucketSize q n k
  · -- the bucket is full, the next queue is the first of bucket `k + 1`
    have hstart := bucketStart_succ q n k
    have hnext := bucketSize_pos (k := k + 1) (show bucketStart q n (k + 1) < q by omega)
    rw [if_pos (hmod.mpr hfull)]
    refine ⟨_, k + 1, 0, rfl, ?_, ?_, ?_, ?_, by omega, hnext⟩
    · rw [h.node]
      rfl
    · rfl
    · rw [h.tip]
      push_cast
      omega
    · dsimp only
      rw [h.tip]
      by_cases hlast : k + 1 = q % n
      · have hfloor : bucketSize q n (k + 1) = q / n := by
          rw [bucketSize, if_neg (by omega)]
        have hbound := bucketSize_lt hn hq (k + 1)
        rw [if_pos (by omega), hfloor, toInt32_natCast (by omega)]
      · have hsame : bucketSize q n (k + 1) = bucketSize q n k := by
          unfold bucketSize
          by_cases hk : k < q % n
          · rw [if_pos hk, if_pos (by omega)]
          · rw [if_neg hk, if_neg (by omega)]
        rw [if_neg (by omega), h.size, hsame]
  · rw [if_neg (hmod.not.mpr hfull)]
    refine ⟨_, k, j + 1, rfl, h.node, ?_, h.tip, h.size, by omega, by omega⟩
    rw [h.pos]
    push_cast
    rfl

lemma hctxLoop_at (hn : 0 < n) (hq : q < 2 ^ 31) (hn' : n < 2 ^ 31) {i : Nat} (hi : i < q) :
    ∃ l k j, hctxLoop q n i = some l ∧ HctxAt q n i k j l := by
  induction i with
  | zero => exact ⟨_, 0, 0, rfl, hctxAt_init hn hi hq hn'⟩
  | succ i ih =>
    obtain ⟨l, k, j, hl, hat⟩ := ih (by omega)
    obtain ⟨l', k', j', hbody, hat'⟩ := hat.next hn hq hi
    refine ⟨l', k', j', ?_, hat'⟩
    rw [hctxLoop, hl]
    exact hbody

lemma relativeNode_eq_some_iff (hn : 0 < n) (hq : q < 2 ^ 31) (hn' : n < 2 ^ 31) {i : Nat}
    (hi : i < q) (k : Nat) :
    relativeNode q n i = some (k : Int) ↔
      bucketStart q n k ≤ i ∧ i < bucketStart q n k + bucketSize q n k := by
  obtain ⟨l, k', j, hl, hat⟩ := hctxLoop_at hn hq hn' hi
  have hitem := hat.item
  have hlt := hat.lt
  have hnode : relativeNode q n i = some (k' : Int) := by
    rw [relativeNode, hl, Option.map_some, hat.node]
  rw [hnode, Option.some_inj, Nat.cast_inj]
  constructor
  · rintro rfl
    omega
  · rintro ⟨hlow, hhigh⟩
    have hle := bucket_le le_rfl hlow (show i < bucketStart q n k' + bucketSize q n k' by omega)
    have hge := bucket_le le_rfl (show bucketStart q n k' ≤ i by omega) hhigh
    omega

lemma exists_relativeNode (hn : 0 < n) (hq : q < 2 ^ 31) (hn' : n < 2 ^ 31) {i : Nat}
    (hi : i < q) : ∃ k < n, relativeNode q n i = some (k : Int) := by
  obtain ⟨l, k, j, hl, hat⟩ := hctxLoop_at hn hq hn' hi
  have hitem := hat.item
  have hstart : bucketStart q n k < q := by omega
  refine ⟨k, bucket_lt_of_start_lt hn hstart, ?_⟩
  rw [relativeNode, hl, Option.map_some, hat.node]

lemma realNode_eq (maxNumnodes : Nat) (online : List Nat) {k : Nat} (hk : k < online.length) :
    realNode maxNumnodes online k = online[k] := by
  induction online generalizing k with
  | nil => simp at hk
  | cons x online ih =>
    cases k with
    | zero => rfl
    | succ k =>
      have hne : ((k + 1 : Nat) : Int) ≠ 0 := by omega
      have hpred : ((k + 1 : Nat) : Int) - 1 = k := by omega
      rw [realNode, if_neg hne, hpred, ih (by simpa using hk)]
      rfl

/-- For every number of queues and nodes that fits in an `int`, no queue makes the loop divide
by zero, the relative nodes do not decrease and are nodes, each node gets its share, and the
queue is allocated on the online node of that number. -/
theorem isAllocHctx_splits_evenly (q n : Nat) (hq : q < 2 ^ 31) (hn : 1 ≤ n)
    (hn' : n < 2 ^ 31) :
    (∀ i < q, ∃ k < n, relativeNode q n i = some (k : Int)) ∧
    (∀ i j k k', i ≤ j → j < q → relativeNode q n i = some k → relativeNode q n j = some k' →
      k ≤ k') ∧
    (∀ k < n, ((Finset.range q).filter fun i => relativeNode q n i = some (k : Int)).card =
      if k < q % n then (q + n - 1) / n else q / n) ∧
    ∀ (maxNumnodes : Nat) (online : List Nat) (hlen : online.length = n) (i k : Nat), i < q →
      (hk : k < n) → relativeNode q n i = some (k : Int) →
      isAllocHctx maxNumnodes q n online i = some (online[k]) := by
  refine ⟨fun i hi => exists_relativeNode hn hq hn' hi, ?_, ?_, ?_⟩
  · intro i j k k' hij hj hk hk'
    obtain ⟨a, -, ha⟩ := exists_relativeNode hn hq hn' (show i < q by omega)
    obtain ⟨b, -, hb⟩ := exists_relativeNode hn hq hn' hj
    obtain rfl := Option.some_inj.mp (hk.symm.trans ha)
    obtain rfl := Option.some_inj.mp (hk'.symm.trans hb)
    have hlow := (relativeNode_eq_some_iff hn hq hn' (by omega) a).mp ha
    have hhigh := (relativeNode_eq_some_iff hn hq hn' hj b).mp hb
    exact Nat.cast_le.mpr (bucket_le hij hlow.1 hhigh.2)
  · intro k hk
    rw [← bucketSize_eq hn, ← card_bucket hn hk]
    congr 1
    refine Finset.filter_congr fun i hi => ?_
    exact relativeNode_eq_some_iff hn hq hn' (Finset.mem_range.mp hi) k
  · intro maxNumnodes online hlen i k hi hk hnode
    rw [isAllocHctx, hnode, Option.map_some, realNode_eq maxNumnodes online (by omega)]

/-- Five queues on two nodes, and two queues on five. -/
theorem isAllocHctx_splits_evenly_five_two :
    ((Finset.range 5).filter fun i => relativeNode 5 2 i = some ((0 : Nat) : Int)).card = 3 ∧
      ((Finset.range 2).filter fun i => relativeNode 2 5 i = some ((4 : Nat) : Int)).card = 0 :=
  ⟨(isAllocHctx_splits_evenly 5 2 (by decide) (by decide) (by decide)).2.2.1 0
      (by decide),
    (isAllocHctx_splits_evenly 2 5 (by decide) (by decide) (by decide)).2.2.1 4
      (by decide)⟩

end DisStore.Proofs
