import DisStore.Proofs.TwoChunkWrites

/-!
# The bitmap functions as operations on a set of pages

A bitmap stands for the set of pages whose bit is set. Every call covers some pages, makes
their bits all set or all clear and leaves the bits of the other pages alone, so that after a
sequence of calls the bit of a page is what the last call that covers it has made of it.
-/

namespace DisStore

/-- The arguments that the driver may pass: pages of a chunk, and page-aligned ranges inside a
chunk. -/
def BitmapOp.InChunk : BitmapOp → Prop
  | .init => True
  | .set i | .clear i => 0 ≤ i ∧ i ≤ 262143
  | .groupSet offset len | .groupClear offset len =>
    isPageSize ∣ offset ∧ isPageSize ∣ len ∧ offset + len ≤ oneGb

/-- The pages that a call is meant for. -/
def BitmapOp.covers : BitmapOp → Int → Bool
  | .init, p => decide (0 ≤ p ∧ p ≤ 262143)
  | .set i, p | .clear i, p => decide (p = i)
  | .groupSet offset len, p | .groupClear offset len, p =>
    decide (((offset / 4096 : Nat) : Int) ≤ p ∧ p ≤ ((offset + len) / 4096 : Nat) - 1)

/-- Whether a call puts its pages into the set or takes them out. -/
def BitmapOp.isSet : BitmapOp → Bool
  | .set _ | .groupSet _ _ => true
  | .init | .clear _ | .groupClear _ _ => false

/-- The last call of a sequence that covers a page. -/
def lastCovering (ops : List BitmapOp) (p : Int) : Option BitmapOp :=
  (ops.filter (·.covers p)).getLast?

end DisStore

namespace DisStore.Proofs

open DisStore

lemma lastCovering_snoc (ops : List BitmapOp) (op : BitmapOp) (p : Int) :
    lastCovering (ops ++ [op]) p =
      if op.covers p then some op else lastCovering ops p := by
  unfold lastCovering
  rw [List.filter_append]
  cases hcovers : op.covers p with
  | true => simp [hcovers]
  | false => simp [hcovers]

lemma mem_bitmapGroup_of_aligned {offset len : Nat} (hoff : isPageSize ∣ offset)
    (hlen : isPageSize ∣ len) (h : offset + len ≤ oneGb) (p : Int) :
    p ∈ bitmapGroup offset len ↔
      ((offset / 4096 : Nat) : Int) ≤ p ∧ p ≤ ((offset + len) / 4096 : Nat) - 1 := by
  rw [mem_bitmapGroup h]
  unfold isPageSize at hoff hlen ⊢
  omega

lemma isBitmapTest_init (bitmap : BitmapWords) (p : Int) :
    isBitmapTest (isBitmapInit bitmap) p =
      if 0 ≤ p ∧ p ≤ 262143 then false else isBitmapTest bitmap p := by
  rw [isBitmapTest_eq, isBitmapTest_eq, isBitmapInit]
  have hword : (0 ≤ p / 32 ∧ p / 32 < oneGb / (4096 * 8) / 4) ↔ 0 ≤ p ∧ p ≤ 262143 := by
    unfold oneGb
    omega
  by_cases hp : 0 ≤ p ∧ p ≤ 262143
  · rw [if_pos (hword.mpr hp), if_pos hp]
    simp
  · rw [if_neg (hword.not.mpr hp), if_neg hp]

lemma isBitmapTest_bitmapOp {op : BitmapOp} (h : op.InChunk) (bitmap : BitmapWords)
    (p : Int) :
    isBitmapTest (bitmapOp bitmap op) p =
      if op.covers p then op.isSet else isBitmapTest bitmap p := by
  cases op with
  | init =>
    rw [bitmapOp, isBitmapTest_init]
    simp only [BitmapOp.covers, BitmapOp.isSet, decide_eq_true_eq]
  | set i =>
    rw [bitmapOp, isBitmapTest_set]
    by_cases hp : p = i <;> simp [BitmapOp.covers, BitmapOp.isSet, hp]
  | clear i =>
    rw [bitmapOp, isBitmapTest_clear]
    by_cases hp : p = i <;> simp [BitmapOp.covers, BitmapOp.isSet, hp]
  | groupSet offset len =>
    obtain ⟨hoff, hlen, hend⟩ := h
    have hcovers : (BitmapOp.groupSet offset len).covers p = decide (p ∈ bitmapGroup offset len) :=
      decide_eq_decide.mpr (mem_bitmapGroup_of_aligned hoff hlen hend p).symm
    rw [bitmapOp, isBitmapGroupSet, isBitmapTest_foldl_set, hcovers]
    by_cases hp : p ∈ bitmapGroup offset len <;> simp [BitmapOp.isSet, hp]
  | groupClear offset len =>
    obtain ⟨hoff, hlen, hend⟩ := h
    have hcovers : (BitmapOp.groupClear offset len).covers p = decide (p ∈ bitmapGroup offset len) :=
      decide_eq_decide.mpr (mem_bitmapGroup_of_aligned hoff hlen hend p).symm
    rw [bitmapOp, isBitmapGroupClear, isBitmapTest_foldl_clear, hcovers]
    by_cases hp : p ∈ bitmapGroup offset len <;> simp [BitmapOp.isSet, hp]

lemma isBitmapTest_run (bitmap : BitmapWords) (ops : List BitmapOp)
    (h : ∀ op ∈ ops, op.InChunk) (p : Int) :
    isBitmapTest (ops.foldl bitmapOp bitmap) p =
      match lastCovering ops p with
      | some op => op.isSet
      | none => isBitmapTest bitmap p := by
  induction ops using List.reverseRecOn with
  | nil => rfl
  | append_singleton ops op ih =>
    have hop := h op (by simp)
    have hops := ih fun op' hop' => h op' (by simp [hop'])
    rw [List.foldl_append, List.foldl_cons, List.foldl_nil, isBitmapTest_bitmapOp hop,
      lastCovering_snoc]
    cases hcovers : op.covers p with
    | true => rfl
    | false => exact hops

lemma getLsbD_eq_isBitmapTest (bitmap : BitmapWords) (k : Int) {j : Nat} (hj : j < 32) :
    (bitmap k).getLsbD j = isBitmapTest bitmap (32 * k + j) := by
  have hword : (32 * k + (j : Int)) / 32 = k := by omega
  have hbit : ((32 * k + (j : Int)) % 32).toNat = j := by omega
  rw [isBitmapTest_eq, hword, hbit]

lemma wordIndices_lt {op : BitmapOp} (h : op.InChunk) :
    ∀ k ∈ op.wordIndices, 0 ≤ k ∧ k < (bitmapIntSize : Int) := by
  have hgroup : ∀ {offset len : Nat}, offset + len ≤ oneGb →
      ∀ k ∈ (bitmapGroup offset len).map (· / 32), 0 ≤ k ∧ k < (bitmapIntSize : Int) := by
    intro offset len hend k hk
    obtain ⟨i, hi, rfl⟩ := List.mem_map.mp hk
    have hbound := bitmapGroup_bound hend i hi
    unfold bitmapIntSize
    omega
  intro k hk
  cases op with
  | init =>
    obtain ⟨n, hn, rfl⟩ := List.mem_map.mp hk
    have hn := List.mem_range.mp hn
    unfold oneGb at hn
    unfold bitmapIntSize
    omega
  | set i | clear i =>
    obtain rfl := List.mem_singleton.mp hk
    have hi : 0 ≤ i ∧ i ≤ 262143 := h
    unfold bitmapIntSize
    omega
  | groupSet offset len | groupClear offset len => exact hgroup h.2.2 k hk

/-- After every sequence of calls a page is in the set iff the last call that covers it put it
there (a page that no call covers is as it was); every call stays inside the array and keeps
each bit of each word that belongs to a page it does not cover. -/
theorem bitmap_implements_page_set (bitmap : BitmapWords) (ops : List BitmapOp)
    (h : ∀ op ∈ ops, op.InChunk) :
    (∀ p : Int, 0 ≤ p → p ≤ 262143 → isBitmapTest (ops.foldl bitmapOp bitmap) p =
      match lastCovering ops p with
      | some op => op.isSet
      | none => isBitmapTest bitmap p) ∧
    ∀ op ∈ ops,
      (∀ k ∈ op.wordIndices, 0 ≤ k ∧ k < (bitmapIntSize : Int)) ∧
      ∀ (before : BitmapWords) (k : Int) (j : Nat), j < 32 →
        op.covers (32 * k + j) = false →
          (bitmapOp before op k).getLsbD j = (before k).getLsbD j := by
  refine ⟨fun p _ _ => isBitmapTest_run bitmap ops h p, fun op hop => ⟨wordIndices_lt (h op hop), ?_⟩⟩
  intro before k j hj hcovers
  rw [getLsbD_eq_isBitmapTest _ _ hj, getLsbD_eq_isBitmapTest _ _ hj,
    isBitmapTest_bitmapOp (h op hop), hcovers]
  rfl

/-- A range of two pages around the boundary of the first word, then a page of it taken out. -/
theorem bitmap_implements_page_set_boundary :
    isBitmapTest ([.groupSet (31 * 4096) 8192, .clear 31].foldl bitmapOp fun _ => 0) 32 = true ∧
      isBitmapTest ([.groupSet (31 * 4096) 8192, .clear 31].foldl bitmapOp fun _ => 0) 31 =
        false := by
  have hops : ∀ op ∈ [BitmapOp.groupSet (31 * 4096) 8192, .clear 31], op.InChunk := by
    simp [BitmapOp.InChunk, isPageSize, oneGb]
  have hrun := (bitmap_implements_page_set (fun _ => 0) _ hops).1
  exact ⟨hrun 32 (by decide) (by decide), hrun 31 (by decide) (by decide)⟩

end DisStore.Proofs
