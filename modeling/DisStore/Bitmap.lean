import DisStore.Route

/-!
# Bitmaps as arrays of words

The bitmap of a chunk is an array of `BITMAP_INT_SIZE` words of 32 bits. Each function of
`IS_bitmap_*` is given here on the words, with what it means for the set of pages whose bit
is set.
-/

namespace DisStore

/-- `BITMAP_INT_SIZE` -/
def bitmapIntSize : Nat := 8192

/-- The words of an array, at any index of type `int`. -/
abbrev BitmapWords := Int → BitVec 32

/-- `1 << (i & BITMAP_MASK)` -/
def pageBit (i : Int) : BitVec 32 := BitVec.twoPow 32 (i % 32).toNat

/-- `IS_bitmap_set`; the word is `i >> BITMAP_SHIFT`. -/
def isBitmapSet (bitmap : BitmapWords) (i : Int) : BitmapWords :=
  Function.update bitmap (i / 32) (bitmap (i / 32) ||| pageBit i)

/-- `IS_bitmap_clear` -/
def isBitmapClear (bitmap : BitmapWords) (i : Int) : BitmapWords :=
  Function.update bitmap (i / 32) (bitmap (i / 32) &&& ~~~pageBit i)

/-- `IS_bitmap_test` -/
def isBitmapTest (bitmap : BitmapWords) (i : Int) : Bool :=
  decide (bitmap (i / 32) &&& pageBit i ≠ 0)

/-- `IS_bitmap_init`: `memset` of ONE_GB / (4096 * 8) bytes. -/
def isBitmapInit (bitmap : BitmapWords) : BitmapWords := fun k =>
  if 0 ≤ k ∧ k < oneGb / (4096 * 8) / 4 then 0 else bitmap k

/-- `IS_bitmap_group_set` -/
def isBitmapGroupSet (bitmap : BitmapWords) (offset len : Nat) : BitmapWords :=
  (bitmapGroup offset len).foldl isBitmapSet bitmap

/-- `IS_bitmap_group_clear` -/
def isBitmapGroupClear (bitmap : BitmapWords) (offset len : Nat) : BitmapWords :=
  (bitmapGroup offset len).foldl isBitmapClear bitmap

/-- The pages whose bit is set. -/
def bitmapPages (bitmap : BitmapWords) : Nat → Bool := fun i => isBitmapTest bitmap i

/-- `len1` of `IS_request`. -/
def firstLen (r : IoRequest) : Nat := oneGb - r.chunkOffset

/-- `len2` of `IS_request`. -/
def secondLen (r : IoRequest) : Nat := (r.chunkOffset + r.len + (2 ^ 64 - oneGb)) % 2 ^ 64

/-- The words of the bitmaps of all slabs, by server and slab. -/
abbrev SlabWords := Nat → Nat → BitmapWords

/-- The bitmap of a slab is changed. -/
def updateWords (words : SlabWords) (cbIndex chunkIndex : Int) (f : BitmapWords → BitmapWords) :
    SlabWords :=
  Function.update words cbIndex.toNat (Function.update (words cbIndex.toNat) chunkIndex.toNat
    (f (words cbIndex.toNat chunkIndex.toNat)))

/-- The branch of `IS_request` for two chunks, on the words of the bitmaps. -/
def clearTwoChunkWords (s : Session) (words : SlabWords) (r : IoRequest) : SlabWords :=
  let words :=
    if r.write ∧ s.cbIndexMap r.gbIndex ≠ -1 ∧ s.chunkMapCbChunk r.gbIndex ≠ -1 then
      updateWords words (s.cbIndexMap r.gbIndex) (s.chunkMapCbChunk r.gbIndex)
        fun bitmap => isBitmapGroupClear bitmap r.chunkOffset (firstLen r)
    else words
  if r.write ∧ s.cbIndexMap r.endIndex ≠ -1 ∧ s.chunkMapCbChunk r.endIndex ≠ -1 then
    updateWords words (s.cbIndexMap r.endIndex) (s.chunkMapCbChunk r.endIndex)
      fun bitmap => isBitmapGroupClear bitmap 0 (secondLen r)
  else words

/-- The calls that change a bitmap. -/
inductive BitmapOp
  | init
  | set (i : Int)
  | clear (i : Int)
  | groupSet (offset len : Nat)
  | groupClear (offset len : Nat)
  deriving DecidableEq

/-- The bitmap after a call. -/
def bitmapOp (bitmap : BitmapWords) : BitmapOp → BitmapWords
  | .init => isBitmapInit bitmap
  | .set i => isBitmapSet bitmap i
  | .clear i => isBitmapClear bitmap i
  | .groupSet offset len => isBitmapGroupSet bitmap offset len
  | .groupClear offset len => isBitmapGroupClear bitmap offset len

/-- The indices that a call uses into the array. -/
def BitmapOp.wordIndices : BitmapOp → List Int
  | .init => (List.range (oneGb / (4096 * 8) / 4)).map fun k : Nat => (k : Int)
  | .set i | .clear i => [i / 32]
  | .groupSet offset len | .groupClear offset len => (bitmapGroup offset len).map (· / 32)

lemma isBitmapTest_eq (bitmap : BitmapWords) (i : Int) :
    isBitmapTest bitmap i = (bitmap (i / 32)).getLsbD (i % 32).toNat := by
  have hlt : (i % 32).toNat < 32 := by omega
  unfold isBitmapTest pageBit
  rw [BitVec.and_twoPow]
  cases hbit : (bitmap (i / 32)).getLsbD (i % 32).toNat with
  | false => simp
  | true =>
    have hne : BitVec.twoPow 32 (i % 32).toNat ≠ 0 := by
      intro h
      have hget := congrArg (fun x => x.getLsbD (i % 32).toNat) h
      simp [hlt] at hget
    simpa using hne

/-- Two page numbers have the same word and the same bit only if they are equal. -/
lemma page_eq_of_word_bit {i j : Int} (hword : j / 32 = i / 32)
    (hbit : (j % 32).toNat = (i % 32).toNat) : j = i := by
  omega

lemma isBitmapTest_set (bitmap : BitmapWords) (i j : Int) :
    isBitmapTest (isBitmapSet bitmap i) j = (decide (j = i) || isBitmapTest bitmap j) := by
  rw [isBitmapTest_eq, isBitmapTest_eq]
  have hlt : (j % 32).toNat < 32 := by omega
  unfold isBitmapSet pageBit
  by_cases hword : j / 32 = i / 32
  · rw [hword, Function.update_self, BitVec.getLsbD_or, BitVec.getLsbD_twoPow]
    by_cases hji : j = i
    · subst hji
      simp [hlt]
    · have hbit : (i % 32).toNat ≠ (j % 32).toNat := fun h => hji (page_eq_of_word_bit hword h.symm)
      simp [hji, hbit]
  · have hji : j ≠ i := fun h => hword (h ▸ rfl)
    rw [Function.update_of_ne hword]
    simp [hji]

lemma isBitmapTest_clear (bitmap : BitmapWords) (i j : Int) :
    isBitmapTest (isBitmapClear bitmap i) j = (!decide (j = i) && isBitmapTest bitmap j) := by
  rw [isBitmapTest_eq, isBitmapTest_eq]
  have hlt : (j % 32).toNat < 32 := by omega
  unfold isBitmapClear pageBit
  by_cases hword : j / 32 = i / 32
  · rw [hword, Function.update_self, BitVec.getLsbD_and, BitVec.getLsbD_not, BitVec.getLsbD_twoPow]
    by_cases hji : j = i
    · subst hji
      simp [hlt]
    · have hbit : (i % 32).toNat ≠ (j % 32).toNat := fun h => hji (page_eq_of_word_bit hword h.symm)
      simp [hji, hbit, hlt]
  · have hji : j ≠ i := fun h => hword (h ▸ rfl)
    rw [Function.update_of_ne hword]
    simp [hji]

/-- Setting the bits of a list of pages. -/
lemma isBitmapTest_foldl_set (pages : List Int) (bitmap : BitmapWords) (j : Int) :
    isBitmapTest (pages.foldl isBitmapSet bitmap) j =
      (decide (j ∈ pages) || isBitmapTest bitmap j) := by
  induction pages generalizing bitmap with
  | nil => simp
  | cons i pages ih =>
    rw [List.foldl_cons, ih, isBitmapTest_set]
    by_cases hji : j = i <;> simp [hji]

/-- Clearing the bits of a list of pages. -/
lemma isBitmapTest_foldl_clear (pages : List Int) (bitmap : BitmapWords) (j : Int) :
    isBitmapTest (pages.foldl isBitmapClear bitmap) j =
      (!decide (j ∈ pages) && isBitmapTest bitmap j) := by
  induction pages generalizing bitmap with
  | nil => simp
  | cons i pages ih =>
    rw [List.foldl_cons, ih, isBitmapTest_clear]
    by_cases hji : j = i <;> simp [hji]

/-- The words refine the sets of pages that the routing works on. -/
lemma bitmapPages_groupSet (bitmap : BitmapWords) (offset len : Nat) :
    bitmapPages (isBitmapGroupSet bitmap offset len) =
      bitmapGroupSet (bitmapPages bitmap) offset len := by
  funext p
  exact isBitmapTest_foldl_set (bitmapGroup offset len) bitmap p

lemma bitmapPages_groupClear (bitmap : BitmapWords) (offset len : Nat) :
    bitmapPages (isBitmapGroupClear bitmap offset len) =
      bitmapGroupClear (bitmapPages bitmap) offset len := by
  funext p
  exact isBitmapTest_foldl_clear (bitmapGroup offset len) bitmap p

/-- All pages of a chunk have a word that is set to zero. -/
lemma bitmapPages_init (bitmap : BitmapWords) {p : Nat} (hp : p < 32 * bitmapIntSize) :
    bitmapPages (isBitmapInit bitmap) p = bitmapInit p := by
  have hword : 0 ≤ (p : Int) / 32 ∧ (p : Int) / 32 < oneGb / (4096 * 8) / 4 := by
    unfold bitmapIntSize at hp
    unfold oneGb
    omega
  unfold bitmapPages bitmapInit
  rw [isBitmapTest_eq, isBitmapInit, if_pos hword]
  simp

end DisStore
