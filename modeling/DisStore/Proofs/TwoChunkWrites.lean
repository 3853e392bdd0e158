import DisStore.Bitmap
import DisStore.Proofs.Routing

/-!
# Writes that cross a chunk boundary

Such a write goes to the disk only, and its pages must not be read from a slab any more. The
two ranges of pages that are cleared are cut at the boundary and cover the request exactly.
-/

namespace DisStore.Proofs
open DisStore DisStore.Lib

/-- A page-aligned write whose first and last page lie in consecutive chunks of the device. -/
structure CrossingWrite (sizeG maxSglLen : Nat) (r : IoRequest) : Prop where
  admitted : Admitted sizeG maxSglLen r
  start_page : isPageSize ∣ r.start
  len_page : isPageSize ∣ r.len
  write : r.write = true
  crosses : (r.start + r.len - isPageSize) / oneGb = r.start / oneGb + 1

/-- The pages of the request. -/
def requestPages (r : IoRequest) (q : Nat) : Prop :=
  r.start / isPageSize ≤ q ∧ q < (r.start + r.len) / isPageSize

/-- A page of the request lies in a chunk that is mapped to slab `i` of server `c`, at page
`p` of the slab. -/
def invalidatesPage (s : Session) (r : IoRequest) (c i p : Nat) : Prop :=
  ∃ q, requestPages r q ∧ q % 262144 = p ∧ s.cbIndexMap (q / 262144 : Nat) = c ∧
    s.chunkMapCbChunk (q / 262144 : Nat) = i

/-- A chunk is not mapped, or it has a slab of a server. -/
def MappedOrNot (s : Session) (g : Int) : Prop :=
  s.cbIndexMap g = -1 ∨ 0 ≤ s.cbIndexMap g ∧ 0 ≤ s.chunkMapCbChunk g

variable {sizeG maxSglLen : Nat} {r : IoRequest}

lemma CrossingWrite.indices (h : CrossingWrite sizeG maxSglLen r) (hsize : sizeG < 2 ^ 31) :
    r.gbIndex = (r.start / oneGb : Nat) ∧ r.endIndex = (r.start / oneGb + 1 : Nat) := by
  have hpage : isPageSize ≤ r.start + r.len := by
    have hlen := Nat.le_of_dvd h.admitted.len_pos h.len_page
    omega
  refine ⟨(h.admitted.gbIndex_eq hsize).1, ?_⟩
  rw [(h.admitted.endIndex_eq hsize hpage).1, h.crosses]

/-- A request in pages: it starts at page `a` and has `b` pages. -/
structure InPages (r : IoRequest) (a b : Nat) : Prop where
  offset : r.chunkOffset = isPageSize * (a % 262144)
  len : r.len = isPageSize * b
  chunk : r.start / oneGb = a / 262144
  crosses : (a + b - 1) / 262144 = a / 262144 + 1
  lt : a + b ≤ 262144 * 2 ^ 31
  page : ∀ q, requestPages r q ↔ a ≤ q ∧ q < a + b

lemma CrossingWrite.inPages (h : CrossingWrite sizeG maxSglLen r) (hsize : sizeG < 2 ^ 31) :
    ∃ a b, 0 < b ∧ InPages r a b := by
  obtain ⟨a, ha⟩ := h.start_page
  obtain ⟨b, hb⟩ := h.len_page
  have hpos := h.admitted.len_pos
  have hin := h.admitted.inside
  have hcross := h.crosses
  unfold oneGb at hin hcross
  refine ⟨a, b, ?_, ?_, hb, ?_, ?_, ?_, ?_⟩
  · unfold isPageSize at hb
    omega
  · unfold IoRequest.chunkOffset oneGb
    unfold isPageSize at *
    omega
  · unfold oneGb
    unfold isPageSize at *
    omega
  · unfold isPageSize at *
    omega
  · unfold isPageSize at *
    omega
  · intro q
    unfold requestPages
    rw [ha, hb]
    unfold isPageSize
    omega

lemma mem_bitmapGroup {offset len : Nat} (h : offset + len ≤ oneGb) (i : Int) :
    i ∈ bitmapGroup offset len ↔
      ((offset / isPageSize : Nat) : Int) ≤ i ∧
        i < (offset / isPageSize : Nat) + (len / isPageSize : Nat) := by
  have hoff : offset / isPageSize < 2 ^ 31 := by
    unfold isPageSize
    unfold oneGb at h
    omega
  have hlen : len / isPageSize < 2 ^ 31 := by
    unfold isPageSize
    unfold oneGb at h
    omega
  unfold bitmapGroup
  rw [toInt32_natCast hoff, toInt32_natCast hlen, List.mem_map]
  constructor
  · rintro ⟨n, hn, rfl⟩
    rw [List.mem_range] at hn
    omega
  · rintro ⟨hlow, hhigh⟩
    refine ⟨(i - (offset / isPageSize : Nat)).toNat, ?_, ?_⟩
    · rw [List.mem_range]
      omega
    · omega

lemma CrossingWrite.lens (h : CrossingWrite sizeG maxSglLen r) (hsize : sizeG < 2 ^ 31) :
    r.chunkOffset + firstLen r ≤ oneGb ∧ 0 + secondLen r ≤ oneGb ∧
      firstLen r + secondLen r = r.len := by
  obtain ⟨a, b, hpos, hin⟩ := h.inPages hsize
  have hoff := hin.offset
  have hlen := hin.len
  have hcross := hin.crosses
  have hlt := hin.lt
  unfold firstLen secondLen
  unfold isPageSize at hoff hlen
  unfold oneGb
  omega

lemma CrossingWrite.mem_first (h : CrossingWrite sizeG maxSglLen r) (hsize : sizeG < 2 ^ 31)
    (p : Nat) : (p : Int) ∈ bitmapGroup r.chunkOffset (firstLen r) ↔
      ∃ q, requestPages r q ∧ q % 262144 = p ∧ q / 262144 = r.start / oneGb := by
  obtain ⟨a, b, hpos, hin⟩ := h.inPages hsize
  have hcross := hin.crosses
  have hlen : firstLen r / isPageSize = 262144 - a % 262144 := by
    rw [firstLen, hin.offset]
    unfold oneGb isPageSize
    omega
  have hdiv : r.chunkOffset / isPageSize = a % 262144 := by
    rw [hin.offset]
    exact Nat.mul_div_cancel_left _ (by decide)
  rw [mem_bitmapGroup (h.lens hsize).1, hlen, hdiv, hin.chunk]
  simp only [hin.page]
  constructor
  · intro hp
    exact ⟨262144 * (a / 262144) + p, by omega, by omega, by omega⟩
  · rintro ⟨q, hq, hmod, hquot⟩
    omega

lemma CrossingWrite.mem_second (h : CrossingWrite sizeG maxSglLen r) (hsize : sizeG < 2 ^ 31)
    (p : Nat) : (p : Int) ∈ bitmapGroup 0 (secondLen r) ↔
      ∃ q, requestPages r q ∧ q % 262144 = p ∧ q / 262144 = r.start / oneGb + 1 := by
  obtain ⟨a, b, hpos, hin⟩ := h.inPages hsize
  have hcross := hin.crosses
  obtain ⟨-, hfits, hsum⟩ := h.lens hsize
  have hlen : secondLen r / isPageSize = a % 262144 + b - 262144 := by
    have hoff := hin.offset
    have hb := hin.len
    unfold firstLen oneGb at hsum
    unfold isPageSize at *
    omega
  rw [mem_bitmapGroup hfits, hlen, hin.chunk, Nat.zero_div]
  simp only [hin.page]
  constructor
  · intro hp
    exact ⟨262144 * (a / 262144 + 1) + p, by omega, by omega, by omega⟩
  · rintro ⟨q, hq, hmod, hquot⟩
    omega

lemma CrossingWrite.chunk_of_page (h : CrossingWrite sizeG maxSglLen r) (hsize : sizeG < 2 ^ 31)
    {q : Nat} (hq : requestPages r q) :
    q / 262144 = r.start / oneGb ∨ q / 262144 = r.start / oneGb + 1 := by
  obtain ⟨a, b, hpos, hin⟩ := h.inPages hsize
  have hcross := hin.crosses
  rw [hin.page] at hq
  rw [hin.chunk]
  omega

lemma isBitmapTest_clearChunk {s : Session} {g : Int} (hmap : MappedOrNot s g) (words : SlabWords)
    (offset len c i : Nat) (j : Int) :
    isBitmapTest ((if s.cbIndexMap g ≠ -1 ∧ s.chunkMapCbChunk g ≠ -1 then
        updateWords words (s.cbIndexMap g) (s.chunkMapCbChunk g)
          fun bitmap => isBitmapGroupClear bitmap offset len
      else words) c i) j = true ↔
      isBitmapTest (words c i) j = true ∧
        ¬(s.cbIndexMap g = c ∧ s.chunkMapCbChunk g = i ∧ j ∈ bitmapGroup offset len) := by
  rcases hmap with hno | ⟨hcb, hchunk⟩
  · have hc : s.cbIndexMap g ≠ c := by omega
    rw [if_neg fun hmapped => hmapped.1 hno]
    simp [hc]
  · obtain ⟨x, hx⟩ := Int.eq_ofNat_of_zero_le hcb
    obtain ⟨y, hy⟩ := Int.eq_ofNat_of_zero_le hchunk
    rw [if_pos (by omega), hx, hy]
    simp only [updateWords, Int.toNat_natCast, Int.natCast_inj]
    by_cases hc : c = x
    · subst hc
      rw [Function.update_self]
      by_cases hi : i = y
      · subst hi
        rw [Function.update_self, isBitmapGroupClear, isBitmapTest_foldl_clear]
        simp only [true_and, Bool.and_eq_true, Bool.not_eq_true', decide_eq_false_iff_not]
        exact and_comm
      · rw [Function.update_of_ne hi]
        simp [Ne.symm hi]
    · rw [Function.update_of_ne hc]
      simp [Ne.symm hc]

lemma isBitmapTest_clearTwoChunkWords {s : Session} (hwrite : r.write = true)
    (hfirst : MappedOrNot s r.gbIndex) (hsecond : MappedOrNot s r.endIndex) (words : SlabWords)
    (c i : Nat) (j : Int) :
    isBitmapTest (clearTwoChunkWords s words r c i) j = true ↔
      isBitmapTest (words c i) j = true ∧
        ¬(s.cbIndexMap r.gbIndex = c ∧ s.chunkMapCbChunk r.gbIndex = i ∧
          j ∈ bitmapGroup r.chunkOffset (firstLen r)) ∧
        ¬(s.cbIndexMap r.endIndex = c ∧ s.chunkMapCbChunk r.endIndex = i ∧
          j ∈ bitmapGroup 0 (secondLen r)) := by
  unfold clearTwoChunkWords
  simp only [hwrite, true_and]
  rw [isBitmapTest_clearChunk hsecond, isBitmapTest_clearChunk hfirst, and_assoc]

lemma CrossingWrite.invalidates_iff (h : CrossingWrite sizeG maxSglLen r) (hsize : sizeG < 2 ^ 31)
    (s : Session) (c i p : Nat) :
    invalidatesPage s r c i p ↔
      s.cbIndexMap r.gbIndex = c ∧ s.chunkMapCbChunk r.gbIndex = i ∧
          (p : Int) ∈ bitmapGroup r.chunkOffset (firstLen r) ∨
        s.cbIndexMap r.endIndex = c ∧ s.chunkMapCbChunk r.endIndex = i ∧
          (p : Int) ∈ bitmapGroup 0 (secondLen r) := by
  obtain ⟨hgb, hend⟩ := h.indices hsize
  rw [h.mem_first hsize, h.mem_second hsize, hgb, hend]
  constructor
  · rintro ⟨q, hq, hmod, hcb, hchunk⟩
    rcases h.chunk_of_page hsize hq with hdiv | hdiv
    · rw [hdiv] at hcb hchunk
      exact .inl ⟨hcb, hchunk, q, hq, hmod, hdiv⟩
    · rw [hdiv] at hcb hchunk
      exact .inr ⟨hcb, hchunk, q, hq, hmod, hdiv⟩
  · rintro (⟨hcb, hchunk, q, hq, hmod, hdiv⟩ | ⟨hcb, hchunk, q, hq, hmod, hdiv⟩)
    · exact ⟨q, hq, hmod, by rw [hdiv, hcb], by rw [hdiv, hchunk]⟩
    · exact ⟨q, hq, hmod, by rw [hdiv, hcb], by rw [hdiv, hchunk]⟩

/-- The words have the bits of the sets of pages in the tables. -/
def HasBits (words : SlabWords) (t : ChunkTables) : Prop :=
  ∀ c i, bitmapPages (words c i) = ((t.cbs c).chunkList i).bitmap

lemma HasBits.update {words : SlabWords} {t : ChunkTables} (h : HasBits words t)
    (cbIndex chunkIndex : Int) {f : BitmapWords → BitmapWords} {g : (Nat → Bool) → Nat → Bool}
    (hfg : ∀ bitmap, bitmapPages (f bitmap) = g (bitmapPages bitmap)) :
    HasBits (updateWords words cbIndex chunkIndex f) (updateBitmap t cbIndex chunkIndex g) := by
  intro c i
  unfold updateWords updateBitmap
  by_cases hc : c = cbIndex.toNat
  · subst hc
    by_cases hi : i = chunkIndex.toNat
    · subst hi
      simp only [Function.update_self]
      rw [hfg, h]
    · simp only [Function.update_self, Function.update_of_ne hi]
      exact h _ i
  · simp only [Function.update_of_ne hc]
    exact h c i

lemma HasBits.clearChunk {words : SlabWords} {t : ChunkTables} (h : HasBits words t)
    (mapped : Prop) [Decidable mapped] (cbIndex chunkIndex : Int) (offset len : Nat) :
    HasBits
      (if mapped then updateWords words cbIndex chunkIndex
        fun bitmap => isBitmapGroupClear bitmap offset len else words)
      (if mapped then updateBitmap t cbIndex chunkIndex
        fun bitmap => bitmapGroupClear bitmap offset len else t) := by
  split
  · apply h.update
    intro bitmap
    exact bitmapPages_groupClear bitmap offset len
  · exact h

lemma HasBits.isRequest {words : SlabWords} {t : ChunkTables} (h : HasBits words t)
    (hcross : r.gbIndex ≠ r.endIndex) :
    HasBits (clearTwoChunkWords t.sess words r) (isRequest t r).1 := by
  rw [DisStore.isRequest, if_neg hcross]
  have hfirst := h.clearChunk
    (r.write ∧ t.sess.cbIndexMap r.gbIndex ≠ -1 ∧ t.sess.chunkMapCbChunk r.gbIndex ≠ -1)
    (t.sess.cbIndexMap r.gbIndex) (t.sess.chunkMapCbChunk r.gbIndex) r.chunkOffset (firstLen r)
  have hsess : (if r.write ∧ t.sess.cbIndexMap r.gbIndex ≠ -1 ∧
        t.sess.chunkMapCbChunk r.gbIndex ≠ -1 then
      updateBitmap t (t.sess.cbIndexMap r.gbIndex) (t.sess.chunkMapCbChunk r.gbIndex)
        fun bitmap => bitmapGroupClear bitmap r.chunkOffset (firstLen r) else t).sess = t.sess := by
    split <;> rfl
  have hboth := hfirst.clearChunk
    (r.write ∧ t.sess.cbIndexMap r.endIndex ≠ -1 ∧ t.sess.chunkMapCbChunk r.endIndex ≠ -1)
    (t.sess.cbIndexMap r.endIndex) (t.sess.chunkMapCbChunk r.endIndex) 0 (secondLen r)
  unfold clearTwoChunkWords clearTwoChunks
  dsimp only
  rw [← firstLen, ← secondLen, hsess]
  exact hboth

/-- A write across a chunk boundary clears the bits of its pages that lie in mapped chunks and
leaves every other bit of every slab as it was; it stays inside the bitmaps, and the tables of
`IS_request` follow the words. -/
theorem crossing_write_invalidates_own_pages (sizeG maxSglLen : Nat) (hsize : sizeG < 2 ^ 31)
    (r : IoRequest) (h : CrossingWrite sizeG maxSglLen r) (t : ChunkTables) (words : SlabWords)
    (hfirst : MappedOrNot t.sess r.gbIndex) (hsecond : MappedOrNot t.sess r.endIndex)
    (hwords : HasBits words t) :
    HasBits (clearTwoChunkWords t.sess words r) (isRequest t r).1 ∧
      (∀ c i p : Nat, isBitmapTest (clearTwoChunkWords t.sess words r c i) p = true ↔
        isBitmapTest (words c i) p = true ∧ ¬invalidatesPage t.sess r c i p) ∧
      firstLen r + secondLen r = r.len ∧
      (∀ x ∈ bitmapGroup r.chunkOffset (firstLen r), 0 ≤ x ∧ x ≤ 262143) ∧
      ∀ x ∈ bitmapGroup 0 (secondLen r), 0 ≤ x ∧ x ≤ 262143 := by
  obtain ⟨hgb, hend⟩ := h.indices hsize
  obtain ⟨hfits1, hfits2, hsum⟩ := h.lens hsize
  have hcross : r.gbIndex ≠ r.endIndex := by
    rw [hgb, hend]
    omega
  refine ⟨hwords.isRequest hcross, ?_, hsum, bitmapGroup_bound hfits1, bitmapGroup_bound hfits2⟩
  intro c i p
  rw [isBitmapTest_clearTwoChunkWords h.write hfirst hsecond, h.invalidates_iff hsize, not_or]

/-- The last page of chunk 0 and the first page of chunk 1. -/
def twoPages : IoRequest := ⟨oneGb - isPageSize, 2 * isPageSize, true⟩

/-- Chunk 0 has slab 0 and chunk 1 has slab 1 of server 0; every page is in its slab. -/
def fullSlabs : ChunkTables :=
  { sess := { sessionCreate 2 with cbIndexMap := fun _ => 0, chunkMapCbChunk := fun g => g }
    cbs := fun _ => { kernelCbInit with chunkList := fun _ => ⟨1, 0, fun _ => true⟩ } }

/-- Both pages are invalid after the write. -/
theorem crossing_write_invalidates_two_pages :
    firstLen twoPages + secondLen twoPages = 2 * isPageSize ∧
      isBitmapTest (clearTwoChunkWords fullSlabs.sess (fun _ _ _ => BitVec.allOnes 32) twoPages 0 0)
        262143 = false ∧
      isBitmapTest (clearTwoChunkWords fullSlabs.sess (fun _ _ _ => BitVec.allOnes 32) twoPages 0 1)
        0 = false := by
  have hcross : CrossingWrite 2 2 twoPages := by
    refine ⟨⟨?_, ?_, ?_, ?_, ?_⟩, ?_, ?_, rfl, ?_⟩ <;> decide
  have hones : HasBits (fun _ _ _ => BitVec.allOnes 32) fullSlabs := by
    intro c i
    funext p
    have hlt : ((p : Int) % 32).toNat < 32 := by omega
    unfold bitmapPages
    rw [isBitmapTest_eq, BitVec.getLsbD_allOnes]
    exact decide_eq_true hlt
  obtain ⟨-, hbits, hlen, -⟩ := crossing_write_invalidates_own_pages 2 2 (by decide) twoPages hcross
    fullSlabs _ (.inr (by decide)) (.inr (by decide)) hones
  refine ⟨hlen, ?_, ?_⟩
  · rw [← Bool.not_eq_true]
    exact fun h => ((hbits 0 0 262143).mp h).2 ⟨262143, ⟨by decide, by decide⟩, rfl, rfl, rfl⟩
  · rw [← Bool.not_eq_true]
    exact fun h => ((hbits 0 1 0).mp h).2 ⟨262144, ⟨by decide, by decide⟩, rfl, rfl, rfl⟩

end DisStore.Proofs
