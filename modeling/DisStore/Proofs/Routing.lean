import DisStore.Route

/-!
# The chunk of a request

The last chunk of a request is computed from the byte one page before its end. That is right
when the request reaches at least one page into the last chunk that it touches.
-/

namespace DisStore.Proofs
open DisStore DisStore.Lib

/-- A request that the registered queue admits. -/
structure Admitted (sizeG maxSglLen : Nat) (r : IoRequest) : Prop where
  start_block : 512 ∣ r.start
  len_block : 512 ∣ r.len
  len_pos : 0 < r.len
  len_le : r.len ≤ isPageSize * maxSglLen
  inside : r.start + r.len ≤ sizeG * oneGb

/-- All bytes of the request lie in the chunk of the first one. -/
def InOneChunk (r : IoRequest) : Prop :=
  ∀ x, r.start ≤ x → x < r.start + r.len → x / oneGb = r.start / oneGb

/-- The chunk numbers are those of a device of `sizeG` chunks and say whether the request lies
in one chunk; if they are equal, the slab and its bitmap are accessed within their bounds. -/
structure StaysInside (sizeG : Nat) (r : IoRequest) : Prop where
  gb : 0 ≤ r.gbIndex ∧ r.gbIndex < sizeG
  last : 0 ≤ r.endIndex ∧ r.endIndex < sizeG
  equal : r.gbIndex = r.endIndex ↔ InOneChunk r
  slab : r.gbIndex = r.endIndex → r.chunkOffset + r.len ≤ oneGb
  test : r.gbIndex = r.endIndex → 0 ≤ r.bitmapIndex ∧ r.bitmapIndex ≤ 262143
  group : r.gbIndex = r.endIndex → ∀ i ∈ bitmapGroup r.chunkOffset r.len, 0 ≤ i ∧ i ≤ 262143

variable {sizeG maxSglLen : Nat} {r : IoRequest}

lemma inOneChunk_iff (hpos : 0 < r.len) :
    InOneChunk r ↔ (r.start + r.len - 1) / oneGb = r.start / oneGb := by
  constructor
  · intro h
    exact h _ (by omega) (by omega)
  · intro h x hx hlt
    have hlow := Nat.div_le_div_right (c := oneGb) hx
    have hhigh : x / oneGb ≤ (r.start + r.len - 1) / oneGb := Nat.div_le_div_right (by omega)
    omega

lemma Admitted.gbIndex_eq (h : Admitted sizeG maxSglLen r) (hsize : sizeG < 2 ^ 31) :
    r.gbIndex = (r.start / oneGb : Nat) ∧ r.start / oneGb < sizeG := by
  have hpos := h.len_pos
  have hin := h.inside
  have hlt : r.start / oneGb < sizeG := by
    unfold oneGb at hin ⊢
    omega
  exact ⟨toInt32_natCast (by omega), hlt⟩

lemma endIndex_of_lt (h : r.start + r.len < isPageSize) : r.endIndex = -1 := by
  have hdiv : (r.start + r.len + (2 ^ 64 - isPageSize)) % 2 ^ 64 / oneGb = 2 ^ 34 - 1 := by
    unfold isPageSize oneGb at *
    omega
  rw [IoRequest.endIndex, hdiv]
  decide +kernel

lemma Admitted.endIndex_eq (h : Admitted sizeG maxSglLen r) (hsize : sizeG < 2 ^ 31)
    (hpage : isPageSize ≤ r.start + r.len) :
    r.endIndex = ((r.start + r.len - isPageSize) / oneGb : Nat) ∧
      (r.start + r.len - isPageSize) / oneGb < sizeG := by
  have hin := h.inside
  have hwrap : (r.start + r.len + (2 ^ 64 - isPageSize)) % 2 ^ 64 =
      r.start + r.len - isPageSize := by
    unfold isPageSize oneGb at *
    omega
  have hlt : (r.start + r.len - isPageSize) / oneGb < sizeG := by
    unfold isPageSize oneGb at *
    omega
  refine ⟨?_, hlt⟩
  rw [IoRequest.endIndex, hwrap, toInt32_natCast (by omega)]

lemma bitmapGroup_bound {offset len : Nat} (h : offset + len ≤ oneGb) :
    ∀ i ∈ bitmapGroup offset len, 0 ≤ i ∧ i ≤ 262143 := by
  intro i hi
  obtain ⟨n, hn, rfl⟩ := List.mem_map.mp hi
  have hn := List.mem_range.mp hn
  unfold oneGb at h
  unfold isPageSize at hn ⊢
  rw [toInt32_natCast (by omega)] at hn ⊢
  omega

theorem staysInside_iff (sizeG maxSglLen : Nat) (hsize : sizeG < 2 ^ 31) (r : IoRequest)
    (h : Admitted sizeG maxSglLen r) :
    StaysInside sizeG r ↔ isPageSize - 1 ≤ (r.start + r.len - 1) % oneGb ∨
      r.start / oneGb + 1 < (r.start + r.len - 1) / oneGb := by
  obtain ⟨hgb, hgblt⟩ := h.gbIndex_eq hsize
  have hpos := h.len_pos
  by_cases hpage : isPageSize ≤ r.start + r.len
  · obtain ⟨hend, hendlt⟩ := h.endIndex_eq hsize hpage
    have heq : r.gbIndex = r.endIndex ↔
        r.start / oneGb = (r.start + r.len - isPageSize) / oneGb := by
      rw [hgb, hend]
      exact Int.natCast_inj
    constructor
    · intro hstay
      have hone := hstay.equal
      rw [heq, inOneChunk_iff hpos] at hone
      unfold isPageSize oneGb at *
      omega
    · intro hcond
      have hone : r.gbIndex = r.endIndex ↔ InOneChunk r := by
        rw [heq, inOneChunk_iff hpos]
        unfold isPageSize oneGb at *
        omega
      have hslab : r.gbIndex = r.endIndex → r.chunkOffset + r.len ≤ oneGb := by
        intro he
        have hlast := (inOneChunk_iff hpos).mp (hone.mp he)
        unfold IoRequest.chunkOffset oneGb at *
        omega
      refine ⟨?_, ?_, hone, hslab, fun he => ?_, fun he => bitmapGroup_bound (hslab he)⟩
      · rw [hgb]
        exact ⟨Int.natCast_nonneg _, by exact_mod_cast hgblt⟩
      · rw [hend]
        exact ⟨Int.natCast_nonneg _, by exact_mod_cast hendlt⟩
      · have hoff : r.chunkOffset < oneGb := Nat.mod_lt _ (by decide)
        unfold IoRequest.bitmapIndex
        unfold isPageSize oneGb at *
        rw [toInt32_natCast (by omega)]
        omega
  · have hneg := endIndex_of_lt (Nat.lt_of_not_le hpage)
    constructor
    · intro hstay
      have hlast := hstay.last.1
      rw [hneg] at hlast
      omega
    · intro hcond
      unfold isPageSize oneGb at *
      omega

/-- A page at the end of the first chunk. -/
theorem staysInside_last_page : StaysInside 12 ⟨2 ^ 30 - 4096, 4096, true⟩ :=
  (staysInside_iff 12 1 (by decide) _ ⟨by decide, by decide, by decide, by decide, by decide⟩).mpr
    (by decide)

/-- The first block of the device has last chunk -1; a page that begins one block before the
end of the first chunk is taken to lie inside of it and runs over the end of the slab. -/
theorem routing_leaves_chunk :
    (Admitted 12 1 ⟨0, 512, true⟩ ∧ IoRequest.endIndex ⟨0, 512, true⟩ = -1 ∧
      ¬StaysInside 12 ⟨0, 512, true⟩) ∧
    Admitted 12 1 ⟨2 ^ 30 - 512, 4096, true⟩ ∧
      IoRequest.gbIndex ⟨2 ^ 30 - 512, 4096, true⟩ = IoRequest.endIndex ⟨2 ^ 30 - 512, 4096, true⟩ ∧
      oneGb < IoRequest.chunkOffset ⟨2 ^ 30 - 512, 4096, true⟩ + 4096 ∧
      ¬StaysInside 12 ⟨2 ^ 30 - 512, 4096, true⟩ := by
  refine ⟨⟨⟨by decide, by decide, by decide, by decide, by decide⟩, by decide +kernel, fun h => ?_⟩,
    ⟨by decide, by decide, by decide, by decide, by decide⟩, by decide +kernel, by decide,
    fun h => ?_⟩
  · exact absurd h.last.1 (by decide +kernel)
  · exact absurd (h.slab (by decide +kernel)) (by decide)

end DisStore.Proofs
