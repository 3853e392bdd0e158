import DisStore.Proofs.Routing
import DisStore.Proofs.ChunkMaps

/-!
# Reads of several pages

`IS_request` tests the bit of the first page of a read and `client_read_done` copies one page,
whatever the length of the request is.
-/

namespace DisStore.Proofs
open DisStore DisStore.Lib

/-- The chunk that a request is routed to. -/
def routedChunk (t : ChunkTables) (r : IoRequest) : RemoteChunk :=
  (t.cbs (t.sess.cbIndexMap r.gbIndex).toNat).chunkList
    (t.sess.chunkMapCbChunk r.gbIndex).toNat

/-- A page-aligned read of `n` pages inside a mapped chunk while RDMA is on. -/
structure MappedRead (sizeG maxSglLen : Nat) (t : ChunkTables) (r : IoRequest) (n : Nat) :
    Prop where
  admitted : Admitted sizeG maxSglLen r
  read : r.write = false
  pages : r.len = n * isPageSize
  aligned : isPageSize ∣ r.start
  one : InOneChunk r
  server : t.sess.cbIndexMap r.gbIndex ≠ -1
  chunk : t.sess.chunkMapCbChunk r.gbIndex ≠ -1
  rdma : t.sess.rdmaOn = true

variable {sizeG maxSglLen n : Nat} {t : ChunkTables} {r : IoRequest}

lemma MappedRead.routed (h : MappedRead sizeG maxSglLen t r n) (hsize : sizeG < 2 ^ 31) :
    (isRequest t r).2 = if (routedChunk t r).bitmap (r.chunkOffset / isPageSize) then
      .transfer (t.sess.cbIndexMap r.gbIndex) (t.sess.chunkMapCbChunk r.gbIndex) r.chunkOffset
      else .disk := by
  have hpos := h.admitted.len_pos
  have hpages := h.pages
  have hpage : isPageSize ≤ r.start + r.len := by
    have hn : 0 < n := Nat.pos_of_mul_pos_right (hpages ▸ hpos)
    have hle := Nat.mul_le_mul_right isPageSize hn
    omega
  have hone := (inOneChunk_iff hpos).mp h.one
  have heq : r.gbIndex = r.endIndex := by
    rw [(h.admitted.gbIndex_eq hsize).1, (h.admitted.endIndex_eq hsize hpage).1]
    unfold isPageSize oneGb at *
    omega
  have hbit : r.bitmapIndex.toNat = r.chunkOffset / isPageSize := by
    have hoff : r.chunkOffset < oneGb := Nat.mod_lt _ (by decide)
    have hlt : r.chunkOffset / isPageSize < 2 ^ 31 := by
      unfold isPageSize oneGb at *
      omega
    rw [IoRequest.bitmapIndex, toInt32_natCast hlt, Int.toNat_natCast]
  have hroute : ¬(t.sess.cbIndexMap r.gbIndex = -1 ∨ t.sess.chunkMapCbChunk r.gbIndex = -1 ∨
      t.sess.rdmaOn = false) := by
    simp [h.server, h.chunk, h.rdma]
  simp only [isRequest, if_pos heq, if_neg hroute, h.read, hbit, Bool.false_eq_true, if_false]
  unfold routedChunk
  split_ifs <;> rfl

/-- Chunk 0 of a session is on the first slab of server 0, with the given bitmap. -/
def oneSlab (bitmap : Nat → Bool) : ChunkTables :=
  let t := updateBitmap (recvInfoSingle 1 (chunkTablesInit 12) 0 (slabMessage 0 0)) 0 0
    fun _ => bitmap
  { t with sess := { t.sess with rdmaOn := true } }

end DisStore.Proofs
