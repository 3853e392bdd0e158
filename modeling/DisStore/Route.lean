import DisStore.Bio
import DisStore.Chunks
import DisStore.Lib.Bytes

/-!
# Routing of requests

`IS_request` decides between the backup disk and a slab of a server; `client_read_done`
copies what has been read from the slab. Positions and lengths are unsigned 64-bit numbers,
chunk numbers and page numbers are converted to 32-bit `int`.
-/

namespace DisStore
open Lib

/-- `ONE_GB` -/
def oneGb : Nat := 2 ^ 30

/-- A request as `IS_request` reads it: the first byte, `blk_rq_bytes`, the direction. -/
structure IoRequest where
  start : Nat
  len : Nat
  write : Bool

def IoRequest.gbIndex (r : IoRequest) : Int := toInt32 (r.start / oneGb : Nat)

/-- `(start + len - IS_PAGE_SIZE) >> ONE_GB_SHIFT` -/
def IoRequest.endIndex (r : IoRequest) : Int :=
  toInt32 ((r.start + r.len + (2 ^ 64 - isPageSize)) % 2 ^ 64 / oneGb : Nat)

/-- `start & ONE_GB_MASK` -/
def IoRequest.chunkOffset (r : IoRequest) : Nat := r.start % oneGb

/-- The page numbers that `IS_bitmap_group_set` and `IS_bitmap_group_clear` go through. -/
def bitmapGroup (offset len : Nat) : List Int :=
  (List.range (toInt32 (len / isPageSize : Nat)).toNat).map fun (i : Nat) =>
    toInt32 (offset / isPageSize : Nat) + (i : Int)

/-- `IS_bitmap_group_set` -/
def bitmapGroupSet (bitmap : Nat → Bool) (offset len : Nat) : Nat → Bool := fun i =>
  decide ((i : Int) ∈ bitmapGroup offset len) || bitmap i

/-- `IS_bitmap_group_clear` -/
def bitmapGroupClear (bitmap : Nat → Bool) (offset len : Nat) : Nat → Bool := fun i =>
  !decide ((i : Int) ∈ bitmapGroup offset len) && bitmap i

/-- The page number that a read tests. -/
def IoRequest.bitmapIndex (r : IoRequest) : Int := toInt32 (r.chunkOffset / isPageSize : Nat)

inductive Routed where
  | disk
  | transfer (cbIndex chunkIndex : Int) (offset : Nat)
  deriving DecidableEq

/-- The bitmap of a chunk of server `cbIndex` is changed. -/
def updateBitmap (t : ChunkTables) (cbIndex chunkIndex : Int) (f : (Nat → Bool) → Nat → Bool) :
    ChunkTables :=
  let cb := t.cbs cbIndex.toNat
  let chunk := cb.chunkList chunkIndex.toNat
  { t with cbs := Function.update t.cbs cbIndex.toNat { cb with
      chunkList := Function.update cb.chunkList chunkIndex.toNat
        { chunk with bitmap := f chunk.bitmap } } }

/-- Chunk `g` has a server, and no slab in `chunk_map_cb_chunk`. -/
def slabMissing (s : Session) (g : Int) : Bool :=
  decide (s.cbIndexMap g ≠ -1) && decide (s.chunkMapCbChunk g = -1)

/-- The branch of `IS_request` for two chunks reads `chunk_list[-1]`, and follows it if the request
is a write. -/
def outsideChunkList (s : Session) (r : IoRequest) : Bool :=
  decide (r.gbIndex ≠ r.endIndex) && (slabMissing s r.gbIndex || slabMissing s r.endIndex)

/-- The branch of `IS_request` for two chunks: a write clears the bits of its pages. What is
written through `chunk_list[-1]` is in no chunk. -/
def clearTwoChunks (t : ChunkTables) (r : IoRequest) : ChunkTables :=
  let t :=
    if r.write ∧ t.sess.cbIndexMap r.gbIndex ≠ -1 ∧ t.sess.chunkMapCbChunk r.gbIndex ≠ -1 then
      updateBitmap t (t.sess.cbIndexMap r.gbIndex) (t.sess.chunkMapCbChunk r.gbIndex)
        fun bitmap => bitmapGroupClear bitmap r.chunkOffset (oneGb - r.chunkOffset)
    else t
  if r.write ∧ t.sess.cbIndexMap r.endIndex ≠ -1 ∧ t.sess.chunkMapCbChunk r.endIndex ≠ -1 then
    updateBitmap t (t.sess.cbIndexMap r.endIndex) (t.sess.chunkMapCbChunk r.endIndex)
      fun bitmap => bitmapGroupClear bitmap 0 ((r.chunkOffset + r.len + (2 ^ 64 - oneGb)) % 2 ^ 64)
  else t

/-- `IS_request` up to `IS_mq_request_stackbd` or `IS_transfer_chunk`. -/
def isRequest (t : ChunkTables) (r : IoRequest) : ChunkTables × Routed :=
  if r.gbIndex = r.endIndex then
    let cbIndex := t.sess.cbIndexMap r.gbIndex
    let chunkIndex := t.sess.chunkMapCbChunk r.gbIndex
    if cbIndex = -1 ∨ chunkIndex = -1 ∨ t.sess.rdmaOn = false then (t, .disk)
    else if r.write then (t, .transfer cbIndex chunkIndex r.chunkOffset)
    else
      let chunk := (t.cbs cbIndex.toNat).chunkList chunkIndex.toNat
      if chunk.bitmap r.bitmapIndex.toNat then (t, .transfer cbIndex chunkIndex r.chunkOffset)
      else (t, .disk)
  else (clearTwoChunks t r, .disk)

/-- The `memcpy` of `client_read_done`; the memory of the request is given by page. -/
def readDone (rdmaBuf : Nat → UInt8) (pages : Nat → Nat → UInt8) : Nat → Nat → UInt8 :=
  Function.update pages 0 (copyBytes (pages 0) 0 isPageSize rdmaBuf)

end DisStore
