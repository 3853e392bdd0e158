import DisStore.Message

/-!
# Requests as chains of bios

What the block device reads of a request: the chain of bios with the physical segments of
each. `stackbd_make_request2` and `stackbd_make_request4` clone the chain for the backup
disk, `mem_gather` copies it into the buffer of an RDMA context and `stackbd_bio_generate`
builds the disk write of that buffer. A NULL pointer that is dereferenced is the result
`none`. Memory holds bytes, or whole pages where segments are given in pages.
-/

namespace DisStore

/-- `IS_PAGE_SIZE` -/
def isPageSize : Nat := 4096

/-- A physical segment: contiguous bytes of memory. -/
structure Segment where
  addr : Nat
  len : Nat
  len_pos : 0 < len

structure Bio where
  segments : List Segment
  segments_ne : segments ≠ []

/-- `bi_phys_segments` -/
def Bio.physSegments (b : Bio) : Nat := b.segments.length

/-- `bio_data`: the address of the first byte. -/
def Bio.data (b : Bio) : Nat := (b.segments.head b.segments_ne).addr

/-- The addresses of the data of a bio, in order. -/
def Bio.addresses (b : Bio) : List Nat := b.segments.flatMap fun s => List.range' s.addr s.len

structure Request where
  bios : List Bio
  bios_ne : bios ≠ []

/-- The places that `f` lists for each bio, from position `k` of the chain on: a place is a bio
and an address in its memory. -/
def places (f : Bio → List Nat) : Nat → List Bio → List (Nat × Nat)
  | _, [] => []
  | k, b :: rest => (f b).map (k, ·) ++ places f (k + 1) rest

/-- `nr_phys_segments` -/
def Request.nrPhysSegments (req : Request) : Nat := (req.bios.map Bio.physSegments).sum

/-- `blk_rq_bytes` -/
def Request.bytes (req : Request) : Nat := (req.bios.map fun b => b.addresses.length).sum

/-- `IS_stackbd_end_io` and `IS_stackbd_end_io2` end the request that is in `bi_private`. -/
inductive EndIo where
  | endIo | endIo2
  deriving DecidableEq

/-- A clone of a bio; `bio_clone` leaves `bi_end_io` empty. -/
structure Clone where
  src : Bio
  endIo : Option EndIo

/-- `struct stackbd_t`: whether there is a backing device, whether it is active, its queue. -/
structure Stackbd where
  bdevRaw : Bool
  isActive : Bool
  bioList : List Clone

/-- The loop of `stackbd_make_request2` and `stackbd_make_request4` over `n` segments, with the
rest of the chain and the queue that it leaves. -/
def cloneLoop : Nat → List Bio → List Clone → Option (List Bio × List Clone)
  | 0, chain, bioList => some (chain, bioList)
  | _ + 1, [], _ => none
  | n + 1, b :: rest, bioList => cloneLoop n rest (bioList ++ [⟨b, none⟩])

/-- The function behind both; its second result are the errors that it ends the request with.
The abort path calls `bio_io_error` with the NULL pointer `bio`. -/
def makeRequest (callback : EndIo) (s : Stackbd) (req : Request) : Option (Stackbd × List Bool) :=
  if s.bdevRaw = false ∨ s.isActive = false then none
  else do
    let (chain, bioList) ← cloneLoop (req.nrPhysSegments - 1) req.bios s.bioList
    match chain with
    | [] => none
    | b :: _ => some ({ s with bioList := bioList ++ [⟨b, some callback⟩] }, [])

/-- `stackbd_make_request2` -/
def makeRequest2 : Stackbd → Request → Option (Stackbd × List Bool) := makeRequest .endIo

/-- `stackbd_make_request4` -/
def makeRequest4 : Stackbd → Request → Option (Stackbd × List Bool) := makeRequest .endIo2

/-- The calls of `blk_mq_end_request` that the completions of the clones lead to, in order. A
completion names a clone and says whether it failed. -/
def endCalls (clones : List Clone) (completions : List (Nat × Bool)) : List Bool :=
  completions.filterMap fun (i, err) => (clones[i]?.bind Clone.endIo).map fun _ => err

variable {β : Type}

/-- `memcpy` of `n` bytes to position `dst` of a buffer. -/
def copyBytes (buf : Nat → β) (dst n : Nat) (src : Nat → β) : Nat → β := fun x =>
  if dst ≤ x ∧ x < dst + n then src (x - dst) else buf x

/-- The loop of `mem_gather` from segment `i` on; `mem k` is the memory that the bio at position
`k` of the chain lies in. Bios of one request do not share memory. -/
def gatherLoop (pageSize : Nat) (mem : Nat → Nat → β) (nrSeg : Nat) :
    Nat → Nat → List Bio → (Nat → β) → Option (Nat → β)
  | i, _, [], buf => if i < nrSeg then none else some buf
  | i, k, b :: rest, buf =>
    if i < nrSeg then
      gatherLoop pageSize mem nrSeg (i + b.physSegments) (k + 1) rest
        (copyBytes buf (i * pageSize) (pageSize * b.physSegments) fun x => mem k (b.data + x))
    else some buf

/-- `mem_gather` -/
def memGather (mem : Nat → Nat → UInt8) (req : Request) (rdmaBuf : Nat → UInt8) :
    Option (Nat → UInt8) :=
  gatherLoop isPageSize mem req.nrPhysSegments 0 0 req.bios rdmaBuf

/-- `stackbd_bio_generate`: the size of the bio that mirrors the buffer to disk. -/
def bioGenerate (req : Request) : Nat := req.nrPhysSegments * isPageSize

end DisStore
