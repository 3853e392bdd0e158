import DisStore.Device
import DisStore.Lib.Extent

/-!
# The contents of the block device

The device together with what its pages hold: the memory of the requests, `rdma_buf` of the
contexts, the slabs of the servers and the backup disk. A page of the device can have a copy on
the disk and one in the slab of its chunk; the bitmap of the chunk says which one a read uses.
Requests are page-aligned and memory is given by page: the segments of a bio are runs of pages,
a buffer is counted from page 0 on. The disk executes bios in the order of its queue and the
clones of a request together, posts succeed.
-/

namespace DisStore
open Lib

variable {α : Type}

def IoRequest.firstPage (r : IoRequest) : Nat := r.start / isPageSize

def IoRequest.pages (r : IoRequest) : Nat := r.len / isPageSize

def IoRequest.covers (r : IoRequest) (p : Nat) : Prop :=
  r.firstPage ≤ p ∧ p < r.firstPage + r.pages

def IoRequest.extent (r : IoRequest) (data : Nat → α) : Extent α := ⟨r.firstPage, r.pages, data⟩

/-- Page `j` of the data of a request; `mem k` is the memory of the bio at position `k`. -/
def requestPage (mem : Nat → Nat → α) (req : Request) (j : Nat) : α :=
  let place := (places Bio.addresses 0 req.bios).getD j (0, 0)
  mem place.1 place.2

/-- The pages of a request are filled from the disk. -/
def fillPages (mem : Nat → Nat → α) (req : Request) (content : Nat → α) : Nat → Nat → α :=
  fun k addr =>
    let j := (places Bio.addresses 0 req.bios).idxOf (k, addr)
    if j < req.bytes then content j else mem k addr

/-- The `memcpy` of `client_read_done`: one page, to `bio_data` of the first bio. -/
def fillFirst (mem : Nat → Nat → α) (req : Request) (content : α) : Nat → Nat → α :=
  Function.update mem 0 (Function.update (mem 0) (req.bios.head req.bios_ne).data content)

/-- Requests are numbered in the order of their arrival, `submitted` is the next number; `chains`
are their bios and `mem` the memory that the bios lie in. `executed` are the work requests whose
bytes have been copied, `bound` says for which chunk a slab is bound to this device, `failed` are
the servers that have been disconnected, `remaps c` the evicted chunks that `evict_handler` of
server `c` has not forgotten yet. -/
structure PageStore (α : Type) where
  dev : Device
  submitted : Nat
  reqs : Nat → IoRequest
  chains : Nat → Request
  mem : Nat → Nat → Nat → α
  bufs : CtxId → Nat → α
  slabs : Nat × Nat → Nat → α
  disk : Nat → α
  executed : WorkRequest → Bool
  bound : Nat × Nat → Option Int
  failed : Nat → Bool
  remaps : Nat → List Nat
  history : List (Completion α)

/-- The data of a request. -/
def PageStore.data (s : PageStore α) (q : Nat) : Nat → α := requestPage (s.mem q) (s.chains q)

/-- A request as it is completed. -/
def completion (s : PageStore α) (q : Nat) : Completion α :=
  ⟨(s.reqs q).extent (s.data q), (s.reqs q).write⟩

/-- The requests that the device has ended in a step are entered in the history. -/
def finish (s : PageStore α) (d : Device) : PageStore α :=
  { s with
    dev := d
    history := s.history ++ (d.ended.drop s.dev.ended.length).map (completion s) }

/-- `mem_gather` -/
def gatherPages (s : PageStore α) (tr : Transfer) (x : CtxId) : Option (CtxId → Nat → α) :=
  let req := s.chains tr.req
  (gatherLoop 1 (s.mem tr.req) req.nrPhysSegments 0 0 req.bios (s.bufs x)).map
    (Function.update s.bufs x)

/-- The buffers when a work request is posted, or not because of `rdma_on`. -/
def postBufs (s : PageStore α) (tr : Transfer) (x : CtxId) : Option (CtxId → Nat → α) :=
  if tr.write && s.dev.tables.sess.rdmaOn then gatherPages s tr x else some s.bufs

/-- The work request is executed: the bytes are copied from `rdma_buf` to the slab or back. -/
def rdmaExecute (s : PageStore α) (wr : WorkRequest) : PageStore α :=
  let slab := (wr.transfer.cb, wr.transfer.chunkIndex)
  let page := wr.transfer.offset / isPageSize
  let n := wr.transfer.len / isPageSize
  let s := { s with executed := Function.update s.executed wr true }
  if wr.transfer.write then
    { s with
      slabs := Function.update s.slabs slab
        (Extent.write ⟨page, n, s.bufs wr.ctx⟩ (s.slabs slab)) }
  else
    { s with
      bufs := Function.update s.bufs wr.ctx
        (Extent.write ⟨0, n, fun j => s.slabs slab (page + j)⟩ (s.bufs wr.ctx)) }

/-- What `client_read_done` leaves in the memory of the requests. -/
def copyReadPage (s : PageStore α) (x : CtxId) : Nat → Nat → Nat → α :=
  match (s.dev.ctxs x).req with
  | none => s.mem
  | some q => Function.update s.mem q (fillFirst (s.mem q) (s.chains q) (s.bufs x 0))

/-- The backup disk executes a bio: the mirrored buffer of a context, of which
`stackbd_bio_generate` takes a page for each segment, or a whole request. -/
def executeBio (s : PageStore α) : DiskBio → PageStore α
  | .mirror x q => { s with
      disk := Extent.write ⟨(s.reqs q).firstPage, (s.chains q).nrPhysSegments, s.bufs x⟩ s.disk }
  | .request q =>
    let r := s.reqs q
    if r.write then { s with disk := (r.extent (s.data q)).write s.disk }
    else
      { s with
        mem := Function.update s.mem q
          (fillPages (s.mem q) (s.chains q) fun j => s.disk (r.firstPage + j)) }

/-- `transfer` is the network, `bind` a received INFO_SINGLE with the content that the slab
has, `mapped` the end of `IS_single_chunk_map`, `remap` an iteration of the last loop of
`evict_handler`, `foreign` a write to a slab by its server or another device. -/
inductive PageEvent (α : Type) where
  | route (r : IoRequest) (req : Request) (mem : Nat → Nat → α)
  | post (k queue : Nat)
  | transfer (k : Nat)
  | complete (k : Nat) (flushed : Bool)
  | diskDone
  | connect (c : Nat)
  | bind (c : Nat) (msg : Message) (content : Nat → α)
  | mapped
  | unmap (c : Nat) (stop : Message)
  | drain (c : Nat)
  | sendDone (c : Nat)
  | remap (c : Nat)
  | disconnect (c : Nat)
  | scan (c : Nat)
  | forget (c : Nat)
  | foreign (slab : Nat × Nat) (page : Nat) (content : α)

def setTables (s : PageStore α) (tables : ChunkTables) : PageStore α :=
  { s with dev := { s.dev with tables := tables } }

def setSession (s : PageStore α) (sess : Session) : PageStore α :=
  setTables s { s.dev.tables with sess := sess }

/-- What the handler of an event does. -/
def handlePageEvent (cfg : DeviceCfg) (capacityG : Nat) (s : PageStore α) :
    PageEvent α → Option (PageStore α)
  | .route r req mem =>
    (deviceStep cfg s.dev (.route s.submitted r)).map fun d =>
      { s with
        dev := d
        submitted := s.submitted + 1
        reqs := Function.update s.reqs s.submitted r
        chains := Function.update s.chains s.submitted req
        mem := Function.update s.mem s.submitted mem }
  | .post k queue => do
    let d ← deviceStep cfg s.dev (.post k queue true)
    if d.fault then some { s with dev := d }
    else
      let tr ← s.dev.waiting[k]?
      let (x, _) ← getCtx (s.dev.pools (tr.cb, queue))
      let bufs ← postBufs s tr x
      some { s with
        dev := d
        bufs := bufs
        executed := Function.update s.executed ⟨x, tr⟩ false }
  | .transfer k => do
    let wr ← s.dev.posted[k]?
    if s.executed wr then none else some (rdmaExecute s wr)
  | .complete k flushed => do
    let wr ← s.dev.posted[k]?
    let d ← deviceStep cfg s.dev (.complete k flushed)
    if flushed then some { s with dev := d }
    else if s.executed wr = false then none
    else if wr.transfer.write then some (finish s d)
    else some (finish { s with mem := copyReadPage s wr.ctx } d)
  | .diskDone => do
    let bio ← s.dev.bios[0]?
    let d ← deviceStep cfg s.dev (.diskDone 0)
    some (finish (executeBio s bio) d)
  | .connect c =>
    if s.dev.tables.sess.cbStateList c = .idle then
      some (setSession s { s.dev.tables.sess with
        cbStateList := Function.update s.dev.tables.sess.cbStateList c .connected })
    else none
  | .bind c msg content =>
    let s' := setTables s (recvInfoSingle cfg.maxMr s.dev.tables c msg)
    match grantedSlab cfg.maxMr msg with
    | none => some s'
    | some i => some { s' with
        slabs := Function.update s.slabs (c, i) content
        bound := Function.update s.bound (c, i) (some msg.sizeGb) }
  | .mapped => some (setSession s { s.dev.tables.sess with rdmaOn := true })
  | .unmap c stop =>
    if s.remaps c = [] then
      let cb := clientRecvStop cfg.maxMr
        { s.dev.tables.cbs c with recvBuf := stop, state := .recvStop }
      (deviceStep cfg s.dev (.unmap c stop)).map fun d =>
        { s with
          dev := d
          remaps := Function.update s.remaps c
            (evictedChunks capacityG (markedChunks cfg.maxMr cb)) }
    else none
  | .drain c => (deviceStep cfg s.dev (.drain c)).map fun d => { s with dev := d }
  | .sendDone c =>
    (deviceStep cfg s.dev (.sendDone c)).map fun d =>
      { s with
        dev := d
        bound := fun p =>
          if p.1 = c ∧ p.2 < cfg.maxMr ∧ (s.dev.tables.cbs c).sendBuf.rkey p.2 ≠ 0 then none
          else s.bound p }
  | .remap c =>
    if s.dev.drains c = none then
      match s.remaps c with
      | [] => none
      | g :: rest => some { setSession s (forgetChunk s.dev.tables.sess g) with
          remaps := Function.update s.remaps c rest }
    else none
  | .disconnect c =>
    (deviceStep cfg s.dev (.disconnect c)).map fun d =>
      { s with
        dev := d
        failed := Function.update s.failed c true
        bound := fun p => if p.1 = c then none else s.bound p }
  | .scan c => (deviceStep cfg s.dev (.scan c)).map (finish s)
  | .forget c => (deviceStep cfg s.dev (.forget c)).map fun d => { s with dev := d }
  | .foreign slab page content =>
    some { s with
      slabs := Function.update s.slabs slab (Function.update (s.slabs slab) page content) }

end DisStore
