import DisStore.Route

/-!
# RDMA contexts

Every connection of the session has a pool of contexts for every server. A request that is
routed to a slab takes a context from a pool, posts a work request and, for a write, mirrors
its data to the backup disk. The completions of the work request and of the disk, the wait of
`evict_handler` for requests in flight and the scan of `IS_disconnect_handler` all look at the
context. Requests are known by numbers; a request that goes to the disk is the one bio whose
completion ends it. `IS_disconnect_handler` frees the contexts of its server at the end. An
access to freed memory, through a NULL pointer or outside of `chunk_list` is a fault, and nothing
is said of the device from then on.
-/

namespace DisStore

/-- `CTX_IDLE`, `CTX_R_IN_FLIGHT`, `CTX_W_IN_FLIGHT` -/
inductive InFlight where
  | idle | read | write
  deriving DecidableEq

/-- The context at position `slot` of `ctx_pools[cb]->ctx_pool` of connection `queue`. -/
structure CtxId where
  cb : Nat
  queue : Nat
  slot : Nat
  deriving DecidableEq

/-- `struct rdma_ctx`; `chunkPtr` is the slab whose chunk `chunk_ptr` points to. -/
structure RdmaCtx where
  inFlight : InFlight
  req : Option Nat
  chunkIndex : Int
  chunkPtr : Option Nat
  offset : Nat
  len : Nat
  deriving DecidableEq

/-- `struct free_ctx_pool` -/
structure FreeCtxs where
  ctxList : Int → CtxId
  tail : Int

/-- The free contexts of a pool, in the order of `ctx_list`. -/
def FreeCtxs.free (p : FreeCtxs) : List CtxId :=
  (List.range (p.tail + 1).toNat).map fun (i : Nat) => p.ctxList i

/-- `IS_get_ctx` -/
def getCtx (p : FreeCtxs) : Option (CtxId × FreeCtxs) :=
  if p.tail = -1 then none else some (p.ctxList p.tail, { p with tail := p.tail - 1 })

/-- A request that `IS_request` has routed to a slab: the arguments of `IS_transfer_chunk`. -/
structure Transfer where
  req : Nat
  write : Bool
  cb : Nat
  chunkIndex : Nat
  offset : Nat
  len : Nat
  deriving DecidableEq

/-- A work request that is posted and whose completion has not been handled. -/
structure WorkRequest where
  ctx : CtxId
  transfer : Transfer
  deriving DecidableEq

/-- A bio for the backup disk: one of `stackbd_bio_generate`, whose completion is
`IS_stackbd_end_io3`, or one that ends a request. -/
inductive DiskBio where
  | mirror (ctx : CtxId) (req : Nat)
  | request (req : Nat)
  deriving DecidableEq

/-- The server of the context that `bi_private` of the bio points to. -/
def DiskBio.cb : DiskBio → Option Nat
  | .mirror ctx _ => some ctx.cb
  | .request _ => none

/-- `waiting` are the requests that have been routed to a slab and have no context yet,
`ended` the calls of `blk_mq_end_request`, `drains c` and `scans c` the next context that
`evict_handler` and `IS_disconnect_handler` of server `c` look at, `evicted` the slabs that
have been given back with a DONE message, `freed` the servers whose contexts have been freed. -/
structure Device where
  tables : ChunkTables
  pools : Nat × Nat → FreeCtxs
  ctxs : CtxId → RdmaCtx
  waiting : List Transfer
  posted : List WorkRequest
  bios : List DiskBio
  ended : List Nat
  drains : Nat → Option Nat
  scans : Nat → Option Nat
  evicted : Nat × Nat → Bool
  freed : Nat → Bool
  fault : Bool

structure DeviceCfg where
  maxMr : Nat
  submitQueues : Nat
  queueDepth : Nat

/-- `IS_ctx_init` for a pool. -/
def ctxInit (cfg : DeviceCfg) (cb queue : Nat) : FreeCtxs :=
  { ctxList := fun i => ⟨cb, queue, i.toNat⟩
    tail := cfg.queueDepth - 1 }

/-- A context as `IS_ctx_init` leaves it. -/
def rdmaCtxInit : RdmaCtx :=
  { inFlight := .idle
    req := none
    chunkIndex := -1
    chunkPtr := none
    offset := 0
    len := 0 }

/-- A device without requests. -/
def deviceInit (cfg : DeviceCfg) (tables : ChunkTables) : Device :=
  { tables := tables
    pools := fun p => ctxInit cfg p.1 p.2
    ctxs := fun _ => rdmaCtxInit
    waiting := []
    posted := []
    bios := []
    ended := []
    drains := fun _ => none
    scans := fun _ => none
    evicted := fun _ => false
    freed := fun _ => false
    fault := false }

/-- `IS_insert_ctx` -/
def insertCtx (d : Device) (x : CtxId) : Device :=
  let p := d.pools (x.cb, x.queue)
  let p' : FreeCtxs :=
    { ctxList := Function.update p.ctxList (p.tail + 1) x
      tail := p.tail + 1 }
  { d with pools := Function.update d.pools (x.cb, x.queue) p' }

def setCtx (d : Device) (x : CtxId) (c : RdmaCtx) : Device :=
  { d with ctxs := Function.update d.ctxs x c }

/-- `blk_mq_end_request` -/
def endRequest (d : Device) (req : Nat) : Device := { d with ended := d.ended ++ [req] }

/-- `IS_mq_request_stackbd` and `IS_mq_request_stackbd2` -/
def requestStackbd (d : Device) (req : Nat) : Device :=
  { d with bios := d.bios ++ [.request req] }

/-- What `IS_rdma_read` enters in the context. -/
def readCtx (tr : Transfer) (c : RdmaCtx) : RdmaCtx :=
  { c with req := some tr.req, chunkIndex := tr.chunkIndex, inFlight := .read }

/-- What `IS_rdma_write` enters in the context. -/
def writeCtx (tr : Transfer) (_ : RdmaCtx) : RdmaCtx :=
  { inFlight := .write
    req := some tr.req
    chunkIndex := tr.chunkIndex
    chunkPtr := some tr.chunkIndex
    offset := tr.offset
    len := tr.len }

/-- A context is taken from the pool of connection `queue` and filled in. -/
def takeCtx (d : Device) (tr : Transfer) (queue : Nat) (enter : RdmaCtx → RdmaCtx) :
    Option (CtxId × Device) :=
  (getCtx (d.pools (tr.cb, queue))).map fun (x, pool) =>
    (x, { d with
      pools := Function.update d.pools (tr.cb, queue) pool
      ctxs := Function.update d.ctxs x (enter (d.ctxs x)) })

/-- "rdma_off, go to disk": the context is given back. -/
def giveUpCtx (d : Device) (x : CtxId) (req : Nat) : Device :=
  requestStackbd (insertCtx (setCtx d x { d.ctxs x with inFlight := .idle }) x) req

/-- `ib_post_send` and what is done about its result; `true` is an error. -/
def postSend (d : Device) (x : CtxId) (tr : Transfer) (success : Bool) : Device × Bool :=
  if success then ({ d with posted := d.posted ++ [⟨x, tr⟩] }, false) else (d, true)

/-- `IS_rdma_read` when the pool of connection `queue` is looked at; `none` if it is empty and
the loop goes on. -/
def isRdmaRead (d : Device) (tr : Transfer) (queue : Nat) (success : Bool) :
    Option (Device × Bool) := do
  let (x, d) ← takeCtx d tr queue (readCtx tr)
  if d.tables.sess.rdmaOn = false then some (giveUpCtx d x tr.req, false)
  else some (postSend d x tr success)

/-- `IS_rdma_write`; the bio of `stackbd_bio_generate` is queued before the post. -/
def isRdmaWrite (d : Device) (tr : Transfer) (queue : Nat) (success : Bool) :
    Option (Device × Bool) := do
  let (x, d) ← takeCtx d tr queue (writeCtx tr)
  if d.tables.sess.rdmaOn = false then some (giveUpCtx d x tr.req, false)
  else some (postSend { d with bios := d.bios ++ [.mirror x tr.req] } x tr success)

/-- `IS_transfer_chunk` -/
def transferChunk (d : Device) (tr : Transfer) (queue : Nat) (success : Bool) :
    Option (Device × Bool) :=
  if tr.write then isRdmaWrite d tr queue success else isRdmaRead d tr queue success

/-- `client_read_done`; the request of the context is dereferenced. -/
def clientReadDone (d : Device) (x : CtxId) : Option Device :=
  let c := d.ctxs x
  c.req.map fun req =>
    endRequest (insertCtx (setCtx d x { c with inFlight := .idle, chunkIndex := -1, req := none })
      x) req

/-- `client_write_done` -/
def clientWriteDone (d : Device) (x : CtxId) : Device :=
  let c := d.ctxs x
  match c.chunkPtr with
  | none => d
  | some slab =>
    let tables := updateBitmap d.tables x.cb slab fun bitmap =>
      bitmapGroupSet bitmap c.offset c.len
    let d := setCtx { d with tables := tables } x
      { c with inFlight := .idle, chunkIndex := -1, chunkPtr := none, req := none }
    match c.req with
    | none => d
    | some req => endRequest d req

/-- `rdma_cq_event_handler` for the completion of a work request. -/
def cqEvent (d : Device) (wr : WorkRequest) (flushed : Bool) : Option Device :=
  if flushed then some d
  else if wr.transfer.write then some (clientWriteDone d wr.ctx)
  else clientReadDone d wr.ctx

/-- `IS_stackbd_end_io3` for a mirrored write, else `IS_stackbd_end_io` or
`IS_stackbd_end_io2`. -/
def endIo (d : Device) : DiskBio → Device
  | .mirror x _ => insertCtx d x
  | .request req => endRequest d req

/-- The contexts of server `c` in the order of the loops over them. -/
def ctxIds (cfg : DeviceCfg) (c : Nat) : List CtxId :=
  (List.range cfg.submitQueues).flatMap fun i =>
    (List.range cfg.queueDepth).map fun j => ⟨c, i, j⟩

/-- `IS_chunk_wait_in_flight_requests` waits for this context. -/
def drainWaits (d : Device) (x : CtxId) : Bool :=
  decide ((d.ctxs x).inFlight ≠ .idle) &&
    decide ((d.tables.cbs x.cb).chunkMap (d.ctxs x).chunkIndex.toNat = -1)

/-- The loop body of `IS_disconnect_handler` over the contexts. -/
def scanCtx (d : Device) (x : CtxId) : Option Device :=
  let c := d.ctxs x
  match c.inFlight with
  | .read => c.req.map fun req =>
      insertCtx (requestStackbd (setCtx d x { c with inFlight := .idle }) req) x
  | .write =>
    let d := setCtx d x { c with inFlight := .idle }
    match c.req with
    | none => some d
    | some req => some (endRequest d req)
  | .idle => some d

inductive DeviceEvent where
  | route (req : Nat) (r : IoRequest)
  | post (k queue : Nat) (success : Bool)
  | complete (k : Nat) (flushed : Bool)
  | diskDone (k : Nat)
  | unmap (c : Nat) (stop : Message)
  | drain (c : Nat)
  | sendDone (c : Nat)
  | disconnect (c : Nat)
  | scan (c : Nat)
  | forget (c : Nat)

/-- The server whose contexts an event looks at. A flushed work request does not look at its
context. -/
def usedCtxs (cfg : DeviceCfg) (d : Device) : DeviceEvent → Option Nat
  | .post k queue _ => if queue < cfg.submitQueues then d.waiting[k]?.map Transfer.cb else none
  | .complete k flushed => if flushed then none else d.posted[k]?.map fun wr => wr.ctx.cb
  | .diskDone k => d.bios[k]?.bind DiskBio.cb
  | .drain c => ((d.drains c).bind fun k => (ctxIds cfg c)[k]?).map CtxId.cb
  | .scan c => ((d.scans c).bind fun k => (ctxIds cfg c)[k]?).map CtxId.cb
  | .route .. | .unmap .. | .sendDone .. | .disconnect .. | .forget .. => none

/-- What the handler of an event does. -/
def handleEvent (cfg : DeviceCfg) (d : Device) : DeviceEvent → Option Device
  | .route req r =>
    let d := { d with fault := d.fault || outsideChunkList d.tables.sess r }
    match isRequest d.tables r with
    | (t, .disk) => some (requestStackbd { d with tables := t } req)
    | (t, .transfer cb chunkIndex offset) => some { d with
        tables := t
        waiting := d.waiting ++ [⟨req, r.write, cb.toNat, chunkIndex.toNat, offset, r.len⟩] }
  | .post k queue success => do
    let tr ← d.waiting[k]?
    if queue < cfg.submitQueues then
      let (d, err) ← transferChunk { d with waiting := d.waiting.eraseIdx k } tr queue success
      -- `IS_queue_rq` returns the error and the block layer ends the request
      some (if err then endRequest d tr.req else d)
    else none
  | .complete k flushed => do
    let wr ← d.posted[k]?
    cqEvent { d with posted := d.posted.eraseIdx k } wr flushed
  | .diskDone k => do
    let bio ← d.bios[k]?
    some (endIo { d with bios := d.bios.eraseIdx k } bio)
  | .unmap c stop =>
    let cb := clientRecvStop cfg.maxMr { d.tables.cbs c with recvBuf := stop, state := .recvStop }
    if d.drains c = none ∧ cb.shrinkSizeG ≠ 0 then
      let (sess, cb') := unmapMarked cfg.maxMr d.tables.sess cb
      some { d with
        tables := { sess := sess, cbs := Function.update d.tables.cbs c cb' }
        drains := Function.update d.drains c (some 0) }
    else none
  | .drain c => do
    let k ← d.drains c
    let x ← (ctxIds cfg c)[k]?
    some { d with
      drains := Function.update d.drains c (some (if drainWaits d x then 0 else k + 1)) }
  | .sendDone c =>
    if d.drains c = some (ctxIds cfg c).length then
      let cb := d.tables.cbs c
      let (sess, cb') := finishEvict cfg.maxMr cb.shrinkSizeG d.tables.sess cb
      some { d with
        tables := { sess := sess, cbs := Function.update d.tables.cbs c cb' }
        drains := Function.update d.drains c none
        evicted := fun p => decide (p.1 = c ∧ p.2 < cfg.maxMr ∧ cb'.sendBuf.rkey p.2 ≠ 0) ||
          d.evicted p }
    else none
  | .disconnect c =>
    if d.scans c ≠ none then none
    else if d.tables.sess.cbStateList c = .connected then
      some { d with tables := { d.tables with sess := { d.tables.sess with
        cbStateList := Function.update d.tables.sess.cbStateList c .fail } } }
    else
      some { d with
        tables := disallowChunks cfg.maxMr c d.tables
        scans := Function.update d.scans c (some 0) }
  | .scan c => do
    let k ← d.scans c
    let x ← (ctxIds cfg c)[k]?
    scanCtx { d with scans := Function.update d.scans c (some (k + 1)) } x
  | .forget c =>
    if d.scans c = some (ctxIds cfg c).length then
      -- the pools are freed, and `ctx_pools` has zeroed ones in their place
      some { d with
        tables := forgetServer cfg.maxMr c d.tables
        scans := Function.update d.scans c none
        freed := Function.update d.freed c true }
    else none

def deviceStep (cfg : DeviceCfg) (d : Device) (e : DeviceEvent) : Option Device :=
  if (usedCtxs cfg d e).any d.freed then some { d with fault := true } else handleEvent cfg d e

end DisStore
