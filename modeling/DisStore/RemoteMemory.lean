import DisStore.Device
import DisStore.Registration
import DisStore.Lib.Extent

/-!
# RDMA to the slabs

A request that is routed to a slab waits for a context. `IS_rdma_read` and `IS_rdma_write` post a
work request with the key and the address of the slab, and a write is mirrored to the backup disk,
whose completion gives the context back. The network card at the daemon executes the work requests
of a connection in the order of their posting, and admits one if it lies in a registered region and
carries its key. `evict_handler` sends DONE when no context in flight is for an unmapped slab.
Memory that is not registered may change in any way: the daemon frees and allocates it.
-/

namespace DisStore
open Lib

/-- A request that `IS_request` has routed to a slab; `data` are the bytes of a write. -/
structure SlabTransfer (α : Type) extends Transfer where
  data : Nat → α

/-- `rdma_sq_wr` of the context `ctx`; the extent is the remote addresses. -/
structure RdmaWr (α : Type) extends Extent α where
  ctx : Nat
  write : Bool
  chunkIndex : Nat
  rkey : Nat

/-- The contexts that a block device has for its connection to the daemon, and their users.
`waiting` are the requests that have no context yet, `posted` the work requests that the network
card has not executed, `executed` those whose completion has not been handled, `bios` the contexts
of the bios of `stackbd_bio_generate`. -/
structure SendQueue (α : Type) where
  ctxs : Nat → RdmaCtx
  free : List Nat
  waiting : List (SlabTransfer α)
  posted : List (RdmaWr α)
  executed : List (RdmaWr α)
  bios : List Nat

/-- `IS_rdma_read` and `IS_rdma_write` with the free context `x`. The bio of a write is queued
before the post, and a post that fails leaves the context in flight. -/
def SendQueue.post {α : Type} (q : SendQueue α) (cb : ControlBlock) (tr : SlabTransfer α) (x : Nat)
    (success : Bool) : SendQueue α :=
  let enter := if tr.write then writeCtx tr.toTransfer else readCtx tr.toTransfer
  let chunk := cb.chunkList tr.chunkIndex
  let wr : RdmaWr α :=
    { first := chunk.remoteAddr + tr.offset
      pages := tr.len
      data := tr.data
      ctx := x
      write := tr.write
      chunkIndex := tr.chunkIndex
      rkey := chunk.remoteRkey }
  { q with
    ctxs := Function.update q.ctxs x (enter (q.ctxs x))
    free := q.free.erase x
    posted := if success then q.posted ++ [wr] else q.posted
    bios := if tr.write then q.bios ++ [x] else q.bios }

/-- `client_read_done` and `client_write_done` -/
def SendQueue.complete {α : Type} (q : SendQueue α) (wr : RdmaWr α) : SendQueue α :=
  let c := { q.ctxs wr.ctx with inFlight := .idle, chunkIndex := -1, req := none }
  if wr.write then
    if (q.ctxs wr.ctx).chunkPtr = none then q
    else { q with ctxs := Function.update q.ctxs wr.ctx { c with chunkPtr := none } }
  else
    { q with
      ctxs := Function.update q.ctxs wr.ctx c
      free := q.free ++ [wr.ctx] }

/-- The work requests whose completion has not been handled. -/
def SendQueue.outstanding {α : Type} (q : SendQueue α) : List (RdmaWr α) := q.executed ++ q.posted

/-- `IS_chunk_wait_in_flight_requests` comes to its end. -/
def SendQueue.drained {α : Type} (q : SendQueue α) (depth : Nat) (cb : ControlBlock) : Bool :=
  (List.range depth).all fun x =>
    decide ((q.ctxs x).inFlight = .idle ∨ cb.chunkMap (q.ctxs x).chunkIndex.toNat ≠ -1)

/-- Block devices, daemon and the memory of the daemon's host. `faults` counts the work requests
that the network card has refused. `written` is not in the source: what a block device has written
to a slab, by address, since it has mapped the slab. -/
structure RemoteMemory (α : Type) where
  registered : Registered
  memory : Nat → α
  queues : ConnId → SendQueue α
  faults : Nat
  written : ConnId → Nat → Nat → Option α

/-- The region of a slab contains `len` bytes from `addr` on. -/
def MemRegion.contains (r : MemRegion) (addr len : Nat) : Prop :=
  r.addr ≤ addr ∧ addr + len ≤ r.addr + oneGb

instance (r : MemRegion) (addr len : Nat) : Decidable (r.contains addr len) :=
  inferInstanceAs (Decidable (_ ∧ _))

/-- What the network card checks. -/
def admitted (maxMr : Nat) (mrList : Nat → Option MemRegion) (rkey addr len : Nat) : Bool :=
  (List.range maxMr).any fun i =>
    (mrList i).any fun r => decide (r.rkey = rkey ∧ r.contains addr len)

/-- `route` is `IS_request`, `post` the end of the wait for a context, `complete` the handling of
a completion and `diskDone` that of a mirrored bio. -/
inductive RemoteEvent (α : Type) where
  | protocol (e : ProtocolEvent)
  | route (id : ConnId) (tr : SlabTransfer α)
  | post (id : ConnId) (k x : Nat) (success : Bool)
  | execute (id : ConnId)
  | complete (id : ConnId)
  | diskDone (id : ConnId) (k : Nat)
  | host (addr : Nat) (v : α)

/-- `evict_handler` has waited for the requests in flight before it sends DONE. -/
def waitOver {α : Type} (depth : Nat) (s : RemoteMemory α) (proto : Protocol) :
    ProtocolEvent → Bool
  | .observeStop id => decide ((s.registered.proto.peers id).cb.shrinkSizeG = 0) ||
      (s.queues id).drained depth (proto.peers id).cb
  | _ => true

/-- What has been written to the slabs that are mapped. -/
def keepMapped {α : Type} (proto : Protocol) (written : ConnId → Nat → Nat → Option α) :
    ConnId → Nat → Nat → Option α := fun id i addr =>
  if (proto.peers id).cb.chunkMap i = -1 then none else written id i addr

def RdmaWr.record {α : Type} (w : RdmaWr α) (written : Nat → Option α) : Nat → Option α :=
  fun addr => if w.covers addr then some (w.data (addr - w.first)) else written addr

def RemoteMemory.setQueue {α : Type} (s : RemoteMemory α) (id : ConnId) (q : SendQueue α) :
    RemoteMemory α :=
  { s with queues := Function.update s.queues id q }

/-- The network card executes a work request that it has admitted. -/
def RemoteMemory.access {α : Type} (s : RemoteMemory α) (id : ConnId) (wr : RdmaWr α) :
    RemoteMemory α :=
  if wr.write then
    { s with
      memory := wr.toExtent.write s.memory
      written := Function.update s.written id
        (Function.update (s.written id) wr.chunkIndex
          (wr.record (s.written id wr.chunkIndex))) }
  else s

def remoteStep {α : Type} (cfg : ProtocolCfg) (depth : Nat) (s : RemoteMemory α) :
    RemoteEvent α → Option (RemoteMemory α)
  | .protocol e => do
    let registered ← registeredStep cfg s.registered e
    if waitOver depth s registered.proto e then
      some { s with
        registered := registered
        written := keepMapped registered.proto s.written }
    else none
  | .route id tr => do
    let _ ← s.registered.proto.daemon.heap id
    if tr.chunkIndex < cfg.daemon.maxFreeMemGb ∧
        (s.registered.proto.peers id).cb.chunkMap tr.chunkIndex ≠ -1 then
      some (s.setQueue id { s.queues id with waiting := (s.queues id).waiting ++ [tr] })
    else none
  | .post id k x success => do
    let tr ← (s.queues id).waiting[k]?
    if x ∈ (s.queues id).free then
      let q := { s.queues id with waiting := (s.queues id).waiting.eraseIdx k }
      some (s.setQueue id (q.post (s.registered.proto.peers id).cb tr x success))
    else none
  | .execute id =>
    match (s.queues id).posted with
    | [] => none
    | wr :: rest =>
      let q := { s.queues id with posted := rest }
      if admitted cfg.daemon.maxFreeMemGb s.registered.mrList wr.rkey wr.first wr.pages then
        some ((s.access id wr).setQueue id { q with executed := q.executed ++ [wr] })
      else some { s.setQueue id q with faults := s.faults + 1 }
  | .complete id =>
    match (s.queues id).executed with
    | [] => none
    | wr :: rest => some (s.setQueue id ({ s.queues id with executed := rest }.complete wr))
  | .diskDone id k => do
    let x ← (s.queues id).bios[k]?
    some (s.setQueue id { s.queues id with
      free := (s.queues id).free ++ [x]
      bios := (s.queues id).bios.eraseIdx k })
  | .host addr v => some { s with memory := Function.update s.memory addr v }

end DisStore
