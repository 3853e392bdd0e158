import DisStore.Message
import DisStore.Lib.Loop

/-!
# The memory daemon

The operations of `infiniswap_daemon/rdma-common.c` on the session: connections, the slab
maps and the counters next to them. Connections live in a heap and are entered in the slot
table `conns`; a slot number and `conn_map` entry are C integers, -1 for none. Every
operation returns the messages it posts, each with the connection it is posted to.
-/

namespace DisStore
open DisStore.Lib

/-- The configurable constants. `MAX_MR_SIZE_GB` and `MAX_FREE_MEM_GB` are one number. -/
structure DaemonConfig where
  maxFreeMemGb : Nat
  maxClient : Nat
  freeMemEvictThreshold : Int
  freeMemExpandThreshold : Int
  thresholds_le : freeMemEvictThreshold ≤ freeMemExpandThreshold

/-- The values of `rdma-common.h` when nothing is configured. -/
def defaultConfig : DaemonConfig :=
  { maxFreeMemGb := 32
    maxClient := 32
    freeMemEvictThreshold := 8
    freeMemExpandThreshold := 16
    thresholds_le := by decide }

/-- A configuration in which both thresholds are 0. -/
def zeroThresholds (maxFreeMemGb maxClient : Nat) : DaemonConfig :=
  { maxFreeMemGb := maxFreeMemGb
    maxClient := maxClient
    freeMemEvictThreshold := 0
    freeMemExpandThreshold := 0
    thresholds_le := le_rfl }

/-- `EXTRA_CHUNK_NUM` -/
def extraChunkNum : Int := 2

inductive ConnState where
  | idle | connected | mapped | failed
  deriving DecidableEq

abbrev ConnId := Nat

structure Connection where
  connIndex : Int
  sessChunkMap : Nat → Int
  mappedChunkSize : Int
  sendMsg : Message
  recvMsg : Message
  evictSem : Nat
  stopSem : Nat

/-- What `ibv_reg_mr` returns for a slab. -/
structure MemRegion where
  addr : Nat
  rkey : Nat

structure DaemonState where
  heap : ConnId → Option Connection
  conns : Int → Option ConnId
  connsState : Int → ConnState
  connNum : Int
  sizeGb : Int
  mappedSize : Int
  connMap : Nat → Int
  mallocMap : Nat → Bool
  running : Bool

abbrev Outbox := List (ConnId × Message)

def DaemonState.updateConn (d : DaemonState) (id : ConnId) (f : Connection → Connection) :
    DaemonState :=
  { d with heap := Function.update d.heap id ((d.heap id).map f) }

/-- `rdma_session_init`, given the free memory of the host in GB. -/
def rdmaSessionInit (cfg : DaemonConfig) (freeMemG : Int) : DaemonState :=
  let freeMemG :=
    if freeMemG > cfg.freeMemExpandThreshold then
      freeMemG - (cfg.freeMemEvictThreshold + cfg.freeMemExpandThreshold).tdiv 2
    else if freeMemG > cfg.freeMemEvictThreshold then freeMemG - cfg.freeMemEvictThreshold
    else 0
  let freeMemG := if freeMemG > cfg.maxFreeMemGb then (cfg.maxFreeMemGb : Int) else freeMemG
  { heap := fun _ => none
    conns := fun _ => none
    connsState := fun _ => .idle
    connNum := 0
    sizeGb := freeMemG
    mappedSize := 0
    connMap := fun _ => -1
    mallocMap := fun i => decide ((i : Int) < freeMemG)
    running := true }

def emptyMessage : Message := ⟨fun _ => 0, fun _ => 0, 0, .query⟩

/-- The first idle slot of the table. -/
def firstIdleSlot (cfg : DaemonConfig) (d : DaemonState) : Option Nat :=
  (List.range cfg.maxClient).find? fun i => decide (d.connsState i = .idle)

/-- `build_connection` for the new connection `id`. The slot number is what `malloc` left in
the field when no slot is idle. -/
def buildConnection (cfg : DaemonConfig) (d : DaemonState) (id : ConnId) (junkIndex : Int)
    (junkMsg : Message) : DaemonState :=
  let conn : Connection :=
    { connIndex := junkIndex
      sessChunkMap := fun _ => -1
      mappedChunkSize := 0
      sendMsg := junkMsg
      recvMsg := junkMsg
      evictSem := 0
      stopSem := 0 }
  match firstIdleSlot cfg d with
  | some i =>
    { d with
      heap := Function.update d.heap id (some { conn with connIndex := i })
      conns := Function.update d.conns i (some id)
      connsState := Function.update d.connsState i .connected
      connNum := d.connNum + 1 }
  | none =>
    { d with
      heap := Function.update d.heap id (some conn)
      connNum := d.connNum + 1 }

/-- `destroy_connection` -/
def destroyConnection (cfg : DaemonConfig) (d : DaemonState) (id : ConnId) :
    Option DaemonState := do
  let conn ← d.heap id
  let d :=
    if conn.mappedChunkSize > 0 then
      { d with
        connMap := fun i =>
          if (List.range cfg.maxFreeMemGb).any fun k => decide (conn.sessChunkMap k = i) then -1
          else d.connMap i
        mappedSize := d.mappedSize - conn.mappedChunkSize }
    else d
  some { d with
    heap := Function.update d.heap id none
    conns := Function.update d.conns conn.connIndex none
    connsState := Function.update d.connsState conn.connIndex .idle
    connNum := d.connNum - 1
    running := if d.connNum - 1 = 0 then false else d.running }

/-- An allocated slab that no connection uses. -/
def DaemonState.freeSlab (d : DaemonState) (i : Nat) : Bool :=
  d.mallocMap i && decide (d.connMap i = -1)

/-- The body of the loops of `send_mr` and `send_single_mr`: slab `i` is given to `id`. -/
def bindSlab (d : DaemonState) (id : ConnId) (connIndex : Int) (mr : Nat → MemRegion) (i : Nat) :
    DaemonState :=
  { d.updateConn id fun c => { c with
      sessChunkMap := Function.update c.sessChunkMap i i
      sendMsg := { c.sendMsg with
        buf := Function.update c.sendMsg.buf i (htonll (mr i).addr)
        rkey := Function.update c.sendMsg.rkey i (htonl (mr i).rkey) } } with
    connMap := Function.update d.connMap i connIndex }

/-- The loop of `send_mr`: free slabs are given to `id` until it has `size` of them. -/
def sendMrLoop (id : ConnId) (connIndex : Int) (mr : Nat → MemRegion) (size : Int)
    (slabs : List Nat) (d : DaemonState) : DaemonState :=
  (takeLoop DaemonState.freeSlab (fun d i => bindSlab d id connIndex mr i) size slabs 0 d).1

/-- The message that `send_message` posts. -/
def sendMessage (d : DaemonState) (id : ConnId) : Outbox :=
  match d.heap id with
  | some conn => [(id, conn.sendMsg)]
  | none => []

/-- `send_mr` -/
def sendMr (cfg : DaemonConfig) (mr : Nat → MemRegion) (d : DaemonState) (id : ConnId)
    (size : Int) : Option (DaemonState × Outbox) := do
  let conn ← d.heap id
  let d := d.updateConn id fun c =>
    { c with sendMsg := { c.sendMsg with sizeGb := size, rkey := fun _ => 0 } }
  let d := sendMrLoop id conn.connIndex mr size (List.range cfg.maxFreeMemGb) d
  let d := { d with mappedSize := d.mappedSize + size }
  let d := d.updateConn id fun c =>
    { c with
      mappedChunkSize := c.mappedChunkSize + size
      sendMsg := { c.sendMsg with type := .info } }
  some (d, sendMessage d id)

/-- `send_single_mr`: the same loop, left after the first slab. -/
def sendSingleMr (cfg : DaemonConfig) (mr : Nat → MemRegion) (d : DaemonState) (id : ConnId)
    (clientChunkIndex : Int) : Option (DaemonState × Outbox) := do
  let conn ← d.heap id
  let d := d.updateConn id fun c =>
    { c with sendMsg := { c.sendMsg with sizeGb := clientChunkIndex, rkey := fun _ => 0 } }
  let d := match (List.range cfg.maxFreeMemGb).find? d.freeSlab with
    | some i => bindSlab d id conn.connIndex mr i
    | none => d
  let d := { d with mappedSize := d.mappedSize + 1 }
  let d := d.updateConn id fun c =>
    { c with
      mappedChunkSize := c.mappedChunkSize + 1
      sendMsg := { c.sendMsg with type := .infoSingle } }
  some (d, sendMessage d id)

/-- `send_free_mem_size` -/
def sendFreeMemSize (d : DaemonState) (id : ConnId) : Option (DaemonState × Outbox) := do
  let _ ← d.heap id
  let d := d.updateConn id fun c =>
    { c with sendMsg := { c.sendMsg with type := .freeSize, sizeGb := d.sizeGb - d.mappedSize } }
  some (d, sendMessage d id)

/-- `send_stop`, up to its wait for `stop_sem`. -/
def sendStop (d : DaemonState) (id : ConnId) (n : Int) : DaemonState × Outbox :=
  let d := d.updateConn id fun c =>
    { c with sendMsg := { c.sendMsg with type := .stop, sizeGb := n } }
  (d, sendMessage d id)

/-- `send_evict` -/
def sendEvict (d : DaemonState) (id : ConnId) (n : Int) : DaemonState × Outbox :=
  let d := d.updateConn id fun c =>
    { c with sendMsg := { c.sendMsg with type := .evict, sizeGb := n, rkey := fun _ => 0 } }
  (d, sendMessage d id)

/-- The slabs flagged in the received message, by the slot of the sender's map. -/
def flaggedSlots (cfg : DaemonConfig) (msg : Message) : List Nat :=
  (List.range cfg.maxFreeMemGb).filter fun i => decide (msg.rkey i ≠ 0)

/-- One flagged slot of `recv_done`. A slot without a slab indexes the tables at -1. -/
def recvDoneSlot (d : DaemonState) (id : ConnId) (i : Nat) : Option DaemonState := do
  let conn ← d.heap id
  let index := conn.sessChunkMap i
  guard (0 ≤ index)
  let d := d.updateConn id fun c =>
    { c with sessChunkMap := Function.update c.sessChunkMap i (-1) }
  some { d with
    connMap := Function.update d.connMap index.toNat (-1)
    mallocMap := Function.update d.mallocMap index.toNat false }

/-- `recv_done` -/
def recvDone (cfg : DaemonConfig) (d : DaemonState) (id : ConnId) : Option DaemonState := do
  let conn ← d.heap id
  let evictG := conn.recvMsg.sizeGb
  let d ← (flaggedSlots cfg conn.recvMsg).foldlM (fun d i => recvDoneSlot d id i) d
  let d := { d with
    sizeGb := d.sizeGb - evictG
    mappedSize := d.mappedSize - evictG }
  let d := d.updateConn id fun c =>
    { c with mappedChunkSize := c.mappedChunkSize - evictG, stopSem := c.stopSem + 1 }
  if conn.mappedChunkSize - evictG = 0 then
    some { d with connsState := Function.update d.connsState conn.connIndex .connected }
  else some d

/-- `on_completion` for a received message. -/
def onRecv (cfg : DaemonConfig) (mr : Nat → MemRegion) (d : DaemonState) (id : ConnId)
    (msg : Message) : Option (DaemonState × Outbox) := do
  let conn ← d.heap id
  let d := d.updateConn id fun c => { c with recvMsg := msg }
  match msg.type with
  | .query => sendFreeMemSize d id
  | .bind =>
    let (d, out) ← sendMr cfg mr d id msg.sizeGb
    some ({ d with connsState := Function.update d.connsState conn.connIndex .mapped }, out)
  | .bindSingle =>
    let (d, out) ← sendSingleMr cfg mr d id msg.sizeGb
    some ({ d with connsState := Function.update d.connsState conn.connIndex .mapped }, out)
  | .activity => some (d.updateConn id fun c => { c with evictSem := c.evictSem + 1 }, [])
  | .done => (recvDone cfg d id).map fun d => (d, [])
  | _ => none

end DisStore
