import DisStore.Evict
import DisStore.EvictHandler

/-!
# Block devices and their daemon

Any number of block devices, each with a connection to one daemon over a pair of FIFO
channels. On the side of the block device the handler of received messages and the two
sections of `evict_handler` between its waits are atomic, on the side of the daemon the
handler of received messages and the sections of `evict_mem` between its semaphores. A round
of `evict_mem` asks any connections, and tells each of them to stop using any of the slabs
that the connection has reported.
-/

namespace DisStore

/-- The two waits of `evict_handler`. -/
inductive HandlerWait where
  | evict | stop
  deriving DecidableEq

/-- Where the round of `evict_mem` stands for a connection; `reported` are the slabs of the
ACTIVITY message. -/
inductive PeerRound where
  | idle | asked
  | reported (slabs : Nat → Bool)
  | awaitDone

/-- A connection: the session and the control block of the block device, its `evict_handler`
and the channels. -/
structure Peer where
  sess : Session
  cb : ControlBlock
  waits : HandlerWait
  toDaemon : List Message
  toClient : List Message
  round : PeerRound

/-- `evict_handler` waits on a connection that has been established. -/
def peerInit (sess : Session) : Peer :=
  { sess := sess
    cb := { kernelCbInit with state := .connected }
    waits := .evict
    toDaemon := []
    toClient := []
    round := .idle }

structure Protocol where
  daemon : DaemonState
  peers : ConnId → Peer

structure ProtocolCfg where
  daemon : DaemonConfig
  capacityG : Nat
  cbIndex : Nat

/-- The daemon after `rdma_session_init`, without connections. -/
def protocolInit (cfg : ProtocolCfg) (freeMemG : Int) : Protocol :=
  { daemon := rdmaSessionInit cfg.daemon freeMemG
    peers := fun _ => peerInit (sessionCreate cfg.capacityG) }

/-- The messages of an outbox to one connection. -/
def outboxTo (out : Outbox) (k : ConnId) : List Message :=
  (out.filter fun p => decide (p.1 = k)).map Prod.snd

/-- The block device posts the message in its send buffer. -/
def Peer.post (p : Peer) (cb : ControlBlock) : Peer :=
  { p with cb := cb, toDaemon := p.toDaemon ++ [cb.sendBuf] }

/-- The daemon's messages enter the channel to the block device. -/
def Peer.deliver (p : Peer) (msgs : List Message) : Peer :=
  { p with toClient := p.toClient ++ msgs }

/-- `evict_handler` when it sees EVICT: ACTIVITY is sent. -/
def Peer.observeEvict (maxMr : Nat) (p : Peer) : Option Peer :=
  if p.waits = .evict ∧ p.cb.cState = .evict then
    some { p.post (sendActivity maxMr p.sess p.cb) with waits := .stop }
  else none

/-- `evict_handler` when it sees STOP: the marked slabs are unmapped and DONE is sent, unless
the size is zero. -/
def Peer.observeStop (cfg : ProtocolCfg) (p : Peer) : Option Peer :=
  let maxMr := cfg.daemon.maxFreeMemGb
  if p.waits = .stop ∧ p.cb.cState = .stop then
    if p.cb.shrinkSizeG = 0 then
      some { p with cb := { p.cb with cState := .ready }, waits := .evict }
    else
      let evictList := fun x => (markedSlabs maxMr p.cb).any fun i => decide (p.cb.chunkMap i = x)
      let (sess, cb) := unmapMarked maxMr p.sess p.cb
      let (sess, cb) := finishEvict maxMr p.cb.shrinkSizeG sess cb
      let sess := forgetEvicted cfg.capacityG evictList sess
      some { p.post cb with
        sess := { sess with triggerOn := true }
        cb := { cb with cState := .ready }
        waits := .evict }
  else none

/-- The round of a connection after its ACTIVITY message has been received. -/
def roundAfter (msg : Message) (r : PeerRound) : PeerRound :=
  match msg.type with
  | .activity => .reported fun i => decide (msg.buf i ≠ 0)
  | _ => r

inductive ProtocolEvent where
  | connect (id : ConnId) (junkIndex : Int) (junkMsg : Message) (sess : Session)
  | established (id : ConnId)
  | query (id : ConnId)
  | bind (id : ConnId) (chunk : Nat)
  | serve (id : ConnId) (mr : Nat → MemRegion)
  | receive (id : ConnId)
  | observeEvict (id : ConnId)
  | observeStop (id : ConnId)
  | evict (id : ConnId) (n : Int)
  | stop (id : ConnId) (n : Int) (rkey : Nat → Nat)
  | finish (id : ConnId)
  | freeForEvict (lastFreeMemG : Int)
  | expand (lastFreeMemG : Int)

def setPeer (s : Protocol) (id : ConnId) (p : Peer) : Protocol :=
  { s with peers := Function.update s.peers id p }

def protocolStep (cfg : ProtocolCfg) (s : Protocol) : ProtocolEvent → Option Protocol
  | .connect id junkIndex junkMsg sess => do
    let d ← daemonStep cfg.daemon s.daemon (.connect id junkIndex junkMsg)
    some (setPeer { s with daemon := d } id (peerInit sess))
  | .established id => do
    let (d, out) ← sendFreeMemSize s.daemon id
    some (setPeer { s with daemon := d } id ((s.peers id).deliver (outboxTo out id)))
  | .query id => do
    let _ ← s.daemon.heap id
    some (setPeer s id ((s.peers id).post (sendQuery (s.peers id).cb)))
  | .bind id chunk => do
    let _ ← s.daemon.heap id
    some (setPeer s id ((s.peers id).post (sendBindSingle (s.peers id).cb chunk)))
  | .serve id mr =>
    match (s.peers id).toDaemon with
    | [] => none
    | msg :: rest => do
      let (d, out) ← onRecv cfg.daemon mr s.daemon id msg
      let p := { s.peers id with
        toDaemon := rest
        round := roundAfter msg (s.peers id).round }
      some (setPeer { s with daemon := d } id (p.deliver (outboxTo out id)))
  | .receive id => do
    let _ ← s.daemon.heap id
    match (s.peers id).toClient with
    | [] => none
    | msg :: rest =>
      let (sess, cb) := cqRecv cfg.daemon.maxFreeMemGb cfg.cbIndex (s.peers id).sess
        (s.peers id).cb msg
      some (setPeer s id { s.peers id with sess := sess, cb := cb, toClient := rest })
  | .observeEvict id => do
    let _ ← s.daemon.heap id
    let p ← (s.peers id).observeEvict cfg.daemon.maxFreeMemGb
    some (setPeer s id p)
  | .observeStop id => do
    let _ ← s.daemon.heap id
    let p ← (s.peers id).observeStop cfg
    some (setPeer s id p)
  | .evict id n => do
    let _ ← s.daemon.heap id
    match (s.peers id).round with
    | .idle =>
      let (d, out) := sendEvict s.daemon id n
      let p := { s.peers id with round := .asked }
      some (setPeer { s with daemon := d } id (p.deliver (outboxTo out id)))
    | _ => none
  | .stop id n rkey => do
    let _ ← s.daemon.heap id
    match (s.peers id).round with
    | .reported _ =>
      let d := s.daemon.updateConn id fun c => { c with sendMsg := { c.sendMsg with rkey := rkey } }
      let (d, out) := sendStop d id n
      let p := { s.peers id with round := if n = 0 then .idle else .awaitDone }
      some (setPeer { s with daemon := d } id (p.deliver (outboxTo out id)))
    | _ => none
  | .finish id =>
    match (s.peers id).round with
    | .awaitDone => do
      let d ← daemonStep cfg.daemon s.daemon (.awaitStop id)
      some (setPeer { s with daemon := d } id { s.peers id with round := .idle })
    | _ => none
  | .freeForEvict lastFreeMemG => do
    let d ← daemonStep cfg.daemon s.daemon (.freeForEvict lastFreeMemG)
    some { s with daemon := d }
  | .expand lastFreeMemG => do
    let d ← daemonStep cfg.daemon s.daemon (.expand lastFreeMemG)
    some { s with daemon := d }

end DisStore
