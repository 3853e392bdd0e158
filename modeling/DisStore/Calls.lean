import DisStore.Protocol

/-!
# Threads that bind chunks

The threads of the block devices in `IS_single_chunk_map`, over the channels to one daemon. A
call is cut at its two waits, for FREE_SIZE and for INFO_SINGLE, and any number of threads of a
block device may be in the call: `rdma_trigger`, the eviction handlers and the disconnect
handlers. A thread that has read the free memory of this daemon may choose another server. The
daemon, the channels and the evictions are those of the protocol.
-/

namespace DisStore

abbrev CallerId := Nat

/-- Where a thread stands in `IS_single_chunk_map`. `connecting` waits for the FREE_SIZE that
the daemon sends unasked, `awaitFree` for the answer to QUERY. -/
inductive BindCall where
  | idle
  | connecting (chunk : Nat)
  | awaitFree (chunk : Nat)
  | chosen (chunk : Nat) (freeMem : Int)
  | awaitInfo (chunk : Nat)
  deriving DecidableEq

structure BindSystem where
  proto : Protocol
  calls : ConnId → CallerId → BindCall

def bindSystemInit (cfg : ProtocolCfg) (freeMemG : Int) : BindSystem :=
  { proto := protocolInit cfg freeMemG
    calls := fun _ _ => .idle }

def setCall (s : BindSystem) (id : ConnId) (t : CallerId) (call : BindCall) : BindSystem :=
  { s with calls := Function.update s.calls id (Function.update (s.calls id) t call) }

inductive BindEvent where
  | connect (id : ConnId) (t : CallerId) (chunk : Nat) (junkIndex : Int) (junkMsg : Message)
      (sess : Session)
  | query (id : ConnId) (t : CallerId) (chunk : Nat)
  | consumeFree (id : ConnId) (t : CallerId)
  | skip (id : ConnId) (t : CallerId)
  | bind (id : ConnId) (t : CallerId)
  | finish (id : ConnId) (t : CallerId)
  | other (e : ProtocolEvent)

/-- The connection and the requests are made by a thread in the call. -/
def ProtocolEvent.byCall : ProtocolEvent → Bool
  | .connect _ _ _ _ | .query _ | .bind _ _ => true
  | _ => false

/-- A step of the channels and of the daemon. -/
def protoStep (cfg : ProtocolCfg) (s : BindSystem) (e : ProtocolEvent) : Option BindSystem := do
  let proto ← protocolStep cfg s.proto e
  some { s with proto := proto }

/-- FREE_SIZE is consumed: the thread goes on with the free memory of the server. -/
def Peer.afterFreeMem (p : Peer) : Peer :=
  { p with cb := { p.cb with state := .afterFreeMem } }

/-- A server that a connection has been set up to. -/
def Peer.nowConnected (cbIndex : Nat) (p : Peer) : Peer :=
  { p with sess := { p.sess with
      cbStateList := Function.update p.sess.cbStateList cbIndex .connected } }

/-- A connected server that is chosen becomes one of the mapped servers. -/
def Peer.countMapped (cbIndex : Nat) (p : Peer) : Peer :=
  if p.sess.cbStateList cbIndex = .connected then
    { p with sess := { p.sess with mappedCbNum := p.sess.mappedCbNum + 1 } }
  else p

/-- `rdma_on` is set at the end of the call. -/
def Peer.switchOn (p : Peer) : Peer :=
  { p with sess := { p.sess with rdmaOn := true } }

def bindSystemStep (cfg : ProtocolCfg) (s : BindSystem) : BindEvent → Option BindSystem
  | .connect id t chunk junkIndex junkMsg sess =>
    if s.calls id t = .idle ∧ sess.cbStateList cfg.cbIndex = .idle then do
      let s ← protoStep cfg s (.connect id junkIndex junkMsg sess)
      some (setCall s id t (.connecting chunk))
    else none
  | .query id t chunk =>
    if s.calls id t = .idle ∧ (s.proto.peers id).sess.cbStateList cfg.cbIndex ≠ .idle then do
      let s ← protoStep cfg s (.query id)
      some (setCall s id t (.awaitFree chunk))
    else none
  | .consumeFree id t =>
    let p := s.proto.peers id
    if p.cb.state = .freeMemRecv then
      match s.calls id t with
      | .connecting chunk =>
        some (setCall { s with proto := setPeer s.proto id (p.afterFreeMem.nowConnected cfg.cbIndex) }
          id t (.chosen chunk p.cb.targetSizeG))
      | .awaitFree chunk =>
        some (setCall { s with proto := setPeer s.proto id p.afterFreeMem }
          id t (.chosen chunk p.cb.targetSizeG))
      | _ => none
    else none
  | .skip id t =>
    match s.calls id t with
    | .chosen _ _ => some (setCall s id t .idle)
    | _ => none
  | .bind id t =>
    match s.calls id t with
    | .chosen chunk freeMem =>
      if freeMem = 0 then none
      else do
        let p := (s.proto.peers id).countMapped cfg.cbIndex
        let s ← protoStep cfg { s with proto := setPeer s.proto id p } (.bind id chunk)
        some (setCall s id t (.awaitInfo chunk))
    | _ => none
  | .finish id t =>
    let p := s.proto.peers id
    match s.calls id t with
    | .awaitInfo _ =>
      if p.cb.state = .waitOps then
        some (setCall { s with proto := setPeer s.proto id p.switchOn } id t .idle)
      else none
    | _ => none
  | .other e => if e.byCall then none else protoStep cfg s e

end DisStore
