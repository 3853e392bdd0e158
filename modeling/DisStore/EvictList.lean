import DisStore.Activity
import DisStore.Protocol

/-!
# The eviction list of a call of evict_mem

One call of `evict_mem` from its start to its sort, between the steps of the other threads of
the daemon and of the block devices. A section of the call ends at its next wait for
`evict_sem`: the first one frees unmapped slabs, selects connections, sums up the length of
`evict_list` and posts the EVICT messages, each of the others stores the report of one
connection. A connection whose report has been received takes no message until `evict_mem`
posts its next receive. `evict_handler` may be delayed between the wait that ends with EVICT
and the sending of ACTIVITY.
-/

namespace DisStore

/-- What the first section computes: the number of slabs to evict, the length of `evict_list`
and the selected connections. -/
structure EvictPlan where
  evictG : Int
  total : Int
  sendList : Int → Int

/-- Where the call stands: the slots whose reports are still to be stored, and the entries of
`evict_list` in the order in which they are stored. -/
inductive EvictPc where
  | idle
  | collecting (plan : EvictPlan) (remaining : List Nat) (stored : List ChunkActivity)
  | sorted (plan : EvictPlan) (stored : List ChunkActivity)

/-- `posted` are the connections with a posted receive, `sending` those whose `evict_handler`
has seen EVICT and is about to send ACTIVITY. -/
structure EvictSystem where
  proto : Protocol
  posted : ConnId → Bool
  sending : ConnId → Bool
  pc : EvictPc

def evictSystemInit (cfg : ProtocolCfg) (freeMemG : Int) : EvictSystem :=
  { proto := protocolInit cfg freeMemG
    posted := fun _ => false
    sending := fun _ => false
    pc := .idle }

/-- `send_evict` to the connections of the slots. -/
def askSlots (cfg : ProtocolCfg) (n : Int) : List Nat → Protocol → Option Protocol
  | [], s => some s
  | i :: rest, s => do
    let id ← s.daemon.conns i
    let s ← protocolStep cfg s (.evict id n)
    askSlots cfg n rest s

/-- The first section of `evict_mem`. -/
def beginEvict (cfg : ProtocolCfg) (rand : Nat → Nat) (stopG : Int) (s : EvictSystem) :
    Option EvictSystem :=
  match freeUnmapped cfg.daemon s.proto.daemon stopG with
  | (d, none) => some { s with proto := { s.proto with daemon := d } }
  | (d, some evictG) => do
    let (evictG, sendList) ← selectTargets cfg.daemon d rand evictG
    let asked := askedSlots cfg.daemon sendList
    let total ← totalChunks d asked
    let proto ← askSlots cfg evictG asked { s.proto with daemon := d }
    some { s with proto := proto, pc := .collecting ⟨evictG, total, sendList⟩ asked [] }

/-- The report of the next connection is stored, once it has arrived. -/
def collectReport (cfg : ProtocolCfg) (s : EvictSystem) : Option EvictSystem :=
  match s.pc with
  | .collecting plan (i :: rest) stored => do
    let id ← s.proto.daemon.conns i
    let (d, entries) ← collectActivity cfg.daemon [i] s.proto.daemon
    some { s with
      proto := { s.proto with daemon := d }
      posted := Function.update s.posted id true
      pc := .collecting plan rest (stored ++ entries) }
  | _ => none

/-- The sorting loops; `junk` is what `malloc` left in the list. -/
def sortList (junk : Nat → ChunkActivity) (s : EvictSystem) : Option EvictSystem :=
  match s.pc with
  | .collecting plan [] stored => do
    let r ← (List.range plan.evictG.toNat).foldlM (flagColdest plan.total.toNat)
      ⟨s.proto.daemon, evictionList stored junk, plan.sendList, -1⟩
    some { s with proto := { s.proto with daemon := r.daemon }, pc := .sorted plan stored }
  | _ => none

/-- What the block devices do, apart from the reporting, and FREE_SIZE to a new connection. -/
def ProtocolEvent.besideEvict : ProtocolEvent → Bool
  | .established _ | .query _ | .bind _ _ | .receive _ | .observeStop _ => true
  | _ => false

inductive EvictEvent where
  | begin (rand : Nat → Nat) (lastFreeMemG : Int)
  | collect
  | sort (junk : Nat → ChunkActivity)
  | connect (id : ConnId) (junkIndex : Int) (junkMsg : Message) (sess : Session)
  | disconnect (id : ConnId)
  | serve (id : ConnId) (mr : Nat → MemRegion)
  | seeEvict (id : ConnId)
  | sendActivity (id : ConnId)
  | sample (id : ConnId) (ops : PeriodOps) (chunk : Nat)
  | expand (lastFreeMemG : Int)
  | other (e : ProtocolEvent)

/-- The next message of the connection is no ACTIVITY message. -/
def receivesAgain (s : Protocol) (id : ConnId) : Bool :=
  decide ((s.peers id).toDaemon.head?.map Message.type ≠ some .activity)

def evictStep (cfg : ProtocolCfg) (s : EvictSystem) : EvictEvent → Option EvictSystem
  | .begin rand lastFreeMemG =>
    let stopG := stopSize cfg.daemon s.proto.daemon lastFreeMemG
    match s.pc with
    | .idle =>
      if lastFreeMemG < cfg.daemon.freeMemEvictThreshold ∧ 0 < stopG then
        beginEvict cfg rand stopG s
      else none
    | _ => none
  | .collect => collectReport cfg s
  | .sort junk => sortList junk s
  | .connect id junkIndex junkMsg sess => do
    let proto ← protocolStep cfg s.proto (.connect id junkIndex junkMsg sess)
    some { s with
      proto := proto
      posted := Function.update s.posted id true
      sending := Function.update s.sending id false }
  | .disconnect id => do
    let d ← destroyConnection cfg.daemon s.proto.daemon id
    some { s with proto := { s.proto with daemon := d } }
  | .serve id mr =>
    if s.posted id then do
      let proto ← protocolStep cfg s.proto (.serve id mr)
      some { s with
        proto := proto
        posted := Function.update s.posted id (receivesAgain s.proto id) }
    else none
  | .seeEvict id => do
    let _ ← s.proto.daemon.heap id
    if (s.proto.peers id).waits = .evict ∧ (s.proto.peers id).cb.cState = .evict then
      some { s with sending := Function.update s.sending id true }
    else none
  | .sendActivity id => do
    let _ ← s.proto.daemon.heap id
    if s.sending id then
      let p := s.proto.peers id
      let p := { p.post (sendActivity cfg.daemon.maxFreeMemGb p.sess p.cb) with waits := .stop }
      some { s with
        proto := setPeer s.proto id p
        sending := Function.update s.sending id false }
    else none
  | .sample id ops chunk => do
    let _ ← s.proto.daemon.heap id
    let p := s.proto.peers id
    let sess := { p.sess with lastOps := sampleChunk ops p.sess.lastOps chunk }
    some { s with proto := setPeer s.proto id { p with sess := sess } }
  | .expand lastFreeMemG =>
    match s.pc with
    | .idle => do
      let proto ← protocolStep cfg s.proto (.expand lastFreeMemG)
      some { s with proto := proto }
    | _ => none
  | .other e =>
    if e.besideEvict then do
      let proto ← protocolStep cfg s.proto e
      some { s with proto := proto }
    else none

end DisStore
