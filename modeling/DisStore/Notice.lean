import DisStore.EvictHandler

/-!
# Eviction rounds on one connection

The control block of an established connection with its `evict_handler` thread, a thread that
maps chunks and a daemon whose monitor thread runs eviction rounds. A round sends EVICT, waits
for ACTIVITY, sends STOP and waits for DONE when its size is not zero. Both directions are
FIFO channels.
-/

namespace DisStore

/-- Where the daemon's monitor thread stands in a round. -/
inductive Monitor where
  | idle | awaitActivity | awaitDone
  deriving DecidableEq

/-- A received EVICT, or a received STOP and whether its size is zero. -/
inductive Notice where
  | evict
  | stop (zero : Bool)
  deriving DecidableEq

/-- The value of `c_state` that tells the handler of the notice. -/
def Notice.cState : Notice → ChunkListState
  | .evict => .evict
  | .stop _ => .stop

def noticeOf (msg : Message) : Option Notice :=
  match msg.type with
  | .evict => some .evict
  | .stop => some (.stop (decide (msg.sizeGb = 0)))
  | _ => none

/-- `unseen` holds the received notices that the handler has not observed. The last four
fields count the EVICT and the non-zero STOP messages received and the ACTIVITY and DONE
messages sent. -/
structure NoticeState where
  handler : EvictHandler
  toDaemon : List Message
  toClient : List Message
  monitor : Monitor
  evictSem : Nat
  stopSem : Nat
  unseen : List Notice
  evicts : Nat
  stops : Nat
  activities : Nat
  dones : Nat

/-- An established connection. -/
def noticeInit (sess : Session) (cb : ControlBlock) : NoticeState :=
  { handler := evictHandlerInit sess { cb with state := .connected, cState := .idle }
    toDaemon := []
    toClient := []
    monitor := .idle
    evictSem := 0
    stopSem := 0
    unseen := []
    evicts := 0
    stops := 0
    activities := 0
    dones := 0 }

inductive NoticeEvent where
  | handler
  | query
  | bind (selectChunk : Int)
  | serve (msg : Message)
  | evict (msg : Message)
  | stop (msg : Message)
  | finish
  | receive

/-- What the handler has seen of the notices once it takes its next step. -/
def observeNotice (pc : HandlerPc) (unseen : List Notice) : List Notice :=
  match pc with
  | .awaitEvict => unseen.eraseP fun n => decide (n.cState = .evict)
  | .awaitStop => unseen.eraseP fun n => decide (n.cState = .stop)
  | _ => unseen

def noticeStep (maxMr capacityG cbIndex : Nat) (s : NoticeState) :
    NoticeEvent → Option NoticeState
  | .handler => do
    let (handler, out) ← handlerStep maxMr capacityG cbIndex s.handler
    some { s with
      handler := handler
      toDaemon := s.toDaemon ++ out
      unseen := observeNotice s.handler.pc s.unseen
      activities := s.activities + out.countP fun m => decide (m.type = .activity)
      dones := s.dones + out.countP fun m => decide (m.type = .done) }
  | .query =>
    let cb := sendQuery s.handler.cb
    some { s with handler := { s.handler with cb := cb }, toDaemon := s.toDaemon ++ [cb.sendBuf] }
  | .bind selectChunk =>
    let cb := sendBindSingle s.handler.cb selectChunk
    some { s with handler := { s.handler with cb := cb }, toDaemon := s.toDaemon ++ [cb.sendBuf] }
  | .serve msg =>
    match s.toDaemon with
    | [] => none
    | req :: rest =>
      match req.type with
      | .query => some { s with
          toDaemon := rest
          toClient := s.toClient ++ [{ msg with type := .freeSize }] }
      | .bindSingle => some { s with
          toDaemon := rest
          toClient := s.toClient ++ [{ msg with type := .infoSingle }] }
      | .activity => some { s with toDaemon := rest, evictSem := s.evictSem + 1 }
      | .done => some { s with toDaemon := rest, stopSem := s.stopSem + 1 }
      | _ => none
  | .evict msg =>
    if s.monitor = .idle then
      some { s with
        monitor := .awaitActivity
        toClient := s.toClient ++ [{ msg with type := .evict }] }
    else none
  | .stop msg =>
    if s.monitor = .awaitActivity ∧ 0 < s.evictSem then
      some { s with
        monitor := if msg.sizeGb = 0 then .idle else .awaitDone
        evictSem := s.evictSem - 1
        toClient := s.toClient ++ [{ msg with type := .stop }] }
    else none
  | .finish =>
    if s.monitor = .awaitDone ∧ 0 < s.stopSem then
      some { s with monitor := .idle, stopSem := s.stopSem - 1 }
    else none
  | .receive =>
    match s.toClient with
    | [] => none
    | msg :: rest =>
      let (sess, cb) := cqRecv maxMr cbIndex s.handler.sess s.handler.cb msg
      some { s with
        handler := { s.handler with sess := sess, cb := cb }
        toClient := rest
        unseen := s.unseen ++ (noticeOf msg).toList
        evicts := s.evicts + if msg.type = .evict then 1 else 0
        stops := s.stops + if msg.type = .stop ∧ msg.sizeGb ≠ 0 then 1 else 0 }

end DisStore
