import DisStore.Client

/-!
# One connection of the block device

The events on the control block of one server from `rdma_connect` on: the two ESTABLISHED
events, the thread in `IS_single_chunk_map` and the messages of the daemon. Both directions
are FIFO channels. The daemon answers QUERY and BIND_SINGLE, sends FREE_SIZE unasked when its
side is established, and may send EVICT and STOP at any time after that.
-/

namespace DisStore

/-- Where the thread in `IS_single_chunk_map` stands. -/
inductive Waiter where
  | idle | connecting | awaitFree | chosen | awaitInfo
  deriving DecidableEq

/-- `answered`: a reply to the thread's request has been received and is not consumed yet. -/
structure LinkState where
  sess : Session
  cb : ControlBlock
  waiter : Waiter
  toDaemon : List Message
  toClient : List Message
  clientUp : Bool
  daemonUp : Bool
  answered : Bool

/-- After `rdma_connect`, when neither side has seen ESTABLISHED. -/
def linkInit (sess : Session) (cb : ControlBlock) : LinkState :=
  { sess := sess
    cb := { cb with state := .routeResolved }
    waiter := .connecting
    toDaemon := []
    toClient := []
    clientUp := false
    daemonUp := false
    answered := false }

inductive LinkEvent where
  | establishedClient
  | establishedDaemon (msg : Message)
  | passConnected
  | consumeFree
  | skip
  | query
  | bind (selectChunk : Int)
  | consumeInfo
  | answer (msg : Message)
  | evict (msg : Message)
  | stop (msg : Message)
  | receive

/-- The message is the reply that the thread waits for. -/
def isReply (w : Waiter) (t : MsgType) : Bool :=
  match w, t with
  | .connecting, .freeSize | .awaitFree, .freeSize | .awaitInfo, .infoSingle => true
  | _, _ => false

def linkStep (maxMr cbIndex : Nat) (s : LinkState) : LinkEvent → Option LinkState
  | .establishedClient =>
    if s.clientUp then none
    else some { s with cb := { s.cb with state := .connected }, clientUp := true }
  | .establishedDaemon msg =>
    if s.daemonUp then none
    else some { s with daemonUp := true, toClient := s.toClient ++ [{ msg with type := .freeSize }] }
  | .passConnected =>
    if s.waiter = .connecting ∧ s.cb.state.isConnected then some { s with waiter := .awaitFree }
    else none
  | .consumeFree =>
    if s.waiter = .awaitFree ∧ s.cb.state = .freeMemRecv then
      some { s with
        cb := { s.cb with state := .afterFreeMem }
        waiter := .chosen
        answered := false }
    else none
  | .skip => if s.waiter = .chosen then some { s with waiter := .idle } else none
  | .query =>
    if s.waiter = .idle then
      let cb := sendQuery s.cb
      some { s with cb := cb, waiter := .awaitFree, toDaemon := s.toDaemon ++ [cb.sendBuf] }
    else none
  | .bind selectChunk =>
    if s.waiter = .chosen then
      let cb := sendBindSingle s.cb selectChunk
      some { s with cb := cb, waiter := .awaitInfo, toDaemon := s.toDaemon ++ [cb.sendBuf] }
    else none
  | .consumeInfo =>
    if s.waiter = .awaitInfo ∧ s.cb.state = .waitOps then
      some { s with waiter := .idle, answered := false }
    else none
  | .answer msg =>
    match s.toDaemon with
    | [] => none
    | req :: rest =>
      match req.type with
      | .query => some { s with
          toDaemon := rest
          toClient := s.toClient ++ [{ msg with type := .freeSize }] }
      | .bindSingle => some { s with
          toDaemon := rest
          toClient := s.toClient ++ [{ msg with type := .infoSingle }] }
      | _ => none
  | .evict msg =>
    if s.daemonUp then some { s with toClient := s.toClient ++ [{ msg with type := .evict }] }
    else none
  | .stop msg =>
    if s.daemonUp then some { s with toClient := s.toClient ++ [{ msg with type := .stop }] }
    else none
  | .receive =>
    match s.toClient with
    | [] => none
    | msg :: rest =>
      if s.cb.state = .error then none
      else
        let (sess, cb) := cqRecv maxMr cbIndex s.sess s.cb msg
        some { s with
          sess := sess
          cb := cb
          toClient := rest
          answered := s.answered || isReply s.waiter msg.type }

end DisStore
