import DisStore.Message

/-!
# The block device as a client of the daemon

The control block of one server (`struct kernel_cb`), the maps of the session that its
handlers touch, the handlers of received messages and the parts of `evict_handler` between
its waits. Indices of the session's chunks are C integers, -1 for none.
-/

namespace DisStore

/-- `enum test_state`, in the order of the source. -/
inductive TestState where
  | idle | connectRequest | addrResolved | routeResolved | connected | freeMemRecv | afterFreeMem
  | rdmaBufAdv | waitOps | recvStop | recvEvict | rdmaWriteRunning | rdmaReadRunning | sendDone
  | rdmaDone | rdmaReadAdv | rdmaWriteAdv | cmDisconnect | error
  deriving DecidableEq

/-- `state >= CONNECTED` -/
def TestState.isConnected : TestState → Bool
  | .idle | .connectRequest | .addrResolved | .routeResolved => false
  | _ => true

inductive ChunkListState where
  | idle | ready | evict | stop
  deriving DecidableEq

inductive CbState where
  | idle | connected | mapped | evicting | fail
  deriving DecidableEq

/-- `struct remote_chunk_g`; the bitmap is kept as the set of its pages. -/
structure RemoteChunk where
  remoteRkey : Nat
  remoteAddr : Nat
  bitmap : Nat → Bool

/-- The control block of a server with its `remote_chunk`. In `evict_chunk_map` only the
mark `'s'` is told from the others. -/
structure ControlBlock where
  state : TestState
  recvBuf : Message
  sendBuf : Message
  chunkList : Nat → RemoteChunk
  remoteMapped : Nat → Bool
  chunkSizeG : Int
  targetSizeG : Int
  shrinkSizeG : Int
  chunkMap : Nat → Int
  evictChunkMap : Nat → Bool
  cState : ChunkListState

structure Session where
  cbStateList : Nat → CbState
  cbIndexMap : Int → Int
  chunkMapCbChunk : Int → Int
  unmappedChunkList : Int → Int
  freeChunkIndex : Int
  mappedCbNum : Int
  lastOps : Int → Nat
  triggerOn : Bool
  rdmaOn : Bool

/-- `IS_session_create`: nothing is mapped and every chunk is in the list of unmapped ones. -/
def sessionCreate (capacityG : Nat) : Session :=
  { cbStateList := fun _ => .idle
    cbIndexMap := fun _ => -1
    chunkMapCbChunk := fun _ => -1
    unmappedChunkList := fun i => capacityG - 1 - i
    freeChunkIndex := capacityG - 1
    mappedCbNum := 0
    lastOps := fun _ => 0
    triggerOn := true
    rdmaOn := false }

/-- `kernel_cb_init` -/
def kernelCbInit : ControlBlock :=
  { state := .idle
    recvBuf := ⟨fun _ => 0, fun _ => 0, 0, .query⟩
    sendBuf := ⟨fun _ => 0, fun _ => 0, 0, .query⟩
    chunkList := fun _ => ⟨0, 0, fun _ => false⟩
    remoteMapped := fun _ => false
    chunkSizeG := 0
    targetSizeG := 0
    shrinkSizeG := 0
    chunkMap := fun _ => -1
    evictChunkMap := fun _ => false
    cState := .idle }

/-- `IS_bitmap_init` -/
def bitmapInit : Nat → Bool := fun _ => false

/-- The chunk as it is entered for slab `i` of the received message. -/
def receivedChunk (msg : Message) (i : Nat) : RemoteChunk :=
  { remoteRkey := htonl (msg.rkey i)
    remoteAddr := ntohll (msg.buf i)
    bitmap := bitmapInit }

/-- The slab that an INFO_SINGLE message grants. -/
def grantedSlab (maxMr : Nat) (msg : Message) : Option Nat :=
  (List.range maxMr).find? fun i => decide (msg.rkey i ≠ 0)

/-- The slabs that an INFO message grants. -/
def grantedSlabs (maxMr : Nat) (msg : Message) : List Nat :=
  (List.range maxMr).filter fun i => decide (msg.rkey i ≠ 0)

/-- `IS_single_chunk_init`: the first slab of the message becomes the selected chunk. -/
def singleChunkInit (maxMr cbIndex : Nat) (s : Session) (cb : ControlBlock) :
    Session × ControlBlock :=
  let selectChunk := cb.recvBuf.sizeGb
  match grantedSlab maxMr cb.recvBuf with
  | none => (s, cb)
  | some i =>
    ({ s with
        freeChunkIndex := s.freeChunkIndex - 1
        chunkMapCbChunk := Function.update s.chunkMapCbChunk selectChunk i
        cbIndexMap := Function.update s.cbIndexMap selectChunk cbIndex },
      { cb with
        chunkList := Function.update cb.chunkList i (receivedChunk cb.recvBuf i)
        chunkMap := Function.update cb.chunkMap i selectChunk
        chunkSizeG := cb.chunkSizeG + 1
        cState := .ready
        remoteMapped := Function.update cb.remoteMapped i true })

/-- The loop body of `IS_chunk_list_init`. -/
def chunkListEntry (cbIndex : Nat) (r : Session × ControlBlock) (i : Nat) :
    Session × ControlBlock :=
  let (s, cb) := r
  let sessFreeChunk := s.unmappedChunkList s.freeChunkIndex
  ({ s with
      freeChunkIndex := s.freeChunkIndex - 1
      cbIndexMap := Function.update s.cbIndexMap sessFreeChunk cbIndex
      chunkMapCbChunk := Function.update s.chunkMapCbChunk sessFreeChunk i },
    { cb with
      chunkList := Function.update cb.chunkList i (receivedChunk cb.recvBuf i)
      remoteMapped := Function.update cb.remoteMapped i true
      chunkMap := Function.update cb.chunkMap i sessFreeChunk })

/-- `IS_chunk_list_init` -/
def chunkListInit (maxMr cbIndex : Nat) (s : Session) (cb : ControlBlock) :
    Session × ControlBlock :=
  let given := grantedSlabs maxMr cb.recvBuf
  let (s, cb) := given.foldl (chunkListEntry cbIndex) (s, cb)
  (s, { cb with chunkSizeG := cb.chunkSizeG + cb.recvBuf.sizeGb, cState := .ready })

/-- `client_recv_evict` -/
def clientRecvEvict (cb : ControlBlock) : ControlBlock :=
  if cb.recvBuf.sizeGb = 0 then cb
  else { cb with shrinkSizeG := cb.recvBuf.sizeGb, cState := .evict }

/-- `client_recv_stop` -/
def clientRecvStop (maxMr : Nat) (cb : ControlBlock) : ControlBlock :=
  if cb.recvBuf.sizeGb = 0 then { cb with shrinkSizeG := 0, cState := .stop }
  else
    { cb with
      shrinkSizeG := cb.recvBuf.sizeGb
      evictChunkMap := fun i =>
        if i < maxMr then decide (cb.recvBuf.rkey i ≠ 0) else cb.evictChunkMap i
      cState := .stop }

lemma clientRecvStop_state (maxMr : Nat) (cb : ControlBlock) :
    (clientRecvStop maxMr cb).state = cb.state := by
  unfold clientRecvStop
  split <;> rfl

/-- `client_recv` for a message of the right length; `none` is the result -1. -/
def clientRecv (maxMr cbIndex : Nat) (s : Session) (cb : ControlBlock) :
    Option (Session × ControlBlock) :=
  if cb.state.isConnected = false then none
  else match cb.recvBuf.type with
    | .freeSize =>
      some (s, { cb with targetSizeG := cb.recvBuf.sizeGb, state := .freeMemRecv })
    | .info =>
      some (chunkListInit maxMr cbIndex
        { s with cbStateList := Function.update s.cbStateList cbIndex .mapped }
        { cb with state := .waitOps })
    | .infoSingle =>
      some (singleChunkInit maxMr cbIndex
        { s with cbStateList := Function.update s.cbStateList cbIndex .mapped }
        { cb with state := .waitOps })
    | .evict => some (s, clientRecvEvict { cb with state := .recvEvict })
    | .stop => some (s, clientRecvStop maxMr { cb with state := .recvStop })
    | _ => none

/-- `rdma_cq_event_handler` for a received message. -/
def cqRecv (maxMr cbIndex : Nat) (s : Session) (cb : ControlBlock) (msg : Message) :
    Session × ControlBlock :=
  if cb.state = .error then (s, cb)
  else
    let cb := { cb with recvBuf := msg }
    match clientRecv maxMr cbIndex s cb with
    | some r => r
    | none => (s, { cb with state := .error })

section Received
variable {cb : ControlBlock} {msg : Message} (maxMr cbIndex : Nat) (s : Session)

lemma cqRecv_freeSize (hup : cb.state.isConnected = true) (hok : cb.state ≠ .error)
    (h : msg.type = .freeSize) : cqRecv maxMr cbIndex s cb msg =
      (s, { cb with recvBuf := msg, targetSizeG := msg.sizeGb, state := .freeMemRecv }) := by
  simp only [cqRecv, if_neg hok, clientRecv, hup, Bool.true_eq_false, if_false, h]

lemma cqRecv_info (hup : cb.state.isConnected = true) (hok : cb.state ≠ .error)
    (h : msg.type = .info) : cqRecv maxMr cbIndex s cb msg =
      chunkListInit maxMr cbIndex
        { s with cbStateList := Function.update s.cbStateList cbIndex .mapped }
        { cb with recvBuf := msg, state := .waitOps } := by
  simp only [cqRecv, if_neg hok, clientRecv, hup, Bool.true_eq_false, if_false, h]

lemma cqRecv_infoSingle (hup : cb.state.isConnected = true) (hok : cb.state ≠ .error)
    (h : msg.type = .infoSingle) : cqRecv maxMr cbIndex s cb msg =
      singleChunkInit maxMr cbIndex
        { s with cbStateList := Function.update s.cbStateList cbIndex .mapped }
        { cb with recvBuf := msg, state := .waitOps } := by
  simp only [cqRecv, if_neg hok, clientRecv, hup, Bool.true_eq_false, if_false, h]

lemma cqRecv_evict (hup : cb.state.isConnected = true) (hok : cb.state ≠ .error)
    (h : msg.type = .evict) : cqRecv maxMr cbIndex s cb msg =
      (s, clientRecvEvict { cb with recvBuf := msg, state := .recvEvict }) := by
  simp only [cqRecv, if_neg hok, clientRecv, hup, Bool.true_eq_false, if_false, h]

lemma cqRecv_stop (hup : cb.state.isConnected = true) (hok : cb.state ≠ .error)
    (h : msg.type = .stop) : cqRecv maxMr cbIndex s cb msg =
      (s, clientRecvStop maxMr { cb with recvBuf := msg, state := .recvStop }) := by
  simp only [cqRecv, if_neg hok, clientRecv, hup, Bool.true_eq_false, if_false, h]

end Received

/-- `IS_send_activity`: one more than the operations on each mapped chunk. -/
def sendActivity (maxMr : Nat) (s : Session) (cb : ControlBlock) : ControlBlock :=
  { cb with sendBuf := { cb.sendBuf with
      type := .activity
      buf := fun i =>
        if i < maxMr then
          if cb.chunkMap i ≠ -1 then ntohll (s.lastOps (cb.chunkMap i) + 1) else 0
        else cb.sendBuf.buf i } }

/-- `IS_send_query` -/
def sendQuery (cb : ControlBlock) : ControlBlock :=
  { cb with sendBuf := { cb.sendBuf with type := .query } }

/-- `IS_send_bind_single` -/
def sendBindSingle (cb : ControlBlock) (selectChunk : Int) : ControlBlock :=
  { cb with sendBuf := { cb.sendBuf with type := .bindSingle, sizeGb := selectChunk } }

/-- `IS_send_done` -/
def sendDoneMsg (cb : ControlBlock) (num : Int) : ControlBlock :=
  { cb with sendBuf := { cb.sendBuf with type := .done, sizeGb := num } }

/-- The slabs that the last STOP message with a size has marked. -/
def markedSlabs (maxMr : Nat) (cb : ControlBlock) : List Nat :=
  (List.range maxMr).filter cb.evictChunkMap

lemma mem_markedSlabs {maxMr i : Nat} {cb : ControlBlock} :
    i ∈ markedSlabs maxMr cb ↔ i < maxMr ∧ cb.evictChunkMap i = true := by
  simp [markedSlabs]

/-- `evict_handler` from the STOP with a size up to the wait for requests in flight. -/
def unmapMarked (maxMr : Nat) (s : Session) (cb : ControlBlock) : Session × ControlBlock :=
  let marked := markedSlabs maxMr cb
  ({ s with
      triggerOn := false
      cbIndexMap := fun x => if marked.any fun i => decide (cb.chunkMap i = x) then -1
        else s.cbIndexMap x },
    { cb with
      chunkMap := fun i => if i ∈ marked then -1 else cb.chunkMap i
      sendBuf := { cb.sendBuf with
        rkey := fun i => if i ∈ marked then 1 else if i < maxMr then 0 else cb.sendBuf.rkey i } })

/-- `evict_handler` from that wait up to DONE. -/
def finishEvict (maxMr : Nat) (sizeG : Int) (s : Session) (cb : ControlBlock) :
    Session × ControlBlock :=
  let marked := markedSlabs maxMr cb
  ({ s with mappedCbNum := s.mappedCbNum - sizeG },
    sendDoneMsg { cb with
      chunkList := fun i => if i ∈ marked then { cb.chunkList i with bitmap := bitmapInit }
        else cb.chunkList i
      remoteMapped := fun i => if i ∈ marked then false else cb.remoteMapped i
      chunkSizeG := cb.chunkSizeG - sizeG
      shrinkSizeG := 0 } sizeG)

end DisStore
