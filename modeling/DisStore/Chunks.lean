import DisStore.EvictHandler

/-!
# The chunk tables of a session

The tables that say where the chunks of a session are: `cb_index_map`, `chunk_map_cb_chunk`
and the stack of unmapped chunks of the session, `chunk_map` and `remote_mapped` of every
server. The operations are the received INFO and INFO_SINGLE messages, the whole of an
eviction round and the whole of a disconnect, with the replies to `IS_single_chunk_map` that
are received on the way.
-/

namespace DisStore

/-- A session with the control blocks of its servers (`cb_list`). -/
structure ChunkTables where
  sess : Session
  cbs : Nat → ControlBlock

/-- After `IS_session_create`, with every control block as `kernel_cb_init` leaves it. -/
def chunkTablesInit (capacityG : Nat) : ChunkTables :=
  { sess := sessionCreate capacityG
    cbs := fun _ => kernelCbInit }

/-- INFO_SINGLE is received from server `c`. -/
def recvInfoSingle (maxMr : Nat) (t : ChunkTables) (c : Nat) (msg : Message) : ChunkTables :=
  let (sess, cb) := singleChunkInit maxMr c
    { t.sess with cbStateList := Function.update t.sess.cbStateList c .mapped }
    { t.cbs c with recvBuf := msg, state := .waitOps }
  { sess := sess, cbs := Function.update t.cbs c cb }

/-- INFO is received from server `c`. -/
def recvInfo (maxMr : Nat) (t : ChunkTables) (c : Nat) (msg : Message) : ChunkTables :=
  let (sess, cb) := chunkListInit maxMr c
    { t.sess with cbStateList := Function.update t.sess.cbStateList c .mapped }
    { t.cbs c with recvBuf := msg, state := .waitOps }
  { sess := sess, cbs := Function.update t.cbs c cb }

/-- The server that answers BIND_SINGLE for a chunk and its reply, if there is one. -/
abbrev Reply := Option (Nat × Message)

/-- `IS_single_chunk_map` for session chunk `s`. A reply that is not allowed is not received. -/
def mapChunk (allow : ChunkTables → Nat → Message → Bool) (maxMr : Nat) (t : ChunkTables)
    (s : Nat) : Reply → Option ChunkTables
  | none => some t
  | some (c, msg) =>
    let msg := { msg with sizeGb := (s : Int) }
    if allow t c msg then some (recvInfoSingle maxMr t c msg) else none

/-- The session chunks that an eviction or a disconnect takes away, in the order of the loops
over `evict_list`. -/
def evictedChunks (capacityG : Nat) (evictList : Int → Bool) : List Nat :=
  (List.range capacityG).filter fun (s : Nat) => evictList s

/-- `evict_list` of `evict_handler`: the chunks of the marked slabs. -/
def markedChunks (maxMr : Nat) (cb : ControlBlock) (x : Int) : Bool :=
  (markedSlabs maxMr cb).any fun i => decide (cb.chunkMap i = x)

/-- `evict_handler` from the STOP with a size up to its last loop. -/
def evictUnmap (maxMr c : Nat) (t : ChunkTables) (cb : ControlBlock) : ChunkTables :=
  let (sess, cb') := unmapMarked maxMr t.sess cb
  let (sess, cb') := finishEvict maxMr cb.shrinkSizeG sess cb'
  { sess := { sess with cbStateList := Function.update sess.cbStateList c .evicting }
    cbs := Function.update t.cbs c { cb' with cState := .ready } }

/-- The end of `evict_handler` and of `IS_disconnect_handler`. -/
def triggerOn (t : ChunkTables) : ChunkTables :=
  { t with sess := { t.sess with triggerOn := true } }

/-- A STOP message is received from server `c` and handled to the end; `bindChunk` is
`IS_single_chunk_map`. -/
def evictServer (bindChunk : ChunkTables → Nat → Option ChunkTables) (maxMr capacityG : Nat)
    (t : ChunkTables) (c : Nat) (stop : Message) : Option ChunkTables :=
  let cb := clientRecvStop maxMr { t.cbs c with recvBuf := stop, state := .recvStop }
  if cb.shrinkSizeG = 0 then
    some { t with cbs := Function.update t.cbs c { cb with cState := .ready } }
  else do
    let t ← (evictedChunks capacityG (markedChunks maxMr cb)).foldlM
      (fun t (s : Nat) => bindChunk { t with sess := forgetChunk t.sess s } s)
      (evictUnmap maxMr c t cb)
    some (triggerOn { t with sess :=
      { t.sess with cbStateList := Function.update t.sess.cbStateList c .mapped } })

/-- The slabs of a server that are mapped. -/
def mappedSlabs (maxMr : Nat) (cb : ControlBlock) : List Nat :=
  (List.range maxMr).filter fun i => decide (cb.chunkMap i ≠ -1)

/-- `evict_list` of `IS_disconnect_handler`: the chunks of the mapped slabs. -/
def mappedChunks (maxMr : Nat) (cb : ControlBlock) (x : Int) : Bool :=
  (mappedSlabs maxMr cb).any fun i => decide (cb.chunkMap i = x)

/-- `IS_disconnect_handler` up to the scan of the contexts. -/
def disallowChunks (maxMr c : Nat) (t : ChunkTables) : ChunkTables :=
  let cb := t.cbs c
  let mapped := mappedSlabs maxMr cb
  { sess := { t.sess with
      cbStateList := Function.update t.sess.cbStateList c .fail
      triggerOn := false
      rdmaOn := false
      cbIndexMap := fun x => if mappedChunks maxMr cb x then -1 else t.sess.cbIndexMap x }
    cbs := Function.update t.cbs c { cb with
      chunkList := fun i => if i ∈ mapped then { cb.chunkList i with bitmap := bitmapInit }
        else cb.chunkList i
      remoteMapped := fun i => if i ∈ mapped then false else cb.remoteMapped i
      chunkSizeG := 0 } }

/-- `IS_disconnect_handler` after the scan of the contexts: the chunks are entered in the list
of unmapped ones in the order of their slabs. -/
def forgetServer (maxMr c : Nat) (t : ChunkTables) : ChunkTables :=
  let cb := t.cbs c
  let mapped := mappedSlabs maxMr cb
  { sess := { mapped.foldl (fun s i => forgetChunk s (cb.chunkMap i)) t.sess with rdmaOn := true }
    cbs := Function.update t.cbs c
      { cb with chunkMap := fun i => if i ∈ mapped then -1 else cb.chunkMap i } }

/-- `IS_disconnect_handler`; `bindChunk` is `IS_single_chunk_map`. -/
def disconnectServer (bindChunk : ChunkTables → Nat → Option ChunkTables) (maxMr capacityG : Nat)
    (t : ChunkTables) (c : Nat) : Option ChunkTables :=
  if t.sess.cbStateList c = .connected then
    some { t with sess :=
      { t.sess with cbStateList := Function.update t.sess.cbStateList c .fail } }
  else do
    let t' ← (evictedChunks capacityG (mappedChunks maxMr (t.cbs c))).foldlM bindChunk
      (forgetServer maxMr c (disallowChunks maxMr c t))
    some (triggerOn t')

inductive ChunkOp where
  | bind (c : Nat) (msg : Message)
  | info (c : Nat) (msg : Message)
  | evict (c : Nat) (stop : Message) (rebind : Nat → Reply)
  | disconnect (c : Nat) (rebind : Nat → Reply)

/-- The operations one at a time; `allow` says which INFO_SINGLE messages are received. -/
def chunkStep (allow : ChunkTables → Nat → Message → Bool) (maxMr capacityG : Nat)
    (t : ChunkTables) : ChunkOp → Option ChunkTables
  | .bind c msg => if allow t c msg then some (recvInfoSingle maxMr t c msg) else none
  | .info c msg => some (recvInfo maxMr t c msg)
  | .evict c stop rebind =>
    evictServer (fun t s => mapChunk allow maxMr t s (rebind s)) maxMr capacityG t c stop
  | .disconnect c rebind =>
    disconnectServer (fun t s => mapChunk allow maxMr t s (rebind s)) maxMr capacityG t c

end DisStore
