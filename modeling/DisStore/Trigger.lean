import DisStore.Chunks

/-!
# Threads that map chunks

`rdma_trigger` maps chunks that have become hot, `evict_handler` and `IS_disconnect_handler`
of every server map the chunks that they have taken away. All of them run
`IS_single_chunk_map`, here cut at its waits: for FREE_SIZE of the servers it asks and for
INFO_SINGLE of the one it chooses. The threads share one flag, `trigger_enable`.
-/

namespace DisStore

inductive ThreadId where
  | trigger
  | evict (c : Nat)
  | disconnect (c : Nat)
  deriving DecidableEq

/-- Where a thread stands in `IS_single_chunk_map`; `asked` are the servers whose FREE_SIZE it
has consumed. -/
inductive MapPc where
  | choose (asked : List Nat)
  | awaitFree (asked : List Nat) (c : Nat)
  | awaitInfo (c : Nat)
  deriving DecidableEq

structure MapCall where
  chunk : Nat
  pc : MapPc
  deriving DecidableEq

/-- A handler is draining from TRIGGER_OFF up to the loop that maps its chunks again, and
remapping from there to TRIGGER_ON. -/
inductive ThreadPhase where
  | idle | draining | remapping
  deriving DecidableEq

/-- `todo` holds the chunks of `evict_list` that are still to be mapped. -/
structure MapThread where
  phase : ThreadPhase
  todo : List Nat
  call : Option MapCall

/-- `binds c` are the chunks of the BIND_SINGLE messages to server `c` that are not answered. -/
structure TriggerState where
  tables : ChunkTables
  threads : ThreadId → MapThread
  binds : Nat → List Nat

def triggerInit (capacityG : Nat) : TriggerState :=
  { tables := chunkTablesInit capacityG
    threads := fun _ => ⟨.idle, [], none⟩
    binds := fun _ => [] }

inductive TriggerEvent where
  | triggerStart (s : Nat)
  | evictStart (c : Nat) (stop : Message)
  | evictDone (c : Nat)
  | disconnectStart (c : Nat)
  | disconnectForget (c : Nat)
  | nextChunk (tid : ThreadId)
  | query (tid : ThreadId) (c : Nat)
  | consumeFree (tid : ThreadId)
  | giveUp (tid : ThreadId)
  | sendBind (tid : ThreadId) (c : Nat)
  | finishCall (tid : ThreadId)
  | finishHandler (tid : ThreadId)
  | recvInfoSingle (c : Nat) (msg : Message)
  | recvOther (c : Nat) (state : TestState)

def setThread (st : TriggerState) (tid : ThreadId) (th : MapThread) : TriggerState :=
  { st with threads := Function.update st.threads tid th }

def setCbState (t : ChunkTables) (c : Nat) (state : TestState) : ChunkTables :=
  { t with cbs := Function.update t.cbs c { t.cbs c with state := state } }

/-- FREE_SIZE of server `c` is consumed; the first one of a server comes with its connection. -/
def consumeFree (t : ChunkTables) (c : Nat) : ChunkTables :=
  let t := setCbState t c .afterFreeMem
  if t.sess.cbStateList c = .idle then
    { t with sess := { t.sess with
      cbStateList := Function.update t.sess.cbStateList c .connected } }
  else t

/-- The last loop of an eviction resets the entry of the chunk before it maps it; after a
disconnect that has been done for all chunks at once. -/
def beforeMap (tid : ThreadId) (t : ChunkTables) (s : Nat) : ChunkTables :=
  match tid with
  | .evict _ => { t with sess := forgetChunk t.sess s }
  | _ => t

def afterRemap (tid : ThreadId) (t : ChunkTables) : ChunkTables :=
  match tid with
  | .evict c => triggerOn { t with sess :=
      { t.sess with cbStateList := Function.update t.sess.cbStateList c .mapped } }
  | _ => triggerOn t

def triggerStep (maxMr capacityG : Nat) (st : TriggerState) : TriggerEvent → Option TriggerState
  | .triggerStart s =>
    if s < capacityG ∧ (st.threads .trigger).call = none ∧ st.tables.sess.triggerOn ∧
        st.tables.sess.cbIndexMap s = -1 then
      some (setThread st .trigger { st.threads .trigger with call := some ⟨s, .choose []⟩ })
    else none
  | .evictStart c stop =>
    let cb := clientRecvStop maxMr { st.tables.cbs c with recvBuf := stop, state := .recvStop }
    if (st.threads (.evict c)).phase = .idle ∧ cb.shrinkSizeG ≠ 0 then
      let (sess, cb') := unmapMarked maxMr st.tables.sess cb
      some (setThread
        { st with tables := { sess := sess, cbs := Function.update st.tables.cbs c cb' } }
        (.evict c) { st.threads (.evict c) with
          phase := .draining
          todo := evictedChunks capacityG (markedChunks maxMr cb) })
    else none
  | .evictDone c =>
    let th := st.threads (.evict c)
    if th.phase = .draining then
      let cb := st.tables.cbs c
      let (sess, cb') := finishEvict maxMr cb.shrinkSizeG st.tables.sess cb
      some (setThread
        { st with tables :=
          { sess := { sess with cbStateList := Function.update sess.cbStateList c .evicting }
            cbs := Function.update st.tables.cbs c { cb' with cState := .ready } } }
        (.evict c) { th with phase := .remapping })
    else none
  | .disconnectStart c =>
    if (st.threads (.disconnect c)).phase = .idle ∧
        st.tables.sess.cbStateList c ≠ .connected then
      some (setThread { st with tables := disallowChunks maxMr c st.tables } (.disconnect c)
        { st.threads (.disconnect c) with
          phase := .draining
          todo := evictedChunks capacityG (mappedChunks maxMr (st.tables.cbs c)) })
    else none
  | .disconnectForget c =>
    let th := st.threads (.disconnect c)
    if th.phase = .draining then
      some (setThread { st with tables := forgetServer maxMr c st.tables } (.disconnect c)
        { th with phase := .remapping })
    else none
  | .nextChunk tid =>
    match st.threads tid with
    | ⟨.remapping, s :: rest, none⟩ =>
      some (setThread { st with tables := beforeMap tid st.tables s } tid
        ⟨.remapping, rest, some ⟨s, .choose []⟩⟩)
    | _ => none
  | .query tid c =>
    match (st.threads tid).call with
    | some ⟨s, .choose asked⟩ =>
      if st.tables.sess.cbStateList c ≠ .fail then
        some (setThread st tid { st.threads tid with call := some ⟨s, .awaitFree asked c⟩ })
      else none
    | _ => none
  | .consumeFree tid =>
    match (st.threads tid).call with
    | some ⟨s, .awaitFree asked c⟩ =>
      if (st.tables.cbs c).state = .freeMemRecv then
        some (setThread { st with tables := consumeFree st.tables c } tid
          { st.threads tid with call := some ⟨s, .choose (c :: asked)⟩ })
      else none
    | _ => none
  | .giveUp tid =>
    match (st.threads tid).call with
    | some ⟨_, .choose _⟩ => some (setThread st tid { st.threads tid with call := none })
    | _ => none
  | .sendBind tid c =>
    match (st.threads tid).call with
    | some ⟨s, .choose asked⟩ =>
      if c ∈ asked then
        some (setThread { st with binds := Function.update st.binds c (st.binds c ++ [s]) } tid
          { st.threads tid with call := some ⟨s, .awaitInfo c⟩ })
      else none
    | _ => none
  | .finishCall tid =>
    match (st.threads tid).call with
    | some ⟨_, .awaitInfo c⟩ =>
      if (st.tables.cbs c).state = .waitOps then
        some (setThread
          { st with tables := { st.tables with sess := { st.tables.sess with rdmaOn := true } } }
          tid { st.threads tid with call := none })
      else none
    | _ => none
  | .finishHandler tid =>
    match st.threads tid with
    | ⟨.remapping, [], none⟩ =>
      some (setThread { st with tables := afterRemap tid st.tables } tid ⟨.idle, [], none⟩)
    | _ => none
  | .recvInfoSingle c msg =>
    match st.binds c with
    | [] => none
    | s :: rest =>
      some { st with
        tables := recvInfoSingle maxMr st.tables c { msg with sizeGb := (s : Int) }
        binds := Function.update st.binds c rest }
  | .recvOther c state =>
    if state ≠ .waitOps then some { st with tables := setCbState st.tables c state } else none

end DisStore
