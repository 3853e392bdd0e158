import DisStore.Chunks
import DisStore.Select

/-!
# Binding chunks with the counters of the client

`IS_single_chunk_map` as a whole, from the choice of a server to its INFO_SINGLE message, and
eviction rounds and disconnects that call it for the chunks they take away. The operations are
handled one at a time, and the servers of the session are those of `NUM_CB`.
-/

namespace DisStore

/-- What a call of `IS_single_chunk_map` gets from outside: the outcomes of `get_random_bytes`,
the free sizes of the servers and the INFO_SINGLE message of the one that is chosen. -/
structure MapInput where
  draws : Nat → Nat
  reply : Nat → Int32
  info : Message

/-- The daemon grants slabs that are not in use. -/
def grantsUnused (maxMr : Nat) (t : ChunkTables) (c : Nat) (msg : Message) : Bool :=
  match grantedSlab maxMr msg with
  | none => true
  | some i => decide ((t.cbs c).chunkMap i = -1)

/-- The tables once the servers have been asked: an idle one gets a new control block. -/
def askedTables (t : ChunkTables) (r : MapChoice) : ChunkTables :=
  { sess := r.sess
    cbs := fun c =>
      if t.sess.cbStateList c = .idle ∧ c ∈ r.queried then
        { kernelCbInit with state := .afterFreeMem }
      else t.cbs c }

/-- `IS_single_chunk_map` for session chunk `s`, with `IS_single_chunk_init` for the message
that it waits for. -/
def singleChunkBind (numCb selectNum maxMr : Nat) (t : ChunkTables) (s : Nat) (call : MapInput) :
    Option ChunkTables := do
  let r ← singleChunkMap numCb numCb selectNum t.sess call.draws
    (fun c => (call.reply c).toInt) s
  let asked := askedTables t r
  match r.bound with
  | none => some asked
  | some c =>
    let msg := { call.info with sizeGb := (s : Int) }
    if grantsUnused maxMr asked c.toNat msg then some (recvInfoSingle maxMr asked c.toNat msg)
    else none

inductive CounterOp where
  | bind (s : Nat) (call : MapInput)
  | evict (c : Nat) (stop : Message) (calls : Nat → MapInput)
  | disconnect (c : Nat) (calls : Nat → MapInput)

def counterStep (numCb selectNum maxMr capacityG : Nat) (t : ChunkTables) :
    CounterOp → Option ChunkTables
  | .bind s call => singleChunkBind numCb selectNum maxMr t s call
  | .evict c stop calls =>
    evictServer (fun t s => singleChunkBind numCb selectNum maxMr t s (calls s)) maxMr capacityG t c
      stop
  | .disconnect c calls =>
    disconnectServer (fun t s => singleChunkBind numCb selectNum maxMr t s (calls s)) maxMr
      capacityG t c

end DisStore
