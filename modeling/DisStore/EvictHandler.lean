import DisStore.Client

/-!
# The evict_handler thread

`evict_handler` of one control block as a program counter with its local variables. Every
wait, send and assignment of `c_state` is a step of its own. The wait for requests in flight
ends at any time; the requests that `IS_single_chunk_map` sends for the evicted chunks are
those of any other thread that maps a chunk.
-/

namespace DisStore

inductive HandlerPc where
  | loop | awaitEvict | sendActivity | awaitStop | readSize | resetZero
  | unmap | drain | sendDone | resetDone | remap | exited
  deriving DecidableEq

structure EvictHandler where
  sess : Session
  cb : ControlBlock
  pc : HandlerPc
  sizeG : Int
  evictList : Int → Bool

/-- The thread as `IS_single_chunk_map` creates it. -/
def evictHandlerInit (sess : Session) (cb : ControlBlock) : EvictHandler :=
  { sess := sess
    cb := cb
    pc := .loop
    sizeG := 0
    evictList := fun _ => false }

/-- The session chunk `i` is entered in the list of unmapped chunks. -/
def forgetChunk (s : Session) (i : Int) : Session :=
  { s with
    chunkMapCbChunk := Function.update s.chunkMapCbChunk i (-1)
    freeChunkIndex := s.freeChunkIndex + 1
    unmappedChunkList := Function.update s.unmappedChunkList (s.freeChunkIndex + 1) i }

/-- The last loop of `evict_handler`. -/
def forgetEvicted (capacityG : Nat) (evictList : Int → Bool) (s : Session) : Session :=
  ((List.range capacityG).filter fun (i : Nat) => evictList i).foldl
    (fun s (i : Nat) => forgetChunk s i) s

/-- One step of the thread, with the message that it posts. A wait whose condition does not
hold is no step. -/
def handlerStep (maxMr capacityG cbIndex : Nat) (h : EvictHandler) :
    Option (EvictHandler × List Message) :=
  match h.pc with
  | .loop => some ({ h with pc := if h.cb.state = .error then .exited else .awaitEvict }, [])
  | .awaitEvict =>
    if h.cb.cState = .evict then
      some ({ h with pc := .sendActivity, sizeG := h.cb.shrinkSizeG }, [])
    else none
  | .sendActivity =>
    let cb := sendActivity maxMr h.sess h.cb
    some ({ h with cb := cb, pc := .awaitStop }, [cb.sendBuf])
  | .awaitStop => if h.cb.cState = .stop then some ({ h with pc := .readSize }, []) else none
  | .readSize =>
    some ({ h with
      sizeG := h.cb.shrinkSizeG
      pc := if h.cb.shrinkSizeG = 0 then .resetZero else .unmap }, [])
  | .resetZero => some ({ h with cb := { h.cb with cState := .ready }, pc := .loop }, [])
  | .unmap =>
    let marked := markedSlabs maxMr h.cb
    let (sess, cb) := unmapMarked maxMr h.sess h.cb
    some ({ h with
      sess := sess
      cb := cb
      evictList := fun x => marked.any fun i => decide (h.cb.chunkMap i = x)
      pc := .drain }, [])
  | .drain => some ({ h with pc := .sendDone }, [])
  | .sendDone =>
    let (sess, cb) := finishEvict maxMr h.sizeG h.sess h.cb
    some ({ h with sess := sess, cb := cb, pc := .resetDone }, [cb.sendBuf])
  | .resetDone =>
    some ({ h with
      sess := { h.sess with cbStateList := Function.update h.sess.cbStateList cbIndex .evicting }
      cb := { h.cb with cState := .ready }
      pc := .remap }, [])
  | .remap =>
    let sess := forgetEvicted capacityG h.evictList h.sess
    some ({ h with
      sess := { sess with
        cbStateList := Function.update sess.cbStateList cbIndex .mapped
        triggerOn := true }
      pc := .loop }, [])
  | .exited => none

end DisStore
