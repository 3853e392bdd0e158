import DisStore.Client
import DisStore.Evict

/-!
# The activity of chunks

`rdma_trigger` turns the requests that it has counted for a chunk in a period into the number
`last_ops`, which decides about mapping the chunk and is reported when a server evicts.
Everything is in unsigned 64-bit arithmetic.
-/

namespace DisStore

/-- `RDMA_W_WEIGHT` -/
def rdmaWWeight : Nat := 50

/-- `RDMA_CUR_WEIGHT` -/
def rdmaCurWeight : Nat := 80

/-- `RDMA_TRIGGER_THRESHOLD` -/
def rdmaTriggerThreshold : Nat := 0

/-- What a period takes out of `write_ops` and `read_ops`, by chunk. -/
structure PeriodOps where
  writeOps : Nat → Nat
  readOps : Nat → Nat

/-- `cur_ops` before it is cut to 64 bits. -/
def PeriodOps.weighted (ops : PeriodOps) (i : Nat) : Nat :=
  rdmaWWeight * ops.writeOps i + (100 - rdmaWWeight) * ops.readOps i

/-- `filtered_ops` of chunk `i`. -/
def filteredOps (ops : PeriodOps) (lastOps : Int → Nat) (i : Nat) : Nat :=
  let curOps := ops.weighted i % 2 ^ 64
  (rdmaCurWeight * curOps + (100 - rdmaCurWeight) * lastOps i) % 2 ^ 64

/-- The loop body of `rdma_trigger` up to the comparison with the threshold. -/
def sampleChunk (ops : PeriodOps) (lastOps : Int → Nat) (i : Nat) : Int → Nat :=
  Function.update lastOps i (filteredOps ops lastOps i)

/-- The loop body of `rdma_trigger`: the session with its new `last_ops`, and whether
`IS_single_chunk_map` is called for the chunk. -/
def triggerChunk (ops : PeriodOps) (s : Session) (i : Nat) : Session × Bool :=
  let s := { s with lastOps := sampleChunk ops s.lastOps i }
  (s, decide (s.lastOps i > rdmaTriggerThreshold) && s.triggerOn && decide (s.cbIndexMap i = -1))

/-- A period of `rdma_trigger` on `last_ops`. -/
def triggerPeriod (capacityG : Nat) (lastOps : Int → Nat) (ops : PeriodOps) : Int → Nat :=
  (List.range capacityG).foldl (sampleChunk ops) lastOps

/-- One chunk of one period, whichever comes next. -/
def sampleStep (capacityG : Nat) (lastOps : Int → Nat) (e : PeriodOps × Nat) :
    Option (Int → Nat) :=
  if e.2 < capacityG then some (sampleChunk e.1 lastOps e.2) else none

/-- One period of `rdma_trigger` after the other. -/
def periodStep (capacityG : Nat) (lastOps : Int → Nat) (ops : PeriodOps) : Option (Int → Nat) :=
  some (triggerPeriod capacityG lastOps ops)

end DisStore
