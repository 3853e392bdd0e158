import DisStore.Route

/-!
# Hardware queues and NUMA nodes

`IS_alloc_hctx` counts through the hardware queues to find the node that a queue belongs to.
The quotients are taken in unsigned arithmetic and stored in variables of type `int`.
-/

namespace DisStore
open Lib

/-- `DIV_ROUND_UP` -/
def divRoundUp (n d : Nat) : Nat := (n + d + (2 ^ 32 - 1)) % 2 ^ 32 / d

/-- The variables of the counting loop. -/
structure HctxCount where
  n : Int
  node : Int
  tip : Int
  bSize : Int
  deriving DecidableEq

/-- The variables before the loop. -/
def hctxInit (nrHwQueues nrOnlineNodes : Nat) : HctxCount :=
  { n := 1
    node := 0
    tip := toInt32 (nrHwQueues % nrOnlineNodes : Nat)
    bSize := toInt32 (divRoundUp nrHwQueues nrOnlineNodes) }

/-- The body of the loop with its `n++`; `none` is a division by zero. -/
def hctxBody (nrHwQueues nrOnlineNodes : Nat) (l : HctxCount) : Option HctxCount :=
  if l.bSize = 0 then none
  else if l.n.tmod l.bSize = 0 then
    let tip := l.tip - 1
    some
      { n := 0 + 1
        node := l.node + 1
        tip := tip
        bSize := if tip = 0 then toInt32 (nrHwQueues / nrOnlineNodes : Nat) else l.bSize }
  else some { l with n := l.n + 1 }

/-- The loop, for `hctx_index` iterations. -/
def hctxLoop (nrHwQueues nrOnlineNodes : Nat) : Nat → Option HctxCount
  | 0 => some (hctxInit nrHwQueues nrOnlineNodes)
  | i + 1 => (hctxLoop nrHwQueues nrOnlineNodes i).bind (hctxBody nrHwQueues nrOnlineNodes)

/-- The relative node of a queue. -/
def relativeNode (nrHwQueues nrOnlineNodes hctxIndex : Nat) : Option Int :=
  (hctxLoop nrHwQueues nrOnlineNodes hctxIndex).map HctxCount.node

/-- `for_each_online_node` with the countdown of `node`; `maxNumnodes` is where the iteration
ends. -/
def realNode (maxNumnodes : Nat) : List Nat → Int → Nat
  | [], _ => maxNumnodes
  | n :: online, node => if node = 0 then n else realNode maxNumnodes online (node - 1)

/-- The node that `IS_alloc_hctx` allocates the queue on. -/
def isAllocHctx (maxNumnodes nrHwQueues nrOnlineNodes : Nat) (online : List Nat)
    (hctxIndex : Nat) : Option Nat :=
  (relativeNode nrHwQueues nrOnlineNodes hctxIndex).map (realNode maxNumnodes online)

end DisStore
