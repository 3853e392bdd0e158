import DisStore.Evict

/-!
# Connection events and the memory monitor

`on_event` builds and destroys connections in the main thread of the daemon while the thread
of `free_mem` looks at the free memory once per second, as long as `running` is set. The
reading after the filter is the input of an iteration; `evict_mem` is recorded as a call, it
changes neither the connection count nor `running`.
-/

namespace DisStore

/-- The events of `on_event` that change the connections; a request comes with the contents of
the block that `malloc` returns. -/
inductive ConnEvent
  | connectRequest (id : ConnId) (junkIndex : Int) (junkMsg : Message)
  | disconnected (id : ConnId)

/-- `on_connect_request` and `on_disconnect`. -/
def onEvent (cfg : DaemonConfig) (d : DaemonState) : ConnEvent → Option DaemonState
  | .connectRequest id junkIndex junkMsg =>
    if d.heap id = none then some (buildConnection cfg d id junkIndex junkMsg) else none
  | .disconnected id => destroyConnection cfg d id

/-- `MEM_EVICT_HIT_THRESHOLD` and `MEM_EXPAND_HIT_THRESHOLD`. -/
structure HitThresholds where
  memEvict : Nat
  memExpand : Nat

/-- The values of `rdma-common.h` when nothing is configured. -/
def defaultHits : HitThresholds := ⟨1, 20⟩

/-- The variables of `free_mem` that outlive an iteration. -/
structure FreeMem where
  lastFreeMemG : Int
  evictHitCount : Nat
  expandHitCount : Nat

/-- What an iteration has started. -/
inductive MonitorCall
  | evictMem (stopSizeG : Int)
  | expand
  deriving DecidableEq

/-- The session, the thread of `free_mem` (`none` once it has left its loop) and the calls it
has made. -/
structure MonitorState where
  daemon : DaemonState
  freeMem : Option FreeMem
  calls : List MonitorCall

/-- `main` up to the accept loop and `free_mem` up to its loop. -/
def monitorInit (cfg : DaemonConfig) (freeMemG lastFreeMemG : Int) : MonitorState :=
  { daemon := rdmaSessionInit cfg freeMemG
    freeMem := some ⟨lastFreeMemG, 0, 0⟩
    calls := [] }

/-- The body of the loop of `free_mem` for a filtered reading. -/
def freeMemBody (cfg : DaemonConfig) (hits : HitThresholds) (s : MonitorState) (m : FreeMem)
    (filteredFreeMemG : Int) : MonitorState :=
  let m := { m with lastFreeMemG := filteredFreeMemG }
  if filteredFreeMemG < cfg.freeMemEvictThreshold then
    let m := { m with evictHitCount := m.evictHitCount + 1, expandHitCount := 0 }
    if hits.memEvict ≤ m.evictHitCount then
      let stopSizeG := cfg.freeMemEvictThreshold - m.lastFreeMemG
      let stopSizeG := if s.daemon.sizeGb < stopSizeG then s.daemon.sizeGb else stopSizeG
      { s with
        freeMem := some { m with evictHitCount := 0, lastFreeMemG := m.lastFreeMemG + stopSizeG }
        calls := if stopSizeG > 0 then s.calls ++ [.evictMem stopSizeG] else s.calls }
    else { s with freeMem := some m }
  else if filteredFreeMemG > cfg.freeMemExpandThreshold then
    let m := { m with expandHitCount := m.expandHitCount + 1, evictHitCount := 0 }
    if hits.memExpand ≤ m.expandHitCount then
      { daemon := expandMem cfg s.daemon m.lastFreeMemG
        freeMem := some { m with
          expandHitCount := 0
          lastFreeMemG := m.lastFreeMemG - expandSizeG cfg s.daemon m.lastFreeMemG }
        calls := s.calls ++ [.expand] }
    else { s with freeMem := some m }
  else { s with freeMem := some m }

inductive MonitorEvent
  | conn (e : ConnEvent)
  | look (filteredFreeMemG : Int)

/-- The main thread handles an event, or the monitor comes to the head of its loop. -/
def monitorStep (cfg : DaemonConfig) (hits : HitThresholds) (s : MonitorState) :
    MonitorEvent → Option MonitorState
  | .conn e => (onEvent cfg s.daemon e).map fun d => { s with daemon := d }
  | .look filteredFreeMemG => do
    let m ← s.freeMem
    if s.daemon.running then some (freeMemBody cfg hits s m filteredFreeMemG)
    else some { s with freeMem := none }

end DisStore
