import DisStore.Daemon
import DisStore.Lib.Probe

/-!
# Freeing, evicting and expanding memory

`evict_mem` and the expansion branch of `free_mem`. A round of `evict_mem` frees unmapped
slabs, asks connections for the activity of their slabs, picks the coldest ones by a partial
exchange sort and tells their owners to stop using them.
-/

namespace DisStore
open DisStore.Lib

/-- `free` of the slab's region. -/
def releaseSlab (d : DaemonState) (i : Nat) : DaemonState :=
  { d with mallocMap := Function.update d.mallocMap i false }

/-- `posix_memalign` of the slab's region. -/
def allocateSlab (d : DaemonState) (i : Nat) : DaemonState :=
  { d with mallocMap := Function.update d.mallocMap i true }

/-- `evict_mem` up to the comment "not enough", with what is left to evict. -/
def freeUnmapped (cfg : DaemonConfig) (d : DaemonState) (stopG : Int) :
    DaemonState × Option Int :=
  match takeLoop DaemonState.freeSlab releaseSlab stopG (List.range cfg.maxFreeMemGb) 0 d with
  | (d, _, true) => ({ d with sizeGb := d.sizeGb - stopG }, none)
  | (d, freedG, false) => ({ d with sizeGb := d.sizeGb - freedG }, some (stopG - freedG))

/-- `expand_size_g` -/
def expandSizeG (cfg : DaemonConfig) (d : DaemonState) (lastFreeMemG : Int) : Int :=
  let expandSizeG := lastFreeMemG - cfg.freeMemExpandThreshold
  if expandSizeG + d.sizeGb > cfg.maxFreeMemGb then cfg.maxFreeMemGb - d.sizeGb else expandSizeG

/-- The expansion branch of `free_mem` once it has been hit often enough. -/
def expandMem (cfg : DaemonConfig) (d : DaemonState) (lastFreeMemG : Int) : DaemonState :=
  let sizeG := expandSizeG cfg d lastFreeMemG
  let d := (takeLoop (fun d i => !d.mallocMap i) allocateSlab sizeG
    (List.range cfg.maxFreeMemGb) 0 d).1
  { d with sizeGb := d.sizeGb + sizeG }

/-- The linear probing of one draw: the next entry that can be selected. -/
def probeSlab (n : Nat) (select : Nat → Int) : Nat → Nat → Option Nat :=
  probe n fun i => decide (select i = 0)

/-- The draws of the sampling branch, one for each outcome of `rand()`, with the array
`random_chunk_select` as they leave it. -/
def sampleDraws (cfg : DaemonConfig) (d : DaemonState) :
    List Nat → (Nat → Int) → (Int → Int) → Option ((Nat → Int) × (Int → Int))
  | [], select, sendList => some (select, sendList)
  | r :: rest, select, sendList => do
    let i ← probeSlab cfg.maxFreeMemGb select cfg.maxFreeMemGb (r % cfg.maxFreeMemGb)
    sampleDraws cfg d rest (Function.update select i 1)
      (Function.update sendList (d.connMap i) 1)

/-- The entries of `random_chunk_select` before the first draw: a mapped slab can be
selected. -/
def mappedSelect (d : DaemonState) : Nat → Int := fun i => if d.connMap i = -1 then -1 else 0

/-- The number of slabs to evict and the connections to ask. -/
def selectTargets (cfg : DaemonConfig) (d : DaemonState) (rand : Nat → Nat) (evictG : Int) :
    Option (Int × (Int → Int)) :=
  if d.mappedSize < evictG + extraChunkNum then
    let evictG := if d.mappedSize < evictG then d.mappedSize else evictG
    some (evictG, fun i =>
      if 0 ≤ i ∧ i < cfg.maxClient ∧ d.connsState i = .mapped then 1 else -1)
  else do
    let draws := (List.range (evictG + extraChunkNum).toNat).map rand
    let (_, sendList) ← sampleDraws cfg d draws (mappedSelect d) fun _ => -1
    some (evictG, sendList)

/-- The slots of the asked connections, in the order of the loops over the table. -/
def askedSlots (cfg : DaemonConfig) (sendList : Int → Int) : List Nat :=
  (List.range cfg.maxClient).filter fun i => decide (sendList i = 1)

/-- Applies a step to the connection of each listed slot. -/
def forSlots (step : DaemonState → ConnId → Option (DaemonState × Outbox)) :
    List Nat → DaemonState → Option (DaemonState × Outbox)
  | [], d => some (d, [])
  | i :: rest, d => do
    let id ← d.conns i
    let (d, out) ← step d id
    let (d, outs) ← forSlots step rest d
    some (d, out ++ outs)

/-- The total that the eviction list is allocated for. -/
def totalChunks (d : DaemonState) (slots : List Nat) : Option Int :=
  slots.foldlM (fun (k : Int) (i : Nat) => do
    let conn ← (d.conns i).bind d.heap
    some (k + conn.mappedChunkSize)) 0

structure ChunkActivity where
  activity : Nat
  chunkIndex : Nat
  deriving DecidableEq

/-- The entries that one ACTIVITY message adds to `evict_list`. -/
def reportedActivity (cfg : DaemonConfig) (msg : Message) : List ChunkActivity :=
  ((List.range cfg.maxFreeMemGb).filter fun m => decide (msg.buf m ≠ 0)).map fun m =>
    ⟨ntohll (msg.buf m), m⟩

/-- An ACTIVITY message is taken and the next message to send is emptied. -/
def takeActivity (c : Connection) : Connection :=
  { c with
    evictSem := c.evictSem - 1
    sendMsg := { c.sendMsg with sizeGb := 0, rkey := fun _ => 0 } }

/-- Collects the ACTIVITY messages of the asked connections. -/
def collectActivity (cfg : DaemonConfig) : List Nat → DaemonState →
    Option (DaemonState × List ChunkActivity)
  | [], d => some (d, [])
  | i :: rest, d => do
    let id ← d.conns i
    let conn ← d.heap id
    guard (0 < conn.evictSem)
    let (d, entries) ← collectActivity cfg rest (d.updateConn id takeActivity)
    some (d, reportedActivity cfg conn.recvMsg ++ entries)

/-- The eviction list once the reports are collected; what `malloc` left lies behind them. -/
def evictionList (reports : List ChunkActivity) (junk : Nat → ChunkActivity) (i : Nat) :
    ChunkActivity :=
  reports.getD i (junk i)

/-- The body of the sorting loops: entries `n` and `m` are exchanged when out of order. -/
def exchangeActivity (n : Nat) (ev : Nat → ChunkActivity) (m : Nat) : Nat → ChunkActivity :=
  if (ev n).activity > (ev m).activity then
    Function.update (Function.update ev n (ev m)) m (ev n)
  else ev

/-- The inner sorting loop for position `n` of `k` entries. -/
def placeColdest (k n : Nat) (ev : Nat → ChunkActivity) : Nat → ChunkActivity :=
  (List.range' (n + 1) (k - (n + 1))).foldl (exchangeActivity n) ev

structure RoundState where
  daemon : DaemonState
  evictList : Nat → ChunkActivity
  sendList : Int → Int
  connIndex : Int

/-- One iteration of the outer sorting loop: the entry placed at `n` is flagged at once. -/
def flagColdest (k : Nat) (r : RoundState) (n : Nat) : Option RoundState := do
  let ev := placeColdest k n r.evictList
  let chunkIndex := (ev n).chunkIndex
  let connIndex := r.daemon.connMap chunkIndex
  let sendList :=
    if r.sendList connIndex = 1 then Function.update r.sendList connIndex 2 else r.sendList
  let id ← r.daemon.conns connIndex
  let d := r.daemon.updateConn id fun c =>
    { c with sendMsg := { c.sendMsg with
        rkey := Function.update c.sendMsg.rkey chunkIndex 1
        sizeGb := c.sendMsg.sizeGb + 1 } }
  some ⟨d, ev, sendList, connIndex⟩

/-- The DONE message that a client answers a STOP message with. -/
def doneReply (stop : Message) : Message :=
  { stop with rkey := fun i => if stop.rkey i ≠ 0 then 1 else 0, type := .done }

/-- `send_stop` with its wait: a STOP of non-zero size returns after its DONE is handled. -/
def stopConnection (cfg : DaemonConfig) (mr : Nat → MemRegion) (n : Int) (d : DaemonState)
    (id : ConnId) : Option (DaemonState × Outbox) := do
  let (d, out) := sendStop d id n
  if n ≠ 0 then
    let stop ← out.head?
    let (d, _) ← onRecv cfg mr d id (doneReply stop.2)
    some (d.updateConn id fun c => { c with stopSem := c.stopSem - 1 }, out)
  else some (d, out)

/-- The final loop of `evict_mem`. Every flagged connection is stopped with the size that
is accumulated in the message of the connection flagged last. -/
def stopLoop (cfg : DaemonConfig) (mr : Nat → MemRegion) (sendList : Int → Int)
    (connIndex : Int) : List Nat → DaemonState → Option (DaemonState × Outbox)
  | [], d => some (d, [])
  | i :: rest, d => do
    let (d, out) ←
      if sendList i = 2 then do
        let last ← (d.conns connIndex).bind d.heap
        let id ← d.conns i
        stopConnection cfg mr last.sendMsg.sizeGb d id
      else if sendList i = 1 then do
        let id ← d.conns i
        stopConnection cfg mr 0 d id
      else some (d, [])
    let (d, outs) ← stopLoop cfg mr sendList connIndex rest d
    some (d, out ++ outs)

/-- What one round of `evict_mem` asks for, decides and sends. -/
structure EvictRound where
  daemon : DaemonState
  evictG : Int
  evicts : Outbox
  stops : Outbox

/-- `evict_mem` after the freeing of unmapped slabs. The replies are the ACTIVITY messages of
the asked connections; `junk` is what `malloc` left in the eviction list. -/
def evictRound (cfg : DaemonConfig) (mr : Nat → MemRegion) (rand : Nat → Nat)
    (reply : ConnId → Message) (junk : Nat → ChunkActivity) (d : DaemonState) (evictG : Int) :
    Option EvictRound := do
  let (j, sendList) ← selectTargets cfg d rand evictG
  let asked := askedSlots cfg sendList
  let k ← totalChunks d asked
  let (d, evicts) ← forSlots (fun d id => some (sendEvict d id j)) asked d
  let (d, _) ← forSlots (fun d id => onRecv cfg mr d id (reply id)) asked d
  let (d, entries) ← collectActivity cfg asked d
  let r ← (List.range j.toNat).foldlM (flagColdest k.toNat)
    ⟨d, evictionList entries junk, sendList, -1⟩
  let (d, stops) ← stopLoop cfg mr r.sendList r.connIndex (List.range cfg.maxClient) r.daemon
  some ⟨d, j, evicts, stops⟩

/-- `evict_mem` -/
def evictMem (cfg : DaemonConfig) (mr : Nat → MemRegion) (rand : Nat → Nat)
    (reply : ConnId → Message) (junk : Nat → ChunkActivity) (d : DaemonState) (stopG : Int) :
    Option EvictRound :=
  match freeUnmapped cfg d stopG with
  | (d, none) => some ⟨d, 0, [], []⟩
  | (d, some evictG) => evictRound cfg mr rand reply junk d evictG

/-- The operations of the daemon's three threads, one at a time. -/
inductive DaemonOp where
  | connect (id : ConnId) (junkIndex : Int) (junkMsg : Message)
  | established (id : ConnId)
  | recv (mr : Nat → MemRegion) (id : ConnId) (msg : Message)
  | freeForEvict (lastFreeMemG : Int)
  | sendEvict (id : ConnId) (n : Int)
  | collect (slots : List Nat)
  | flag (k n : Nat) (evictList : Nat → ChunkActivity) (sendList : Int → Int)
  | sendStop (id : ConnId) (n : Int)
  | awaitStop (id : ConnId)
  | expand (lastFreeMemG : Int)
  | disconnect (id : ConnId)

/-- The amount that `free_mem` evicts. -/
def stopSize (cfg : DaemonConfig) (d : DaemonState) (lastFreeMemG : Int) : Int :=
  let stopSizeG := cfg.freeMemEvictThreshold - lastFreeMemG
  if d.sizeGb < stopSizeG then d.sizeGb else stopSizeG

def daemonStep (cfg : DaemonConfig) (d : DaemonState) : DaemonOp → Option DaemonState
  | .connect id junkIndex junkMsg =>
    if d.heap id = none then some (buildConnection cfg d id junkIndex junkMsg) else none
  | .established id => (sendFreeMemSize d id).map (·.1)
  | .recv mr id msg => (onRecv cfg mr d id msg).map (·.1)
  | .freeForEvict lastFreeMemG =>
    if lastFreeMemG < cfg.freeMemEvictThreshold ∧ 0 < stopSize cfg d lastFreeMemG then
      some (freeUnmapped cfg d (stopSize cfg d lastFreeMemG)).1
    else none
  | .sendEvict id n => some (sendEvict d id n).1
  | .collect slots => (collectActivity cfg slots d).map (·.1)
  | .flag k n evictList sendList =>
    (flagColdest k ⟨d, evictList, sendList, -1⟩ n).map (·.daemon)
  | .sendStop id n => some (sendStop d id n).1
  | .awaitStop id =>
    match d.heap id with
    | some conn =>
      if 0 < conn.stopSem then
        some (d.updateConn id fun c => { c with stopSem := c.stopSem - 1 })
      else none
    | none => none
  | .expand lastFreeMemG =>
    if lastFreeMemG > cfg.freeMemExpandThreshold then some (expandMem cfg d lastFreeMemG) else none
  | .disconnect id => destroyConnection cfg d id

end DisStore
