import DisStore.Evict

/-!
# An eviction round beside the requests of its client

A round of `evict_mem` that asks one connection, cut at its waits and between its collecting,
sorting and sending loops, with the QUERY and BIND_SINGLE messages that `on_completion`
handles in between. A message is handled only when a receive is posted: ACTIVITY takes the
posted one and `evict_mem` posts the next when it has collected the report. All messages of
the connection are built in its one `send_msg`; posting a message copies it.
-/

namespace DisStore

/-- The loop of `evict_mem` that comes next, with what the earlier ones leave behind. `chosen`
are the slabs that the sort has put in front. -/
inductive RoundPc where
  | collecting
  | sorting (entries : List ChunkActivity)
  | stopping (chosen : List Nat) (sendList : Int → Int) (connIndex : Int)
  | stopped (chosen : List Nat) (stop : Message)

/-- The local variables `j`, `k` and `send_list` with the connection that is asked. `owned` are
the slabs that it has when EVICT is sent. -/
structure RoundPlan where
  slot : Nat
  id : ConnId
  evictG : Int
  total : Int
  sendList : Int → Int
  owned : List Nat

structure SoloRound where
  daemon : DaemonState
  pc : RoundPc
  posted : Bool
  sent : List Message

inductive RoundEvent where
  | request (mr : Nat → MemRegion) (msg : Message)
  | activity (msg : Message)
  | collect
  | sort
  | stop

/-- `evict_mem` after the freeing of unmapped slabs, up to the EVICT message of the only
connection that is asked. -/
def beginRound (cfg : DaemonConfig) (rand : Nat → Nat) (d : DaemonState) (evictG : Int) :
    Option (RoundPlan × SoloRound) := do
  let (j, sendList) ← selectTargets cfg d rand evictG
  match askedSlots cfg sendList with
  | [slot] =>
    let k ← totalChunks d [slot]
    let id ← d.conns slot
    let (d', evicts) := sendEvict d id j
    some (
      { slot := slot
        id := id
        evictG := j
        total := k
        sendList := sendList
        owned := (List.range cfg.maxFreeMemGb).filter fun m => decide (d.connMap m = slot) },
      { daemon := d'
        pc := .collecting
        posted := true
        sent := evicts.map Prod.snd })
  | _ => none

/-- The client reports slabs that it has, among them all that it had when EVICT was sent. -/
def reportsOwn (cfg : DaemonConfig) (p : RoundPlan) (d : DaemonState) (msg : Message) : Bool :=
  p.owned.all (fun m => decide (msg.buf m ≠ 0)) &&
    (List.range cfg.maxFreeMemGb).all fun m => decide (msg.buf m ≠ 0 → d.connMap m = p.slot)

/-- The size that the final loop of `evict_mem` passes to `send_stop` for the connection. -/
def soloStopSize (p : RoundPlan) (sendList : Int → Int) (connIndex : Int) (d : DaemonState) :
    Option Int :=
  if sendList p.slot = 2 then
    ((d.conns connIndex).bind d.heap).map fun last => last.sendMsg.sizeGb
  else if sendList p.slot = 1 then some 0
  else none

def roundStep (cfg : DaemonConfig) (junk : Nat → ChunkActivity) (p : RoundPlan) (r : SoloRound) :
    RoundEvent → Option SoloRound
  | .request mr msg =>
    if r.posted ∧ (msg.type = .query ∨ msg.type = .bindSingle) then do
      let (d, out) ← onRecv cfg mr r.daemon p.id msg
      some { r with daemon := d, sent := r.sent ++ out.map Prod.snd }
    else none
  | .activity msg =>
    match r.pc with
    | .collecting =>
      if r.posted ∧ msg.type = .activity ∧ reportsOwn cfg p r.daemon msg then do
        let (d, _) ← onRecv cfg (fun _ => ⟨0, 0⟩) r.daemon p.id msg
        some { r with daemon := d, posted := false }
      else none
    | _ => none
  | .collect =>
    match r.pc with
    | .collecting => do
      let (d, entries) ← collectActivity cfg [p.slot] r.daemon
      some { r with daemon := d, pc := .sorting entries, posted := true }
    | _ => none
  | .sort =>
    match r.pc with
    | .sorting entries => do
      let s ← (List.range p.evictG.toNat).foldlM (flagColdest p.total.toNat)
        ⟨r.daemon, evictionList entries junk, p.sendList, -1⟩
      let chosen := (List.range p.evictG.toNat).map fun n => (s.evictList n).chunkIndex
      some { r with daemon := s.daemon, pc := .stopping chosen s.sendList s.connIndex }
    | _ => none
  | .stop =>
    match r.pc with
    | .stopping chosen sendList connIndex => do
      let n ← soloStopSize p sendList connIndex r.daemon
      let (d, out) := sendStop r.daemon p.id n
      let stop ← out.head?
      some { r with daemon := d, pc := .stopped chosen stop.2, sent := r.sent ++ [stop.2] }
    | _ => none

end DisStore
