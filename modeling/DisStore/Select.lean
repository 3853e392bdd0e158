import DisStore.Client
import DisStore.Lib.Bytes
import DisStore.Lib.Probe

/-!
# Choosing a server

`IS_single_chunk_map` asks some of the servers for their free memory and binds a slab of the
one that has most. The number of servers is in the global `NUM_CB`, which every
`IS_session_create` overwrites, and in `cb_num` of the session, which the tables of the
session are allocated with.
-/

namespace DisStore
open Lib

/-- `cb_state < CB_EVICTING` -/
def CbState.available : CbState → Bool
  | .idle | .connected | .mapped => true
  | .evicting | .fail => false

/-- `avail_cb` -/
def availCb (numCb : Nat) (s : Session) : Nat :=
  numCb - (List.range numCb).countP fun i => !(s.cbStateList i).available

/-- A server that the probing passes over. -/
def cbBusy (s : Session) (taken : Nat → Bool) (i : Nat) : Bool :=
  !(s.cbStateList i).available || taken i

/-- The probing of one draw. -/
def probeCb (numCb : Nat) (s : Session) (taken : Nat → Bool) : Nat → Nat → Option Nat :=
  probe numCb fun i => !cbBusy s taken i

/-- The draws of the random branch; `taken` is `random_cb_selection`. -/
def drawCbs (numCb : Nat) (s : Session) : List Nat → (Nat → Bool) → Option (List Nat)
  | [], _ => some []
  | r :: rest, taken => do
    let i ← probeCb numCb s taken numCb (r % numCb)
    let selection ← drawCbs numCb s rest (Function.update taken i true)
    some (i :: selection)

/-- The entries of `selection`, given the outcomes of `get_random_bytes`. -/
def selectCbs (numCb cbNum selectNum : Nat) (s : Session) (draws : Nat → Nat) :
    Option (List Nat) :=
  if availCb numCb s ≤ selectNum then
    some ((List.range cbNum).filter fun i => (s.cbStateList i).available)
  else drawCbs numCb s ((List.range selectNum).map draws) fun _ => false

/-- What the loop over the selected servers has found out. -/
structure ServerQuery where
  sess : Session
  queried : List Nat
  freeMem : Nat → Int
  freeMemSorted : Nat → Int

/-- A selected server is asked for its free memory; an idle one is connected first and then
sends it unasked. -/
def queryServer (reply : Nat → Int) (q : ServerQuery) (x : Nat × Nat) : ServerQuery :=
  let (cbIndex, i) := x
  if q.sess.cbStateList cbIndex = .fail then q
  else
    { sess :=
        if q.sess.cbStateList cbIndex = .idle then
          { q.sess with cbStateList := Function.update q.sess.cbStateList cbIndex .connected }
        else q.sess
      queried := q.queried ++ [cbIndex]
      freeMem := Function.update q.freeMem i (reply cbIndex)
      freeMemSorted := Function.update q.freeMemSorted i cbIndex }

/-- The exchange of entries 0 and `j` by an addition and two subtractions. -/
def exchangeFirst (a : Nat → Int) (j : Nat) : Nat → Int :=
  let a := Function.update a 0 (toInt32 (a 0 + a j))
  let a := Function.update a j (toInt32 (a 0 - a j))
  Function.update a 0 (toInt32 (a 0 - a j))

/-- The body of the loop that looks for the server with most free memory. -/
def moreFree (m : (Nat → Int) × (Nat → Int)) (j : Nat) : (Nat → Int) × (Nat → Int) :=
  if m.1 0 < m.1 j then (exchangeFirst m.1 j, exchangeFirst m.2 j) else m

/-- The servers that a call has asked, the one that it has sent BIND_SINGLE to and what it
returns. -/
structure MapChoice where
  sess : Session
  queried : List Nat
  bound : Option Int
  result : Int

/-- `IS_single_chunk_map`, with the answer of each server; server states change only by the
call itself. -/
def singleChunkMap (numCb cbNum selectNum : Nat) (s : Session) (draws : Nat → Nat)
    (reply : Nat → Int) (selectChunk : Int) : Option MapChoice := do
  let selection ← selectCbs numCb cbNum selectNum s draws
  if selection = [] then some ⟨s, [], none, -1⟩
  else
    let q := selection.zipIdx.foldl (queryServer reply) ⟨s, [], fun _ => -1, fun _ => numCb⟩
    let (freeMem, freeMemSorted) :=
      (List.range' 1 (selection.length - 1)).foldl moreFree (q.freeMem, q.freeMemSorted)
    if freeMem 0 = 0 then some ⟨q.sess, q.queried, none, -1⟩
    else
      let cbIndex := freeMemSorted 0
      let sess :=
        if q.sess.cbStateList cbIndex.toNat = .connected then
          { q.sess with mappedCbNum := q.sess.mappedCbNum + 1 }
        else q.sess
      some ⟨{ sess with rdmaOn := true }, q.queried, some cbIndex, selectChunk⟩

/-- The servers whose `cb_state_list` entry one draw looks at. -/
def probeVisits (numCb : Nat) (s : Session) (taken : Nat → Bool) : Nat → Nat → List Nat
  | 0, _ => []
  | fuel + 1, r =>
    r :: if cbBusy s taken r then probeVisits numCb s taken fuel ((r + 1) % numCb) else []

/-- The same for all draws, up to one that does not end. -/
def drawVisits (numCb : Nat) (s : Session) : List Nat → (Nat → Bool) → List Nat
  | [], _ => []
  | r :: rest, taken =>
    probeVisits numCb s taken numCb (r % numCb) ++
      match probeCb numCb s taken numCb (r % numCb) with
      | some i => drawVisits numCb s rest (Function.update taken i true)
      | none => []

/-- The indices that a call uses into `cb_state_list`. -/
def stateIndices (numCb cbNum selectNum : Nat) (s : Session) (draws : Nat → Nat) : List Nat :=
  List.range numCb ++
    (if availCb numCb s ≤ selectNum then List.range cbNum
      else drawVisits numCb s ((List.range selectNum).map draws) fun _ => false) ++
    (selectCbs numCb cbNum selectNum s draws).getD []

/-- The indices that a call uses into `cb_list`, of the servers it asks and the one it binds;
the latter is also the index into `ctx_pools`. -/
def cbIndices (numCb cbNum selectNum : Nat) (s : Session) (draws : Nat → Nat)
    (reply : Nat → Int) (selectChunk : Int) : List Int :=
  match singleChunkMap numCb cbNum selectNum s draws reply selectChunk with
  | some r => r.queried.map (fun i : Nat => (i : Int)) ++ r.bound.toList
  | none => []

/-- The sizes that the tables of a session are allocated with: `cb_list` and `cb_state_list`,
and `ctx_pools` of its connections. -/
structure SessionTables where
  cbNum : Nat
  ctxPools : Nat
  deriving DecidableEq

/-- The sessions of the driver share `NUM_CB`. -/
structure Driver where
  numCb : Nat
  sessions : List SessionTables

def driverInit : Driver := ⟨0, []⟩

/-- `IS_session_create` for a portal with `pCount` servers: `portal_parser` sets `NUM_CB` and
`cb_num`, `IS_create_conn` allocates NUM_CB pools. -/
def createSession (drv : Driver) (pCount : Nat) : Driver :=
  let numCb := pCount
  let cbNum := numCb
  { numCb := numCb
    sessions := drv.sessions ++ [⟨cbNum, numCb⟩] }

end DisStore
