import DisStore.Protocol
import DisStore.Chunks
import DisStore.Proofs.DaemonMaps
import DisStore.Proofs.ReplyState

/-!
# Slabs belong to one connection

A slab of a connection is at one place: in the `chunk_map` of the block device, in an
INFO_SINGLE message on its way to the block device or in a DONE message on its way back. The
round of `evict_mem` orders the eviction messages: a STOP flags slabs that are mapped, because
nothing is unmapped between the ACTIVITY message and the STOP.
-/

namespace DisStore.Proofs
open DisStore DisStore.Lib

/-- INFO_SINGLE that grants slab `i`. -/
def grantsSlab (maxMr i : Nat) (m : Message) : Bool :=
  decide (m.type = .infoSingle ∧ grantedSlab maxMr m = some i)

/-- DONE that returns slab `i`. -/
def returnsSlab (i : Nat) (m : Message) : Bool := decide (m.type = .done ∧ m.rkey i ≠ 0)

/-- STOP that asks for slabs. -/
def stopsSlabs (m : Message) : Bool := decide (m.type = .stop ∧ m.sizeGb ≠ 0)

def hasType (t : MsgType) (m : Message) : Bool := decide (m.type = t)

lemma hasType_of_eq {t : MsgType} {m : Message} (h : m.type = t) : hasType t m = true :=
  decide_eq_true h

def roundAsked : PeerRound → Nat
  | .asked => 1
  | _ => 0

def roundAwaits : PeerRound → Nat
  | .awaitDone => 1
  | _ => 0

/-- `evict_handler` will answer the EVICT that has been received. -/
def evictPending (p : Peer) : Bool := decide (p.waits = .evict ∧ p.cb.cState = .evict)

/-- A STOP with a size has been received and not been acted on. -/
def stopPending (p : Peer) : Bool := decide (p.cb.cState = .stop ∧ p.cb.shrinkSizeG ≠ 0)

/-- The flags of a table below `maxMr` lie on mapped slabs. -/
def FlagsMapped (maxMr : Nat) (p : Peer) (flag : Nat → Prop) : Prop :=
  ∀ i < maxMr, flag i → p.cb.chunkMap i ≠ -1

/-- One connection. `owns` are the slabs that the daemon has given to it, `sem` is its
`stop_sem`. -/
structure ConnInv (maxMr : Nat) (owns : Nat → Bool) (sem : Nat) (p : Peer) : Prop where
  place : ∀ i < maxMr, (if p.cb.chunkMap i = -1 then 0 else 1) +
    p.toClient.countP (grantsSlab maxMr i) + p.toDaemon.countP (returnsSlab i) =
      if owns i then 1 else 0
  up : p.cb.state.isConnected = true ∧ p.cb.state ≠ .error
  replies : ∀ m ∈ p.toClient, isAnswer m = true ∨ m.type = .evict ∨ m.type = .stop
  requests : ∀ m ∈ p.toDaemon,
    m.type = .query ∨ m.type = .bindSingle ∨ m.type = .activity ∨ m.type = .done
  grants : ∀ m ∈ p.toClient, m.type = .infoSingle → 0 ≤ m.sizeGb
  binds : ∀ m ∈ p.toDaemon, m.type = .bindSingle → 0 ≤ m.sizeGb
  asked : p.toClient.countP (hasType .evict) + (evictPending p).toNat +
    p.toDaemon.countP (hasType .activity) ≤ roundAsked p.round
  stopped : p.toClient.countP stopsSlabs + (stopPending p).toNat +
    p.toDaemon.countP (hasType .done) + sem ≤ roundAwaits p.round
  marked : stopPending p = true → FlagsMapped maxMr p fun i => p.cb.evictChunkMap i = true
  stops : ∀ m ∈ p.toClient, stopsSlabs m = true → FlagsMapped maxMr p fun i => m.rkey i ≠ 0
  reports : ∀ m ∈ p.toDaemon, m.type = .activity → FlagsMapped maxMr p fun i => m.buf i ≠ 0
  reported : ∀ slabs, p.round = .reported slabs → FlagsMapped maxMr p fun i => slabs i = true

variable {maxMr : Nat} {owns : Nat → Bool} {sem : Nat} {p : Peer}

lemma ConnInv.init (maxMr : Nat) (sess : Session) (howns : ∀ i < maxMr, owns i = false) :
    ConnInv maxMr owns 0 (peerInit sess) := by
  constructor
  · intro i hi
    simp [peerInit, kernelCbInit, howns i hi]
  · simp [peerInit, TestState.isConnected]
  all_goals simp [peerInit, kernelCbInit, evictPending, stopPending]

/-- A message enters the channel to the daemon that neither returns slabs nor belongs to a
round. -/
lemma ConnInv.request (h : ConnInv maxMr owns sem p) {m : Message}
    (htype : m.type = .query ∨ m.type = .bindSingle ∧ 0 ≤ m.sizeGb) :
    ConnInv maxMr owns sem (p.post { p.cb with sendBuf := m }) := by
  have hdone : m.type ≠ .done := by rcases htype with h | h <;> simp [h]
  have hact : m.type ≠ .activity := by rcases htype with h | h <;> simp [h]
  have hcount : ∀ q : Message → Bool, q m = false → (p.toDaemon ++ [m]).countP q =
      p.toDaemon.countP q := by
    intro q hq
    rw [List.countP_append, List.countP_singleton, hq, if_neg Bool.false_ne_true, add_zero]
  refine ⟨?_, h.up, h.replies, ?_, h.grants, ?_, ?_, ?_, h.marked, h.stops, ?_, h.reported⟩
  · intro i hi
    change _ + _ + (p.toDaemon ++ [m]).countP _ = _
    rw [hcount _ (decide_eq_false fun hm => hdone hm.1)]
    exact h.place i hi
  · refine List.forall_mem_append.mpr ⟨h.requests, List.forall_mem_singleton.mpr ?_⟩
    rcases htype with ht | ht
    · exact .inl ht
    · exact .inr (.inl ht.1)
  · refine List.forall_mem_append.mpr ⟨h.binds, List.forall_mem_singleton.mpr fun ht' => ?_⟩
    rcases htype with ht | ht
    · cases ht.symm.trans ht'
    · exact ht.2
  · change _ + _ + (p.toDaemon ++ [m]).countP _ ≤ _
    rw [hcount _ (decide_eq_false hact)]
    exact h.asked
  · change _ + _ + (p.toDaemon ++ [m]).countP _ + _ ≤ _
    rw [hcount _ (decide_eq_false hdone)]
    exact h.stopped
  · exact List.forall_mem_append.mpr
      ⟨h.reports, List.forall_mem_singleton.mpr fun ht' => (hact ht').elim⟩

lemma ConnInv.take (h : ConnInv maxMr owns sem p) {m : Message} {rest : List Message}
    (hm : p.toDaemon = m :: rest) (htype : m.type = .query ∨ m.type = .bindSingle) :
    ConnInv maxMr owns sem { p with toDaemon := rest } := by
  have hdone : m.type ≠ .done := by rcases htype with h | h <;> simp [h]
  have hact : m.type ≠ .activity := by rcases htype with h | h <;> simp [h]
  have hcount : ∀ q : Message → Bool, q m = false → rest.countP q = p.toDaemon.countP q := by
    intro q hq
    rw [hm, List.countP_cons, hq, if_neg Bool.false_ne_true, add_zero]
  have hrest : ∀ x ∈ rest, x ∈ p.toDaemon := fun x hx => hm ▸ List.mem_cons_of_mem _ hx
  refine ⟨?_, h.up, h.replies, fun x hx => h.requests x (hrest x hx), h.grants,
    fun x hx => h.binds x (hrest x hx), ?_, ?_, h.marked, h.stops,
    fun x hx => h.reports x (hrest x hx), h.reported⟩
  · intro i hi
    change _ + _ + rest.countP _ = _
    rw [hcount _ (decide_eq_false fun hm => hdone hm.1)]
    exact h.place i hi
  · change _ + _ + rest.countP _ ≤ _
    rw [hcount _ (decide_eq_false hact)]
    exact h.asked
  · change _ + _ + rest.countP _ + _ ≤ _
    rw [hcount _ (decide_eq_false hdone)]
    exact h.stopped

/-- The daemon posts a message: a granted slab has become the connection's own, and a message
of a round starts the next part of the round. -/
lemma ConnInv.deliver (h : ConnInv maxMr owns sem p) {m : Message} {owns' : Nat → Bool}
    {round : PeerRound} (htype : isAnswer m = true ∨ m.type = .evict ∨ m.type = .stop)
    (hsize : m.type = .infoSingle → 0 ≤ m.sizeGb)
    (hplace : ∀ i < maxMr, (if owns' i then 1 else 0) =
      (if owns i then 1 else 0) + [m].countP (grantsSlab maxMr i))
    (hasked : roundAsked p.round + [m].countP (hasType .evict) ≤ roundAsked round)
    (hstopped : roundAwaits p.round + [m].countP stopsSlabs ≤ roundAwaits round)
    (hstops : stopsSlabs m = true → FlagsMapped maxMr p fun i => m.rkey i ≠ 0)
    (hreported : ∀ slabs, round = .reported slabs → p.round = .reported slabs) :
    ConnInv maxMr owns' sem ({ p with round := round }.deliver [m]) := by
  refine ⟨?_, h.up, ?_, h.requests, ?_, h.binds, ?_, ?_, h.marked, ?_, h.reports,
    fun slabs hs => h.reported slabs (hreported slabs hs)⟩
  · intro i hi
    rw [hplace i hi, ← h.place i hi]
    change (if p.cb.chunkMap i = -1 then 0 else 1) + (p.toClient ++ [m]).countP _ +
      p.toDaemon.countP _ = _
    rw [List.countP_append]
    omega
  · exact List.forall_mem_append.mpr ⟨h.replies, List.forall_mem_singleton.mpr htype⟩
  · exact List.forall_mem_append.mpr ⟨h.grants, List.forall_mem_singleton.mpr hsize⟩
  · have hold := h.asked
    change (p.toClient ++ [m]).countP _ + (evictPending p).toNat + p.toDaemon.countP _ ≤
      roundAsked round
    rw [List.countP_append]
    omega
  · have hold := h.stopped
    change (p.toClient ++ [m]).countP _ + (stopPending p).toNat + p.toDaemon.countP _ + sem ≤
      roundAwaits round
    rw [List.countP_append]
    omega
  · exact List.forall_mem_append.mpr ⟨h.stops, List.forall_mem_singleton.mpr hstops⟩

/-- ACTIVITY is received: the flags of the round are what it reports. -/
lemma ConnInv.takeActivity (h : ConnInv maxMr owns sem p) {m : Message} {rest : List Message}
    (hm : p.toDaemon = m :: rest) (htype : m.type = .activity) :
    ConnInv maxMr owns sem
      { p with toDaemon := rest, round := .reported fun i => decide (m.buf i ≠ 0) } := by
  have hmem : m ∈ p.toDaemon := by simp [hm]
  have hrest : ∀ x ∈ rest, x ∈ p.toDaemon := fun x hx => hm ▸ List.mem_cons_of_mem _ hx
  have hasked := h.asked
  have hact : p.toDaemon.countP (hasType .activity) = rest.countP (hasType .activity) + 1 := by
    rw [hm, List.countP_cons, if_pos (hasType_of_eq htype)]
  -- the round was waiting for this message and for nothing else
  obtain ⟨hround, hnone⟩ : p.round = .asked ∧ p.toClient.countP (hasType .evict) +
      (evictPending p).toNat + rest.countP (hasType .activity) = 0 := by
    cases hr : p.round <;> simp only [hr, roundAsked] at hasked
    · omega
    · exact ⟨rfl, by omega⟩
    · omega
    · omega
  refine ⟨?_, h.up, h.replies, fun x hx => h.requests x (hrest x hx), h.grants,
    fun x hx => h.binds x (hrest x hx), ?_, ?_, h.marked, h.stops,
    fun x hx => h.reports x (hrest x hx), ?_⟩
  · intro i hi
    have hplace := h.place i hi
    rw [hm, List.countP_cons, returnsSlab, decide_eq_false (by simp [htype]),
      if_neg Bool.false_ne_true, add_zero] at hplace
    exact hplace
  · change p.toClient.countP _ + (evictPending p).toNat + rest.countP _ ≤ 0
    omega
  · have hstopped := h.stopped
    rw [hround, hm, List.countP_cons] at hstopped
    change p.toClient.countP _ + (stopPending p).toNat + rest.countP _ + sem ≤ 0
    simp only [roundAwaits] at hstopped
    omega
  · intro slabs hslabs i hi hflag
    cases hslabs
    exact h.reports m hmem htype i hi (of_decide_eq_true hflag)

/-- DONE is received: the returned slabs are no longer the connection's own. -/
lemma ConnInv.takeDone (h : ConnInv maxMr owns sem p) {m : Message} {rest : List Message}
    (hm : p.toDaemon = m :: rest) (htype : m.type = .done) :
    ConnInv maxMr (fun i => if m.rkey i ≠ 0 then false else owns i) (sem + 1)
      { p with toDaemon := rest } := by
  have hrest : ∀ x ∈ rest, x ∈ p.toDaemon := fun x hx => hm ▸ List.mem_cons_of_mem _ hx
  refine ⟨?_, h.up, h.replies, fun x hx => h.requests x (hrest x hx), h.grants,
    fun x hx => h.binds x (hrest x hx), ?_, ?_, h.marked, h.stops,
    fun x hx => h.reports x (hrest x hx), h.reported⟩
  · intro i hi
    have hplace := h.place i hi
    rw [hm, List.countP_cons] at hplace
    by_cases hkey : m.rkey i ≠ 0
    · have hret : returnsSlab i m = true := decide_eq_true ⟨htype, hkey⟩
      rw [if_pos hret] at hplace
      simp only [if_pos hkey, Bool.false_eq_true, if_false]
      split_ifs at hplace ⊢ <;> omega
    · have hret : returnsSlab i m = false := decide_eq_false fun hr => hkey hr.2
      rw [hret, if_neg Bool.false_ne_true, add_zero] at hplace
      simp only [if_neg hkey]
      exact hplace
  · have hasked := h.asked
    rw [hm, List.countP_cons] at hasked
    change _ + _ + rest.countP _ ≤ _
    dsimp only
    refine le_trans ?_ hasked
    change p.toClient.countP _ + (evictPending p).toNat + rest.countP _ ≤ _
    omega
  · have hstopped := h.stopped
    rw [hm, List.countP_cons, if_pos (hasType_of_eq htype)] at hstopped
    change p.toClient.countP _ + (stopPending p).toNat + rest.countP _ + (sem + 1) ≤
      roundAwaits p.round
    omega

lemma ConnInv.owns_returned (h : ConnInv maxMr owns sem p) {m : Message} {rest : List Message}
    (hm : p.toDaemon = m :: rest) (htype : m.type = .done) {i : Nat} (hi : i < maxMr)
    (hkey : m.rkey i ≠ 0) : owns i = true := by
  have hplace := h.place i hi
  have hret : returnsSlab i m = true := decide_eq_true ⟨htype, hkey⟩
  rw [hm, List.countP_cons, if_pos hret] at hplace
  by_contra hne
  rw [if_neg hne] at hplace
  omega

lemma ConnInv.finish (h : ConnInv maxMr owns (sem + 1) p) (hround : p.round = .awaitDone) :
    ConnInv maxMr owns sem { p with round := .idle } := by
  refine ⟨h.place, h.up, h.replies, h.requests, h.grants, h.binds, ?_, ?_, h.marked, h.stops,
    h.reports, fun slabs hs => by cases hs⟩
  · have hasked := h.asked
    rw [hround] at hasked
    exact hasked
  · have hstopped := h.stopped
    rw [hround] at hstopped
    simp only [roundAwaits] at hstopped
    change p.toClient.countP _ + (stopPending p).toNat + p.toDaemon.countP _ + sem ≤ 0
    omega

lemma ConnInv.asked_of_pending (h : ConnInv maxMr owns sem p) (hpending : evictPending p = true) :
    p.round = .asked ∧ (∀ m ∈ p.toClient, m.type ≠ .evict) ∧
      ∀ m ∈ p.toDaemon, m.type ≠ .activity := by
  have hasked := h.asked
  rw [hpending, Bool.toNat_true] at hasked
  obtain ⟨hround, hevict, hact⟩ : p.round = .asked ∧ p.toClient.countP (hasType .evict) = 0 ∧
      p.toDaemon.countP (hasType .activity) = 0 := by
    cases hr : p.round <;> simp only [hr, roundAsked] at hasked
    · omega
    · exact ⟨rfl, by omega, by omega⟩
    · omega
    · omega
  refine ⟨hround, fun m hm ht => ?_, fun m hm ht => ?_⟩
  · exact List.countP_eq_zero.mp hevict m hm (hasType_of_eq ht)
  · exact List.countP_eq_zero.mp hact m hm (hasType_of_eq ht)

lemma ConnInv.sendActivity (h : ConnInv maxMr owns sem p) (hround : p.round = .asked)
    (hevict : ∀ m ∈ p.toClient, m.type ≠ .evict) (hact : ∀ m ∈ p.toDaemon, m.type ≠ .activity) :
    ConnInv maxMr owns sem
      { p.post (DisStore.sendActivity maxMr p.sess p.cb) with waits := .stop } := by
  set m := (DisStore.sendActivity maxMr p.sess p.cb).sendBuf with hm
  have htype : m.type = .activity := rfl
  have hcount : ∀ q : Message → Bool, q m = false →
      (p.toDaemon ++ [m]).countP q = p.toDaemon.countP q := by
    intro q hq
    rw [List.countP_append, List.countP_singleton, hq, if_neg Bool.false_ne_true, add_zero]
  refine ⟨?_, h.up, h.replies, ?_, h.grants, ?_, ?_, ?_, h.marked, h.stops, ?_, h.reported⟩
  · intro i hi
    change _ + _ + (p.toDaemon ++ [m]).countP _ = _
    rw [hcount _ (decide_eq_false (by simp [htype]))]
    exact h.place i hi
  · exact List.forall_mem_append.mpr
      ⟨h.requests, List.forall_mem_singleton.mpr (.inr (.inr (.inl htype)))⟩
  · exact List.forall_mem_append.mpr
      ⟨h.binds, List.forall_mem_singleton.mpr fun hbind => by cases htype.symm.trans hbind⟩
  · have hnone : p.toClient.countP (hasType .evict) = 0 :=
      List.countP_eq_zero.mpr fun x hx ht => hevict x hx (of_decide_eq_true ht)
    have hfirst : p.toDaemon.countP (hasType .activity) = 0 :=
      List.countP_eq_zero.mpr fun x hx ht => hact x hx (of_decide_eq_true ht)
    change p.toClient.countP _ + 0 + (p.toDaemon ++ [m]).countP _ ≤ roundAsked p.round
    rw [List.countP_append, hnone, hfirst, hround, List.countP_singleton,
      if_pos (hasType_of_eq htype)]
    exact le_rfl
  · change p.toClient.countP _ + (stopPending p).toNat + (p.toDaemon ++ [m]).countP _ + sem ≤ _
    rw [hcount _ (decide_eq_false (by simp [htype]))]
    exact h.stopped
  · refine List.forall_mem_append.mpr ⟨h.reports, List.forall_mem_singleton.mpr fun _ => ?_⟩
    intro i hi hbuf hunmapped
    have hnone : p.cb.chunkMap i = -1 := hunmapped
    apply hbuf
    simp [DisStore.sendActivity, hi, hnone]

lemma ConnInv.observeEvict (h : ConnInv maxMr owns sem p) {p' : Peer}
    (hp : p.observeEvict maxMr = some p') : ConnInv maxMr owns sem p' := by
  simp only [Peer.observeEvict, Option.ite_none_right_eq_some, Option.some.injEq] at hp
  obtain ⟨hpending, rfl⟩ := hp
  obtain ⟨hround, hevict, hact⟩ := h.asked_of_pending (decide_eq_true hpending)
  exact h.sendActivity hround hevict hact

lemma ConnInv.unmap (h : ConnInv maxMr owns sem p) {p' : Peer} {m : Message}
    (hpending : stopPending p = true)
    (hchunk : ∀ i < maxMr, p'.cb.chunkMap i = if p.cb.evictChunkMap i then -1 else p.cb.chunkMap i)
    (hkey : ∀ i < maxMr, m.rkey i ≠ 0 ↔ p.cb.evictChunkMap i = true) (htype : m.type = .done)
    (hstate : p'.cb.state = p.cb.state) (hready : p'.cb.cState = .ready)
    (hdaemon : p'.toDaemon = p.toDaemon ++ [m]) (hclient : p'.toClient = p.toClient)
    (hround : p'.round = p.round) : ConnInv maxMr owns sem p' := by
  have hstopped := h.stopped
  rw [hpending, Bool.toNat_true] at hstopped
  -- the round waits for this DONE and for nothing else
  obtain ⟨hawait, hnone⟩ : p.round = .awaitDone ∧ p.toClient.countP stopsSlabs +
      p.toDaemon.countP (hasType .done) + sem = 0 := by
    cases hr : p.round <;> simp only [hr, roundAwaits] at hstopped
    · omega
    · omega
    · omega
    · exact ⟨rfl, by omega⟩
  have hasked := h.asked
  have hnot : roundAsked p.round = 0 := congrArg roundAsked hawait
  have hno : ∀ q : Message → Bool, q m = false → p'.toDaemon.countP q = p.toDaemon.countP q := by
    intro q hq
    rw [hdaemon, List.countP_append, List.countP_singleton, hq, if_neg Bool.false_ne_true,
      add_zero]
  have hevict : evictPending p' = false := decide_eq_false fun he => by
    rw [hready] at he
    cases he.2
  have hstop : stopPending p' = false := decide_eq_false fun he => by
    rw [hready] at he
    cases he.1
  refine ⟨?_, hstate ▸ h.up, hclient ▸ h.replies, ?_, hclient ▸ h.grants, ?_, ?_, ?_, ?_, ?_, ?_,
    ?_⟩
  · intro i hi
    have hplace := h.place i hi
    rw [hchunk i hi, hclient, hdaemon, List.countP_append, List.countP_singleton]
    by_cases hmark : p.cb.evictChunkMap i = true
    · have hmapped := h.marked hpending i hi hmark
      have hret : returnsSlab i m = true := decide_eq_true ⟨htype, (hkey i hi).mpr hmark⟩
      rw [if_neg hmapped] at hplace
      rw [if_pos hmark, if_pos rfl, if_pos hret]
      omega
    · have hret : returnsSlab i m = false :=
        decide_eq_false fun hr => hmark ((hkey i hi).mp hr.2)
      rw [if_neg hmark, hret, if_neg Bool.false_ne_true, add_zero]
      exact hplace
  · rw [hdaemon]
    exact List.forall_mem_append.mpr
      ⟨h.requests, List.forall_mem_singleton.mpr (.inr (.inr (.inr htype)))⟩
  · rw [hdaemon]
    exact List.forall_mem_append.mpr
      ⟨h.binds, List.forall_mem_singleton.mpr fun hbind => by cases htype.symm.trans hbind⟩
  · rw [hclient, hround, hevict, hno _ (decide_eq_false (by simp [htype])), Bool.toNat_false]
    omega
  · rw [hclient, hround, hstop, hdaemon, List.countP_append, List.countP_singleton,
      if_pos (hasType_of_eq htype), hawait, roundAwaits, Bool.toNat_false]
    omega
  · intro hs
    rw [hstop] at hs
    cases hs
  · intro x hx hxs
    rw [hclient] at hx
    have hpos : 0 < p.toClient.countP stopsSlabs := List.countP_pos_iff.mpr ⟨x, hx, hxs⟩
    omega
  · rw [hdaemon]
    refine List.forall_mem_append.mpr ⟨fun x hx hxt => ?_, List.forall_mem_singleton.mpr fun hact => ?_⟩
    · have hpos : 0 < p.toDaemon.countP (hasType .activity) :=
        List.countP_pos_iff.mpr ⟨x, hx, hasType_of_eq hxt⟩
      omega
    · cases htype.symm.trans hact
  · intro slabs hs
    rw [hround, hawait] at hs
    cases hs

lemma ConnInv.observeStop (h : ConnInv maxMr owns sem p) {cfg : ProtocolCfg} {p' : Peer}
    (hmax : cfg.daemon.maxFreeMemGb = maxMr) (hp : p.observeStop cfg = some p') :
    ConnInv maxMr owns sem p' := by
  unfold Peer.observeStop at hp
  rw [hmax] at hp
  simp only [Option.ite_none_right_eq_some] at hp
  obtain ⟨⟨hwaits, hstate⟩, hp⟩ := hp
  split at hp
  next hzero =>
    rw [← Option.some.inj hp]
    refine ⟨h.place, h.up, h.replies, h.requests, h.grants, h.binds, ?_, ?_, ?_, h.stops,
      h.reports, h.reported⟩
    · have hasked := h.asked
      change p.toClient.countP _ + 0 + p.toDaemon.countP _ ≤ roundAsked p.round
      omega
    · have hstopped := h.stopped
      change p.toClient.countP _ + 0 + p.toDaemon.countP _ + sem ≤ roundAwaits p.round
      omega
    · intro hs
      cases hs
  next hsize =>
    rw [← Option.some.inj hp]
    refine h.unmap (decide_eq_true ⟨hstate, hsize⟩) ?_ ?_ rfl rfl rfl rfl rfl rfl
    · intro i hi
      change (if i ∈ markedSlabs maxMr p.cb then _ else _) = _
      simp only [mem_markedSlabs, hi, true_and]
    · intro i hi
      change (if i ∈ markedSlabs maxMr p.cb then 1 else if i < maxMr then 0 else _) ≠ 0 ↔ _
      simp only [mem_markedSlabs, hi, true_and, if_true]
      split <;> simp [*]

/-- A message leaves the channel to the block device: a granted slab enters `chunk_map`, and a
message of a round becomes pending. -/
lemma ConnInv.consume (h : ConnInv maxMr owns sem p) {p' : Peer} {m : Message}
    {rest : List Message} (hm : p.toClient = m :: rest) (hclient : p'.toClient = rest)
    (hdaemon : p'.toDaemon = p.toDaemon) (hround : p'.round = p.round)
    (hup : p'.cb.state.isConnected = true ∧ p'.cb.state ≠ .error)
    (hplace : ∀ i < maxMr, (if p'.cb.chunkMap i = -1 then 0 else 1) =
      (if p.cb.chunkMap i = -1 then 0 else 1) + [m].countP (grantsSlab maxMr i))
    (hasked : (evictPending p').toNat ≤ (evictPending p).toNat + [m].countP (hasType .evict))
    (hstopped : (stopPending p').toNat ≤ (stopPending p).toNat + [m].countP stopsSlabs)
    (hmarked : stopPending p' = true →
      FlagsMapped maxMr p fun i => p'.cb.evictChunkMap i = true) :
    ConnInv maxMr owns sem p' := by
  have hcount : ∀ q, p.toClient.countP q = [m].countP q + rest.countP q := by
    intro q
    rw [hm, ← List.countP_append]
    rfl
  have hrest : ∀ x ∈ p'.toClient, x ∈ p.toClient := by
    intro x hx
    rw [hm]
    exact List.mem_cons_of_mem _ (hclient ▸ hx)
  have hmono : ∀ flag, FlagsMapped maxMr p flag → FlagsMapped maxMr p' flag := by
    intro flag hflag i hi hf hunmapped
    have hi' := hplace i hi
    rw [if_pos hunmapped, if_neg (hflag i hi hf)] at hi'
    omega
  refine ⟨?_, hup, fun x hx => h.replies x (hrest x hx), hdaemon ▸ h.requests,
    fun x hx => h.grants x (hrest x hx), hdaemon ▸ h.binds, ?_, ?_,
    fun hs => hmono _ (hmarked hs), fun x hx hxs => hmono _ (h.stops x (hrest x hx) hxs), ?_, ?_⟩
  · intro i hi
    rw [← h.place i hi, hcount, hplace i hi, hclient, hdaemon]
    omega
  · have hold := h.asked
    rw [hcount] at hold
    rw [hclient, hdaemon, hround]
    omega
  · have hold := h.stopped
    rw [hcount] at hold
    rw [hclient, hdaemon, hround]
    omega
  · intro x hx hxt
    rw [hdaemon] at hx
    exact hmono _ (h.reports x hx hxt)
  · intro slabs hs
    rw [hround] at hs
    exact hmono _ (h.reported slabs hs)

lemma countP_singleton_of_false {q : Message → Bool} {m : Message} (h : q m = false) :
    [m].countP q = 0 := by
  rw [List.countP_singleton, h, if_neg Bool.false_ne_true]

lemma grantsSlab_of_type {m : Message} (h : m.type ≠ .infoSingle) (i : Nat) :
    grantsSlab maxMr i m = false :=
  decide_eq_false fun hg => h hg.1

lemma ConnInv.receiveInfoSingle (h : ConnInv maxMr owns sem p) {m : Message}
    {rest : List Message} (hm : p.toClient = m :: rest) (ht : m.type = .infoSingle)
    (s : Session) (cbIndex : Nat) :
    ConnInv maxMr owns sem { p with
      sess := (singleChunkInit maxMr cbIndex s { p.cb with recvBuf := m, state := .waitOps }).1
      cb := (singleChunkInit maxMr cbIndex s { p.cb with recvBuf := m, state := .waitOps }).2
      toClient := rest } := by
  have hmem : m ∈ p.toClient := by simp [hm]
  unfold singleChunkInit
  dsimp only
  cases hg : grantedSlab maxMr m with
  | none =>
    refine h.consume hm rfl rfl rfl ⟨rfl, nofun⟩ ?_ (Nat.le_add_right _ _) (Nat.le_add_right _ _)
      h.marked
    intro i hi
    have hno : grantsSlab maxMr i m = false := decide_eq_false fun hgr => by
      cases hg.symm.trans hgr.2
    rw [countP_singleton_of_false hno, add_zero]
  | some j =>
    have hj : j < maxMr := List.mem_range.mp (List.mem_of_find?_eq_some hg)
    have hgrant : grantsSlab maxMr j m = true := decide_eq_true ⟨ht, hg⟩
    have hsize := h.grants m hmem ht
    -- the slab on its way is not mapped
    have hunmapped : p.cb.chunkMap j = -1 := by
      by_contra hne
      have hplace := h.place j hj
      rw [hm, List.countP_cons, if_pos hgrant, if_neg hne] at hplace
      split at hplace <;> omega
    refine h.consume hm rfl rfl rfl ⟨rfl, nofun⟩ ?_ (by simp [evictPending]) (Nat.zero_le _)
      (fun hs => by cases hs)
    intro i hi
    by_cases hij : i = j
    · subst hij
      rw [List.countP_singleton, if_pos hgrant, if_pos hunmapped]
      simp only [Function.update_self]
      rw [if_neg (by omega)]
    · have hno : grantsSlab maxMr i m = false := decide_eq_false fun hgr =>
        hij (Option.some.inj (hgr.2.symm.trans hg))
      rw [countP_singleton_of_false hno, add_zero]
      simp only [Function.update_of_ne hij]

lemma ConnInv.receiveEvict (h : ConnInv maxMr owns sem p) {m : Message} {rest : List Message}
    (hm : p.toClient = m :: rest) (ht : m.type = .evict) :
    ConnInv maxMr owns sem { p with
      cb := clientRecvEvict { p.cb with recvBuf := m, state := .recvEvict }
      toClient := rest } := by
  have hplace : ∀ i < maxMr, (if p.cb.chunkMap i = -1 then 0 else 1) =
      (if p.cb.chunkMap i = -1 then 0 else 1) + [m].countP (grantsSlab maxMr i) := by
    intro i _
    rw [countP_singleton_of_false (grantsSlab_of_type (by simp [ht]) i), add_zero]
  have hevict : [m].countP (hasType .evict) = 1 := by
    rw [List.countP_singleton, if_pos (hasType_of_eq ht)]
  unfold clientRecvEvict
  split
  · exact h.consume hm rfl rfl rfl ⟨rfl, nofun⟩ hplace (Nat.le_add_right _ _)
      (Nat.le_add_right _ _) h.marked
  · refine h.consume hm rfl rfl rfl ⟨rfl, nofun⟩ hplace ?_ (Nat.zero_le _) (fun hs => by cases hs)
    rw [hevict]
    exact (Bool.toNat_le _).trans (Nat.le_add_left _ _)

lemma ConnInv.receiveStop (h : ConnInv maxMr owns sem p) {m : Message} {rest : List Message}
    (hm : p.toClient = m :: rest) (ht : m.type = .stop) :
    ConnInv maxMr owns sem { p with
      cb := clientRecvStop maxMr { p.cb with recvBuf := m, state := .recvStop }
      toClient := rest } := by
  have hmem : m ∈ p.toClient := by simp [hm]
  have hplace : ∀ i < maxMr, (if p.cb.chunkMap i = -1 then 0 else 1) =
      (if p.cb.chunkMap i = -1 then 0 else 1) + [m].countP (grantsSlab maxMr i) := by
    intro i _
    rw [countP_singleton_of_false (grantsSlab_of_type (by simp [ht]) i), add_zero]
  unfold clientRecvStop
  split
  next hzero =>
    refine h.consume hm rfl rfl rfl ⟨rfl, nofun⟩ hplace ?_ ?_ ?_
    · simp [evictPending]
    · simp [stopPending]
    · intro hs
      simp [stopPending] at hs
  next hsize =>
    have hstops : stopsSlabs m = true := decide_eq_true ⟨ht, hsize⟩
    refine h.consume hm rfl rfl rfl ⟨rfl, nofun⟩ hplace ?_ ?_ ?_
    · simp [evictPending]
    · rw [List.countP_singleton, if_pos hstops]
      exact (Bool.toNat_le _).trans (Nat.le_add_left _ _)
    · intro _ i hi hmark
      simp only [if_pos hi] at hmark
      exact h.stops m hmem hstops i hi (of_decide_eq_true hmark)

lemma ConnInv.receive (h : ConnInv maxMr owns sem p) {m : Message} {rest : List Message}
    (hm : p.toClient = m :: rest) (cbIndex : Nat) :
    ConnInv maxMr owns sem { p with
      sess := (cqRecv maxMr cbIndex p.sess p.cb m).1
      cb := (cqRecv maxMr cbIndex p.sess p.cb m).2
      toClient := rest } := by
  obtain ⟨hup, hok⟩ := h.up
  have htypes := h.replies m (by simp [hm])
  simp only [isAnswer, decide_eq_true_eq] at htypes
  rcases htypes with (ht | ht) | ht | ht
  · rw [cqRecv_freeSize maxMr cbIndex p.sess hup hok ht]
    refine h.consume hm rfl rfl rfl ⟨rfl, (by rintro ⟨⟩)⟩ ?_ (Nat.le_add_right _ _) (Nat.le_add_right _ _)
      h.marked
    intro i _
    rw [countP_singleton_of_false (grantsSlab_of_type (by simp [ht]) i), add_zero]
  · rw [cqRecv_infoSingle maxMr cbIndex p.sess hup hok ht]
    exact h.receiveInfoSingle hm ht _ cbIndex
  · rw [cqRecv_evict maxMr cbIndex p.sess hup hok ht]
    exact h.receiveEvict hm ht
  · rw [cqRecv_stop maxMr cbIndex p.sess hup hok ht]
    exact h.receiveStop hm ht

lemma ConnInv.congr (h : ConnInv maxMr owns sem p) {owns' : Nat → Bool}
    (howns : ∀ i < maxMr, owns' i = owns i) : ConnInv maxMr owns' sem p :=
  ⟨fun i hi => howns i hi ▸ h.place i hi, h.up, h.replies, h.requests, h.grants, h.binds, h.asked,
    h.stopped, h.marked, h.stops, h.reports, h.reported⟩

lemma ConnInv.congr_state (h : ConnInv maxMr owns sem p)
    {state : TestState} (hup : state.isConnected = true ∧ state ≠ .error) (sess : Session) :
    ConnInv maxMr owns sem { p with sess := sess, cb := { p.cb with state := state } } :=
  ⟨h.place, hup, h.replies, h.requests, h.grants, h.binds, h.asked, h.stopped, h.marked, h.stops,
    h.reports, h.reported⟩

/-- The keys of memory regions are not zero, and a STOP flags only slabs that its connection
has reported in the round. -/
def protocolEnv (cfg : ProtocolCfg) (s : Protocol) : ProtocolEvent → Prop
  | .serve _ mr => ∀ i, 0 < (mr i).rkey ∧ (mr i).rkey < 2 ^ 32
  | .stop id _ rkey => ∀ slabs, (s.peers id).round = .reported slabs →
      ∀ i < cfg.daemon.maxFreeMemGb, rkey i ≠ 0 → slabs i = true
  | _ => True

/-- A connection request finds an idle slot. -/
def slotFree (cfg : ProtocolCfg) (s : Protocol) : ProtocolEvent → Prop
  | .connect _ _ _ _ => firstIdleSlot cfg.daemon s.daemon ≠ none
  | _ => True

/-- The daemon and all its connections. -/
structure ProtocolInv (cfg : ProtocolCfg) (s : Protocol) : Prop where
  maps : DaemonMaps cfg.daemon s.daemon
  conns : ∀ k, (s.daemon.heap k).isSome = true → ConnInv cfg.daemon.maxFreeMemGb
    (ownsSlab s.daemon k) (stopSemOf s.daemon k) (s.peers k)

variable {cfg : ProtocolCfg} {s s' : Protocol} {id : ConnId} {c : Connection}

lemma protocolInv_init (cfg : ProtocolCfg) (freeMemG : Int) :
    ProtocolInv cfg (protocolInit cfg freeMemG) := by
  refine ⟨⟨?_, ?_, ?_⟩, ?_⟩
  · intro k c hc
    cases hc
  · intro i _ hne
    exact (hne rfl).elim
  · intro k c hc
    cases hc
  · intro k hk
    cases hk

lemma ProtocolInv.move (h : ProtocolInv cfg s) {d : DaemonState} {slabs : List Nat} {owned : Bool}
    {p' : Peer} (hmaps : DaemonMaps cfg.daemon d)
    (hmoves : Moves id slabs owned sem s.daemon d)
    (hp : ConnInv cfg.daemon.maxFreeMemGb
      (fun i => if i ∈ slabs then owned else ownsSlab s.daemon id i) sem p') :
    ProtocolInv cfg (setPeer { s with daemon := d } id p') := by
  refine ⟨hmaps, fun k hk => ?_⟩
  have howns : ownsSlab d k = fun i => if k = id ∧ i ∈ slabs then owned else ownsSlab s.daemon k i :=
    funext (hmoves.owns k)
  have hlive : (s.daemon.heap k).isSome = true := (hmoves.live k).symm.trans hk
  change ConnInv _ (ownsSlab d k) (stopSemOf d k) (Function.update s.peers id p' k)
  rw [howns, hmoves.stopSem k]
  by_cases hkid : k = id
  · subst hkid
    simp only [true_and, if_true, Function.update_self]
    exact hp
  · simp only [hkid, false_and, if_false, Function.update_of_ne hkid]
    exact h.conns k hlive

lemma ProtocolInv.peer (h : ProtocolInv cfg s) {p' : Peer}
    (hp : ConnInv cfg.daemon.maxFreeMemGb (ownsSlab s.daemon id) (stopSemOf s.daemon id) p') :
    ProtocolInv cfg (setPeer s id p') := by
  apply h.move h.maps ((KeepsOwners.refl s.daemon).moves fun k => ?_)
  · simpa using hp
  · by_cases hk : k = id
    · rw [if_pos hk, hk]
    · rw [if_neg hk]

lemma ProtocolInv.conn (h : ProtocolInv cfg s) (hc : s.daemon.heap id = some c) :
    ConnInv cfg.daemon.maxFreeMemGb (ownsSlab s.daemon id) c.stopSem (s.peers id) := by
  have hconn := h.conns id (by rw [hc, Option.isSome_some])
  rwa [stopSemOf_of_some hc] at hconn

lemma outboxTo_self (id : ConnId) (m : Message) : outboxTo [(id, m)] id = [m] := by
  simp [outboxTo]

lemma ProtocolInv.send (h : ProtocolInv cfg s) (hc : s.daemon.heap id = some c)
    {f : Connection → Connection} {p : Peer} {round : PeerRound}
    (hidx : ∀ x, (f x).connIndex = x.connIndex) (hsess : ∀ x, (f x).sessChunkMap = x.sessChunkMap)
    (hsem : ∀ x, (f x).stopSem = x.stopSem)
    (hp : ConnInv cfg.daemon.maxFreeMemGb (ownsSlab s.daemon id) c.stopSem p)
    (htype : (f c).sendMsg.type = .freeSize ∨ (f c).sendMsg.type = .evict ∨
      (f c).sendMsg.type = .stop)
    (hasked : roundAsked p.round + [(f c).sendMsg].countP (hasType .evict) ≤ roundAsked round)
    (hstopped : roundAwaits p.round + [(f c).sendMsg].countP stopsSlabs ≤ roundAwaits round)
    (hstops : stopsSlabs (f c).sendMsg = true →
      FlagsMapped cfg.daemon.maxFreeMemGb p fun i => (f c).sendMsg.rkey i ≠ 0)
    (hreported : ∀ slabs, round = .reported slabs → p.round = .reported slabs) :
    ProtocolInv cfg (setPeer { s with daemon := s.daemon.updateConn id f } id
      ({ p with round := round }.deliver
        (outboxTo (sendMessage (s.daemon.updateConn id f) id) id))) := by
  rw [sendMessage_updateConn hc, outboxTo_self]
  apply h.move (h.maps.keep (keepsOwners_updateConn s.daemon id hidx hsess))
    (moves_message hc hidx hsess hsem)
  simp only [List.not_mem_nil, if_false]
  have hinfo : (f c).sendMsg.type ≠ .infoSingle := by rcases htype with h | h | h <;> simp [h]
  apply hp.deliver _ (fun ht => (hinfo ht).elim) _ hasked hstopped hstops hreported
  · rcases htype with ht | ht
    · exact .inl (decide_eq_true (.inl ht))
    · exact .inr ht
  · intro i _
    rw [countP_singleton_of_false (grantsSlab_of_type hinfo i), add_zero]

lemma grantedSlab_single {m : Message} {i key : Nat} (hi : i < maxMr) (hkey : key ≠ 0)
    (hm : m.rkey = Function.update (fun _ => 0) i key) : grantedSlab maxMr m = some i := by
  have hflag : ∀ j, m.rkey j ≠ 0 ↔ j = i := by
    intro j
    rw [hm]
    by_cases hji : j = i
    · simp [hji, hkey]
    · simp [hji]
  unfold grantedSlab
  cases hfind : (List.range maxMr).find? fun j => decide (m.rkey j ≠ 0) with
  | none =>
    have hnone := List.find?_eq_none.mp hfind i (List.mem_range.mpr hi)
    exact (hnone (decide_eq_true ((hflag i).mpr rfl))).elim
  | some j =>
    have hj := List.find?_some hfind
    rw [(hflag j).mp (of_decide_eq_true hj)]

lemma grantedSlab_zero {m : Message} (hm : m.rkey = fun _ => 0) : grantedSlab maxMr m = none := by
  unfold grantedSlab
  rw [List.find?_eq_none]
  intro i _
  simp [hm]

/-- BIND_SINGLE: the daemon gives a free slab and names it in INFO_SINGLE. -/
lemma ProtocolInv.serveBind (h : ProtocolInv cfg s) (hc : s.daemon.heap id = some c)
    {mr : Nat → MemRegion} {msg : Message} {rest : List Message} {r : DaemonState × Outbox}
    (hm : (s.peers id).toDaemon = msg :: rest) (htype : msg.type = .bindSingle)
    (hkeys : ∀ i, 0 < (mr i).rkey ∧ (mr i).rkey < 2 ^ 32)
    (hr : onRecv cfg.daemon mr s.daemon id msg = some r) :
    ProtocolInv cfg (setPeer { s with daemon := r.1 } id
      (Peer.deliver { s.peers id with toDaemon := rest } (outboxTo r.2 id))) := by
  have hconn := h.conn hc
  have hchunk := hconn.binds msg (by simp [hm]) htype
  have hp := hconn.take hm (.inr htype)
  obtain ⟨d, reply, hrecv, hmaps, hreply, hsize, hcase⟩ := h.maps.onRecv_bindSingle hc mr htype
  rw [hrecv, Option.some.injEq] at hr
  rw [← hr, outboxTo_self]
  have hevict : [reply].countP (hasType .evict) = 0 :=
    countP_singleton_of_false (decide_eq_false (by simp [hreply]))
  have hnotStop : stopsSlabs reply = false := decide_eq_false (by simp [hreply])
  have hdeliver : ∀ owns', (∀ i < cfg.daemon.maxFreeMemGb, (if owns' i then 1 else 0) =
      (if ownsSlab s.daemon id i then 1 else 0) +
        [reply].countP (grantsSlab cfg.daemon.maxFreeMemGb i)) →
      ConnInv cfg.daemon.maxFreeMemGb owns' c.stopSem
        (Peer.deliver { s.peers id with toDaemon := rest } [reply]) := by
    intro owns' hplace
    apply hp.deliver (.inl (decide_eq_true (.inr hreply))) (fun _ => hsize ▸ hchunk) hplace
    · rw [hevict, add_zero]
    · rw [countP_singleton_of_false hnotStop, add_zero]
    · intro hs
      rw [hnotStop] at hs
      cases hs
    · exact fun slabs hs => hs
  rcases hcase with ⟨i, hi, hown, hmoves, hkey⟩ | ⟨-, hmoves, hkey⟩
  · have hne : htonl (mr i).rkey ≠ 0 := by
      obtain ⟨hpos, hlt⟩ := hkeys i
      rw [ne_eq, htonl_eq_zero hlt]
      omega
    have hgrant := grantedSlab_single hi hne hkey
    apply h.move hmaps hmoves (hdeliver _ ?_)
    intro j hj
    rw [List.countP_singleton]
    by_cases hji : j = i
    · subst hji
      have hg : grantsSlab cfg.daemon.maxFreeMemGb j reply = true := decide_eq_true ⟨hreply, hgrant⟩
      rw [hg, hown]
      simp
    · have hg : grantsSlab cfg.daemon.maxFreeMemGb j reply = false := decide_eq_false fun hg =>
        hji (Option.some.inj (hg.2.symm.trans hgrant))
      rw [hg, if_neg Bool.false_ne_true, add_zero]
      simp only [List.mem_singleton, hji, if_false]
  · have hgrant : grantedSlab cfg.daemon.maxFreeMemGb reply = none := grantedSlab_zero hkey
    apply h.move hmaps hmoves (hdeliver _ ?_)
    intro j hj
    have hg : grantsSlab cfg.daemon.maxFreeMemGb j reply = false := decide_eq_false fun hg => by
      cases hgrant.symm.trans hg.2
    rw [countP_singleton_of_false hg, add_zero]
    simp only [List.not_mem_nil, if_false]

lemma ProtocolInv.serveDone (h : ProtocolInv cfg s) (hc : s.daemon.heap id = some c)
    {mr : Nat → MemRegion} {msg : Message} {rest : List Message} {r : DaemonState × Outbox}
    (hm : (s.peers id).toDaemon = msg :: rest) (htype : msg.type = .done)
    (hr : onRecv cfg.daemon mr s.daemon id msg = some r) :
    ProtocolInv cfg (setPeer { s with daemon := r.1 } id
      (Peer.deliver { s.peers id with toDaemon := rest } (outboxTo r.2 id))) := by
  have hconn := h.conn hc
  have hflag : ∀ i, i ∈ flaggedSlots cfg.daemon msg ↔
      i < cfg.daemon.maxFreeMemGb ∧ msg.rkey i ≠ 0 := by
    intro i
    simp [flaggedSlots]
  obtain ⟨d, hrecv, hmaps, hmoves⟩ := h.maps.onRecv_done hc mr htype (by
    intro i hi
    obtain ⟨hlt, hkey⟩ := (hflag i).mp hi
    exact hconn.owns_returned hm htype hlt hkey)
  rw [hrecv, Option.some.injEq] at hr
  rw [← hr]
  apply h.move hmaps hmoves
  have hp : ConnInv cfg.daemon.maxFreeMemGb
      (fun i => if i ∈ flaggedSlots cfg.daemon msg then false else ownsSlab s.daemon id i)
      (c.stopSem + 1) { s.peers id with toDaemon := rest } := by
    apply (hconn.takeDone hm htype).congr
    intro i hi
    simp only [hflag, hi, true_and]
  simpa [Peer.deliver, outboxTo] using hp

lemma ProtocolInv.serve (h : ProtocolInv cfg s) {mr : Nat → MemRegion}
    (hkeys : ∀ i, 0 < (mr i).rkey ∧ (mr i).rkey < 2 ^ 32)
    (hs : protocolStep cfg s (.serve id mr) = some s') : ProtocolInv cfg s' := by
  simp only [protocolStep] at hs
  split at hs
  next => cases hs
  next msg rest hm =>
    simp only [Option.bind_eq_bind, Option.bind_eq_some_iff, Option.some.injEq] at hs
    obtain ⟨r, hr, rfl⟩ := hs
    obtain ⟨c, hc, -⟩ := Option.bind_eq_some_iff.mp hr
    have hconn := h.conn hc
    rcases hconn.requests msg (by simp [hm]) with ht | ht | ht | ht
    · obtain ⟨d, reply, hrecv, hmaps, hmoves, hreply⟩ := h.maps.onRecv_query hc mr ht
      rw [hrecv, Option.some.injEq] at hr
      rw [← hr, outboxTo_self]
      simp only [roundAfter, ht]
      apply h.move hmaps hmoves
      simp only [List.not_mem_nil, if_false]
      have hinfo : reply.type ≠ .infoSingle := by simp [hreply]
      have hnotStop : stopsSlabs reply = false := decide_eq_false (by simp [hreply])
      apply (hconn.take hm (.inl ht)).deliver (.inl (decide_eq_true (.inl hreply)))
        (fun hi => (hinfo hi).elim)
      · intro i _
        rw [countP_singleton_of_false (grantsSlab_of_type hinfo i), add_zero]
      · rw [countP_singleton_of_false (decide_eq_false (by simp [hreply])), add_zero]
      · rw [countP_singleton_of_false hnotStop, add_zero]
      · intro hs
        rw [hnotStop] at hs
        cases hs
      · exact fun slabs hs => hs
    · simp only [roundAfter, ht]
      exact h.serveBind hc hm ht hkeys hr
    · obtain ⟨d, hrecv, hmaps, hmoves⟩ := h.maps.onRecv_activity hc mr ht
      rw [hrecv, Option.some.injEq] at hr
      rw [← hr]
      simp only [roundAfter, ht]
      apply h.move hmaps hmoves
      have hp := hconn.takeActivity hm ht
      simpa [Peer.deliver, outboxTo] using hp
    · simp only [roundAfter, ht]
      exact h.serveDone hc hm ht hr

lemma ProtocolInv.connect (h : ProtocolInv cfg s) {junkIndex : Int} {junkMsg : Message}
    {sess : Session} (hslot : firstIdleSlot cfg.daemon s.daemon ≠ none)
    (hs : protocolStep cfg s (.connect id junkIndex junkMsg sess) = some s') :
    ProtocolInv cfg s' := by
  simp only [protocolStep, daemonStep, Option.bind_eq_bind, Option.bind_eq_some_iff,
    Option.ite_none_right_eq_some, Option.some.injEq] at hs
  obtain ⟨d, ⟨hnone, hd⟩, rfl⟩ := hs
  obtain ⟨slot, hslot⟩ := Option.ne_none_iff_exists'.mp hslot
  obtain ⟨hmaps, howns, hsem⟩ := h.maps.buildConnection hnone hslot junkIndex junkMsg
  rw [hd] at hmaps howns hsem
  refine ⟨hmaps, fun k hk => ?_⟩
  change ConnInv _ (ownsSlab d k) (stopSemOf d k) (Function.update s.peers id (peerInit sess) k)
  by_cases hkid : k = id
  · subst hkid
    rw [Function.update_self, hsem]
    exact ConnInv.init _ sess howns
  · have hheap : d.heap k = s.daemon.heap k := by
      rw [← hd, buildConnection_heap cfg.daemon s.daemon junkIndex junkMsg hkid]
    have hmap : d.connMap = s.daemon.connMap := by rw [← hd, buildConnection_connMap]
    have hlive : (s.daemon.heap k).isSome = true := by
      rw [← hheap]
      exact hk
    have hconn := h.conns k hlive
    unfold ownsSlab stopSemOf at hconn ⊢
    rw [Function.update_of_ne hkid, hheap, hmap]
    exact hconn

lemma ProtocolInv.keepHeap (h : ProtocolInv cfg s) {d : DaemonState}
    (hkeep : KeepsHeap s.daemon d) : ProtocolInv cfg { s with daemon := d } := by
  refine ⟨h.maps.keep hkeep.1, fun k hk => ?_⟩
  have hmoves := hkeep.moves k
  have hconn := h.conns k ((hmoves.live k).symm.trans hk)
  have howns : ownsSlab d k = ownsSlab s.daemon k := funext (hkeep.1.ownsSlab k)
  have hsem := hmoves.stopSem k
  rw [if_pos rfl] at hsem
  change ConnInv _ (ownsSlab d k) (stopSemOf d k) (s.peers k)
  rw [howns, hsem]
  exact hconn

lemma ProtocolInv.stop (h : ProtocolInv cfg s) {n : Int} {rkey : Nat → Nat}
    (henv : protocolEnv cfg s (.stop id n rkey))
    (hs : protocolStep cfg s (.stop id n rkey) = some s') : ProtocolInv cfg s' := by
  simp only [protocolStep, Option.bind_eq_bind, Option.bind_eq_some_iff] at hs
  obtain ⟨c, hc, hs⟩ := hs
  split at hs
  next slabs hround =>
    have hconn := h.conn hc
    rw [← Option.some.inj hs]
    dsimp only [sendStop]
    rw [updateConn_twice]
    refine h.send (p := s.peers id) hc (fun _ => rfl) (fun _ => rfl) (fun _ => rfl) hconn
      (.inr (.inr rfl)) ?_ ?_ ?_ ?_
    · rw [hround, countP_singleton_of_false (decide_eq_false (by simp))]
      exact Nat.zero_le _
    · have hreported : roundAwaits (s.peers id).round = 0 := congrArg roundAwaits hround
      rw [hreported, zero_add]
      by_cases hn : n = 0
      · rw [if_pos hn, countP_singleton_of_false (decide_eq_false (by simp [hn]))]
        exact Nat.zero_le _
      · rw [if_neg hn]
        exact List.countP_le_length
    · -- nothing has been unmapped since the report
      intro _ i hi hkey
      exact hconn.reported slabs hround i hi (henv slabs hround i hi hkey)
    · intro slabs' hslabs
      split at hslabs <;> cases hslabs
  next => cases hs

lemma ProtocolInv.finish (h : ProtocolInv cfg s)
    (hs : protocolStep cfg s (.finish id) = some s') : ProtocolInv cfg s' := by
  simp only [protocolStep] at hs
  split at hs
  next hround =>
    simp only [daemonStep, Option.bind_eq_bind, Option.bind_eq_some_iff, Option.some.injEq] at hs
    obtain ⟨d, hd, rfl⟩ := hs
    split at hd
    next c hc =>
      simp only [Option.ite_none_right_eq_some, Option.some.injEq] at hd
      obtain ⟨hpos, rfl⟩ := hd
      have hkeep := keepsOwners_updateConn s.daemon id
        (f := fun c => { c with stopSem := c.stopSem - 1 }) (fun _ => rfl) (fun _ => rfl)
      have hconn := h.conn hc
      rw [← Nat.sub_add_cancel hpos] at hconn
      apply h.move (h.maps.keep hkeep) (hkeep.moves (stopSemOf_updateConn hc _))
      simpa using hconn.finish hround
    next => cases hd
  next => cases hs

lemma ProtocolInv.step (h : ProtocolInv cfg s) (e : ProtocolEvent) (henv : protocolEnv cfg s e)
    (hslot : slotFree cfg s e) (hs : protocolStep cfg s e = some s') : ProtocolInv cfg s' := by
  cases e with
  | connect id junkIndex junkMsg sess => exact h.connect hslot hs
  | established id =>
    simp only [protocolStep, sendFreeMemSize, Option.bind_eq_bind, Option.bind_eq_some_iff,
      Option.some.injEq] at hs
    obtain ⟨r, ⟨c, hc, hr⟩, rfl⟩ := hs
    rw [← hr]
    refine h.send hc (fun _ => rfl) (fun _ => rfl) (fun _ => rfl) (h.conn hc) (.inl rfl) le_rfl
      le_rfl (fun hstop => ?_) (fun slabs hround => hround)
    cases hstop
  | query id =>
    simp only [protocolStep, Option.bind_eq_bind, Option.bind_eq_some_iff, Option.some.injEq] at hs
    obtain ⟨c, hc, rfl⟩ := hs
    exact h.peer ((h.conns id (by rw [hc]; rfl)).request (.inl rfl))
  | bind id chunk =>
    simp only [protocolStep, Option.bind_eq_bind, Option.bind_eq_some_iff, Option.some.injEq] at hs
    obtain ⟨c, hc, rfl⟩ := hs
    exact h.peer ((h.conns id (by rw [hc]; rfl)).request (.inr ⟨rfl, Int.natCast_nonneg chunk⟩))
  | serve id mr => exact h.serve henv hs
  | receive id =>
    simp only [protocolStep, Option.bind_eq_bind, Option.bind_eq_some_iff] at hs
    obtain ⟨c, hc, hs⟩ := hs
    split at hs
    next => cases hs
    next msg rest hm =>
      rw [← Option.some.inj hs]
      exact h.peer ((h.conns id (by rw [hc]; rfl)).receive hm cfg.cbIndex)
  | observeEvict id =>
    simp only [protocolStep, Option.bind_eq_bind, Option.bind_eq_some_iff, Option.some.injEq] at hs
    obtain ⟨c, hc, p, hp, rfl⟩ := hs
    exact h.peer ((h.conns id (by rw [hc]; rfl)).observeEvict hp)
  | observeStop id =>
    simp only [protocolStep, Option.bind_eq_bind, Option.bind_eq_some_iff, Option.some.injEq] at hs
    obtain ⟨c, hc, p, hp, rfl⟩ := hs
    exact h.peer ((h.conns id (by rw [hc]; rfl)).observeStop rfl hp)
  | evict id n =>
    simp only [protocolStep, Option.bind_eq_bind, Option.bind_eq_some_iff] at hs
    obtain ⟨c, hc, hs⟩ := hs
    split at hs
    next hround =>
      rw [← Option.some.inj hs]
      refine h.send (p := s.peers id) hc (fun _ => rfl) (fun _ => rfl) (fun _ => rfl) (h.conn hc)
        (.inr (.inl rfl)) ?_ ?_ ?_ ?_
      · rw [hround]
        exact le_rfl
      · rw [hround]
        exact le_rfl
      · intro hstop
        cases hstop
      · intro slabs hslabs
        cases hslabs
    next => cases hs
  | stop id n rkey => exact h.stop henv hs
  | finish id => exact h.finish hs
  | freeForEvict lastFreeMemG =>
    simp only [protocolStep, daemonStep, Option.bind_eq_bind, Option.bind_eq_some_iff,
      Option.ite_none_right_eq_some, Option.some.injEq] at hs
    obtain ⟨d, ⟨-, rfl⟩, rfl⟩ := hs
    exact h.keepHeap (keepsHeap_freeUnmapped cfg.daemon s.daemon _)
  | expand lastFreeMemG =>
    simp only [protocolStep, daemonStep, Option.bind_eq_bind, Option.bind_eq_some_iff,
      Option.ite_none_right_eq_some, Option.some.injEq] at hs
    obtain ⟨d, ⟨-, rfl⟩, rfl⟩ := hs
    exact h.keepHeap (keepsHeap_expandMem cfg.daemon s.daemon _)

/-- The connection uses the slab: the block device has mapped it, or the daemon has it in the
connection's map. -/
def usesSlab (s : Protocol) (k : ConnId) (i : Nat) : Prop :=
  (s.peers k).cb.chunkMap i ≠ -1 ∨ ∃ c, s.daemon.heap k = some c ∧ c.sessChunkMap i ≠ -1

/-- What the two sides of the live connections agree on. -/
structure SlabsOwned (cfg : ProtocolCfg) (s : Protocol) : Prop where
  mapped : ∀ k c, s.daemon.heap k = some c → ∀ i < cfg.daemon.maxFreeMemGb,
    (s.peers k).cb.chunkMap i ≠ -1 → s.daemon.mallocMap i = true ∧
      s.daemon.connMap i = c.connIndex ∧ c.sessChunkMap i = i
  exclusive : ∀ k k' c c', s.daemon.heap k = some c → s.daemon.heap k' = some c' →
    ∀ i < cfg.daemon.maxFreeMemGb, usesSlab s k i → usesSlab s k' i → k = k'
  settled : ∀ k c, s.daemon.heap k = some c → (s.peers k).toClient = [] →
    (s.peers k).toDaemon = [] → ∀ i < cfg.daemon.maxFreeMemGb,
      ((s.peers k).cb.chunkMap i ≠ -1 ↔ s.daemon.connMap i = c.connIndex)

lemma ProtocolInv.owned_of_mapped (h : ProtocolInv cfg s) (hc : s.daemon.heap id = some c) {i : Nat}
    (hi : i < cfg.daemon.maxFreeMemGb) (hmapped : (s.peers id).cb.chunkMap i ≠ -1) :
    s.daemon.connMap i = c.connIndex := by
  have hplace := (h.conn hc).place i hi
  rw [if_neg hmapped, ownsSlab_of_some hc] at hplace
  by_contra hne
  rw [decide_eq_false hne, if_neg Bool.false_ne_true] at hplace
  omega

lemma ProtocolInv.owned_of_uses (h : ProtocolInv cfg s) (hc : s.daemon.heap id = some c) {i : Nat}
    (hi : i < cfg.daemon.maxFreeMemGb) (huse : usesSlab s id i) :
    s.daemon.connMap i = c.connIndex := by
  rcases huse with hmapped | ⟨c', hc', hsess⟩
  · exact h.owned_of_mapped hc hi hmapped
  · rw [hc, Option.some.injEq] at hc'
    subst hc'
    by_contra hne
    rw [h.maps.sess id c hc i hi, if_neg hne] at hsess
    exact hsess rfl

lemma ProtocolInv.slabsOwned (h : ProtocolInv cfg s) : SlabsOwned cfg s := by
  refine ⟨?_, ?_, ?_⟩
  · intro k c hc i hi hmapped
    have hown := h.owned_of_mapped hc hi hmapped
    have hpos := (h.maps.table k c hc).2.1
    have hsess := h.maps.sess k c hc i hi
    rw [if_pos hown] at hsess
    exact ⟨(h.maps.owned i hi (by omega)).1, hown, hsess⟩
  · intro k k' c c' hc hc' i hi huse huse'
    apply h.maps.index_inj hc hc'
    rw [← h.owned_of_uses hc hi huse, h.owned_of_uses hc' hi huse']
  · intro k c hc hclient hdaemon i hi
    refine ⟨h.owned_of_mapped hc hi, fun hown hunmapped => ?_⟩
    have hplace := (h.conn hc).place i hi
    rw [hclient, hdaemon, if_pos hunmapped, ownsSlab_of_some hc, decide_eq_true hown] at hplace
    simp at hplace

/-- In every run in which each connection request finds an idle slot, block devices have mapped
only slabs that the daemon has given to them, no slab is used by two connections, and the two
sides agree whenever no message is in flight. -/
theorem slabs_have_one_owner (cfg : ProtocolCfg) (freeMemG : Int) {s : Protocol}
    (h : GuardedRun (protocolStep cfg) (fun s e => protocolEnv cfg s e ∧ slotFree cfg s e)
      (protocolInit cfg freeMemG) s) : SlabsOwned cfg s := by
  apply ProtocolInv.slabsOwned
  apply GuardedRun.invariant (protocolInv_init cfg freeMemG) _ h
  intro s e s' hinv hok hs
  exact hinv.step e hok.1 hok.2 hs

/-- A daemon with one slab and a table of one slot. -/
def oneSlot : ProtocolCfg :=
  { daemon := zeroThresholds 1 1
    capacityG := 1
    cbIndex := 0 }

/-- Every slab is registered under key 1. -/
def keyOne (_ : Nat) : MemRegion := ⟨0, 1⟩

lemma keyOne_key (i : Nat) : 0 < (keyOne i).rkey ∧ (keyOne i).rkey < 2 ^ 32 := by
  unfold keyOne
  decide

/-- A daemon with two slabs and a table of two slots. -/
def twoSlots : ProtocolCfg :=
  { daemon := zeroThresholds 2 2
    capacityG := 2
    cbIndex := 0 }

/-- What the state has to allow for an event. -/
def protocolCheck (cfg : ProtocolCfg) (s : Protocol) : ProtocolEvent → Bool
  | .connect _ _ _ _ => (firstIdleSlot cfg.daemon s.daemon).isSome
  | .stop id _ rkey =>
    match (s.peers id).round with
    | .reported slabs => (List.range cfg.daemon.maxFreeMemGb).all fun i => rkey i == 0 || slabs i
    | _ => true
  | _ => true

lemma protocolEnv_of_check {e : ProtocolEvent} (hcheck : protocolCheck cfg s e = true)
    (hmr : ∀ id mr, e = .serve id mr → ∀ i, 0 < (mr i).rkey ∧ (mr i).rkey < 2 ^ 32) :
    protocolEnv cfg s e ∧ slotFree cfg s e := by
  cases e with
  | connect id junkIndex junkMsg sess => exact ⟨trivial, Option.isSome_iff_ne_none.mp hcheck⟩
  | serve id mr => exact ⟨hmr id mr rfl, trivial⟩
  | stop id n rkey =>
    refine ⟨fun slabs hround i hi hkey => ?_, trivial⟩
    simp only [protocolCheck, hround, List.all_eq_true, List.mem_range] at hcheck
    have hi := hcheck i hi
    simpa [hkey] using hi
  | _ => exact ⟨trivial, trivial⟩

/-- Two block devices bind a slab each. Slab 0 is evicted and allocated again, and the other
block device binds it. -/
def evictAndBind : List ProtocolEvent :=
  [.connect 0 (-1) emptyMessage (sessionCreate 2), .connect 1 (-1) emptyMessage (sessionCreate 2),
    .bind 0 0, .bind 1 0, .serve 0 keyOne, .serve 1 keyOne, .receive 1, .receive 0,
    .evict 0 1, .receive 0, .observeEvict 0, .serve 0 keyOne,
    .stop 0 1 (fun i => if i = 0 then 1 else 0), .receive 0, .observeStop 0, .serve 0 keyOne,
    .finish 0, .expand 1, .bind 1 1, .serve 1 keyOne, .receive 1]

/-- Both slabs belong to the second connection in the end. -/
theorem slabs_have_one_owner_evicted :
    ∃ s, GuardedRun (protocolStep twoSlots)
        (fun s e => protocolEnv twoSlots s e ∧ slotFree twoSlots s e) (protocolInit twoSlots 2) s ∧
      (s.peers 0).cb.chunkMap 0 = -1 ∧ (s.peers 1).cb.chunkMap 0 = 1 ∧
      (s.peers 1).cb.chunkMap 1 = 0 ∧ SlabsOwned twoSlots s := by
  have hmap : (runChecked (protocolStep twoSlots) (protocolCheck twoSlots)
      (protocolInit twoSlots 2) evictAndBind).map (fun s => ((s.peers 0).cb.chunkMap 0,
        (s.peers 1).cb.chunkMap 0, (s.peers 1).cb.chunkMap 1)) = some (-1, 1, 0) := by
    decide +kernel
  obtain ⟨s, hs, hchunks⟩ := Option.map_eq_some_iff.mp hmap
  simp only [Prod.mk.injEq] at hchunks
  have hrun : GuardedRun (protocolStep twoSlots)
      (fun s e => protocolEnv twoSlots s e ∧ slotFree twoSlots s e)
      (protocolInit twoSlots 2) s := by
    refine runChecked_reaches _ (fun e he s hcheck => protocolEnv_of_check hcheck ?_) .start hs
    rintro id mr rfl
    have hmr : mr = keyOne := by
      simp only [evictAndBind, List.mem_cons, List.not_mem_nil, or_false, reduceCtorEq, false_or,
        ProtocolEvent.serve.injEq] at he
      rcases he with ⟨-, rfl⟩ | ⟨-, rfl⟩ | ⟨-, rfl⟩ | ⟨-, rfl⟩ | ⟨-, rfl⟩ <;> rfl
    rw [hmr]
    exact keyOne_key
  exact ⟨s, hrun, hchunks.1, hchunks.2.1, hchunks.2.2, slabs_have_one_owner twoSlots 2 hrun⟩

/-- The second connection finds no slot, and `malloc` has left 0 in its index: the slab that it
binds belongs to the first connection as far as the daemon can tell. -/
theorem slab_counted_for_other_connection :
    ∃ s, GuardedRun (protocolStep oneSlot) (protocolEnv oneSlot) (protocolInit oneSlot 1) s ∧
      (s.peers 0).toClient = [] ∧ (s.peers 0).toDaemon = [] ∧
      (s.peers 0).cb.chunkMap 0 = -1 ∧ (s.peers 1).cb.chunkMap 0 = 0 ∧
      (s.daemon.heap 0).map Connection.connIndex = some (s.daemon.connMap 0) ∧
      ¬SlabsOwned oneSlot s := by
  obtain ⟨s, hs, hclient, hdaemon, h0, h1, c, hc, hmap⟩ : ∃ s, runActions (protocolStep oneSlot)
      (protocolInit oneSlot 1)
      [.connect 0 0 emptyMessage (sessionCreate 1), .connect 1 0 emptyMessage (sessionCreate 1),
        .bind 1 0, .serve 1 keyOne, .receive 1] = some s ∧
      (s.peers 0).toClient = [] ∧ (s.peers 0).toDaemon = [] ∧
      (s.peers 0).cb.chunkMap 0 = -1 ∧ (s.peers 1).cb.chunkMap 0 = 0 ∧
      ∃ c, s.daemon.heap 0 = some c ∧ s.daemon.connMap 0 = c.connIndex :=
    ⟨_, rfl, rfl, rfl, rfl, rfl, _, rfl, rfl⟩
  refine ⟨s, ?_, hclient, hdaemon, h0, h1, ?_, fun hown => ?_⟩
  · refine runActions_reaches _ ?_ .start hs
    intro e he s
    simp only [List.mem_cons, List.not_mem_nil, or_false] at he
    rcases he with rfl | rfl | rfl | rfl | rfl
    · exact trivial
    · exact trivial
    · exact trivial
    · exact keyOne_key
    · exact trivial
  · rw [hc, Option.map_some, hmap]
  · exact (hown.settled 0 c hc hclient hdaemon 0 (by decide)).mpr hmap h0

end DisStore.Proofs
