import DisStore.Round
import DisStore.Lib.Run
import DisStore.Proofs.StopMessages

/-!
# STOP messages beside replies

`evict_mem` empties `send_msg` when it collects the report, fills it while it sorts and posts
it at the end; the replies to QUERY and BIND_SINGLE are built in the same `send_msg`. The
STOP message is right as long as no reply is built between the collecting and the posting,
apart from a FREE_SIZE of zero before the sort.
-/

namespace DisStore.Proofs
open DisStore DisStore.Lib

/-- No request is handled between the collecting of the report and STOP, but for a QUERY
before the sort that finds no free slab. -/
def roundFits (r : SoloRound) : RoundEvent → Prop
  | .request _ msg =>
    match r.pc with
    | .collecting | .stopped _ _ => True
    | .sorting _ => msg.type = .query ∧ r.daemon.sizeGb = r.daemon.mappedSize
    | .stopping _ _ _ => False
  | _ => True

/-- The message flags exactly the chosen slabs and carries their number. -/
structure FlagsChosen (cfg : DaemonConfig) (chosen : List Nat) (msg : Message) : Prop where
  nodup : chosen.Nodup
  flags : ∀ m < cfg.maxFreeMemGb, msg.rkey m ≠ 0 ↔ m ∈ chosen
  size : msg.sizeGb = chosen.length

/-- The reply that the handler of a QUERY or BIND_SINGLE message computes. -/
structure OwnReply (cfg : DaemonConfig) (mr : Nat → MemRegion) (d : DaemonState)
    (msg reply : Message) : Prop where
  free : msg.type = .query → reply.type = .freeSize ∧ reply.sizeGb = d.sizeGb - d.mappedSize
  info : msg.type = .bindSingle → reply.type = .infoSingle ∧ reply.sizeGb = msg.sizeGb ∧
    ∀ m, (reply.rkey m = if (List.range cfg.maxFreeMemGb).find? d.freeSlab = some m then
        htonl (mr m).rkey else 0) ∧
      ((List.range cfg.maxFreeMemGb).find? d.freeSlab = some m →
        reply.buf m = htonll (mr m).addr)

/-- The asked connection is where the plan says. -/
structure AskedConn (p : RoundPlan) (d : DaemonState) (c : Connection) : Prop where
  slot : d.conns p.slot = some p.id
  conn : d.heap p.id = some c
  index : c.connIndex = p.slot
  inj : ∀ k k' c c', d.heap k = some c → d.heap k' = some c' → c.connIndex = c'.connIndex → k = k'

/-- The plan of a round that begins with the books in order. -/
structure PlanReady (cfg : DaemonConfig) (p : RoundPlan) : Prop where
  asked : p.sendList p.slot = 1
  positive : 0 < p.evictG
  enough : p.evictG ≤ p.total
  total : p.total = p.owned.length
  nodup : p.owned.Nodup
  bound : ∀ m ∈ p.owned, m < cfg.maxFreeMemGb

/-- A slab of the asked connection. -/
def OwnSlab (cfg : DaemonConfig) (p : RoundPlan) (d : DaemonState) (m : Nat) : Prop :=
  m < cfg.maxFreeMemGb ∧ d.connMap m = p.slot

/-- What `send_msg` and the semaphore hold at each point of the round. -/
def PhaseInv (cfg : DaemonConfig) (junk : Nat → ChunkActivity) (p : RoundPlan) (r : SoloRound)
    (c : Connection) : Prop :=
  match r.pc with
  | .collecting =>
    if r.posted then c.evictSem = 0
    else c.evictSem = 1 ∧ Listed p.total.toNat (OwnSlab cfg p r.daemon)
      (evictionList (reportedActivity cfg c.recvMsg) junk)
  | .sorting entries => c.sendMsg.sizeGb = 0 ∧ (∀ m, c.sendMsg.rkey m = 0) ∧
      Listed p.total.toNat (OwnSlab cfg p r.daemon) (evictionList entries junk)
  | .stopping chosen sendList connIndex => sendList p.slot = 2 ∧ connIndex = p.slot ∧
      FlagsChosen cfg chosen c.sendMsg
  | .stopped chosen stop => stop.type = .stop ∧ FlagsChosen cfg chosen stop

def RoundInv (cfg : DaemonConfig) (junk : Nat → ChunkActivity) (p : RoundPlan) (r : SoloRound) :
    Prop :=
  ∃ c, AskedConn p r.daemon c ∧ PhaseInv cfg junk p r c

section Steps

variable {cfg : DaemonConfig} {junk : Nat → ChunkActivity} {p : RoundPlan} {r r' : SoloRound}
variable {d d' : DaemonState} {c c' : Connection} {mr : Nat → MemRegion} {msg : Message}

lemma AskedConn.update (h : AskedConn p d c) (hconns : d'.conns = d.conns)
    (hother : ∀ k, k ≠ p.id → d'.heap k = d.heap k) (hc' : d'.heap p.id = some c')
    (hindex : c'.connIndex = c.connIndex) : AskedConn p d' c' := by
  have hold : ∀ k e, d'.heap k = some e → ∃ e₀, d.heap k = some e₀ ∧
      e₀.connIndex = e.connIndex := by
    intro k e he
    by_cases hk : k = p.id
    · subst hk
      rw [hc'] at he
      cases he
      exact ⟨c, h.conn, hindex.symm⟩
    · rw [hother k hk] at he
      exact ⟨e, he, rfl⟩
  constructor
  · rw [hconns]
    exact h.slot
  · exact hc'
  · exact hindex.trans h.index
  · intro k k' e e' he he' hidx
    obtain ⟨e₀, he₀, h₀⟩ := hold k e he
    obtain ⟨e₀', he₀', h₀'⟩ := hold k' e' he'
    exact h.inj k k' e₀ e₀' he₀ he₀' (h₀.trans (hidx.trans h₀'.symm))

lemma AskedConn.updateConn (h : AskedConn p d c) (f : Connection → Connection)
    (hindex : (f c).connIndex = c.connIndex) : AskedConn p (d.updateConn p.id f) (f c) := by
  apply h.update
  · rfl
  · intro k hk
    rw [updateConn_heap, if_neg hk]
  · rw [updateConn_heap, if_pos rfl, h.conn, Option.map_some]
  · exact hindex

lemma onRecv_query {id : ConnId} (hc : d.heap id = some c) (htype : msg.type = .query) :
    onRecv cfg mr d id msg = some (d.updateConn id fun c => { c with
        recvMsg := msg
        sendMsg := { c.sendMsg with type := .freeSize, sizeGb := d.sizeGb - d.mappedSize } },
      [(id, { c.sendMsg with type := .freeSize, sizeGb := d.sizeGb - d.mappedSize })]) := by
  have hrecv := updateConn_of_some id (fun c => { c with recvMsg := msg }) hc
  rw [if_pos rfl] at hrecv
  simp only [onRecv, hc, Option.bind_eq_bind, Option.bind_some, htype, sendFreeMemSize, hrecv,
    updateConn_twice, sendMessage_updateConn hc]
  rfl

lemma onRecv_bindSingle (cfg : DaemonConfig) (mr : Nat → MemRegion) {id : ConnId}
    (hc : d.heap id = some c) (htype : msg.type = .bindSingle) :
    ∃ d' c', onRecv cfg mr d id msg = some (d', [(id, c'.sendMsg)]) ∧ d'.conns = d.conns ∧
      (∀ k, k ≠ id → d'.heap k = d.heap k) ∧ d'.heap id = some c' ∧
      c'.connIndex = c.connIndex ∧ c'.evictSem = c.evictSem ∧
      c'.mappedChunkSize = c.mappedChunkSize + 1 ∧ OwnReply cfg mr d msg c'.sendMsg := by
  have hnotquery : msg.type ≠ .query := by simp [htype]
  have hfree : ∀ heap, DaemonState.freeSlab { d with heap := heap } = d.freeSlab := fun _ => rfl
  cases hg : (List.range cfg.maxFreeMemGb).find? d.freeSlab with
  | none =>
    set c' : Connection := { c with
      recvMsg := msg
      mappedChunkSize := c.mappedChunkSize + 1
      sendMsg := { c.sendMsg with
        sizeGb := msg.sizeGb, rkey := fun _ => 0, type := .infoSingle } } with hc'
    refine ⟨{ d with
      heap := Function.update d.heap id (some c')
      mappedSize := d.mappedSize + 1
      connsState := Function.update d.connsState c.connIndex .mapped }, c', ?_, rfl, ?_, ?_, rfl,
      rfl, rfl, ?_⟩
    · simp [onRecv, hc, htype, sendSingleMr, DaemonState.updateConn, hfree, hg, sendMessage, hc']
    · intro k hk
      exact Function.update_of_ne hk ..
    · exact Function.update_self ..
    · refine ⟨fun h => absurd h hnotquery, fun _ => ⟨rfl, rfl, fun m => ?_⟩⟩
      simp [hc', hg]
  | some i =>
    set c' : Connection := { c with
      recvMsg := msg
      mappedChunkSize := c.mappedChunkSize + 1
      sessChunkMap := Function.update c.sessChunkMap i i
      sendMsg := { c.sendMsg with
        buf := Function.update c.sendMsg.buf i (htonll (mr i).addr)
        rkey := Function.update (fun _ => 0) i (htonl (mr i).rkey)
        sizeGb := msg.sizeGb, type := .infoSingle } } with hc'
    refine ⟨{ d with
      heap := Function.update d.heap id (some c')
      connMap := Function.update d.connMap i c.connIndex
      mappedSize := d.mappedSize + 1
      connsState := Function.update d.connsState c.connIndex .mapped }, c', ?_, rfl, ?_, ?_, rfl,
      rfl, rfl, ?_⟩
    · simp [onRecv, hc, htype, sendSingleMr, DaemonState.updateConn, hfree, hg, sendMessage, hc',
        bindSlab]
    · intro k hk
      exact Function.update_of_ne hk ..
    · exact Function.update_self ..
    · refine ⟨fun h => absurd h hnotquery, fun _ => ⟨rfl, rfl, fun m => ?_⟩⟩
      simp only [hc', hg, Option.some.injEq]
      constructor
      · by_cases hm : m = i
        · subst hm
          simp
        · simp [hm, Ne.symm hm]
      · rintro rfl
        simp

lemma listed_of_reportsOwn (hp : PlanReady cfg p) (h : reportsOwn cfg p d msg = true) :
    Listed p.total.toNat (OwnSlab cfg p d) (evictionList (reportedActivity cfg msg) junk) := by
  simp only [reportsOwn, Bool.and_eq_true, List.all_eq_true, decide_eq_true_eq] at h
  obtain ⟨hall, hown⟩ := h
  set reported := (List.range cfg.maxFreeMemGb).filter fun m => decide (msg.buf m ≠ 0) with hrep
  have hindex : (reportedActivity cfg msg).map ChunkActivity.chunkIndex = reported := by
    rw [reportedActivity, List.map_map]
    exact List.map_id _
  have hnodup : reported.Nodup := List.nodup_range.filter _
  have hlen : (reportedActivity cfg msg).length = reported.length := by
    rw [← hindex, List.length_map]
  have hle : p.total.toNat ≤ reported.length := by
    have hsub : p.owned ⊆ reported := by
      intro m hm
      exact List.mem_filter.mpr ⟨List.mem_range.mpr (hp.bound m hm), by simpa using hall m hm⟩
    have hlength := (List.subperm_of_subset hp.nodup hsub).length_le
    rw [hp.total]
    omega
  have hget : ∀ i, (hi : i < reported.length) →
      (evictionList (reportedActivity cfg msg) junk i).chunkIndex = reported.get ⟨i, hi⟩ := by
    intro i hi
    have hi' : i < (reportedActivity cfg msg).length := by omega
    simp only [← hindex, List.get_eq_getElem, List.getElem_map]
    simp [evictionList, hi']
  constructor
  · intro i hi
    rw [hget i (by omega)]
    obtain ⟨hm, hbuf⟩ := List.mem_filter.mp (reported.get_mem ⟨i, by omega⟩)
    exact ⟨List.mem_range.mp hm, hown _ hm (by simpa using hbuf)⟩
  · intro i i' hi hi' he
    rw [hget i (by omega), hget i' (by omega)] at he
    have hinj := List.nodup_iff_injective_get.mp hnodup he
    simpa using hinj

lemma RoundInv.request (h : RoundInv cfg junk p r) (hfit : roundFits r (.request mr msg))
    (hstep : roundStep cfg junk p r (.request mr msg) = some r') : RoundInv cfg junk p r' := by
  obtain ⟨c, hc, hphase⟩ := h
  simp only [roundStep, Option.ite_none_right_eq_some, Option.bind_eq_bind,
    Option.bind_eq_some_iff, Prod.exists, Option.some.injEq] at hstep
  obtain ⟨⟨hposted, htype⟩, d', out, hrecv, rfl⟩ := hstep
  rcases htype with hquery | hbind
  · rw [onRecv_query hc.conn hquery] at hrecv
    obtain ⟨rfl, rfl⟩ := Prod.mk.inj (Option.some.inj hrecv)
    refine ⟨_, hc.updateConn _ rfl, ?_⟩
    cases hpc : r.pc with
    | collecting =>
      simp only [PhaseInv, hpc, hposted, if_true] at hphase ⊢
      exact hphase
    | sorting entries =>
      simp only [roundFits, hpc] at hfit
      simp only [PhaseInv, hpc] at hphase ⊢
      exact ⟨by omega, hphase.2.1, hphase.2.2⟩
    | stopping chosen sendList connIndex =>
      simp only [roundFits, hpc] at hfit
    | stopped chosen stop =>
      simp only [PhaseInv, hpc] at hphase ⊢
      exact hphase
  · obtain ⟨d'', c', hrecv', hconns, hother, hc', hidx, hsem, -, -⟩ :=
      onRecv_bindSingle cfg mr hc.conn hbind
    rw [hrecv'] at hrecv
    obtain ⟨rfl, rfl⟩ := Prod.mk.inj (Option.some.inj hrecv)
    refine ⟨c', hc.update hconns hother hc' hidx, ?_⟩
    cases hpc : r.pc with
    | collecting =>
      simp only [PhaseInv, hpc, hposted, if_true] at hphase ⊢
      exact hsem.trans hphase
    | sorting entries =>
      simp only [roundFits, hpc, hbind] at hfit
      exact absurd hfit.1 (by simp)
    | stopping chosen sendList connIndex =>
      simp only [roundFits, hpc] at hfit
    | stopped chosen stop =>
      simp only [PhaseInv, hpc] at hphase ⊢
      exact hphase

lemma RoundInv.activity (h : RoundInv cfg junk p r) (hp : PlanReady cfg p)
    (hstep : roundStep cfg junk p r (.activity msg) = some r') : RoundInv cfg junk p r' := by
  obtain ⟨c, hc, hphase⟩ := h
  cases hpc : r.pc with
  | collecting =>
    simp only [roundStep, hpc, Option.ite_none_right_eq_some, Option.bind_eq_bind,
      Option.bind_eq_some_iff, Prod.exists, Option.some.injEq] at hstep
    obtain ⟨⟨hposted, htype, hown⟩, d', out, hrecv, rfl⟩ := hstep
    simp only [onRecv, hc.conn, Option.bind_eq_bind, Option.bind_some, htype, updateConn_twice,
      Option.some.injEq, Prod.mk.injEq] at hrecv
    obtain ⟨rfl, -⟩ := hrecv
    refine ⟨_, hc.updateConn _ rfl, ?_⟩
    simp only [PhaseInv, hpc, hposted, if_true] at hphase
    simp only [PhaseInv, Bool.false_eq_true, if_false]
    refine ⟨?_, listed_of_reportsOwn hp hown⟩
    simp [hphase]
  | sorting _ => simp [roundStep, hpc] at hstep
  | stopping _ _ _ => simp [roundStep, hpc] at hstep
  | stopped _ _ => simp [roundStep, hpc] at hstep

lemma RoundInv.collect (h : RoundInv cfg junk p r)
    (hstep : roundStep cfg junk p r .collect = some r') : RoundInv cfg junk p r' := by
  obtain ⟨c, hc, hphase⟩ := h
  cases hpc : r.pc with
  | collecting =>
    simp only [roundStep, hpc, collectActivity, hc.slot, hc.conn, Option.bind_eq_bind,
      Option.bind_some, Option.bind_eq_some_iff, Prod.exists, Option.some.injEq] at hstep
    obtain ⟨d', entries, ⟨_, hsem, hcollect⟩, rfl⟩ := hstep
    have hpos : 0 < c.evictSem := by
      by_contra hzero
      simp [hzero] at hsem
    obtain ⟨rfl, rfl⟩ := Prod.mk.inj hcollect
    simp only [PhaseInv, hpc] at hphase
    split at hphase
    · omega
    · refine ⟨_, hc.updateConn takeActivity rfl, ?_⟩
      simp only [PhaseInv, List.append_nil]
      exact ⟨rfl, fun _ => rfl, hphase.2⟩
  | sorting _ => simp [roundStep, hpc] at hstep
  | stopping _ _ _ => simp [roundStep, hpc] at hstep
  | stopped _ _ => simp [roundStep, hpc] at hstep

lemma AskedConn.flagSlabs (h : AskedConn p d c) (slabs : List Nat) :
    AskedConn p (flagSlabs d slabs) (flagConn d.connMap slabs c) := by
  have hold : ∀ k e, (DisStore.Proofs.flagSlabs d slabs).heap k = some e → ∃ e₀,
      d.heap k = some e₀ ∧ e₀.connIndex = e.connIndex := by
    intro k e he
    obtain ⟨e₀, he₀, rfl⟩ := Option.map_eq_some_iff.mp he
    exact ⟨e₀, he₀, rfl⟩
  constructor
  · exact h.slot
  · change (d.heap p.id).map _ = _
    rw [h.conn, Option.map_some]
  · exact h.index
  · intro k k' e e' he he' hidx
    obtain ⟨e₀, he₀, h₀⟩ := hold k e he
    obtain ⟨e₀', he₀', h₀'⟩ := hold k' e' he'
    exact h.inj k k' e₀ e₀' he₀ he₀' (h₀.trans (hidx.trans h₀'.symm))

lemma RoundInv.sort {entries : List ChunkActivity} (h : RoundInv cfg junk p r)
    (hp : PlanReady cfg p) (hpc : r.pc = .sorting entries) :
    ∃ r', roundStep cfg junk p r .sort = some r' ∧ RoundInv cfg junk p r' := by
  obtain ⟨c, hc, hphase⟩ := h
  simp only [PhaseInv, hpc] at hphase
  obtain ⟨hsize, hrkey, hlisted⟩ := hphase
  have hasked : Listed p.total.toNat (AskedSlab cfg r.daemon p.sendList)
      (evictionList entries junk) := by
    refine ⟨fun i hi => ?_, hlisted.inj⟩
    obtain ⟨hm, hmap⟩ := hlisted.good i hi
    refine ⟨hm, ?_, p.id, c, ?_, hc.conn, ?_⟩
    · rw [hmap]
      exact hp.asked
    · rw [hmap]
      exact hc.slot
    · rw [hmap]
      exact hc.index
  have hn : p.evictG.toNat ≤ p.total.toNat := Int.toNat_le_toNat hp.enough
  have hloop := flagLoop_eq hasked hc.inj p.evictG.toNat hn
  obtain ⟨hnodup, hown⟩ := hlisted.coldestSlabs hn
  set chosen := coldestSlabs p.total.toNat (evictionList entries junk) p.evictG.toNat with hchosen
  have hlen : chosen.length = p.evictG.toNat := by
    rw [hchosen, coldestSlabs, List.length_map, List.length_range]
  have hne : chosen ≠ [] := by
    have hpos := hp.positive
    rw [← List.length_pos_iff_ne_nil]
    omega
  refine ⟨{ r with
    daemon := flagSlabs r.daemon chosen
    pc := .stopping chosen (markFlagged r.daemon p.sendList chosen)
      (lastOwner r.daemon chosen) }, ?_, _, hc.flagSlabs chosen, ?_, ?_, ?_⟩
  · simp only [roundStep, hpc, hloop, Option.bind_eq_bind, Option.bind_some]
    rfl
  · have hany : chosen.any (fun m => decide (r.daemon.connMap m = p.slot)) = true := by
      rw [List.any_eq_true]
      exact ⟨chosen.getLast hne, List.getLast_mem hne,
        decide_eq_true (hown _ (List.getLast_mem hne)).2⟩
    exact if_pos ⟨hp.asked, hany⟩
  · have hlast : lastOwner r.daemon chosen = r.daemon.connMap (chosen.getLast hne) := by
      simp [lastOwner, List.getLast?_eq_getLast_of_ne_nil hne]
    rw [hlast]
    exact (hown _ (List.getLast_mem hne)).2
  · have hflag : ∀ m ∈ chosen, r.daemon.connMap m = c.connIndex := by
      intro m hm
      rw [(hown m hm).2, hc.index]
    constructor
    · exact hnodup
    · intro m hm
      simp only [flagConn, hrkey]
      by_cases hmem : m ∈ chosen
      · simp [hmem, hflag m hmem]
      · simp [hmem]
    · have hcount : chosen.countP (fun m => decide (r.daemon.connMap m = c.connIndex)) =
          chosen.length := by
        rw [List.countP_eq_length]
        intro m hm
        exact decide_eq_true (hflag m hm)
      simp only [flagConn, hsize, hcount, zero_add]

lemma RoundInv.stop {chosen : List Nat} {sendList : Int → Int} {connIndex : Int}
    (h : RoundInv cfg junk p r) (hpc : r.pc = .stopping chosen sendList connIndex) :
    ∃ r', roundStep cfg junk p r .stop = some r' ∧ RoundInv cfg junk p r' := by
  obtain ⟨c, hc, hphase⟩ := h
  simp only [PhaseInv, hpc] at hphase
  obtain ⟨hmark, rfl, hflags⟩ := hphase
  have hsize : soloStopSize p sendList p.slot r.daemon = some c.sendMsg.sizeGb := by
    simp [soloStopSize, hmark, hc.slot, hc.conn]
  set f : Connection → Connection := fun e =>
    { e with sendMsg := { e.sendMsg with type := .stop, sizeGb := c.sendMsg.sizeGb } } with hf
  have hsend : sendStop r.daemon p.id c.sendMsg.sizeGb =
      (r.daemon.updateConn p.id f, [(p.id, (f c).sendMsg)]) := by
    rw [← sendMessage_updateConn hc.conn]
    rfl
  refine ⟨{ r with
    daemon := r.daemon.updateConn p.id f
    pc := .stopped chosen (f c).sendMsg
    sent := r.sent ++ [(f c).sendMsg] }, ?_, _, hc.updateConn f rfl, ?_⟩
  · simp only [roundStep, hpc, hsize, hsend, Option.bind_eq_bind, Option.bind_some,
      List.head?_cons]
  · exact ⟨rfl, hflags.nodup, hflags.flags, hflags.size⟩

lemma RoundInv.step (h : RoundInv cfg junk p r) (hp : PlanReady cfg p) {ev : RoundEvent}
    (hfit : roundFits r ev) (hstep : roundStep cfg junk p r ev = some r') :
    RoundInv cfg junk p r' := by
  cases ev with
  | request mr msg => exact h.request hfit hstep
  | activity msg => exact h.activity hp hstep
  | collect => exact h.collect hstep
  | sort =>
    cases hpc : r.pc with
    | sorting entries =>
      obtain ⟨r'', hsort, hinv⟩ := h.sort hp hpc
      rw [hsort] at hstep
      exact Option.some.inj hstep ▸ hinv
    | collecting => simp [roundStep, hpc] at hstep
    | stopping _ _ _ => simp [roundStep, hpc] at hstep
    | stopped _ _ => simp [roundStep, hpc] at hstep
  | stop =>
    cases hpc : r.pc with
    | stopping chosen sendList connIndex =>
      obtain ⟨r'', hstop, hinv⟩ := h.stop hpc
      rw [hstop] at hstep
      exact Option.some.inj hstep ▸ hinv
    | collecting => simp [roundStep, hpc] at hstep
    | sorting _ => simp [roundStep, hpc] at hstep
    | stopped _ _ => simp [roundStep, hpc] at hstep

lemma RoundReady.ownedSlabs_length (h : RoundReady cfg d) {id : ConnId} {slot : Nat}
    (hc : d.heap id = some c) (hindex : c.connIndex = slot) :
    (((List.range cfg.maxFreeMemGb).filter fun m => decide (d.connMap m = slot)).length : Int) =
      c.mappedChunkSize := by
  have hchunk := (h.books id).chunk id c hc
  rw [if_pos rfl, add_zero] at hchunk
  rw [← hchunk, ← List.countP_eq_length_filter]
  change ((Nat.count (fun m => d.connMap m = slot) _ : Nat) : Int) = _
  congr 1
  apply count_congr
  intro m hm
  rw [(h.books 0).sess _ c hc m hm, hindex]
  split
  · simp [*]
  · simp [*]

lemma RoundReady.evictG_pos (h : RoundReady cfg d) {rand : Nat → Nat} {evictG j : Int}
    {sendList : Int → Int} {slot : Nat} (hevict : 0 < evictG)
    (hselect : selectTargets cfg d rand evictG = some (j, sendList))
    (hslot : slot ∈ askedSlots cfg sendList) : 0 < d.mappedSize := by
  by_contra hzero
  have hext : extraChunkNum = 2 := rfl
  have hbranch : d.mappedSize < evictG + extraChunkNum := by omega
  rw [selectTargets, if_pos hbranch, Option.some.injEq, Prod.mk.injEq] at hselect
  obtain ⟨hlt, hasked⟩ := List.mem_filter.mp hslot
  rw [← hselect.2] at hasked
  have hmapped : d.connsState slot = .mapped := by
    by_contra hne
    simp [hne] at hasked
  obtain ⟨id, c, hconn, hc, hpos⟩ := (h.state slot (List.mem_range.mp hlt)).mp hmapped
  obtain ⟨c', hc', hindex⟩ := h.slot slot id hconn
  rw [hc] at hc'
  cases hc'
  -- the connection has a slab, and that slab is counted in the size
  have hlen := h.ownedSlabs_length hc hindex
  obtain ⟨m, hm⟩ := List.exists_mem_of_length_pos (Int.natCast_pos.mp (hlen ▸ hpos))
  obtain ⟨hm, hmap⟩ := List.mem_filter.mp hm
  have hne : d.connMap m ≠ -1 := by
    rw [of_decide_eq_true hmap]
    omega
  have hcount := (h.books 0).mapped
  have hnonzero := (Nat.count_ne_iff_exists (p := fun i => d.connMap i ≠ -1)).mpr
    ⟨m, List.mem_range.mp hm, hne⟩
  omega

lemma beginRound_inv (h : RoundReady cfg d) (hsem : ∀ k e, d.heap k = some e → e.evictSem = 0)
    {rand : Nat → Nat} {evictG : Int} (hevict : 0 < evictG)
    (hbegin : beginRound cfg rand d evictG = some (p, r)) :
    PlanReady cfg p ∧ RoundInv cfg junk p r := by
  obtain ⟨sendList, picked, hselect, -, hpick, hlen, hpicked, -⟩ :=
    selectTargets_asks h rand (le_of_lt hevict)
  simp only [beginRound, hselect, Option.bind_eq_bind, Option.bind_some] at hbegin
  split at hbegin
  · next slot hslots =>
    have hmem : slot ∈ askedSlots cfg sendList := by simp [hslots]
    have hpos := h.evictG_pos hevict hselect hmem
    simp only [Option.bind_eq_some_iff] at hbegin
    obtain ⟨k, hk, id, hid, hbegin⟩ := hbegin
    obtain ⟨c, hc, hindex⟩ := h.slot slot id hid
    have htotal : k = c.mappedChunkSize := by
      simp only [totalChunks, List.foldlM_cons, hid, Option.bind_some, hc, zero_add,
        Option.bind_eq_bind, List.foldlM_nil, Option.pure_def, Option.some.injEq] at hk
      exact hk.symm
    have hown := h.ownedSlabs_length hc hindex
    obtain ⟨rfl, rfl⟩ := Prod.mk.inj (Option.some.inj hbegin)
    refine ⟨⟨?_, by simp only; omega, ?_, ?_, List.nodup_range.filter _, ?_⟩, ?_⟩
    · exact of_decide_eq_true (List.mem_filter.mp hmem).2
    · -- the slabs that decided whom to ask all belong to the connection
      have hsub : picked ⊆ (List.range cfg.maxFreeMemGb).filter fun m =>
          decide (d.connMap m = slot) := by
        intro m hm
        obtain ⟨hlt, hmap, hsend⟩ := hpicked m hm
        obtain ⟨-, -, -, -, -, h0, hmax, -⟩ := h.owner hlt hmap
        have hasked : (d.connMap m).toNat ∈ askedSlots cfg sendList := by
          refine List.mem_filter.mpr ⟨List.mem_range.mpr (by omega), ?_⟩
          rw [Int.toNat_of_nonneg h0]
          exact decide_eq_true hsend
        rw [hslots, List.mem_singleton] at hasked
        exact List.mem_filter.mpr ⟨List.mem_range.mpr hlt, decide_eq_true (by omega)⟩
      have hle := (List.subperm_of_subset hpick hsub).length_le
      simp only
      omega
    · simp only
      omega
    · intro m hm
      exact List.mem_range.mp (List.mem_filter.mp hm).1
    · refine ⟨_, AskedConn.updateConn ⟨hid, hc, hindex, ?_⟩ _ rfl, ?_⟩
      · exact fun _ _ _ _ he he' hidx => (h.books 0).index_inj he he' hidx
      · simp only [PhaseInv, if_true]
        exact hsem id c hc
  · cases hbegin

end Steps

/-- In a round that asks one connection, the STOP message flags the slabs that the sort of the
round has chosen and carries their number, the round is never stuck in its own loops, and
every reply to a request is the one that its handler has computed. -/
theorem round_isolated (cfg : DaemonConfig) (rand : Nat → Nat) (junk : Nat → ChunkActivity)
    (d : DaemonState) (evictG : Int) (p : RoundPlan) (r₀ : SoloRound)
    (hready : RoundReady cfg d) (hsem : ∀ k c, d.heap k = some c → c.evictSem = 0)
    (hevict : 0 < evictG) (hbegin : beginRound cfg rand d evictG = some (p, r₀)) :
    (∀ r, GuardedRun (roundStep cfg junk p) roundFits r₀ r →
      (∀ entries, r.pc = .sorting entries → (roundStep cfg junk p r .sort).isSome) ∧
      (∀ chosen sendList connIndex, r.pc = .stopping chosen sendList connIndex →
        (roundStep cfg junk p r .stop).isSome) ∧
      ∀ chosen stop, r.pc = .stopped chosen stop →
        stop.type = .stop ∧ FlagsChosen cfg chosen stop) ∧
    ∀ r r' mr msg, GuardedRun (roundStep cfg junk p) (fun _ _ => True) r₀ r →
      roundStep cfg junk p r (.request mr msg) = some r' →
      ∃ reply, r'.sent = r.sent ++ [reply] ∧ OwnReply cfg mr r.daemon msg reply := by
  obtain ⟨hp, hinv⟩ := beginRound_inv hready hsem hevict hbegin
  constructor
  · intro r hrun
    have hr : RoundInv cfg junk p r :=
      hrun.invariant hinv fun _ _ _ hinv hfit hstep => hinv.step hp hfit hstep
    refine ⟨?_, ?_, ?_⟩
    · intro entries hpc
      obtain ⟨r', hsort, -⟩ := hr.sort hp hpc
      rw [hsort]
      rfl
    · intro chosen sendList connIndex hpc
      obtain ⟨r', hstop, -⟩ := hr.stop hpc
      rw [hstop]
      rfl
    · intro chosen stop hpc
      obtain ⟨c, -, hphase⟩ := hr
      simp only [PhaseInv, hpc] at hphase
      exact hphase
  · intro r r' mr msg _ hstep
    simp only [roundStep, Option.ite_none_right_eq_some, Option.bind_eq_bind,
      Option.bind_eq_some_iff, Prod.exists, Option.some.injEq] at hstep
    obtain ⟨⟨-, htype⟩, d', out, hrecv, rfl⟩ := hstep
    cases hc : r.daemon.heap p.id with
    | none => simp [onRecv, hc] at hrecv
    | some c =>
      rcases htype with hquery | hbind
      · rw [onRecv_query hc hquery] at hrecv
        obtain ⟨rfl, rfl⟩ := Prod.mk.inj (Option.some.inj hrecv)
        exact ⟨_, rfl, fun _ => ⟨rfl, rfl⟩, fun hb => by simp [hquery] at hb⟩
      · obtain ⟨d'', c', hrecv', -, -, -, -, -, -, hreply⟩ := onRecv_bindSingle cfg mr hc hbind
        rw [hrecv'] at hrecv
        obtain ⟨rfl, rfl⟩ := Prod.mk.inj (Option.some.inj hrecv)
        exact ⟨c'.sendMsg, rfl, hreply⟩

/-- One client, which has all slabs. -/
def oneClient : DaemonState :=
  { heap := fun k => if k = 0 then some (ownerOf 0 0 2) else none
    conns := fun i => if i = 0 then some 0 else none
    connsState := fun i => if i = 0 then .mapped else .idle
    connNum := 1
    sizeGb := 2
    mappedSize := 2
    connMap := fun m => if m < 2 then 0 else -1
    mallocMap := fun m => decide (m < 2)
    running := true }

lemma oneClient_heap {k : ConnId} {c : Connection} (hc : oneClient.heap k = some c) :
    k = 0 ∧ c = ownerOf 0 0 2 := by
  simp only [oneClient] at hc
  split at hc
  · exact ⟨‹_›, (Option.some.inj hc).symm⟩
  · cases hc

lemma oneClient_ready : RoundReady defaultConfig oneClient := by
  refine ⟨fun id => ⟨by decide, by decide, ?_, ?_, ?_, ?_⟩, ?_, ?_, ?_⟩
  · intro k c hc
    obtain ⟨rfl, rfl⟩ := oneClient_heap hc
    simp only [ite_self]
    decide
  · intro i _ hne
    simp only [oneClient] at hne ⊢
    by_cases h2 : i < 2
    · exact ⟨by simp [h2], 0, ownerOf 0 0 2, rfl, by simp [h2, ownerOf]⟩
    · simp [h2] at hne
  · intro k c hc i _
    obtain ⟨rfl, rfl⟩ := oneClient_heap hc
    simp only [oneClient, ownerOf]
    split_ifs <;> omega
  · intro k c hc
    obtain ⟨rfl, rfl⟩ := oneClient_heap hc
    decide
  · intro k c hc
    obtain ⟨rfl, rfl⟩ := oneClient_heap hc
    decide
  · intro i k hk
    simp only [oneClient] at hk
    split at hk
    · rw [← Option.some.inj hk]
      exact ⟨ownerOf 0 0 2, rfl, by simp [ownerOf, *]⟩
    · cases hk
  · intro i _
    by_cases h0 : i = 0
    · subst h0
      exact ⟨fun _ => ⟨0, ownerOf 0 0 2, rfl, rfl, by decide⟩, fun _ => by decide⟩
    · constructor
      · intro hst
        simp [oneClient, h0] at hst
      · rintro ⟨k, c, hk, -, -⟩
        simp [oneClient, h0] at hk

/-- A QUERY before the report and none after it: the coldest slab is stopped. -/
theorem round_isolated_one_query : ∃ p r₀ r chosen stop,
    beginRound defaultConfig id oneClient 1 = some (p, r₀) ∧
      GuardedRun (roundStep defaultConfig (fun _ => ⟨0, 0⟩) p) roundFits r₀ r ∧
      r.pc = .stopped chosen stop ∧ FlagsChosen defaultConfig chosen stop := by
  have hrun : ∃ p r₀ r chosen stop,
      beginRound defaultConfig id oneClient 1 = some (p, r₀) ∧
        GuardedRun (roundStep defaultConfig (fun _ => ⟨0, 0⟩) p) roundFits r₀ r ∧
        r.pc = .stopped chosen stop := by
    refine ⟨_, _, _, _, _, rfl, runActions_reaches [.activity (twoReplies (fun m => m + 1) 0),
      .collect, .sort, .stop] ?_ (.next (.request (fun _ => ⟨0, 0⟩) emptyMessage) .start
        trivial rfl) rfl, rfl⟩
    simp [roundFits]
  obtain ⟨p, r₀, r, chosen, stop, hbegin, hrun, hpc⟩ := hrun
  have hsem : ∀ k c, oneClient.heap k = some c → c.evictSem = 0 := by
    intro k c hc
    obtain ⟨rfl, rfl⟩ := oneClient_heap hc
    rfl
  have hstop := (round_isolated defaultConfig id (fun _ => ⟨0, 0⟩) oneClient 1 p r₀ oneClient_ready
    hsem (by decide) hbegin).1 r hrun
  exact ⟨p, r₀, r, chosen, stop, hbegin, hrun, hpc, (hstop.2.2 chosen stop hpc).2⟩

/-- A QUERY between the sort and STOP: slab 0 is flagged but the size is the free size, 0. -/
theorem stop_carries_free_size : ∃ p r₀ r stop,
    RoundReady defaultConfig oneClient ∧
      beginRound defaultConfig id oneClient 1 = some (p, r₀) ∧
      GuardedRun (roundStep defaultConfig (fun _ => ⟨0, 0⟩) p) (fun _ _ => True) r₀ r ∧
      r.pc = .stopped [0] stop ∧ stop.sizeGb = 0 ∧ flaggedSlots defaultConfig stop = [0] :=
  ⟨_, _, _, _, oneClient_ready, rfl, runActions_reaches
    [.activity (twoReplies (fun m => m + 1) 0), .collect, .sort,
      .request (fun _ => ⟨0, 0⟩) emptyMessage, .stop] (fun _ _ _ => trivial) .start rfl,
    rfl, rfl, rfl⟩

end DisStore.Proofs
