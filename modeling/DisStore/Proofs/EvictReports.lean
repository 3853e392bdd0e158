import DisStore.EvictList
import DisStore.Lib.Count
import DisStore.Lib.Run
import DisStore.Proofs.ChunkActivity
import DisStore.Proofs.RoundIsolation
import DisStore.Proofs.SlabOwnership

/-!
# Reports of the asked connections

What a block device reports to `evict_mem` are the slabs that the daemon has given to it, as
long as it gets none between EVICT and the report: what was on its way when EVICT was posted
arrives before EVICT. The other threads of the daemon and the block devices keep that, and they
keep the counters of the connections whose reports are awaited.
-/

namespace DisStore.Proofs
open DisStore DisStore.Lib

def ownedCount (maxMr : Nat) (owns : Nat → Bool) : Nat := (List.range maxMr).countP owns

lemma ownedCount_congr {maxMr : Nat} {owns owns' : Nat → Bool}
    (h : ∀ i < maxMr, owns' i = owns i) : ownedCount maxMr owns' = ownedCount maxMr owns := by
  apply List.countP_congr
  intro i hi
  rw [h i (List.mem_range.mp hi)]

lemma ownedCount_insert {maxMr i : Nat} {owns owns' : Nat → Bool} (hi : i < maxMr)
    (hnot : owns i = false) (hnew : owns' i = true) (h : ∀ j, j ≠ i → owns' j = owns j) :
    ownedCount maxMr owns' = ownedCount maxMr owns + 1 := by
  unfold ownedCount
  rw [← count_eq_countP, ← count_eq_countP]
  apply count_insert hi
  · rw [hnot]
    exact Bool.false_ne_true
  · exact hnew
  · intro j _ hj
    rw [h j hj]

lemma reportedActivity_length (cfg : DaemonConfig) {msg : Message} {owns : Nat → Bool}
    (h : ∀ i < cfg.maxFreeMemGb, (msg.buf i ≠ 0 ↔ owns i = true)) :
    (reportedActivity cfg msg).length = ownedCount cfg.maxFreeMemGb owns := by
  unfold reportedActivity ownedCount
  rw [List.length_map, ← List.countP_eq_length_filter]
  apply List.countP_congr
  intro i hi
  rw [decide_eq_true_iff]
  exact h i (List.mem_range.mp hi)

/-- Every INFO_SINGLE on its way is followed by an EVICT. -/
def InfoBeforeEvict : List Message → Prop
  | [] => True
  | m :: rest => (m.type = .infoSingle → ∃ e ∈ rest, e.type = .evict) ∧ InfoBeforeEvict rest

lemma InfoBeforeEvict.append {l : List Message} (h : InfoBeforeEvict l) {m : Message}
    (hm : m.type ≠ .infoSingle) : InfoBeforeEvict (l ++ [m]) := by
  induction l with
  | nil => exact ⟨fun ht => (hm ht).elim, trivial⟩
  | cons x l ih =>
    refine ⟨fun hx => ?_, ih h.2⟩
    obtain ⟨e, he, ht⟩ := h.1 hx
    exact ⟨e, List.mem_append_left _ he, ht⟩

lemma infoBeforeEvict_evict (l : List Message) {m : Message} (hm : m.type = .evict) :
    InfoBeforeEvict (l ++ [m]) := by
  induction l with
  | nil => exact ⟨fun ht => (by cases hm.symm.trans ht), trivial⟩
  | cons x l ih => exact ⟨fun _ => ⟨m, by simp, hm⟩, ih⟩

lemma InfoBeforeEvict.none {l : List Message} (h : InfoBeforeEvict l)
    (hno : ∀ m ∈ l, m.type ≠ .evict) : ∀ m ∈ l, m.type ≠ .infoSingle := by
  induction l with
  | nil => exact fun m hm => absurd hm List.not_mem_nil
  | cons x l ih =>
    have hrest : ∀ m ∈ l, m.type ≠ .evict := fun m hm => hno m (List.mem_cons_of_mem _ hm)
    refine List.forall_mem_cons.mpr ⟨fun hx => ?_, ih h.2 hrest⟩
    obtain ⟨e, he, ht⟩ := h.1 hx
    exact hrest e he ht

/-- One connection and the round. A report flags exactly the owned slabs from the moment it is
posted until it is stored. -/
structure ReportInv (maxMr : Nat) (owns : Nat → Bool) (c : Connection) (posted sending : Bool)
    (p : Peer) : Prop where
  covers : (ownedCount maxMr owns : Int) ≤ c.mappedChunkSize
  once : c.evictSem ≤ 1
  done : 0 < c.evictSem → p.round ≠ .idle ∧ p.round ≠ .asked
  unstopped : p.round ≠ .awaitDone
  order : p.round = .asked → InfoBeforeEvict p.toClient
  flags : ∀ m ∈ p.toDaemon, m.type = .activity → ∀ i < maxMr, m.buf i ≠ 0 ↔ owns i = true
  sends : sending = true → p.round = .asked ∧ (∀ m ∈ p.toClient, m.type ≠ .evict) ∧
    ∀ m ∈ p.toDaemon, m.type ≠ .activity
  report : 0 < c.evictSem → posted = false ∧ ∀ i < maxMr, c.recvMsg.buf i ≠ 0 ↔ owns i = true
  ops : ∀ x, IsActivity (p.sess.lastOps x)

/-- A connection outside of the round whose counter is right. -/
structure Settled (maxMr : Nat) (owns : Nat → Bool) (c : Connection) (p : Peer) : Prop where
  idle : p.round = .idle
  counted : c.mappedChunkSize = ownedCount maxMr owns

/-- A connection whose report is still to be stored. -/
structure Awaited (maxMr : Nat) (owns : Nat → Bool) (c : Connection) (p : Peer) : Prop where
  waits : p.round = .asked ∨ 0 < c.evictSem
  counted : c.mappedChunkSize = ownedCount maxMr owns

/-- The daemon and all its connections. -/
structure ReportsInv (cfg : ProtocolCfg) (s : EvictSystem) : Prop where
  proto : ProtocolInv cfg s.proto
  slots : ∀ i k, s.proto.daemon.conns i = some k →
    ∃ c, s.proto.daemon.heap k = some c ∧ c.connIndex = i
  conns : ∀ k c, s.proto.daemon.heap k = some c → ReportInv cfg.daemon.maxFreeMemGb
    (ownsSlab s.proto.daemon k) c (s.posted k) (s.sending k) (s.proto.peers k)

/-- The call of `evict_mem`: the slabs that are counted for the slots still to be collected
are the rest of the list. -/
def ListInv (cfg : ProtocolCfg) (s : EvictSystem) : Prop :=
  match s.pc with
  | .idle => ∀ k c, s.proto.daemon.heap k = some c → Settled cfg.daemon.maxFreeMemGb
      (ownsSlab s.proto.daemon k) c (s.proto.peers k)
  | .collecting plan remaining stored => remaining.Nodup ∧
      (∀ i ∈ remaining, ∃ k c, s.proto.daemon.conns i = some k ∧ s.proto.daemon.heap k = some c ∧
        Awaited cfg.daemon.maxFreeMemGb (ownsSlab s.proto.daemon k) c (s.proto.peers k)) ∧
      totalChunks s.proto.daemon remaining = some (plan.total - stored.length)
  | .sorted plan stored => (stored.length : Int) = plan.total

section Totals

variable {d d' : DaemonState}

lemma totalChunks_foldlM (d : DaemonState) (slots : List Nat) (k : Int) :
    slots.foldlM (fun (k : Int) (i : Nat) => do
      let conn ← (d.conns i).bind d.heap
      some (k + conn.mappedChunkSize)) k = (totalChunks d slots).map (k + ·) := by
  unfold totalChunks
  induction slots generalizing k with
  | nil => simp
  | cons i slots ih =>
    rw [List.foldlM_cons, List.foldlM_cons]
    cases (d.conns i).bind d.heap with
    | none => rfl
    | some c =>
      simp only [Option.bind_eq_bind, Option.bind_some, zero_add] at ih ⊢
      rw [ih (k + c.mappedChunkSize), ih c.mappedChunkSize, Option.map_map]
      congr 1
      funext x
      exact add_assoc _ _ _

lemma totalChunks_cons (d : DaemonState) (i : Nat) (slots : List Nat) :
    totalChunks d (i :: slots) = ((d.conns i).bind d.heap).bind fun c =>
      (totalChunks d slots).map (c.mappedChunkSize + ·) := by
  rw [totalChunks, List.foldlM_cons]
  cases (d.conns i).bind d.heap with
  | none => rfl
  | some c =>
    simp only [Option.bind_eq_bind, Option.bind_some, zero_add]
    exact totalChunks_foldlM d slots _

lemma totalChunks_congr {slots : List Nat}
    (h : ∀ i ∈ slots, ((d'.conns i).bind d'.heap).map Connection.mappedChunkSize =
      ((d.conns i).bind d.heap).map Connection.mappedChunkSize) :
    totalChunks d' slots = totalChunks d slots := by
  induction slots with
  | nil => rfl
  | cons i slots ih =>
    have hi := h i List.mem_cons_self
    rw [totalChunks_cons, totalChunks_cons, ih fun j hj => h j (List.mem_cons_of_mem _ hj)]
    cases hd : (d.conns i).bind d.heap with
    | none =>
      rw [hd, Option.map_none, Option.map_eq_none_iff] at hi
      rw [hi]
    | some c =>
      rw [hd, Option.map_some] at hi
      obtain ⟨c', hc', hsize⟩ := Option.map_eq_some_iff.mp hi
      rw [hc', Option.bind_some, Option.bind_some, hsize]

end Totals

/-- The keys of memory regions are not zero, the activities of a session are those that
`rdma_trigger` can compute, and no connection that has been asked in the round disconnects. -/
def listEnv (s : EvictSystem) : EvictEvent → Prop
  | .connect _ _ _ sess => ∀ x, IsActivity (sess.lastOps x)
  | .disconnect id => (s.proto.peers id).round = .idle
  | .serve _ mr => ∀ i, 0 < (mr i).rkey ∧ (mr i).rkey < 2 ^ 32
  | _ => True

/-- A connection request finds an idle slot. A BIND_SINGLE that is handled before the call of
`evict_mem` finds a free slab, and during the call none is handled for a connection that has
been asked and has not reported. -/
def listFits (cfg : ProtocolCfg) (s : EvictSystem) : EvictEvent → Prop
  | .connect _ _ _ _ => firstIdleSlot cfg.daemon s.proto.daemon ≠ none
  | .serve id _ => ∀ m ∈ (s.proto.peers id).toDaemon.head?, m.type = .bindSingle →
      (s.pc = .idle → ∃ i < cfg.daemon.maxFreeMemGb, s.proto.daemon.freeSlab i = true) ∧
        (s.proto.peers id).round ≠ .asked
  | _ => True

structure EvictInv (cfg : ProtocolCfg) (s : EvictSystem) : Prop where
  reports : ReportsInv cfg s
  list : ListInv cfg s

section Connections

variable {maxMr : Nat} {owns owns' : Nat → Bool} {c c' : Connection} {posted sending : Bool}
variable {p p' : Peer}

lemma ReportInv.keep (h : ReportInv maxMr owns c posted sending p) {posted' : Bool}
    (hmap : c'.mappedChunkSize = c.mappedChunkSize) (hsem : c'.evictSem = c.evictSem)
    (hreport : 0 < c.evictSem → posted' = false ∧ c'.recvMsg = c.recvMsg)
    (hround : p'.round = p.round)
    (horder : InfoBeforeEvict p.toClient → InfoBeforeEvict p'.toClient)
    (hevicts : ∀ m ∈ p'.toClient, m.type = .evict → m ∈ p.toClient)
    (hacts : ∀ m ∈ p'.toDaemon, m.type = .activity → m ∈ p.toDaemon)
    (hops : ∀ x, IsActivity (p'.sess.lastOps x)) :
    ReportInv maxMr owns c' posted' sending p' := by
  constructor
  · rw [hmap]
    exact h.covers
  · rw [hsem]
    exact h.once
  · rw [hsem, hround]
    exact h.done
  · rw [hround]
    exact h.unstopped
  · rw [hround]
    exact fun hasked => horder (h.order hasked)
  · exact fun m hm ht => h.flags m (hacts m hm ht) ht
  · intro hs
    obtain ⟨hasked, hevict, hact⟩ := h.sends hs
    rw [hround]
    exact ⟨hasked, fun m hm ht => hevict m (hevicts m hm ht) ht,
      fun m hm ht => hact m (hacts m hm ht) ht⟩
  · rw [hsem]
    intro hpos
    obtain ⟨hposted, hrecv⟩ := hreport hpos
    rw [hrecv]
    exact ⟨hposted, (h.report hpos).2⟩
  · exact hops

lemma ReportInv.congr (h : ReportInv maxMr owns c posted sending p)
    (howns : ∀ i < maxMr, owns' i = owns i) : ReportInv maxMr owns' c posted sending p := by
  constructor
  · rw [ownedCount_congr howns]
    exact h.covers
  · exact h.once
  · exact h.done
  · exact h.unstopped
  · exact h.order
  · intro m hm ht i hi
    rw [howns i hi]
    exact h.flags m hm ht i hi
  · exact h.sends
  · intro hpos
    refine ⟨(h.report hpos).1, fun i hi => ?_⟩
    rw [howns i hi]
    exact (h.report hpos).2 i hi
  · exact h.ops

lemma Settled.congr (h : Settled maxMr owns c p) (howns : ∀ i < maxMr, owns' i = owns i) :
    Settled maxMr owns' c p :=
  ⟨h.idle, by rw [ownedCount_congr howns]; exact h.counted⟩

lemma Awaited.congr (h : Awaited maxMr owns c p) (howns : ∀ i < maxMr, owns' i = owns i) :
    Awaited maxMr owns' c p :=
  ⟨h.waits, by rw [ownedCount_congr howns]; exact h.counted⟩

end Connections

section Steps

variable {cfg : ProtocolCfg} {s s' : EvictSystem} {id : ConnId} {c c' : Connection} {p' : Peer}

/-- The daemon handles something for one connection, which stays in its slot. -/
structure ServesConn (id : ConnId) (c' : Connection) (d d' : DaemonState) : Prop where
  conns : d'.conns = d.conns
  others : ∀ k, k ≠ id → d'.heap k = d.heap k
  conn : d'.heap id = some c'
  owners : ∀ k, k ≠ id → ownsSlab d' k = ownsSlab d k

lemma ServesConn.refl {d : DaemonState} (hc : d.heap id = some c) : ServesConn id c d d :=
  ⟨rfl, fun _ _ => rfl, hc, fun _ _ => rfl⟩

lemma servesConn_updateConn {d : DaemonState} (hc : d.heap id = some c)
    {f : Connection → Connection} (hidx : (f c).connIndex = c.connIndex) :
    ServesConn id (f c) d (d.updateConn id f) ∧
      ownsSlab (d.updateConn id f) id = ownsSlab d id := by
  have hc' := updateConn_of_some id f hc
  rw [if_pos rfl] at hc'
  have hother : ∀ k, k ≠ id → (d.updateConn id f).heap k = d.heap k := by
    intro k hk
    rw [updateConn_heap, if_neg hk]
  refine ⟨⟨rfl, hother, hc', fun k hk => ?_⟩, ?_⟩
  · unfold ownsSlab
    rw [hother k hk]
    rfl
  · funext i
    rw [ownsSlab_of_some hc', ownsSlab_of_some hc, hidx]
    rfl

lemma ReportsInv.act (h : ReportsInv cfg s) (hproto : ProtocolInv cfg s'.proto)
    (hc : s.proto.daemon.heap id = some c)
    (hd : ServesConn id c' s.proto.daemon s'.proto.daemon) (hidx : c'.connIndex = c.connIndex)
    (hothers : ∀ k, k ≠ id → s'.proto.peers k = s.proto.peers k ∧ s'.posted k = s.posted k ∧
      s'.sending k = s.sending k)
    (hreport : ReportInv cfg.daemon.maxFreeMemGb (ownsSlab s'.proto.daemon id) c' (s'.posted id)
      (s'.sending id) (s'.proto.peers id)) :
    ReportsInv cfg s' := by
  refine ⟨hproto, ?_, ?_⟩
  · intro i k hslot
    rw [hd.conns] at hslot
    obtain ⟨e, he, hi⟩ := h.slots i k hslot
    by_cases hk : k = id
    · subst hk
      rw [hc, Option.some.injEq] at he
      subst he
      exact ⟨c', hd.conn, hidx.trans hi⟩
    · exact ⟨e, (hd.others k hk).trans he, hi⟩
  · intro k e he
    by_cases hk : k = id
    · subst hk
      rw [hd.conn, Option.some.injEq] at he
      subst he
      exact hreport
    · rw [hd.others k hk] at he
      obtain ⟨hpeer, hposted, hsending⟩ := hothers k hk
      rw [hpeer, hposted, hsending, hd.owners k hk]
      exact h.conns k e he

/-- The list through a step that is not one of `evict_mem`: awaited connections stay so, with
their counters. -/
lemma ListInv.change (h : ListInv cfg s) (hpc : s'.pc = s.pc)
    (hsettled : s.pc = .idle →
      (∀ k c, s.proto.daemon.heap k = some c → Settled cfg.daemon.maxFreeMemGb
        (ownsSlab s.proto.daemon k) c (s.proto.peers k)) →
      ∀ k c, s'.proto.daemon.heap k = some c → Settled cfg.daemon.maxFreeMemGb
        (ownsSlab s'.proto.daemon k) c (s'.proto.peers k))
    (hawaited : ∀ (i : Nat) k c, s.proto.daemon.conns i = some k →
      s.proto.daemon.heap k = some c →
      Awaited cfg.daemon.maxFreeMemGb (ownsSlab s.proto.daemon k) c (s.proto.peers k) →
      ∃ c', s'.proto.daemon.conns i = some k ∧ s'.proto.daemon.heap k = some c' ∧
        c'.mappedChunkSize = c.mappedChunkSize ∧
        Awaited cfg.daemon.maxFreeMemGb (ownsSlab s'.proto.daemon k) c' (s'.proto.peers k)) :
    ListInv cfg s' := by
  unfold ListInv at h ⊢
  rw [hpc]
  cases hpc' : s.pc with
  | idle =>
    simp only [hpc'] at h ⊢
    exact hsettled hpc' h
  | sorted plan stored =>
    simp only [hpc'] at h ⊢
    exact h
  | collecting plan remaining stored =>
    simp only [hpc'] at h ⊢
    obtain ⟨hnodup, hwait, htotal⟩ := h
    refine ⟨hnodup, fun i hi => ?_, ?_⟩
    · obtain ⟨k, c, hslot, hc, hawait⟩ := hwait i hi
      obtain ⟨c', hslot', hc', -, hawait'⟩ := hawaited i k c hslot hc hawait
      exact ⟨k, c', hslot', hc', hawait'⟩
    · rw [← htotal]
      apply totalChunks_congr
      intro i hi
      obtain ⟨k, c, hslot, hc, hawait⟩ := hwait i hi
      obtain ⟨c', hslot', hc', hsize, -⟩ := hawaited i k c hslot hc hawait
      rw [hslot, hslot', Option.bind_some, Option.bind_some, hc, hc', Option.map_some,
        Option.map_some, hsize]

lemma EvictInv.act (h : EvictInv cfg s) (hproto : ProtocolInv cfg s'.proto)
    (hc : s.proto.daemon.heap id = some c)
    (hd : ServesConn id c' s.proto.daemon s'.proto.daemon) (hidx : c'.connIndex = c.connIndex)
    (hothers : ∀ k, k ≠ id → s'.proto.peers k = s.proto.peers k ∧ s'.posted k = s.posted k ∧
      s'.sending k = s.sending k)
    (hpc : s'.pc = s.pc)
    (hreport : ReportInv cfg.daemon.maxFreeMemGb (ownsSlab s'.proto.daemon id) c' (s'.posted id)
      (s'.sending id) (s'.proto.peers id))
    (hsettled : s.pc = .idle → Settled cfg.daemon.maxFreeMemGb (ownsSlab s.proto.daemon id) c
      (s.proto.peers id) → Settled cfg.daemon.maxFreeMemGb (ownsSlab s'.proto.daemon id) c'
        (s'.proto.peers id))
    (hawaited : Awaited cfg.daemon.maxFreeMemGb (ownsSlab s.proto.daemon id) c
      (s.proto.peers id) → Awaited cfg.daemon.maxFreeMemGb (ownsSlab s'.proto.daemon id) c'
        (s'.proto.peers id) ∧ c'.mappedChunkSize = c.mappedChunkSize) :
    EvictInv cfg s' := by
  refine ⟨h.reports.act hproto hc hd hidx hothers hreport, h.list.change hpc ?_ ?_⟩
  · intro hidle hall k e he
    by_cases hk : k = id
    · subst hk
      rw [hd.conn, Option.some.injEq] at he
      subst he
      exact hsettled hidle (hall k c hc)
    · rw [hd.others k hk] at he
      rw [(hothers k hk).1, hd.owners k hk]
      exact hall k e he
  · intro i k e hslot he hawait
    rw [hd.conns]
    by_cases hk : k = id
    · subst hk
      rw [hc, Option.some.injEq] at he
      subst he
      obtain ⟨hawait', hsize⟩ := hawaited hawait
      exact ⟨c', hslot, hd.conn, hsize, hawait'⟩
    · refine ⟨e, hslot, (hd.others k hk).trans he, rfl, ?_⟩
      rw [(hothers k hk).1, hd.owners k hk]
      exact hawait

lemma EvictInv.keep (h : EvictInv cfg s) (hproto : ProtocolInv cfg s'.proto)
    (hc : s.proto.daemon.heap id = some c)
    (hd : ServesConn id c' s.proto.daemon s'.proto.daemon ∧
      ownsSlab s'.proto.daemon id = ownsSlab s.proto.daemon id)
    (hidx : c'.connIndex = c.connIndex) (hmap : c'.mappedChunkSize = c.mappedChunkSize)
    (hsem : c'.evictSem = c.evictSem)
    (hothers : ∀ k, k ≠ id → s'.proto.peers k = s.proto.peers k ∧ s'.posted k = s.posted k ∧
      s'.sending k = s.sending k)
    (hpc : s'.pc = s.pc) (hround : (s'.proto.peers id).round = (s.proto.peers id).round)
    (hreport : ReportInv cfg.daemon.maxFreeMemGb (ownsSlab s.proto.daemon id) c' (s'.posted id)
      (s'.sending id) (s'.proto.peers id)) :
    EvictInv cfg s' := by
  obtain ⟨hd, howns⟩ := hd
  rw [← howns] at hreport
  refine h.act hproto hc hd hidx hothers hpc hreport (fun _ hset => ?_) (fun hawait => ⟨?_, hmap⟩)
  · exact ⟨hround.trans hset.idle, by rw [hmap, howns]; exact hset.counted⟩
  · exact ⟨by rw [hround, hsem]; exact hawait.waits, by rw [hmap, howns]; exact hawait.counted⟩

lemma EvictInv.peer (h : EvictInv cfg s) (hc : s.proto.daemon.heap id = some c)
    (hproto : ProtocolInv cfg (setPeer s.proto id p'))
    (hround : p'.round = (s.proto.peers id).round)
    (horder : InfoBeforeEvict (s.proto.peers id).toClient → InfoBeforeEvict p'.toClient)
    (hevicts : ∀ m ∈ p'.toClient, m.type = .evict → m ∈ (s.proto.peers id).toClient)
    (hacts : ∀ m ∈ p'.toDaemon, m.type = .activity → m ∈ (s.proto.peers id).toDaemon)
    (hops : ∀ x, IsActivity (p'.sess.lastOps x)) :
    EvictInv cfg { s with proto := setPeer s.proto id p' } := by
  have hself : (setPeer s.proto id p').peers id = p' := Function.update_self _ _ _
  have hold := h.reports.conns id c hc
  refine h.keep hproto hc ⟨.refl hc, rfl⟩ rfl rfl rfl
    (fun k hk => ⟨Function.update_of_ne hk _ _, rfl, rfl⟩) rfl ?_ ?_
  · rw [hself]
    exact hround
  · rw [hself]
    exact hold.keep rfl rfl (fun hpos => ⟨(hold.report hpos).1, rfl⟩) hround horder hevicts hacts
      hops

lemma forgetEvicted_lastOps (capacityG : Nat) (evictList : Int → Bool) (sess : Session) :
    (forgetEvicted capacityG evictList sess).lastOps = sess.lastOps := by
  unfold forgetEvicted
  generalize (List.range capacityG).filter (fun (i : Nat) => evictList i) = chunks
  induction chunks generalizing sess with
  | nil => rfl
  | cons i chunks ih => exact ih (forgetChunk sess i)

lemma ConnInv.cqRecv_lastOps {maxMr sem : Nat} {owns : Nat → Bool} {p : Peer}
    (h : ConnInv maxMr owns sem p) {m : Message} {rest : List Message}
    (hm : p.toClient = m :: rest) (cbIndex : Nat) :
    (cqRecv maxMr cbIndex p.sess p.cb m).1.lastOps = p.sess.lastOps := by
  obtain ⟨hup, hok⟩ := h.up
  have htypes := h.replies m (by simp [hm])
  simp only [isAnswer, decide_eq_true_eq] at htypes
  rcases htypes with (ht | ht) | ht | ht
  · rw [cqRecv_freeSize maxMr cbIndex p.sess hup hok ht]
  · rw [cqRecv_infoSingle maxMr cbIndex p.sess hup hok ht]
    unfold singleChunkInit
    split <;> rfl
  · rw [cqRecv_evict maxMr cbIndex p.sess hup hok ht]
  · rw [cqRecv_stop maxMr cbIndex p.sess hup hok ht]

/-- `evict_handler` acts on STOP: it posts DONE or nothing. -/
lemma observeStop_keeps {p p' : Peer} (hp : p.observeStop cfg = some p') :
    p'.round = p.round ∧ p'.toClient = p.toClient ∧ p'.sess.lastOps = p.sess.lastOps ∧
      ∀ m ∈ p'.toDaemon, m.type = .activity → m ∈ p.toDaemon := by
  unfold Peer.observeStop at hp
  simp only [Option.ite_none_right_eq_some] at hp
  obtain ⟨-, hp⟩ := hp
  split at hp
  next =>
    rw [← Option.some.inj hp]
    exact ⟨rfl, rfl, rfl, fun m hm _ => hm⟩
  next =>
    rw [← Option.some.inj hp]
    refine ⟨rfl, rfl, forgetEvicted_lastOps _ _ _, ?_⟩
    refine List.forall_mem_append.mpr ⟨fun m hm _ => hm, List.forall_mem_singleton.mpr ?_⟩
    intro ht
    cases ht

lemma EvictInv.other (h : EvictInv cfg s) {e : ProtocolEvent} (he : e.besideEvict = true)
    {proto : Protocol} (hs : protocolStep cfg s.proto e = some proto) :
    EvictInv cfg { s with proto := proto } := by
  cases e with
  | established id =>
    have hproto := h.reports.proto.step (.established id) trivial trivial hs
    simp only [protocolStep, sendFreeMemSize, Option.bind_eq_bind, Option.bind_eq_some_iff,
      Option.some.injEq] at hs
    obtain ⟨r, ⟨c, hc, rfl⟩, rfl⟩ := hs
    have hold := h.reports.conns id c hc
    refine h.keep hproto hc (servesConn_updateConn hc rfl) rfl rfl rfl
      (fun k hk => ⟨Function.update_of_ne hk _ _, rfl, rfl⟩) rfl ?_ ?_
    · change (Function.update s.proto.peers id _ id).round = _
      rw [Function.update_self]
      rfl
    · change ReportInv _ _ _ _ _ (Function.update s.proto.peers id _ id)
      rw [Function.update_self, sendMessage_updateConn hc, outboxTo_self]
      refine hold.keep rfl rfl (fun hpos => ⟨(hold.report hpos).1, rfl⟩) rfl
        (fun horder => horder.append (by rintro ⟨⟩)) ?_ (fun m hm _ => hm) hold.ops
      exact List.forall_mem_append.mpr ⟨fun m hm _ => hm, List.forall_mem_singleton.mpr (by rintro ⟨⟩)⟩
  | query id =>
    have hproto := h.reports.proto.step (.query id) trivial trivial hs
    simp only [protocolStep, Option.bind_eq_bind, Option.bind_eq_some_iff, Option.some.injEq] at hs
    obtain ⟨c, hc, rfl⟩ := hs
    refine h.peer hc hproto rfl (fun horder => horder) (fun m hm _ => hm) ?_
      (h.reports.conns id c hc).ops
    exact List.forall_mem_append.mpr ⟨fun m hm _ => hm, List.forall_mem_singleton.mpr (by rintro ⟨⟩)⟩
  | bind id chunk =>
    have hproto := h.reports.proto.step (.bind id chunk) trivial trivial hs
    simp only [protocolStep, Option.bind_eq_bind, Option.bind_eq_some_iff, Option.some.injEq] at hs
    obtain ⟨c, hc, rfl⟩ := hs
    refine h.peer hc hproto rfl (fun horder => horder) (fun m hm _ => hm) ?_
      (h.reports.conns id c hc).ops
    exact List.forall_mem_append.mpr ⟨fun m hm _ => hm, List.forall_mem_singleton.mpr (by rintro ⟨⟩)⟩
  | receive id =>
    have hproto := h.reports.proto.step (.receive id) trivial trivial hs
    simp only [protocolStep, Option.bind_eq_bind, Option.bind_eq_some_iff] at hs
    obtain ⟨c, hc, hs⟩ := hs
    split at hs
    next => cases hs
    next msg rest hm =>
      rw [← Option.some.inj hs] at hproto ⊢
      have hops := (h.reports.proto.conn hc).cqRecv_lastOps hm cfg.cbIndex
      refine h.peer hc hproto rfl ?_ ?_ (fun m hm _ => hm) ?_
      · rw [hm]
        exact fun horder => horder.2
      · rw [hm]
        exact fun x hx _ => List.mem_cons_of_mem _ hx
      · rw [hops]
        exact (h.reports.conns id c hc).ops
  | observeStop id =>
    have hproto := h.reports.proto.step (.observeStop id) trivial trivial hs
    simp only [protocolStep, Option.bind_eq_bind, Option.bind_eq_some_iff, Option.some.injEq] at hs
    obtain ⟨c, hc, p, hp, rfl⟩ := hs
    obtain ⟨hround, hclient, hops, hacts⟩ := observeStop_keeps hp
    refine h.peer hc hproto hround ?_ ?_ hacts ?_
    · rw [hclient]
      exact fun horder => horder
    · rw [hclient]
      exact fun m hm _ => hm
    · rw [hops]
      exact (h.reports.conns id c hc).ops
  | connect id junkIndex junkMsg sess => cases he
  | serve id mr => cases he
  | observeEvict id => cases he
  | evict id n => cases he
  | stop id n rkey => cases he
  | finish id => cases he
  | freeForEvict lastFreeMemG => cases he
  | expand lastFreeMemG => cases he

lemma EvictInv.sample (h : EvictInv cfg s) (hc : s.proto.daemon.heap id = some c) (ops : PeriodOps)
    (chunk : Nat) : EvictInv cfg { s with proto := setPeer s.proto id { s.proto.peers id with
      sess := { (s.proto.peers id).sess with
        lastOps := sampleChunk ops (s.proto.peers id).sess.lastOps chunk } } } := by
  have hconn := h.reports.proto.conn hc
  have hproto : ProtocolInv cfg (setPeer s.proto id { s.proto.peers id with
      sess := { (s.proto.peers id).sess with
        lastOps := sampleChunk ops (s.proto.peers id).sess.lastOps chunk } }) := by
    apply h.reports.proto.peer
    rw [stopSemOf_of_some hc]
    exact hconn.congr_state hconn.up _
  exact h.peer hc hproto rfl (fun horder => horder) (fun m hm _ => hm) (fun m hm _ => hm)
    (isActivity_sampleChunk (h.reports.conns id c hc).ops ops chunk)

/-- `evict_handler` sees EVICT: no other EVICT is on its way and no report has been posted. -/
lemma EvictInv.seeEvict (h : EvictInv cfg s) (hc : s.proto.daemon.heap id = some c)
    (hwaits : (s.proto.peers id).waits = .evict) (hstate : (s.proto.peers id).cb.cState = .evict) :
    EvictInv cfg { s with sending := Function.update s.sending id true } := by
  have hold := h.reports.conns id c hc
  have hseen := (h.reports.proto.conn hc).asked_of_pending (decide_eq_true ⟨hwaits, hstate⟩)
  exact h.keep h.reports.proto hc ⟨.refl hc, rfl⟩ rfl rfl rfl
    (fun k hk => ⟨rfl, rfl, Function.update_of_ne hk _ _⟩) rfl rfl
    ⟨hold.covers, hold.once, hold.done, hold.unstopped, hold.order, hold.flags, fun _ => hseen,
      hold.report, hold.ops⟩

lemma ConnInv.mapped_iff_owned {maxMr sem : Nat} {owns : Nat → Bool} {p : Peer}
    (h : ConnInv maxMr owns sem p) (hround : p.round = .asked) (horder : InfoBeforeEvict p.toClient)
    (hno : ∀ m ∈ p.toClient, m.type ≠ .evict) {i : Nat} (hi : i < maxMr) :
    p.cb.chunkMap i ≠ -1 ↔ owns i = true := by
  have hplace := h.place i hi
  have hgrants : p.toClient.countP (grantsSlab maxMr i) = 0 := by
    rw [List.countP_eq_zero]
    intro m hm
    rw [grantsSlab_of_type (horder.none hno m hm)]
    exact Bool.false_ne_true
  have hreturns : p.toDaemon.countP (returnsSlab i) = 0 := by
    have hdone := h.stopped
    rw [hround] at hdone
    simp only [roundAwaits] at hdone
    have hzero : p.toDaemon.countP (hasType .done) = 0 := by omega
    rw [List.countP_eq_zero] at hzero ⊢
    exact fun m hm hr => hzero m hm (hasType_of_eq (of_decide_eq_true hr).1)
  rw [hgrants, hreturns] at hplace
  split_ifs at hplace with hmap howns <;> simp_all

lemma EvictInv.sendActivity (h : EvictInv cfg s) (hc : s.proto.daemon.heap id = some c)
    (hsending : s.sending id = true) {p : Peer} (hp : p = { (s.proto.peers id).post
      (DisStore.sendActivity cfg.daemon.maxFreeMemGb (s.proto.peers id).sess
        (s.proto.peers id).cb) with waits := .stop }) :
    EvictInv cfg { s with
      proto := setPeer s.proto id p
      sending := Function.update s.sending id false } := by
  have hold := h.reports.conns id c hc
  have hconn := h.reports.proto.conn hc
  obtain ⟨hround, hevict, hact⟩ := hold.sends hsending
  have horder := hold.order hround
  have hproto : ProtocolInv cfg (setPeer s.proto id p) := by
    apply h.reports.proto.peer
    rw [stopSemOf_of_some hc, hp]
    exact hconn.sendActivity hround hevict hact
  have hself : (setPeer s.proto id p).peers id = p := Function.update_self _ _ _
  refine h.keep hproto hc ⟨.refl hc, rfl⟩ rfl rfl rfl
    (fun k hk => ⟨Function.update_of_ne hk _ _, rfl, Function.update_of_ne hk _ _⟩) rfl ?_ ?_
  · rw [hself, hp]
    rfl
  · rw [hself, hp]
    change ReportInv _ _ _ _ (Function.update s.sending id false id) _
    rw [Function.update_self]
    refine ⟨hold.covers, hold.once, hold.done, hold.unstopped, hold.order, ?_, nofun, hold.report,
      hold.ops⟩
    refine List.forall_mem_append.mpr ⟨hold.flags, List.forall_mem_singleton.mpr fun _ i hi => ?_⟩
    rw [sendActivity_flags hold.ops _ hi]
    exact hconn.mapped_iff_owned hround horder hevict hi

lemma ConnInv.asked_of_activity {maxMr sem : Nat} {owns : Nat → Bool} {p : Peer}
    (h : ConnInv maxMr owns sem p) {m : Message} (hm : m ∈ p.toDaemon) (ht : m.type = .activity) :
    p.round = .asked := by
  have hasked := h.asked
  have hpos : 0 < p.toDaemon.countP (hasType .activity) :=
    List.countP_pos_iff.mpr ⟨m, hm, hasType_of_eq ht⟩
  cases hr : p.round <;> simp only [hr, roundAsked] at hasked
  · omega
  · rfl
  · omega
  · omega

lemma Moves.owners {d d' : DaemonState} {slabs : List Nat} {owned : Bool} {sem : Nat}
    (h : Moves id slabs owned sem d d') {k : ConnId} (hk : k ≠ id) :
    ownsSlab d' k = ownsSlab d k := by
  funext i
  rw [h.owns k i, if_neg fun hi => hk hi.1]

lemma EvictInv.serveBind (h : EvictInv cfg s) {proto : Protocol} (hproto : ProtocolInv cfg proto)
    (hc : s.proto.daemon.heap id = some c) {mr : Nat → MemRegion} {msg : Message}
    {rest : List Message} {r : DaemonState × Outbox}
    (hm : (s.proto.peers id).toDaemon = msg :: rest) (htype : msg.type = .bindSingle)
    (hposted : s.posted id = true)
    (hfree : s.pc = .idle → ∃ i < cfg.daemon.maxFreeMemGb, s.proto.daemon.freeSlab i = true)
    (hasked : (s.proto.peers id).round ≠ .asked)
    (hr : onRecv cfg.daemon mr s.proto.daemon id msg = some r)
    (hs : proto = setPeer { s.proto with daemon := r.1 } id
      (Peer.deliver { s.proto.peers id with toDaemon := rest } (outboxTo r.2 id))) (b : Bool) :
    EvictInv cfg { s with proto := proto, posted := Function.update s.posted id b } := by
  have hold := h.reports.conns id c hc
  have hsem : c.evictSem = 0 := by
    by_contra hne
    rw [(hold.report (by omega)).1] at hposted
    cases hposted
  obtain ⟨d₁, c', hrecv, hconns, hother, hc', hidx, hsem', hmap, -⟩ :=
    onRecv_bindSingle cfg.daemon mr hc htype
  obtain ⟨d₂, reply, hrecv₂, -, -, -, hcase⟩ := h.reports.proto.maps.onRecv_bindSingle hc mr htype
  have heq : d₂ = d₁ := by
    rw [hrecv] at hrecv₂
    exact (Prod.mk.inj (Option.some.inj hrecv₂)).1.symm
  rw [heq] at hcase
  rw [hrecv, Option.some.injEq] at hr
  -- the counter follows the maps when there was a free slab and runs ahead of them otherwise
  obtain ⟨howners, hcovers, hcounted⟩ : (∀ k, k ≠ id → ownsSlab d₁ k = ownsSlab s.proto.daemon k) ∧
      (ownedCount cfg.daemon.maxFreeMemGb (ownsSlab d₁ id) : Int) ≤ c'.mappedChunkSize ∧
      ((∃ i < cfg.daemon.maxFreeMemGb, s.proto.daemon.freeSlab i = true) →
        ownedCount cfg.daemon.maxFreeMemGb (ownsSlab d₁ id) =
          ownedCount cfg.daemon.maxFreeMemGb (ownsSlab s.proto.daemon id) + 1) := by
    have hcov := hold.covers
    rcases hcase with ⟨i, hi, hnot, hmoves, -⟩ | ⟨hnone, hmoves, -⟩
    · have hinsert : ownedCount cfg.daemon.maxFreeMemGb (ownsSlab d₁ id) =
          ownedCount cfg.daemon.maxFreeMemGb (ownsSlab s.proto.daemon id) + 1 := by
        apply ownedCount_insert hi hnot
        · rw [hmoves.owns, if_pos ⟨rfl, List.mem_singleton_self i⟩]
        · intro j hj
          rw [hmoves.owns, if_neg fun hmem => hj (List.mem_singleton.mp hmem.2)]
      exact ⟨fun k hk => hmoves.owners hk, by omega, fun _ => hinsert⟩
    · have hsame : ownedCount cfg.daemon.maxFreeMemGb (ownsSlab d₁ id) =
          ownedCount cfg.daemon.maxFreeMemGb (ownsSlab s.proto.daemon id) := by
        apply ownedCount_congr
        intro i _
        rw [hmoves.owns, if_neg fun hmem => List.not_mem_nil hmem.2]
      refine ⟨fun k hk => hmoves.owners hk, by omega, fun ⟨i, hi, hfree⟩ => ?_⟩
      rw [hnone i hi] at hfree
      cases hfree
  have hd : proto.daemon = d₁ := by
    rw [hs, ← hr]
    rfl
  have hpeer : proto.peers id =
      Peer.deliver { s.proto.peers id with toDaemon := rest } (outboxTo r.2 id) := by
    rw [hs]
    exact Function.update_self _ _ _
  have hpeers : ∀ k, k ≠ id → proto.peers k = s.proto.peers k := by
    intro k hk
    rw [hs]
    exact Function.update_of_ne hk _ _
  have hserves : ServesConn id c' s.proto.daemon proto.daemon := by
    rw [hd]
    exact ⟨hconns, hother, hc', howners⟩
  refine h.act hproto hc hserves hidx
    (fun k hk => ⟨hpeers k hk, Function.update_of_ne hk _ _, rfl⟩) rfl ?_ ?_ ?_
  · dsimp only
    rw [hd, hpeer]
    refine ⟨hcovers, by omega, fun hpos => by omega, hold.unstopped, fun hround => ?_, ?_, ?_,
      fun hpos => by omega, hold.ops⟩
    · exact (hasked hround).elim
    · intro m hmem ht
      have hmem' : m ∈ (s.proto.peers id).toDaemon := hm ▸ List.mem_cons_of_mem _ hmem
      exact (hasked ((h.reports.proto.conn hc).asked_of_activity hmem' ht)).elim
    · intro hsending
      exact (hasked (hold.sends hsending).1).elim
  · intro hpc hset
    dsimp only
    rw [hd, hpeer]
    refine ⟨hset.idle, ?_⟩
    have hone := hcounted (hfree hpc)
    have hcount := hset.counted
    omega
  · intro hawait
    rcases hawait.waits with hround | hpos
    · exact (hasked hround).elim
    · omega

/-- ACTIVITY is received: its flags stay in `recv_msg` until they are stored. -/
lemma EvictInv.serveActivity (h : EvictInv cfg s) {proto : Protocol}
    (hproto : ProtocolInv cfg proto) (hc : s.proto.daemon.heap id = some c) {msg : Message}
    {rest : List Message} (hm : (s.proto.peers id).toDaemon = msg :: rest)
    (htype : msg.type = .activity)
    (hs : proto = setPeer { s.proto with daemon := s.proto.daemon.updateConn id fun c =>
        { c with recvMsg := msg, evictSem := c.evictSem + 1 } } id
      { s.proto.peers id with
        toDaemon := rest
        round := .reported fun i => decide (msg.buf i ≠ 0) }) :
    EvictInv cfg { s with proto := proto, posted := Function.update s.posted id false } := by
  have hold := h.reports.conns id c hc
  have hmem : msg ∈ (s.proto.peers id).toDaemon := hm ▸ List.mem_cons_self
  have hround := (h.reports.proto.conn hc).asked_of_activity hmem htype
  have hsem : c.evictSem = 0 := by
    by_contra hne
    exact (hold.done (by omega)).2 hround
  have hpeer : proto.peers id = { s.proto.peers id with
      toDaemon := rest
      round := .reported fun i => decide (msg.buf i ≠ 0) } := by
    rw [hs]
    exact Function.update_self _ _ _
  obtain ⟨hserves, howns⟩ : ServesConn id { c with recvMsg := msg, evictSem := c.evictSem + 1 }
      s.proto.daemon proto.daemon ∧ ownsSlab proto.daemon id = ownsSlab s.proto.daemon id := by
    rw [hs]
    exact servesConn_updateConn hc
      (f := fun c => { c with recvMsg := msg, evictSem := c.evictSem + 1 }) rfl
  refine h.act hproto hc hserves rfl (fun k hk => ⟨?_, Function.update_of_ne hk _ _, rfl⟩) rfl
    ?_ ?_ ?_
  · rw [hs]
    exact Function.update_of_ne hk _ _
  · dsimp only
    rw [howns, hpeer, Function.update_self]
    refine ⟨hold.covers, by dsimp only; omega, fun _ => ⟨nofun, nofun⟩, nofun, nofun, ?_, ?_,
      fun _ => ⟨rfl, hold.flags msg hmem htype⟩, hold.ops⟩
    · exact fun m hmem => hold.flags m (hm ▸ List.mem_cons_of_mem _ hmem)
    · exact fun hsending => ((hold.sends hsending).2.2 msg hmem htype).elim
  · intro _ hset
    cases hround.symm.trans hset.idle
  · intro hawait
    dsimp only
    rw [howns]
    exact ⟨⟨.inr (Nat.succ_pos _), hawait.counted⟩, rfl⟩

lemma EvictInv.serve (h : EvictInv cfg s) {mr : Nat → MemRegion} {proto : Protocol}
    (henv : listEnv s (.serve id mr)) (hfits : listFits cfg s (.serve id mr))
    (hposted : s.posted id = true)
    (hs : protocolStep cfg s.proto (.serve id mr) = some proto) :
    EvictInv cfg { s with
      proto := proto
      posted := Function.update s.posted id (receivesAgain s.proto id) } := by
  have hproto := h.reports.proto.serve henv hs
  simp only [protocolStep] at hs
  split at hs
  next => cases hs
  next msg rest hm =>
    simp only [Option.bind_eq_bind, Option.bind_eq_some_iff, Option.some.injEq] at hs
    obtain ⟨r, hr, rfl⟩ := hs
    obtain ⟨c, hc, -⟩ := Option.bind_eq_some_iff.mp hr
    have hold := h.reports.conns id c hc
    have hconn := h.reports.proto.conn hc
    rcases hconn.requests msg (by simp [hm]) with ht | ht | ht | ht
    · rw [onRecv_query hc ht, Option.some.injEq] at hr
      rw [← hr] at hproto ⊢
      refine h.keep hproto hc (servesConn_updateConn hc rfl) rfl rfl rfl
        (fun k hk => ⟨Function.update_of_ne hk _ _, Function.update_of_ne hk _ _, rfl⟩) rfl ?_ ?_
      · change (Function.update s.proto.peers id _ id).round = _
        simp only [Function.update_self, roundAfter, ht]
        rfl
      · change ReportInv _ _ _ _ _ (Function.update s.proto.peers id _ id)
        simp only [Function.update_self, roundAfter, ht, outboxTo_self]
        refine hold.keep rfl rfl (fun hpos => ?_) rfl (fun horder => horder.append (by rintro ⟨⟩)) ?_ ?_
          hold.ops
        · rw [(hold.report hpos).1] at hposted
          cases hposted
        · exact List.forall_mem_append.mpr ⟨fun m hm _ => hm, List.forall_mem_singleton.mpr (by rintro ⟨⟩)⟩
        · exact fun m hmem _ => hm ▸ List.mem_cons_of_mem _ hmem
    · obtain ⟨hfree, hasked⟩ := hfits msg (by rw [hm]; rfl) ht
      simp only [roundAfter, ht] at hproto ⊢
      exact h.serveBind hproto hc hm ht hposted hfree hasked hr rfl _
    · have hagain : receivesAgain s.proto id = false := by
        simp [receivesAgain, hm, ht]
      simp only [onRecv, hc, ht, Option.bind_eq_bind, Option.bind_some, updateConn_twice,
        Option.some.injEq] at hr
      rw [← hr] at hproto ⊢
      simp only [roundAfter, ht] at hproto ⊢
      rw [hagain]
      exact h.serveActivity hproto hc hm ht (by simp [outboxTo, Peer.deliver]; rfl)
    · -- no STOP has been sent
      have hdone := hconn.stopped
      have hpos : 0 < (s.proto.peers id).toDaemon.countP (hasType .done) :=
        List.countP_pos_iff.mpr ⟨msg, by simp [hm], hasType_of_eq ht⟩
      cases hround : (s.proto.peers id).round <;> simp only [hround, roundAwaits] at hdone
      · omega
      · omega
      · omega
      · exact (hold.unstopped hround).elim

lemma EvictInv.table (h : EvictInv cfg s) (hproto : ProtocolInv cfg s'.proto)
    (hslots : ∀ i k, k ≠ id → (s'.proto.daemon.conns i = some k ↔ s.proto.daemon.conns i = some k))
    (hheap : ∀ k, k ≠ id → s'.proto.daemon.heap k = s.proto.daemon.heap k)
    (howns : ∀ k, k ≠ id → ∀ i < cfg.daemon.maxFreeMemGb,
      ownsSlab s'.proto.daemon k i = ownsSlab s.proto.daemon k i)
    (hothers : ∀ k, k ≠ id → s'.proto.peers k = s.proto.peers k ∧ s'.posted k = s.posted k ∧
      s'.sending k = s.sending k)
    (hpc : s'.pc = s.pc)
    (hleft : ∀ c, s.proto.daemon.heap id = some c → ¬Awaited cfg.daemon.maxFreeMemGb
      (ownsSlab s.proto.daemon id) c (s.proto.peers id))
    (hslot : ∀ i, s'.proto.daemon.conns i = some id →
      ∃ c, s'.proto.daemon.heap id = some c ∧ c.connIndex = i)
    (hnew : ∀ c, s'.proto.daemon.heap id = some c →
      ReportInv cfg.daemon.maxFreeMemGb (ownsSlab s'.proto.daemon id) c (s'.posted id)
        (s'.sending id) (s'.proto.peers id) ∧
      Settled cfg.daemon.maxFreeMemGb (ownsSlab s'.proto.daemon id) c (s'.proto.peers id)) :
    EvictInv cfg s' := by
  refine ⟨⟨hproto, ?_, ?_⟩, h.list.change hpc ?_ ?_⟩
  · intro i k hi
    by_cases hk : k = id
    · subst hk
      exact hslot i hi
    · rw [hheap k hk]
      exact h.reports.slots i k ((hslots i k hk).mp hi)
  · intro k c hc
    by_cases hk : k = id
    · subst hk
      exact (hnew c hc).1
    · rw [hheap k hk] at hc
      obtain ⟨hpeer, hposted, hsending⟩ := hothers k hk
      rw [hpeer, hposted, hsending]
      exact (h.reports.conns k c hc).congr (howns k hk)
  · intro _ hall k c hc
    by_cases hk : k = id
    · subst hk
      exact (hnew c hc).2
    · rw [hheap k hk] at hc
      rw [(hothers k hk).1]
      exact (hall k c hc).congr (howns k hk)
  · intro i k c hi hc hawait
    have hk : k ≠ id := by
      rintro rfl
      exact hleft c hc hawait
    refine ⟨c, (hslots i k hk).mpr hi, (hheap k hk).trans hc, rfl, ?_⟩
    rw [(hothers k hk).1]
    exact hawait.congr (howns k hk)

lemma EvictInv.connect (h : EvictInv cfg s) {junkIndex : Int} {junkMsg : Message} {sess : Session}
    {proto : Protocol} (hops : ∀ x, IsActivity (sess.lastOps x))
    (hfree : firstIdleSlot cfg.daemon s.proto.daemon ≠ none)
    (hs : protocolStep cfg s.proto (.connect id junkIndex junkMsg sess) = some proto) :
    EvictInv cfg { s with
      proto := proto
      posted := Function.update s.posted id true
      sending := Function.update s.sending id false } := by
  have hproto := h.reports.proto.connect hfree hs
  simp only [protocolStep, daemonStep, Option.bind_eq_bind, Option.bind_eq_some_iff,
    Option.ite_none_right_eq_some, Option.some.injEq] at hs
  obtain ⟨d, ⟨hnone, hd⟩, rfl⟩ := hs
  obtain ⟨slot, hslot⟩ := Option.ne_none_iff_exists'.mp hfree
  obtain ⟨-, hfresh, -⟩ := h.reports.proto.maps.buildConnection hnone hslot junkIndex junkMsg
  rw [hd] at hfresh
  have hidle : s.proto.daemon.connsState slot = .idle := by
    simpa using List.find?_some hslot
  -- the idle slot had no connection
  have hempty : ∀ k, s.proto.daemon.conns slot ≠ some k := by
    intro k hk
    obtain ⟨c, hc, hidx⟩ := h.reports.slots slot k hk
    exact (h.reports.proto.maps.table k c hc).2.2 (hidx ▸ hidle)
  have hconns : d.conns = Function.update s.proto.daemon.conns slot (some id) := by
    rw [← hd, buildConnection, hslot]
  have hheap : ∀ k, k ≠ id → d.heap k = s.proto.daemon.heap k := by
    intro k hk
    rw [← hd, buildConnection_heap cfg.daemon s.proto.daemon junkIndex junkMsg hk]
  have hself : (setPeer { s.proto with daemon := d } id (peerInit sess)).peers id = peerInit sess :=
    Function.update_self _ _ _
  have hconn : ∃ c, d.heap id = some c ∧ c.connIndex = slot ∧ c.mappedChunkSize = 0 ∧
      c.evictSem = 0 := by
    rw [← hd, buildConnection, hslot]
    exact ⟨_, Function.update_self _ _ _, rfl, rfl, rfl⟩
  obtain ⟨c₀, hc₀, hidx, hsize, hsem⟩ := hconn
  have hcount : ownedCount cfg.daemon.maxFreeMemGb (ownsSlab d id) = 0 := by
    refine List.countP_eq_zero.mpr fun i hi => ?_
    rw [hfresh i (List.mem_range.mp hi)]
    exact Bool.false_ne_true
  refine h.table hproto ?_ hheap ?_ (fun k hk => ⟨Function.update_of_ne hk _ _,
    Function.update_of_ne hk _ _, Function.update_of_ne hk _ _⟩) rfl ?_ ?_ ?_
  · intro i k hk
    change d.conns i = some k ↔ _
    rw [hconns]
    by_cases hi : i = slot
    · subst hi
      rw [Function.update_self, Option.some.injEq]
      exact ⟨fun he => (hk he.symm).elim, fun he => (hempty k he).elim⟩
    · rw [Function.update_of_ne hi]
  · intro k hk i _
    change ownsSlab d k i = _
    unfold ownsSlab
    rw [hheap k hk, ← hd, buildConnection_connMap]
  · intro c hc
    rw [hnone] at hc
    cases hc
  · intro i hi
    change d.conns i = some id at hi
    rw [hconns] at hi
    by_cases hislot : i = slot
    · exact ⟨c₀, hc₀, by rw [hidx, hislot]⟩
    · rw [Function.update_of_ne hislot] at hi
      obtain ⟨c, hc, -⟩ := h.reports.slots i id hi
      rw [hnone] at hc
      cases hc
  · intro c hc
    have hcc : c = c₀ := Option.some.inj (hc.symm.trans hc₀)
    subst hcc
    dsimp only
    rw [hself, Function.update_self, Function.update_self]
    change ReportInv _ (ownsSlab d id) _ _ _ _ ∧ Settled _ (ownsSlab d id) _ _
    refine ⟨⟨?_, by omega, fun hpos => by omega, ?_, ?_, ?_, ?_, fun hpos => by omega, hops⟩, rfl,
      ?_⟩
    · rw [hcount, hsize]
      exact le_rfl
    · rintro ⟨⟩
    · rintro ⟨⟩
    · rintro _ ⟨⟩
    · rintro ⟨⟩
    · rw [hcount, hsize]
      rfl

lemma EvictInv.disconnect (h : EvictInv cfg s) {d : DaemonState}
    (hround : (s.proto.peers id).round = .idle)
    (hd : destroyConnection cfg.daemon s.proto.daemon id = some d) :
    EvictInv cfg { s with proto := { s.proto with daemon := d } } := by
  obtain ⟨c, hc, -⟩ := Option.bind_eq_some_iff.mp hd
  have hold := h.reports.conns id c hc
  have hcovers : c.mappedChunkSize ≤ 0 → ∀ i < cfg.daemon.maxFreeMemGb,
      ownsSlab s.proto.daemon id i = false := by
    intro hle i hi
    have hcount := hold.covers
    have hzero : ownedCount cfg.daemon.maxFreeMemGb (ownsSlab s.proto.daemon id) = 0 := by omega
    simpa using List.countP_eq_zero.mp hzero i (List.mem_range.mpr hi)
  obtain ⟨hmaps, hheap, hconns, howns⟩ := h.reports.proto.maps.destroyConnection hc hcovers hd
  have hothers : ∀ k, k ≠ id → d.heap k = s.proto.daemon.heap k := by
    intro k hk
    rw [hheap, Function.update_of_ne hk]
  have hgone : d.heap id = none := by rw [hheap, Function.update_self]
  have hproto : ProtocolInv cfg { s.proto with daemon := d } := by
    refine ⟨hmaps, fun k hk => ?_⟩
    have hkid : k ≠ id := by
      rintro rfl
      rw [hgone] at hk
      cases hk
    have hconn := (h.reports.proto.conns k (hothers k hkid ▸ hk)).congr (howns k hkid)
    unfold stopSemOf at hconn ⊢
    rw [hothers k hkid]
    exact hconn
  have hslot := (h.reports.proto.maps.table id c hc).1
  refine h.table hproto ?_ hothers howns (fun k _ => ⟨rfl, rfl, rfl⟩) rfl ?_ ?_ ?_
  · intro i k hk
    change d.conns i = some k ↔ _
    rw [hconns]
    by_cases hi : i = c.connIndex
    · subst hi
      rw [Function.update_self, hslot, Option.some.injEq]
      exact ⟨nofun, fun he => (hk he.symm).elim⟩
    · rw [Function.update_of_ne hi]
  · intro c' hc' hawait
    rw [hc, Option.some.injEq] at hc'
    subst hc'
    rcases hawait.waits with hasked | hpos
    · cases hround.symm.trans hasked
    · exact (hold.done hpos).1 hround
  · intro i hi
    change d.conns i = some id at hi
    rw [hconns] at hi
    by_cases hislot : i = c.connIndex
    · rw [hislot, Function.update_self] at hi
      cases hi
    · rw [Function.update_of_ne hislot] at hi
      obtain ⟨c', hc', hidx⟩ := h.reports.slots i id hi
      rw [hc, Option.some.injEq] at hc'
      exact (hislot (by rw [hc', hidx])).elim
  · intro c' hc'
    rw [hgone] at hc'
    cases hc'

lemma EvictInv.memory (h : EvictInv cfg s) {d : DaemonState} (hkeep : KeepsHeap s.proto.daemon d) :
    EvictInv cfg { s with proto := { s.proto with daemon := d } } := by
  have howns : ∀ k, ownsSlab d k = ownsSlab s.proto.daemon k := fun k =>
    funext (hkeep.1.ownsSlab k)
  refine ⟨⟨h.reports.proto.keepHeap hkeep, ?_, ?_⟩, h.list.change rfl ?_ ?_⟩
  · intro i k hi
    rw [hkeep.2]
    exact h.reports.slots i k (hkeep.1.conns ▸ hi)
  · intro k c hc
    rw [hkeep.2] at hc
    dsimp only
    rw [howns k]
    exact h.reports.conns k c hc
  · intro _ hall k c hc
    rw [hkeep.2] at hc
    dsimp only
    rw [howns k]
    exact hall k c hc
  · intro i k c hi hc hawait
    dsimp only
    rw [hkeep.1.conns, hkeep.2, howns k]
    exact ⟨c, hi, hc, rfl, hawait⟩

end Steps

end DisStore.Proofs
