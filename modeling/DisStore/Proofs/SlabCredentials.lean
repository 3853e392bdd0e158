import DisStore.Registration
import DisStore.Proofs.SlabOwnership

/-!
# Block devices use live registrations

The key and the address that a block device has for a slab come from an INFO_SINGLE message and
are used until the slab is given back, while the daemon registers and deregisters the slab. In
the runs in which a slab has one owner they are those of the registration that is in force.
-/

namespace DisStore.Proofs
open DisStore DisStore.Lib

/-- The key and the address of slab `i` are on their way to the block device, or in its table,
as the daemon has registered them. -/
structure CredConn (maxMr : Nat) (mrList : Nat → Option MemRegion) (p : Peer) : Prop where
  granted : ∀ m ∈ p.toClient, ∀ i, grantsSlab maxMr i m = true → ∃ r, mrList i = some r ∧
    m.rkey i = htonl r.rkey ∧ m.buf i = htonll r.addr
  mapped : ∀ i < maxMr, p.cb.chunkMap i ≠ -1 → ∃ r, mrList i = some r ∧
    (p.cb.chunkList i).remoteRkey = r.rkey ∧ (p.cb.chunkList i).remoteAddr = r.addr

section Connections

variable {maxMr : Nat} {mrList mrList' : Nat → Option MemRegion} {p p' : Peer} {owns : Nat → Bool}
  {sem : Nat}

lemma CredConn.init (maxMr : Nat) (mrList : Nat → Option MemRegion) (sess : Session) :
    CredConn maxMr mrList (peerInit sess) := by
  constructor <;> simp [peerInit, kernelCbInit]

lemma CredConn.shrink (h : CredConn maxMr mrList p)
    (hmsgs : ∀ m ∈ p'.toClient, m ∈ p.toClient ∨ m.type ≠ .infoSingle)
    (hmapped : ∀ i < maxMr, p'.cb.chunkMap i ≠ -1 → p.cb.chunkMap i ≠ -1 ∧
      (p'.cb.chunkList i).remoteRkey = (p.cb.chunkList i).remoteRkey ∧
      (p'.cb.chunkList i).remoteAddr = (p.cb.chunkList i).remoteAddr) :
    CredConn maxMr mrList p' := by
  constructor
  · intro m hm i hgrant
    obtain hm | htype := hmsgs m hm
    · exact h.granted m hm i hgrant
    · rw [grantsSlab_of_type htype] at hgrant
      cases hgrant
  · intro i hi hne
    obtain ⟨hold, hkey, haddr⟩ := hmapped i hi hne
    rw [hkey, haddr]
    exact h.mapped i hi hold

lemma CredConn.same (h : CredConn maxMr mrList p) (hclient : p'.toClient = p.toClient)
    (hmap : p'.cb.chunkMap = p.cb.chunkMap) (hlist : p'.cb.chunkList = p.cb.chunkList) :
    CredConn maxMr mrList p' :=
  h.shrink (fun m hm => .inl (hclient ▸ hm)) fun i _ hne => by
    rw [hmap] at hne
    rw [hlist]
    exact ⟨hne, rfl, rfl⟩

lemma CredConn.deliver (h : CredConn maxMr mrList p) {m : Message} (htype : m.type ≠ .infoSingle)
    (round : PeerRound) : CredConn maxMr mrList ({ p with round := round }.deliver [m]) := by
  refine h.shrink (fun x hx => ?_) fun i _ hne => ⟨hne, rfl, rfl⟩
  obtain hx | hx := List.mem_append.mp hx
  · exact .inl hx
  · exact .inr (List.mem_singleton.mp hx ▸ htype)

lemma CredConn.deliverGrant (h : CredConn maxMr mrList p) {m : Message}
    (hgrant : ∀ i, grantsSlab maxMr i m = true → ∃ r, mrList i = some r ∧
      m.rkey i = htonl r.rkey ∧ m.buf i = htonll r.addr) :
    CredConn maxMr mrList (p.deliver [m]) := by
  refine ⟨?_, h.mapped⟩
  exact List.forall_mem_append.mpr ⟨h.granted, List.forall_mem_singleton.mpr hgrant⟩

lemma CredConn.reregister (h : CredConn maxMr mrList p) (hconn : ConnInv maxMr owns sem p)
    (hsame : ∀ i < maxMr, owns i = true → mrList' i = mrList i) : CredConn maxMr mrList' p := by
  have hown : ∀ i < maxMr, (p.cb.chunkMap i ≠ -1 ∨ ∃ m ∈ p.toClient, grantsSlab maxMr i m = true) →
      owns i = true := by
    intro i hi hplace
    have hcount := hconn.place i hi
    by_contra hnot
    rw [if_neg hnot] at hcount
    obtain hmapped | ⟨m, hm, hgrant⟩ := hplace
    · rw [if_neg hmapped] at hcount
      omega
    · have hpos : 0 < p.toClient.countP (grantsSlab maxMr i) :=
        List.countP_pos_iff.mpr ⟨m, hm, hgrant⟩
      omega
  constructor
  · intro m hm i hgrant
    have hi : i < maxMr := by
      have hfind := (of_decide_eq_true hgrant).2
      exact List.mem_range.mp (List.mem_of_find?_eq_some hfind)
    rw [hsame i hi (hown i hi (.inr ⟨m, hm, hgrant⟩))]
    exact h.granted m hm i hgrant
  · intro i hi hne
    rw [hsame i hi (hown i hi (.inl hne))]
    exact h.mapped i hi hne

lemma receivedChunk_registered {m : Message} {i : Nat} {r : MemRegion} (hkey : m.rkey i = htonl r.rkey)
    (haddr : m.buf i = htonll r.addr) (hlt : r.rkey < 2 ^ 32 ∧ r.addr < 2 ^ 64) :
    (receivedChunk m i).remoteRkey = r.rkey ∧ (receivedChunk m i).remoteAddr = r.addr := by
  constructor
  · rw [receivedChunk, hkey, htonl_htonl hlt.1]
  · rw [receivedChunk, haddr, htonll_eq_ntohll hlt.2, ntohll_ntohll hlt.2]

lemma CredConn.receiveInfoSingle (h : CredConn maxMr mrList p) {m : Message} {rest : List Message}
    (hbound : ∀ i r, mrList i = some r → r.rkey < 2 ^ 32 ∧ r.addr < 2 ^ 64)
    (hm : p.toClient = m :: rest) (ht : m.type = .infoSingle) (s : Session) (cbIndex : Nat) :
    CredConn maxMr mrList { p with
      sess := (singleChunkInit maxMr cbIndex s { p.cb with recvBuf := m, state := .waitOps }).1
      cb := (singleChunkInit maxMr cbIndex s { p.cb with recvBuf := m, state := .waitOps }).2
      toClient := rest } := by
  have hrest : ∀ x ∈ rest, x ∈ p.toClient := fun x hx => hm ▸ List.mem_cons_of_mem _ hx
  unfold singleChunkInit
  dsimp only
  cases hg : grantedSlab maxMr m with
  | none => exact h.shrink (fun x hx => .inl (hrest x hx)) fun i _ hne => ⟨hne, rfl, rfl⟩
  | some j =>
    obtain ⟨r, hr, hkey, haddr⟩ := h.granted m (by simp [hm]) j (decide_eq_true ⟨ht, hg⟩)
    refine ⟨fun x hx => h.granted x (hrest x hx), fun i hi hne => ?_⟩
    dsimp only at hne ⊢
    by_cases hij : i = j
    · subst hij
      rw [Function.update_self]
      exact ⟨r, hr, receivedChunk_registered hkey haddr (hbound i r hr)⟩
    · rw [Function.update_of_ne hij] at hne ⊢
      exact h.mapped i hi hne

lemma CredConn.receive (h : CredConn maxMr mrList p) (hconn : ConnInv maxMr owns sem p)
    (hbound : ∀ i r, mrList i = some r → r.rkey < 2 ^ 32 ∧ r.addr < 2 ^ 64)
    {m : Message} {rest : List Message} (hm : p.toClient = m :: rest) (cbIndex : Nat) :
    CredConn maxMr mrList { p with
      sess := (cqRecv maxMr cbIndex p.sess p.cb m).1
      cb := (cqRecv maxMr cbIndex p.sess p.cb m).2
      toClient := rest } := by
  obtain ⟨hup, hok⟩ := hconn.up
  have hrest : ∀ x ∈ rest, x ∈ p.toClient ∨ x.type ≠ .infoSingle :=
    fun x hx => .inl (hm ▸ List.mem_cons_of_mem _ hx)
  have htypes := hconn.replies m (by simp [hm])
  simp only [isAnswer, decide_eq_true_eq] at htypes
  rcases htypes with (ht | ht) | ht | ht
  · rw [cqRecv_freeSize maxMr cbIndex p.sess hup hok ht]
    exact h.shrink hrest fun i _ hne => ⟨hne, rfl, rfl⟩
  · rw [cqRecv_infoSingle maxMr cbIndex p.sess hup hok ht]
    exact h.receiveInfoSingle hbound hm ht _ cbIndex
  · rw [cqRecv_evict maxMr cbIndex p.sess hup hok ht]
    unfold clientRecvEvict
    split <;> exact h.shrink hrest fun i _ hne => ⟨hne, rfl, rfl⟩
  · rw [cqRecv_stop maxMr cbIndex p.sess hup hok ht]
    unfold clientRecvStop
    split <;> exact h.shrink hrest fun i _ hne => ⟨hne, rfl, rfl⟩

lemma finishEvict_keys (maxMr : Nat) (sizeG : Int) (s : Session) (cb : ControlBlock) (i : Nat) :
    ((finishEvict maxMr sizeG s cb).2.chunkList i).remoteRkey = (cb.chunkList i).remoteRkey ∧
      ((finishEvict maxMr sizeG s cb).2.chunkList i).remoteAddr = (cb.chunkList i).remoteAddr := by
  simp only [finishEvict, sendDoneMsg]
  split <;> exact ⟨rfl, rfl⟩

lemma observeStop_slabs {cfg : ProtocolCfg} (hp : p.observeStop cfg = some p') :
    p'.toClient = p.toClient ∧ ∀ i, p'.cb.chunkMap i ≠ -1 → p.cb.chunkMap i ≠ -1 ∧
      (p'.cb.chunkList i).remoteRkey = (p.cb.chunkList i).remoteRkey ∧
      (p'.cb.chunkList i).remoteAddr = (p.cb.chunkList i).remoteAddr := by
  unfold Peer.observeStop at hp
  simp only [Option.ite_none_right_eq_some] at hp
  obtain ⟨-, hp⟩ := hp
  split at hp
  · rw [← Option.some.inj hp]
    exact ⟨rfl, fun i hne => ⟨hne, rfl, rfl⟩⟩
  · rw [← Option.some.inj hp]
    refine ⟨rfl, fun i hne => ?_⟩
    change (if i ∈ markedSlabs cfg.daemon.maxFreeMemGb p.cb then _ else _) ≠ _ at hne
    split at hne
    · exact absurd rfl hne
    · exact ⟨hne, finishEvict_keys cfg.daemon.maxFreeMemGb p.cb.shrinkSizeG
        (unmapMarked cfg.daemon.maxFreeMemGb p.sess p.cb).1
        (unmapMarked cfg.daemon.maxFreeMemGb p.sess p.cb).2 i⟩

lemma CredConn.observeStop {cfg : ProtocolCfg} (h : CredConn maxMr mrList p)
    (hp : p.observeStop cfg = some p') : CredConn maxMr mrList p' := by
  obtain ⟨hclient, hslabs⟩ := observeStop_slabs hp
  exact h.shrink (fun m hm => .inl (hclient ▸ hm)) fun i _ hne => hslabs i hne

end Connections

section Slabs

variable {cfg : DaemonConfig} {d d' : DaemonState} {id : ConnId} {c : Connection}
  {mr : Nat → MemRegion} {msg : Message} {out : Outbox}

lemma connMap_ne_iff (h : DaemonMaps cfg d) {i : Nat} (hi : i < cfg.maxFreeMemGb) :
    d.connMap i ≠ -1 ↔ ∃ k, ownsSlab d k i = true := by
  constructor
  · intro hne
    obtain ⟨-, k, c, hc, hindex⟩ := h.owned i hi hne
    refine ⟨k, ?_⟩
    rw [ownsSlab_of_some hc]
    exact decide_eq_true hindex.symm
  · rintro ⟨k, hk⟩ hnone
    cases hc : d.heap k with
    | none => simp [ownsSlab, hc] at hk
    | some c =>
      rw [ownsSlab_of_some hc, hnone] at hk
      have hpos := (h.table k c hc).2.1
      have heq := of_decide_eq_true hk
      omega

lemma ownsSlab_unique (h : DaemonMaps cfg d) {i k k' : Nat} (hk : ownsSlab d k i = true)
    (hk' : ownsSlab d k' i = true) : k = k' := by
  cases hc : d.heap k with
  | none => simp [ownsSlab, hc] at hk
  | some c =>
    cases hc' : d.heap k' with
    | none => simp [ownsSlab, hc'] at hk'
    | some c' =>
      rw [ownsSlab_of_some hc] at hk
      rw [ownsSlab_of_some hc'] at hk'
      exact h.index_inj hc hc' ((of_decide_eq_true hk).symm.trans (of_decide_eq_true hk'))

lemma foldl_update_none {α : Type} (slots : List Nat) (f : Nat → Nat) (hf : ∀ x ∈ slots, f x = x)
    (g : Nat → Option α) (i : Nat) :
    (slots.foldl (fun g x => Function.update g (f x) none) g) i =
      if i ∈ slots then none else g i := by
  induction slots generalizing g with
  | nil => rfl
  | cons x rest ih =>
    rw [List.foldl_cons, ih fun y hy => hf y (List.mem_cons_of_mem _ hy), hf x List.mem_cons_self]
    by_cases hrest : i ∈ rest
    · rw [if_pos hrest, if_pos (List.mem_cons_of_mem _ hrest)]
    · by_cases hix : i = x
      · rw [if_neg hrest, hix, Function.update_self, if_pos List.mem_cons_self]
      · rw [if_neg hrest, Function.update_of_ne hix, if_neg (by simp [hix, hrest])]

lemma deregisterSlabs_apply (h : DaemonMaps cfg d) (hc : d.heap id = some c)
    (hown : ∀ i ∈ flaggedSlots cfg msg, ownsSlab d id i = true)
    (mrList : Nat → Option MemRegion) (i : Nat) :
    deregisterSlabs cfg c msg mrList i =
      if i ∈ flaggedSlots cfg msg then none else mrList i := by
  refine foldl_update_none _ _ (fun slot hslot => ?_) mrList i
  have hlt : slot < cfg.maxFreeMemGb := by
    simp only [flaggedSlots, List.mem_filter, List.mem_range] at hslot
    exact hslot.1
  have hslot := hown slot hslot
  rw [ownsSlab_of_some hc] at hslot
  rw [h.sess id c hc slot hlt, if_pos (of_decide_eq_true hslot)]
  exact Int.toNat_natCast slot

/-- The reply to BIND_SINGLE, by the slab that the loop of `send_single_mr` finds. -/
lemma onRecv_bindSingle_reply (hc : d.heap id = some c) (htype : msg.type = .bindSingle)
    (h : onRecv cfg mr d id msg = some (d', out)) : ∃ reply, out = [(id, reply)] ∧
      match (List.range cfg.maxFreeMemGb).find? d.freeSlab with
      | some i => reply.rkey = Function.update (fun _ => 0) i (htonl (mr i).rkey) ∧
          reply.buf i = htonll (mr i).addr
      | none => reply.rkey = fun _ => 0 := by
  have hc₁ : (d.updateConn id fun c => { c with recvMsg := msg }).heap id =
      some { c with recvMsg := msg } := by simp [DaemonState.updateConn, hc]
  have hfree : DaemonState.freeSlab
      ((d.updateConn id fun c => { c with recvMsg := msg }).updateConn id fun c =>
        { c with sendMsg := { c.sendMsg with sizeGb := msg.sizeGb, rkey := fun _ => 0 } }) =
      d.freeSlab := rfl
  simp only [onRecv, hc, htype, Option.bind_eq_bind, Option.bind_some, sendSingleMr, hc₁,
    hfree, Option.some.injEq, Prod.mk.injEq] at h
  cases hfind : (List.range cfg.maxFreeMemGb).find? d.freeSlab with
  | none =>
    simp only [hfind] at h
    obtain ⟨-, rfl⟩ := h
    simp [sendMessage, DaemonState.updateConn, hc]
  | some i =>
    simp only [hfind] at h
    obtain ⟨-, rfl⟩ := h
    simp [sendMessage, DaemonState.updateConn, bindSlab, hc]

end Slabs

section Runs

variable {cfg : ProtocolCfg} {s s' : Registered} {id : ConnId} {c : Connection}

/-- The registrations and the connections. -/
structure CredInv (cfg : ProtocolCfg) (s : Registered) : Prop where
  proto : ProtocolInv cfg s.proto
  /-- The slabs with an owner are those that are registered. -/
  owned : ∀ i < cfg.daemon.maxFreeMemGb,
    (s.mrList i).isSome = true ↔ s.proto.daemon.connMap i ≠ -1
  bound : ∀ i r, s.mrList i = some r → r.rkey < 2 ^ 32 ∧ r.addr < 2 ^ 64
  conns : ∀ k, (s.proto.daemon.heap k).isSome = true →
    CredConn cfg.daemon.maxFreeMemGb s.mrList (s.proto.peers k)

lemma credInv_init (cfg : ProtocolCfg) (freeMemG : Int) :
    CredInv cfg (registeredInit cfg freeMemG) where
  proto := protocolInv_init cfg freeMemG
  owned i _ := by simp [registeredInit, protocolInit, rdmaSessionInit]
  bound i r hr := by cases hr
  conns k hk := by cases hk

lemma CredInv.keep (h : CredInv cfg s) {proto : Protocol} (hproto : ProtocolInv cfg proto)
    (hmap : proto.daemon.connMap = s.proto.daemon.connMap)
    (hconns : ∀ k, (proto.daemon.heap k).isSome = true →
      CredConn cfg.daemon.maxFreeMemGb s.mrList (proto.peers k)) :
    CredInv cfg ⟨proto, s.mrList⟩ :=
  ⟨hproto, fun i hi => hmap ▸ h.owned i hi, h.bound, hconns⟩

/-- A step of one connection and of the daemon on its behalf, in which `slabs` become the
connection's own and are registered, or are no longer its own and no longer registered. -/
lemma CredInv.move (h : CredInv cfg s) {d : DaemonState} {slabs : List Nat} {owned : Bool}
    {sem : Nat} {p' : Peer} {mrList' : Nat → Option MemRegion}
    (hproto : ProtocolInv cfg (setPeer { s.proto with daemon := d } id p'))
    (hmoves : Moves id slabs owned sem s.proto.daemon d)
    (hothers : ∀ i ∈ slabs, ∀ k, k ≠ id → ownsSlab s.proto.daemon k i = false)
    (hsame : ∀ i, i ∉ slabs → mrList' i = s.mrList i)
    (howned : ∀ i ∈ slabs, (mrList' i).isSome = owned)
    (hbound : ∀ i r, mrList' i = some r → r.rkey < 2 ^ 32 ∧ r.addr < 2 ^ 64)
    (hp : CredConn cfg.daemon.maxFreeMemGb mrList' p') :
    CredInv cfg ⟨setPeer { s.proto with daemon := d } id p', mrList'⟩ := by
  refine ⟨hproto, fun i hi => ?_, hbound, fun k hk => ?_⟩
  · change _ ↔ d.connMap i ≠ -1
    have hmaps : DaemonMaps cfg.daemon d := hproto.maps
    rw [connMap_ne_iff hmaps hi]
    simp only [hmoves.owns]
    by_cases hslab : i ∈ slabs
    · rw [howned i hslab]
      constructor
      · intro htrue
        exact ⟨id, by simp [hslab, htrue]⟩
      · rintro ⟨k, hk⟩
        by_cases hkid : k = id
        · simpa [hkid, hslab] using hk
        · rw [if_neg (fun hand => hkid hand.1), hothers i hslab k hkid] at hk
          cases hk
    · simp only [hslab, and_false, if_false]
      rw [hsame i hslab, h.owned i hi, connMap_ne_iff h.proto.maps hi]
  · change CredConn _ _ (Function.update s.proto.peers id p' k)
    by_cases hkid : k = id
    · rw [hkid, Function.update_self]
      exact hp
    · rw [Function.update_of_ne hkid]
      have hlive : (s.proto.daemon.heap k).isSome = true := (hmoves.live k).symm.trans hk
      refine (h.conns k hlive).reregister (h.proto.conns k hlive) fun i _ hown => hsame i ?_
      intro hslab
      rw [hothers i hslab k hkid] at hown
      cases hown

lemma CredInv.moveNone (h : CredInv cfg s) {d : DaemonState} {sem : Nat} {p' : Peer}
    (hproto : ProtocolInv cfg (setPeer { s.proto with daemon := d } id p'))
    (hmoves : Moves id [] false sem s.proto.daemon d)
    (hp : CredConn cfg.daemon.maxFreeMemGb s.mrList p') :
    CredInv cfg ⟨setPeer { s.proto with daemon := d } id p', s.mrList⟩ :=
  h.move hproto hmoves (fun _ hi => (List.not_mem_nil hi).elim) (fun _ _ => rfl)
    (fun _ hi => (List.not_mem_nil hi).elim) h.bound hp

lemma CredInv.peer (h : CredInv cfg s) {p' : Peer} (hproto : ProtocolInv cfg (setPeer s.proto id p'))
    (hp : CredConn cfg.daemon.maxFreeMemGb s.mrList p') :
    CredInv cfg ⟨setPeer s.proto id p', s.mrList⟩ := by
  have hmoves : Moves id [] false (stopSemOf s.proto.daemon id) s.proto.daemon s.proto.daemon := by
    apply (KeepsOwners.refl s.proto.daemon).moves
    intro k
    by_cases hk : k = id
    · rw [if_pos hk, hk]
    · rw [if_neg hk]
  exact h.moveNone hproto hmoves hp

lemma CredInv.send (h : CredInv cfg s) (hc : s.proto.daemon.heap id = some c)
    {f : Connection → Connection} {round : PeerRound}
    (hidx : ∀ x, (f x).connIndex = x.connIndex) (hsess : ∀ x, (f x).sessChunkMap = x.sessChunkMap)
    (hsem : ∀ x, (f x).stopSem = x.stopSem) (htype : (f c).sendMsg.type ≠ .infoSingle)
    (hproto : ProtocolInv cfg (setPeer { s.proto with daemon := s.proto.daemon.updateConn id f } id
      ({ s.proto.peers id with round := round }.deliver
        (outboxTo (sendMessage (s.proto.daemon.updateConn id f) id) id)))) :
    CredInv cfg ⟨setPeer { s.proto with daemon := s.proto.daemon.updateConn id f } id
      ({ s.proto.peers id with round := round }.deliver
        (outboxTo (sendMessage (s.proto.daemon.updateConn id f) id) id)), s.mrList⟩ := by
  refine h.moveNone hproto (moves_message hc hidx hsess hsem) ?_
  rw [sendMessage_updateConn hc, outboxTo_self]
  exact (h.conns id (by rw [hc]; rfl)).deliver htype round

/-- A slab that nobody owns is registered and given to the connection, with its key and its
address in the reply. -/
lemma CredInv.grant (h : CredInv cfg s) (hc : s.proto.daemon.heap id = some c)
    {d : DaemonState} {sem i : Nat} {r : MemRegion} {reply : Message} {rest : List Message}
    (hi : i < cfg.daemon.maxFreeMemGb) (hfree : s.proto.daemon.connMap i = -1)
    (hr : r.rkey < 2 ^ 32 ∧ r.addr < 2 ^ 64)
    (hgrant : grantedSlab cfg.daemon.maxFreeMemGb reply = some i)
    (hrkey : reply.rkey i = htonl r.rkey) (hbuf : reply.buf i = htonll r.addr)
    (hmoves : Moves id [i] true sem s.proto.daemon d)
    (hproto : ProtocolInv cfg (setPeer { s.proto with daemon := d } id
      (Peer.deliver { s.proto.peers id with toDaemon := rest } [reply]))) :
    CredInv cfg ⟨setPeer { s.proto with daemon := d } id
      (Peer.deliver { s.proto.peers id with toDaemon := rest } [reply]),
      Function.update s.mrList i (some r)⟩ := by
  have hnobody : ∀ k, ownsSlab s.proto.daemon k i = false := by
    intro k
    rw [Bool.eq_false_iff]
    intro hk
    exact (connMap_ne_iff h.proto.maps hi).mpr ⟨k, hk⟩ hfree
  have hsame : ∀ j, j ∉ [i] → Function.update s.mrList i (some r) j = s.mrList j :=
    fun j hj => Function.update_of_ne (by simpa using hj) _ _
  refine h.move hproto hmoves ?_ hsame ?_ ?_ ?_
  · intro j hj k _
    rw [List.mem_singleton.mp hj]
    exact hnobody k
  · intro j hj
    rw [List.mem_singleton.mp hj, Function.update_self]
    rfl
  · intro j r' hr'
    by_cases hji : j = i
    · rw [hji, Function.update_self] at hr'
      rw [← Option.some.inj hr']
      exact hr
    · rw [Function.update_of_ne hji] at hr'
      exact h.bound j r' hr'
  · have hlive : (s.proto.daemon.heap id).isSome = true := by rw [hc]; rfl
    have hreg : CredConn cfg.daemon.maxFreeMemGb (Function.update s.mrList i (some r))
        { s.proto.peers id with toDaemon := rest } := by
      refine ((h.conns id hlive).reregister (h.proto.conns id hlive) fun j _ hown => ?_).same
        rfl rfl rfl
      apply hsame j
      rw [List.mem_singleton]
      rintro rfl
      rw [hnobody id] at hown
      cases hown
    refine hreg.deliverGrant fun j hj => ?_
    have hji : j = i := Option.some.inj ((of_decide_eq_true hj).2.symm.trans hgrant)
    subst hji
    exact ⟨r, Function.update_self .., hrkey, hbuf⟩

/-- BIND_SINGLE: the slab that is registered is the one that INFO_SINGLE names. -/
lemma CredInv.serveBind (h : CredInv cfg s) (hc : s.proto.daemon.heap id = some c)
    {mr : Nat → MemRegion} {msg : Message} {rest : List Message} {d : DaemonState} {out : Outbox}
    (htype : msg.type = .bindSingle)
    (hkeys : ∀ i, 0 < (mr i).rkey ∧ (mr i).rkey < 2 ^ 32) (haddrs : ∀ i, (mr i).addr < 2 ^ 64)
    (hr : onRecv cfg.daemon mr s.proto.daemon id msg = some (d, out))
    (hproto : ProtocolInv cfg (setPeer { s.proto with daemon := d } id
      (Peer.deliver { s.proto.peers id with toDaemon := rest } (outboxTo out id)))) :
    CredInv cfg ⟨setPeer { s.proto with daemon := d } id
      (Peer.deliver { s.proto.peers id with toDaemon := rest } (outboxTo out id)),
      registerSlab cfg.daemon mr s.proto.daemon s.mrList⟩ := by
  obtain ⟨reply, rfl, hfound⟩ := onRecv_bindSingle_reply hc htype hr
  obtain ⟨d', reply', hrecv, -, -, -, hcase⟩ := h.proto.maps.onRecv_bindSingle hc mr htype
  rw [hr, Option.some.injEq, Prod.mk.injEq, List.cons.injEq, Prod.mk.injEq] at hrecv
  obtain ⟨rfl, ⟨-, rfl⟩, -⟩ := hrecv
  rw [outboxTo_self] at hproto ⊢
  have hne : ∀ i, htonl (mr i).rkey ≠ 0 := by
    intro i
    obtain ⟨hpos, hlt⟩ := hkeys i
    rw [ne_eq, htonl_eq_zero hlt]
    omega
  cases hfind : (List.range cfg.daemon.maxFreeMemGb).find? s.proto.daemon.freeSlab with
  | none =>
    rw [hfind] at hfound
    have hnone : grantedSlab cfg.daemon.maxFreeMemGb reply = none := grantedSlab_zero hfound
    simp only [registerSlab, hfind]
    obtain ⟨j, hj, -, -, hkey⟩ | ⟨-, hmoves, -⟩ := hcase
    · rw [grantedSlab_single hj (hne j) hkey] at hnone
      cases hnone
    · have hcred : CredConn cfg.daemon.maxFreeMemGb s.mrList
          { s.proto.peers id with toDaemon := rest } :=
        (h.conns id (by rw [hc]; rfl)).same rfl rfl rfl
      refine h.moveNone hproto hmoves (hcred.deliverGrant fun i hgrant => ?_)
      rw [(of_decide_eq_true hgrant).2] at hnone
      cases hnone
  | some i =>
    rw [hfind] at hfound
    obtain ⟨hrkey, hbuf⟩ := hfound
    have hi : i < cfg.daemon.maxFreeMemGb := List.mem_range.mp (List.mem_of_find?_eq_some hfind)
    have hfree := ((freeSlab_iff s.proto.daemon i).mp (List.find?_some hfind)).2
    have hgrant := grantedSlab_single hi (hne i) hrkey
    simp only [registerSlab, hfind]
    obtain ⟨j, hj, -, hmoves, hkey⟩ | ⟨-, -, hkey⟩ := hcase
    · have hji : j = i :=
        Option.some.inj ((grantedSlab_single hj (hne j) hkey).symm.trans hgrant)
      subst hji
      exact h.grant hc hi hfree ⟨(hkeys j).2, haddrs j⟩ hgrant
        (by rw [hrkey, Function.update_self]) hbuf hmoves hproto
    · rw [grantedSlab_zero hkey] at hgrant
      cases hgrant

lemma ProtocolInv.owns_flagged {s : Protocol} (h : ProtocolInv cfg s)
    (hc : s.daemon.heap id = some c) {msg : Message} {rest : List Message}
    (hm : (s.peers id).toDaemon = msg :: rest) (htype : msg.type = .done) :
    ∀ i ∈ flaggedSlots cfg.daemon msg, ownsSlab s.daemon id i = true := by
  intro i hi
  simp only [flaggedSlots, List.mem_filter, List.mem_range, decide_eq_true_eq] at hi
  exact (h.conn hc).owns_returned hm htype hi.1 hi.2

/-- DONE: the slabs that are no longer registered have been the connection's own. -/
lemma CredInv.serveDone (h : CredInv cfg s) (hc : s.proto.daemon.heap id = some c)
    {mr : Nat → MemRegion} {msg : Message} {rest : List Message} {d : DaemonState} {out : Outbox}
    (hm : (s.proto.peers id).toDaemon = msg :: rest) (htype : msg.type = .done)
    (hr : onRecv cfg.daemon mr s.proto.daemon id msg = some (d, out))
    (hproto : ProtocolInv cfg (setPeer { s.proto with daemon := d } id
      (Peer.deliver { s.proto.peers id with toDaemon := rest } (outboxTo out id)))) :
    CredInv cfg ⟨setPeer { s.proto with daemon := d } id
      (Peer.deliver { s.proto.peers id with toDaemon := rest } (outboxTo out id)),
      deregisterSlabs cfg.daemon c msg s.mrList⟩ := by
  have hown := h.proto.owns_flagged hc hm htype
  obtain ⟨d', hrecv, -, hmoves⟩ := h.proto.maps.onRecv_done hc mr htype hown
  rw [hr, Option.some.injEq, Prod.mk.injEq] at hrecv
  obtain ⟨rfl, rfl⟩ := hrecv
  have hdereg := deregisterSlabs_apply h.proto.maps hc hown s.mrList
  have hsame : ∀ i, i ∉ flaggedSlots cfg.daemon msg →
      deregisterSlabs cfg.daemon c msg s.mrList i = s.mrList i := by
    intro i hi
    rw [hdereg, if_neg hi]
  refine h.move hproto hmoves ?_ hsame ?_ ?_ ?_
  · intro i hi k hk
    rw [Bool.eq_false_iff]
    intro hki
    exact hk (ownsSlab_unique h.proto.maps hki (hown i hi))
  · intro i hi
    rw [hdereg, if_pos hi]
    rfl
  · intro i r hr
    rw [hdereg] at hr
    split at hr
    · cases hr
    · exact h.bound i r hr
  · have hlive : (s.proto.daemon.heap id).isSome = true := by rw [hc]; rfl
    -- what is left of the connection's own slabs has not been flagged
    have hconn := hproto.conns id ((hmoves.live id).trans hlive)
    simp only [setPeer, Function.update_self] at hconn
    have hcred : CredConn cfg.daemon.maxFreeMemGb s.mrList
        (Peer.deliver { s.proto.peers id with toDaemon := rest } []) :=
      (h.conns id hlive).same (List.append_nil _) rfl rfl
    refine hcred.reregister hconn fun i _ hi => ?_
    apply hsame i
    intro hflag
    rw [hmoves.owns, if_pos ⟨rfl, hflag⟩] at hi
    cases hi

lemma CredInv.serve (h : CredInv cfg s) {mr : Nat → MemRegion} {proto : Protocol}
    (hkeys : ∀ i, 0 < (mr i).rkey ∧ (mr i).rkey < 2 ^ 32) (haddrs : ∀ i, (mr i).addr < 2 ^ 64)
    {msg : Message} {rest : List Message} (hm : (s.proto.peers id).toDaemon = msg :: rest)
    (hs : protocolStep cfg s.proto (.serve id mr) = some proto) :
    CredInv cfg ⟨proto, registerMessage cfg.daemon mr s.proto.daemon id msg s.mrList⟩ := by
  have hproto := h.proto.serve hkeys hs
  simp only [protocolStep, hm, Option.bind_eq_bind, Option.bind_eq_some_iff,
    Option.some.injEq] at hs
  obtain ⟨⟨d, out⟩, hr, rfl⟩ := hs
  obtain ⟨c, hc, -⟩ := Option.bind_eq_some_iff.mp hr
  have hcred := h.conns id (by rw [hc]; rfl)
  rcases (h.proto.conn hc).requests msg (by simp [hm]) with ht | ht | ht | ht
  · obtain ⟨d', reply, hrecv, -, hmoves, hreply⟩ := h.proto.maps.onRecv_query hc mr ht
    rw [hr, Option.some.injEq, Prod.mk.injEq] at hrecv
    obtain ⟨rfl, rfl⟩ := hrecv
    simp only [registerMessage, ht]
    refine h.moveNone hproto hmoves ?_
    rw [outboxTo_self]
    have htaken : CredConn cfg.daemon.maxFreeMemGb s.mrList
        { s.proto.peers id with toDaemon := rest } := hcred.same rfl rfl rfl
    exact htaken.deliver (by simp [hreply]) _
  · simp only [roundAfter, registerMessage, ht] at hproto ⊢
    exact h.serveBind hc ht hkeys haddrs hr hproto
  · obtain ⟨d', hrecv, -, hmoves⟩ := h.proto.maps.onRecv_activity hc mr ht
    rw [hr, Option.some.injEq, Prod.mk.injEq] at hrecv
    obtain ⟨rfl, rfl⟩ := hrecv
    simp only [registerMessage, ht]
    exact h.moveNone hproto hmoves (hcred.same (List.append_nil _) rfl rfl)
  · simp only [roundAfter, registerMessage, ht, hc] at hproto ⊢
    exact h.serveDone hc hm ht hr hproto

/-- Keys and addresses fit the fields of the messages. -/
def registeredEnv (cfg : ProtocolCfg) (s : Registered) (e : ProtocolEvent) : Prop :=
  protocolEnv cfg s.proto e ∧ slotFree cfg s.proto e ∧
    ∀ id mr, e = .serve id mr → ∀ i, (mr i).addr < 2 ^ 64

lemma CredInv.step (h : CredInv cfg s) (e : ProtocolEvent) (hok : registeredEnv cfg s e)
    (hs : registeredStep cfg s e = some s') : CredInv cfg s' := by
  obtain ⟨henv, hslot, haddrs⟩ := hok
  simp only [registeredStep, Option.bind_eq_bind, Option.bind_eq_some_iff, Option.some.injEq] at hs
  obtain ⟨proto, hs, rfl⟩ := hs
  have hproto := h.proto.step e henv hslot hs
  cases e with
  | connect id junkIndex junkMsg sess =>
    simp only [protocolStep, daemonStep, Option.bind_eq_bind, Option.bind_eq_some_iff,
      Option.ite_none_right_eq_some, Option.some.injEq] at hs
    obtain ⟨d, ⟨-, rfl⟩, rfl⟩ := hs
    refine h.keep hproto (buildConnection_connMap ..) fun k hk => ?_
    change CredConn _ _ (Function.update s.proto.peers id (peerInit sess) k)
    by_cases hkid : k = id
    · rw [hkid, Function.update_self]
      exact CredConn.init _ _ sess
    · rw [Function.update_of_ne hkid]
      apply h.conns k
      rw [← buildConnection_heap cfg.daemon s.proto.daemon junkIndex junkMsg hkid]
      exact hk
  | established id =>
    simp only [protocolStep, sendFreeMemSize, Option.bind_eq_bind, Option.bind_eq_some_iff,
      Option.some.injEq] at hs
    obtain ⟨r, ⟨c, hc, rfl⟩, rfl⟩ := hs
    exact h.send hc (fun _ => rfl) (fun _ => rfl) (fun _ => rfl) (by simp) hproto
  | query id =>
    simp only [protocolStep, Option.bind_eq_bind, Option.bind_eq_some_iff, Option.some.injEq] at hs
    obtain ⟨c, hc, rfl⟩ := hs
    exact h.peer hproto ((h.conns id (by rw [hc]; rfl)).same rfl rfl rfl)
  | bind id chunk =>
    simp only [protocolStep, Option.bind_eq_bind, Option.bind_eq_some_iff, Option.some.injEq] at hs
    obtain ⟨c, hc, rfl⟩ := hs
    exact h.peer hproto ((h.conns id (by rw [hc]; rfl)).same rfl rfl rfl)
  | serve id mr =>
    cases hm : (s.proto.peers id).toDaemon with
    | nil => simp [protocolStep, hm] at hs
    | cons msg rest =>
      dsimp only
      rw [hm]
      exact h.serve henv (haddrs id mr rfl) hm hs
  | receive id =>
    simp only [protocolStep, Option.bind_eq_bind, Option.bind_eq_some_iff] at hs
    obtain ⟨c, hc, hs⟩ := hs
    have hlive : (s.proto.daemon.heap id).isSome = true := by rw [hc]; rfl
    split at hs
    next => cases hs
    next msg rest hm =>
      rw [← Option.some.inj hs] at hproto ⊢
      exact h.peer hproto ((h.conns id hlive).receive (h.proto.conns id hlive) h.bound hm _)
  | observeEvict id =>
    simp only [protocolStep, Peer.observeEvict, Option.bind_eq_bind, Option.bind_eq_some_iff,
      Option.ite_none_right_eq_some, Option.some.injEq] at hs
    obtain ⟨c, hc, p, ⟨-, rfl⟩, rfl⟩ := hs
    exact h.peer hproto ((h.conns id (by rw [hc]; rfl)).same rfl rfl rfl)
  | observeStop id =>
    simp only [protocolStep, Option.bind_eq_bind, Option.bind_eq_some_iff, Option.some.injEq] at hs
    obtain ⟨c, hc, p, hp, rfl⟩ := hs
    exact h.peer hproto ((h.conns id (by rw [hc]; rfl)).observeStop hp)
  | evict id n =>
    simp only [protocolStep, Option.bind_eq_bind, Option.bind_eq_some_iff] at hs
    obtain ⟨c, hc, hs⟩ := hs
    split at hs
    next =>
      rw [← Option.some.inj hs] at hproto ⊢
      exact h.send hc (fun _ => rfl) (fun _ => rfl) (fun _ => rfl) (by simp) hproto
    next => cases hs
  | stop id n rkey =>
    simp only [protocolStep, sendStop, updateConn_twice, Option.bind_eq_bind,
      Option.bind_eq_some_iff] at hs
    obtain ⟨c, hc, hs⟩ := hs
    split at hs
    next =>
      rw [← Option.some.inj hs] at hproto ⊢
      exact h.send hc (fun _ => rfl) (fun _ => rfl) (fun _ => rfl) (by simp) hproto
    next => cases hs
  | finish id =>
    simp only [protocolStep] at hs
    split at hs
    next =>
      simp only [daemonStep, Option.bind_eq_bind, Option.bind_eq_some_iff, Option.some.injEq] at hs
      obtain ⟨d, hd, rfl⟩ := hs
      split at hd
      next c hc =>
        simp only [Option.ite_none_right_eq_some, Option.some.injEq] at hd
        obtain ⟨-, rfl⟩ := hd
        have hkeep := keepsOwners_updateConn s.proto.daemon id
          (f := fun c => { c with stopSem := c.stopSem - 1 }) (fun _ => rfl) (fun _ => rfl)
        exact h.moveNone hproto (hkeep.moves (stopSemOf_updateConn hc _))
          ((h.conns id (by rw [hc]; rfl)).same rfl rfl rfl)
      next => cases hd
    next => cases hs
  | freeForEvict lastFreeMemG =>
    simp only [protocolStep, daemonStep, Option.bind_eq_bind, Option.bind_eq_some_iff,
      Option.ite_none_right_eq_some, Option.some.injEq] at hs
    obtain ⟨d, ⟨-, rfl⟩, rfl⟩ := hs
    have hheap := keepsHeap_freeUnmapped cfg.daemon s.proto.daemon
    refine h.keep hproto (hheap _).1.connMap fun k hk => h.conns k ?_
    rw [← (hheap _).2]
    exact hk
  | expand lastFreeMemG =>
    simp only [protocolStep, daemonStep, Option.bind_eq_bind, Option.bind_eq_some_iff,
      Option.ite_none_right_eq_some, Option.some.injEq] at hs
    obtain ⟨d, ⟨-, rfl⟩, rfl⟩ := hs
    have hheap := keepsHeap_expandMem cfg.daemon s.proto.daemon
    refine h.keep hproto (hheap _).1.connMap fun k hk => h.conns k ?_
    rw [← (hheap _).2]
    exact hk

end Runs

/-- The registrations that are in force are those that the block devices use. -/
structure CredentialsLive (cfg : ProtocolCfg) (s : Registered) : Prop where
  /-- The key and the address of a mapped slab are those of its registration. -/
  live : ∀ k, (s.proto.daemon.heap k).isSome = true → ∀ i < cfg.daemon.maxFreeMemGb,
    (s.proto.peers k).cb.chunkMap i ≠ -1 → ∃ r, s.mrList i = some r ∧
      ((s.proto.peers k).cb.chunkList i).remoteRkey = r.rkey ∧
      ((s.proto.peers k).cb.chunkList i).remoteAddr = r.addr
  /-- Registered memory is allocated, and belongs to a connection. -/
  allocated : ∀ i < cfg.daemon.maxFreeMemGb, (s.mrList i).isSome = true →
    s.proto.daemon.mallocMap i = true ∧ s.proto.daemon.connMap i ≠ -1
  /-- The slab that the next BIND_SINGLE registers has no registration. -/
  fresh : ∀ i < cfg.daemon.maxFreeMemGb, s.proto.daemon.freeSlab i = true → s.mrList i = none

/-- In every run in which each connection request finds an idle slot, a block device reads and
writes a slab under the key and at the address of the registration in force. The daemon frees
no registered memory and replaces no registration. -/
theorem credentials_are_live (cfg : ProtocolCfg) (freeMemG : Int) {s : Registered}
    (h : GuardedRun (registeredStep cfg) (registeredEnv cfg) (registeredInit cfg freeMemG) s) :
    CredentialsLive cfg s := by
  have hinv : CredInv cfg s := by
    apply GuardedRun.invariant (credInv_init cfg freeMemG) _ h
    intro s e s' hinv hok hs
    exact hinv.step e hok hs
  refine ⟨fun k hk => (hinv.conns k hk).mapped, fun i hi hreg => ?_, fun i hi hfree => ?_⟩
  · have hne := (hinv.owned i hi).mp hreg
    exact ⟨(hinv.proto.maps.owned i hi hne).1, hne⟩
  · have hnone := ((freeSlab_iff s.proto.daemon i).mp hfree).2
    by_contra hsome
    exact (hinv.owned i hi).mp (Option.isSome_iff_ne_none.mpr hsome) hnone

/-- The region of the second registration has another key and another address. -/
def secondRegion (_ : Nat) : MemRegion := ⟨4096, 7⟩

/-- The slab is bound, evicted, allocated again and bound under another key. -/
def rebindEvents : List ProtocolEvent :=
  [.connect 0 (-1) emptyMessage (sessionCreate 1), .bind 0 0, .serve 0 keyOne, .receive 0,
    .evict 0 1, .receive 0, .observeEvict 0, .serve 0 keyOne, .stop 0 1 (fun _ => 1), .receive 0,
    .observeStop 0, .serve 0 keyOne, .finish 0, .expand 1, .bind 0 0, .serve 0 secondRegion,
    .receive 0]

lemma registeredEnv_of_check {cfg : ProtocolCfg} {s : Registered} {e : ProtocolEvent}
    (hcheck : protocolCheck cfg s.proto e = true)
    (hmr : ∀ id mr, e = .serve id mr →
      ∀ i, (0 < (mr i).rkey ∧ (mr i).rkey < 2 ^ 32) ∧ (mr i).addr < 2 ^ 64) :
    registeredEnv cfg s e := by
  obtain ⟨henv, hslot⟩ := protocolEnv_of_check hcheck fun id mr heq i => (hmr id mr heq i).1
  exact ⟨henv, hslot, fun id mr heq i => (hmr id mr heq i).2⟩

/-- The block device has bound the slab a second time. -/
theorem credentials_are_live_rebound :
    ∃ s, GuardedRun (registeredStep oneSlot) (registeredEnv oneSlot) (registeredInit oneSlot 1) s ∧
      (s.proto.peers 0).cb.chunkMap 0 = 0 ∧ s.mrList 0 = some ⟨4096, 7⟩ ∧
      CredentialsLive oneSlot s := by
  obtain ⟨s, hs, hchunk, hmr⟩ : ∃ s, runChecked (registeredStep oneSlot)
      (fun s e => protocolCheck oneSlot s.proto e) (registeredInit oneSlot 1) rebindEvents =
        some s ∧
      (s.proto.peers 0).cb.chunkMap 0 = 0 ∧ s.mrList 0 = some ⟨4096, 7⟩ := ⟨_, rfl, rfl, rfl⟩
  have hrun : GuardedRun (registeredStep oneSlot) (registeredEnv oneSlot)
      (registeredInit oneSlot 1) s := by
    refine runChecked_reaches _ (fun e he s hcheck => registeredEnv_of_check hcheck ?_) .start hs
    rintro id mr rfl i
    simp only [rebindEvents, List.mem_cons, List.not_mem_nil, or_false, reduceCtorEq, false_or,
      ProtocolEvent.serve.injEq] at he
    rcases he with ⟨-, rfl⟩ | ⟨-, rfl⟩ | ⟨-, rfl⟩ | ⟨-, rfl⟩ <;> simp [keyOne, secondRegion]
  exact ⟨s, hrun, hchunk, hmr, credentials_are_live oneSlot 1 hrun⟩

end DisStore.Proofs
