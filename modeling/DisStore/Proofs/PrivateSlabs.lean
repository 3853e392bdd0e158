import DisStore.RemoteMemory
import DisStore.Proofs.SlabCredentials

/-!
# The memory of a mapped slab is private

Block devices share the memory of the daemon's host. A write of one of them lands in a slab that
is its own as long as the write is in flight, so what a block device has written to a slab stays
there until it is told to give the slab back, whatever the others do.
-/

namespace DisStore.Proofs
open DisStore DisStore.Lib

/-- Mapped slabs stay mapped, at the same place. -/
def KeepsSlabs (maxMr : Nat) (cb cb' : ControlBlock) : Prop :=
  ∀ i < maxMr, cb.chunkMap i ≠ -1 → cb'.chunkMap i ≠ -1 ∧
    (cb'.chunkList i).remoteRkey = (cb.chunkList i).remoteRkey ∧
    (cb'.chunkList i).remoteAddr = (cb.chunkList i).remoteAddr

section Steps

variable {cfg : ProtocolCfg} {s s' : Protocol} {id k : ConnId} {maxMr : Nat}

lemma KeepsSlabs.of_eq {cb cb' : ControlBlock} (hmap : cb'.chunkMap = cb.chunkMap)
    (hlist : cb'.chunkList = cb.chunkList) : KeepsSlabs maxMr cb cb' := by
  intro i _ hne
  rw [hmap, hlist]
  exact ⟨hne, rfl, rfl⟩

lemma ConnInv.receive_keepsSlabs {owns : Nat → Bool} {sem : Nat} {p : Peer}
    (h : ConnInv maxMr owns sem p) {m : Message} {rest : List Message}
    (hm : p.toClient = m :: rest) (cbIndex : Nat) :
    KeepsSlabs maxMr p.cb (cqRecv maxMr cbIndex p.sess p.cb m).2 := by
  obtain ⟨hup, hok⟩ := h.up
  have htypes := h.replies m (by simp [hm])
  simp only [isAnswer, decide_eq_true_eq] at htypes
  rcases htypes with (ht | ht) | ht | ht
  · rw [cqRecv_freeSize maxMr cbIndex p.sess hup hok ht]
    exact .of_eq rfl rfl
  · rw [cqRecv_infoSingle maxMr cbIndex p.sess hup hok ht]
    unfold singleChunkInit
    dsimp only
    cases hg : grantedSlab maxMr m with
    | none => exact .of_eq rfl rfl
    | some j =>
      intro i hi hne
      have hij : i ≠ j := by
        rintro rfl
        have hplace := h.place i hi
        have hgrant : grantsSlab maxMr i m = true := decide_eq_true ⟨ht, hg⟩
        rw [if_neg hne, hm, List.countP_cons_of_pos hgrant] at hplace
        split at hplace <;> omega
      dsimp only
      rw [Function.update_of_ne hij, Function.update_of_ne hij]
      exact ⟨hne, rfl, rfl⟩
  · rw [cqRecv_evict maxMr cbIndex p.sess hup hok ht]
    unfold clientRecvEvict
    split <;> exact .of_eq rfl rfl
  · rw [cqRecv_stop maxMr cbIndex p.sess hup hok ht]
    unfold clientRecvStop
    split <;> exact .of_eq rfl rfl

/-- The connection stays, with its slabs. -/
def ConnKept (cfg : ProtocolCfg) (s s' : Protocol) (k : ConnId) : Prop :=
  (s'.daemon.heap k).isSome = true ∧
    KeepsSlabs cfg.daemon.maxFreeMemGb (s.peers k).cb (s'.peers k).cb

lemma connKept_setPeer {d : DaemonState} {p' : Peer} (hlive : (d.heap k).isSome = true)
    (h : k = id → KeepsSlabs cfg.daemon.maxFreeMemGb (s.peers id).cb p'.cb) :
    ConnKept cfg s (setPeer { s with daemon := d } id p') k := by
  refine ⟨hlive, ?_⟩
  change KeepsSlabs _ _ (Function.update s.peers id p' k).cb
  by_cases hk : k = id
  · subst hk
    rw [Function.update_self]
    exact h rfl
  · rw [Function.update_of_ne hk]
    exact .of_eq rfl rfl

lemma connKept_updateConn {f : Connection → Connection} {p' : Peer}
    (hlive : (s.daemon.heap k).isSome = true)
    (h : k = id → KeepsSlabs cfg.daemon.maxFreeMemGb (s.peers id).cb p'.cb) :
    ConnKept cfg s (setPeer { s with daemon := s.daemon.updateConn id f } id p') k := by
  refine connKept_setPeer ?_ h
  rw [updateConn_heap]
  by_cases hk : k = id
  · rw [if_pos hk, Option.isSome_map, ← hk]
    exact hlive
  · rw [if_neg hk]
    exact hlive

lemma ProtocolInv.onRecv_live (h : ProtocolInv cfg s) {mr : Nat → MemRegion} {msg : Message}
    {rest : List Message} {r : DaemonState × Outbox} (hm : (s.peers id).toDaemon = msg :: rest)
    (hr : onRecv cfg.daemon mr s.daemon id msg = some r) :
    (r.1.heap k).isSome = (s.daemon.heap k).isSome := by
  obtain ⟨c, hc, -⟩ := Option.bind_eq_some_iff.mp hr
  rcases (h.conn hc).requests msg (by simp [hm]) with ht | ht | ht | ht
  · obtain ⟨d, reply, hrecv, -, hmoves, -⟩ := h.maps.onRecv_query hc mr ht
    rw [hr, Option.some.injEq] at hrecv
    rw [hrecv]
    exact hmoves.live k
  · obtain ⟨d, reply, hrecv, -, -, -, hcase⟩ := h.maps.onRecv_bindSingle hc mr ht
    rw [hr, Option.some.injEq] at hrecv
    rw [hrecv]
    obtain ⟨_, _, _, hmoves, _⟩ | ⟨_, hmoves, _⟩ := hcase
    · exact hmoves.live k
    · exact hmoves.live k
  · obtain ⟨d, hrecv, -, hmoves⟩ := h.maps.onRecv_activity hc mr ht
    rw [hr, Option.some.injEq] at hrecv
    rw [hrecv]
    exact hmoves.live k
  · obtain ⟨d, hrecv, -, hmoves⟩ := h.maps.onRecv_done hc mr ht (h.owns_flagged hc hm ht)
    rw [hr, Option.some.injEq] at hrecv
    rw [hrecv]
    exact hmoves.live k

lemma ProtocolInv.connKept (h : ProtocolInv cfg s) {e : ProtocolEvent}
    (hs : protocolStep cfg s e = some s') (hlive : (s.daemon.heap k).isSome = true)
    (he : ∀ id, e ≠ .observeStop id) : ConnKept cfg s s' k := by
  cases e with
  | connect id junkIndex junkMsg sess =>
    simp only [protocolStep, daemonStep, Option.bind_eq_bind, Option.bind_eq_some_iff,
      Option.ite_none_right_eq_some, Option.some.injEq] at hs
    obtain ⟨d, ⟨hnone, rfl⟩, rfl⟩ := hs
    have hk : k ≠ id := by
      rintro rfl
      rw [hnone] at hlive
      cases hlive
    refine connKept_setPeer ?_ fun heq => (hk heq).elim
    rw [buildConnection_heap cfg.daemon s.daemon junkIndex junkMsg hk]
    exact hlive
  | established id =>
    simp only [protocolStep, sendFreeMemSize, Option.bind_eq_bind, Option.bind_eq_some_iff,
      Option.some.injEq] at hs
    obtain ⟨r, ⟨c, -, rfl⟩, rfl⟩ := hs
    exact connKept_updateConn hlive fun _ => .of_eq rfl rfl
  | query id =>
    simp only [protocolStep, Option.bind_eq_bind, Option.bind_eq_some_iff, Option.some.injEq] at hs
    obtain ⟨c, -, rfl⟩ := hs
    exact connKept_setPeer hlive fun _ => .of_eq rfl rfl
  | bind id chunk =>
    simp only [protocolStep, Option.bind_eq_bind, Option.bind_eq_some_iff, Option.some.injEq] at hs
    obtain ⟨c, -, rfl⟩ := hs
    exact connKept_setPeer hlive fun _ => .of_eq rfl rfl
  | serve id mr =>
    simp only [protocolStep] at hs
    split at hs
    next => cases hs
    next msg rest hm =>
      simp only [Option.bind_eq_bind, Option.bind_eq_some_iff, Option.some.injEq] at hs
      obtain ⟨r, hr, rfl⟩ := hs
      exact connKept_setPeer ((h.onRecv_live hm hr).trans hlive) fun _ => .of_eq rfl rfl
  | receive id =>
    simp only [protocolStep, Option.bind_eq_bind, Option.bind_eq_some_iff] at hs
    obtain ⟨c, hc, hs⟩ := hs
    split at hs
    next => cases hs
    next msg rest hm =>
      rw [← Option.some.inj hs]
      exact connKept_setPeer hlive fun _ => (h.conn hc).receive_keepsSlabs hm cfg.cbIndex
  | observeEvict id =>
    simp only [protocolStep, Peer.observeEvict, Option.bind_eq_bind, Option.bind_eq_some_iff,
      Option.ite_none_right_eq_some, Option.some.injEq] at hs
    obtain ⟨c, -, p, ⟨-, rfl⟩, rfl⟩ := hs
    exact connKept_setPeer hlive fun _ => .of_eq rfl rfl
  | observeStop id => exact (he id rfl).elim
  | evict id n =>
    simp only [protocolStep, sendEvict, Option.bind_eq_bind, Option.bind_eq_some_iff] at hs
    obtain ⟨c, -, hs⟩ := hs
    split at hs
    next =>
      rw [← Option.some.inj hs]
      exact connKept_updateConn hlive fun _ => .of_eq rfl rfl
    next => cases hs
  | stop id n rkey =>
    simp only [protocolStep, sendStop, updateConn_twice, Option.bind_eq_bind,
      Option.bind_eq_some_iff] at hs
    obtain ⟨c, -, hs⟩ := hs
    split at hs
    next =>
      rw [← Option.some.inj hs]
      exact connKept_updateConn hlive fun _ => .of_eq rfl rfl
    next => cases hs
  | finish id =>
    simp only [protocolStep] at hs
    split at hs
    next =>
      simp only [daemonStep, Option.bind_eq_bind, Option.bind_eq_some_iff, Option.some.injEq] at hs
      obtain ⟨d, hd, rfl⟩ := hs
      split at hd
      next c _ =>
        simp only [Option.ite_none_right_eq_some, Option.some.injEq] at hd
        obtain ⟨-, rfl⟩ := hd
        exact connKept_updateConn hlive fun _ => .of_eq rfl rfl
      next => cases hd
    next => cases hs
  | freeForEvict lastFreeMemG =>
    simp only [protocolStep, daemonStep, Option.bind_eq_bind, Option.bind_eq_some_iff,
      Option.ite_none_right_eq_some, Option.some.injEq] at hs
    obtain ⟨d, ⟨-, rfl⟩, rfl⟩ := hs
    exact ⟨(keepsHeap_freeUnmapped cfg.daemon s.daemon _).2 ▸ hlive, .of_eq rfl rfl⟩
  | expand lastFreeMemG =>
    simp only [protocolStep, daemonStep, Option.bind_eq_bind, Option.bind_eq_some_iff,
      Option.ite_none_right_eq_some, Option.some.injEq] at hs
    obtain ⟨d, ⟨-, rfl⟩, rfl⟩ := hs
    exact ⟨(keepsHeap_expandMem cfg.daemon s.daemon lastFreeMemG).2 ▸ hlive, .of_eq rfl rfl⟩

lemma ProtocolInv.slab_kept (h : ProtocolInv cfg s) {e : ProtocolEvent}
    (hs : protocolStep cfg s e = some s') (hlive : (s.daemon.heap k).isSome = true) {i : Nat}
    (hi : i < cfg.daemon.maxFreeMemGb) (hmapped : (s.peers k).cb.chunkMap i ≠ -1) :
    (s'.daemon.heap k).isSome = true ∧
      (e ≠ .observeStop k → (s'.peers k).cb.chunkMap i ≠ -1) ∧
      ((s'.peers k).cb.chunkMap i ≠ -1 →
        ((s'.peers k).cb.chunkList i).remoteRkey = ((s.peers k).cb.chunkList i).remoteRkey ∧
        ((s'.peers k).cb.chunkList i).remoteAddr = ((s.peers k).cb.chunkList i).remoteAddr) := by
  by_cases he : ∃ id, e = .observeStop id
  · obtain ⟨id, rfl⟩ := he
    simp only [protocolStep, Option.bind_eq_bind, Option.bind_eq_some_iff, Option.some.injEq] at hs
    obtain ⟨c, -, p, hp, rfl⟩ := hs
    refine ⟨hlive, ?_⟩
    change (_ → (Function.update s.peers id p k).cb.chunkMap i ≠ -1) ∧ _
    simp only [setPeer]
    by_cases hk : k = id
    · subst hk
      rw [Function.update_self]
      exact ⟨fun hne => (hne rfl).elim, fun hafter => ((observeStop_slabs hp).2 i hafter).2⟩
    · rw [Function.update_of_ne hk]
      exact ⟨fun _ => hmapped, fun _ => ⟨rfl, rfl⟩⟩
  · obtain ⟨hlive', hslabs⟩ := h.connKept hs hlive fun id heq => he ⟨id, heq⟩
    obtain ⟨hafter, hkeys⟩ := hslabs i hi hmapped
    exact ⟨hlive', fun _ => hafter, fun _ => hkeys⟩

end Steps

section Registrations

lemma deregisterSlabs_le {cfg : DaemonConfig} {c : Connection} {msg : Message}
    {mrList : Nat → Option MemRegion} {i : Nat} {r : MemRegion}
    (h : deregisterSlabs cfg c msg mrList i = some r) : mrList i = some r := by
  unfold deregisterSlabs at h
  generalize flaggedSlots cfg msg = slots at h
  induction slots generalizing mrList with
  | nil => exact h
  | cons slot rest ih =>
    have hrest := ih h
    dsimp only at hrest
    by_cases heq : i = (c.sessChunkMap slot).toNat
    · rw [heq, Function.update_self] at hrest
      cases hrest
    · rwa [Function.update_of_ne heq] at hrest

lemma registerMessage_cases {cfg : DaemonConfig} {mr : Nat → MemRegion} {d : DaemonState}
    {id : ConnId} {msg : Message} {mrList mrList' : Nat → Option MemRegion}
    (h : registerMessage cfg mr d id msg mrList = mrList') :
    (∀ i r, mrList' i = some r → mrList i = some r) ∨
      ∃ i < cfg.maxFreeMemGb, d.freeSlab i = true ∧
        mrList' = Function.update mrList i (some (mr i)) := by
  unfold registerMessage at h
  split at h
  · unfold registerSlab at h
    split at h
    next i hfind =>
      have hi := List.mem_range.mp (List.mem_of_find?_eq_some hfind)
      exact .inr ⟨i, hi, List.find?_some hfind, h.symm⟩
    next => exact .inl fun i r hr => h ▸ hr
  · exact .inl fun i r hr => deregisterSlabs_le (h ▸ hr)
  · exact .inl fun i r hr => h ▸ hr

lemma registeredStep_mrList {cfg : ProtocolCfg} {s s' : Registered} {e : ProtocolEvent}
    (hs : registeredStep cfg s e = some s') :
    (∀ i r, s'.mrList i = some r → s.mrList i = some r) ∨
      ∃ id mr, e = .serve id mr ∧ ∃ i < cfg.daemon.maxFreeMemGb,
        s.proto.daemon.freeSlab i = true ∧ s'.mrList = Function.update s.mrList i (some (mr i)) := by
  simp only [registeredStep, Option.bind_eq_bind, Option.bind_eq_some_iff, Option.some.injEq] at hs
  obtain ⟨proto, -, rfl⟩ := hs
  cases e with
  | serve id mr =>
    dsimp only
    cases (s.proto.peers id).toDaemon with
    | nil => exact .inl fun i r hr => hr
    | cons msg rest =>
      obtain hle | hnew := @registerMessage_cases cfg.daemon mr s.proto.daemon id
        msg s.mrList _ rfl
      · exact .inl hle
      · exact .inr ⟨id, mr, rfl, hnew⟩
  | _ => exact .inl fun i r hr => hr

end Registrations

section Contexts

variable {α : Type} {depth : Nat} {q q' : SendQueue α}

/-- The number of reads or of writes that a context has outstanding. -/
def ctxUses (q : SendQueue α) (x : Nat) (write : Bool) : Nat :=
  q.outstanding.countP fun w => decide (w.ctx = x ∧ w.write = write)

/-- A context is free, is mirrored or reads. A write has a mirrored context, and a work request
that has not been executed is the one that its context tells of. -/
structure CtxsHeld (depth : Nat) (q : SendQueue α) : Prop where
  one : ∀ x, q.free.count x + q.bios.count x + ctxUses q x false ≤ if x < depth then 1 else 0
  mirrored : ∀ x, ctxUses q x true ≤ q.bios.count x
  inFlight : ∀ w ∈ q.posted, (q.ctxs w.ctx).inFlight ≠ .idle ∧
    (q.ctxs w.ctx).chunkIndex = w.chunkIndex

lemma ctxUses_add (q : SendQueue α) (x : Nat) :
    ctxUses q x true + ctxUses q x false = (q.outstanding.map RdmaWr.ctx).count x := by
  unfold ctxUses
  induction q.outstanding with
  | nil => rfl
  | cons w rest ih =>
    rw [List.countP_cons, List.countP_cons, List.map_cons, List.count_cons, ← ih]
    by_cases hx : w.ctx = x
    · cases hw : w.write <;> simp [hx] <;> omega
    · simp [hx]

lemma CtxsHeld.nodup (h : CtxsHeld depth q) : (q.outstanding.map RdmaWr.ctx).Nodup := by
  rw [List.nodup_iff_count_le_one]
  intro x
  have hone := h.one x
  have hmirrored := h.mirrored x
  rw [← ctxUses_add]
  split at hone <;> omega

lemma CtxsHeld.ctx_lt (h : CtxsHeld depth q) {w : RdmaWr α} (hw : w ∈ q.posted) :
    w.ctx < depth := by
  have hmem : w.ctx ∈ q.outstanding.map RdmaWr.ctx :=
    List.mem_map_of_mem (List.mem_append_right _ hw)
  have hpos := List.count_pos_iff.mpr hmem
  have hone := h.one w.ctx
  have hmirrored := h.mirrored w.ctx
  rw [← ctxUses_add] at hpos
  split at hone
  · assumption
  · omega

lemma CtxsHeld.not_free (h : CtxsHeld depth q) {w : RdmaWr α} (hw : w ∈ q.outstanding) :
    w.ctx ∉ q.free := by
  intro hfree
  have hpos := List.count_pos_iff.mpr (List.mem_map_of_mem (f := RdmaWr.ctx) hw)
  have hfree := List.count_pos_iff.mpr hfree
  have hone := h.one w.ctx
  have hmirrored := h.mirrored w.ctx
  rw [← ctxUses_add] at hpos
  split at hone <;> omega

lemma ctxUses_post (q : SendQueue α) (cb : ControlBlock) (tr : SlabTransfer α) (x : Nat)
    (success : Bool) (y : Nat) (write : Bool) :
    ctxUses (q.post cb tr x success) y write =
      ctxUses q y write + if success = true ∧ x = y ∧ tr.write = write then 1 else 0 := by
  unfold ctxUses SendQueue.outstanding SendQueue.post
  cases success
  · simp
  · simp [List.countP_cons, Nat.add_assoc]

lemma CtxsHeld.post (h : CtxsHeld depth q) {x : Nat} (hx : x ∈ q.free) (cb : ControlBlock)
    (tr : SlabTransfer α) (success : Bool) : CtxsHeld depth (q.post cb tr x success) := by
  have hfree := List.count_pos_iff.mpr hx
  have hcount : ∀ y, (q.post cb tr x success).free.count y =
      q.free.count y - if x = y then 1 else 0 := by
    intro y
    change (q.free.erase x).count y = _
    rw [List.count_erase]
    simp
  have hbios : ∀ y, (q.post cb tr x success).bios.count y =
      q.bios.count y + if x = y ∧ tr.write = true then 1 else 0 := by
    intro y
    unfold SendQueue.post
    cases tr.write <;> simp [List.count_cons]
  refine ⟨fun y => ?_, fun y => ?_, fun w hw => ?_⟩
  · have hone := h.one y
    rw [hcount, hbios, ctxUses_post]
    by_cases hxy : x = y
    · subst hxy
      cases tr.write <;> cases success <;> simp <;> omega
    · simp [hxy, hone]
  · have hone := h.one y
    have hmirrored := h.mirrored y
    rw [hbios, ctxUses_post]
    by_cases hxy : x = y
    · subst hxy
      cases tr.write <;> cases success <;> simp <;> omega
    · simp [hxy, hmirrored]
  · -- the work requests that were there have other contexts
    have hold : ∀ v ∈ q.posted, v.ctx ≠ x := by
      rintro v hv rfl
      exact h.not_free (List.mem_append_right _ hv) hx
    have hw' : w ∈ q.posted ∨ w.ctx = x ∧ w.chunkIndex = tr.chunkIndex := by
      unfold SendQueue.post at hw
      cases success
      · exact .inl hw
      · simp only [if_true, List.mem_append, List.mem_singleton] at hw
        obtain hw | rfl := hw
        · exact .inl hw
        · exact .inr ⟨rfl, rfl⟩
    change (Function.update q.ctxs x _ w.ctx).inFlight ≠ .idle ∧
      (Function.update q.ctxs x _ w.ctx).chunkIndex = w.chunkIndex
    obtain hmem | ⟨hctx, hchunk⟩ := hw'
    · rw [Function.update_of_ne (hold w hmem)]
      exact h.inFlight w hmem
    · rw [hctx, hchunk, Function.update_self]
      cases tr.write <;> exact ⟨nofun, rfl⟩

lemma CtxsHeld.execute (h : CtxsHeld depth q) {wr : RdmaWr α} {rest : List (RdmaWr α)}
    (hposted : q.posted = wr :: rest) :
    CtxsHeld depth { q with posted := rest, executed := q.executed ++ [wr] } := by
  have huses : ctxUses { q with posted := rest, executed := q.executed ++ [wr] } = ctxUses q := by
    unfold ctxUses SendQueue.outstanding
    rw [hposted]
    simp
  refine ⟨fun x => ?_, fun x => ?_, fun w hw => ?_⟩
  · rw [huses]
    exact h.one x
  · rw [huses]
    exact h.mirrored x
  · exact h.inFlight w (hposted ▸ List.mem_cons_of_mem _ hw)

lemma complete_frame (q : SendQueue α) (wr : RdmaWr α) :
    (q.complete wr).waiting = q.waiting ∧
      (q.complete wr).free = (if wr.write then q.free else q.free ++ [wr.ctx]) ∧
      (q.complete wr).posted = q.posted ∧ (q.complete wr).executed = q.executed ∧
      (q.complete wr).bios = q.bios ∧
      ∀ x, x ≠ wr.ctx → (q.complete wr).ctxs x = q.ctxs x := by
  unfold SendQueue.complete
  dsimp only
  split
  · split
    · exact ⟨rfl, rfl, rfl, rfl, rfl, fun _ _ => rfl⟩
    · exact ⟨rfl, rfl, rfl, rfl, rfl, fun x hx => Function.update_of_ne hx _ _⟩
  · exact ⟨rfl, rfl, rfl, rfl, rfl, fun x hx => Function.update_of_ne hx _ _⟩

lemma CtxsHeld.complete (h : CtxsHeld depth q) {wr : RdmaWr α} {rest : List (RdmaWr α)}
    (hexecuted : q.executed = wr :: rest) :
    CtxsHeld depth ({ q with executed := rest }.complete wr) := by
  have houtstanding : q.outstanding = wr :: (rest ++ q.posted) := by
    unfold SendQueue.outstanding
    rw [hexecuted]
    rfl
  have hother : ∀ w ∈ q.posted, w.ctx ≠ wr.ctx := by
    intro w hw heq
    have hnodup := h.nodup
    rw [houtstanding, List.map_cons, List.nodup_cons] at hnodup
    exact hnodup.1 (heq ▸ List.mem_map_of_mem (List.mem_append_right _ hw))
  have huses : ∀ x write, ctxUses q x write =
      (rest ++ q.posted).countP (fun w => decide (w.ctx = x ∧ w.write = write)) +
        if wr.ctx = x ∧ wr.write = write then 1 else 0 := by
    intro x write
    unfold ctxUses
    rw [houtstanding, List.countP_cons]
    simp
  obtain ⟨-, hfree, hposted, hexec, hbios, hctxs⟩ := complete_frame { q with executed := rest } wr
  have hrest : ∀ x write, ctxUses ({ q with executed := rest }.complete wr) x write =
      (rest ++ q.posted).countP fun w => decide (w.ctx = x ∧ w.write = write) := by
    intro x write
    unfold ctxUses SendQueue.outstanding
    rw [hposted, hexec]
  refine ⟨fun x => ?_, fun x => ?_, fun w hw => ?_⟩
  · have hone := h.one x
    rw [huses] at hone
    rw [hrest, hfree, hbios]
    dsimp only
    cases hwrite : wr.write
    · rw [hwrite] at hone
      simp only [and_true] at hone
      simp only [Bool.false_eq_true, if_false, List.count_append, List.count_singleton, beq_iff_eq]
      omega
    · simp only [if_true]
      omega
  · have hmirrored := h.mirrored x
    rw [huses] at hmirrored
    rw [hrest, hbios]
    dsimp only
    omega
  · rw [hposted] at hw
    rw [hctxs w.ctx (hother w hw)]
    exact h.inFlight w hw

lemma CtxsHeld.diskDone (h : CtxsHeld depth q) {k x : Nat} (hk : q.bios[k]? = some x)
    (hdone : ∀ w ∈ q.outstanding, w.ctx ≠ x) :
    CtxsHeld depth { q with free := q.free ++ [x], bios := q.bios.eraseIdx k } := by
  have hcount : ∀ y, q.bios.count y = (q.bios.eraseIdx k).count y + if x = y then 1 else 0 := by
    intro y
    have hy := countP_eraseIdx hk (fun z => z == y)
    simp only [beq_iff_eq] at hy
    exact hy
  have hnone : ctxUses q x true = 0 := by
    refine List.countP_eq_zero.mpr fun w hw => ?_
    simp [hdone w hw]
  refine ⟨fun y => ?_, fun y => ?_, h.inFlight⟩
  · have hone := h.one y
    have hy := hcount y
    change (q.free ++ [x]).count y + (q.bios.eraseIdx k).count y + ctxUses q y false ≤ _
    rw [List.count_append, List.count_singleton]
    simp only [beq_iff_eq]
    omega
  · have hmirrored := h.mirrored y
    have hy := hcount y
    change ctxUses q y true ≤ (q.bios.eraseIdx k).count y
    by_cases hxy : x = y
    · subst hxy
      omega
    · rw [if_neg hxy] at hy
      omega

end Contexts

section Memory

variable {α : Type} {cfg : ProtocolCfg} {depth : Nat} {s s' : RemoteMemory α}

/-- Blocks of different calls of `posix_memalign`. -/
def RegionsApart (r r' : MemRegion) : Prop :=
  r.addr + oneGb ≤ r'.addr ∨ r'.addr + oneGb ≤ r.addr

/-- `evict_handler` unmaps the slab when it sees STOP. -/
def unmaps (maxMr : Nat) (p : Peer) (i : Nat) : Prop :=
  p.cb.shrinkSizeG ≠ 0 ∧ i ∈ markedSlabs maxMr p.cb

/-- Allocated memory does not overlap, nobody else writes to registered memory, and a transfer
stays in its slab. Of the block devices: no request waits for a context when its slab is given
back, and a mirrored bio completes when no work request of its context is outstanding. -/
def remoteEnv (cfg : ProtocolCfg) (s : RemoteMemory α) : RemoteEvent α → Prop
  | .protocol e => registeredEnv cfg s.registered e ∧
      (∀ id mr, e = .serve id mr →
        ∀ i < cfg.daemon.maxFreeMemGb, ∀ j < cfg.daemon.maxFreeMemGb,
          s.registered.proto.daemon.freeSlab i = true →
            ∀ r, s.registered.mrList j = some r → RegionsApart (mr i) r) ∧
      ∀ id, e = .observeStop id → ∀ tr ∈ (s.queues id).waiting,
        ¬unmaps cfg.daemon.maxFreeMemGb (s.registered.proto.peers id) tr.chunkIndex
  | .route _ tr => tr.offset + tr.len ≤ oneGb
  | .diskDone id k => ∀ x, (s.queues id).bios[k]? = some x →
      ∀ w ∈ (s.queues id).outstanding, w.ctx ≠ x
  | .host addr _ => ∀ i < cfg.daemon.maxFreeMemGb, ∀ r, s.registered.mrList i = some r →
      ¬r.contains addr 1
  | .post _ _ _ _ | .execute _ | .complete _ => True

/-- The addresses lie in a slab that the block device has mapped. -/
structure InSlab (maxMr : Nat) (cb : ControlBlock) (i addr len : Nat) : Prop where
  lt : i < maxMr
  mapped : cb.chunkMap i ≠ -1
  lower : (cb.chunkList i).remoteAddr ≤ addr
  upper : addr + len ≤ (cb.chunkList i).remoteAddr + oneGb

/-- The requests of a block device that have not been executed are for slabs that it has mapped. -/
structure SendQueueInv (maxMr depth : Nat) (live : Prop) (cb : ControlBlock) (q : SendQueue α) :
    Prop where
  ctxs : CtxsHeld depth q
  waiting : ∀ tr ∈ q.waiting, live ∧
    InSlab maxMr cb tr.chunkIndex ((cb.chunkList tr.chunkIndex).remoteAddr + tr.offset) tr.len
  posted : ∀ w ∈ q.posted, live ∧ InSlab maxMr cb w.chunkIndex w.first w.pages ∧
    w.rkey = (cb.chunkList w.chunkIndex).remoteRkey

structure RemoteInv (cfg : ProtocolCfg) (depth : Nat) (s : RemoteMemory α) : Prop where
  cred : CredInv cfg s.registered
  apart : ∀ i < cfg.daemon.maxFreeMemGb, ∀ j < cfg.daemon.maxFreeMemGb, i ≠ j →
    ∀ r r', s.registered.mrList i = some r → s.registered.mrList j = some r' → RegionsApart r r'
  queues : ∀ k, SendQueueInv cfg.daemon.maxFreeMemGb depth
    ((s.registered.proto.daemon.heap k).isSome = true) (s.registered.proto.peers k).cb (s.queues k)
  written : ∀ k i addr v, s.written k i addr = some v →
    (s.registered.proto.daemon.heap k).isSome = true ∧
    InSlab cfg.daemon.maxFreeMemGb (s.registered.proto.peers k).cb i addr 1 ∧ s.memory addr = v
  faults : s.faults = 0

lemma RemoteInv.setQueue (h : RemoteInv cfg depth s) {id : ConnId} {q : SendQueue α}
    (hq : SendQueueInv cfg.daemon.maxFreeMemGb depth
      ((s.registered.proto.daemon.heap id).isSome = true) (s.registered.proto.peers id).cb q) :
    RemoteInv cfg depth (s.setQueue id q) := by
  refine ⟨h.cred, h.apart, fun k => ?_, h.written, h.faults⟩
  change SendQueueInv _ _ _ _ (Function.update s.queues id q k)
  by_cases hk : k = id
  · subst hk
    rw [Function.update_self]
    exact hq
  · rw [Function.update_of_ne hk]
    exact h.queues k

lemma RemoteInv.region (h : RemoteInv cfg depth s) {k : ConnId}
    (hlive : (s.registered.proto.daemon.heap k).isSome = true) {i addr len : Nat}
    (hin : InSlab cfg.daemon.maxFreeMemGb (s.registered.proto.peers k).cb i addr len) :
    ∃ r, s.registered.mrList i = some r ∧
      ((s.registered.proto.peers k).cb.chunkList i).remoteRkey = r.rkey ∧ r.contains addr len := by
  obtain ⟨r, hr, hkey, haddr⟩ := (h.cred.conns k hlive).mapped i hin.lt hin.mapped
  refine ⟨r, hr, hkey, ?_, ?_⟩
  · rw [← haddr]
    exact hin.lower
  · rw [← haddr]
    exact hin.upper

lemma RemoteInv.admitted (h : RemoteInv cfg depth s) {k : ConnId}
    (hlive : (s.registered.proto.daemon.heap k).isSome = true) {i addr len : Nat}
    (hin : InSlab cfg.daemon.maxFreeMemGb (s.registered.proto.peers k).cb i addr len) :
    DisStore.admitted cfg.daemon.maxFreeMemGb s.registered.mrList
      ((s.registered.proto.peers k).cb.chunkList i).remoteRkey addr len = true := by
  obtain ⟨r, hr, hkey, hcontains⟩ := h.region hlive hin
  refine List.any_eq_true.mpr ⟨i, List.mem_range.mpr hin.lt, ?_⟩
  rw [hr, Option.any_some]
  exact decide_eq_true ⟨hkey.symm, hcontains⟩

lemma observeStop_mapped {p p' : Peer} (hp : p.observeStop cfg = some p') {i : Nat}
    (hmapped : p.cb.chunkMap i ≠ -1) (hkeep : ¬unmaps cfg.daemon.maxFreeMemGb p i) :
    p'.cb.chunkMap i ≠ -1 := by
  unfold Peer.observeStop at hp
  simp only [Option.ite_none_right_eq_some] at hp
  obtain ⟨-, hp⟩ := hp
  split at hp
  next =>
    rw [← Option.some.inj hp]
    exact hmapped
  next hsize =>
    rw [← Option.some.inj hp]
    change (if i ∈ markedSlabs cfg.daemon.maxFreeMemGb p.cb then _ else _) ≠ _
    rw [if_neg fun hmarked => hkeep ⟨hsize, hmarked⟩]
    exact hmapped

lemma ProtocolInv.stays_mapped {s s' : Protocol} (h : ProtocolInv cfg s) {e : ProtocolEvent}
    {k : ConnId} {i : Nat} (hs : protocolStep cfg s e = some s')
    (hlive : (s.daemon.heap k).isSome = true) (hi : i < cfg.daemon.maxFreeMemGb)
    (hmapped : (s.peers k).cb.chunkMap i ≠ -1)
    (hkeep : e = .observeStop k → ¬unmaps cfg.daemon.maxFreeMemGb (s.peers k) i) :
    (s'.peers k).cb.chunkMap i ≠ -1 := by
  by_cases he : e = .observeStop k
  · subst he
    simp only [protocolStep, Option.bind_eq_bind, Option.bind_eq_some_iff, Option.some.injEq] at hs
    obtain ⟨c, -, p, hp, rfl⟩ := hs
    simp only [setPeer, Function.update_self]
    exact observeStop_mapped hp hmapped (hkeep rfl)
  · exact (h.slab_kept hs hlive hi hmapped).2.1 he

lemma RemoteInv.inSlab {registered : Registered} {e : ProtocolEvent} {k : ConnId}
    {i addr len : Nat} (h : RemoteInv cfg depth s)
    (hs : protocolStep cfg s.registered.proto e = some registered.proto)
    (hlive : (s.registered.proto.daemon.heap k).isSome = true)
    (hin : InSlab cfg.daemon.maxFreeMemGb (s.registered.proto.peers k).cb i addr len)
    (hmapped : (registered.proto.peers k).cb.chunkMap i ≠ -1) :
    (registered.proto.daemon.heap k).isSome = true ∧
      InSlab cfg.daemon.maxFreeMemGb (registered.proto.peers k).cb i addr len ∧
      ((registered.proto.peers k).cb.chunkList i).remoteRkey =
        ((s.registered.proto.peers k).cb.chunkList i).remoteRkey ∧
      ((registered.proto.peers k).cb.chunkList i).remoteAddr =
        ((s.registered.proto.peers k).cb.chunkList i).remoteAddr := by
  obtain ⟨hlive', -, hsame⟩ := h.cred.proto.slab_kept hs hlive hin.lt hin.mapped
  obtain ⟨hrkey, haddr⟩ := hsame hmapped
  exact ⟨hlive', ⟨hin.lt, hmapped, haddr ▸ hin.lower, haddr ▸ hin.upper⟩, hrkey, haddr⟩

lemma RemoteInv.protocol_queue {e : ProtocolEvent} {registered : Registered}
    (h : RemoteInv cfg depth s) (henv : remoteEnv cfg s (.protocol e))
    (hs : protocolStep cfg s.registered.proto e = some registered.proto)
    (hwait : waitOver depth s registered.proto e = true) (k : ConnId) :
    SendQueueInv cfg.daemon.maxFreeMemGb depth ((registered.proto.daemon.heap k).isSome = true)
      (registered.proto.peers k).cb (s.queues k) := by
  refine ⟨(h.queues k).ctxs, fun tr htr => ?_, fun w hw => ?_⟩
  · obtain ⟨hlive, hin⟩ := (h.queues k).waiting tr htr
    have hmapped := h.cred.proto.stays_mapped hs hlive hin.lt hin.mapped
      fun he => henv.2.2 k he tr htr
    obtain ⟨hlive', hin', -, haddr⟩ := h.inSlab hs hlive hin hmapped
    rw [haddr]
    exact ⟨hlive', hin'⟩
  · obtain ⟨hlive, hin, hkey⟩ := (h.queues k).posted w hw
    have hmapped : (registered.proto.peers k).cb.chunkMap w.chunkIndex ≠ -1 := by
      by_cases hstop : e = .observeStop k ∧ (s.registered.proto.peers k).cb.shrinkSizeG ≠ 0
      · -- the context of the work request is in flight, and the drain has seen it
        obtain ⟨rfl, hsize⟩ := hstop
        obtain ⟨hflight, hchunk⟩ := (h.queues k).ctxs.inFlight w hw
        simp only [waitOver, hsize, decide_false, Bool.false_or] at hwait
        have hctx := List.all_eq_true.mp hwait w.ctx
          (List.mem_range.mpr ((h.queues k).ctxs.ctx_lt hw))
        rw [hchunk] at hctx
        exact (of_decide_eq_true hctx).resolve_left hflight
      · exact h.cred.proto.stays_mapped hs hlive hin.lt hin.mapped
          fun he hunmaps => hstop ⟨he, hunmaps.1⟩
    obtain ⟨hlive', hin', hrkey, -⟩ := h.inSlab hs hlive hin hmapped
    exact ⟨hlive', hin', hkey.trans hrkey.symm⟩

lemma RemoteInv.protocol (h : RemoteInv cfg depth s) {e : ProtocolEvent} {registered : Registered}
    (henv : remoteEnv cfg s (.protocol e))
    (hs : registeredStep cfg s.registered e = some registered)
    (hwait : waitOver depth s registered.proto e = true) :
    RemoteInv cfg depth { s with
      registered := registered
      written := keepMapped registered.proto s.written } := by
  have hproto : protocolStep cfg s.registered.proto e = some registered.proto := by
    simp only [registeredStep, Option.bind_eq_bind, Option.bind_eq_some_iff,
      Option.some.injEq] at hs
    obtain ⟨proto, hproto, rfl⟩ := hs
    exact hproto
  refine ⟨h.cred.step e henv.1 hs, ?_, fun k => h.protocol_queue henv hproto hwait k, ?_, h.faults⟩
  · intro i hi j hj hij r r' hr hr'
    obtain hle | ⟨id, mr, rfl, n, hn, hfree, hmr⟩ := registeredStep_mrList hs
    · exact h.apart i hi j hj hij r r' (hle i r hr) (hle j r' hr')
    · have hnew := henv.2.1 id mr rfl n hn
      simp only [hmr] at hr hr'
      by_cases hin : i = n
      · subst hin
        rw [Function.update_self, Option.some.injEq] at hr
        rw [Function.update_of_ne (Ne.symm hij)] at hr'
        rw [← hr]
        exact hnew j hj hfree r' hr'
      · rw [Function.update_of_ne hin] at hr
        by_cases hjn : j = n
        · subst hjn
          rw [Function.update_self, Option.some.injEq] at hr'
          rw [← hr']
          exact (hnew i hi hfree r hr).symm
        · rw [Function.update_of_ne hjn] at hr'
          exact h.apart i hi j hj hij r r' hr hr'
  · intro k i addr v hv
    change (if (registered.proto.peers k).cb.chunkMap i = -1 then none else s.written k i addr) =
      some v at hv
    split at hv
    next => cases hv
    next hmapped =>
      obtain ⟨hlive, hin, hmem⟩ := h.written k i addr v hv
      obtain ⟨hlive', hin', -⟩ := h.inSlab hproto hlive hin hmapped
      exact ⟨hlive', hin', hmem⟩

/-- The addresses of two mapped slabs are apart, unless it is the same slab of the same block
device. -/
lemma RemoteInv.ne_addr (h : RemoteInv cfg depth s) {k k' : ConnId} {i i' addr len addr' : Nat}
    (hlive : (s.registered.proto.daemon.heap k).isSome = true)
    (hlive' : (s.registered.proto.daemon.heap k').isSome = true)
    (hin : InSlab cfg.daemon.maxFreeMemGb (s.registered.proto.peers k).cb i addr len)
    (hin' : InSlab cfg.daemon.maxFreeMemGb (s.registered.proto.peers k').cb i' addr' 1)
    (hne : ¬(k' = k ∧ i' = i)) : ¬(addr ≤ addr' ∧ addr' < addr + len) := by
  by_cases hii : i' = i
  · -- one slab is not mapped by two block devices
    subst hii
    obtain ⟨c, hc⟩ := Option.isSome_iff_exists.mp hlive
    obtain ⟨c', hc'⟩ := Option.isSome_iff_exists.mp hlive'
    have hkk := h.cred.proto.slabsOwned.exclusive k' k c' c hc' hc i' hin.lt (.inl hin'.mapped)
      (.inl hin.mapped)
    exact (hne ⟨hkk, rfl⟩).elim
  · obtain ⟨r, hr, -, hlo, hhi⟩ := h.region hlive hin
    obtain ⟨r', hr', -, hlo', hhi'⟩ := h.region hlive' hin'
    have hapart := h.apart i' hin'.lt i hin.lt hii r' r hr' hr
    unfold RegionsApart at hapart
    omega

lemma RemoteInv.access (h : RemoteInv cfg depth s) {id : ConnId} {wr : RdmaWr α}
    (hlive : (s.registered.proto.daemon.heap id).isSome = true)
    (hin : InSlab cfg.daemon.maxFreeMemGb (s.registered.proto.peers id).cb wr.chunkIndex wr.first
      wr.pages) : RemoteInv cfg depth (s.access id wr) := by
  unfold RemoteMemory.access
  split
  next =>
    refine ⟨h.cred, h.apart, h.queues, ?_, h.faults⟩
    intro k i addr v hv
    dsimp only at hv ⊢
    by_cases hki : k = id ∧ i = wr.chunkIndex
    · obtain ⟨rfl, rfl⟩ := hki
      rw [Function.update_self, Function.update_self, RdmaWr.record] at hv
      split at hv
      next hcovers =>
        have hlo := hin.lower
        have hhi := hin.upper
        obtain ⟨hfirst, hlast⟩ := hcovers
        refine ⟨hlive, ⟨hin.lt, hin.mapped, by omega, by omega⟩, ?_⟩
        rw [Extent.write_of_covers ⟨hfirst, hlast⟩]
        exact Option.some.inj hv
      next hcovers =>
        obtain ⟨hlive', hin', hmem⟩ := h.written k wr.chunkIndex addr v hv
        rw [Extent.write_of_not_covers hcovers]
        exact ⟨hlive', hin', hmem⟩
    · have hold : s.written k i addr = some v := by
        by_cases hk : k = id
        · subst hk
          rw [Function.update_self, Function.update_of_ne (fun hi => hki ⟨rfl, hi⟩)] at hv
          exact hv
        · rwa [Function.update_of_ne hk] at hv
      obtain ⟨hlive', hin', hmem⟩ := h.written k i addr v hold
      rw [Extent.write_of_not_covers (h.ne_addr hlive hlive' hin hin' hki)]
      exact ⟨hlive', hin', hmem⟩
  next => exact h

lemma RemoteInv.execute (h : RemoteInv cfg depth s) {id : ConnId}
    (hs : remoteStep cfg depth s (.execute id) = some s') : RemoteInv cfg depth s' := by
  simp only [remoteStep] at hs
  split at hs
  next => cases hs
  next wr rest hposted =>
    obtain ⟨hlive, hin, hkey⟩ := (h.queues id).posted wr (by simp [hposted])
    have hadmit := h.admitted hlive hin
    rw [← hkey] at hadmit
    rw [if_pos hadmit] at hs
    rw [← Option.some.inj hs]
    have hregistered : (s.access id wr).registered = s.registered := by
      unfold RemoteMemory.access
      split <;> rfl
    refine (h.access hlive hin).setQueue ⟨(h.queues id).ctxs.execute hposted, ?_, fun w hw => ?_⟩
    · rw [hregistered]
      exact (h.queues id).waiting
    · rw [hregistered]
      exact (h.queues id).posted w (hposted ▸ List.mem_cons_of_mem _ hw)

lemma RemoteInv.step (h : RemoteInv cfg depth s) (e : RemoteEvent α) (henv : remoteEnv cfg s e)
    (hs : remoteStep cfg depth s e = some s') : RemoteInv cfg depth s' := by
  cases e with
  | protocol e =>
    simp only [remoteStep, Option.bind_eq_bind, Option.bind_eq_some_iff,
      Option.ite_none_right_eq_some, Option.some.injEq] at hs
    obtain ⟨registered, hstep, hwait, rfl⟩ := hs
    exact h.protocol henv hstep hwait
  | route id tr =>
    simp only [remoteStep, Option.bind_eq_bind, Option.bind_eq_some_iff,
      Option.ite_none_right_eq_some, Option.some.injEq] at hs
    obtain ⟨c, hc, ⟨hlt, hmapped⟩, rfl⟩ := hs
    have hq := h.queues id
    refine h.setQueue ⟨⟨hq.ctxs.one, hq.ctxs.mirrored, hq.ctxs.inFlight⟩, fun tr' htr => ?_,
      hq.posted⟩
    obtain htr | htr := List.mem_append.mp htr
    · exact hq.waiting tr' htr
    · rw [List.mem_singleton.mp htr]
      change tr.offset + tr.len ≤ oneGb at henv
      refine ⟨by rw [hc]; rfl, hlt, hmapped, Nat.le_add_right _ _, ?_⟩
      omega
  | post id k x success =>
    simp only [remoteStep, Option.bind_eq_bind, Option.bind_eq_some_iff,
      Option.ite_none_right_eq_some, Option.some.injEq] at hs
    obtain ⟨tr, hk, hx, rfl⟩ := hs
    have hq := h.queues id
    obtain ⟨hlive, hin⟩ := hq.waiting tr (List.mem_of_getElem? hk)
    have hctxs : CtxsHeld depth { s.queues id with
        waiting := (s.queues id).waiting.eraseIdx k } :=
      ⟨hq.ctxs.one, hq.ctxs.mirrored, hq.ctxs.inFlight⟩
    refine h.setQueue ⟨hctxs.post hx _ tr success,
      fun tr' htr => hq.waiting tr' (List.mem_of_mem_eraseIdx htr), fun w hw => ?_⟩
    unfold SendQueue.post at hw
    cases success
    · exact hq.posted w hw
    · simp only [if_true, List.mem_append, List.mem_singleton] at hw
      obtain hw | rfl := hw
      · exact hq.posted w hw
      · exact ⟨hlive, hin, rfl⟩
  | execute id => exact h.execute hs
  | complete id =>
    simp only [remoteStep] at hs
    split at hs
    next => cases hs
    next wr rest hexecuted =>
      rw [← Option.some.inj hs]
      have hq := h.queues id
      obtain ⟨hwaiting, -, hposted, -⟩ := complete_frame { s.queues id with executed := rest } wr
      refine h.setQueue ⟨hq.ctxs.complete hexecuted, ?_, ?_⟩
      · rw [hwaiting]
        exact hq.waiting
      · rw [hposted]
        exact hq.posted
  | diskDone id k =>
    simp only [remoteStep, Option.bind_eq_bind, Option.bind_eq_some_iff, Option.some.injEq] at hs
    obtain ⟨x, hk, rfl⟩ := hs
    have hq := h.queues id
    exact h.setQueue ⟨hq.ctxs.diskDone hk (henv x hk), hq.waiting, hq.posted⟩
  | host addr v =>
    simp only [remoteStep, Option.some.injEq] at hs
    subst hs
    refine ⟨h.cred, h.apart, h.queues, fun k i addr' v' hv => ?_, h.faults⟩
    obtain ⟨hlive, hin, hmem⟩ := h.written k i addr' v' hv
    refine ⟨hlive, hin, ?_⟩
    have hne : addr' ≠ addr := by
      rintro rfl
      obtain ⟨r, hr, -, hcontains⟩ := h.region hlive hin
      exact henv i hin.lt r hr hcontains
    dsimp only
    rw [Function.update_of_ne hne]
    exact hmem

end Memory

instance (r r' : MemRegion) : Decidable (RegionsApart r r') := inferInstanceAs (Decidable (_ ∨ _))

instance (maxMr : Nat) (p : Peer) (i : Nat) : Decidable (unmaps maxMr p i) :=
  inferInstanceAs (Decidable (_ ∧ _))

end DisStore.Proofs
