import DisStore.Proofs.EvictReports

/-!
# The eviction list is filled by the reports

`evict_mem` allocates `evict_list` for the slabs that it has counted for the asked
connections, and stores as many entries as these report later. The two numbers agree when the
counters are right as the call begins and no slab is given to an asked connection before it has
reported. Otherwise they differ in either direction.
-/

namespace DisStore.Proofs
open DisStore DisStore.Lib

/-- The entries of `evict_list` fit into it, and every entry has been stored when the list is
sorted. -/
def ListFilled : EvictPc → Prop
  | .idle => True
  | .collecting plan remaining stored =>
    (stored.length : Int) ≤ plan.total ∧ (remaining = [] → plan.total ≤ stored.length)
  | .sorted plan stored => (stored.length : Int) = plan.total

/-- Nothing is stored beyond the list: the connections still to be collected have a part of it
each. -/
lemma ListInv.filled {cfg : ProtocolCfg} {s : EvictSystem} (h : ListInv cfg s) :
    ListFilled s.pc := by
  unfold ListInv at h
  cases hpc : s.pc with
  | idle => exact trivial
  | sorted plan stored =>
    simp only [hpc] at h
    exact h
  | collecting plan remaining stored =>
    simp only [hpc] at h
    obtain ⟨-, hwait, htotal⟩ := h
    have hpos : ∀ slots t, (∀ i ∈ slots, i ∈ remaining) →
        totalChunks s.proto.daemon slots = some t → 0 ≤ t := by
      intro slots
      induction slots with
      | nil =>
        intro t _ ht
        exact le_of_eq (Option.some.inj ht)
      | cons i slots ih =>
        intro t hsub ht
        obtain ⟨k, c, hslot, hc, hawait⟩ := hwait i (hsub i List.mem_cons_self)
        rw [totalChunks_cons, hslot, Option.bind_some, hc, Option.bind_some,
          Option.map_eq_some_iff] at ht
        obtain ⟨t', ht', rfl⟩ := ht
        have hrest := ih t' (fun j hj => hsub j (List.mem_cons_of_mem _ hj)) ht'
        have hcount := hawait.counted
        omega
    have hle := hpos remaining _ (fun i hi => hi) htotal
    refine ⟨by omega, fun hnil => ?_⟩
    rw [hnil] at htotal
    have hzero : (0 : Int) = plan.total - stored.length := Option.some.inj htotal
    omega

section Steps

variable {cfg : ProtocolCfg} {s s' : EvictSystem} {id : ConnId} {c c' : Connection} {p' : Peer}

/-- Every counter of the daemon is right. -/
def AllCounted (cfg : ProtocolCfg) (d : DaemonState) : Prop :=
  ∀ k c, d.heap k = some c →
    c.mappedChunkSize = ownedCount cfg.daemon.maxFreeMemGb (ownsSlab d k)

/-- What the sending of EVICT messages leaves as it was. -/
structure AskKeeps (s s' : Protocol) : Prop where
  conns : s'.daemon.conns = s.daemon.conns
  sizes : ∀ k, (s'.daemon.heap k).map Connection.mappedChunkSize =
    (s.daemon.heap k).map Connection.mappedChunkSize
  asked : ∀ k, (s.peers k).round = .asked → (s'.peers k).round = .asked

lemma AskKeeps.trans {t t' t'' : Protocol} (h : AskKeeps t t') (h' : AskKeeps t' t'') :
    AskKeeps t t'' :=
  ⟨h'.conns.trans h.conns, fun k => (h'.sizes k).trans (h.sizes k),
    fun k hk => h'.asked k (h.asked k hk)⟩

/-- `send_evict` to a connection: the slabs on their way come before the EVICT. -/
lemma ReportsInv.ask (h : ReportsInv cfg s) (hcounted : AllCounted cfg s.proto.daemon) {n : Int}
    {proto : Protocol} (hs : protocolStep cfg s.proto (.evict id n) = some proto) :
    ReportsInv cfg { s with proto := proto } ∧ AllCounted cfg proto.daemon ∧
      AskKeeps s.proto proto ∧ (proto.peers id).round = .asked := by
  have hproto := h.proto.step (.evict id n) trivial trivial hs
  simp only [protocolStep, Option.bind_eq_bind, Option.bind_eq_some_iff] at hs
  obtain ⟨c, hc, hs⟩ := hs
  split at hs
  next hround =>
    dsimp only [sendEvict] at hs
    rw [sendMessage_updateConn hc, outboxTo_self] at hs
    set f : Connection → Connection := fun c =>
      { c with sendMsg := { c.sendMsg with type := .evict, sizeGb := n, rkey := fun _ => 0 } }
      with hf
    have hold := h.conns id c hc
    obtain ⟨hserves, howns⟩ := servesConn_updateConn hc (f := f) rfl
    rw [← Option.some.inj hs] at hproto ⊢
    refine ⟨?_, ?_, ⟨rfl, fun k => ?_, fun k hk => ?_⟩, ?_⟩
    · refine h.act hproto hc hserves rfl (fun k hk => ⟨Function.update_of_ne hk _ _, rfl, rfl⟩) ?_
      change ReportInv _ (ownsSlab (s.proto.daemon.updateConn id f) id) _ _ _
        (Function.update s.proto.peers id _ id)
      rw [Function.update_self, howns]
      refine ⟨hold.covers, hold.once, fun hpos => ((hold.done hpos).1 hround).elim, (by rintro ⟨⟩),
        fun _ => infoBeforeEvict_evict _ rfl, hold.flags, fun hsending => ?_, hold.report, hold.ops⟩
      cases hround.symm.trans (hold.sends hsending).1
    · intro k e he
      obtain ⟨e₀, he₀, heq⟩ := updateConn_some he
      have hsize : e.mappedChunkSize = e₀.mappedChunkSize := by
        rw [heq]
        split <;> rfl
      rw [hsize, hcounted k e₀ he₀]
      congr 2
      by_cases hk : k = id
      · rw [hk]
        exact howns.symm
      · exact (hserves.owners k hk).symm
    · change ((s.proto.daemon.updateConn id f).heap k).map _ = _
      rw [updateConn_heap]
      by_cases hk : k = id
      · rw [if_pos hk, hk, Option.map_map]
        rfl
      · rw [if_neg hk]
    · by_cases hkid : k = id
      · rw [hkid, hround] at hk
        cases hk
      · change (Function.update s.proto.peers id _ k).round = _
        rw [Function.update_of_ne hkid]
        exact hk
    · change (Function.update s.proto.peers id _ id).round = _
      rw [Function.update_self]
      rfl
  next => cases hs

lemma ReportsInv.askSlots (slots : List Nat) (h : ReportsInv cfg s)
    (hcounted : AllCounted cfg s.proto.daemon) {n : Int} {proto : Protocol}
    (hs : askSlots cfg n slots s.proto = some proto) :
    ReportsInv cfg { s with proto := proto } ∧ AllCounted cfg proto.daemon ∧
      AskKeeps s.proto proto ∧ ∀ i ∈ slots, ∃ k c, proto.daemon.conns i = some k ∧
        proto.daemon.heap k = some c ∧ (proto.peers k).round = .asked := by
  induction slots generalizing s with
  | nil =>
    rw [← Option.some.inj hs]
    exact ⟨h, hcounted, ⟨rfl, fun _ => rfl, fun _ hk => hk⟩, fun i hi =>
      absurd hi List.not_mem_nil⟩
  | cons i slots ih =>
    simp only [DisStore.askSlots, Option.bind_eq_bind, Option.bind_eq_some_iff] at hs
    obtain ⟨id, hslot, t, ht, hs⟩ := hs
    obtain ⟨hinv, hcount, hkeeps, hasked⟩ := h.ask hcounted ht
    obtain ⟨hinv', hcount', hkeeps', hrest⟩ := ih (s := { s with proto := t }) hinv hcount hs
    refine ⟨hinv', hcount', hkeeps.trans hkeeps', List.forall_mem_cons.mpr ⟨?_, hrest⟩⟩
    have hslot' : proto.daemon.conns i = some id := by
      rw [hkeeps'.conns]
      change t.daemon.conns i = some id
      rw [hkeeps.conns, hslot]
    obtain ⟨c, hc, -⟩ := hinv'.slots i id hslot'
    exact ⟨id, c, hslot', hc, hkeeps'.asked id hasked⟩

lemma EvictInv.beginEvict (h : EvictInv cfg s) (hpc : s.pc = .idle) {rand : Nat → Nat} {stopG : Int}
    (hs : beginEvict cfg rand stopG s = some s') : EvictInv cfg s' := by
  have hfree := h.memory (keepsHeap_freeUnmapped cfg.daemon s.proto.daemon stopG)
  unfold DisStore.beginEvict at hs
  split at hs
  next d heq =>
    rw [heq] at hfree
    rw [← Option.some.inj hs]
    exact hfree
  next d evictG heq =>
    rw [heq] at hfree
    simp only [Option.bind_eq_bind, Option.bind_eq_some_iff, Option.some.injEq, Prod.exists] at hs
    obtain ⟨evictG', sendList, -, total, htotal, proto, hask, rfl⟩ := hs
    have hlist := hfree.list
    simp only [ListInv, hpc] at hlist
    obtain ⟨hinv, hcounted, hkeeps, hasked⟩ := hfree.reports.askSlots _
      (fun k c hc => (hlist k c hc).counted) hask
    refine ⟨⟨hinv.proto, hinv.slots, hinv.conns⟩, ?_⟩
    refine ⟨List.nodup_range.filter _, fun i hi => ?_, ?_⟩
    · obtain ⟨k, c, hslot, hc, hround⟩ := hasked i hi
      exact ⟨k, c, hslot, hc, .inl hround, hcounted k c hc⟩
    · rw [List.length_nil, Nat.cast_zero, sub_zero, ← htotal]
      apply totalChunks_congr
      intro i _
      rw [hkeeps.conns]
      cases hslot : d.conns i with
      | none => rfl
      | some k =>
        rw [Option.bind_some, Option.bind_some]
        exact hkeeps.sizes k

lemma EvictInv.collect (h : EvictInv cfg s) (hs : collectReport cfg s = some s') :
    EvictInv cfg s' := by
  unfold collectReport at hs
  split at hs
  next plan i rest stored hpc =>
    simp only [collectActivity, Option.bind_eq_bind, Option.bind_eq_some_iff, Prod.exists,
      Option.some.injEq, Prod.mk.injEq] at hs
    obtain ⟨id, hslot, d, entries, ⟨id', hslot', c, hc, _, hsem, d', entries', ⟨rfl, rfl⟩, rfl,
      rfl⟩, rfl⟩ := hs
    obtain rfl : id' = id := Option.some.inj (hslot'.symm.trans hslot)
    have hpos : 0 < c.evictSem := by
      by_contra hzero
      simp [hzero] at hsem
    have hold := h.reports.conns id' c hc
    have hlist := h.list
    simp only [ListInv, hpc] at hlist
    obtain ⟨hnodup, hwait, htotal⟩ := hlist
    obtain ⟨hi, hnodup⟩ := List.nodup_cons.mp hnodup
    obtain ⟨hserves, howns⟩ := servesConn_updateConn hc (f := takeActivity) rfl
    have hkeep := keepsOwners_updateConn s.proto.daemon id' (f := takeActivity) (fun _ => rfl)
      (fun _ => rfl)
    have hproto : ProtocolInv cfg
        { s.proto with daemon := s.proto.daemon.updateConn id' takeActivity } := by
      refine ⟨h.reports.proto.maps.keep hkeep, fun k hk => ?_⟩
      have hconn := h.reports.proto.conns k (by rw [← hkeep.live]; exact hk)
      have hsame : ownsSlab (s.proto.daemon.updateConn id' takeActivity) k =
          ownsSlab s.proto.daemon k := funext (hkeep.ownsSlab k)
      rw [hsame, stopSemOf_updateConn hc]
      split
      next hkid =>
        subst hkid
        rw [stopSemOf_of_some hc] at hconn
        exact hconn
      next => exact hconn
    -- the slots still to be collected have other connections
    have hothers : ∀ j ∈ rest, ∀ k, s.proto.daemon.conns j = some k → k ≠ id' := by
      rintro j hj k hk rfl
      obtain ⟨e, he, hidx⟩ := h.reports.slots j k hk
      obtain ⟨e', he', hidx'⟩ := h.reports.slots i k hslot
      rw [he, Option.some.injEq] at he'
      rw [← he', hidx] at hidx'
      exact hi (Int.ofNat.inj hidx' ▸ hj)
    refine ⟨h.reports.act hproto hc hserves rfl
      (fun k hk => ⟨rfl, Function.update_of_ne hk _ _, rfl⟩) ?_, hnodup, ?_, ?_⟩
    · dsimp only
      rw [howns, Function.update_self]
      have honce := hold.once
      have hzero : (takeActivity c).evictSem = 0 := by
        change c.evictSem - 1 = 0
        omega
      refine ⟨hold.covers, by omega, fun hp => by omega, hold.unstopped, hold.order, hold.flags,
        hold.sends, fun hp => by omega, hold.ops⟩
    · intro j hj
      obtain ⟨k, e, hk, he, hawait⟩ := hwait j (List.mem_cons_of_mem _ hj)
      have hkid := hothers j hj k hk
      refine ⟨k, e, hk, (hserves.others k hkid).trans he, ?_⟩
      dsimp only
      rw [hserves.owners k hkid]
      exact hawait
    · have hrest : totalChunks (s.proto.daemon.updateConn id' takeActivity) rest =
          totalChunks s.proto.daemon rest := by
        apply totalChunks_congr
        intro j hj
        obtain ⟨k, e, hk, he, -⟩ := hwait j (List.mem_cons_of_mem _ hj)
        change ((s.proto.daemon.conns j).bind _).map _ = _
        rw [hk, Option.bind_some, Option.bind_some, hserves.others k (hothers j hj k hk)]
      rw [totalChunks_cons, hslot, Option.bind_some, hc, Option.bind_some,
        Option.map_eq_some_iff] at htotal
      obtain ⟨t, ht, hsum⟩ := htotal
      obtain ⟨k, e, hk, he, hawait⟩ := hwait i List.mem_cons_self
      obtain rfl : k = id' := Option.some.inj (hk.symm.trans hslot)
      obtain rfl : e = c := Option.some.inj (he.symm.trans hc)
      have hlength := reportedActivity_length cfg.daemon (hold.report hpos).2
      have hcount := hawait.counted
      dsimp only
      rw [hrest, ht, List.append_nil, List.length_append, hlength]
      congr 1
      push_cast
      omega
  next => cases hs

lemma evictStep_sorted {plan : EvictPlan} {stored : List ChunkActivity} {e : EvictEvent}
    (hpc : s.pc = .sorted plan stored) (hs : evictStep cfg s e = some s') : s'.pc = s.pc := by
  cases e with
  | begin rand lastFreeMemG => simp [evictStep, hpc] at hs
  | collect => simp [evictStep, collectReport, hpc] at hs
  | sort junk => simp [evictStep, sortList, hpc] at hs
  | expand lastFreeMemG => simp [evictStep, hpc] at hs
  | connect id junkIndex junkMsg sess =>
    simp only [evictStep, Option.bind_eq_bind, Option.bind_eq_some_iff, Option.some.injEq] at hs
    obtain ⟨proto, -, rfl⟩ := hs
    rfl
  | disconnect id =>
    simp only [evictStep, Option.bind_eq_bind, Option.bind_eq_some_iff, Option.some.injEq] at hs
    obtain ⟨d, -, rfl⟩ := hs
    rfl
  | serve id mr =>
    simp only [evictStep, Option.ite_none_right_eq_some, Option.bind_eq_bind,
      Option.bind_eq_some_iff, Option.some.injEq] at hs
    obtain ⟨-, proto, -, rfl⟩ := hs
    rfl
  | seeEvict id =>
    simp only [evictStep, Option.ite_none_right_eq_some, Option.bind_eq_bind,
      Option.bind_eq_some_iff, Option.some.injEq] at hs
    obtain ⟨c, -, -, rfl⟩ := hs
    rfl
  | sendActivity id =>
    simp only [evictStep, Option.ite_none_right_eq_some, Option.bind_eq_bind,
      Option.bind_eq_some_iff, Option.some.injEq] at hs
    obtain ⟨c, -, -, rfl⟩ := hs
    rfl
  | sample id ops chunk =>
    simp only [evictStep, Option.bind_eq_bind, Option.bind_eq_some_iff, Option.some.injEq] at hs
    obtain ⟨c, -, rfl⟩ := hs
    rfl
  | other e =>
    simp only [evictStep, Option.ite_none_right_eq_some, Option.bind_eq_bind,
      Option.bind_eq_some_iff, Option.some.injEq] at hs
    obtain ⟨-, proto, -, rfl⟩ := hs
    rfl

lemma EvictInv.step (h : EvictInv cfg s) {e : EvictEvent} (henv : listEnv s e)
    (hfits : listFits cfg s e) (hs : evictStep cfg s e = some s') :
    EvictInv cfg s' ∨ ∃ plan stored, s'.pc = .sorted plan stored ∧
      (stored.length : Int) = plan.total := by
  cases e with
  | begin rand lastFreeMemG =>
    simp only [evictStep] at hs
    split at hs
    next hpc =>
      simp only [Option.ite_none_right_eq_some] at hs
      exact .inl (h.beginEvict hpc hs.2)
    next => cases hs
  | collect => exact .inl (h.collect hs)
  | sort junk =>
    simp only [evictStep, sortList] at hs
    split at hs
    next plan stored hpc =>
      simp only [Option.bind_eq_bind, Option.bind_eq_some_iff, Option.some.injEq] at hs
      obtain ⟨r, -, rfl⟩ := hs
      have hfilled := h.list.filled
      rw [hpc] at hfilled
      have hle := hfilled.2 rfl
      exact .inr ⟨plan, stored, rfl, le_antisymm hfilled.1 hle⟩
    next => cases hs
  | connect id junkIndex junkMsg sess =>
    simp only [evictStep, Option.bind_eq_bind, Option.bind_eq_some_iff, Option.some.injEq] at hs
    obtain ⟨proto, hproto, rfl⟩ := hs
    exact .inl (h.connect henv hfits hproto)
  | disconnect id =>
    simp only [evictStep, Option.bind_eq_bind, Option.bind_eq_some_iff, Option.some.injEq] at hs
    obtain ⟨d, hd, rfl⟩ := hs
    exact .inl (h.disconnect henv hd)
  | serve id mr =>
    simp only [evictStep, Option.ite_none_right_eq_some, Option.bind_eq_bind,
      Option.bind_eq_some_iff, Option.some.injEq] at hs
    obtain ⟨hposted, proto, hproto, rfl⟩ := hs
    exact .inl (h.serve henv hfits hposted hproto)
  | seeEvict id =>
    simp only [evictStep, Option.ite_none_right_eq_some, Option.bind_eq_bind,
      Option.bind_eq_some_iff, Option.some.injEq] at hs
    obtain ⟨c, hc, hsees, rfl⟩ := hs
    exact .inl (h.seeEvict hc hsees.1 hsees.2)
  | sendActivity id =>
    simp only [evictStep, Option.ite_none_right_eq_some, Option.bind_eq_bind,
      Option.bind_eq_some_iff, Option.some.injEq] at hs
    obtain ⟨c, hc, hsending, rfl⟩ := hs
    exact .inl (h.sendActivity hc hsending rfl)
  | sample id ops chunk =>
    simp only [evictStep, Option.bind_eq_bind, Option.bind_eq_some_iff, Option.some.injEq] at hs
    obtain ⟨c, hc, rfl⟩ := hs
    exact .inl (h.sample hc ops chunk)
  | expand lastFreeMemG =>
    simp only [evictStep] at hs
    split at hs
    next hpc =>
      simp only [protocolStep, daemonStep, Option.bind_eq_bind, Option.bind_eq_some_iff,
        Option.ite_none_right_eq_some, Option.some.injEq] at hs
      obtain ⟨proto, ⟨d, ⟨-, rfl⟩, rfl⟩, rfl⟩ := hs
      exact .inl (h.memory (keepsHeap_expandMem cfg.daemon s.proto.daemon lastFreeMemG))
    next => cases hs
  | other e =>
    simp only [evictStep, Option.ite_none_right_eq_some, Option.bind_eq_bind,
      Option.bind_eq_some_iff, Option.some.injEq] at hs
    obtain ⟨he, proto, hproto, rfl⟩ := hs
    exact .inl (h.other he hproto)

end Steps

/-- A daemon between two rounds: the slabs are where the two sides of the connections expect
them, the slot table and the counters are right, and nothing of an earlier round is left. -/
structure EvictReady (cfg : ProtocolCfg) (s : EvictSystem) : Prop where
  pc : s.pc = .idle
  proto : ProtocolInv cfg s.proto
  slots : ∀ i k, s.proto.daemon.conns i = some k →
    ∃ c, s.proto.daemon.heap k = some c ∧ c.connIndex = i
  counted : AllCounted cfg s.proto.daemon
  rounds : ∀ k c, s.proto.daemon.heap k = some c → (s.proto.peers k).round = .idle ∧
    c.evictSem = 0 ∧ s.sending k = false
  ops : ∀ k x, IsActivity ((s.proto.peers k).sess.lastOps x)

lemma evictReady_init (cfg : ProtocolCfg) (freeMemG : Int) :
    EvictReady cfg (evictSystemInit cfg freeMemG) := by
  refine ⟨rfl, protocolInv_init cfg freeMemG, ?_, ?_, ?_, ?_⟩
  · intro i k hk
    cases hk
  · intro k c hc
    cases hc
  · intro k c hc
    cases hc
  · intro k x
    exact ⟨by norm_num [evictSystemInit, protocolInit, peerInit, sessionCreate], rfl⟩

lemma EvictReady.inv {cfg : ProtocolCfg} {s : EvictSystem} (h : EvictReady cfg s) :
    EvictInv cfg s := by
  refine ⟨⟨h.proto, h.slots, fun k c hc => ?_⟩, ?_⟩
  · obtain ⟨hround, hsem, hsending⟩ := h.rounds k c hc
    rw [hsending]
    refine ⟨le_of_eq (h.counted k c hc).symm, by omega, fun hpos => by omega, ?_, ?_, ?_, nofun,
      fun hpos => by omega, h.ops k⟩
    · rw [hround]
      nofun
    · rw [hround]
      nofun
    · intro m hm ht
      have hasked := (h.proto.conn hc).asked_of_activity hm ht
      cases hround.symm.trans hasked
  · simp only [ListInv, h.pc]
    exact fun k c hc => ⟨(h.rounds k c hc).1, h.counted k c hc⟩

/-- Along every run in which connection requests find idle slots, BIND_SINGLE messages before
the call find free slabs and none is handled for an asked connection before its report, the
entries fit into the list, and the sort reads entries of this round only. -/
theorem evict_list_filled (cfg : ProtocolCfg) {init s : EvictSystem} (hready : EvictReady cfg init)
    (h : GuardedRun (evictStep cfg) (fun s e => listEnv s e ∧ listFits cfg s e) init s) :
    ListFilled s.pc := by
  have hinv : EvictInv cfg s ∨ ∃ plan stored, s.pc = .sorted plan stored ∧
      (stored.length : Int) = plan.total := by
    refine GuardedRun.invariant (P := fun s => EvictInv cfg s ∨ ∃ plan stored,
      s.pc = .sorted plan stored ∧ (stored.length : Int) = plan.total) (.inl hready.inv) ?_ h
    rintro s e s' (hinv | ⟨plan, stored, hpc, hlen⟩) hok hs
    · exact hinv.step hok.1 hok.2 hs
    · exact .inr ⟨plan, stored, (evictStep_sorted hpc hs).trans hpc, hlen⟩
  rcases hinv with hinv | ⟨plan, stored, hpc, hlen⟩
  · exact hinv.list.filled
  · rw [hpc]
    exact hlen

/-- No round is running for the connection. -/
def roundIdle (p : Peer) : Bool :=
  match p.round with
  | .idle => true
  | _ => false

lemma roundIdle_iff {p : Peer} : roundIdle p = true ↔ p.round = .idle := by
  unfold roundIdle
  split <;> simp_all

/-- Sessions are new and memory regions are registered under key 1. -/
def plainEvent (capacityG : Nat) : EvictEvent → Prop
  | .connect _ _ _ sess => sess = sessionCreate capacityG
  | .serve _ mr => mr = keyOne
  | _ => True

/-- A connection that leaves has not been asked. -/
def leaveCheck (s : EvictSystem) : EvictEvent → Bool
  | .disconnect id => roundIdle (s.proto.peers id)
  | _ => true

lemma listEnv_of_plain {capacityG : Nat} {s : EvictSystem} {e : EvictEvent}
    (he : plainEvent capacityG e) (hcheck : leaveCheck s e = true) : listEnv s e := by
  cases e with
  | connect id junkIndex junkMsg sess =>
    rw [show sess = sessionCreate capacityG from he]
    exact fun x => ⟨by norm_num [sessionCreate], rfl⟩
  | disconnect id => exact roundIdle_iff.mp hcheck
  | serve id mr =>
    rw [show mr = keyOne from he]
    exact keyOne_key
  | _ => exact trivial

/-- The condition of the runs as a test. -/
def listCheck (cfg : ProtocolCfg) (s : EvictSystem) : EvictEvent → Bool
  | .connect _ _ _ _ => decide (firstIdleSlot cfg.daemon s.proto.daemon ≠ none)
  | .serve id _ => (s.proto.peers id).toDaemon.head?.all fun m => decide (m.type ≠ .bindSingle) ||
      ((List.range cfg.daemon.maxFreeMemGb).any s.proto.daemon.freeSlab &&
        decide (roundAsked (s.proto.peers id).round = 0))
  | _ => true

lemma listFits_of_check {cfg : ProtocolCfg} {s : EvictSystem} {e : EvictEvent}
    (hcheck : listCheck cfg s e = true) : listFits cfg s e := by
  cases e with
  | connect id junkIndex junkMsg sess =>
    have hslot : firstIdleSlot cfg.daemon s.proto.daemon ≠ none := of_decide_eq_true hcheck
    exact hslot
  | serve id mr =>
    intro m hm ht
    simp only [listCheck, Option.mem_def.mp hm, Option.all_some, ht, ne_eq, not_true_eq_false,
      decide_false, Bool.false_or, Bool.and_eq_true, List.any_eq_true, List.mem_range,
      decide_eq_true_eq] at hcheck
    refine ⟨fun _ => hcheck.1, fun hasked => ?_⟩
    rw [hasked] at hcheck
    exact Nat.one_ne_zero hcheck.2
  | _ => exact trivial

/-- The connection binds a slab for its chunk and maps it. -/
def bindChunk (id : ConnId) (chunk : Nat) : List EvictEvent :=
  [.other (.bind id chunk), .serve id keyOne, .other (.receive id)]

/-- The connection reports to `evict_mem`. -/
def reportSlabs (id : ConnId) : List EvictEvent :=
  [.other (.receive id), .seeEvict id, .sendActivity id, .serve id keyOne, .collect]

lemma plainEvent_bindChunk (capacityG : Nat) (id : ConnId) (chunk : Nat) :
    ∀ e ∈ bindChunk id chunk, plainEvent capacityG e := by
  simp [bindChunk, plainEvent]

lemma plainEvent_reportSlabs (capacityG : Nat) (id : ConnId) :
    ∀ e ∈ reportSlabs id, plainEvent capacityG e := by
  simp [reportSlabs, plainEvent]

/-- A daemon with four slabs and three slots. -/
def threeSlots : ProtocolCfg :=
  { daemon := zeroThresholds 4 3
    capacityG := 4
    cbIndex := 0 }

/-- Of three connections, the first two are asked. The third one leaves between the two reports,
and the first one, which has reported, binds its slab. -/
def leaveAndBind : List EvictEvent :=
  .connect 0 0 emptyMessage (sessionCreate 4) :: .connect 1 0 emptyMessage (sessionCreate 4) ::
    .connect 2 0 emptyMessage (sessionCreate 4) ::
    (bindChunk 0 0 ++ bindChunk 0 1 ++ bindChunk 1 0 ++ bindChunk 2 0) ++
    .begin (fun n => n) (-1) :: reportSlabs 0 ++ .disconnect 2 :: bindChunk 0 2 ++
    reportSlabs 1 ++ [.sort fun _ => ⟨9, 9⟩]

/-- The list has three entries, and three are stored. -/
theorem evict_list_filled_two_reports :
    ∃ s plan stored, GuardedRun (evictStep threeSlots)
        (fun s e => listEnv s e ∧ listFits threeSlots s e) (evictSystemInit threeSlots 4) s ∧
      (s.proto.peers 0).cb.chunkMap 3 = 2 ∧ s.pc = .sorted plan stored ∧ plan.total = 3 ∧
      stored.length = 3 := by
  obtain ⟨s, plan, stored, hs, hchunk, hpc, htotal⟩ : ∃ s plan stored,
      runChecked (evictStep threeSlots) (fun s e => leaveCheck s e && listCheck threeSlots s e)
        (evictSystemInit threeSlots 4) leaveAndBind = some s ∧
      (s.proto.peers 0).cb.chunkMap 3 = 2 ∧ s.pc = .sorted plan stored ∧ plan.total = 3 :=
    ⟨_, _, _, rfl, rfl, rfl, rfl⟩
  have hplain : ∀ e ∈ leaveAndBind, plainEvent 4 e := by
    simp [leaveAndBind, bindChunk, reportSlabs, plainEvent]
  have hrun : GuardedRun (evictStep threeSlots)
      (fun s e => listEnv s e ∧ listFits threeSlots s e) (evictSystemInit threeSlots 4) s := by
    refine runChecked_reaches leaveAndBind (fun e he t hcheck => ?_) .start hs
    obtain ⟨hleave, hfits⟩ := Bool.and_eq_true_iff.mp hcheck
    exact ⟨listEnv_of_plain (hplain e he) hleave, listFits_of_check hfits⟩
  have hfilled := evict_list_filled threeSlots (evictReady_init threeSlots 4) hrun
  rw [hpc] at hfilled
  refine ⟨s, plan, stored, hrun, hchunk, hpc, htotal, ?_⟩
  exact Int.ofNat.inj (hfilled.trans htotal)

/-- A daemon with four slabs and two slots. -/
def fourSlabs : ProtocolCfg :=
  { daemon := zeroThresholds 4 2
    capacityG := 4
    cbIndex := 0 }

/-- Three slabs of one connection are counted. The other connection leaves, its slab is given to
the first one, and four slabs are reported. -/
def overrunRun : List EvictEvent :=
  .connect 0 0 emptyMessage (sessionCreate 4) :: .connect 1 0 emptyMessage (sessionCreate 4) ::
    (bindChunk 0 0 ++ bindChunk 0 1 ++ bindChunk 0 2 ++ bindChunk 1 0) ++
    [.begin (fun n => n) (-1), .other (.bind 0 3), .disconnect 1, .serve 0 keyOne,
      .other (.receive 0), .seeEvict 0, .other (.receive 0), .sendActivity 0, .serve 0 keyOne,
      .collect]

/-- A BIND_SINGLE that got no slab has been counted. -/
def gapRun : List EvictEvent :=
  .connect 0 0 emptyMessage (sessionCreate 1) :: (bindChunk 0 0 ++ bindChunk 0 0) ++
    .begin (fun _ => 0) (-1) :: reportSlabs 0

/-- In the first run the list is overrun. In the second one it has two entries, and the sort
reads one that has never been stored. -/
theorem evict_list_overrun_or_gap :
    (∃ s plan stored, GuardedRun (evictStep fourSlabs) listEnv (evictSystemInit fourSlabs 4) s ∧
      s.pc = .collecting plan [] stored ∧ plan.total = 3 ∧ stored.length = 4 ∧ ¬ListFilled s.pc) ∧
    ∃ s plan stored, GuardedRun (evictStep oneSlot) listEnv (evictSystemInit oneSlot 1) s ∧
      s.pc = .collecting plan [] stored ∧ plan.total = 2 ∧ stored.length = 1 ∧
      (∀ junk, evictionList stored junk 1 = junk 1) ∧ ¬ListFilled s.pc := by
  constructor
  · obtain ⟨s, plan, stored, hs, hpc, htotal, hlength⟩ : ∃ s plan stored,
        runChecked (evictStep fourSlabs) leaveCheck (evictSystemInit fourSlabs 4) overrunRun =
          some s ∧
        s.pc = .collecting plan [] stored ∧ plan.total = 3 ∧ stored.length = 4 :=
      ⟨_, _, _, rfl, rfl, rfl, rfl⟩
    have hplain : ∀ e ∈ overrunRun, plainEvent 4 e := by
      simp only [overrunRun, List.forall_mem_cons, List.forall_mem_append]
      exact ⟨⟨rfl, rfl, ⟨⟨plainEvent_bindChunk 4 0 0, plainEvent_bindChunk 4 0 1⟩,
        plainEvent_bindChunk 4 0 2⟩, plainEvent_bindChunk 4 1 0⟩, by simp [plainEvent]⟩
    refine ⟨s, plan, stored, ?_, hpc, htotal, hlength, fun hfilled => ?_⟩
    · exact runChecked_reaches overrunRun
        (fun e he t hcheck => listEnv_of_plain (hplain e he) hcheck) .start hs
    · rw [hpc] at hfilled
      have hle := hfilled.1
      omega
  · obtain ⟨s, plan, stored, hs, hpc, htotal, hlength⟩ : ∃ s plan stored,
        runChecked (evictStep oneSlot) leaveCheck (evictSystemInit oneSlot 1) gapRun = some s ∧
        s.pc = .collecting plan [] stored ∧ plan.total = 2 ∧ stored.length = 1 :=
      ⟨_, _, _, rfl, rfl, rfl, rfl⟩
    have hplain : ∀ e ∈ gapRun, plainEvent 1 e := by
      simp only [gapRun, List.forall_mem_cons, List.forall_mem_append]
      exact ⟨⟨rfl, plainEvent_bindChunk 1 0 0, plainEvent_bindChunk 1 0 0⟩, trivial,
        plainEvent_reportSlabs 1 0⟩
    refine ⟨s, plan, stored, ?_, hpc, htotal, hlength, fun junk => ?_, fun hfilled => ?_⟩
    · exact runChecked_reaches gapRun
        (fun e he t hcheck => listEnv_of_plain (hplain e he) hcheck) .start hs
    · unfold evictionList
      rw [List.getD_eq_getElem?_getD, List.getElem?_eq_none (by omega), Option.getD_none]
    · rw [hpc] at hfilled
      have hle := hfilled.2 rfl
      omega

end DisStore.Proofs
