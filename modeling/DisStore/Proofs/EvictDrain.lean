import DisStore.Proofs.CtxExclusive
import DisStore.Proofs.ChunkMaps

/-!
# Slabs that are given back

`evict_handler` unmaps slabs, looks at all contexts until none is in flight for an unmapped
slab, and sends DONE. It does not see a request that has been routed to one of the slabs and
still waits for a context. Without such requests, nothing is outstanding for the slabs of a
DONE message, provided that contexts are not returned too early.
-/

namespace DisStore.Proofs
open DisStore DisStore.Lib

/-- Requests are inside the device and nothing is disconnected; a mirrored bio completes after
the RDMA write of the same context; and when a pass over the contexts of a server begins, no
request waits for a context that was routed to a slab of the server which is now unmapped. -/
def routedBeforeDrain (capacityG : Nat) (d : Device) : DeviceEvent → Prop
  | .route _ r => 0 ≤ r.gbIndex ∧ r.gbIndex < capacityG
  | .drain c => d.drains c = some 0 →
      ∀ tr ∈ d.waiting, tr.cb = c → (d.tables.cbs c).chunkMap tr.chunkIndex ≠ -1
  | e => keepsPools True d e

/-- No work request is outstanding for a slab that has been given back. -/
def EvictedQuiet (d : Device) : Prop :=
  ∀ wr ∈ d.posted, d.evicted (wr.transfer.cb, wr.transfer.chunkIndex) = false

/-- The tables that requests are routed by, and those of the eviction, are the same. -/
structure SameMaps (t t' : ChunkTables) : Prop where
  sess : t'.sess = t.sess
  chunkMap : ∀ c, (t'.cbs c).chunkMap = (t.cbs c).chunkMap
  sendBuf : ∀ c, (t'.cbs c).sendBuf = (t.cbs c).sendBuf

/-- The contexts of outstanding work requests are in flight with the slab of the request. -/
def HeldInv (cfg : DeviceCfg) (d : Device) : Prop :=
  ∀ wr ∈ d.posted, wr.ctx ∈ ctxIds cfg wr.transfer.cb ∧ (d.ctxs wr.ctx).inFlight ≠ .idle ∧
    (d.ctxs wr.ctx).chunkIndex = wr.transfer.chunkIndex

/-- `pass` is about a pass that has begun: the contexts that it has looked at are not in flight
for an unmapped slab, and no waiting request will make them so. -/
structure DrainInv (cfg : DeviceCfg) (capacityG : Nat) (d : Device) : Prop where
  route : ∀ s : Nat, s < capacityG → d.tables.sess.cbIndexMap s = -1 ∨
    ∃ c i : Nat, d.tables.sess.cbIndexMap s = c ∧ d.tables.sess.chunkMapCbChunk s = i ∧
      (d.tables.cbs c).chunkMap i = s
  evicted : ∀ c i, d.evicted (c, i) = true → (d.tables.cbs c).chunkMap i = -1
  flagged : ∀ c, d.drains c ≠ none → ∀ i < cfg.maxMr,
    (d.tables.cbs c).sendBuf.rkey i ≠ 0 → (d.tables.cbs c).chunkMap i = -1
  posted : EvictedQuiet d
  waiting : ∀ tr ∈ d.waiting, ctxIds cfg tr.cb ≠ [] → d.evicted (tr.cb, tr.chunkIndex) = false
  pass : ∀ c k, d.drains c = some (k + 1) →
    (∀ tr ∈ d.waiting, tr.cb = c → (d.tables.cbs c).chunkMap tr.chunkIndex ≠ -1) ∧
    ∀ x ∈ (ctxIds cfg c).take (k + 1), drainWaits d x = false

variable {cfg : DeviceCfg} {capacityG : Nat} {d d' : Device} {t t' : ChunkTables} {x : CtxId}
  {tr : Transfer} {queue : Nat} {pool : FreeCtxs}

lemma SameMaps.refl (t : ChunkTables) : SameMaps t t := ⟨rfl, fun _ => rfl, fun _ => rfl⟩

lemma SameMaps.trans {t'' : ChunkTables} (h : SameMaps t t') (h' : SameMaps t' t'') :
    SameMaps t t'' :=
  ⟨h'.sess.trans h.sess, fun c => (h'.chunkMap c).trans (h.chunkMap c),
    fun c => (h'.sendBuf c).trans (h.sendBuf c)⟩

lemma sameMaps_updateBitmap (t : ChunkTables) (a b : Int) (f : (Nat → Bool) → Nat → Bool) :
    SameMaps t (updateBitmap t a b f) := by
  refine ⟨rfl, fun c => ?_, fun c => ?_⟩
  · by_cases hc : c = a.toNat
    · simp [updateBitmap, hc]
    · simp [updateBitmap, Function.update_of_ne hc]
  · by_cases hc : c = a.toNat
    · simp [updateBitmap, hc]
    · simp [updateBitmap, Function.update_of_ne hc]

lemma sameMaps_isRequest (t : ChunkTables) (r : IoRequest) : SameMaps t (isRequest t r).1 := by
  have hclear : SameMaps t (clearTwoChunks t r) := by
    have hupdate : ∀ (t : ChunkTables) (a b : Int) (f : (Nat → Bool) → Nat → Bool) (p : Prop)
        [Decidable p], SameMaps t (if p then updateBitmap t a b f else t) := by
      intro t a b f p _
      split
      · exact sameMaps_updateBitmap t a b f
      · exact .refl t
    exact (hupdate ..).trans (hupdate ..)
  unfold isRequest
  split
  · dsimp only
    split
    · exact .refl t
    · split
      · exact .refl t
      · split <;> exact .refl t
  · exact hclear

lemma isRequest_transfer {r : IoRequest} {cbIndex chunkIndex : Int} {offset : Nat}
    (h : (isRequest t r).2 = .transfer cbIndex chunkIndex offset) :
    cbIndex = t.sess.cbIndexMap r.gbIndex ∧ chunkIndex = t.sess.chunkMapCbChunk r.gbIndex ∧
      cbIndex ≠ -1 := by
  unfold isRequest at h
  split at h
  · dsimp only at h
    split at h
    · cases h
    · next hmapped =>
      have hne : t.sess.cbIndexMap r.gbIndex ≠ -1 := fun he => hmapped (.inl he)
      split at h
      · cases h
        exact ⟨rfl, rfl, hne⟩
      · split at h
        · cases h
          exact ⟨rfl, rfl, hne⟩
        · cases h
  · cases h

lemma PoolInv.others_ne {lossy : Prop} {k : Nat} {wr : WorkRequest} (h : PoolInv lossy cfg d)
    (hk : d.posted[k]? = some wr) : ∀ v ∈ d.posted.eraseIdx k, v.ctx ≠ wr.ctx := by
  intro v hv heq
  have hcounts := complete_counts hk wr.ctx
  have hmem := List.mem_of_getElem? hk
  obtain ⟨hreads, hwrites⟩ : (ctxCounts { d with posted := d.posted.eraseIdx k } wr.ctx).reads = 0 ∧
      (ctxCounts { d with posted := d.posted.eraseIdx k } wr.ctx).writes = 0 := by
    cases hw : wr.transfer.write with
    | true =>
      simp only [(h.of_write hmem hw).2, hw, CtxUse.counts, true_and, Bool.true_eq_false,
        if_false, if_true] at hcounts
      omega
    | false =>
      simp only [(h.of_read hmem hw).2, hw, CtxUse.counts, true_and, Bool.false_eq_true,
        if_false, if_true] at hcounts
      omega
  cases hw : v.transfer.write with
  | true => exact List.countP_eq_zero.mp hwrites v hv (by simp [heq, hw])
  | false => exact List.countP_eq_zero.mp hreads v hv (by simp [heq, hw])

lemma enterCtx_inFlight (tr : Transfer) (c : RdmaCtx) : (enterCtx tr c).inFlight ≠ .idle := by
  unfold enterCtx
  split <;> simp [writeCtx, readCtx]

lemma enterCtx_chunkIndex (tr : Transfer) (c : RdmaCtx) :
    (enterCtx tr c).chunkIndex = tr.chunkIndex := by
  unfold enterCtx
  split <;> rfl

lemma HeldInv.frame (h : HeldInv cfg d)
    (hposted : ∀ wr ∈ d'.posted, wr ∈ d.posted ∧ d'.ctxs wr.ctx = d.ctxs wr.ctx) :
    HeldInv cfg d' := by
  intro wr hwr
  obtain ⟨hmem, hctx⟩ := hposted wr hwr
  rw [hctx]
  exact h wr hmem

lemma PoolInv.taken {lossy : Prop} (h : PoolInv lossy cfg d)
    (hget : getCtx (d.pools (tr.cb, queue)) = some (x, pool)) :
    (x.cb = tr.cb ∧ x.queue = queue ∧ x.slot < cfg.queueDepth) ∧
      ∀ wr ∈ d.posted, wr.ctx ≠ x := by
  have hx : x ∈ (d.pools (tr.cb, queue)).free := by
    rw [(free_getCtx (h.tail _) hget).1]
    simp
  obtain ⟨hslot, hfree⟩ := h.of_free hx
  have hown := Prod.mk.inj (h.own _ x hx)
  have hunused : ctxUsed d x = false := by
    rw [ctxUsed_eq_false, hfree]
    exact ⟨rfl, rfl, rfl⟩
  refine ⟨⟨hown.1, hown.2, hslot⟩, fun wr hwr heq => ?_⟩
  simp only [ctxUsed, Bool.or_eq_false_iff, List.any_eq_false, decide_eq_true_eq] at hunused
  exact hunused.1 wr hwr heq

/-- What a successful completion leaves alone; it ends the flight of its context. -/
structure CompletesCtx (x : CtxId) (d d' : Device) : Prop where
  maps : SameMaps d.tables d'.tables
  posted : d'.posted = d.posted
  waiting : d'.waiting = d.waiting
  drains : d'.drains = d.drains
  evicted : d'.evicted = d.evicted
  others : ∀ y, y ≠ x → d'.ctxs y = d.ctxs y
  ctx : (d'.ctxs x).inFlight = .idle ∨ d'.ctxs x = d.ctxs x

lemma cqEvent_completes {wr : WorkRequest} (hs : cqEvent d wr false = some d') :
    CompletesCtx wr.ctx d d' := by
  rw [cqEvent, if_neg (by decide)] at hs
  split at hs
  · cases hs
    cases hptr : (d.ctxs wr.ctx).chunkPtr with
    | none =>
      rw [clientWriteDone_of_none hptr]
      exact ⟨.refl _, rfl, rfl, rfl, rfl, fun _ _ => rfl, .inr rfl⟩
    | some slab =>
      rw [clientWriteDone_eq hptr]
      refine ⟨?_, rfl, rfl, rfl, rfl, fun y hy => Function.update_of_ne hy _ _, .inl ?_⟩
      · dsimp only
        exact sameMaps_updateBitmap ..
      · simp only [Function.update_self]
  · obtain ⟨req, -, rfl⟩ := Option.map_eq_some_iff.mp hs
    refine ⟨.refl _, rfl, rfl, rfl, rfl, fun y hy => Function.update_of_ne hy _ _, .inl ?_⟩
    simp only [endRequest, insertCtx, setCtx, Function.update_self]

lemma HeldInv.step {e : DeviceEvent} (h : HeldInv cfg d) (hpool : PoolInv True cfg d)
    (hok : keepsPools True d e) (hs : handleEvent cfg d e = some d') : HeldInv cfg d' := by
  cases e with
  | route req r =>
    simp only [handleEvent] at hs
    split at hs <;> cases hs <;> exact h
  | post k queue success =>
    obtain ⟨tr, x, pool, w, -, hqueue, rfl, hget, hcase⟩ := handleEvent_post hs
    obtain ⟨⟨hcb, hq, hslot⟩, hothers⟩ := hpool.taken hget
    have hkept : ∀ wr ∈ d.posted, Function.update d.ctxs x (enterCtx tr (d.ctxs x)) wr.ctx =
        d.ctxs wr.ctx := fun wr hwr => Function.update_of_ne (hothers wr hwr) _ _
    rcases hcase with ⟨-, rfl⟩ | ⟨-, -, rfl⟩ | ⟨-, -, rfl⟩
    · refine h.frame fun wr hwr => ⟨hwr, ?_⟩
      exact (Function.update_of_ne (hothers wr hwr) _ _).trans (hkept wr hwr)
    · intro wr hwr
      rcases List.mem_append.mp hwr with hold | hnew
      · have hctx := h wr hold
        rw [← hkept wr hold] at hctx
        exact hctx
      · rw [List.mem_singleton.mp hnew]
        refine ⟨mem_ctxIds.mpr ⟨hcb, hq ▸ hqueue, hslot⟩, ?_, ?_⟩
        · simp only [holdCtx, Function.update_self]
          exact enterCtx_inFlight tr _
        · simp only [holdCtx, Function.update_self]
          exact enterCtx_chunkIndex tr _
    · exact h.frame fun wr hwr => ⟨hwr, hkept wr hwr⟩
  | complete k flushed =>
    have hflushed : flushed = false := hok
    simp only [handleEvent, Option.bind_eq_bind, Option.bind_eq_some_iff] at hs
    obtain ⟨wr, hk, hs⟩ := hs
    have hothers := hpool.others_ne hk
    rw [hflushed] at hs
    have hdone := cqEvent_completes hs
    refine h.frame fun v hv => ?_
    rw [hdone.posted] at hv
    exact ⟨List.mem_of_mem_eraseIdx hv, hdone.others _ (hothers v hv)⟩
  | diskDone k =>
    simp only [handleEvent, Option.bind_eq_bind, Option.bind_eq_some_iff] at hs
    obtain ⟨bio, -, hs⟩ := hs
    cases hs
    cases bio <;> exact h
  | unmap c stop =>
    simp only [handleEvent] at hs
    split at hs
    · cases hs
      exact h
    · cases hs
  | drain c =>
    simp only [handleEvent, Option.bind_eq_bind, Option.bind_eq_some_iff] at hs
    obtain ⟨k, -, x, -, hs⟩ := hs
    cases hs
    exact h
  | sendDone c =>
    simp only [handleEvent] at hs
    split at hs
    · cases hs
      exact h
    · cases hs
  | disconnect c => exact absurd hok id
  | scan c => exact absurd hok id
  | forget c => exact absurd hok id

lemma drainWaits_iff : drainWaits d x = true ↔ (d.ctxs x).inFlight ≠ .idle ∧
    (d.tables.cbs x.cb).chunkMap (d.ctxs x).chunkIndex.toNat = -1 := by
  simp [drainWaits]

lemma DrainInv.frame (h : DrainInv cfg capacityG d) (hmaps : SameMaps d.tables d'.tables)
    (hevicted : d'.evicted = d.evicted) (hdrains : d'.drains = d.drains)
    (hwaiting : ∀ tr ∈ d'.waiting, tr ∈ d.waiting)
    (hposted : ∀ wr ∈ d'.posted, wr ∈ d.posted ∨
      wr.transfer ∈ d.waiting ∧ ctxIds cfg wr.transfer.cb ≠ [])
    (hctxs : ∀ x, (d'.ctxs x).inFlight ≠ .idle → d'.ctxs x = d.ctxs x ∨
      ∃ tr ∈ d.waiting, x.cb = tr.cb ∧ (d'.ctxs x).chunkIndex = tr.chunkIndex) :
    DrainInv cfg capacityG d' := by
  refine ⟨?_, ?_, ?_, ?_, ?_, ?_⟩
  · rw [hmaps.sess]
    intro s hs
    rcases h.route s hs with hnone | ⟨c, i, hcb, hchunk, hmap⟩
    · exact .inl hnone
    · exact .inr ⟨c, i, hcb, hchunk, hmaps.chunkMap c ▸ hmap⟩
  · intro c i hev
    rw [hmaps.chunkMap]
    exact h.evicted c i (hevicted ▸ hev)
  · intro c hc i hi hrkey
    rw [hmaps.chunkMap]
    rw [hmaps.sendBuf] at hrkey
    exact h.flagged c (hdrains ▸ hc) i hi hrkey
  · intro wr hwr
    rw [hevicted]
    rcases hposted wr hwr with hold | ⟨hwait, hne⟩
    · exact h.posted wr hold
    · exact h.waiting _ hwait hne
  · intro tr htr
    rw [hevicted]
    exact h.waiting tr (hwaiting tr htr)
  · intro c k hk
    rw [hdrains] at hk
    obtain ⟨hwait, hpassed⟩ := h.pass c k hk
    refine ⟨fun tr htr => hmaps.chunkMap c ▸ hwait tr (hwaiting tr htr), fun x hx => ?_⟩
    have hcb : x.cb = c := (mem_ctxIds.mp (List.mem_of_mem_take hx)).1
    rw [← Bool.not_eq_true, drainWaits_iff, hmaps.chunkMap]
    rintro ⟨hflight, hunmapped⟩
    rcases hctxs x hflight with hsame | ⟨tr, htr, htrcb, hchunk⟩
    · rw [hsame] at hflight hunmapped
      exact absurd (drainWaits_iff.mpr ⟨hflight, hunmapped⟩) (by simp [hpassed x hx])
    · rw [hchunk, Int.toNat_natCast, hcb] at hunmapped
      exact hwait tr htr (htrcb.symm.trans hcb) hunmapped

lemma DrainInv.routed {req : Nat} {r : IoRequest} {cb chunkIndex : Int} {offset : Nat}
    (h : DrainInv cfg capacityG d) (hgb : 0 ≤ r.gbIndex ∧ r.gbIndex < capacityG)
    (hroute : (isRequest d.tables r).2 = .transfer cb chunkIndex offset) :
    DrainInv cfg capacityG { d with
      tables := (isRequest d.tables r).1
      waiting := d.waiting ++ [⟨req, r.write, cb.toNat, chunkIndex.toNat, offset, r.len⟩] } := by
  have hsame : DrainInv cfg capacityG { d with tables := (isRequest d.tables r).1 } :=
    h.frame (sameMaps_isRequest d.tables r) rfl rfl (fun _ htr => htr) (fun _ hwr => .inl hwr)
      fun _ _ => .inl rfl
  obtain ⟨hcb, hchunk, hne⟩ := isRequest_transfer hroute
  obtain ⟨s, hs⟩ := Int.eq_ofNat_of_zero_le hgb.1
  have hmapped : (d.tables.cbs cb.toNat).chunkMap chunkIndex.toNat = s := by
    rcases h.route s (by omega) with hnone | ⟨c, i, hc, hi, hmap⟩
    · rw [hs] at hcb
      exact absurd (hcb.trans hnone) hne
    · rw [hs, hc] at hcb
      rw [hs, hi] at hchunk
      rw [hcb, hchunk, Int.toNat_natCast, Int.toNat_natCast]
      exact hmap
  have hmapped' := hmapped
  rw [← (sameMaps_isRequest d.tables r).chunkMap] at hmapped'
  refine ⟨hsame.route, hsame.evicted, hsame.flagged, hsame.posted, ?_, ?_⟩
  · intro tr htr hctxs
    rcases List.mem_append.mp htr with hold | hnew
    · exact hsame.waiting tr hold hctxs
    · rw [List.mem_singleton.mp hnew]
      by_contra hev
      have hunmapped := h.evicted _ _ (Bool.not_eq_false _ ▸ hev)
      rw [hmapped] at hunmapped
      omega
  · intro c k hk
    obtain ⟨hwait, hpassed⟩ := hsame.pass c k hk
    refine ⟨fun tr htr hc => ?_, hpassed⟩
    rcases List.mem_append.mp htr with hold | hnew
    · exact hwait tr hold hc
    · rw [List.mem_singleton.mp hnew] at hc ⊢
      dsimp only at hc ⊢
      rw [← hc, hmapped']
      omega

lemma DrainInv.unmap {c : Nat} {cb : ControlBlock} (h : DrainInv cfg capacityG d)
    (hc : d.drains c = none) (hcb : cb.chunkMap = (d.tables.cbs c).chunkMap) :
    DrainInv cfg capacityG { d with
      tables := { sess := (unmapMarked cfg.maxMr d.tables.sess cb).1
                  cbs := Function.update d.tables.cbs c
                    (unmapMarked cfg.maxMr d.tables.sess cb).2 }
      drains := Function.update d.drains c (some 0) } := by
  have hmap : ∀ c' i, (d.tables.cbs c').chunkMap i = -1 →
      (Function.update d.tables.cbs c (unmapMarked cfg.maxMr d.tables.sess cb).2 c').chunkMap i =
        -1 := by
    intro c' i hi
    by_cases hcc : c' = c
    · subst hcc
      simp only [Function.update_self, unmapMarked, hcb, hi, ite_self]
    · simp only [Function.update_of_ne hcc, hi]
  refine ⟨?_, fun c' i hev => hmap c' i (h.evicted c' i hev), ?_, h.posted, h.waiting, ?_⟩
  · intro s hs
    dsimp only [unmapMarked]
    by_cases hmarked : (markedSlabs cfg.maxMr cb).any fun i => decide (cb.chunkMap i = s)
    · left
      rw [if_pos hmarked]
    · rw [if_neg hmarked]
      rcases h.route s hs with hnone | ⟨c', i, hc', hi, hs'⟩
      · exact .inl hnone
      · refine .inr ⟨c', i, hc', hi, ?_⟩
        by_cases hcc : c' = c
        · subst hcc
          have hi' : i ∉ markedSlabs cfg.maxMr cb := by
            intro hmem
            refine hmarked (List.any_eq_true.mpr ⟨i, hmem, ?_⟩)
            rw [hcb, hs']
            simp
          simp only [Function.update_self, if_neg hi', hcb]
          exact hs'
        · simp only [Function.update_of_ne hcc]
          exact hs'
  · intro c' hdr i hi hrkey
    by_cases hcc : c' = c
    · subst hcc
      simp only [Function.update_self, unmapMarked] at hrkey ⊢
      by_cases hmem : i ∈ markedSlabs cfg.maxMr cb
      · rw [if_pos hmem]
      · rw [if_neg hmem, if_pos hi] at hrkey
        exact absurd rfl hrkey
    · simp only [Function.update_of_ne hcc] at hdr hrkey ⊢
      exact h.flagged c' hdr i hi hrkey
  · intro c' k hk
    by_cases hcc : c' = c
    · subst hcc
      simp at hk
    · simp only [Function.update_of_ne hcc] at hk
      obtain ⟨hwait, hpassed⟩ := h.pass c' k hk
      simp only [Function.update_of_ne hcc]
      refine ⟨hwait, fun x hx => ?_⟩
      have hx' : x.cb ≠ c := by
        rw [(mem_ctxIds.mp (List.mem_of_mem_take hx)).1]
        exact hcc
      have hold := hpassed x hx
      simp only [drainWaits, Function.update_of_ne hx'] at hold ⊢
      exact hold

lemma DrainInv.drain {c k : Nat} (h : DrainInv cfg capacityG d) (hk : d.drains c = some k)
    (hx : (ctxIds cfg c)[k]? = some x)
    (hok : d.drains c = some 0 →
      ∀ tr ∈ d.waiting, tr.cb = c → (d.tables.cbs c).chunkMap tr.chunkIndex ≠ -1) :
    DrainInv cfg capacityG { d with
      drains := Function.update d.drains c (some (if drainWaits d x then 0 else k + 1)) } := by
  refine ⟨h.route, h.evicted, ?_, h.posted, h.waiting, ?_⟩
  · intro c' hdr
    refine h.flagged c' ?_
    by_cases hcc : c' = c
    · rw [hcc, hk]
      nofun
    · simpa only [Function.update_of_ne hcc] using hdr
  · intro c' j hj
    by_cases hcc : c' = c
    · subst hcc
      simp only [Function.update_self, Option.some.injEq] at hj
      split at hj
      · cases hj
      · next hwaits =>
        have hjk : j = k := by omega
        subst hjk
        -- the pass goes on, or it begins and the guard says that nobody waits
        obtain ⟨hwait, hpassed⟩ :
            (∀ tr ∈ d.waiting, tr.cb = c' → (d.tables.cbs c').chunkMap tr.chunkIndex ≠ -1) ∧
            ∀ y ∈ (ctxIds cfg c').take j, drainWaits d y = false := by
          cases j with
          | zero => exact ⟨hok hk, fun y hy => by simp at hy⟩
          | succ j => exact h.pass c' j hk
        refine ⟨hwait, fun y hy => ?_⟩
        rw [List.take_add_one, hx, Option.toList_some, List.mem_append, List.mem_singleton] at hy
        rcases hy with hy | rfl
        · exact hpassed y hy
        · exact Bool.not_eq_true _ ▸ hwaits
    · simp only [Function.update_of_ne hcc] at hj
      exact h.pass c' j hj

lemma DrainInv.sendDone {c : Nat} {sizeG : Int} (h : DrainInv cfg capacityG d)
    (hheld : HeldInv cfg d) (hend : d.drains c = some (ctxIds cfg c).length) :
    DrainInv cfg capacityG { d with
      tables := { sess := (finishEvict cfg.maxMr sizeG d.tables.sess (d.tables.cbs c)).1
                  cbs := Function.update d.tables.cbs c
                    (finishEvict cfg.maxMr sizeG d.tables.sess (d.tables.cbs c)).2 }
      drains := Function.update d.drains c none
      evicted := fun p => decide (p.1 = c ∧ p.2 < cfg.maxMr ∧
        (finishEvict cfg.maxMr sizeG d.tables.sess (d.tables.cbs c)).2.sendBuf.rkey p.2 ≠ 0) ||
        d.evicted p } := by
  have hmap : ∀ c', (Function.update d.tables.cbs c
      (finishEvict cfg.maxMr sizeG d.tables.sess (d.tables.cbs c)).2 c').chunkMap =
      (d.tables.cbs c').chunkMap := by
    intro c'
    by_cases hcc : c' = c
    · subst hcc
      simp only [Function.update_self]
      rfl
    · simp only [Function.update_of_ne hcc]
  have hflagged := h.flagged c (by rw [hend]; nofun)
  -- a pass over at least one context has been made if the server has any
  have hpass : ctxIds cfg c ≠ [] →
      (∀ tr ∈ d.waiting, tr.cb = c → (d.tables.cbs c).chunkMap tr.chunkIndex ≠ -1) ∧
      ∀ x ∈ ctxIds cfg c, drainWaits d x = false := by
    intro hne
    obtain ⟨k, hk⟩ := Nat.exists_eq_succ_of_ne_zero (List.length_pos_iff.mpr hne).ne'
    have hpassed := h.pass c k (hend.trans (congrArg some hk))
    rwa [← Nat.succ_eq_add_one, ← hk, List.take_length] at hpassed
  refine ⟨?_, ?_, ?_, ?_, ?_, ?_⟩
  · intro s hs
    rcases h.route s hs with hnone | ⟨c', i, hcb, hchunk, hs'⟩
    · exact .inl hnone
    · refine .inr ⟨c', i, hcb, hchunk, ?_⟩
      rw [hmap]
      exact hs'
  · intro c' i hev
    rw [hmap]
    simp only [Bool.or_eq_true, decide_eq_true_eq] at hev
    rcases hev with ⟨rfl, hi, hrkey⟩ | hold
    · exact hflagged i hi hrkey
    · exact h.evicted c' i hold
  · intro c' hdr i hi hrkey
    by_cases hcc : c' = c
    · subst hcc
      simp at hdr
    · simp only [Function.update_of_ne hcc] at hdr hrkey ⊢
      exact h.flagged c' hdr i hi hrkey
  · intro wr hwr
    obtain ⟨hctx, hflight, hchunk⟩ := hheld wr hwr
    simp only [Bool.or_eq_false_iff, decide_eq_false_iff_not]
    refine ⟨?_, h.posted wr hwr⟩
    rintro ⟨hcb, hi, hrkey⟩
    rw [hcb] at hctx
    have hquiet := (hpass (List.ne_nil_of_mem hctx)).2 _ hctx
    rw [← Bool.not_eq_true, drainWaits_iff] at hquiet
    refine hquiet ⟨hflight, ?_⟩
    rw [hchunk, Int.toNat_natCast, (mem_ctxIds.mp hctx).1]
    exact hflagged _ hi hrkey
  · intro tr htr hne
    simp only [Bool.or_eq_false_iff, decide_eq_false_iff_not]
    refine ⟨?_, h.waiting tr htr hne⟩
    rintro ⟨hcb, hi, hrkey⟩
    rw [hcb] at hne
    exact (hpass hne).1 tr htr hcb (hflagged _ hi hrkey)
  · intro c' k hk
    by_cases hcc : c' = c
    · subst hcc
      simp at hk
    · simp only [Function.update_of_ne hcc] at hk
      obtain ⟨hwait, hpassed⟩ := h.pass c' k hk
      refine ⟨fun tr htr hc => ?_, fun x hx => ?_⟩
      · rw [hmap]
        exact hwait tr htr hc
      · have hold := hpassed x hx
        simp only [drainWaits] at hold ⊢
        rw [hmap]
        exact hold

lemma routedBeforeDrain.keepsPools {e : DeviceEvent} (h : routedBeforeDrain capacityG d e) :
    DisStore.Proofs.keepsPools True d e := by
  cases e with
  | route req r => exact trivial
  | drain c => exact trivial
  | _ => exact h

lemma DrainInv.step {e : DeviceEvent} (h : DrainInv cfg capacityG d) (hheld : HeldInv cfg d)
    (hpool : PoolInv True cfg d) (hok : routedBeforeDrain capacityG d e)
    (hs : handleEvent cfg d e = some d') : DrainInv cfg capacityG d' := by
  cases e with
  | route req r =>
    simp only [handleEvent] at hs
    split at hs
    · next t hroute =>
      cases hs
      have ht : t = (isRequest d.tables r).1 := by rw [hroute]
      rw [ht]
      exact h.frame (sameMaps_isRequest d.tables r) rfl rfl (fun _ htr => htr)
        (fun _ hwr => .inl hwr) fun _ _ => .inl rfl
    · next t cb chunkIndex offset hroute =>
      cases hs
      have ht : t = (isRequest d.tables r).1 := by rw [hroute]
      rw [ht]
      have hflag : DrainInv cfg capacityG { d with
          fault := d.fault || outsideChunkList d.tables.sess r } :=
        h.frame (.refl _) rfl rfl (fun _ htr => htr) (fun _ hwr => .inl hwr) fun _ _ => .inl rfl
      exact hflag.routed hok (by rw [hroute])
  | post k queue success =>
    obtain ⟨tr, x, pool, w, hk, hqueue, rfl, hget, hcase⟩ := handleEvent_post hs
    obtain ⟨⟨hcb, hq, hslot⟩, -⟩ := hpool.taken hget
    have htr : tr ∈ d.waiting := List.mem_of_getElem? hk
    have hne : ctxIds cfg tr.cb ≠ [] :=
      List.ne_nil_of_mem (mem_ctxIds.mpr ⟨hcb, hq ▸ hqueue, hslot⟩)
    have hwaiting : ∀ v ∈ d.waiting.eraseIdx k, v ∈ d.waiting :=
      fun v hv => List.mem_of_mem_eraseIdx hv
    have hctxs : ∀ y, Function.update d.ctxs x (enterCtx tr (d.ctxs x)) y = d.ctxs y ∨
        ∃ v ∈ d.waiting, y.cb = v.cb ∧
          (Function.update d.ctxs x (enterCtx tr (d.ctxs x)) y).chunkIndex = v.chunkIndex := by
      intro y
      by_cases hyx : y = x
      · subst hyx
        refine .inr ⟨tr, htr, hcb, ?_⟩
        rw [Function.update_self, enterCtx_chunkIndex]
      · exact .inl (Function.update_of_ne hyx _ _)
    rcases hcase with ⟨-, rfl⟩ | ⟨-, -, rfl⟩ | ⟨-, -, rfl⟩
    · refine h.frame (.refl _) rfl rfl hwaiting (fun _ hwr => .inl hwr) fun y hy => .inl ?_
      by_cases hyx : y = x
      · subst hyx
        simp [giveUpCtx, requestStackbd, insertCtx, setCtx] at hy
      · exact (Function.update_of_ne hyx _ _).trans (Function.update_of_ne hyx _ _)
    · refine h.frame (.refl _) rfl rfl hwaiting (fun wr hwr => ?_) fun y _ => hctxs y
      rcases List.mem_append.mp hwr with hold | hnew
      · exact .inl hold
      · rw [List.mem_singleton.mp hnew]
        exact .inr ⟨htr, hne⟩
    · exact h.frame (.refl _) rfl rfl hwaiting (fun _ hwr => .inl hwr) fun y _ => hctxs y
  | complete k flushed =>
    have hflushed : flushed = false := hok
    simp only [handleEvent, Option.bind_eq_bind, Option.bind_eq_some_iff] at hs
    obtain ⟨wr, -, hs⟩ := hs
    rw [hflushed] at hs
    have hdone := cqEvent_completes hs
    refine h.frame hdone.maps hdone.evicted hdone.drains (fun tr htr => hdone.waiting ▸ htr)
      (fun v hv => .inl ?_) fun y hy => .inl ?_
    · rw [hdone.posted] at hv
      exact List.mem_of_mem_eraseIdx hv
    · by_cases hyx : y = wr.ctx
      · subst hyx
        exact hdone.ctx.resolve_left hy
      · exact hdone.others y hyx
  | diskDone k =>
    simp only [handleEvent, Option.bind_eq_bind, Option.bind_eq_some_iff] at hs
    obtain ⟨bio, -, hs⟩ := hs
    cases hs
    cases bio <;> exact ⟨h.route, h.evicted, h.flagged, h.posted, h.waiting, h.pass⟩
  | unmap c stop =>
    simp only [handleEvent] at hs
    split at hs
    · next hstop =>
      cases hs
      exact h.unmap hstop.1 (clientRecvStop_chunkMap ..).1
    · cases hs
  | drain c =>
    simp only [handleEvent, Option.bind_eq_bind, Option.bind_eq_some_iff] at hs
    obtain ⟨k, hk, x, hx, hs⟩ := hs
    cases hs
    exact h.drain hk hx hok
  | sendDone c =>
    simp only [handleEvent] at hs
    split at hs
    · next hend =>
      cases hs
      exact h.sendDone hheld hend
    · cases hs
  | disconnect c => exact absurd hok id
  | scan c => exact absurd hok id
  | forget c => exact absurd hok id

lemma drainInv_init (hmaps : MapsInverse cfg.maxMr capacityG t) :
    DrainInv cfg capacityG (deviceInit cfg t) := by
  refine ⟨?_, nofun, fun c hc => absurd rfl hc, nofun, nofun, nofun⟩
  intro s hs
  rcases hmaps.chunk s hs with ⟨hnone, -⟩ | ⟨c, i, hcb, hchunk, -, hmap, -⟩
  · exact .inl hnone
  · exact .inr ⟨c, i, hcb, hchunk, hmap⟩

theorem no_rdma_to_evicted_slab (cfg : DeviceCfg) (capacityG : Nat) (t : ChunkTables)
    (hmaps : MapsInverse cfg.maxMr capacityG t) (d : Device)
    (h : GuardedRun (deviceStep cfg) (routedBeforeDrain capacityG) (deviceInit cfg t) d) :
    EvictedQuiet d := by
  have hinv : CtxsKept d ∧ PoolInv True cfg d ∧ HeldInv cfg d ∧ DrainInv cfg capacityG d := by
    apply h.invariant ⟨fun _ => rfl, poolInv_init cfg t, nofun, drainInv_init hmaps⟩
    rintro s e s' ⟨hkept, hpool, hheld, hdrain⟩ hok hs
    rw [hkept.deviceStep_eq] at hs
    exact ⟨hkept.step hok.keepsPools.ne_forget hs, hpool.step hok.keepsPools hs,
      hheld.step hpool hok.keepsPools hs, hdrain.step hheld hpool hok hs⟩
  exact hinv.2.2.2.posted

lemma oneSlab_mapsInverse (bitmap : Nat → Bool) : MapsInverse 1 1 (oneSlab bitmap) := by
  have hother : ∀ c, c ≠ 0 → (oneSlab bitmap).cbs c = kernelCbInit := by
    intro c hc
    simp only [oneSlab, updateBitmap, recvInfoSingle, Int.toNat_zero]
    rw [Function.update_of_ne hc, Function.update_of_ne hc]
    rfl
  have hslab : ((oneSlab bitmap).cbs 0).chunkMap 0 = 0 := rfl
  constructor
  · intro s hs
    have hs0 : s = 0 := by omega
    subst hs0
    refine .inr ⟨0, 0, rfl, rfl, by omega, rfl, rfl, fun c' i' hi' hmap => ?_⟩
    refine ⟨?_, by omega⟩
    by_contra hc
    rw [hother c' hc] at hmap
    cases hmap
  · intro c i hi hmap
    have hi0 : i = 0 := by omega
    subst hi0
    by_cases hc : c = 0
    · rw [hc, hslab] at hmap
      cases hmap
    · rw [hother c hc]
      rfl

/-- The read of request 7 is done when the slab is evicted and given back. -/
theorem no_rdma_to_evicted_slab_one_read :
    ∃ d, GuardedRun (deviceStep ⟨1, 1, 1⟩) (routedBeforeDrain 1) oneCtx d ∧
      d.evicted (0, 0) = true ∧ d.ended = [7] ∧ EvictedQuiet d := by
  obtain ⟨s, hs, hwaiting⟩ : ∃ s, runActions (deviceStep ⟨1, 1, 1⟩) oneCtx
      [.route 7 ⟨0, 4096, false⟩, .post 0 0 true, .complete 0 false,
        .unmap 0 (slabMessage 0 1)] = some s ∧ s.waiting = [] := ⟨_, rfl, rfl⟩
  obtain ⟨d', d, hd', hd, hevicted, hended⟩ : ∃ d' d,
      deviceStep ⟨1, 1, 1⟩ s (.drain 0) = some d' ∧
      deviceStep ⟨1, 1, 1⟩ d' (.sendDone 0) = some d ∧ d.evicted (0, 0) = true ∧
      d.ended = [7] := by
    cases hs
    exact ⟨_, _, rfl, rfl, rfl, rfl⟩
  have hrun : GuardedRun (deviceStep ⟨1, 1, 1⟩) (routedBeforeDrain 1) oneCtx s := by
    refine runActions_reaches _ ?_ .start hs
    intro e he s
    simp only [List.mem_cons, List.not_mem_nil, or_false] at he
    rcases he with rfl | rfl | rfl | rfl
    · exact ⟨by decide, by decide⟩
    · exact .inl rfl
    · exact rfl
    · exact trivial
  have hdrained : GuardedRun (deviceStep ⟨1, 1, 1⟩) (routedBeforeDrain 1) oneCtx d' := by
    refine .next (.drain 0) hrun (fun _ tr htr => ?_) hd'
    rw [hwaiting] at htr
    cases htr
  have hdone : GuardedRun (deviceStep ⟨1, 1, 1⟩) (routedBeforeDrain 1) oneCtx d :=
    .next (.sendDone 0) hdrained trivial hd
  exact ⟨d, hdone, hevicted, hended,
    no_rdma_to_evicted_slab ⟨1, 1, 1⟩ 1 _ (oneSlab_mapsInverse _) d hdone⟩

/-- The read of request 7 has been routed to the slab and waits for a context while the slab is
unmapped and given back; then it is posted. -/
theorem evicted_slab_is_read :
    (runActions (deviceStep ⟨1, 1, 1⟩) oneCtx
      [.route 7 ⟨0, 4096, false⟩, .unmap 0 (slabMessage 0 1), .drain 0, .sendDone 0,
        .post 0 0 true]).map (fun s => (s.posted.map WorkRequest.transfer, s.evicted (0, 0))) =
      some ([⟨7, false, 0, 0, 0, 4096⟩], true) ∧
    ∃ d, runActions (deviceStep ⟨1, 1, 1⟩) oneCtx
      [.route 7 ⟨0, 4096, false⟩, .unmap 0 (slabMessage 0 1), .drain 0, .sendDone 0,
        .post 0 0 true] = some d ∧ ¬EvictedQuiet d := by
  refine ⟨by decide, _, rfl, fun h => ?_⟩
  exact absurd (h _ (List.mem_singleton.mpr rfl)) (by decide)

end DisStore.Proofs
