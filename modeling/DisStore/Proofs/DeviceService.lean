import DisStore.Lib.Trace
import DisStore.Proofs.EvictDrain

/-!
# Every request comes to its end

A request that has been routed waits for a context, is posted, or is in the queue of the disk,
until it is ended. No event of the block device drops or doubles one. Without a disconnect the
device is never stuck: as long as a request is not ended, a completion of the network or of the
disk can be handled or a context can be taken, and every such step leaves less to do. When
nothing is left to do every context is back in its pool, so that an eviction that waits for
contexts can be finished.
-/

namespace DisStore.Proofs
open DisStore DisStore.Lib

/-- The request that the completion of the bio ends. -/
def DiskBio.ends : DiskBio → Option Nat
  | .mirror _ _ => none
  | .request q => some q

@[simp]
lemma DiskBio.ends_mirror (x : CtxId) (w : Nat) : DiskBio.ends (.mirror x w) = none := rfl

@[simp]
lemma DiskBio.ends_request (w : Nat) : DiskBio.ends (.request w) = some w := rfl

/-- The requests that wait for a context, are posted, or are in the queue of the disk. -/
def outstanding (d : Device) : List Nat :=
  d.waiting.map Transfer.req ++ d.posted.map (fun wr => wr.transfer.req) ++
    d.bios.filterMap DiskBio.ends

/-- Posts that succeed, and completions in an order in which contexts are not returned too
early. -/
def serves (d : Device) : DeviceEvent → Prop
  | .post _ _ success => success = true
  | .complete _ flushed => flushed = false
  | .diskDone k => rdmaDone d k
  | _ => False

/-- A waiting request makes at most a work request and a mirrored bio. -/
def workLeft (d : Device) : Nat := 3 * d.waiting.length + d.posted.length + d.bios.length

/-- The request that an event brings to the device. -/
def DeviceEvent.brings : DeviceEvent → Option Nat
  | .route q _ => some q
  | _ => none

/-- Beside the pools: the context of a work request has its fields, only contexts of work
requests are in flight, and a pass over the contexts ends after the last one. -/
structure ServiceInv (cfg : DeviceCfg) (d : Device) : Prop where
  kept : CtxsKept d
  pools : PoolInv False cfg d
  carries : ∀ wr ∈ d.posted, (d.ctxs wr.ctx).req = some wr.transfer.req ∧
    (wr.transfer.write = true → (d.ctxs wr.ctx).chunkPtr = some wr.transfer.chunkIndex)
  flights : ∀ x, (d.ctxs x).inFlight ≠ .idle → ∃ wr ∈ d.posted, wr.ctx = x
  passes : ∀ c k, d.drains c = some k → k ≤ (ctxIds cfg c).length

variable {cfg : DeviceCfg} {d d' : Device} {e : DeviceEvent} {q : Nat}

lemma serves.diskAfterRdma (h : serves d e) : diskAfterRdma d e := by
  cases e <;> first | exact h | exact absurd h id

lemma mem_eraseIdx_of_ne {β : Type} {l : List β} {k : Nat} {a b : β} (hk : l[k]? = some a)
    (hb : b ∈ l) (hne : b ≠ a) : b ∈ l.eraseIdx k := by
  obtain ⟨hlt, rfl⟩ := List.getElem?_eq_some_iff.mp hk
  rw [← (List.getElem_cons_eraseIdx_perm hlt).mem_iff, List.mem_cons] at hb
  exact hb.resolve_left hne

section Invariant

lemma serviceInv_init (cfg : DeviceCfg) (tables : ChunkTables) :
    ServiceInv cfg (deviceInit cfg tables) := by
  refine ⟨fun _ => rfl, poolInv_init cfg tables, ?_, ?_, ?_⟩
  · rintro wr ⟨⟩
  · intro x hx
    exact absurd rfl hx
  · rintro c k ⟨⟩

lemma enterCtx_carries (tr : Transfer) (c : RdmaCtx) : (enterCtx tr c).req = some tr.req ∧
    (tr.write = true → (enterCtx tr c).chunkPtr = some tr.chunkIndex) := by
  unfold enterCtx
  split
  · exact ⟨rfl, fun _ => rfl⟩
  · next hread => exact ⟨rfl, fun hwrite => absurd hwrite hread⟩

lemma ServiceInv.complete {k : Nat} {wr : WorkRequest} (h : ServiceInv cfg d)
    (hk : d.posted[k]? = some wr) :
    ∃ d', handleEvent cfg d (.complete k false) = some d' ∧
      d'.ended = d.ended ++ [wr.transfer.req] ∧ d'.waiting = d.waiting ∧
      d'.posted = d.posted.eraseIdx k ∧ d'.bios = d.bios ∧ d'.drains = d.drains ∧
      (d'.ctxs wr.ctx).inFlight = .idle ∧ ∀ x, x ≠ wr.ctx → d'.ctxs x = d.ctxs x := by
  obtain ⟨hreq, hptr⟩ := h.carries wr (List.mem_of_getElem? hk)
  cases hwrite : wr.transfer.write with
  | true =>
    have hs : handleEvent cfg d (.complete k false) =
        some (clientWriteDone { d with posted := d.posted.eraseIdx k } wr.ctx) := by
      simp only [handleEvent, hk, Option.bind_eq_bind, Option.bind_some, cqEvent, hwrite, if_true,
        Bool.false_eq_true, if_false]
    refine ⟨_, hs, ?_⟩
    rw [clientWriteDone_eq (d := { d with posted := d.posted.eraseIdx k }) (hptr hwrite)]
    dsimp only
    rw [hreq, Function.update_self]
    exact ⟨rfl, rfl, rfl, rfl, rfl, rfl, fun x hx => Function.update_of_ne hx _ _⟩
  | false =>
    have hs : handleEvent cfg d (.complete k false) =
        clientReadDone { d with posted := d.posted.eraseIdx k } wr.ctx := by
      simp only [handleEvent, hk, Option.bind_eq_bind, Option.bind_some, cqEvent, hwrite,
        Bool.false_eq_true, if_false]
    rw [hs, clientReadDone_eq (d := { d with posted := d.posted.eraseIdx k }) hreq]
    refine ⟨_, rfl, rfl, rfl, rfl, rfl, rfl, ?_, fun x hx => Function.update_of_ne hx _ _⟩
    simp only [endRequest, insertCtx, setCtx, Function.update_self]

lemma passes_update {drains : Nat → Option Nat} {c : Nat} {o : Option Nat}
    (h : ∀ c k, drains c = some k → k ≤ (ctxIds cfg c).length)
    (ho : ∀ k, o = some k → k ≤ (ctxIds cfg c).length) (c' k : Nat)
    (hk : Function.update drains c o c' = some k) : k ≤ (ctxIds cfg c').length := by
  by_cases hc : c' = c
  · subst hc
    rw [Function.update_self] at hk
    exact ho k hk
  · rw [Function.update_of_ne hc] at hk
    exact h c' k hk

lemma ServiceInv.frame (h : ServiceInv cfg d) (hkept : CtxsKept d') (hpools : PoolInv False cfg d')
    (hposted : d'.posted = d.posted) (hctxs : d'.ctxs = d.ctxs)
    (hdrains : ∀ c k, d'.drains c = some k → k ≤ (ctxIds cfg c).length) : ServiceInv cfg d' := by
  refine ⟨hkept, hpools, ?_, ?_, hdrains⟩
  · rw [hposted, hctxs]
    exact h.carries
  · rw [hposted, hctxs]
    exact h.flights

lemma ServiceInv.post {k queue : Nat} (h : ServiceInv cfg d) (hfreed : CtxsKept d')
    (hpools : PoolInv False cfg d') (hs : handleEvent cfg d (.post k queue true) = some d') :
    ServiceInv cfg d' := by
  obtain ⟨tr, x, pool, w, -, -, rfl, hget, hcase⟩ := handleEvent_post hs
  obtain ⟨-, hothers⟩ := h.pools.taken hget
  have hkept : ∀ (c : RdmaCtx) y, y ≠ x → Function.update d.ctxs x c y = d.ctxs y :=
    fun c y hy => Function.update_of_ne hy _ _
  rcases hcase with ⟨-, rfl⟩ | ⟨-, -, rfl⟩ | ⟨-, hfailed, -⟩
  · refine ⟨hfreed, hpools, fun wr hwr => ?_, fun y hy => ?_, h.passes⟩
    · have hctx : (giveUpCtx (holdCtx { d with waiting := d.waiting.eraseIdx k } tr queue x pool) x
          tr.req).ctxs wr.ctx = d.ctxs wr.ctx :=
        (Function.update_of_ne (hothers wr hwr) _ _).trans (hkept _ _ (hothers wr hwr))
      rw [hctx]
      exact h.carries wr hwr
    · have hne : y ≠ x := by
        rintro rfl
        simp only [giveUpCtx, requestStackbd, insertCtx, setCtx, Function.update_self] at hy
        exact hy rfl
      have hctx : (giveUpCtx (holdCtx { d with waiting := d.waiting.eraseIdx k } tr queue x pool) x
          tr.req).ctxs y = d.ctxs y :=
        (Function.update_of_ne hne _ _).trans (hkept _ _ hne)
      rw [hctx] at hy
      exact h.flights y hy
  · refine ⟨hfreed, hpools, fun wr hwr => ?_, fun y hy => ?_, h.passes⟩
    · simp only [holdCtx]
      rcases List.mem_append.mp hwr with hold | hnew
      · rw [hkept _ _ (hothers wr hold)]
        exact h.carries wr hold
      · rw [List.mem_singleton.mp hnew, Function.update_self]
        exact enterCtx_carries tr _
    · by_cases hyx : y = x
      · exact ⟨⟨x, tr⟩, List.mem_append_right _ List.mem_cons_self, hyx.symm⟩
      · simp only [holdCtx, hkept _ _ hyx] at hy
        obtain ⟨wr, hwr, hctx⟩ := h.flights y hy
        exact ⟨wr, List.mem_append_left _ hwr, hctx⟩
  · cases hfailed

lemma ServiceInv.step (h : ServiceInv cfg d) (hok : diskAfterRdma d e)
    (hs : deviceStep cfg d e = some d') : ServiceInv cfg d' := by
  have hkeeps := hok.keepsPools False
  rw [h.kept.deviceStep_eq] at hs
  have hkept := h.kept.step hkeeps.ne_forget hs
  have hpools := h.pools.step hkeeps hs
  cases e with
  | route req r =>
    simp only [handleEvent] at hs
    split at hs <;> cases hs <;> exact h.frame hkept hpools rfl rfl h.passes
  | post k queue success =>
    cases hok
    exact h.post hkept hpools hs
  | complete k flushed =>
    cases hok
    have hk : ∃ wr, d.posted[k]? = some wr := by
      simp only [handleEvent, Option.bind_eq_bind, Option.bind_eq_some_iff] at hs
      obtain ⟨wr, hk, -⟩ := hs
      exact ⟨wr, hk⟩
    obtain ⟨wr, hk⟩ := hk
    obtain ⟨t, ht, -, -, hposted, -, hdrains, hidle, hctxs⟩ := h.complete hk
    rw [hs, Option.some.injEq] at ht
    subst ht
    have hothers := h.pools.others_ne hk
    refine ⟨hkept, hpools, fun v hv => ?_, fun x hx => ?_, hdrains ▸ h.passes⟩
    · rw [hposted] at hv
      rw [hctxs _ (hothers v hv)]
      exact h.carries v (List.mem_of_mem_eraseIdx hv)
    · have hne : x ≠ wr.ctx := by
        rintro rfl
        exact hx hidle
      rw [hctxs x hne] at hx
      obtain ⟨v, hv, hctx⟩ := h.flights x hx
      refine ⟨v, ?_, hctx⟩
      rw [hposted]
      refine mem_eraseIdx_of_ne hk hv ?_
      rintro rfl
      exact hne hctx.symm
  | diskDone k =>
    simp only [handleEvent, Option.bind_eq_bind, Option.bind_eq_some_iff] at hs
    obtain ⟨bio, -, hs⟩ := hs
    cases hs
    cases bio <;> exact h.frame hkept hpools rfl rfl h.passes
  | unmap c stop =>
    simp only [handleEvent] at hs
    split at hs
    · cases hs
      refine h.frame hkept hpools rfl rfl (passes_update h.passes fun k hk => ?_)
      cases hk
      exact Nat.zero_le _
    · cases hs
  | drain c =>
    simp only [handleEvent, Option.bind_eq_bind, Option.bind_eq_some_iff] at hs
    obtain ⟨k, -, x, hx, hs⟩ := hs
    cases hs
    have hlt := (List.getElem?_eq_some_iff.mp hx).1
    refine h.frame hkept hpools rfl rfl (passes_update h.passes fun j hj => ?_)
    cases hj
    split <;> omega
  | sendDone c =>
    simp only [handleEvent] at hs
    split at hs
    · cases hs
      refine h.frame hkept hpools rfl rfl (passes_update h.passes fun k hk => ?_)
      cases hk
    · cases hs
  | disconnect c => exact absurd hok id
  | scan c => exact absurd hok id
  | forget c => exact absurd hok id

end Invariant

section Requests

/-- How often a request is ended or outstanding. -/
def tally (d : Device) (q : Nat) : Nat :=
  d.ended.count q + (d.waiting.countP fun tr => decide (tr.req = q)) +
    (d.posted.countP fun wr => decide (wr.transfer.req = q)) +
    d.bios.countP fun bio => decide (DiskBio.ends bio = some q)

lemma tally_eq (d : Device) (q : Nat) : tally d q = (d.ended ++ outstanding d).count q := by
  have hmap : ∀ {β : Type} (f : β → Nat) (l : List β),
      (l.map f).count q = l.countP fun a => decide (f a = q) := by
    intro β f l
    rw [List.count, List.countP_map]
    rfl
  have hfilter : ∀ l : List DiskBio, (l.filterMap DiskBio.ends).count q =
      l.countP fun bio => decide (DiskBio.ends bio = some q) := by
    intro l
    induction l with
    | nil => rfl
    | cons bio l ih =>
      cases bio <;> simp [List.filterMap_cons, List.countP_cons, ih, List.count_cons]
  rw [tally, outstanding, List.count_append, List.count_append, List.count_append, hmap, hmap,
    hfilter]
  omega

lemma tally_post {k queue : Nat} (hs : handleEvent cfg d (.post k queue true) = some d') :
    tally d' q = tally d q ∧ workLeft d' < workLeft d := by
  obtain ⟨tr, x, pool, w, hk, -, rfl, -, hcase⟩ := handleEvent_post hs
  have hcount := countP_eraseIdx hk fun tr => decide (tr.req = q)
  have hlen := countP_eraseIdx hk fun _ => true
  simp only [List.countP_true, if_true] at hlen
  rcases hcase with ⟨-, rfl⟩ | ⟨-, -, rfl⟩ | ⟨-, hfailed, -⟩
  · constructor
    · simp only [tally, giveUpCtx, requestStackbd, insertCtx, setCtx, holdCtx, List.countP_append,
        List.countP_singleton, DiskBio.ends_request, Option.some.injEq]
      omega
    · simp only [workLeft, giveUpCtx, requestStackbd, insertCtx, setCtx, holdCtx,
        List.length_append, List.length_singleton]
      omega
  · have hmirror : (mirrorOf x tr).countP (fun bio => decide (DiskBio.ends bio = some q)) = 0 ∧
        (mirrorOf x tr).length ≤ 1 := by
      unfold mirrorOf
      split <;> simp
    constructor
    · simp only [tally, holdCtx, List.countP_append, List.countP_singleton, hmirror.1]
      omega
    · simp only [workLeft, holdCtx, List.length_append, List.length_singleton]
      omega
  · cases hfailed

lemma ServiceInv.tally_complete {k : Nat} (h : ServiceInv cfg d)
    (hs : handleEvent cfg d (.complete k false) = some d') :
    tally d' q = tally d q ∧ workLeft d' < workLeft d := by
  have hk : ∃ wr, d.posted[k]? = some wr := by
    simp only [handleEvent, Option.bind_eq_bind, Option.bind_eq_some_iff] at hs
    obtain ⟨wr, hk, -⟩ := hs
    exact ⟨wr, hk⟩
  obtain ⟨wr, hk⟩ := hk
  obtain ⟨t, ht, hended, hwaiting, hposted, hbios, -⟩ := h.complete hk
  rw [hs, Option.some.injEq] at ht
  subst ht
  have hcount := countP_eraseIdx hk fun wr => decide (wr.transfer.req = q)
  have hlen := countP_eraseIdx hk fun _ => true
  simp only [List.countP_true, if_true] at hlen
  constructor
  · simp only [tally, hended, hwaiting, hposted, hbios, List.count_append, List.count_singleton,
      beq_iff_eq]
    simp only [decide_eq_true_eq] at hcount
    omega
  · simp only [workLeft, hwaiting, hposted, hbios]
    omega

lemma tally_diskDone {k : Nat} (hs : handleEvent cfg d (.diskDone k) = some d') :
    tally d' q = tally d q ∧ workLeft d' < workLeft d := by
  simp only [handleEvent, Option.bind_eq_bind, Option.bind_eq_some_iff, Option.some.injEq] at hs
  obtain ⟨bio, hk, rfl⟩ := hs
  have hcount := countP_eraseIdx hk fun bio => decide (DiskBio.ends bio = some q)
  have hlen := countP_eraseIdx hk fun _ => true
  simp only [List.countP_true, if_true] at hlen
  cases bio with
  | mirror x w =>
    simp only [DiskBio.ends_mirror, reduceCtorEq, decide_false, Bool.false_eq_true,
      if_false] at hcount
    constructor
    · simp only [tally, endIo, insertCtx]
      omega
    · simp only [workLeft, endIo, insertCtx]
      omega
  | request w =>
    simp only [DiskBio.ends_request, decide_eq_true_eq, Option.some.injEq] at hcount
    constructor
    · simp only [tally, endIo, endRequest, List.count_append, List.count_singleton, beq_iff_eq]
      omega
    · simp only [workLeft, endIo, endRequest]
      omega

lemma ServiceInv.tally_step (h : ServiceInv cfg d) (hok : diskAfterRdma d e)
    (hs : deviceStep cfg d e = some d') :
    tally d' q = tally d q + (DeviceEvent.brings e).toList.count q := by
  rw [h.kept.deviceStep_eq] at hs
  cases e with
  | route req r =>
    simp only [handleEvent] at hs
    split at hs <;> cases hs
    · simp only [tally, requestStackbd, List.countP_append, List.countP_singleton,
        DiskBio.ends_request, DeviceEvent.brings, Option.toList_some, List.count_singleton,
        decide_eq_true_eq, Option.some.injEq, beq_iff_eq]
      omega
    · simp only [tally, List.countP_append, List.countP_singleton, DeviceEvent.brings,
        Option.toList_some, List.count_singleton, decide_eq_true_eq, beq_iff_eq]
      omega
  | post k queue success =>
    cases hok
    exact (tally_post hs).1
  | complete k flushed =>
    cases hok
    exact (h.tally_complete hs).1
  | diskDone k => exact (tally_diskDone hs).1
  | unmap c stop =>
    simp only [handleEvent] at hs
    split at hs <;> cases hs
    rfl
  | drain c =>
    simp only [handleEvent, Option.bind_eq_bind, Option.bind_eq_some_iff, Option.some.injEq] at hs
    obtain ⟨k, -, x, -, rfl⟩ := hs
    rfl
  | sendDone c =>
    simp only [handleEvent] at hs
    split at hs <;> cases hs
    rfl
  | disconnect c => exact absurd hok id
  | scan c => exact absurd hok id
  | forget c => exact absurd hok id

lemma ServiceInv.workLeft_lt (h : ServiceInv cfg d) (hok : serves d e)
    (hs : deviceStep cfg d e = some d') : workLeft d' < workLeft d := by
  rw [h.kept.deviceStep_eq] at hs
  cases e with
  | post k queue success =>
    cases hok
    exact (tally_post (q := 0) hs).2
  | complete k flushed =>
    cases hok
    exact (h.tally_complete (q := 0) hs).2
  | diskDone k => exact (tally_diskDone (q := 0) hs).2
  | _ => exact absurd hok id

end Requests

section Stuck

lemma PoolInv.full (h : PoolInv False cfg d) (hposted : d.posted = []) (hbios : d.bios = [])
    (p : Nat × Nat) : (d.pools p).tail = (cfg.queueDepth : Int) - 1 := by
  have hunused : ∀ x, ctxUsed d x = false := by
    intro x
    rw [ctxUsed, hposted, hbios]
    rfl
  have hlen := h.length_free p
  simp only [hunused, Bool.not_false, List.countP_true, List.length_range] at hlen
  have htail := Proofs.length_free (h.tail p)
  omega

lemma ServiceInv.idle (h : ServiceInv cfg d) (hqueues : 0 < cfg.submitQueues)
    (hdepth : 0 < cfg.queueDepth) (hstuck : ∀ e, serves d e → deviceStep cfg d e = none) :
    d.posted = [] ∧ d.bios = [] ∧ d.waiting = [] := by
  simp only [h.kept.deviceStep_eq] at hstuck
  have hfirst : ∀ {β : Type} {l : List β}, l ≠ [] → ∃ a, l[0]? = some a := fun hne =>
    ⟨_, List.getElem?_eq_getElem (List.length_pos_iff.mpr hne)⟩
  have hposted : d.posted = [] := by
    by_contra hne
    obtain ⟨wr, hk⟩ := hfirst hne
    obtain ⟨d', hs, -⟩ := h.complete hk
    rw [hstuck (.complete 0 false) rfl] at hs
    cases hs
  have hbios : d.bios = [] := by
    by_contra hne
    obtain ⟨bio, hk⟩ := hfirst hne
    have hdone : rdmaDone d 0 := by
      intro x w _ wr hwr
      rw [hposted] at hwr
      cases hwr
    have hs := hstuck (.diskDone 0) hdone
    simp only [handleEvent, hk] at hs
    cases hs
  refine ⟨hposted, hbios, ?_⟩
  by_contra hne
  obtain ⟨tr, hk⟩ := hfirst hne
  -- the pool of the first waiting request is full
  have htail := h.pools.full hposted hbios (tr.cb, 0)
  have hget : getCtx (d.pools (tr.cb, 0)) ≠ none := by
    rw [Ne, getCtx_eq_none]
    omega
  obtain ⟨⟨x, pool⟩, hget⟩ := Option.ne_none_iff_exists'.mp hget
  have hs := hstuck (.post 0 0 true) rfl
  simp only [handleEvent, hk, Option.bind_eq_bind, Option.bind_some, if_pos hqueues] at hs
  rw [transferChunk_eq (d := { d with waiting := d.waiting.eraseIdx 0 }) hget] at hs
  cases hs

end Stuck

section Traces

variable {events : List DeviceEvent}

lemma ServiceInv.trace (h : ServiceInv cfg d)
    (ht : GuardedTrace (deviceStep cfg) diskAfterRdma d events d') :
    ServiceInv cfg d' ∧
      ∀ q, tally d' q = tally d q + (events.filterMap DeviceEvent.brings).count q := by
  induction ht with
  | nil s => exact ⟨h, fun q => rfl⟩
  | cons hok hs _ ih =>
    obtain ⟨hinv, hcount⟩ := ih (h.step hok hs)
    refine ⟨hinv, fun q => ?_⟩
    rw [hcount, h.tally_step hok hs, List.filterMap_cons]
    cases DeviceEvent.brings _ with
    | none => simp
    | some w =>
      simp only [Option.toList_some, List.count_cons, List.count_nil]
      omega

lemma brings_of_serves (ht : GuardedTrace (deviceStep cfg) serves d events d') :
    events.filterMap DeviceEvent.brings = [] := by
  induction ht with
  | nil s => rfl
  | @cons s t u e rest hok _ _ ih =>
    have hnone : DeviceEvent.brings e = none := by
      cases e with
      | route q r => exact absurd hok id
      | _ => rfl
    rw [List.filterMap_cons, hnone]
    exact ih

/-- Every request that has been routed is ended once or outstanding once. However the device is
served from there on, there is an end to it after at most `workLeft` steps, and then every
request is ended and every context is free. -/
theorem requests_are_served (cfg : DeviceCfg) (hqueues : 0 < cfg.submitQueues)
    (hdepth : 0 < cfg.queueDepth) (tables : ChunkTables) (events : List DeviceEvent) (d : Device)
    (h : GuardedTrace (deviceStep cfg) diskAfterRdma (deviceInit cfg tables) events d) :
    (d.ended ++ outstanding d).Perm (events.filterMap DeviceEvent.brings) ∧
    ∀ served d', GuardedTrace (deviceStep cfg) serves d served d' →
      served.length ≤ workLeft d ∧
      ((∀ e, serves d' e → deviceStep cfg d' e = none) →
        d'.ended.Perm (events.filterMap DeviceEvent.brings) ∧
        ∀ p, (d'.pools p).tail = (cfg.queueDepth : Int) - 1) := by
  obtain ⟨hinv, hcount⟩ := (serviceInv_init cfg tables).trace h
  have htally : ∀ q, tally d q = (events.filterMap DeviceEvent.brings).count q := by
    intro q
    rw [hcount]
    exact Nat.zero_add _
  refine ⟨List.perm_iff_count.mpr fun q => ?_, fun served d' hserved => ⟨?_, fun hstuck => ?_⟩⟩
  · rw [← tally_eq, htally]
  · have hle := hserved.length_le workLeft
      (fun s e s' hs hok hstep => ⟨hs.step hok.diskAfterRdma hstep, hs.workLeft_lt hok hstep⟩) hinv
    omega
  · obtain ⟨hinv', hcount'⟩ := hinv.trace (hserved.weaken fun _ _ hok => hok.diskAfterRdma)
    obtain ⟨hposted, hbios, hwaiting⟩ := hinv'.idle hqueues hdepth hstuck
    refine ⟨List.perm_iff_count.mpr fun q => ?_, hinv'.pools.full hposted hbios⟩
    have htally' := hcount' q
    rw [brings_of_serves hserved, tally_eq, outstanding, hwaiting, hposted, hbios,
      htally] at htally'
    simpa using htally'

/-- A write that has been posted: a work request and a bio are left to do. -/
theorem requests_are_served_one_write :
    ∃ d, GuardedTrace (deviceStep ⟨1, 1, 1⟩) diskAfterRdma oneCtx
        [.route 7 ⟨0, 4096, true⟩, .post 0 0 true] d ∧ workLeft d = 2 ∧
      (d.ended ++ outstanding d).Perm [7] ∧
      ∀ served d', GuardedTrace (deviceStep ⟨1, 1, 1⟩) serves d served d' → served.length ≤ 2 := by
  obtain ⟨d, hd, hwork⟩ : ∃ d, runActions (deviceStep ⟨1, 1, 1⟩) oneCtx
      [.route 7 ⟨0, 4096, true⟩, .post 0 0 true] = some d ∧ workLeft d = 2 := ⟨_, rfl, rfl⟩
  have htrace : GuardedTrace (deviceStep ⟨1, 1, 1⟩) diskAfterRdma oneCtx
      [.route 7 ⟨0, 4096, true⟩, .post 0 0 true] d := by
    refine .of_runActions (fun e he s => ?_) hd
    simp only [List.mem_cons, List.not_mem_nil, or_false] at he
    rcases he with rfl | rfl <;> simp [diskAfterRdma]
  obtain ⟨hperm, hserved⟩ := requests_are_served ⟨1, 1, 1⟩ (by decide) (by decide) _ _ d htrace
  refine ⟨d, htrace, hwork, hperm, fun served d' hs => ?_⟩
  rw [← hwork]
  exact (hserved served d' hs).1

lemma drains_of_serves (hok : serves d e)
    (hs : handleEvent cfg d e = some d') : d'.drains = d.drains := by
  cases e with
  | post k queue success =>
    obtain ⟨tr, x, pool, w, -, -, rfl, -, hcase⟩ := handleEvent_post hs
    rcases hcase with ⟨-, rfl⟩ | ⟨-, -, rfl⟩ | ⟨-, -, rfl⟩ <;> rfl
  | complete k flushed =>
    cases hok
    simp only [handleEvent, Option.bind_eq_bind, Option.bind_eq_some_iff] at hs
    obtain ⟨wr, -, hs⟩ := hs
    exact (cqEvent_completes hs).drains
  | diskDone k =>
    simp only [handleEvent, Option.bind_eq_bind, Option.bind_eq_some_iff, Option.some.injEq] at hs
    obtain ⟨bio, -, rfl⟩ := hs
    cases bio <;> rfl
  | _ => exact absurd hok id

lemma drain_to_end {c k : Nat} (hkept : CtxsKept d) (hidle : ∀ x, (d.ctxs x).inFlight = .idle)
    (hk : d.drains c = some k) (hle : k ≤ (ctxIds cfg c).length) :
    ∃ events d', GuardedTrace (deviceStep cfg) diskAfterRdma d events d' ∧ d'.drains c = none := by
  induction hn : (ctxIds cfg c).length - k generalizing d k with
  | zero =>
    have hend : d.drains c = some (ctxIds cfg c).length := by
      rw [hk, Option.some.injEq]
      omega
    obtain ⟨d', hs⟩ : ∃ d', deviceStep cfg d (.sendDone c) = some d' ∧ d'.drains c = none := by
      rw [hkept.deviceStep_eq, handleEvent, if_pos hend]
      exact ⟨_, rfl, Function.update_self ..⟩
    exact ⟨[.sendDone c], d', .cons trivial hs.1 (.nil _), hs.2⟩
  | succ n ih =>
    have hlt : k < (ctxIds cfg c).length := by omega
    have hwaits : ∀ x, drainWaits d x = false := by
      intro x
      simp [drainWaits, hidle x]
    have hs : deviceStep cfg d (.drain c) = some { d with
        drains := Function.update d.drains c (some (k + 1)) } := by
      rw [hkept.deviceStep_eq]
      simp only [handleEvent, hk, List.getElem?_eq_getElem hlt, Option.bind_eq_bind,
        Option.bind_some, hwaits, Bool.false_eq_true, if_false]
    obtain ⟨events, d', htrace, hdone⟩ := ih (d := { d with
      drains := Function.update d.drains c (some (k + 1)) }) hkept hidle (Function.update_self ..)
      hlt (by omega)
    exact ⟨.drain c :: events, d', .cons trivial hs htrace, hdone⟩

/-- An eviction that waits for the requests in flight can be finished: they are served, and the
next pass over the contexts finds none in flight. -/
theorem eviction_can_finish (cfg : DeviceCfg) (hqueues : 0 < cfg.submitQueues)
    (hdepth : 0 < cfg.queueDepth) (tables : ChunkTables) (d : Device)
    (h : GuardedRun (deviceStep cfg) diskAfterRdma (deviceInit cfg tables) d) (c : Nat)
    (hc : d.drains c ≠ none) :
    ∃ events d', GuardedTrace (deviceStep cfg) diskAfterRdma d events d' ∧ d'.drains c = none := by
  have hinv : ServiceInv cfg d := h.invariant (serviceInv_init cfg tables)
    fun s e s' hs hok hstep => hs.step hok hstep
  have hserve : ∀ s e s', ServiceInv cfg s ∧ s.drains = d.drains → serves s e →
      deviceStep cfg s e = some s' →
      (ServiceInv cfg s' ∧ s'.drains = d.drains) ∧ workLeft s' < workLeft s := by
    rintro s e s' ⟨hs, hdrains⟩ hok hstep
    have hstep' := hs.kept.deviceStep_eq.symm.trans hstep
    exact ⟨⟨hs.step hok.diskAfterRdma hstep, (drains_of_serves hok hstep').trans hdrains⟩,
      hs.workLeft_lt hok hstep⟩
  obtain ⟨served, t, hserved, ⟨ht, hdrains⟩, hstuck⟩ :=
    GuardedTrace.exists_stuck workLeft hserve d ⟨hinv, rfl⟩
  obtain ⟨hposted, -, -⟩ := ht.idle hqueues hdepth hstuck
  have hidle : ∀ x, (t.ctxs x).inFlight = .idle := by
    intro x
    by_contra hx
    obtain ⟨wr, hwr, -⟩ := ht.flights x hx
    rw [hposted] at hwr
    cases hwr
  obtain ⟨k, hk⟩ := Option.ne_none_iff_exists'.mp hc
  rw [← hdrains] at hk
  obtain ⟨events, d', htrace, hdone⟩ := drain_to_end ht.kept hidle hk (ht.passes c k hk)
  have hserved := hserved.weaken fun _ _ hok => hok.diskAfterRdma
  exact ⟨served ++ events, d', hserved.append htrace, hdone⟩

/-- The slab of a read that is in flight is being evicted. -/
theorem eviction_can_finish_one_read :
    ∃ d, GuardedRun (deviceStep ⟨1, 1, 1⟩) diskAfterRdma oneCtx d ∧
      drainWaits d ⟨0, 0, 0⟩ = true ∧
      ∃ events d', GuardedTrace (deviceStep ⟨1, 1, 1⟩) diskAfterRdma d events d' ∧
        d'.drains 0 = none := by
  obtain ⟨d, hd, hwaits, hdrains⟩ : ∃ d, runActions (deviceStep ⟨1, 1, 1⟩) oneCtx
      [.route 7 ⟨0, 4096, false⟩, .post 0 0 true, .unmap 0 (slabMessage 0 1)] = some d ∧
      drainWaits d ⟨0, 0, 0⟩ = true ∧ d.drains 0 = some 0 := ⟨_, rfl, rfl, rfl⟩
  have hrun : GuardedRun (deviceStep ⟨1, 1, 1⟩) diskAfterRdma oneCtx d := by
    refine runActions_reaches _ (fun e he s => ?_) .start hd
    simp only [List.mem_cons, List.not_mem_nil, or_false] at he
    rcases he with rfl | rfl | rfl <;> simp [diskAfterRdma]
  refine ⟨d, hrun, hwaits,
    eviction_can_finish ⟨1, 1, 1⟩ (by decide) (by decide) _ d hrun 0 ?_⟩
  rw [hdrains]
  rintro ⟨⟩

end Traces

end DisStore.Proofs
