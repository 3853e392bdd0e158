import DisStore.Lib.Run
import DisStore.Proofs.PageChains
import DisStore.Proofs.PageMoves

/-!
# Read your writes

Every read of the block device returns what the last completed write has left. This fails in
five ways: a write that goes to the disk because `rdma_on` is OFF leaves the bits of its pages
set; a context is returned by the disk before its RDMA write is done; the completion of a work
request is handled after `IS_disconnect_handler` has settled its context; a request that
waits for a context is not seen by the drain of its slab; and `mem_gather` does not copy the data
of a write. In runs without these and without a fault it holds.
-/

namespace DisStore.Proofs
open DisStore DisStore.Lib

variable {α : Type}

/-- What is assumed of the environment. Requests are page-aligned and have bios for their pages,
and one that touches a page of an outstanding one is not sent; nothing is transferred over a lost
connection; a server binds only slabs that are free, for chunks of the device, and takes back only
slabs that it has bound; nobody else writes to a slab that is bound. -/
def pageEnv (cfg : DeviceCfg) (capacityG : Nat) (s : PageStore α) : PageEvent α → Prop
  | .route r req _ => PageRequest capacityG r ∧ req.bytes = r.pages ∧
      ∀ q < s.submitted, q ∉ s.dev.ended → ∀ p, (s.reqs q).covers p → ¬r.covers p
  | .transfer k => ∀ wr, s.dev.posted[k]? = some wr → s.failed wr.transfer.cb = false
  | .bind c msg _ => s.failed c = false ∧ 0 ≤ msg.sizeGb ∧ msg.sizeGb < capacityG ∧
      ∀ i, grantedSlab cfg.maxMr msg = some i → s.bound (c, i) = none
  | .unmap c stop => ∀ i < cfg.maxMr, stop.rkey i ≠ 0 → s.bound (c, i) ≠ none
  | .foreign slab _ _ => s.bound slab = none
  | _ => True

/-- Reads of the pages of the request are sent to the disk. -/
def Unrecorded (t : ChunkTables) (r : IoRequest) : Prop :=
  ∀ p slab, r.covers p → ¬PageRecorded t p slab

/-- A write that goes to the disk because `rdma_on` is OFF has no recorded page, and one that is
posted has bios that `mem_gather` copies; a work request completes while its context is in flight
with its request; a mirrored bio completes when its context has no work request; and no request
waits for an unmapped slab when a pass over the contexts begins. -/
def copiesFit (s : PageStore α) : PageEvent α → Prop
  | .route r _ _ => r.write = true → r.gbIndex = r.endIndex → s.dev.tables.sess.rdmaOn = false →
      Unrecorded s.dev.tables r
  | .post k _ => ∀ tr, s.dev.waiting[k]? = some tr → tr.write = true →
      if s.dev.tables.sess.rdmaOn then PageRuns (s.chains tr.req)
      else Unrecorded s.dev.tables (s.reqs tr.req)
  | .complete k flushed => flushed = false →
      ∀ wr, s.dev.posted[k]? = some wr → Carries s.dev wr
  | .diskDone => rdmaDone s.dev 0
  | .drain c => s.dev.drains c = some 0 →
      ∀ tr ∈ s.dev.waiting, tr.cb = c → (s.dev.tables.cbs c).chunkMap tr.chunkIndex ≠ -1
  | _ => True

section Decide

lemma forall_covers_iff (r : IoRequest) (P : Nat → Prop) :
    (∀ p, r.covers p → P p) ↔ ∀ i < r.pages, P (r.firstPage + i) := by
  constructor
  · intro h i hi
    exact h _ ⟨Nat.le_add_right .., Nat.add_lt_add_left hi _⟩
  · rintro h p ⟨hle, hlt⟩
    have hp := h (p - r.firstPage) (by omega)
    rwa [Nat.add_sub_cancel' hle] at hp

instance (r : IoRequest) (P : Nat → Prop) [DecidablePred P] :
    Decidable (∀ p, r.covers p → P p) :=
  decidable_of_iff _ (forall_covers_iff r P).symm

instance (r : IoRequest) (p : Nat) : Decidable (r.covers p) :=
  inferInstanceAs (Decidable (_ ∧ _))

lemma exists_recorded_iff (t : ChunkTables) (p : Nat) :
    (∃ slab, PageRecorded t p slab) ↔
      0 ≤ t.sess.cbIndexMap (p / 262144 : Nat) ∧ 0 ≤ t.sess.chunkMapCbChunk (p / 262144 : Nat) ∧
        ((t.cbs (t.sess.cbIndexMap (p / 262144 : Nat)).toNat).chunkList
          (t.sess.chunkMapCbChunk (p / 262144 : Nat)).toNat).bitmap (p % 262144) = true := by
  constructor
  · rintro ⟨slab, ⟨hindex, hslab⟩, hbit⟩
    rw [hindex, hslab]
    exact ⟨Int.natCast_nonneg _, Int.natCast_nonneg _, hbit⟩
  · rintro ⟨hindex, hslab, hbit⟩
    exact ⟨(_, _), ⟨(Int.toNat_of_nonneg hindex).symm, (Int.toNat_of_nonneg hslab).symm⟩, hbit⟩

lemma unrecorded_iff (t : ChunkTables) (r : IoRequest) :
    Unrecorded t r ↔ ∀ p, r.covers p → ¬∃ slab, PageRecorded t p slab := by
  constructor
  · rintro h p hp ⟨slab, hrec⟩
    exact h p slab hp hrec
  · intro h p slab hp hrec
    exact h p hp ⟨slab, hrec⟩

instance (t : ChunkTables) (p : Nat) : Decidable (∃ slab, PageRecorded t p slab) :=
  decidable_of_iff _ (exists_recorded_iff t p).symm

instance (t : ChunkTables) (r : IoRequest) : Decidable (Unrecorded t r) :=
  decidable_of_iff _ (unrecorded_iff t r).symm

instance (d : Device) (wr : WorkRequest) : Decidable (Carries d wr) :=
  inferInstanceAs (Decidable (_ ∧ _))

lemma rdmaDone_iff (d : Device) (k : Nat) :
    rdmaDone d k ↔
      ∀ bio, d.bios[k]? = some bio → ∀ wr ∈ d.posted, DiskBio.mirrors wr.ctx bio = false := by
  constructor
  · intro h bio hbio wr hwr
    cases bio with
    | mirror x q => exact decide_eq_false (h x q hbio wr hwr).symm
    | request q => rfl
  · intro h x q hbio wr hwr hx
    exact of_decide_eq_false (h _ hbio wr hwr) hx.symm

instance (d : Device) (k : Nat) : Decidable (rdmaDone d k) :=
  decidable_of_iff _ (rdmaDone_iff d k).symm

instance (capacityG : Nat) (r : IoRequest) : Decidable (PageRequest capacityG r) :=
  decidable_of_iff (((512 ∣ r.start ∧ 512 ∣ r.len) ∧ 0 < r.len ∧ r.len ≤ isPageSize * 262144 ∧
      r.start + r.len ≤ capacityG * oneGb) ∧ isPageSize ∣ r.start ∧ isPageSize ∣ r.len ∧
      (r.write = false → r.len = isPageSize))
    ⟨fun ⟨⟨⟨h₁, h₂⟩, h₃, h₄, h₅⟩, h₆, h₇, h₈⟩ => ⟨⟨h₁, h₂, h₃, h₄, h₅⟩, h₆, h₇, h₈⟩,
      fun ⟨⟨h₁, h₂, h₃, h₄, h₅⟩, h₆, h₇, h₈⟩ => ⟨⟨⟨h₁, h₂⟩, h₃, h₄, h₅⟩, h₆, h₇, h₈⟩⟩

instance (cfg : DeviceCfg) (capacityG : Nat) (s : PageStore α) (e : PageEvent α) :
    Decidable (pageEnv cfg capacityG s e) :=
  match e with
  | .route .. => inferInstanceAs (Decidable (_ ∧ _ ∧ _))
  | .transfer k => inferInstanceAs (Decidable (∀ wr, s.dev.posted[k]? = some wr → _))
  | .bind .. => inferInstanceAs (Decidable (_ ∧ _ ∧ _ ∧ _))
  | .unmap .. => inferInstanceAs (Decidable (∀ i < cfg.maxMr, _))
  | .foreign .. => inferInstanceAs (Decidable (_ = none))
  | .post .. | .complete .. | .diskDone | .connect .. | .mapped | .drain .. | .sendDone ..
  | .remap .. | .disconnect .. | .scan .. | .forget .. => isTrue trivial

instance (s : PageStore α) (e : PageEvent α) : Decidable (copiesFit s e) :=
  match e with
  | .route .. => inferInstanceAs (Decidable (_ → _))
  | .post k _ => inferInstanceAs (Decidable (∀ tr, s.dev.waiting[k]? = some tr → _))
  | .complete .. => inferInstanceAs (Decidable (_ → _))
  | .diskDone => inferInstanceAs (Decidable (rdmaDone s.dev 0))
  | .drain .. => inferInstanceAs (Decidable (_ → _))
  | .transfer .. | .connect .. | .bind .. | .mapped | .unmap .. | .sendDone .. | .remap ..
  | .disconnect .. | .scan .. | .forget .. | .foreign .. => isTrue trivial

end Decide

variable {cfg : DeviceCfg} {capacityG : Nat} {disk₀ : Nat → α} {place : Nat → Place}
  {s s' : PageStore α} {r : IoRequest} {q k c : Nat} {x : CtxId} {wr : WorkRequest}

section Requests

lemma Ledger.outstanding {submitted : Nat} {reqs : Nat → IoRequest} {ended : List Nat}
    (h : Ledger place submitted reqs ended) (hq : (place q).isOpen = true) :
    q < submitted ∧ q ∉ ended := by
  constructor
  · by_contra hlt
    rw [(h.new q).mpr (Nat.le_of_not_lt hlt)] at hq
    cases hq
  · intro hmem
    rw [(h.done q).mpr hmem] at hq
    cases hq

lemma PageInv.route {req : Request} {mem : Nat → Nat → α} (h : PageInv cfg disk₀ place s)
    (hsize : capacityG < 2 ^ 31) (henv : pageEnv cfg capacityG s (.route r req mem))
    (hfit : copiesFit s (.route r req mem)) (hsafe : s'.dev.fault = false)
    (hs : handlePageEvent cfg capacityG s (.route r req mem) = some s') :
    ∃ place', PageInv cfg disk₀ place' s' := by
  obtain ⟨hr, -, hapart⟩ := henv
  have hnew : place s.submitted = .new := (h.ledger.new _).mpr le_rfl
  obtain ⟨d, hd, rfl⟩ := Option.map_eq_some_iff.mp hs
  obtain ⟨hd, -⟩ := deviceStep_safe hd hsafe
  have harrive := (h.flag (s.dev.fault || outsideChunkList s.dev.tables.sess r)).arrive req mem
    hr.one_page fun q p hq =>
      hapart q (h.ledger.outstanding hq).1 (h.ledger.outstanding hq).2 p
  rcases h.routes.isRequest hsize hr hfit with
    ⟨c, i, hreq, hroute, htransfer, hread⟩ | ⟨t, hreq, hmaps, hsub, hnone⟩
  · simp only [handleEvent, hreq, Option.some.injEq] at hd
    subst hd
    refine ⟨_, harrive.wait ⟨s.submitted, r.write, c, i, r.chunkOffset, r.len⟩
      (Function.update_self ..) ?_ ?_ ?_ ?_⟩
    · dsimp only
      rw [Function.update_self]
      exact htransfer _
    · refine h.seats.posted_ne ?_
      dsimp only
      rw [hnew]
      rfl
    · dsimp only
      rw [Function.update_self]
      exact hroute
    · dsimp only
      rw [Function.update_self]
      exact hread
  · simp only [handleEvent, hreq, Option.some.injEq] at hd
    subst hd
    have htables := harrive.control (d := { s.dev with
      tables := t
      fault := s.dev.fault || outsideChunkList s.dev.tables.sess r }) s.remaps
      ⟨rfl, rfl, rfl, rfl, rfl, rfl⟩ (fun _ hup => hup) (h.routes.sameMaps hmaps)
      (h.pass.frame (fun c k hk hup => ⟨hk, hup, fun i hi => by rwa [← hmaps.chunkMap]⟩)
        (fun _ hv => .inl hv) fun _ _ => .inl rfl)
      (harrive.bounds.shrink (fun _ hv => hv) (fun _ hup => hup) fun _ _ _ => rfl) hsub
    refine ⟨_, htables.toDisk (Function.update_self ..) ?_⟩
    dsimp only
    rw [Function.update_self]
    exact hnone

lemma ChainInv.postBufs {tr : Transfer} {bufs : CtxId → Nat → α} (h : ChainInv s)
    (hq : tr.req < s.submitted) (hon : s.dev.tables.sess.rdmaOn = true)
    (hruns : tr.write = true → PageRuns (s.chains tr.req)) (hbufs : postBufs s tr x = some bufs) :
    (∀ y, y ≠ x → bufs y = s.bufs y) ∧
      (tr.write = true → ∀ j < (s.reqs tr.req).pages, bufs x j = s.data tr.req j) := by
  unfold DisStore.postBufs at hbufs
  rw [hon, Bool.and_true] at hbufs
  split at hbufs
  · next hwrite =>
    obtain ⟨buf, hloop, hpages⟩ := (hruns hwrite).gather (s.mem tr.req) (s.bufs x)
    simp only [gatherPages, hloop, Option.map_some, Option.some.injEq] at hbufs
    subst hbufs
    refine ⟨fun y hy => Function.update_of_ne hy _ _, fun _ j hj => ?_⟩
    rw [Function.update_self]
    exact hpages j (by rwa [h.pages _ hq])
  · next hread =>
    cases hbufs
    exact ⟨fun _ _ => rfl, fun hwrite => absurd hwrite hread⟩

lemma PageInv.post {queue : Nat} (h : PageInv cfg disk₀ place s) (hchains : ChainInv s)
    (hfit : copiesFit s (.post k queue)) (hsafe : s'.dev.fault = false)
    (hs : handlePageEvent cfg capacityG s (.post k queue) = some s') :
    ∃ place', PageInv cfg disk₀ place' s' := by
  simp only [handlePageEvent, Option.bind_eq_bind, Option.bind_eq_some_iff] at hs
  obtain ⟨d, hd, hs⟩ := hs
  split at hs
  · next hfault =>
    cases hs
    rw [hfault] at hsafe
    cases hsafe
  simp only [Option.bind_eq_some_iff, Option.some.injEq] at hs
  obtain ⟨tr, hk, ⟨x, pool⟩, hget, bufs, hbufs, rfl⟩ := hs
  obtain ⟨hd, -⟩ := deviceStep_safe hd hsafe
  obtain ⟨tr', x', pool', w, hk', hqueue, rfl, hget', hcase⟩ := handleEvent_post hd
  rw [hk, Option.some.injEq] at hk'
  subst hk'
  rw [hget, Option.some.injEq, Prod.mk.injEq] at hget'
  obtain ⟨rfl, rfl⟩ := hget'
  rcases hcase with ⟨hoff, rfl⟩ | ⟨hon, -, rfl⟩ | ⟨-, hfailed, -⟩
  · have hkept : bufs = s.bufs := by
      simp only [DisStore.postBufs, hoff, Bool.and_false, Bool.false_eq_true, if_false,
        Option.some.injEq] at hbufs
      exact hbufs.symm
    rw [giveUpCtx_eq, hkept]
    refine ⟨_, h.giveUp hk hget fun hwrite => ?_⟩
    have hrec := hfit tr hk hwrite
    rwa [hoff, if_neg (by decide)] at hrec
  · have hlt : tr.req < s.submitted := by
      refine (h.ledger.outstanding ?_).1
      rw [(h.seats.waiting tr (List.mem_of_getElem? hk)).1]
      rfl
    obtain ⟨hothers, hgather⟩ := hchains.postBufs hlt hon (fun hwrite => by
      have hruns := hfit tr hk hwrite
      rwa [hon, if_pos rfl] at hruns) hbufs
    exact ⟨_, h.launch hk hqueue hget hothers hgather⟩
  · cases hfailed

lemma PageInv.transfer (h : PageInv cfg disk₀ place s)
    (henv : pageEnv cfg capacityG s (.transfer k))
    (hs : handlePageEvent cfg capacityG s (.transfer k) = some s') :
    PageInv cfg disk₀ place s' := by
  simp only [handlePageEvent, Option.bind_eq_bind, Option.bind_eq_some_iff] at hs
  obtain ⟨wr, hk, hs⟩ := hs
  have hwr := List.mem_of_getElem? hk
  have hup := henv wr hk
  split at hs
  · cases hs
  · next hex =>
    cases hs
    rw [Bool.not_eq_true] at hex
    unfold rdmaExecute
    dsimp only
    split
    · next hwrite => exact h.executeWrite hwr hup hwrite
    · next hread =>
      rw [Bool.not_eq_true] at hread
      exact h.executeRead hwr hup hread hex

end Requests

section Completions

lemma CtxInv.others_ne {failed : Nat → Bool} {reqs : Nat → IoRequest} {d : Device}
    (h : CtxInv cfg failed d) (hseats : Seats place reqs d) (hk : d.posted[k]? = some wr)
    (hc : Carries d wr) (hup : failed wr.ctx.cb = false) :
    ∀ v ∈ d.posted.eraseIdx k, v.ctx ≠ wr.ctx := by
  intro v hv he
  have hwr := List.mem_of_getElem? hk
  have hmem := List.mem_of_mem_eraseIdx hv
  have hup' : failed v.transfer.cb = false := by
    rw [← h.ctx_cb hmem, he]
    exact hup
  have heq := h.inj hseats hmem hwr he hup' hc
  exact ne_of_mem_eraseIdx hseats.posted_nodup hk hv (by rw [heq])

lemma PageInv.flushed (h : PageInv cfg disk₀ place s) (k : Nat) :
    PageInv cfg disk₀ place { s with
      dev := { s.dev with posted := s.dev.posted.eraseIdx k } } :=
  h.shrink (h.ctxs.shrink rfl rfl (fun _ _ hw => hw) (fun _ hwr => List.mem_of_mem_eraseIdx hwr)
    fun _ hup => hup) (.refl _) (List.eraseIdx_sublist _ _) (fun _ _ => rfl)
    ⟨rfl, rfl, rfl, rfl, rfl⟩

lemma PageInv.recordWrite (h : PageInv cfg disk₀ place s) (hwr : wr ∈ s.dev.posted)
    (hc : Carries s.dev wr) (hwrite : wr.transfer.write = true) :
    PageInv cfg disk₀ place { s with dev := { s.dev with
      tables := updateBitmap s.dev.tables wr.ctx.cb wr.transfer.chunkIndex fun bitmap =>
        bitmapGroupSet bitmap wr.transfer.offset wr.transfer.len } } := by
  obtain ⟨hplace, -⟩ := h.seats.carried hwr hc
  have htransfer := (h.seats.posted wr hwr).2.1
  refine h.record (sameMaps_updateBitmap ..) hplace (by rw [← htransfer.write, hwrite])
    fun p slab hrec => ?_
  rw [recorded_updateBitmap] at hrec
  obtain ⟨hroute, hbit⟩ := hrec
  split at hbit
  · next hslab =>
    have hslab' : slab = transferSlab wr.transfer := by
      rw [hslab, h.ctxs.ctx_cb hwr]
      rfl
    simp only [bitmapGroupSet, Bool.or_eq_true, decide_eq_true_eq] at hbit
    rcases hbit with hset | hold
    · rw [mem_bitmapGroup htransfer.inside] at hset
      refine .inr ⟨hslab', h.bounds.covers h.routes (.inr ⟨wr.ctx, hwr⟩) htransfer
        (List.ne_nil_of_mem (h.ctxs.ctx wr hwr)) (hslab' ▸ hroute) ?_ ?_⟩
      · omega
      · omega
    · refine .inl ⟨hroute, ?_⟩
      rw [hslab]
      exact hold
  · exact .inl ⟨hroute, hbit⟩

lemma PageInv.recorded_write (h : PageInv cfg disk₀ place s) (hwr : wr ∈ s.dev.posted)
    (hc : Carries s.dev wr) (hex : s.executed wr = true) (hwrite : wr.transfer.write = true)
    {p : Nat} {slab : Nat × Nat} (hrec : PageRecorded s.dev.tables p slab)
    (hcovers : (s.reqs wr.transfer.req).covers p) :
    s.slabs slab (p % 262144) =
      s.data wr.transfer.req (p - (s.reqs wr.transfer.req).firstPage) := by
  have htransfer := (h.seats.posted wr hwr).2.1
  have hallows := h.cache.target p slab wr.transfer.req hrec (by rw [← htransfer.write, hwrite])
    hcovers
  rw [(h.seats.carried hwr hc).1] at hallows
  have hslab : transferSlab wr.transfer = slab := hallows
  have hup := (h.routes.route _ _ hrec.1).up
  rw [← hslab] at hup ⊢
  have hlow := hcovers.1
  have hhigh := hcovers.2
  rw [(htransfer.page hcovers).2]
  exact h.wire.written wr hwr hup hwrite hex _ (by omega)

lemma clientWriteDone_fields {d : Device} {tr : Transfer} (hf : HasFields (d.ctxs x) tr)
    (hwrite : tr.write = true) (hreq : (d.ctxs x).req = some q) :
    clientWriteDone d x = endRequest (setCtx { d with
      tables := updateBitmap d.tables x.cb tr.chunkIndex fun bitmap =>
        bitmapGroupSet bitmap tr.offset tr.len } x { d.ctxs x with
          inFlight := .idle, chunkIndex := -1, chunkPtr := none, req := none }) q := by
  rw [clientWriteDone_eq (hf.chunkPtr hwrite), hreq, hf.offset hwrite, hf.len hwrite]
  rfl

lemma PageInv.completeWrite (h : PageInv cfg disk₀ place s) (hk : s.dev.posted[k]? = some wr)
    (hc : Carries s.dev wr) (hex : s.executed wr = true) (hwrite : wr.transfer.write = true) :
    PageInv cfg disk₀ (Function.update place wr.transfer.req .done)
      (finish s (clientWriteDone { s.dev with posted := s.dev.posted.eraseIdx k } wr.ctx)) := by
  have hwr := List.mem_of_getElem? hk
  obtain ⟨hplace, -⟩ := h.seats.carried hwr hc
  have htransfer := (h.seats.posted wr hwr).2.1
  have hrecord := h.recordWrite hwr hc hwrite
  have hgone := hrecord.flushed k
  have hctxs := hgone.ctxs.settle (x := wr.ctx) (c := { s.dev.ctxs wr.ctx with
    inFlight := .idle, chunkIndex := -1, chunkPtr := none, req := none }) rfl
    (h.ctxs.others_ne h.seats hk hc)
  have hsettled := hgone.shrink hctxs (.refl _) (.refl _) (settled_ctxs s.dev wr.ctx rfl)
    ⟨rfl, rfl, rfl, rfl, rfl⟩
  have habsent := hsettled.seats.absent_held hplace (by simp only [setCtx, Function.update_self])
  have hend := hsettled.endWrite (by rw [hplace]; rfl) habsent (by rw [← htransfer.write, hwrite])
    fun p slab hrec hcovers => hrecord.recorded_write hwr hc hex hwrite hrec hcovers
  have hdone := clientWriteDone_fields (d := { s.dev with posted := s.dev.posted.eraseIdx k })
    (h.ctxs.fields wr hwr hc) hwrite hc.2
  rw [hdone, finish_ended rfl]
  exact hend

lemma PageInv.completeRead {d : Device} (h : PageInv cfg disk₀ place s) (hchains : ChainInv s)
    (hk : s.dev.posted[k]? = some wr) (hc : Carries s.dev wr) (hex : s.executed wr = true)
    (hread : wr.transfer.write = false)
    (hd : clientReadDone { s.dev with posted := s.dev.posted.eraseIdx k } wr.ctx = some d) :
    PageInv cfg disk₀ (Function.update place wr.transfer.req .done)
      (finish { s with mem := copyReadPage s wr.ctx } d) := by
  have hwr := List.mem_of_getElem? hk
  obtain ⟨hplace, hflight⟩ := h.seats.carried hwr hc
  rw [hread] at hflight
  have htransfer := (h.seats.posted wr hwr).2.1
  have hread' : (s.reqs wr.transfer.req).write = false := by
    rw [← htransfer.write, hread]
  have hone : (s.chains wr.transfer.req).bytes = 1 := by
    rw [hchains.pages _ (h.ledger.outstanding (by rw [hplace]; rfl)).1]
    refine h.ledger.one_page _ ?_ hread'
    rw [hplace]
    rintro ⟨⟩
  have hcopy : copyReadPage s wr.ctx = Function.update s.mem wr.transfer.req
      (fillFirst (s.mem wr.transfer.req) (s.chains wr.transfer.req) (s.bufs wr.ctx 0)) := by
    rw [copyReadPage, hc.2]
  have hfill := h.fill hread'
    (fillFirst (s.mem wr.transfer.req) (s.chains wr.transfer.req) (s.bufs wr.ctx 0))
  have hgone := hfill.flushed k
  have hothers := h.ctxs.others_ne h.seats hk hc
  have hctxs := (hgone.ctxs.settle (x := wr.ctx) (c := { s.dev.ctxs wr.ctx with
    inFlight := .idle, chunkIndex := -1, req := none }) rfl hothers).insert (x := wr.ctx)
    (fun p hfree => (h.ctxs.free p wr.ctx hfree).1 hflight)
    (mem_ctxIds.mp (h.ctxs.ctx wr hwr)).2.2
    (by simp only [setCtx, Function.update_self]; rintro ⟨⟩)
    (h.ctxs.reading wr.ctx hflight) hothers
  have hsettled := hgone.shrink hctxs (.refl _) (.refl _) (settled_ctxs s.dev wr.ctx rfl)
    ⟨rfl, rfl, rfl, rfl, rfl⟩
  have habsent := hsettled.seats.absent_held hplace
    (by simp only [insertCtx, setCtx, Function.update_self])
  have hend := hsettled.endRead (by rw [hplace]; rfl) habsent hread' (by
    dsimp only [PageStore.data]
    rw [Function.update_self, requestPage_fillFirst hone]
    exact h.wire.buffer wr hwr hc hread hex)
  have hdone := clientReadDone_eq (d := { s.dev with posted := s.dev.posted.eraseIdx k })
    (x := wr.ctx) hc.2
  rw [hdone, Option.some.injEq] at hd
  rw [hcopy, ← hd, finish_ended rfl]
  exact hend

lemma PageInv.complete {flushed : Bool} (h : PageInv cfg disk₀ place s) (hchains : ChainInv s)
    (hfit : copiesFit s (.complete k flushed)) (hsafe : s'.dev.fault = false)
    (hs : handlePageEvent cfg capacityG s (.complete k flushed) = some s') :
    ∃ place', PageInv cfg disk₀ place' s' := by
  simp only [handlePageEvent, Option.bind_eq_bind, Option.bind_eq_some_iff] at hs
  obtain ⟨wr, hk, d, hd, hs⟩ := hs
  have hdev : s'.dev = d := by
    split at hs
    · cases hs
      rfl
    · split at hs
      · cases hs
      · split at hs <;> cases hs <;> rfl
  obtain ⟨hd, -⟩ := deviceStep_safe hd (by rwa [← hdev])
  simp only [handleEvent, hk, Option.bind_eq_bind, Option.bind_some] at hd
  cases flushed with
  | true =>
    cases hd
    cases hs
    exact ⟨place, h.flushed k⟩
  | false =>
    have hc := hfit rfl wr hk
    rw [cqEvent, if_neg (by decide)] at hd
    rw [if_neg (by decide)] at hs
    split at hs
    · cases hs
    · next hex =>
      rw [Bool.not_eq_false] at hex
      split at hs
      · next hwrite =>
        rw [if_pos hwrite] at hd
        cases hd
        cases hs
        exact ⟨_, h.completeWrite hk hc hex hwrite⟩
      · next hread =>
        rw [if_neg hread] at hd
        rw [Bool.not_eq_true] at hread
        cases hs
        exact ⟨_, h.completeRead hchains hk hc hex hread hd⟩

end Completions

section Disk

variable {rest : List DiskBio}

lemma Seats.absent_disk {reqs : Nat → IoRequest} {d : Device} (h : Seats place reqs d)
    (hbios : d.bios = .request q :: rest) : Absent { d with bios := rest } q := by
  have hplace := h.disk q (by rw [hbios]; exact List.mem_cons_self)
  have hbefore := h.bios
  rw [hbios, List.pairwise_cons] at hbefore
  constructor
  · rintro v hv rfl
    rw [(h.waiting v hv).1] at hplace
    cases hplace
  · intro hmem
    exact (hbefore.1 _ hmem).request q rfl rfl
  · intro y hy hreq
    obtain ⟨q', slab, hreq', hheld, -⟩ := h.held y hy
    have hsame : some q = some q' := hreq.symm.trans hreq'
    cases hsame
    rw [hplace] at hheld
    cases hheld

lemma PageInv.mirrorDone {w : Nat} (h : PageInv cfg disk₀ place s) (hchains : ChainInv s)
    (hbios : s.dev.bios = .mirror x w :: rest) (hdone : ∀ wr ∈ s.dev.posted, wr.ctx ≠ x) :
    PageInv cfg disk₀ place { s with
      disk := Extent.write ⟨(s.reqs w).firstPage, (s.chains w).nrPhysSegments, s.bufs x⟩ s.disk
      dev := insertCtx { s.dev with bios := rest } x } := by
  have hmem : .mirror x w ∈ s.dev.bios := by
    rw [hbios]
    exact List.mem_cons_self
  rw [(hchains.mirror x w hmem).2]
  have hbefore := h.seats.bios
  rw [hbios, List.pairwise_cons] at hbefore
  have hdrop := h.dropBio hbios (diskView_cons_write rfl)
  refine hdrop.shrink (hdrop.ctxs.insert ?_ (h.ctxs.mirrored x w hmem) ?_ ?_ fun _ => hdone)
    (.refl _) (.refl _) (fun _ _ => rfl) ⟨rfl, rfl, rfl, rfl, rfl⟩
  · intro p hfree
    exact (h.ctxs.free p x hfree).2.1 w hmem
  · intro hread
    exact h.ctxs.reading x hread w hmem
  · intro w' hw'
    exact (hbefore.1 _ hw').mirror x w w' rfl rfl

lemma PageInv.diskWrite (h : PageInv cfg disk₀ place s)
    (hbios : s.dev.bios = .request q :: rest) (hwrite : (s.reqs q).write = true) :
    PageInv cfg disk₀ (Function.update place q .done) { s with
      disk := ((s.reqs q).extent (s.data q)).write s.disk
      dev := endRequest { s.dev with bios := rest } q
      history := s.history ++ [completion s q] } := by
  have hplace := h.seats.disk q (by rw [hbios]; exact List.mem_cons_self)
  have hdrop := h.dropBio hbios (diskView_cons_write (if_pos hwrite))
  refine hdrop.endWrite (by rw [hplace]; rfl) (h.seats.absent_disk hbios) hwrite
    fun p slab hrec hcovers => ?_
  have hallows := h.cache.target p slab q hrec hwrite hcovers
  rw [hplace] at hallows
  exact hallows.elim

lemma PageInv.diskRead (h : PageInv cfg disk₀ place s) (hchains : ChainInv s)
    (hbios : s.dev.bios = .request q :: rest) (hread : (s.reqs q).write = false) :
    PageInv cfg disk₀ (Function.update place q .done) (finish { s with
      mem := Function.update s.mem q
        (fillPages (s.mem q) (s.chains q) fun j => s.disk ((s.reqs q).firstPage + j)) }
      (endRequest { s.dev with bios := rest } q)) := by
  have hplace := h.seats.disk q (by rw [hbios]; exact List.mem_cons_self)
  have hopen : (place q).isOpen = true := by
    rw [hplace]
    rfl
  have hone : (s.reqs q).pages = 1 := by
    refine h.ledger.one_page q ?_ hread
    rw [hplace]
    rintro ⟨⟩
  have hcovers : (s.reqs q).covers (s.reqs q).firstPage := ⟨le_rfl, by omega⟩
  have hnone : bioExtent s.reqs s.data s.bufs (.request q) = none := by
    simp [bioExtent, hread]
  have hbefore := h.seats.bios
  rw [hbios, List.pairwise_cons] at hbefore
  have hsub : rest ⊆ s.dev.bios := by
    rw [hbios]
    exact List.subset_cons_self _ _
  -- no write behind the read covers its page, so that the page is on the disk
  have hview : s.disk (s.reqs q).firstPage = lastWritten disk₀ s.history (s.reqs q).firstPage := by
    have hrest := h.onDisk.rest _ (h.ledger.writeFree hopen hread hcovers)
    rw [hbios, diskView_cons_read hnone, diskView_of_not_covers] at hrest
    · exact hrest
    · exact fun b hb hw => (hbefore.1 b hb).read q rfl hread hw _ hcovers
    · exact fun y w hw => (h.seats.mirror y w (hsub hw)).2
  have hdrop := (h.dropBio hbios (diskView_cons_read hnone)).fill hread
    (fillPages (s.mem q) (s.chains q) fun j => s.disk ((s.reqs q).firstPage + j))
  have hend := hdrop.endRead hopen (h.seats.absent_disk hbios) hread (by
    dsimp only [PageStore.data]
    rw [Function.update_self, requestPage_fillPages
      ((hchains.pages q (h.ledger.outstanding hopen).1).trans hone)]
    exact hview)
  rw [finish_ended rfl]
  exact hend

lemma PageInv.diskDone (h : PageInv cfg disk₀ place s) (hchains : ChainInv s)
    (hfit : copiesFit s .diskDone) (hsafe : s'.dev.fault = false)
    (hs : handlePageEvent cfg capacityG s .diskDone = some s') :
    ∃ place', PageInv cfg disk₀ place' s' := by
  simp only [handlePageEvent, Option.bind_eq_bind, Option.bind_eq_some_iff,
    Option.some.injEq] at hs
  obtain ⟨bio, hbio, d, hd, rfl⟩ := hs
  obtain ⟨hd, -⟩ := deviceStep_safe hd hsafe
  simp only [handleEvent, Option.bind_eq_bind, Option.bind_eq_some_iff, Option.some.injEq] at hd
  obtain ⟨bio', hbio', rfl⟩ := hd
  rw [hbio, Option.some.injEq] at hbio'
  subst hbio'
  obtain ⟨rest, hbios⟩ : ∃ rest, s.dev.bios = bio :: rest := by
    cases hb : s.dev.bios with
    | nil =>
      rw [hb] at hbio
      cases hbio
    | cons b rest =>
      rw [hb] at hbio
      cases hbio
      exact ⟨rest, rfl⟩
  have herase : s.dev.bios.eraseIdx 0 = rest := by
    rw [hbios]
    rfl
  rw [herase]
  cases bio with
  | mirror x w =>
    have hended : (endIo { s.dev with bios := rest } (.mirror x w)).ended =
        (executeBio s (.mirror x w)).dev.ended := rfl
    rw [finish_same hended]
    exact ⟨place, h.mirrorDone hchains hbios fun wr hwr => hfit x w (by rw [hbios]; rfl) wr hwr⟩
  | request q =>
    cases hwrite : (s.reqs q).write with
    | true =>
      have hexec : executeBio s (.request q) =
          { s with disk := ((s.reqs q).extent (s.data q)).write s.disk } := if_pos hwrite
      rw [hexec, endIo, finish_ended rfl]
      exact ⟨_, h.diskWrite hbios hwrite⟩
    | false =>
      have hexec : executeBio s (.request q) = { s with
          mem := Function.update s.mem q
            (fillPages (s.mem q) (s.chains q) fun j => s.disk ((s.reqs q).firstPage + j)) } :=
        if_neg (by rw [hwrite]; decide)
      rw [hexec, endIo]
      exact ⟨_, h.diskRead hchains hbios hwrite⟩

end Disk

section Servers

lemma PageInv.tables (h : PageInv cfg disk₀ place s) {t : ChunkTables} (remaps : Nat → List Nat)
    (hroutes : RouteInv cfg.maxMr s.bound s.failed s.dev.drains s.dev.scans t)
    (hmap : ∀ c i, (t.cbs c).chunkMap i = -1 → (s.dev.tables.cbs c).chunkMap i = -1)
    (hrec : ∀ p slab, PageRecorded t p slab → PageRecorded s.dev.tables p slab) :
    PageInv cfg disk₀ place { s with
      dev := { s.dev with tables := t }
      remaps := remaps } :=
  h.control (d := { s.dev with tables := t }) remaps ⟨rfl, rfl, rfl, rfl, rfl, rfl⟩
    (fun _ hup => hup) hroutes
    (h.pass.frame (fun c _ hk hup => ⟨hk, hup, hmap c⟩) (fun _ hv => .inl hv)
      fun _ _ => .inl rfl)
    (h.bounds.shrink (fun _ hv => hv) (fun _ hup => hup) fun _ _ _ => rfl) hrec

lemma PageInv.connect (h : PageInv cfg disk₀ place s)
    (hs : handlePageEvent cfg capacityG s (.connect c) = some s') : PageInv cfg disk₀ place s' := by
  simp only [handlePageEvent] at hs
  split at hs
  · next hidle =>
    cases hs
    refine h.tables s.remaps (h.routes.session rfl rfl fun c' hmapped => ?_) (fun _ _ hi => hi)
      fun _ _ hp => hp
    dsimp only
    rw [Function.update_of_ne]
    · exact hmapped
    · rintro rfl
      rw [hidle] at hmapped
      cases hmapped
  · cases hs

lemma PageInv.bind {msg : Message} {content : Nat → α} (h : PageInv cfg disk₀ place s)
    (henv : pageEnv cfg capacityG s (.bind c msg content))
    (hs : handlePageEvent cfg capacityG s (.bind c msg content) = some s') :
    PageInv cfg disk₀ place s' := by
  obtain ⟨hup, hchunk, -, hfree⟩ := henv
  simp only [handlePageEvent] at hs
  cases hmsg : grantedSlab cfg.maxMr msg with
  | none =>
    rw [hmsg] at hs
    cases hs
    refine h.tables s.remaps (h.routes.bind_refused hmsg) (fun c' i hi => ?_) fun p slab hp => ?_
    · rwa [(recvInfoSingle_refused s.dev.tables c hmsg).chunk] at hi
    · exact (shrinks_refused s.dev.tables c hmsg).recorded hp
  | some i =>
    rw [hmsg] at hs
    cases hs
    have hfree := hfree i hmsg
    have hto := recvInfoSingle_boundTo s.dev.tables c hmsg
    refine (h.overwrite hfree content).control
      (d := { s.dev with tables := recvInfoSingle cfg.maxMr s.dev.tables c msg }) s.remaps
      ⟨rfl, rfl, rfl, rfl, rfl, rfl⟩ (fun _ hup' => hup')
      (h.routes.bind hmsg hup hchunk hfree) ?_ ?_ fun p slab hp => ?_
    · refine h.pass.frame (fun c' k hk hup' => ⟨hk, hup', fun j hj => ?_⟩) (fun _ hv => .inl hv)
        fun _ _ => .inl rfl
      dsimp only at hj
      rw [hto.chunk] at hj
      split at hj
      · omega
      · exact hj
    · refine h.bounds.shrink (fun _ hv => hv) (fun _ hup' => hup') fun tr htr hlive => ?_
      rw [Function.update_of_ne]
      intro he
      have hbound := h.bounds tr htr hlive
      rw [he, hfree] at hbound
      cases hbound
    · exact (h.routes.recorded_bind hmsg hfree hp).1

lemma clientRecvStop_marks {maxMr : Nat} {cb : ControlBlock}
    (hsize : (clientRecvStop maxMr cb).shrinkSizeG ≠ 0) :
    (clientRecvStop maxMr cb).chunkList = cb.chunkList ∧
      ∀ i ∈ markedSlabs maxMr (clientRecvStop maxMr cb), i < maxMr ∧ cb.recvBuf.rkey i ≠ 0 := by
  have hne : cb.recvBuf.sizeGb ≠ 0 := by
    intro hzero
    rw [clientRecvStop, if_pos hzero] at hsize
    exact hsize rfl
  constructor
  · rw [clientRecvStop, if_neg hne]
  · intro i hi
    rw [markedSlabs_stop hne] at hi
    simpa [grantedSlabs] using hi

lemma PageInv.unmap {stop : Message} (h : PageInv cfg disk₀ place s)
    (henv : pageEnv cfg capacityG s (.unmap c stop)) (hsafe : s'.dev.fault = false)
    (hs : handlePageEvent cfg capacityG s (.unmap c stop) = some s') :
    PageInv cfg disk₀ place s' := by
  simp only [handlePageEvent] at hs
  split at hs
  · obtain ⟨d, hd, rfl⟩ := Option.map_eq_some_iff.mp hs
    obtain ⟨hd, -⟩ := deviceStep_safe hd hsafe
    simp only [handleEvent] at hd
    split at hd
    · next hstop =>
      cases hd
      obtain ⟨hlist, hmarked⟩ := clientRecvStop_marks hstop.2
      refine h.control (d := { s.dev with
        tables := unmappedTables cfg.maxMr s.dev.tables c (clientRecvStop cfg.maxMr
          { s.dev.tables.cbs c with recvBuf := stop, state := .recvStop })
        drains := Function.update s.dev.drains c (some 0) }) _
        ⟨rfl, rfl, rfl, rfl, rfl, rfl⟩ (fun _ hup => hup)
        (h.routes.unmap (clientRecvStop_chunkMap ..).1 hlist fun i hi =>
          henv i (hmarked i hi).1 (hmarked i hi).2)
        ?_ (h.bounds.shrink (fun _ hv => hv) (fun _ hup => hup) fun _ _ _ => rfl)
        fun p slab hp => (shrinks_unmap hlist).recorded hp
      refine h.pass.frame (fun c' k hk hup => ?_) (fun _ hv => .inl hv) fun _ _ => .inl rfl
      dsimp only at hk
      have hcc : c' ≠ c := by
        rintro rfl
        rw [Function.update_self] at hk
        cases hk
      rw [Function.update_of_ne hcc] at hk
      refine ⟨hk, hup, fun i hi => ?_⟩
      dsimp only [unmappedTables] at hi
      rwa [Function.update_of_ne hcc] at hi
    · cases hd
  · cases hs

lemma PageInv.drain (h : PageInv cfg disk₀ place s) (hfit : copiesFit s (.drain c))
    (hsafe : s'.dev.fault = false)
    (hs : handlePageEvent cfg capacityG s (.drain c) = some s') :
    PageInv cfg disk₀ place s' := by
  simp only [handlePageEvent] at hs
  obtain ⟨d, hd, rfl⟩ := Option.map_eq_some_iff.mp hs
  obtain ⟨hd, -⟩ := deviceStep_safe hd hsafe
  simp only [handleEvent, Option.bind_eq_bind, Option.bind_eq_some_iff, Option.some.injEq] at hd
  obtain ⟨k, hk, x, hx, rfl⟩ := hd
  have hdrains : s.dev.drains c ≠ none := by
    rw [hk]
    rintro ⟨⟩
  exact h.control (d := { s.dev with
    drains := Function.update s.dev.drains c (some (if drainWaits s.dev x then 0 else k + 1)) })
    s.remaps ⟨rfl, rfl, rfl, rfl, rfl, rfl⟩
    (fun _ hup => hup) (h.routes.drain hdrains _) (h.pass.drain hk hx hfit)
    (h.bounds.shrink (fun _ hv => hv) (fun _ hup => hup) fun _ _ _ => rfl) fun _ _ hp => hp

lemma PageInv.undrained (h : PageInv cfg disk₀ place s) {tr : Transfer}
    (hend : s.dev.drains c = some (ctxIds cfg c).length) (htr : InHand s.dev tr)
    (hlive : Live cfg s.failed tr.cb) :
    ¬(tr.cb = c ∧ tr.chunkIndex < cfg.maxMr ∧
      (s.dev.tables.cbs c).sendBuf.rkey tr.chunkIndex ≠ 0) := by
  rintro ⟨rfl, hi, hrkey⟩
  have hdrains : s.dev.drains tr.cb ≠ none := by
    rw [hend]
    rintro ⟨⟩
  have hunmapped := (h.routes.flagged tr.cb hdrains tr.chunkIndex hi hrkey).1
  obtain ⟨hwait, hpassed⟩ := h.pass.finished hend hlive.1 hlive.2
  rcases htr with hmem | ⟨y, hy⟩
  · exact hwait tr hmem rfl hunmapped
  · have hctx := h.ctxs.ctx _ hy
    have hc := h.ctxs.carries _ hy hlive.1
    have hwaits : drainWaits s.dev y = true := by
      refine drainWaits_iff.mpr ⟨hc.1, ?_⟩
      rw [(h.ctxs.fields _ hy hc).chunkIndex, Int.toNat_natCast, (mem_ctxIds.mp hctx).1]
      exact hunmapped
    rw [hpassed y hctx] at hwaits
    cases hwaits

lemma PageInv.sendDone (h : PageInv cfg disk₀ place s) (hsafe : s'.dev.fault = false)
    (hs : handlePageEvent cfg capacityG s (.sendDone c) = some s') :
    PageInv cfg disk₀ place s' := by
  simp only [handlePageEvent] at hs
  obtain ⟨d, hd, rfl⟩ := Option.map_eq_some_iff.mp hs
  obtain ⟨hd, -⟩ := deviceStep_safe hd hsafe
  simp only [handleEvent] at hd
  split at hd
  · next hend =>
    cases hd
    have hdrains : s.dev.drains c ≠ none := by
      rw [hend]
      rintro ⟨⟩
    refine h.control (d := { s.dev with
      tables := doneTables cfg.maxMr s.dev.tables c (s.dev.tables.cbs c).shrinkSizeG
      drains := Function.update s.dev.drains c none
      evicted := _ }) s.remaps ⟨rfl, rfl, rfl, rfl, rfl, rfl⟩ (fun _ hup => hup)
      (h.routes.sendDone hdrains _) ?_ ?_ fun p slab hp => (shrinks_done ..).recorded hp
    · refine h.pass.frame (fun c' k hk hup => ?_) (fun _ hv => .inl hv) fun _ _ => .inl rfl
      dsimp only at hk
      have hcc : c' ≠ c := by
        rintro rfl
        rw [Function.update_self] at hk
        cases hk
      rw [Function.update_of_ne hcc] at hk
      dsimp only
      rw [doneTables_chunkMap]
      exact ⟨hk, hup, fun _ hi => hi⟩
    · exact h.bounds.shrink (fun _ hv => hv) (fun _ hup => hup) fun tr htr hlive =>
        if_neg (h.undrained hend htr hlive)
  · cases hd

lemma PageInv.remap (h : PageInv cfg disk₀ place s)
    (hs : handlePageEvent cfg capacityG s (.remap c) = some s') : PageInv cfg disk₀ place s' := by
  simp only [handlePageEvent] at hs
  split at hs
  · split at hs
    · cases hs
    · next g rest _ =>
      cases hs
      exact h.tables _ (h.routes.forgetChunk g) (fun _ _ hi => hi)
        fun p slab hp => (shrinks_forgetChunk s.dev.tables g).recorded hp
  · cases hs

lemma PageInv.loseServer (h : PageInv cfg disk₀ place s) {t : ChunkTables}
    {scans : Nat → Option Nat} (hs : Shrinks s.dev.tables t)
    (hmap : ∀ c, (t.cbs c).chunkMap = (s.dev.tables.cbs c).chunkMap)
    (hroutes : RouteInv cfg.maxMr (lostBound c s.bound) (Function.update s.failed c true)
      s.dev.drains scans t) :
    PageInv cfg disk₀ place { s with
      dev := { s.dev with tables := t, scans := scans }
      bound := lostBound c s.bound
      failed := Function.update s.failed c true } := by
  have hup : ∀ c', Function.update s.failed c true c' = false → c' ≠ c ∧ s.failed c' = false := by
    intro c' hc'
    have hcc : c' ≠ c := by
      rintro rfl
      rw [Function.update_self] at hc'
      cases hc'
    rw [Function.update_of_ne hcc] at hc'
    exact ⟨hcc, hc'⟩
  refine h.control (d := { s.dev with tables := t, scans := scans }) s.remaps
    ⟨rfl, rfl, rfl, rfl, rfl, rfl⟩ (fun c' hc' => (hup c' hc').2) hroutes ?_ ?_
    fun p slab hp => hs.recorded hp
  · refine h.pass.frame (fun c' k hk hc' => ⟨hk, (hup c' hc').2, fun i hi => ?_⟩)
      (fun _ hv => .inl hv) fun _ _ => .inl rfl
    rwa [← hmap]
  · exact h.bounds.shrink (fun _ hv => hv) (fun c' hc' => (hup c' hc').2)
      fun tr _ hlive => if_neg (hup _ hlive.1).1

lemma PageInv.disconnect (h : PageInv cfg disk₀ place s) (hsafe : s'.dev.fault = false)
    (hs : handlePageEvent cfg capacityG s (.disconnect c) = some s') :
    PageInv cfg disk₀ place s' := by
  simp only [handlePageEvent] at hs
  obtain ⟨d, hd, rfl⟩ := Option.map_eq_some_iff.mp hs
  obtain ⟨hd, -⟩ := deviceStep_safe hd hsafe
  simp only [handleEvent] at hd
  split at hd
  · cases hd
  · split at hd
    · next hconnected =>
      cases hd
      exact h.loseServer (.of_eq rfl rfl fun _ => rfl) (fun _ => rfl)
        (h.routes.disconnect_connected hconnected)
    · cases hd
      refine h.loseServer (shrinks_disallowChunks ..) (fun c' => ?_) h.routes.disconnect
      apply update_field ControlBlock.chunkMap
      rfl

lemma PageInv.forget (h : PageInv cfg disk₀ place s) (hsafe : s'.dev.fault = false)
    (hs : handlePageEvent cfg capacityG s (.forget c) = some s') :
    PageInv cfg disk₀ place s' := by
  simp only [handlePageEvent] at hs
  obtain ⟨d, hd, rfl⟩ := Option.map_eq_some_iff.mp hs
  obtain ⟨hd, -⟩ := deviceStep_safe hd hsafe
  simp only [handleEvent] at hd
  split at hd
  · next hend =>
    cases hd
    have hscans : s.dev.scans c ≠ none := by
      rw [hend]
      rintro ⟨⟩
    have hfailed := h.routes.scans c hscans
    refine h.control (d := { s.dev with
      tables := forgetServer cfg.maxMr c s.dev.tables
      scans := Function.update s.dev.scans c none
      freed := Function.update s.dev.freed c true }) s.remaps ⟨rfl, rfl, rfl, rfl, rfl, rfl⟩
      (fun _ hup => hup) (h.routes.forget hscans) ?_
      (h.bounds.shrink (fun _ hv => hv) (fun _ hup => hup) fun _ _ _ => rfl)
      fun p slab hp => (shrinks_forgetServer ..).recorded hp
    refine h.pass.frame (fun c' k hk hup => ⟨hk, hup, fun i hi => ?_⟩) (fun _ hv => .inl hv)
      fun _ _ => .inl rfl
    have hcc : c' ≠ c := by
      rintro rfl
      rw [hfailed] at hup
      cases hup
    dsimp only [forgetServer] at hi
    rwa [Function.update_of_ne hcc] at hi
  · cases hd

end Servers

section Scan

lemma PageInv.nextScan (h : PageInv cfg disk₀ place s) (hc : s.dev.scans c ≠ none)
    (o : Option Nat) :
    PageInv cfg disk₀ place { s with
      dev := { s.dev with scans := Function.update s.dev.scans c o } } :=
  h.control (d := { s.dev with scans := Function.update s.dev.scans c o }) s.remaps
    ⟨rfl, rfl, rfl, rfl, rfl, rfl⟩ (fun _ hup => hup) (h.routes.scan hc o)
    (h.pass.frame (fun _ _ hk hup => ⟨hk, hup, fun _ hi => hi⟩) (fun _ hv => .inl hv)
      fun _ _ => .inl rfl)
    (h.bounds.shrink (fun _ hv => hv) (fun _ hup => hup) fun _ _ _ => rfl) fun _ _ hp => hp

lemma flightOf_read {write : Bool} (h : InFlight.read = flightOf write) : write = false := by
  cases write with
  | true => cases h
  | false => rfl

lemma flightOf_write {write : Bool} (h : InFlight.write = flightOf write) : write = true := by
  cases write with
  | true => rfl
  | false => cases h

lemma PageInv.scanRead (h : PageInv cfg disk₀ place s) (hx : x ∈ ctxIds cfg c)
    (hfailed : s.failed c = true) (hflight : (s.dev.ctxs x).inFlight = .read)
    (hreq : (s.dev.ctxs x).req = some q) :
    ∃ place', PageInv cfg disk₀ place' { s with
      dev := requestStackbd (insertCtx (setCtx s.dev x { s.dev.ctxs x with inFlight := .idle }) x)
        q } := by
  obtain ⟨hcb, -, hslot⟩ := mem_ctxIds.mp hx
  obtain ⟨q', slab, hreq', hplace, hdir, -⟩ := h.seats.held x (by rw [hflight]; rintro ⟨⟩)
  rw [hreq, Option.some.injEq] at hreq'
  subst hreq'
  rw [hflight] at hdir
  have hread := flightOf_read hdir
  have hlost : ∀ {P : Prop}, s.failed x.cb = false → P := by
    intro P hup
    rw [hcb, hfailed] at hup
    cases hup
  have hctxs := (h.ctxs.settle (x := x) (c := { s.dev.ctxs x with inFlight := .idle }) rfl
    fun hup => hlost hup).insert (x := x) (fun p hfree => (h.ctxs.free p x hfree).1 hflight) hslot
    (by simp only [setCtx, Function.update_self]; rintro ⟨⟩) (h.ctxs.reading x hflight)
    fun hup => hlost hup
  have hsettled := h.shrink hctxs (.refl _) (.refl _) (settled_ctxs s.dev x rfl)
    ⟨rfl, rfl, rfl, rfl, rfl⟩
  have habsent := hsettled.seats.absent_held hplace
    (by simp only [insertCtx, setCtx, Function.update_self])
  have hmoved := hsettled.lose (by rw [hplace]; rfl) habsent
  refine ⟨_, hmoved.toDisk (Function.update_self ..) fun hwrite => ?_⟩
  dsimp only at hwrite
  rw [hread] at hwrite
  cases hwrite

lemma PageInv.scanWrite (h : PageInv cfg disk₀ place s) (hx : x ∈ ctxIds cfg c)
    (hfailed : s.failed c = true) (hflight : (s.dev.ctxs x).inFlight = .write)
    (hreq : (s.dev.ctxs x).req = some q) :
    ∃ place', PageInv cfg disk₀ place' { s with
      dev := endRequest (setCtx s.dev x { s.dev.ctxs x with inFlight := .idle }) q
      history := s.history ++ [completion s q] } := by
  have hcb := (mem_ctxIds.mp hx).1
  obtain ⟨q', slab, hreq', hplace, hdir, hslab⟩ := h.seats.held x (by rw [hflight]; rintro ⟨⟩)
  rw [hreq, Option.some.injEq] at hreq'
  subst hreq'
  rw [hflight] at hdir
  have hwrite := flightOf_write hdir
  have hctxs := h.ctxs.settle (x := x) (c := { s.dev.ctxs x with inFlight := .idle }) rfl fun hup => by
    rw [hcb, hfailed] at hup
    cases hup
  have hsettled := h.shrink hctxs (.refl _) (.refl _) (settled_ctxs s.dev x rfl)
    ⟨rfl, rfl, rfl, rfl, rfl⟩
  have habsent := hsettled.seats.absent_held hplace (by simp only [setCtx, Function.update_self])
  refine ⟨_, hsettled.endWrite (by rw [hplace]; rfl) habsent hwrite fun p slab' hrec hcovers => ?_⟩
  -- no page is recorded in a slab of the lost server
  have hallows := h.cache.target p slab' q hrec hwrite hcovers
  rw [hplace] at hallows
  have htarget : slab = slab' := hallows
  have hup := (h.routes.route _ _ hrec.1).up
  rw [← htarget, hslab, hcb, hfailed] at hup
  cases hup

lemma scanCtx_write {d : Device} (hflight : (d.ctxs x).inFlight = .write)
    (hreq : (d.ctxs x).req = some q) :
    scanCtx d x = some (endRequest (setCtx d x { d.ctxs x with inFlight := .idle }) q) := by
  simp only [scanCtx, hflight, hreq]

lemma PageInv.scan (h : PageInv cfg disk₀ place s) (hsafe : s'.dev.fault = false)
    (hs : handlePageEvent cfg capacityG s (.scan c) = some s') :
    ∃ place', PageInv cfg disk₀ place' s' := by
  simp only [handlePageEvent] at hs
  obtain ⟨d, hd, rfl⟩ := Option.map_eq_some_iff.mp hs
  obtain ⟨hd, -⟩ := deviceStep_safe hd hsafe
  simp only [handleEvent, Option.bind_eq_bind, Option.bind_eq_some_iff] at hd
  obtain ⟨k, hk, x, hx, hd⟩ := hd
  have hscans : s.dev.scans c ≠ none := by
    rw [hk]
    rintro ⟨⟩
  have hnext := h.nextScan hscans (some (k + 1))
  have hfailed := h.routes.scans c hscans
  have hmem := List.mem_of_getElem? hx
  cases hflight : (s.dev.ctxs x).inFlight with
  | idle =>
    simp only [scanCtx, hflight, Option.some.injEq] at hd
    have hended : d.ended = s.dev.ended := by rw [← hd]
    rw [finish_same hended, ← hd]
    exact ⟨place, hnext⟩
  | read =>
    simp only [scanCtx, hflight, Option.map_eq_some_iff] at hd
    obtain ⟨q, hreq, hd⟩ := hd
    have hended : d.ended = s.dev.ended := by
      rw [← hd]
      rfl
    rw [finish_same hended, ← hd]
    exact hnext.scanRead hmem hfailed hflight hreq
  | write =>
    obtain ⟨q, -, hreq, -⟩ := h.seats.held x (by rw [hflight]; rintro ⟨⟩)
    rw [scanCtx_write (q := q), Option.some.injEq] at hd
    · have hended : d.ended = s.dev.ended ++ [q] := by
        rw [← hd]
        rfl
      rw [finish_ended hended, ← hd]
      exact hnext.scanWrite hmem hfailed hflight hreq
    · exact hflight
    · exact hreq

end Scan

section Runs

lemma PageInv.step {e : PageEvent α} (h : PageInv cfg disk₀ place s) (hchains : ChainInv s)
    (hsize : capacityG < 2 ^ 31) (henv : pageEnv cfg capacityG s e) (hfit : copiesFit s e)
    (hsafe : s'.dev.fault = false) (hs : handlePageEvent cfg capacityG s e = some s') :
    ∃ place', PageInv cfg disk₀ place' s' := by
  cases e with
  | route r req mem => exact h.route hsize henv hfit hsafe hs
  | post k queue => exact h.post hchains hfit hsafe hs
  | transfer k => exact ⟨place, h.transfer henv hs⟩
  | complete k flushed => exact h.complete hchains hfit hsafe hs
  | diskDone => exact h.diskDone hchains hfit hsafe hs
  | connect c => exact ⟨place, h.connect hs⟩
  | bind c msg content => exact ⟨place, h.bind henv hs⟩
  | mapped =>
    cases hs
    exact ⟨place, h.tables s.remaps (h.routes.session rfl rfl fun _ hc => hc) (fun _ _ hi => hi)
      fun _ _ hp => hp⟩
  | unmap c stop => exact ⟨place, h.unmap henv hsafe hs⟩
  | drain c => exact ⟨place, h.drain hfit hsafe hs⟩
  | sendDone c => exact ⟨place, h.sendDone hsafe hs⟩
  | remap c => exact ⟨place, h.remap hs⟩
  | disconnect c => exact ⟨place, h.disconnect hsafe hs⟩
  | scan c => exact h.scan hsafe hs
  | forget c => exact ⟨place, h.forget hsafe hs⟩
  | foreign slab page content =>
    cases hs
    exact ⟨place, h.overwrite henv _⟩

end Runs

end DisStore.Proofs
