import DisStore.Lib.Count
import DisStore.Proofs.PageCopies

/-!
# The moves of the page store

The invariant of the page store is kept by the moves from which its steps are put together: a
request arrives, changes its place and ends; a context is taken, settled and returned; a work
request or a bio is executed; the tables change.
-/

namespace DisStore.Proofs
open DisStore DisStore.Lib

variable {α : Type}

/-- `disk₀` is what the disk held at the beginning. -/
structure PageInv (cfg : DeviceCfg) (disk₀ : Nat → α) (place : Nat → Place) (s : PageStore α) :
    Prop where
  ledger : Ledger place s.submitted s.reqs s.dev.ended
  seats : Seats place s.reqs s.dev
  ctxs : CtxInv cfg s.failed s.dev
  routes : RouteInv cfg.maxMr s.bound s.failed s.dev.drains s.dev.scans s.dev.tables
  pass : PassInv cfg s.failed s.dev
  bounds : BoundInv cfg s.reqs s.bound s.failed s.dev
  onDisk : DiskInv place s.reqs s.data (diskView s.reqs s.data s.bufs s.dev.bios s.disk)
    (lastWritten disk₀ s.history)
  cache : CacheInv place s.reqs (PageRecorded s.dev.tables) s.slabs (lastWritten disk₀ s.history)
  wire : WireInv cfg s.reqs s.data s.bufs s.slabs s.executed s.failed (lastWritten disk₀ s.history)
    s.dev
  reads : ReadsItsWrites disk₀ s.history

/-- The device keeps its tables, the queue of the disk and the ended requests. -/
structure SameRest (d d' : Device) : Prop where
  tables : d'.tables = d.tables
  bios : d'.bios = d.bios
  ended : d'.ended = d.ended
  drains : d'.drains = d.drains
  scans : d'.scans = d.scans

/-- The device keeps its requests and contexts. -/
structure SameTraffic (d d' : Device) : Prop where
  pools : d'.pools = d.pools
  ctxs : d'.ctxs = d.ctxs
  waiting : d'.waiting = d.waiting
  posted : d'.posted = d.posted
  bios : d'.bios = d.bios
  ended : d'.ended = d.ended

variable {cfg : DeviceCfg} {disk₀ : Nat → α} {place : Nat → Place} {s : PageStore α} {d : Device}
  {r : IoRequest} {q k : Nat} {x : CtxId} {tr : Transfer} {wr : WorkRequest} {slab : Nat × Nat}

lemma data_update {s' : PageStore α} {req : Request} {mem : Nat → Nat → α}
    (hchains : s'.chains = Function.update s.chains q req)
    (hmem : s'.mem = Function.update s.mem q mem) :
    s'.data = Function.update s.data q (requestPage mem req) := by
  funext w
  unfold PageStore.data
  rw [hchains, hmem]
  by_cases hw : w = q
  · rw [hw, Function.update_self, Function.update_self, Function.update_self]
  · rw [Function.update_of_ne hw, Function.update_of_ne hw, Function.update_of_ne hw]

section Places

lemma PageInv.arrive (h : PageInv cfg disk₀ place s) (req : Request) (mem : Nat → Nat → α)
    (hread : r.write = false → r.pages = 1)
    (hapart : ∀ q p, (place q).isOpen = true → (s.reqs q).covers p → ¬r.covers p) :
    PageInv cfg disk₀ (Function.update place s.submitted .lost) { s with
      submitted := s.submitted + 1
      reqs := Function.update s.reqs s.submitted r
      chains := Function.update s.chains s.submitted req
      mem := Function.update s.mem s.submitted mem } := by
  have hnew : place s.submitted = .new := (h.ledger.new _).mpr le_rfl
  have hclosed : (place s.submitted).isOpen = false := by
    rw [hnew]
    rfl
  have hhand : ∀ tr, InHand s.dev tr → tr.req ≠ s.submitted := by
    rintro tr (hwait | ⟨y, hy⟩) he
    · rw [← he, (h.seats.waiting tr hwait).1] at hnew
      cases hnew
    · have hpast := (h.seats.posted _ hy).1
      dsimp only at hpast
      rw [he, hnew] at hpast
      cases hpast
  refine ⟨h.ledger.arrive hread hapart, h.seats.arrive hnew, h.ctxs, h.routes, h.pass, ?_, ?_,
    h.cache.arrive hclosed, ?_, h.reads⟩
  · intro tr htr hlive
    dsimp only
    rw [Function.update_of_ne (hhand tr htr)]
    exact h.bounds tr htr hlive
  · dsimp only
    rw [data_update rfl rfl, diskView_congr]
    · exact h.onDisk.arrive hclosed
    · intro b hb
      have hne : DiskBio.req b ≠ s.submitted := by
        intro he
        have hplace : place (DiskBio.req b) = .new := he ▸ hnew
        cases b with
        | mirror y w => exact (h.seats.mirror y w hb).1 hplace
        | request w =>
          rw [DiskBio.req, h.seats.disk w hb] at hplace
          cases hplace
      cases b with
      | mirror y w =>
        have hw : w ≠ s.submitted := hne
        simp only [bioExtent]
        rw [Function.update_of_ne hw]
      | request w =>
        have hw : w ≠ s.submitted := hne
        simp only [bioExtent]
        rw [Function.update_of_ne hw, Function.update_of_ne hw]
  · rw [data_update rfl rfl]
    exact h.wire.arrive hhand

lemma PageInv.lose (h : PageInv cfg disk₀ place s) (hq : (place q).isOpen = true)
    (ha : Absent s.dev q) : PageInv cfg disk₀ (Function.update place q .lost) s := by
  refine ⟨h.ledger.move hq rfl, h.seats.reseat ha ?_ (.inl rfl), h.ctxs, h.routes, h.pass,
    h.bounds, h.onDisk.move hq ?_, h.cache.move hq fun _ _ _ _ _ => trivial, h.wire, h.reads⟩
  · rintro ⟨⟩
  · rintro - ⟨⟩

lemma PageInv.shrink (h : PageInv cfg disk₀ place s) (hctx : CtxInv cfg s.failed d)
    (hwaiting : d.waiting.Sublist s.dev.waiting) (hposted : d.posted.Sublist s.dev.posted)
    (hctxs : ∀ x, (d.ctxs x).inFlight ≠ .idle → d.ctxs x = s.dev.ctxs x)
    (hrest : SameRest s.dev d) : PageInv cfg disk₀ place { s with dev := d } := by
  obtain ⟨htables, hbios, hended, hdrains, hscans⟩ := hrest
  have hcarries : ∀ wr ∈ d.posted, Carries d wr → Carries s.dev wr := by
    rintro wr - hc
    have hsame := hctxs wr.ctx hc.1
    unfold Carries at hc ⊢
    rwa [hsame] at hc
  have hhand : ∀ tr, InHand d tr → InHand s.dev tr := by
    rintro tr (hwait | ⟨y, hy⟩)
    · exact .inl (hwaiting.subset hwait)
    · exact .inr ⟨y, hposted.subset hy⟩
  constructor
  · dsimp only
    rw [hended]
    exact h.ledger
  · exact h.seats.shrink hwaiting (by rw [hbios]) hposted hctxs
  · exact hctx
  · dsimp only
    rw [htables, hdrains, hscans]
    exact h.routes
  · refine h.pass.frame (fun c k hk hup => ?_) (fun tr htr => .inl (hwaiting.subset htr))
      fun x hx => .inl (hctxs x hx)
    rw [hdrains] at hk
    rw [htables]
    exact ⟨hk, hup, fun _ hi => hi⟩
  · exact h.bounds.shrink hhand (fun _ hup => hup) fun _ _ _ => rfl
  · dsimp only
    rw [hbios]
    exact h.onDisk
  · dsimp only
    rw [htables]
    exact h.cache
  · exact h.wire.shrink (fun tr htr => hwaiting.subset htr) (fun wr hwr => hposted.subset hwr)
      hcarries fun _ hup => hup
  · exact h.reads

/-- A lost request begins to wait for a context: its slab is bound, a read finds its page. -/
lemma PageInv.wait (h : PageInv cfg disk₀ place s) (tr : Transfer) (hq : place tr.req = .lost)
    (htransfer : TransferOf (s.reqs tr.req) tr)
    (hposted : ∀ wr ∈ s.dev.posted, wr.transfer.req ≠ tr.req)
    (hroute : RoutesTo s.dev.tables ((s.reqs tr.req).firstPage / 262144 : Nat) (transferSlab tr))
    (hread : tr.write = false →
      PageRecorded s.dev.tables (s.reqs tr.req).firstPage (transferSlab tr)) :
    PageInv cfg disk₀ (Function.update place tr.req (.waiting (transferSlab tr))) { s with
      dev := { s.dev with waiting := s.dev.waiting ++ [tr] } } := by
  have hopen : (place tr.req).isOpen = true := by
    rw [hq]
    rfl
  have hon := h.routes.route _ _ hroute
  refine ⟨h.ledger.move hopen rfl, h.seats.wait hq htransfer hposted,
    h.ctxs.shrink rfl rfl (fun _ _ hw => hw) (fun _ hwr => hwr) fun _ hup => hup, h.routes, ?_, ?_,
    h.onDisk.move hopen ?_, h.cache.move hopen ?_, h.wire.wait ?_, h.reads⟩
  · refine h.pass.frame (fun c k hk hup => ⟨hk, hup, fun _ hi => hi⟩) (fun v hv => ?_)
      fun _ _ => .inl rfl
    rcases List.mem_append.mp hv with hold | hnew
    · exact .inl hold
    · right
      rw [List.mem_singleton.mp hnew]
      have hmap := hon.chunkMap
      have hchunk := hon.chunk
      dsimp only [transferSlab] at hmap ⊢
      omega
  · rintro v (hwait | hpost) hlive
    · rcases List.mem_append.mp hwait with hold | hnew
      · exact h.bounds v (.inl hold) hlive
      · rw [List.mem_singleton.mp hnew]
        exact hon.bound
    · exact h.bounds v (.inr hpost) hlive
  · rintro - ⟨⟩
  · intro _ p slab hrec hp
    have hsame := hrec.1
    rw [(htransfer.page hp).1] at hsame
    exact hroute.unique hsame
  · intro hrd
    have hrd' : (s.reqs tr.req).write = false := by
      rw [← htransfer.write, hrd]
    have hone : (s.reqs tr.req).pages = 1 := by
      refine h.ledger.one_page tr.req ?_ hrd'
      rw [hq]
      rintro ⟨⟩
    have hfresh := h.cache.fresh _ _ (hread hrd)
      (h.ledger.writeFree hopen hrd' ⟨le_rfl, by omega⟩)
    rwa [← htransfer.offset] at hfresh

lemma PageInv.toDisk (h : PageInv cfg disk₀ place s) (hq : place q = .lost)
    (hrec : (s.reqs q).write = true → ∀ p slab, (s.reqs q).covers p →
      ¬PageRecorded s.dev.tables p slab) :
    PageInv cfg disk₀ (Function.update place q .disk) { s with
      dev := requestStackbd s.dev q } := by
  have hopen : (place q).isOpen = true := by
    rw [hq]
    rfl
  refine ⟨h.ledger.move hopen rfl, h.seats.enqueue h.ledger hq,
    h.ctxs.shrink rfl rfl (fun y w hw => ?_) (fun _ hwr => hwr) fun _ hup => hup, h.routes,
    h.pass.frame (fun c k hk hup => ⟨hk, hup, fun _ hi => hi⟩) (fun _ hv => .inl hv)
      fun _ _ => .inl rfl,
    h.bounds.shrink (fun _ hv => hv) (fun _ hup => hup) fun _ _ _ => rfl, ?_,
    h.cache.move hopen fun hwrite p slab hp hcovers => hrec hwrite p slab hcovers hp,
    h.wire.shrink (fun _ hv => hv) (fun _ hwr => hwr) (fun _ _ hc => hc) fun _ hup => hup, h.reads⟩
  · rcases List.mem_append.mp hw with hold | hnew
    · exact hold
    · cases List.mem_singleton.mp hnew
  · change DiskInv _ _ s.data (diskView _ s.data _ (s.dev.bios ++ [.request q]) _) _
    cases hwrite : (s.reqs q).write with
    | true =>
      rw [diskView_snoc_write (by rw [bioExtent, if_pos hwrite])]
      exact h.onDisk.append h.ledger hopen rfl hwrite fun _ _ => rfl
    | false =>
      have hnone : bioExtent s.reqs s.data s.bufs (.request q) = none := by
        simp [bioExtent, hwrite]
      rw [diskView_snoc_read hnone]
      exact h.onDisk.read hwrite

end Places

section Ends

lemma finish_ended (hd : d.ended = s.dev.ended ++ [q]) :
    finish s d = { s with dev := d, history := s.history ++ [completion s q] } := by
  rw [finish, hd, List.drop_left]
  rfl

lemma finish_same (hd : d.ended = s.dev.ended) : finish s d = { s with dev := d } := by
  rw [finish, hd, List.drop_length, List.map_nil, List.append_nil]

lemma PageInv.untouched (h : PageInv cfg disk₀ place s) {q' : Nat}
    (hq : (place q).isOpen = true) (hwrite : (s.reqs q).write = true)
    (hq' : (place q').isOpen = true) (hread : (s.reqs q').write = false) :
    ¬(s.reqs q).covers (s.reqs q').firstPage := by
  have hone : (s.reqs q').pages = 1 := by
    refine h.ledger.one_page q' ?_ hread
    intro hnew
    rw [hnew] at hq'
    cases hq'
  exact h.ledger.writeFree hq' hread ⟨le_rfl, by omega⟩ q hq hwrite

lemma PageInv.endRead (h : PageInv cfg disk₀ place s) (hq : (place q).isOpen = true)
    (ha : Absent s.dev q) (hread : (s.reqs q).write = false)
    (hval : s.data q 0 = lastWritten disk₀ s.history (s.reqs q).firstPage) :
    PageInv cfg disk₀ (Function.update place q .done) { s with
      dev := endRequest s.dev q
      history := s.history ++ [completion s q] } := by
  have hsame : lastWritten disk₀ (s.history ++ [completion s q]) = lastWritten disk₀ s.history := by
    rw [lastWritten_snoc, if_neg]
    simp [completion, hread]
  have hone : (s.reqs q).pages = 1 := by
    refine h.ledger.one_page q ?_ hread
    intro hnew
    rw [hnew] at hq
    cases hq
  constructor
  · exact h.ledger.finish hq
  · refine (h.seats.reseat ha ?_ (.inl rfl)).shrink (.refl _) (.refl _) (.refl _) fun _ _ => rfl
    rintro ⟨⟩
  · exact h.ctxs.shrink rfl rfl (fun _ _ hw => hw) (fun _ hwr => hwr) fun _ hup => hup
  · exact h.routes
  · exact h.pass.frame (fun c k hk hup => ⟨hk, hup, fun _ hi => hi⟩) (fun _ hv => .inl hv)
      fun _ _ => .inl rfl
  · exact h.bounds.shrink (fun _ hv => hv) (fun _ hup => hup) fun _ _ _ => rfl
  · dsimp only
    rw [hsame]
    exact h.onDisk.read hread
  · dsimp only
    rw [hsame]
    exact h.cache.read hread
  · dsimp only
    rw [hsame]
    exact h.wire.shrink (fun _ hv => hv) (fun _ hwr => hwr) (fun _ _ hc => hc) fun _ hup => hup
  · refine h.reads.snoc fun _ p hp => ?_
    have hp' : (s.reqs q).firstPage ≤ p ∧ p < (s.reqs q).firstPage + (s.reqs q).pages := hp
    have hpage : p = (s.reqs q).firstPage := by omega
    subst hpage
    dsimp only [completion, IoRequest.extent]
    rw [Nat.sub_self]
    exact hval

/-- A write ends that the device does not have any more. Its data is in the queue of the disk or
on the disk, and in the slabs in which its pages are recorded. -/
lemma PageInv.endWrite (h : PageInv cfg disk₀ place s) (hsent : (place q).sent = true)
    (ha : Absent s.dev q) (hwrite : (s.reqs q).write = true)
    (hslab : ∀ p slab, PageRecorded s.dev.tables p slab → (s.reqs q).covers p →
      s.slabs slab (p % 262144) = s.data q (p - (s.reqs q).firstPage)) :
    PageInv cfg disk₀ (Function.update place q .done) { s with
      dev := endRequest s.dev q
      history := s.history ++ [completion s q] } := by
  have hq : (place q).isOpen = true := by
    cases hplace : place q <;> rw [hplace] at hsent <;> first | rfl | cases hsent
  have hlast : lastWritten disk₀ (s.history ++ [completion s q]) =
      ((s.reqs q).extent (s.data q)).write (lastWritten disk₀ s.history) := by
    rw [lastWritten_snoc, if_pos]
    · rfl
    · exact hwrite
  constructor
  · exact h.ledger.finish hq
  · refine (h.seats.reseat ha ?_ (.inl rfl)).shrink (.refl _) (.refl _) (.refl _) fun _ _ => rfl
    rintro ⟨⟩
  · exact h.ctxs.shrink rfl rfl (fun _ _ hw => hw) (fun _ hwr => hwr) fun _ hup => hup
  · exact h.routes
  · exact h.pass.frame (fun c k hk hup => ⟨hk, hup, fun _ hi => hi⟩) (fun _ hv => .inl hv)
      fun _ _ => .inl rfl
  · exact h.bounds.shrink (fun _ hv => hv) (fun _ hup => hup) fun _ _ _ => rfl
  · dsimp only
    rw [hlast]
    exact h.onDisk.finish hwrite hsent
  · dsimp only
    rw [hlast]
    exact h.cache.finish hslab
  · dsimp only
    rw [hlast]
    have hwire : WireInv cfg s.reqs s.data s.bufs s.slabs s.executed s.failed
        (lastWritten disk₀ s.history) (endRequest s.dev q) :=
      h.wire.shrink (fun _ hv => hv) (fun _ hwr => hwr) (fun _ _ hc => hc) fun _ hup => hup
    refine hwire.values (fun tr htr hlive hread => ?_) fun wr hwr hc hread => ?_
    · obtain ⟨hopen, htransfer⟩ := InHand.isOpen (d := s.dev) htr.inHand h.seats h.ctxs hlive.1
      refine write_of_not_covers (h.untouched hq hwrite hopen ?_) _ _
      rw [← htransfer.write, hread]
    · obtain ⟨-, htransfer, hheld⟩ := h.seats.posted wr hwr
      refine write_of_not_covers (h.untouched hq hwrite ?_ ?_) _ _
      · rw [hheld hc]
        rfl
      · rw [← htransfer.write, hread]
  · refine h.reads.snoc fun hfalse => ?_
    dsimp only [completion] at hfalse
    rw [hwrite] at hfalse
    cases hfalse

lemma PageInv.fill (h : PageInv cfg disk₀ place s) (hread : (s.reqs q).write = false)
    (mem : Nat → Nat → α) :
    PageInv cfg disk₀ place { s with mem := Function.update s.mem q mem } := by
  have hdata : PageStore.data { s with mem := Function.update s.mem q mem } =
      Function.update s.data q (requestPage mem (s.chains q)) :=
    data_update (Function.update_eq_self q s.chains).symm rfl
  refine ⟨h.ledger, h.seats, h.ctxs, h.routes, h.pass, h.bounds, ?_, h.cache, ?_, h.reads⟩
  · rw [hdata]
    dsimp only
    rw [diskView_congr]
    · exact h.onDisk.fill hread
    · intro b hb
      cases b with
      | mirror y w => rfl
      | request w =>
        simp only [bioExtent]
        by_cases hw : w = q
        · rw [hw, hread]
          rfl
        · rw [Function.update_of_ne hw]
  · rw [hdata]
    exact h.wire.fill h.seats hread

lemma PageInv.dropBio (h : PageInv cfg disk₀ place s) {b : DiskBio} {rest : List DiskBio}
    {disk : Nat → α} (hbios : s.dev.bios = b :: rest)
    (hview : diskView s.reqs s.data s.bufs (b :: rest) s.disk =
      diskView s.reqs s.data s.bufs rest disk) :
    PageInv cfg disk₀ place { s with disk := disk, dev := { s.dev with bios := rest } } := by
  have hsub : rest.Sublist s.dev.bios := by
    rw [hbios]
    exact List.sublist_cons_self b rest
  refine ⟨h.ledger, h.seats.shrink (.refl _) hsub (.refl _) fun _ _ => rfl,
    h.ctxs.shrink rfl rfl (fun _ _ hw => hsub.subset hw) (fun _ hwr => hwr) fun _ hup => hup,
    h.routes,
    h.pass.frame (fun c k hk hup => ⟨hk, hup, fun _ hi => hi⟩) (fun _ hv => .inl hv)
      fun _ _ => .inl rfl,
    h.bounds.shrink (fun _ hv => hv) (fun _ hup => hup) fun _ _ _ => rfl, ?_, h.cache,
    h.wire.shrink (fun _ hv => hv) (fun _ hwr => hwr) (fun _ _ hc => hc) fun _ hup => hup, h.reads⟩
  change DiskInv _ _ s.data (diskView _ s.data s.bufs rest disk) _
  rw [← hview, ← hbios]
  exact h.onDisk

end Ends

section Contexts

lemma Seats.absent_waiting {reqs : Nat → IoRequest} {d' : Device} (h : Seats place reqs d)
    (hk : d.waiting[k]? = some tr) (hwaiting : d'.waiting = d.waiting.eraseIdx k)
    (hbios : d'.bios = d.bios)
    (hctxs : ∀ x, (d'.ctxs x).inFlight ≠ .idle → d'.ctxs x = d.ctxs x) : Absent d' tr.req := by
  have hplace := (h.waiting tr (List.mem_of_getElem? hk)).1
  constructor
  · intro v hv
    rw [hwaiting] at hv
    exact ne_of_mem_eraseIdx h.waiting_nodup hk hv
  · intro hbio
    rw [hbios] at hbio
    rw [h.disk _ hbio] at hplace
    cases hplace
  · intro y hy hreq
    have hsame := hctxs y hy
    rw [hsame] at hy hreq
    obtain ⟨q', slab, hreq', hheld, -⟩ := h.held y hy
    rw [hreq, Option.some.injEq] at hreq'
    rw [← hreq', hplace] at hheld
    cases hheld

lemma Seats.absent_held {reqs : Nat → IoRequest} (h : Seats place reqs d)
    (hq : place q = .held x slab) (hx : (d.ctxs x).inFlight = .idle) : Absent d q := by
  constructor
  · rintro v hv rfl
    rw [(h.waiting v hv).1] at hq
    cases hq
  · intro hbio
    rw [h.disk q hbio] at hq
    cases hq
  · intro y hy hreq
    obtain ⟨q', slab', hreq', hheld, -⟩ := h.held y hy
    rw [hreq, Option.some.injEq] at hreq'
    rw [← hreq', hq] at hheld
    cases hheld
    exact hy hx

lemma Seats.carried {reqs : Nat → IoRequest} (h : Seats place reqs d) (hwr : wr ∈ d.posted)
    (hc : Carries d wr) : place wr.transfer.req = .held wr.ctx (transferSlab wr.transfer) ∧
      (d.ctxs wr.ctx).inFlight = flightOf wr.transfer.write := by
  obtain ⟨-, htransfer, hheld⟩ := h.posted wr hwr
  obtain ⟨q', slab', hreq, -, hflight, -⟩ := h.held wr.ctx hc.1
  rw [hc.2, Option.some.injEq] at hreq
  subst hreq
  rw [← htransfer.write] at hflight
  exact ⟨hheld hc, hflight⟩

lemma settled_ctxs (d : Device) (x : CtxId) {c : RdmaCtx} (hc : c.inFlight = .idle) :
    ∀ y, (Function.update d.ctxs x c y).inFlight ≠ .idle →
      Function.update d.ctxs x c y = d.ctxs y := by
  intro y hy
  refine Function.update_of_ne ?_ _ _
  rintro rfl
  rw [Function.update_self] at hy
  exact hy hc

lemma PageInv.executed (h : PageInv cfg disk₀ place s) {executed : WorkRequest → Bool}
    (hex : ∀ wr ∈ s.dev.posted, executed wr = s.executed wr) :
    PageInv cfg disk₀ place { s with executed := executed } :=
  ⟨h.ledger, h.seats, h.ctxs, h.routes, h.pass, h.bounds, h.onDisk, h.cache,
    h.wire.executed_congr hex, h.reads⟩

/-- The device after a transfer has been posted with context `x`. -/
def launched (d : Device) (k : Nat) (tr : Transfer) (queue : Nat) (x : CtxId) (pool : FreeCtxs) :
    Device :=
  { holdCtx { d with waiting := d.waiting.eraseIdx k } tr queue x pool with
    bios := d.bios ++ mirrorOf x tr
    posted := d.posted ++ [⟨x, tr⟩] }

variable {queue : Nat} {pool : FreeCtxs}

/-- A waiting request gets a context and is posted; the buffer of the context has the data of a
write. -/
lemma PageInv.launch {bufs : CtxId → Nat → α} (h : PageInv cfg disk₀ place s)
    (hk : s.dev.waiting[k]? = some tr) (hqueue : queue < cfg.submitQueues)
    (hget : getCtx (s.dev.pools (tr.cb, queue)) = some (x, pool))
    (hbufs : ∀ y, y ≠ x → bufs y = s.bufs y)
    (hgather : tr.write = true → ∀ j < (s.reqs tr.req).pages, bufs x j = s.data tr.req j) :
    PageInv cfg disk₀ (Function.update place tr.req (.held x (transferSlab tr))) { s with
      dev := launched s.dev k tr queue x pool
      bufs := bufs
      executed := Function.update s.executed ⟨x, tr⟩ false } := by
  have htr : tr ∈ s.dev.waiting := List.mem_of_getElem? hk
  obtain ⟨hplace, htransfer⟩ := h.seats.waiting tr htr
  have hopen : (place tr.req).isOpen = true := by
    rw [hplace]
    rfl
  have hne : ∀ wr ∈ s.dev.posted, wr.transfer.req ≠ tr.req := by
    refine h.seats.posted_ne ?_
    rw [hplace]
    rfl
  obtain ⟨htake, hfree, hcb, hq, hslot, -, hmirror, hunposted⟩ := h.ctxs.take hget
  have hctx : x ∈ ctxIds cfg tr.cb := mem_ctxIds.mpr ⟨hcb, hq ▸ hqueue, hslot⟩
  have herase : ∀ v ∈ s.dev.waiting.eraseIdx k, v ∈ s.dev.waiting :=
    fun v hv => List.mem_of_mem_eraseIdx hv
  have hview : diskView s.reqs s.data bufs s.dev.bios s.disk =
      diskView s.reqs s.data s.bufs s.dev.bios s.disk := by
    apply diskView_congr
    rintro (⟨y, w⟩ | w) hb
    · have hyx : y ≠ x := by
        rintro rfl
        exact hmirror w hb
      simp only [bioExtent]
      rw [hbufs y hyx]
    · rfl
  constructor
  · exact h.ledger.move hopen rfl
  · -- the request is taken from the waiting ones, and is lost until the context is filled in
    have hgone : Seats place s.reqs { s.dev with
        waiting := s.dev.waiting.eraseIdx k
        pools := Function.update s.dev.pools (tr.cb, queue) pool } :=
      h.seats.shrink (List.eraseIdx_sublist _ _) (.refl _) (.refl _) fun _ _ => rfl
    have hlost := hgone.reseat (P := .lost) (h.seats.absent_waiting hk rfl rfl fun _ _ => rfl)
      (by rintro ⟨⟩) (.inl rfl)
    have hledger := h.ledger.move (P := .lost) hopen rfl
    have hseat := hlost.launch (c := s.dev.ctxs x) hledger (Function.update_self ..) htransfer hcb
      hne hmirror
    rw [Function.update_idem] at hseat
    exact hseat
  · have hctxs : CtxInv cfg s.failed { s.dev with
        waiting := s.dev.waiting.eraseIdx k
        pools := Function.update s.dev.pools (tr.cb, queue) pool } :=
      htake.shrink rfl rfl (fun _ _ hw => hw) (fun _ hwr => hwr) fun _ hup => hup
    exact hctxs.launch hfree hctx hmirror hunposted hne
  · exact h.routes
  · refine h.pass.frame (fun c k hk hup => ⟨hk, hup, fun _ hi => hi⟩)
      (fun v hv => .inl (herase v hv)) fun y _ => ?_
    dsimp only [launched, holdCtx]
    by_cases hyx : y = x
    · subst hyx
      rw [Function.update_self, enterCtx_chunkIndex]
      exact .inr ⟨tr, htr, hcb, rfl⟩
    · rw [Function.update_of_ne hyx]
      exact .inl rfl
  · refine h.bounds.shrink (fun v hv => ?_) (fun _ hup => hup) fun _ _ _ => rfl
    rcases hv with hwait | ⟨y, hy⟩
    · exact .inl (herase v hwait)
    · rcases List.mem_append.mp hy with hold | hnew
      · exact .inr ⟨y, hold⟩
      · cases List.mem_singleton.mp hnew
        exact .inl htr
  · change DiskInv _ _ s.data (diskView _ s.data bufs (s.dev.bios ++ mirrorOf x tr) _) _
    cases hwrite : tr.write with
    | true =>
      have hwrite' : (s.reqs tr.req).write = true := by
        rw [← htransfer.write, hwrite]
      have hbio : mirrorOf x tr = [.mirror x tr.req] := if_pos hwrite
      have hdata : bioExtent s.reqs s.data bufs (.mirror x tr.req) =
          some ((s.reqs tr.req).extent (bufs x)) := rfl
      rw [hbio, diskView_snoc_write hdata, hview]
      exact h.onDisk.append h.ledger hopen rfl hwrite' (hgather hwrite)
    | false =>
      have hread : (s.reqs tr.req).write = false := by
        rw [← htransfer.write, hwrite]
      have hbio : mirrorOf x tr = [] := by
        rw [mirrorOf, hwrite]
        rfl
      rw [hbio, List.append_nil, hview]
      exact h.onDisk.read hread
  · refine h.cache.move hopen fun hwrite p slab hrec hcovers => ?_
    have hallows := h.cache.target p slab tr.req hrec hwrite hcovers
    rw [hplace] at hallows
    exact hallows
  · refine h.wire.launch htr hne (fun wr hwr hup he => ?_) herase rfl rfl (enterCtx_req tr _) hbufs
      hgather
    refine hunposted ?_ wr hwr he
    rw [← he, h.ctxs.ctx_cb hwr]
    exact hup
  · exact h.reads

/-- The device after a transfer has been given up; the request is not in the queue yet. -/
def unlaunched (d : Device) (k : Nat) (tr : Transfer) (queue : Nat) (x : CtxId)
    (pool : FreeCtxs) : Device :=
  insertCtx (setCtx { d with
    waiting := d.waiting.eraseIdx k
    pools := Function.update d.pools (tr.cb, queue) pool } x
      { enterCtx tr (d.ctxs x) with inFlight := .idle }) x

lemma giveUpCtx_eq : giveUpCtx (holdCtx { d with waiting := d.waiting.eraseIdx k } tr queue x pool)
    x q = requestStackbd (unlaunched d k tr queue x pool) q := by
  simp only [giveUpCtx, holdCtx, unlaunched, setCtx, insertCtx, Function.update_self,
    Function.update_idem]

lemma PageInv.giveUp (h : PageInv cfg disk₀ place s) (hk : s.dev.waiting[k]? = some tr)
    (hget : getCtx (s.dev.pools (tr.cb, queue)) = some (x, pool))
    (hrec : tr.write = true → ∀ p slab, (s.reqs tr.req).covers p →
      ¬PageRecorded s.dev.tables p slab) :
    PageInv cfg disk₀ (Function.update place tr.req .disk) { s with
      dev := requestStackbd (unlaunched s.dev k tr queue x pool) tr.req
      executed := Function.update s.executed ⟨x, tr⟩ false } := by
  obtain ⟨hplace, htransfer⟩ := h.seats.waiting tr (List.mem_of_getElem? hk)
  have hne : ∀ wr ∈ s.dev.posted, wr.transfer.req ≠ tr.req := by
    refine h.seats.posted_ne ?_
    rw [hplace]
    rfl
  obtain ⟨htake, hfree, -, -, hslot, -, hmirror, hunposted⟩ := h.ctxs.take hget
  have hctxs : CtxInv cfg s.failed (unlaunched s.dev k tr queue x pool) := by
    have hgone : CtxInv cfg s.failed { s.dev with
        waiting := s.dev.waiting.eraseIdx k
        pools := Function.update s.dev.pools (tr.cb, queue) pool } :=
      htake.shrink rfl rfl (fun _ _ hw => hw) (fun _ hwr => hwr) fun _ hup => hup
    refine (hgone.settle rfl hunposted).insert hfree hslot ?_ hmirror hunposted
    simp only [setCtx, Function.update_self]
    rintro ⟨⟩
  have hsettled := settled_ctxs s.dev x
    (c := { enterCtx tr (s.dev.ctxs x) with inFlight := .idle }) rfl
  have hshrink := h.shrink hctxs (List.eraseIdx_sublist _ _) (.refl _) hsettled
    ⟨rfl, rfl, rfl, rfl, rfl⟩
  have hexecuted : ∀ wr ∈ s.dev.posted,
      Function.update s.executed ⟨x, tr⟩ false wr = s.executed wr := by
    intro wr hwr
    refine Function.update_of_ne ?_ _ _
    rintro rfl
    exact hne _ hwr rfl
  have hlost := (hshrink.executed hexecuted).lose (q := tr.req) (by rw [hplace]; rfl)
    (h.seats.absent_waiting hk rfl rfl hsettled)
  have hdisk := hlost.toDisk (Function.update_self ..) fun hwrite =>
    hrec (htransfer.write.trans hwrite)
  rw [Function.update_idem] at hdisk
  exact hdisk

end Contexts

section Rdma

lemma PageInv.executeWrite (h : PageInv cfg disk₀ place s) (hwr : wr ∈ s.dev.posted)
    (hup : s.failed wr.transfer.cb = false) (hwrite : wr.transfer.write = true) :
    PageInv cfg disk₀ place { s with
      slabs := Function.update s.slabs (transferSlab wr.transfer) (Extent.write
        ⟨wr.transfer.offset / isPageSize, wr.transfer.len / isPageSize, s.bufs wr.ctx⟩
        (s.slabs (transferSlab wr.transfer)))
      executed := Function.update s.executed wr true } :=
  ⟨h.ledger, h.seats, h.ctxs, h.routes, h.pass, h.bounds, h.onDisk,
    h.cache.executeWrite h.routes h.seats h.ctxs h.bounds hwr hup hwrite,
    h.wire.executeWrite h.seats h.ctxs h.ledger h.bounds hwr hup hwrite, h.reads⟩

lemma PageInv.executeRead (h : PageInv cfg disk₀ place s) (hwr : wr ∈ s.dev.posted)
    (hup : s.failed wr.transfer.cb = false) (hread : wr.transfer.write = false)
    (hex : s.executed wr = false) :
    PageInv cfg disk₀ place { s with
      bufs := Function.update s.bufs wr.ctx (Extent.write
        ⟨0, wr.transfer.len / isPageSize, fun j =>
          s.slabs (transferSlab wr.transfer) (wr.transfer.offset / isPageSize + j)⟩
        (s.bufs wr.ctx))
      executed := Function.update s.executed wr true } := by
  refine ⟨h.ledger, h.seats, h.ctxs, h.routes, h.pass, h.bounds, ?_, h.cache,
    h.wire.executeRead h.seats h.ctxs h.ledger hwr hup hread hex, h.reads⟩
  dsimp only
  rw [diskView_congr]
  · exact h.onDisk
  · rintro (⟨y, w⟩ | w) hb
    · have hyx : y ≠ wr.ctx := by
        rintro rfl
        have hflight := (h.seats.carried hwr (h.ctxs.carries wr hwr hup)).2
        rw [hread] at hflight
        exact h.ctxs.reading wr.ctx hflight w hb
      simp only [bioExtent]
      rw [Function.update_of_ne hyx]
    · rfl

lemma PageInv.record (h : PageInv cfg disk₀ place s) {t : ChunkTables}
    (hmaps : SameMaps s.dev.tables t) (hq : place q = .held x slab)
    (hwrite : (s.reqs q).write = true)
    (hnew : ∀ p slab', PageRecorded t p slab' →
      PageRecorded s.dev.tables p slab' ∨ slab' = slab ∧ (s.reqs q).covers p) :
    PageInv cfg disk₀ place { s with dev := { s.dev with tables := t } } := by
  refine ⟨h.ledger, h.seats.shrink (.refl _) (.refl _) (.refl _) fun _ _ => rfl,
    h.ctxs.shrink rfl rfl (fun _ _ hw => hw) (fun _ hwr => hwr) fun _ hup => hup,
    h.routes.sameMaps hmaps, h.pass.frame (fun c k hk hup => ?_) (fun _ hv => .inl hv)
      fun _ _ => .inl rfl,
    h.bounds.shrink (fun _ hv => hv) (fun _ hup => hup) fun _ _ _ => rfl, h.onDisk,
    h.cache.record h.ledger hq hwrite hnew,
    h.wire.shrink (fun _ hv => hv) (fun _ hwr => hwr) (fun _ _ hc => hc) fun _ hup => hup, h.reads⟩
  refine ⟨hk, hup, fun i hi => ?_⟩
  rwa [← hmaps.chunkMap]

end Rdma

section Control

variable {bound : Nat × Nat → Option Int} {failed : Nat → Bool}

lemma PageInv.control (h : PageInv cfg disk₀ place s) (remaps : Nat → List Nat)
    (hsame : SameTraffic s.dev d) (hfailed : ∀ c, failed c = false → s.failed c = false)
    (hroutes : RouteInv cfg.maxMr bound failed d.drains d.scans d.tables)
    (hpass : PassInv cfg failed d) (hbounds : BoundInv cfg s.reqs bound failed d)
    (hrec : ∀ p slab, PageRecorded d.tables p slab → PageRecorded s.dev.tables p slab) :
    PageInv cfg disk₀ place { s with
      dev := d, bound := bound, failed := failed, remaps := remaps } := by
  obtain ⟨hpools, hctxs, hwaiting, hposted, hbios, hended⟩ := hsame
  constructor
  · dsimp only
    rw [hended]
    exact h.ledger
  · exact h.seats.shrink (by rw [hwaiting]) (by rw [hbios]) (by rw [hposted])
      fun _ _ => by rw [hctxs]
  · exact h.ctxs.shrink hpools hctxs (fun _ _ hw => hbios ▸ hw) (fun _ hwr => hposted ▸ hwr)
      hfailed
  · exact hroutes
  · exact hpass
  · exact hbounds
  · dsimp only
    rw [hbios]
    exact h.onDisk
  · exact h.cache.forget hrec
  · refine h.wire.shrink (fun _ hv => hwaiting ▸ hv) (fun _ hwr => hposted ▸ hwr)
      (fun _ _ hc => ?_) hfailed
    unfold Carries at hc ⊢
    rwa [hctxs] at hc
  · exact h.reads

lemma PageInv.flag (h : PageInv cfg disk₀ place s) (fault : Bool) :
    PageInv cfg disk₀ place { s with dev := { s.dev with fault := fault } } :=
  h.control (d := { s.dev with fault := fault }) s.remaps ⟨rfl, rfl, rfl, rfl, rfl, rfl⟩
    (fun _ hup => hup) h.routes
    (h.pass.frame (fun _ _ hk hup => ⟨hk, hup, fun _ hi => hi⟩) (fun _ hv => .inl hv)
      fun _ _ => .inl rfl)
    (h.bounds.shrink (fun _ hv => hv) (fun _ hup => hup) fun _ _ _ => rfl) fun _ _ hp => hp

lemma PageInv.overwrite (h : PageInv cfg disk₀ place s) (hfree : s.bound slab = none)
    (content : Nat → α) :
    PageInv cfg disk₀ place { s with slabs := Function.update s.slabs slab content } := by
  refine ⟨h.ledger, h.seats, h.ctxs, h.routes, h.pass, h.bounds, h.onDisk,
    h.cache.overwrite fun p slab' hrec _ => ?_, h.wire.overwrite h.ctxs fun tr htr hlive => ?_,
    h.reads⟩
  · have hbound := (h.routes.route _ _ hrec.1).bound
    dsimp only
    rw [Function.update_of_ne]
    rintro rfl
    rw [hfree] at hbound
    cases hbound
  · have hbound := h.bounds tr htr hlive
    dsimp only
    rw [Function.update_of_ne]
    intro he
    rw [he, hfree] at hbound
    cases hbound

end Control

end DisStore.Proofs
