import DisStore.Proofs.PageRoutes

/-!
# The copies of a page

Let `V` be what the completed writes have left in every page. As long as no write to a page is
outstanding, the disk will hold `V` there once its queue is empty, and so does the slab in which
the page is recorded. An outstanding write has its own data in the queue of the disk as soon as
it has a context, and a page of it can be recorded only in the slab to which it goes. Reads that
are on their way find `V` in the slab, or have it in the buffer of their context.
-/

namespace DisStore.Proofs
open DisStore DisStore.Lib

variable {α : Type}

/-- No outstanding write covers the page. -/
def WriteFree (place : Nat → Place) (reqs : Nat → IoRequest) (p : Nat) : Prop :=
  ∀ q, (place q).isOpen = true → (reqs q).write = true → ¬(reqs q).covers p

/-- A write in this place has been put into the queue of the disk. -/
def Place.sent : Place → Bool
  | .held _ _ | .disk => true
  | _ => false

/-- A page of a write in this place may be recorded in the slab. -/
def Place.allows : Place → Nat × Nat → Prop
  | .waiting s, slab | .held _ s, slab => s = slab
  | .disk, _ => False
  | _, _ => True

/-- What a bio writes to the disk. -/
def bioExtent (reqs : Nat → IoRequest) (mem : Nat → Nat → α) (bufs : CtxId → Nat → α) :
    DiskBio → Option (Extent α)
  | .mirror x q => some ((reqs q).extent (bufs x))
  | .request q => if (reqs q).write then some ((reqs q).extent (mem q)) else none

/-- The disk once its queue is empty. -/
def diskView (reqs : Nat → IoRequest) (mem : Nat → Nat → α) (bufs : CtxId → Nat → α)
    (bios : List DiskBio) (disk : Nat → α) : Nat → α :=
  writeAll (bios.filterMap (bioExtent reqs mem bufs)) disk

/-- The disk with its queue. -/
structure DiskInv (place : Nat → Place) (reqs : Nat → IoRequest) (mem : Nat → Nat → α)
    (view V : Nat → α) : Prop where
  rest : ∀ p, WriteFree place reqs p → view p = V p
  sent : ∀ q, (reqs q).write = true → (place q).sent = true → ∀ p, (reqs q).covers p →
    view p = mem q (p - (reqs q).firstPage)

/-- The slabs; `recorded` is the relation of `PageRecorded`. -/
structure CacheInv (place : Nat → Place) (reqs : Nat → IoRequest)
    (recorded : Nat → Nat × Nat → Prop) (slabs : Nat × Nat → Nat → α) (V : Nat → α) : Prop where
  fresh : ∀ p slab, recorded p slab → WriteFree place reqs p → slabs slab (p % 262144) = V p
  target : ∀ p slab q, recorded p slab → (reqs q).write = true → (reqs q).covers p →
    (place q).allows slab

def transferSlab (tr : Transfer) : Nat × Nat := (tr.cb, tr.chunkIndex)

/-- The server is up and has contexts. -/
def Live (cfg : DeviceCfg) (failed : Nat → Bool) (c : Nat) : Prop :=
  failed c = false ∧ ctxIds cfg c ≠ []

/-- The transfer waits for a context or is posted. -/
def InHand (d : Device) (tr : Transfer) : Prop :=
  tr ∈ d.waiting ∨ ∃ x, ⟨x, tr⟩ ∈ d.posted

/-- The transfer will be executed. -/
def ToCome (executed : WorkRequest → Bool) (d : Device) (tr : Transfer) : Prop :=
  tr ∈ d.waiting ∨ ∃ x, ⟨x, tr⟩ ∈ d.posted ∧ executed ⟨x, tr⟩ = false

/-- The slab of a transfer stays bound for the chunk of the request. -/
def BoundInv (cfg : DeviceCfg) (reqs : Nat → IoRequest) (bound : Nat × Nat → Option Int)
    (failed : Nat → Bool) (d : Device) : Prop :=
  ∀ tr, InHand d tr → Live cfg failed tr.cb →
    bound (transferSlab tr) = some (((reqs tr.req).firstPage / 262144 : Nat) : Int)

/-- The transfers: `unread` is about a read that is to come, `buffer` about one that has been
executed; `gathered` and `written` are about writes before and after. -/
structure WireInv (cfg : DeviceCfg) (reqs : Nat → IoRequest) (mem : Nat → Nat → α)
    (bufs : CtxId → Nat → α) (slabs : Nat × Nat → Nat → α) (executed : WorkRequest → Bool)
    (failed : Nat → Bool) (V : Nat → α) (d : Device) : Prop where
  unread : ∀ tr, ToCome executed d tr → Live cfg failed tr.cb → tr.write = false →
    slabs (transferSlab tr) (tr.offset / isPageSize) = V (reqs tr.req).firstPage
  gathered : ∀ wr ∈ d.posted, failed wr.transfer.cb = false → wr.transfer.write = true →
    ∀ j < (reqs wr.transfer.req).pages, bufs wr.ctx j = mem wr.transfer.req j
  written : ∀ wr ∈ d.posted, failed wr.transfer.cb = false → wr.transfer.write = true →
    executed wr = true → ∀ j < (reqs wr.transfer.req).pages,
      slabs (transferSlab wr.transfer) (wr.transfer.offset / isPageSize + j) = mem wr.transfer.req j
  buffer : ∀ wr ∈ d.posted, Carries d wr → wr.transfer.write = false → executed wr = true →
    bufs wr.ctx 0 = V (reqs wr.transfer.req).firstPage

variable {cfg : DeviceCfg} {place : Nat → Place} {reqs : Nat → IoRequest} {mem mem' : Nat → Nat → α}
  {bufs bufs' : CtxId → Nat → α} {slabs slabs' : Nat × Nat → Nat → α} {disk view V : Nat → α}
  {recorded recorded' : Nat → Nat × Nat → Prop} {executed executed' : WorkRequest → Bool}
  {bound bound' : Nat × Nat → Option Int} {failed failed' : Nat → Bool} {d d' : Device}
  {bios : List DiskBio} {q submitted : Nat} {ended : List Nat} {P : Place} {r : IoRequest}
  {data : Nat → α} {tr tr' : Transfer} {wr : WorkRequest} {x : CtxId} {slab : Nat × Nat}

section WriteFree

lemma isOpen_update (hq : (place q).isOpen = P.isOpen) (q' : Nat) :
    (Function.update place q P q').isOpen = (place q').isOpen := by
  by_cases hqq : q' = q
  · rw [hqq, Function.update_self, hq]
  · rw [Function.update_of_ne hqq]

lemma writeFree_move (hq : (place q).isOpen = P.isOpen) {p : Nat} :
    WriteFree (Function.update place q P) reqs p ↔ WriteFree place reqs p := by
  unfold WriteFree
  simp only [isOpen_update hq]

lemma writeFree_read (hread : (reqs q).write = false) {p : Nat} :
    WriteFree (Function.update place q P) reqs p ↔ WriteFree place reqs p := by
  have hne : ∀ {q'}, (reqs q').write = true → q' ≠ q := by
    rintro q' hwrite rfl
    rw [hread] at hwrite
    cases hwrite
  constructor
  · intro h q' hq' hwrite
    refine h q' ?_ hwrite
    rwa [Function.update_of_ne (hne hwrite)]
  · intro h q' hq' hwrite
    rw [Function.update_of_ne (hne hwrite)] at hq'
    exact h q' hq' hwrite

lemma WriteFree.of_arrive {p : Nat} (hnew : (place q).isOpen = false)
    (h : WriteFree (Function.update place q .lost) (Function.update reqs q r) p) :
    WriteFree place reqs p := by
  intro q' hq' hwrite
  have hne : q' ≠ q := by
    rintro rfl
    rw [hnew] at hq'
    cases hq'
  have hold := h q'
  rw [Function.update_of_ne hne, Function.update_of_ne hne] at hold
  exact hold hq' hwrite

/-- A write has ended: its pages may be settled now. -/
lemma WriteFree.of_finish {p : Nat} (h : WriteFree (Function.update place q .done) reqs p)
    (hp : ¬(reqs q).covers p) : WriteFree place reqs p := by
  intro q' hq' hwrite
  by_cases hqq : q' = q
  · rw [hqq]
    exact hp
  · refine h q' ?_ hwrite
    rwa [Function.update_of_ne hqq]

lemma Ledger.writeFree (h : Ledger place submitted reqs ended) (hq : (place q).isOpen = true)
    (hread : (reqs q).write = false) {p : Nat} (hp : (reqs q).covers p) : WriteFree place reqs p := by
  intro q' hq' hwrite
  refine h.apart q q' p ?_ hq hq' hp
  rintro rfl
  rw [hread] at hwrite
  cases hwrite

end WriteFree

section DiskInv

lemma write_of_covers {p : Nat} (hp : r.covers p) (data m : Nat → α) :
    (r.extent data).write m p = data (p - r.firstPage) := if_pos hp

lemma write_of_not_covers {p : Nat} (hp : ¬r.covers p) (data m : Nat → α) :
    (r.extent data).write m p = m p := if_neg hp

lemma diskView_congr {reqs' : Nat → IoRequest}
    (h : ∀ b ∈ bios, bioExtent reqs' mem' bufs' b = bioExtent reqs mem bufs b) :
    diskView reqs' mem' bufs' bios disk = diskView reqs mem bufs bios disk := by
  unfold diskView
  rw [List.filterMap_congr h]

lemma diskView_snoc_write {b : DiskBio} {e : Extent α} (hb : bioExtent reqs mem bufs b = some e) :
    diskView reqs mem bufs (bios ++ [b]) disk = e.write (diskView reqs mem bufs bios disk) := by
  have hlast : [b].filterMap (bioExtent reqs mem bufs) = [e] := by
    simp [hb]
  rw [diskView, List.filterMap_append, hlast, writeAll_snoc]
  rfl

lemma diskView_snoc_read {b : DiskBio} (hb : bioExtent reqs mem bufs b = none) :
    diskView reqs mem bufs (bios ++ [b]) disk = diskView reqs mem bufs bios disk := by
  have hlast : [b].filterMap (bioExtent reqs mem bufs) = [] := by
    simp [hb]
  rw [diskView, List.filterMap_append, hlast, List.append_nil]
  rfl

lemma diskView_cons_write {b : DiskBio} {e : Extent α} (hb : bioExtent reqs mem bufs b = some e) :
    diskView reqs mem bufs (b :: bios) disk = diskView reqs mem bufs bios (e.write disk) := by
  rw [diskView, List.filterMap_cons_some hb, writeAll_cons]
  rfl

lemma diskView_cons_read {b : DiskBio} (hb : bioExtent reqs mem bufs b = none) :
    diskView reqs mem bufs (b :: bios) disk = diskView reqs mem bufs bios disk := by
  rw [diskView, List.filterMap_cons_none hb]
  rfl

lemma diskView_of_not_covers {p : Nat}
    (h : ∀ b ∈ bios, (reqs (DiskBio.req b)).write = true → ¬(reqs (DiskBio.req b)).covers p)
    (hmirror : ∀ x w, .mirror x w ∈ bios → (reqs w).write = true) :
    diskView reqs mem bufs bios disk p = disk p := by
  apply writeAll_of_not_covers
  intro e he
  obtain ⟨b, hb, hbe⟩ := List.mem_filterMap.mp he
  cases b with
  | mirror x w =>
    cases hbe
    exact h _ hb (hmirror x w hb)
  | request w =>
    simp only [bioExtent] at hbe
    split at hbe
    · next hwrite =>
      cases hbe
      exact h _ hb hwrite
    · cases hbe

lemma DiskInv.move (h : DiskInv place reqs mem view V) (hq : (place q).isOpen = P.isOpen)
    (hsent : (reqs q).write = true → P.sent = true → ∀ p, (reqs q).covers p →
      view p = mem q (p - (reqs q).firstPage)) :
    DiskInv (Function.update place q P) reqs mem view V := by
  refine ⟨fun p hp => h.rest p ((writeFree_move hq).mp hp), fun q' hwrite hq' => ?_⟩
  by_cases hqq : q' = q
  · subst hqq
    rw [Function.update_self] at hq'
    exact hsent hwrite hq'
  · rw [Function.update_of_ne hqq] at hq'
    exact h.sent q' hwrite hq'

lemma DiskInv.read (h : DiskInv place reqs mem view V) (hread : (reqs q).write = false) :
    DiskInv (Function.update place q P) reqs mem view V := by
  refine ⟨fun p hp => h.rest p ((writeFree_read hread).mp hp), fun q' hwrite hq' => ?_⟩
  have hqq : q' ≠ q := by
    rintro rfl
    rw [hread] at hwrite
    cases hwrite
  rw [Function.update_of_ne hqq] at hq'
  exact h.sent q' hwrite hq'

lemma DiskInv.fill (h : DiskInv place reqs mem view V) (hread : (reqs q).write = false) :
    DiskInv place reqs (Function.update mem q data) view V := by
  refine ⟨h.rest, fun q' hwrite hq' p hp => ?_⟩
  have hqq : q' ≠ q := by
    rintro rfl
    rw [hread] at hwrite
    cases hwrite
  rw [Function.update_of_ne hqq]
  exact h.sent q' hwrite hq' p hp

lemma DiskInv.arrive (h : DiskInv place reqs mem view V) (hnew : (place q).isOpen = false) :
    DiskInv (Function.update place q .lost) (Function.update reqs q r)
      (Function.update mem q data) view V := by
  refine ⟨fun p hp => h.rest p (hp.of_arrive hnew), fun q' hwrite hq' => ?_⟩
  have hne : q' ≠ q := by
    rintro rfl
    rw [Function.update_self] at hq'
    cases hq'
  rw [Function.update_of_ne hne] at hwrite hq' ⊢
  rw [Function.update_of_ne hne]
  exact h.sent q' hwrite hq'

lemma DiskInv.append (h : DiskInv place reqs mem view V)
    (hledger : Ledger place submitted reqs ended) (hq : (place q).isOpen = true)
    (hP : P.isOpen = true) (hwrite : (reqs q).write = true)
    (hdata : ∀ j < (reqs q).pages, data j = mem q j) :
    DiskInv (Function.update place q P) reqs mem (((reqs q).extent data).write view) V := by
  have hcovered : ∀ p, (reqs q).covers p →
      ((reqs q).extent data).write view p = mem q (p - (reqs q).firstPage) := by
    intro p hp
    rw [write_of_covers hp]
    refine hdata _ ?_
    have hlow := hp.1
    have hhigh := hp.2
    omega
  have hother : ∀ p, ¬(reqs q).covers p → ((reqs q).extent data).write view p = view p :=
    fun p hp => write_of_not_covers hp data view
  refine ⟨fun p hp => ?_, fun q' hwrite' hq' p hp => ?_⟩
  · have hold := (writeFree_move (hq.trans hP.symm)).mp hp
    rw [hother p (hold q hq hwrite)]
    exact h.rest p hold
  · by_cases hqq : q' = q
    · subst hqq
      exact hcovered p hp
    · rw [Function.update_of_ne hqq] at hq'
      have hopen : (place q').isOpen = true := by
        cases hplace : place q' <;> rw [hplace] at hq' <;> first | rfl | cases hq'
      rw [hother p (hledger.apart q' q p hqq hopen hq hp)]
      exact h.sent q' hwrite' hq' p hp

lemma DiskInv.finish (h : DiskInv place reqs mem view V) (hwrite : (reqs q).write = true)
    (hsent : (place q).sent = true) :
    DiskInv (Function.update place q .done) reqs mem view (((reqs q).extent (mem q)).write V) := by
  refine ⟨fun p hp => ?_, fun q' hwrite' hq' => ?_⟩
  · by_cases hcovers : (reqs q).covers p
    · rw [write_of_covers hcovers]
      exact h.sent q hwrite hsent p hcovers
    · rw [write_of_not_covers hcovers]
      exact h.rest p (hp.of_finish hcovers)
  · have hqq : q' ≠ q := by
      rintro rfl
      rw [Function.update_self] at hq'
      cases hq'
    rw [Function.update_of_ne hqq] at hq'
    exact h.sent q' hwrite' hq'

end DiskInv

section CacheInv

lemma CacheInv.forget (h : CacheInv place reqs recorded slabs V)
    (hsub : ∀ p slab, recorded' p slab → recorded p slab) :
    CacheInv place reqs recorded' slabs V :=
  ⟨fun p slab hp => h.fresh p slab (hsub p slab hp),
    fun p slab q hp => h.target p slab q (hsub p slab hp)⟩

lemma CacheInv.move (h : CacheInv place reqs recorded slabs V) (hq : (place q).isOpen = P.isOpen)
    (hP : (reqs q).write = true → ∀ p slab, recorded p slab → (reqs q).covers p →
      P.allows slab) :
    CacheInv (Function.update place q P) reqs recorded slabs V := by
  refine ⟨fun p slab hp hs => h.fresh p slab hp ((writeFree_move hq).mp hs),
    fun p slab q' hp hwrite hcovers => ?_⟩
  by_cases hqq : q' = q
  · subst hqq
    rw [Function.update_self]
    exact hP hwrite p slab hp hcovers
  · rw [Function.update_of_ne hqq]
    exact h.target p slab q' hp hwrite hcovers

lemma CacheInv.read (h : CacheInv place reqs recorded slabs V) (hread : (reqs q).write = false) :
    CacheInv (Function.update place q P) reqs recorded slabs V := by
  refine ⟨fun p slab hp hs => h.fresh p slab hp ((writeFree_read hread).mp hs),
    fun p slab q' hp hwrite hcovers => ?_⟩
  have hqq : q' ≠ q := by
    rintro rfl
    rw [hread] at hwrite
    cases hwrite
  rw [Function.update_of_ne hqq]
  exact h.target p slab q' hp hwrite hcovers

lemma CacheInv.arrive (h : CacheInv place reqs recorded slabs V)
    (hnew : (place q).isOpen = false) :
    CacheInv (Function.update place q .lost) (Function.update reqs q r) recorded slabs V := by
  refine ⟨fun p slab hp hs => h.fresh p slab hp (hs.of_arrive hnew),
    fun p slab q' hp hwrite hcovers => ?_⟩
  by_cases hqq : q' = q
  · rw [hqq, Function.update_self]
    exact trivial
  · rw [Function.update_of_ne hqq] at hwrite hcovers ⊢
    exact h.target p slab q' hp hwrite hcovers

lemma CacheInv.overwrite (h : CacheInv place reqs recorded slabs V)
    (hslabs : ∀ p slab, recorded p slab → WriteFree place reqs p →
      slabs' slab (p % 262144) = slabs slab (p % 262144)) :
    CacheInv place reqs recorded slabs' V :=
  ⟨fun p slab hp hs => (hslabs p slab hp hs).trans (h.fresh p slab hp hs), h.target⟩

lemma CacheInv.record (h : CacheInv place reqs recorded slabs V)
    (hledger : Ledger place submitted reqs ended) (hq : place q = .held x slab)
    (hwrite : (reqs q).write = true)
    (hnew : ∀ p slab', recorded' p slab' → recorded p slab' ∨ slab' = slab ∧ (reqs q).covers p) :
    CacheInv place reqs recorded' slabs V := by
  have hopen : (place q).isOpen = true := by
    rw [hq]
    rfl
  refine ⟨fun p slab' hp hs => ?_, fun p slab' q' hp hwrite' hcovers => ?_⟩
  · rcases hnew p slab' hp with hold | ⟨-, hp'⟩
    · exact h.fresh p slab' hold hs
    · exact absurd hp' (hs q hopen hwrite)
  · rcases hnew p slab' hp with hold | ⟨rfl, hp'⟩
    · exact h.target p slab' q' hold hwrite' hcovers
    · by_cases hqq : q' = q
      · rw [hqq, hq]
        exact rfl
      · -- another request with this page is not outstanding
        have hclosed : (place q').isOpen ≠ true :=
          fun ho => hledger.apart q' q p hqq ho hopen hcovers hp'
        cases hplace : place q' <;> rw [hplace] at hclosed <;>
          first | exact trivial | exact absurd rfl hclosed

lemma CacheInv.finish (h : CacheInv place reqs recorded slabs V)
    (hslab : ∀ p slab, recorded p slab → (reqs q).covers p →
      slabs slab (p % 262144) = mem q (p - (reqs q).firstPage)) :
    CacheInv (Function.update place q .done) reqs recorded slabs
      (((reqs q).extent (mem q)).write V) := by
  refine ⟨fun p slab hp hs => ?_, fun p slab q' hp hwrite hcovers => ?_⟩
  · by_cases hcovers : (reqs q).covers p
    · rw [write_of_covers hcovers]
      exact hslab p slab hp hcovers
    · rw [write_of_not_covers hcovers]
      exact h.fresh p slab hp (hs.of_finish hcovers)
  · by_cases hqq : q' = q
    · rw [hqq, Function.update_self]
      exact trivial
    · rw [Function.update_of_ne hqq]
      exact h.target p slab q' hp hwrite hcovers

end CacheInv

section Wire

lemma ToCome.inHand (h : ToCome executed d tr) : InHand d tr := by
  rcases h with hwait | ⟨x, hx, -⟩
  · exact .inl hwait
  · exact .inr ⟨x, hx⟩

lemma InHand.isOpen (h : InHand d tr) (hseats : Seats place reqs d) (hctx : CtxInv cfg failed d)
    (hup : failed tr.cb = false) :
    (place tr.req).isOpen = true ∧ TransferOf (reqs tr.req) tr := by
  rcases h with hwait | ⟨x, hx⟩
  · obtain ⟨hplace, htransfer⟩ := hseats.waiting tr hwait
    rw [hplace]
    exact ⟨rfl, htransfer⟩
  · obtain ⟨-, htransfer, hheld⟩ := hseats.posted _ hx
    have hplace := hheld (hctx.carries _ hx hup)
    dsimp only at hplace htransfer
    rw [hplace]
    exact ⟨rfl, htransfer⟩

lemma CtxInv.live (h : CtxInv cfg failed d) (hwr : wr ∈ d.posted)
    (hup : failed wr.transfer.cb = false) : Live cfg failed wr.transfer.cb :=
  ⟨hup, List.ne_nil_of_mem (h.ctx wr hwr)⟩

lemma BoundInv.apart (h : BoundInv cfg reqs bound failed d) (hseats : Seats place reqs d)
    (hctx : CtxInv cfg failed d) (hledger : Ledger place submitted reqs ended)
    (htr : InHand d tr) (htr' : InHand d tr') (hlive : Live cfg failed tr.cb)
    (hslab : transferSlab tr = transferSlab tr') (hne : tr.req ≠ tr'.req) {j j' : Nat}
    (hj : j < (reqs tr.req).pages) (hj' : j' < (reqs tr'.req).pages) :
    tr.offset / isPageSize + j ≠ tr'.offset / isPageSize + j' := by
  intro heq
  have hcb : tr.cb = tr'.cb := congrArg Prod.fst hslab
  have hlive' : Live cfg failed tr'.cb := hcb ▸ hlive
  obtain ⟨hopen, hof⟩ := htr.isOpen hseats hctx hlive.1
  obtain ⟨hopen', hof'⟩ := htr'.isOpen hseats hctx hlive'.1
  have hchunk := h tr htr hlive
  rw [hslab, h tr' htr' hlive', Option.some.injEq, Int.natCast_inj] at hchunk
  have hp : (reqs tr.req).covers ((reqs tr.req).firstPage + j) := ⟨by omega, by omega⟩
  obtain ⟨hdiv, hmod⟩ := hof.page hp
  refine hledger.apart _ _ _ hne hopen hopen' hp (hof'.covers (hdiv.trans hchunk.symm) ?_ ?_)
  · omega
  · rw [hof'.len]
    omega

lemma BoundInv.covers {t : ChunkTables} {maxMr p : Nat} {drains scans : Nat → Option Nat}
    (h : BoundInv cfg reqs bound failed d) (hroutes : RouteInv maxMr bound failed drains scans t)
    (htr : InHand d tr) (hof : TransferOf (reqs tr.req) tr) (hctxs : ctxIds cfg tr.cb ≠ [])
    (hrec : RoutesTo t (p / 262144 : Nat) (transferSlab tr))
    (hlow : tr.offset / isPageSize ≤ p % 262144)
    (hhigh : p % 262144 < tr.offset / isPageSize + tr.len / isPageSize) :
    (reqs tr.req).covers p := by
  have hon := hroutes.route _ _ hrec
  have hbound := h tr htr ⟨hon.up, hctxs⟩
  rw [hon.bound, Option.some.injEq, Int.natCast_inj] at hbound
  exact hof.covers hbound hlow hhigh

lemma BoundInv.shrink (h : BoundInv cfg reqs bound failed d)
    (hsub : ∀ tr, InHand d' tr → InHand d tr)
    (hfailed : ∀ c, failed' c = false → failed c = false)
    (hbound : ∀ tr, InHand d' tr → Live cfg failed' tr.cb → bound' (transferSlab tr) = bound (transferSlab tr)) :
    BoundInv cfg reqs bound' failed' d' := by
  intro tr htr hlive
  rw [hbound tr htr hlive]
  exact h tr (hsub tr htr) ⟨hfailed _ hlive.1, hlive.2⟩

lemma WireInv.shrink (h : WireInv cfg reqs mem bufs slabs executed failed V d)
    (hwaiting : ∀ tr ∈ d'.waiting, tr ∈ d.waiting) (hposted : ∀ wr ∈ d'.posted, wr ∈ d.posted)
    (hcarries : ∀ wr ∈ d'.posted, Carries d' wr → Carries d wr)
    (hfailed : ∀ c, failed' c = false → failed c = false) :
    WireInv cfg reqs mem bufs slabs executed failed' V d' := by
  constructor
  · rintro tr htr hlive hread
    refine h.unread tr ?_ ⟨hfailed _ hlive.1, hlive.2⟩ hread
    rcases htr with hwait | ⟨x, hx, hex⟩
    · exact .inl (hwaiting tr hwait)
    · exact .inr ⟨x, hposted _ hx, hex⟩
  · exact fun wr hwr hup => h.gathered wr (hposted wr hwr) (hfailed _ hup)
  · exact fun wr hwr hup => h.written wr (hposted wr hwr) (hfailed _ hup)
  · exact fun wr hwr hc => h.buffer wr (hposted wr hwr) (hcarries wr hwr hc)

lemma WireInv.arrive (h : WireInv cfg reqs mem bufs slabs executed failed V d)
    (hq : ∀ tr, InHand d tr → tr.req ≠ q) :
    WireInv cfg (Function.update reqs q r) (Function.update mem q data) bufs slabs executed failed
      V d := by
  constructor
  · intro tr htr hlive hread
    rw [Function.update_of_ne (hq tr htr.inHand)]
    exact h.unread tr htr hlive hread
  · intro wr hwr
    have hne := hq wr.transfer (.inr ⟨wr.ctx, hwr⟩)
    rw [Function.update_of_ne hne, Function.update_of_ne hne]
    exact h.gathered wr hwr
  · intro wr hwr
    have hne := hq wr.transfer (.inr ⟨wr.ctx, hwr⟩)
    rw [Function.update_of_ne hne, Function.update_of_ne hne]
    exact h.written wr hwr
  · intro wr hwr
    rw [Function.update_of_ne (hq wr.transfer (.inr ⟨wr.ctx, hwr⟩))]
    exact h.buffer wr hwr

lemma WireInv.fill (h : WireInv cfg reqs mem bufs slabs executed failed V d)
    (hseats : Seats place reqs d) (hread : (reqs q).write = false) :
    WireInv cfg reqs (Function.update mem q data) bufs slabs executed failed V d := by
  have hne : ∀ wr ∈ d.posted, wr.transfer.write = true → wr.transfer.req ≠ q := by
    rintro wr hwr hwrite rfl
    rw [(hseats.posted wr hwr).2.1.write, hread] at hwrite
    cases hwrite
  refine ⟨h.unread, ?_, ?_, h.buffer⟩
  · intro wr hwr hup hwrite
    rw [Function.update_of_ne (hne wr hwr hwrite)]
    exact h.gathered wr hwr hup hwrite
  · intro wr hwr hup hwrite
    rw [Function.update_of_ne (hne wr hwr hwrite)]
    exact h.written wr hwr hup hwrite

lemma WireInv.overwrite (h : WireInv cfg reqs mem bufs slabs executed failed V d)
    (hctx : CtxInv cfg failed d)
    (hslabs : ∀ tr, InHand d tr → Live cfg failed tr.cb → slabs' (transferSlab tr) = slabs (transferSlab tr)) :
    WireInv cfg reqs mem bufs slabs' executed failed V d := by
  refine ⟨fun tr htr hlive => ?_, h.gathered, fun wr hwr hup => ?_, h.buffer⟩
  · rw [hslabs tr htr.inHand hlive]
    exact h.unread tr htr hlive
  · rw [hslabs wr.transfer (.inr ⟨wr.ctx, hwr⟩) (hctx.live hwr hup)]
    exact h.written wr hwr hup

lemma WireInv.values {V' : Nat → α} (h : WireInv cfg reqs mem bufs slabs executed failed V d)
    (hcome : ∀ tr, ToCome executed d tr → Live cfg failed tr.cb → tr.write = false →
      V' (reqs tr.req).firstPage = V (reqs tr.req).firstPage)
    (hheld : ∀ wr ∈ d.posted, Carries d wr → wr.transfer.write = false →
      V' (reqs wr.transfer.req).firstPage = V (reqs wr.transfer.req).firstPage) :
    WireInv cfg reqs mem bufs slabs executed failed V' d := by
  refine ⟨fun tr htr hlive hread => ?_, h.gathered, h.written, fun wr hwr hc hread => ?_⟩
  · rw [hcome tr htr hlive hread]
    exact h.unread tr htr hlive hread
  · rw [hheld wr hwr hc hread]
    exact h.buffer wr hwr hc hread

lemma WireInv.wait (h : WireInv cfg reqs mem bufs slabs executed failed V d)
    (hread : tr.write = false →
      slabs (transferSlab tr) (tr.offset / isPageSize) = V (reqs tr.req).firstPage) :
    WireInv cfg reqs mem bufs slabs executed failed V { d with waiting := d.waiting ++ [tr] } := by
  refine ⟨fun v hv hlive => ?_, h.gathered, h.written, h.buffer⟩
  rcases hv with hwait | hposted
  · rcases List.mem_append.mp hwait with hold | hnew
    · exact h.unread v (.inl hold) hlive
    · rw [List.mem_singleton.mp hnew]
      exact hread
  · exact h.unread v (.inr hposted) hlive

lemma WireInv.executed_congr (h : WireInv cfg reqs mem bufs slabs executed failed V d)
    (hex : ∀ wr ∈ d.posted, executed' wr = executed wr) :
    WireInv cfg reqs mem bufs slabs executed' failed V d := by
  constructor
  · intro tr htr
    refine h.unread tr ?_
    rcases htr with hwait | ⟨x, hx, hfalse⟩
    · exact .inl hwait
    · rw [hex _ hx] at hfalse
      exact .inr ⟨x, hx, hfalse⟩
  · exact h.gathered
  · intro wr hwr
    rw [hex wr hwr]
    exact h.written wr hwr
  · intro wr hwr
    rw [hex wr hwr]
    exact h.buffer wr hwr

lemma WireInv.launch {c : RdmaCtx} (h : WireInv cfg reqs mem bufs slabs executed failed V d)
    (htr : tr ∈ d.waiting) (hne : ∀ wr ∈ d.posted, wr.transfer.req ≠ tr.req)
    (hx : ∀ wr ∈ d.posted, failed wr.transfer.cb = false → wr.ctx ≠ x)
    (hwaiting : ∀ v ∈ d'.waiting, v ∈ d.waiting) (hposted : d'.posted = d.posted ++ [⟨x, tr⟩])
    (hctxs : d'.ctxs = Function.update d.ctxs x c) (hreq : c.req = some tr.req)
    (hbufs : ∀ y, y ≠ x → bufs' y = bufs y)
    (hgather : tr.write = true → ∀ j < (reqs tr.req).pages, bufs' x j = mem tr.req j) :
    WireInv cfg reqs mem bufs' slabs (Function.update executed ⟨x, tr⟩ false) failed V d' := by
  have hexecuted : ∀ wr ∈ d.posted, Function.update executed ⟨x, tr⟩ false wr = executed wr := by
    intro wr hwr
    refine Function.update_of_ne ?_ _ _
    rintro rfl
    exact hne _ hwr rfl
  have hsplit : ∀ wr ∈ d'.posted, wr ∈ d.posted ∨ wr = ⟨x, tr⟩ := by
    intro wr hwr
    rw [hposted] at hwr
    rcases List.mem_append.mp hwr with hold | hnew
    · exact .inl hold
    · exact .inr (List.mem_singleton.mp hnew)
  constructor
  · intro v hv hlive
    refine h.unread v ?_ hlive
    rcases hv with hwait | ⟨y, hy, hex⟩
    · exact .inl (hwaiting v hwait)
    · rcases hsplit _ hy with hold | hnew
      · rw [hexecuted _ hold] at hex
        exact .inr ⟨y, hold, hex⟩
      · cases hnew
        exact .inl htr
  · intro wr hwr hup hwrite
    rcases hsplit wr hwr with hold | rfl
    · rw [hbufs _ (hx wr hold hup)]
      exact h.gathered wr hold hup hwrite
    · exact hgather hwrite
  · intro wr hwr hup hwrite hex
    rcases hsplit wr hwr with hold | rfl
    · rw [hexecuted wr hold] at hex
      exact h.written wr hold hup hwrite hex
    · rw [Function.update_self] at hex
      cases hex
  · intro wr hwr hc hread hex
    rcases hsplit wr hwr with hold | rfl
    · rw [hexecuted wr hold] at hex
      unfold Carries at hc
      rw [hctxs] at hc
      have hctx : wr.ctx ≠ x := by
        intro he
        rw [he, Function.update_self, hreq] at hc
        exact hne wr hold (Option.some.inj hc.2).symm
      rw [Function.update_of_ne hctx] at hc
      rw [hbufs _ hctx]
      exact h.buffer wr hold hc hread hex
    · rw [Function.update_self] at hex
      cases hex

lemma ToCome.of_execute (h : ToCome (Function.update executed wr true) d tr) :
    ToCome executed d tr := by
  rcases h with hwait | ⟨x, hx, hex⟩
  · exact .inl hwait
  · refine .inr ⟨x, hx, ?_⟩
    by_cases hwr : ⟨x, tr⟩ = wr
    · rw [hwr, Function.update_self] at hex
      cases hex
    · rwa [Function.update_of_ne hwr] at hex

lemma WireInv.executeWrite (h : WireInv cfg reqs mem bufs slabs executed failed V d)
    (hseats : Seats place reqs d) (hctx : CtxInv cfg failed d)
    (hledger : Ledger place submitted reqs ended) (hbound : BoundInv cfg reqs bound failed d)
    (hwr : wr ∈ d.posted) (hup : failed wr.transfer.cb = false)
    (hwrite : wr.transfer.write = true) :
    WireInv cfg reqs mem bufs
      (Function.update slabs (transferSlab wr.transfer) (Extent.write
        ⟨wr.transfer.offset / isPageSize, wr.transfer.len / isPageSize, bufs wr.ctx⟩
        (slabs (transferSlab wr.transfer))))
      (Function.update executed wr true) failed V d := by
  have hlen : wr.transfer.len / isPageSize = (reqs wr.transfer.req).pages :=
    (hseats.posted wr hwr).2.1.len
  have hhand : InHand d wr.transfer := .inr ⟨wr.ctx, hwr⟩
  -- the pages of another transfer are left alone
  have hother : ∀ tr, InHand d tr → Live cfg failed tr.cb → tr.req ≠ wr.transfer.req →
      ∀ j < (reqs tr.req).pages, Function.update slabs (transferSlab wr.transfer) (Extent.write
        ⟨wr.transfer.offset / isPageSize, wr.transfer.len / isPageSize, bufs wr.ctx⟩
        (slabs (transferSlab wr.transfer))) (transferSlab tr) (tr.offset / isPageSize + j) =
        slabs (transferSlab tr) (tr.offset / isPageSize + j) := by
    intro tr htr hlive hne j hj
    by_cases hslab : transferSlab tr = transferSlab wr.transfer
    · rw [hslab, Function.update_self]
      apply Extent.write_of_not_covers
      rintro ⟨hlow, hhigh⟩
      dsimp only at hlow hhigh
      rw [hlen] at hhigh
      have hj' : tr.offset / isPageSize + j - wr.transfer.offset / isPageSize <
          (reqs wr.transfer.req).pages := by omega
      exact hbound.apart hseats hctx hledger htr hhand hlive hslab hne hj hj' (by omega)
    · rw [Function.update_of_ne hslab]
  constructor
  · intro tr htr hlive hread
    have hopen := htr.of_execute.inHand.isOpen hseats hctx hlive.1
    have hne : tr.req ≠ wr.transfer.req := by
      intro he
      have hdir := hopen.2.write
      rw [he, ← (hseats.posted wr hwr).2.1.write, hwrite, hread] at hdir
      cases hdir
    have hone : (reqs tr.req).pages = 1 := by
      refine hledger.one_page tr.req (fun hnew => ?_) ?_
      · rw [hnew] at hopen
        cases hopen.1
      · rw [← hopen.2.write, hread]
    have hpage := hother tr htr.of_execute.inHand hlive hne 0 (by omega)
    rw [Nat.add_zero] at hpage
    rw [hpage]
    exact h.unread tr htr.of_execute hlive hread
  · exact h.gathered
  · intro v hv hup' hwrite' hex j hj
    by_cases hreq : v.transfer.req = wr.transfer.req
    · have heq : v = wr := List.inj_on_of_nodup_map hseats.posted_nodup hv hwr hreq
      subst heq
      rw [Function.update_self, Extent.write_of_covers]
      · rw [Nat.add_sub_cancel_left]
        exact h.gathered v hv hup' hwrite' j hj
      · refine ⟨?_, ?_⟩
        · dsimp only
          omega
        · dsimp only
          omega
    · rw [hother v.transfer (.inr ⟨v.ctx, hv⟩) (hctx.live hv hup') hreq j hj]
      refine h.written v hv hup' hwrite' ?_ j hj
      rwa [Function.update_of_ne fun he => hreq (by rw [he])] at hex
  · intro v hv hc hread hex
    refine h.buffer v hv hc hread ?_
    rwa [Function.update_of_ne] at hex
    rintro rfl
    rw [hread] at hwrite
    cases hwrite

lemma WireInv.executeRead (h : WireInv cfg reqs mem bufs slabs executed failed V d)
    (hseats : Seats place reqs d) (hctx : CtxInv cfg failed d)
    (hledger : Ledger place submitted reqs ended)
    (hwr : wr ∈ d.posted) (hup : failed wr.transfer.cb = false)
    (hread : wr.transfer.write = false) (hex : executed wr = false) :
    WireInv cfg reqs mem
      (Function.update bufs wr.ctx (Extent.write
        ⟨0, wr.transfer.len / isPageSize, fun j =>
          slabs (transferSlab wr.transfer) (wr.transfer.offset / isPageSize + j)⟩ (bufs wr.ctx)))
      slabs (Function.update executed wr true) failed V d := by
  have hcarries := hctx.carries wr hwr hup
  constructor
  · exact fun tr htr => h.unread tr htr.of_execute
  · intro v hv hup' hwrite
    have hne : v.ctx ≠ wr.ctx := by
      intro he
      rw [hctx.inj hseats hv hwr he hup' hcarries, hread] at hwrite
      cases hwrite
    rw [Function.update_of_ne hne]
    exact h.gathered v hv hup' hwrite
  · intro v hv hup' hwrite hex'
    refine h.written v hv hup' hwrite ?_
    rwa [Function.update_of_ne] at hex'
    rintro rfl
    rw [hread] at hwrite
    cases hwrite
  · intro v hv hc hread' hex'
    by_cases hvw : v = wr
    · subst hvw
      obtain ⟨-, htransfer, hheld⟩ := hseats.posted v hv
      have hone : (reqs v.transfer.req).pages = 1 := by
        refine hledger.one_page _ (fun hnew => ?_) ?_
        · rw [hheld hc] at hnew
          cases hnew
        · rw [← htransfer.write, hread]
      rw [Function.update_self, Extent.write_of_covers]
      · exact h.unread v.transfer (.inr ⟨v.ctx, hv, hex⟩) (hctx.live hv hup) hread
      · refine ⟨le_rfl, ?_⟩
        dsimp only
        rw [htransfer.len, hone]
        omega
    · have hne : v.ctx ≠ wr.ctx := fun he => hvw (hctx.inj hseats hwr hv he.symm hup hc).symm
      rw [Function.update_of_ne hne]
      rw [Function.update_of_ne hvw] at hex'
      exact h.buffer v hv hc hread' hex'

lemma CacheInv.executeWrite {t : ChunkTables} {maxMr : Nat} {drains scans : Nat → Option Nat}
    (h : CacheInv place reqs (PageRecorded t) slabs V)
    (hroutes : RouteInv maxMr bound failed drains scans t)
    (hseats : Seats place reqs d) (hctx : CtxInv cfg failed d)
    (hbound : BoundInv cfg reqs bound failed d)
    (hwr : wr ∈ d.posted) (hup : failed wr.transfer.cb = false)
    (hwrite : wr.transfer.write = true) :
    CacheInv place reqs (PageRecorded t)
      (Function.update slabs (transferSlab wr.transfer) (Extent.write
        ⟨wr.transfer.offset / isPageSize, wr.transfer.len / isPageSize, bufs wr.ctx⟩
        (slabs (transferSlab wr.transfer)))) V := by
  have hhand : InHand d wr.transfer := .inr ⟨wr.ctx, hwr⟩
  obtain ⟨hopen, htransfer⟩ := hhand.isOpen hseats hctx hup
  refine h.overwrite fun p slab hrec hfree => ?_
  by_cases hslab : slab = transferSlab wr.transfer
  · subst hslab
    rw [Function.update_self]
    apply Extent.write_of_not_covers
    rintro ⟨hlow, hhigh⟩
    refine hfree wr.transfer.req hopen ?_ (hbound.covers hroutes hhand htransfer
      (hctx.live hwr hup).2 hrec.1 hlow hhigh)
    rw [← htransfer.write, hwrite]
  · rw [Function.update_of_ne hslab]

end Wire

end DisStore.Proofs
