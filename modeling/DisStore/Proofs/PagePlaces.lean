import DisStore.Lib.Run
import DisStore.PageStore
import DisStore.Proofs.EvictDrain

/-!
# Where the requests are

A request waits for a context, is held by a context, is in the queue of the disk, or is done.
The steps of the device are put together from moves that take one request out of its place and
bring it to another. A request between two places is `lost`; so is one whose context has been
returned after a flushed work request and taken for another request.
-/

namespace DisStore.Proofs
open DisStore DisStore.Lib

variable {α : Type} {cfg : DeviceCfg} {s : PageStore α}

inductive Place where
  | new | lost
  | waiting (slab : Nat × Nat)
  | held (x : CtxId) (slab : Nat × Nat)
  | disk | done

/-- The request has arrived and has not been ended. -/
def Place.isOpen : Place → Bool
  | .new | .done => false
  | _ => true

/-- The request has been given a context. -/
def Place.past : Place → Bool
  | .new | .waiting _ => false
  | _ => true

/-- The state of a context in flight. -/
def flightOf (write : Bool) : InFlight := if write then .write else .read

/-- The context of the work request is in flight with its request. -/
def Carries (d : Device) (wr : WorkRequest) : Prop :=
  (d.ctxs wr.ctx).inFlight ≠ .idle ∧ (d.ctxs wr.ctx).req = some wr.transfer.req

/-- A transfer of a request that lies in one chunk. -/
structure TransferOf (r : IoRequest) (tr : Transfer) : Prop where
  write : tr.write = r.write
  offset : tr.offset / isPageSize = r.firstPage % 262144
  len : tr.len / isPageSize = r.pages
  inside : tr.offset + tr.len ≤ oneGb

/-- The request that a bio belongs to. -/
def DiskBio.req : DiskBio → Nat
  | .mirror _ q => q
  | .request q => q

/-- What holds of a bio and one behind it in the queue: they are not for the same request or
context, and no write is behind a read of the same page. -/
structure BioBefore (reqs : Nat → IoRequest) (a b : DiskBio) : Prop where
  request : ∀ q, a = .request q → b ≠ .request q
  mirror : ∀ x w w', a = .mirror x w → b ≠ .mirror x w'
  read : ∀ q, a = .request q → (reqs q).write = false → (reqs (DiskBio.req b)).write = true →
    ∀ p, (reqs q).covers p → ¬(reqs (DiskBio.req b)).covers p

/-- The requests that have arrived and the ended ones; outstanding requests have no page in
common. -/
structure Ledger (place : Nat → Place) (submitted : Nat) (reqs : Nat → IoRequest)
    (ended : List Nat) : Prop where
  new : ∀ q, place q = .new ↔ submitted ≤ q
  done : ∀ q, place q = .done ↔ q ∈ ended
  one_page : ∀ q, place q ≠ .new → (reqs q).write = false → (reqs q).pages = 1
  apart : ∀ q q' p, q ≠ q' → (place q).isOpen = true → (place q').isOpen = true →
    (reqs q).covers p → ¬(reqs q').covers p

/-- Whatever the device knows of a request agrees with the place of the request. -/
structure Seats (place : Nat → Place) (reqs : Nat → IoRequest) (d : Device) : Prop where
  waiting : ∀ tr ∈ d.waiting, place tr.req = .waiting (tr.cb, tr.chunkIndex) ∧
    TransferOf (reqs tr.req) tr
  waiting_nodup : (d.waiting.map Transfer.req).Nodup
  disk : ∀ q, .request q ∈ d.bios → place q = .disk
  mirror : ∀ x w, .mirror x w ∈ d.bios → place w ≠ .new ∧ (reqs w).write = true
  bios : d.bios.Pairwise (BioBefore reqs)
  held : ∀ x, (d.ctxs x).inFlight ≠ .idle → ∃ q slab, (d.ctxs x).req = some q ∧
    place q = .held x slab ∧ (d.ctxs x).inFlight = flightOf (reqs q).write ∧ slab.1 = x.cb
  posted : ∀ wr ∈ d.posted, (place wr.transfer.req).past = true ∧
    TransferOf (reqs wr.transfer.req) wr.transfer ∧
    (Carries d wr → place wr.transfer.req = .held wr.ctx (wr.transfer.cb, wr.transfer.chunkIndex))
  posted_nodup : (d.posted.map fun wr => wr.transfer.req).Nodup

/-- The device has no request `q` in a place from which it could go on. -/
structure Absent (d : Device) (q : Nat) : Prop where
  waiting : ∀ tr ∈ d.waiting, tr.req ≠ q
  disk : .request q ∉ d.bios
  held : ∀ x, (d.ctxs x).inFlight ≠ .idle → (d.ctxs x).req ≠ some q

variable {place : Nat → Place} {submitted : Nat} {reqs : Nat → IoRequest} {ended : List Nat}
  {d d' : Device} {q k : Nat} {x : CtxId} {tr : Transfer} {wr : WorkRequest} {P : Place}

section Ledger

lemma Ledger.arrive {r : IoRequest} (h : Ledger place submitted reqs ended)
    (hread : r.write = false → r.pages = 1)
    (hapart : ∀ q p, (place q).isOpen = true → (reqs q).covers p → ¬r.covers p) :
    Ledger (Function.update place submitted .lost) (submitted + 1)
      (Function.update reqs submitted r) ended := by
  have hnew : place submitted = .new := (h.new _).mpr le_rfl
  have hold : ∀ q, q ≠ submitted → Function.update reqs submitted r q = reqs q ∧
      Function.update place submitted .lost q = place q :=
    fun q hq => ⟨Function.update_of_ne hq _ _, Function.update_of_ne hq _ _⟩
  constructor
  · intro q
    by_cases hq : q = submitted
    · subst hq
      simp
    · rw [Function.update_of_ne hq, h.new q]
      omega
  · intro q
    by_cases hq : q = submitted
    · subst hq
      rw [Function.update_self, ← h.done, hnew]
      simp
    · rw [Function.update_of_ne hq]
      exact h.done q
  · intro q hq
    by_cases hqs : q = submitted
    · subst hqs
      rw [Function.update_self]
      exact hread
    · rw [Function.update_of_ne hqs] at hq ⊢
      exact h.one_page q hq
  · intro q q' p hqq hq hq' hp hp'
    by_cases hqs : q = submitted
    · subst hqs
      obtain ⟨hreq', hplace'⟩ := hold q' fun he => hqq he.symm
      rw [hplace'] at hq'
      rw [hreq'] at hp'
      rw [Function.update_self] at hp
      exact hapart q' p hq' hp' hp
    · obtain ⟨hreq, hplace⟩ := hold q hqs
      rw [hplace] at hq
      rw [hreq] at hp
      by_cases hqs' : q' = submitted
      · subst hqs'
        rw [Function.update_self] at hp'
        exact hapart q p hq hp hp'
      · obtain ⟨hreq', hplace'⟩ := hold q' hqs'
        rw [hplace'] at hq'
        rw [hreq'] at hp'
        exact h.apart q q' p hqq hq hq' hp hp'

lemma Ledger.move (h : Ledger place submitted reqs ended) (hq : (place q).isOpen = true)
    (hP : P.isOpen = true) : Ledger (Function.update place q P) submitted reqs ended := by
  have hopen : ∀ q', (Function.update place q P q').isOpen = (place q').isOpen := by
    intro q'
    by_cases hqq : q' = q
    · rw [hqq, Function.update_self, hq, hP]
    · rw [Function.update_of_ne hqq]
  have hclosed : ∀ q' C, C.isOpen = false → (Function.update place q P q' = C ↔ place q' = C) := by
    intro q' C hC
    by_cases hqq : q' = q
    · subst hqq
      rw [Function.update_self]
      constructor
      · rintro rfl
        rw [hP] at hC
        cases hC
      · rintro rfl
        rw [hq] at hC
        cases hC
    · rw [Function.update_of_ne hqq]
  constructor
  · intro q'
    rw [hclosed q' .new rfl]
    exact h.new q'
  · intro q'
    rw [hclosed q' .done rfl]
    exact h.done q'
  · intro q' hq'
    rw [Ne, hclosed q' .new rfl] at hq'
    exact h.one_page q' hq'
  · intro a b p hab ha hb
    rw [hopen] at ha hb
    exact h.apart a b p hab ha hb

lemma Ledger.finish (h : Ledger place submitted reqs ended) (hq : (place q).isOpen = true) :
    Ledger (Function.update place q .done) submitted reqs (ended ++ [q]) := by
  have hopen : ∀ {q'}, (Function.update place q .done q').isOpen = true →
      (place q').isOpen = true := by
    intro q' hq'
    by_cases hqq : q' = q
    · rw [hqq]
      exact hq
    · rwa [Function.update_of_ne hqq] at hq'
  have hnew : ∀ q', Function.update place q .done q' = .new ↔ place q' = .new := by
    intro q'
    by_cases hqq : q' = q
    · subst hqq
      rw [Function.update_self]
      constructor
      · nofun
      · intro hn
        rw [hn] at hq
        cases hq
    · rw [Function.update_of_ne hqq]
  constructor
  · intro q'
    rw [hnew]
    exact h.new q'
  · intro q'
    by_cases hqq : q' = q
    · subst hqq
      simp
    · rw [Function.update_of_ne hqq, h.done, List.mem_append, List.mem_singleton,
        or_iff_left hqq]
  · intro q' hq'
    rw [Ne, hnew] at hq'
    exact h.one_page q' hq'
  · intro a b p hab ha hb
    exact h.apart a b p hab (hopen ha) (hopen hb)

end Ledger

section Seats

lemma Seats.absent (h : Seats place reqs d) (hq : place q = .lost) : Absent d q := by
  constructor
  · rintro tr htr rfl
    rw [(h.waiting tr htr).1] at hq
    cases hq
  · intro hbio
    rw [h.disk q hbio] at hq
    cases hq
  · intro x hx hreq
    obtain ⟨q', slab, hreq', hplace, -⟩ := h.held x hx
    rw [hreq] at hreq'
    cases hreq'
    rw [hplace] at hq
    cases hq

lemma Absent.not_carries (h : Absent d q) : ∀ wr, Carries d wr → wr.transfer.req ≠ q := by
  rintro wr ⟨hflight, hreq⟩ rfl
  exact h.held wr.ctx hflight hreq

lemma Seats.posted_ne (h : Seats place reqs d) (hq : (place q).past = false) :
    ∀ wr ∈ d.posted, wr.transfer.req ≠ q := by
  rintro wr hwr rfl
  rw [(h.posted wr hwr).1] at hq
  cases hq

lemma Seats.reseat (h : Seats place reqs d) (ha : Absent d q) (hP : P ≠ .new)
    (hpast : P.past = true ∨ ∀ wr ∈ d.posted, wr.transfer.req ≠ q) :
    Seats (Function.update place q P) reqs d := by
  constructor
  · intro tr htr
    rw [Function.update_of_ne (ha.waiting tr htr)]
    exact h.waiting tr htr
  · exact h.waiting_nodup
  · intro q' hq'
    have hne : q' ≠ q := by
      rintro rfl
      exact ha.disk hq'
    rw [Function.update_of_ne hne]
    exact h.disk q' hq'
  · intro y w hw
    obtain ⟨hnew, hwrite⟩ := h.mirror y w hw
    refine ⟨?_, hwrite⟩
    by_cases hwq : w = q
    · rw [hwq, Function.update_self]
      exact hP
    · rw [Function.update_of_ne hwq]
      exact hnew
  · exact h.bios
  · intro y hy
    obtain ⟨q', slab, hreq, hplace, hflight⟩ := h.held y hy
    have hne : q' ≠ q := by
      rintro rfl
      exact ha.held y hy hreq
    refine ⟨q', slab, hreq, ?_, hflight⟩
    rw [Function.update_of_ne hne]
    exact hplace
  · intro wr hwr
    obtain ⟨hold, htransfer, hcarries⟩ := h.posted wr hwr
    refine ⟨?_, htransfer, fun hh => ?_⟩
    · by_cases hwq : wr.transfer.req = q
      · rw [hwq, Function.update_self]
        exact hpast.resolve_right fun hne => hne wr hwr hwq
      · rw [Function.update_of_ne hwq]
        exact hold
    · rw [Function.update_of_ne (ha.not_carries wr hh)]
      exact hcarries hh
  · exact h.posted_nodup

lemma Seats.shrink (h : Seats place reqs d) (hwaiting : d'.waiting.Sublist d.waiting)
    (hbios : d'.bios.Sublist d.bios) (hposted : d'.posted.Sublist d.posted)
    (hctxs : ∀ x, (d'.ctxs x).inFlight ≠ .idle → d'.ctxs x = d.ctxs x) : Seats place reqs d' := by
  constructor
  · exact fun tr htr => h.waiting tr (hwaiting.subset htr)
  · exact h.waiting_nodup.sublist (hwaiting.map _)
  · exact fun q hq => h.disk q (hbios.subset hq)
  · exact fun x w hw => h.mirror x w (hbios.subset hw)
  · exact h.bios.sublist hbios
  · intro x hx
    have hsame := hctxs x hx
    rw [hsame] at hx ⊢
    exact h.held x hx
  · intro wr hwr
    obtain ⟨hpast, htransfer, hcarries⟩ := h.posted wr (hposted.subset hwr)
    refine ⟨hpast, htransfer, fun hh => hcarries ?_⟩
    have hsame := hctxs wr.ctx hh.1
    unfold Carries at hh ⊢
    rwa [hsame] at hh
  · exact h.posted_nodup.sublist (hposted.map _)

lemma Seats.arrive {r : IoRequest} (h : Seats place reqs d) (hnew : place q = .new) :
    Seats (Function.update place q .lost) (Function.update reqs q r) d := by
  have hne : ∀ {q'}, place q' ≠ .new → q' ≠ q := by
    rintro q' hq' rfl
    exact hq' hnew
  have hplace : ∀ {q'}, place q' ≠ .new → Function.update place q .lost q' = place q' :=
    fun hq' => Function.update_of_ne (hne hq') _ _
  have hreqs : ∀ {q'}, place q' ≠ .new → Function.update reqs q r q' = reqs q' :=
    fun hq' => Function.update_of_ne (hne hq') _ _
  have hbio : ∀ b ∈ d.bios, place (DiskBio.req b) ≠ .new := by
    intro b hb
    cases b with
    | mirror x w => exact (h.mirror x w hb).1
    | request q' =>
      rw [DiskBio.req, h.disk q' hb]
      nofun
  constructor
  · intro tr htr
    obtain ⟨hwaiting, htransfer⟩ := h.waiting tr htr
    have hold : place tr.req ≠ .new := by
      rw [hwaiting]
      nofun
    rw [hplace hold, hreqs hold]
    exact ⟨hwaiting, htransfer⟩
  · exact h.waiting_nodup
  · intro q' hq'
    have hdisk := h.disk q' hq'
    rw [hplace (by rw [hdisk]; nofun)]
    exact hdisk
  · intro x w hw
    obtain ⟨hold, hwrite⟩ := h.mirror x w hw
    rw [hplace hold, hreqs hold]
    exact ⟨hold, hwrite⟩
  · refine h.bios.imp_of_mem fun {a b} ha hb hab => ⟨hab.request, hab.mirror, ?_⟩
    rintro q' rfl
    have hq' := hreqs (hbio _ ha)
    rw [DiskBio.req] at hq'
    rw [hq', hreqs (hbio b hb)]
    exact hab.read q' rfl
  · intro x hx
    obtain ⟨q', slab, hreq, hheld, hflight⟩ := h.held x hx
    have hold : place q' ≠ .new := by
      rw [hheld]
      nofun
    refine ⟨q', slab, hreq, (hplace hold).trans hheld, ?_⟩
    rw [hreqs hold]
    exact hflight
  · intro wr hwr
    obtain ⟨hpast, htransfer, hcarries⟩ := h.posted wr hwr
    have hold : place wr.transfer.req ≠ .new := by
      intro hn
      rw [hn] at hpast
      cases hpast
    rw [hplace hold, hreqs hold]
    exact ⟨hpast, htransfer, hcarries⟩
  · exact h.posted_nodup

lemma Seats.wait (h : Seats place reqs d) (hq : place tr.req = .lost)
    (htransfer : TransferOf (reqs tr.req) tr)
    (hposted : ∀ wr ∈ d.posted, wr.transfer.req ≠ tr.req) :
    Seats (Function.update place tr.req (.waiting (tr.cb, tr.chunkIndex))) reqs
      { d with waiting := d.waiting ++ [tr] } := by
  have ha := h.absent hq
  have hseat := h.reseat (P := .waiting (tr.cb, tr.chunkIndex)) ha nofun (.inr hposted)
  refine ⟨?_, ?_, hseat.disk, hseat.mirror, hseat.bios, hseat.held, hseat.posted,
    hseat.posted_nodup⟩
  · intro v hv
    rcases List.mem_append.mp hv with hold | hnew
    · exact hseat.waiting v hold
    · rw [List.mem_singleton.mp hnew, Function.update_self]
      exact ⟨rfl, htransfer⟩
  · rw [List.map_append, List.map_singleton, List.nodup_append_comm]
    refine List.nodup_cons.mpr ⟨?_, h.waiting_nodup⟩
    intro hmem
    obtain ⟨v, hv, hreq⟩ := List.mem_map.mp hmem
    exact ha.waiting v hv hreq

lemma Seats.enqueue (h : Seats place reqs d) (hledger : Ledger place submitted reqs ended)
    (hq : place q = .lost) :
    Seats (Function.update place q .disk) reqs (requestStackbd d q) := by
  have ha := h.absent hq
  have hseat := h.reseat (P := .disk) ha nofun (.inl rfl)
  refine ⟨hseat.waiting, hseat.waiting_nodup, ?_, ?_, ?_, hseat.held, hseat.posted,
    hseat.posted_nodup⟩
  · intro q' hq'
    rcases List.mem_append.mp hq' with hold | hnew
    · exact hseat.disk q' hold
    · cases List.mem_singleton.mp hnew
      exact Function.update_self ..
  · intro x w hw
    rcases List.mem_append.mp hw with hold | hnew
    · exact hseat.mirror x w hold
    · cases List.mem_singleton.mp hnew
  · refine List.pairwise_append.mpr ⟨h.bios, List.pairwise_singleton _ _, ?_⟩
    intro a hmem b hb
    rw [List.mem_singleton.mp hb]
    refine ⟨?_, nofun, ?_⟩
    · rintro q' rfl hqq
      cases hqq
      exact ha.disk hmem
    · rintro q' rfl - - p
      have hplace := h.disk q' hmem
      refine hledger.apart q' q p ?_ (by rw [hplace]; rfl) (by rw [hq]; rfl)
      rintro rfl
      exact ha.disk hmem

lemma enterCtx_flight (tr : Transfer) (c : RdmaCtx) :
    (enterCtx tr c).inFlight = flightOf tr.write := by
  unfold enterCtx flightOf
  split <;> rfl

lemma enterCtx_req (tr : Transfer) (c : RdmaCtx) : (enterCtx tr c).req = some tr.req := by
  unfold enterCtx
  split <;> rfl

lemma Seats.launch {c : RdmaCtx} (h : Seats place reqs d)
    (hledger : Ledger place submitted reqs ended) (hq : place tr.req = .lost)
    (htransfer : TransferOf (reqs tr.req) tr) (hcb : x.cb = tr.cb)
    (hposted : ∀ wr ∈ d.posted, wr.transfer.req ≠ tr.req) (hx : ∀ w, .mirror x w ∉ d.bios) :
    Seats (Function.update place tr.req (.held x (tr.cb, tr.chunkIndex))) reqs { d with
      ctxs := Function.update d.ctxs x (enterCtx tr c)
      bios := d.bios ++ mirrorOf x tr
      posted := d.posted ++ [⟨x, tr⟩] } := by
  have ha := h.absent hq
  have hseat := h.reseat (P := .held x (tr.cb, tr.chunkIndex)) ha nofun (.inl rfl)
  have hmirror : ∀ b ∈ mirrorOf x tr, b = .mirror x tr.req ∧ tr.write = true := by
    intro b hb
    unfold mirrorOf at hb
    split at hb
    · next hw => exact ⟨List.mem_singleton.mp hb, hw⟩
    · cases hb
  constructor
  · exact hseat.waiting
  · exact hseat.waiting_nodup
  · intro q' hq'
    rcases List.mem_append.mp hq' with hold | hnew
    · exact hseat.disk q' hold
    · cases (hmirror _ hnew).1
  · intro y w hw
    rcases List.mem_append.mp hw with hold | hnew
    · exact hseat.mirror y w hold
    · obtain ⟨heq, hwrite⟩ := hmirror _ hnew
      cases heq
      rw [Function.update_self, ← htransfer.write]
      exact ⟨nofun, hwrite⟩
  · refine List.pairwise_append.mpr ⟨h.bios, ?_, ?_⟩
    · unfold mirrorOf
      split
      · exact List.pairwise_singleton _ _
      · exact .nil
    · intro a hmem b hb
      rw [(hmirror b hb).1]
      refine ⟨nofun, ?_, ?_⟩
      · rintro y w w' rfl heq
        cases heq
        exact hx w hmem
      · rintro q' rfl - - p
        have hplace := h.disk q' hmem
        refine hledger.apart q' tr.req p ?_ (by rw [hplace]; rfl) (by rw [hq]; rfl)
        rintro rfl
        exact ha.disk hmem
  · intro y hy
    dsimp only at hy ⊢
    by_cases hyx : y = x
    · subst hyx
      rw [Function.update_self, enterCtx_req, enterCtx_flight]
      refine ⟨tr.req, (tr.cb, tr.chunkIndex), rfl, Function.update_self .., ?_, hcb.symm⟩
      rw [htransfer.write]
    · rw [Function.update_of_ne hyx] at hy ⊢
      exact hseat.held y hy
  · intro wr hwr
    rcases List.mem_append.mp hwr with hold | hnew
    · obtain ⟨hpast, hof, hcarries⟩ := hseat.posted wr hold
      refine ⟨hpast, hof, ?_⟩
      rintro ⟨hflight, hreq⟩
      dsimp only at hflight hreq
      by_cases hyx : wr.ctx = x
      · rw [hyx, Function.update_self, enterCtx_req] at hreq
        exact absurd (Option.some.inj hreq).symm (hposted wr hold)
      · rw [Function.update_of_ne hyx] at hflight hreq
        exact hcarries ⟨hflight, hreq⟩
    · rw [List.mem_singleton.mp hnew]
      dsimp only
      rw [Function.update_self]
      exact ⟨rfl, htransfer, fun _ => rfl⟩
  · rw [List.map_append, List.map_singleton, List.nodup_append_comm]
    refine List.nodup_cons.mpr ⟨?_, h.posted_nodup⟩
    intro hmem
    obtain ⟨v, hv, hreq⟩ := List.mem_map.mp hmem
    exact hposted v hv hreq

end Seats

/-- The fields of a context that the completions and the drain read. -/
structure HasFields (c : RdmaCtx) (tr : Transfer) : Prop where
  chunkIndex : c.chunkIndex = tr.chunkIndex
  chunkPtr : tr.write = true → c.chunkPtr = some tr.chunkIndex
  offset : tr.write = true → c.offset = tr.offset
  len : tr.write = true → c.len = tr.len

lemma enterCtx_hasFields (tr : Transfer) (c : RdmaCtx) : HasFields (enterCtx tr c) tr := by
  unfold enterCtx
  split
  · exact ⟨rfl, fun _ => rfl, fun _ => rfl, fun _ => rfl⟩
  · next hw => exact ⟨rfl, fun h => absurd h hw, fun h => absurd h hw, fun h => absurd h hw⟩

/-- Free contexts are not mirrored and have no work request on a server that is up; there the
context of every work request is in flight with its request. -/
structure CtxInv (cfg : DeviceCfg) (failed : Nat → Bool) (d : Device) : Prop where
  tail : ∀ p, -1 ≤ (d.pools p).tail
  own : ∀ p, ∀ x ∈ (d.pools p).free, (x.cb, x.queue) = p ∧ x.slot < cfg.queueDepth
  nodup : ∀ p, (d.pools p).free.Nodup
  free : ∀ p, ∀ x ∈ (d.pools p).free, (d.ctxs x).inFlight ≠ .read ∧
    (∀ w, .mirror x w ∉ d.bios) ∧ (failed x.cb = false → ∀ wr ∈ d.posted, wr.ctx ≠ x)
  reading : ∀ x, (d.ctxs x).inFlight = .read → ∀ w, .mirror x w ∉ d.bios
  mirrored : ∀ x w, .mirror x w ∈ d.bios → x.slot < cfg.queueDepth
  ctx : ∀ wr ∈ d.posted, wr.ctx ∈ ctxIds cfg wr.transfer.cb
  carries : ∀ wr ∈ d.posted, failed wr.transfer.cb = false → Carries d wr
  fields : ∀ wr ∈ d.posted, Carries d wr → HasFields (d.ctxs wr.ctx) wr.transfer

section CtxInv

variable {failed failed' : Nat → Bool} {queue : Nat} {pool : FreeCtxs}

lemma CtxInv.ctx_cb (h : CtxInv cfg failed d) (hwr : wr ∈ d.posted) :
    wr.ctx.cb = wr.transfer.cb := (mem_ctxIds.mp (h.ctx wr hwr)).1

lemma CtxInv.inj (h : CtxInv cfg failed d) (hseats : Seats place reqs d) {wr' : WorkRequest}
    (hwr : wr ∈ d.posted) (hwr' : wr' ∈ d.posted) (hctx : wr.ctx = wr'.ctx)
    (hup : failed wr.transfer.cb = false) (hcarries : Carries d wr') : wr = wr' := by
  have hreq := (h.carries wr hwr hup).2
  rw [hctx, hcarries.2] at hreq
  exact List.inj_on_of_nodup_map hseats.posted_nodup hwr hwr' (Option.some.inj hreq).symm

lemma CtxInv.shrink (h : CtxInv cfg failed d) (hpools : d'.pools = d.pools)
    (hctxs : d'.ctxs = d.ctxs) (hbios : ∀ x w, .mirror x w ∈ d'.bios → .mirror x w ∈ d.bios)
    (hposted : ∀ wr ∈ d'.posted, wr ∈ d.posted)
    (hfailed : ∀ c, failed' c = false → failed c = false) : CtxInv cfg failed' d' := by
  constructor
  · rw [hpools]
    exact h.tail
  · rw [hpools]
    exact h.own
  · rw [hpools]
    exact h.nodup
  · rw [hpools, hctxs]
    intro p x hx
    obtain ⟨hread, hmirror, hunposted⟩ := h.free p x hx
    exact ⟨hread, fun w hw => hmirror w (hbios x w hw),
      fun hup wr hwr => hunposted (hfailed _ hup) wr (hposted wr hwr)⟩
  · rw [hctxs]
    exact fun x hx w hw => h.reading x hx w (hbios x w hw)
  · exact fun x w hw => h.mirrored x w (hbios x w hw)
  · exact fun wr hwr => h.ctx wr (hposted wr hwr)
  · unfold Carries
    rw [hctxs]
    exact fun wr hwr hup => h.carries wr (hposted wr hwr) (hfailed _ hup)
  · unfold Carries
    rw [hctxs]
    exact fun wr hwr hh => h.fields wr (hposted wr hwr) hh

lemma CtxInv.settle {c : RdmaCtx} (h : CtxInv cfg failed d) (hc : c.inFlight = .idle)
    (hx : failed x.cb = false → ∀ wr ∈ d.posted, wr.ctx ≠ x) : CtxInv cfg failed (setCtx d x c) := by
  have hread : ∀ {y}, (Function.update d.ctxs x c y).inFlight = .read →
      (d.ctxs y).inFlight = .read := by
    intro y hy
    by_cases hyx : y = x
    · subst hyx
      rw [Function.update_self, hc] at hy
      cases hy
    · rwa [Function.update_of_ne hyx] at hy
  have hcarries : ∀ {wr}, Carries (setCtx d x c) wr → wr.ctx ≠ x ∧ Carries d wr := by
    rintro wr ⟨hflight, hreq⟩
    have hne : wr.ctx ≠ x := by
      intro he
      simp only [setCtx, he, Function.update_self, hc] at hflight
      exact hflight rfl
    simp only [setCtx, Function.update_of_ne hne] at hflight hreq
    exact ⟨hne, hflight, hreq⟩
  constructor
  · exact h.tail
  · exact h.own
  · exact h.nodup
  · intro p y hy
    obtain ⟨hnot, hrest⟩ := h.free p y hy
    exact ⟨fun hr => hnot (hread hr), hrest⟩
  · exact fun y hy => h.reading y (hread hy)
  · exact h.mirrored
  · exact h.ctx
  · intro wr hwr hup
    have hne : wr.ctx ≠ x := by
      rintro rfl
      exact hx (h.ctx_cb hwr ▸ hup) wr hwr rfl
    have hold := h.carries wr hwr hup
    unfold Carries
    simp only [setCtx, Function.update_of_ne hne]
    exact hold
  · intro wr hwr hh
    obtain ⟨hne, hold⟩ := hcarries hh
    simp only [setCtx, Function.update_of_ne hne]
    exact h.fields wr hwr hold

lemma CtxInv.insert (h : CtxInv cfg failed d) (hfree : ∀ p, x ∉ (d.pools p).free)
    (hslot : x.slot < cfg.queueDepth) (hread : (d.ctxs x).inFlight ≠ .read)
    (hmirror : ∀ w, .mirror x w ∉ d.bios)
    (hx : failed x.cb = false → ∀ wr ∈ d.posted, wr.ctx ≠ x) :
    CtxInv cfg failed (insertCtx d x) := by
  have hpool := insertCtx_pool h.tail x
  refine ⟨insertCtx_tail h.tail x, ?_, ?_, ?_, h.reading, h.mirrored, h.ctx, h.carries, h.fields⟩
  · intro p y hy
    rw [hpool, List.mem_append] at hy
    rcases hy with hy | hy
    · exact h.own p y hy
    · split at hy
      · next hp =>
        rw [List.mem_singleton.mp hy]
        exact ⟨hp.symm, hslot⟩
      · cases hy
  · intro p
    rw [hpool]
    split
    · rw [List.nodup_append_comm]
      exact List.nodup_cons.mpr ⟨hfree p, h.nodup p⟩
    · rw [List.append_nil]
      exact h.nodup p
  · intro p y hy
    rw [hpool, List.mem_append] at hy
    rcases hy with hy | hy
    · exact h.free p y hy
    · split at hy
      · rw [List.mem_singleton.mp hy]
        exact ⟨hread, hmirror, hx⟩
      · cases hy

lemma CtxInv.take (h : CtxInv cfg failed d)
    (hget : getCtx (d.pools (tr.cb, queue)) = some (x, pool)) :
    CtxInv cfg failed { d with pools := Function.update d.pools (tr.cb, queue) pool } ∧
      (∀ p, x ∉ (Function.update d.pools (tr.cb, queue) pool p).free) ∧
      x.cb = tr.cb ∧ x.queue = queue ∧ x.slot < cfg.queueDepth ∧
      (d.ctxs x).inFlight ≠ .read ∧ (∀ w, .mirror x w ∉ d.bios) ∧
      (failed x.cb = false → ∀ wr ∈ d.posted, wr.ctx ≠ x) := by
  obtain ⟨hfree, htail⟩ := free_getCtx (h.tail _) hget
  have hx : x ∈ (d.pools (tr.cb, queue)).free := by
    rw [hfree]
    simp
  have hnd := h.nodup (tr.cb, queue)
  rw [hfree, List.nodup_append_comm] at hnd
  obtain ⟨hnot, hpool⟩ := List.nodup_cons.mp hnd
  obtain ⟨hown, hslot⟩ := h.own _ x hx
  have hsub : ∀ p, (Function.update d.pools (tr.cb, queue) pool p).free.Sublist
      (d.pools p).free := by
    intro p
    by_cases hp : p = (tr.cb, queue)
    · subst hp
      rw [Function.update_self, hfree]
      exact List.sublist_append_left _ _
    · rw [Function.update_of_ne hp]
  refine ⟨⟨?_, fun p y hy => h.own p y ((hsub p).subset hy), fun p => (h.nodup p).sublist (hsub p),
    fun p y hy => h.free p y ((hsub p).subset hy), h.reading, h.mirrored, h.ctx, h.carries,
    h.fields⟩, ?_, (Prod.mk.inj hown).1, (Prod.mk.inj hown).2, hslot, h.free _ x hx⟩
  · intro p
    by_cases hp : p = (tr.cb, queue)
    · subst hp
      simp only [Function.update_self]
      exact htail
    · simp only [Function.update_of_ne hp]
      exact h.tail p
  · intro p hp
    by_cases hpq : p = (tr.cb, queue)
    · subst hpq
      rw [Function.update_self] at hp
      exact hnot hp
    · have hown' := (h.own p x ((hsub p).subset hp)).1
      exact hpq (hown'.symm.trans hown)

lemma CtxInv.launch {c : RdmaCtx} (h : CtxInv cfg failed d)
    (hfree : ∀ p, x ∉ (d.pools p).free) (hctx : x ∈ ctxIds cfg tr.cb)
    (hmirror : ∀ w, .mirror x w ∉ d.bios)
    (hx : failed x.cb = false → ∀ wr ∈ d.posted, wr.ctx ≠ x)
    (hposted : ∀ wr ∈ d.posted, wr.transfer.req ≠ tr.req) :
    CtxInv cfg failed { d with
      ctxs := Function.update d.ctxs x (enterCtx tr c)
      bios := d.bios ++ mirrorOf x tr
      posted := d.posted ++ [⟨x, tr⟩] } := by
  obtain ⟨hcb, -, hslot⟩ := mem_ctxIds.mp hctx
  have hbio : ∀ y w, .mirror y w ∈ d.bios ++ mirrorOf x tr →
      .mirror y w ∈ d.bios ∨ y = x ∧ tr.write = true := by
    intro y w hw
    rcases List.mem_append.mp hw with hold | hnew
    · exact .inl hold
    · unfold mirrorOf at hnew
      split at hnew
      · next hwrite =>
        cases List.mem_singleton.mp hnew
        exact .inr ⟨rfl, hwrite⟩
      · cases hnew
  have hctxs : ∀ y, y ≠ x → Function.update d.ctxs x (enterCtx tr c) y = d.ctxs y :=
    fun y hy => Function.update_of_ne hy _ _
  -- an older work request of the context is not in flight any more
  have hcarries : ∀ wr ∈ d.posted, Carries { d with
      ctxs := Function.update d.ctxs x (enterCtx tr c)
      bios := d.bios ++ mirrorOf x tr
      posted := d.posted ++ [⟨x, tr⟩] } wr → wr.ctx ≠ x ∧ Carries d wr := by
    rintro wr hwr ⟨hflight, hreq⟩
    dsimp only at hflight hreq
    have hne : wr.ctx ≠ x := by
      intro he
      rw [he, Function.update_self, enterCtx_req] at hreq
      exact hposted wr hwr (Option.some.inj hreq).symm
    rw [hctxs _ hne] at hflight hreq
    exact ⟨hne, hflight, hreq⟩
  constructor
  · exact h.tail
  · exact h.own
  · exact h.nodup
  · intro p y hy
    have hne : y ≠ x := by
      rintro rfl
      exact hfree p hy
    obtain ⟨hread, hold, hunposted⟩ := h.free p y hy
    dsimp only
    rw [hctxs y hne]
    refine ⟨hread, fun w hw => ?_, fun hup wr hwr => ?_⟩
    · rcases hbio y w hw with hw | ⟨he, -⟩
      · exact hold w hw
      · exact hne he
    · rcases List.mem_append.mp hwr with hw | hw
      · exact hunposted hup wr hw
      · rw [List.mem_singleton.mp hw]
        exact fun he => hne he.symm
  · intro y hy w hw
    dsimp only at hy
    rcases hbio y w hw with hold | ⟨rfl, hwrite⟩
    · by_cases hyx : y = x
      · exact hmirror w (hyx ▸ hold)
      · rw [hctxs y hyx] at hy
        exact h.reading y hy w hold
    · rw [Function.update_self, enterCtx_flight, hwrite] at hy
      cases hy
  · intro y w hw
    rcases hbio y w hw with hold | ⟨rfl, -⟩
    · exact h.mirrored y w hold
    · exact hslot
  · intro wr hwr
    rcases List.mem_append.mp hwr with hold | hnew
    · exact h.ctx wr hold
    · rw [List.mem_singleton.mp hnew]
      exact hctx
  · intro wr hwr hup
    rcases List.mem_append.mp hwr with hold | hnew
    · have hne : wr.ctx ≠ x := by
        intro he
        refine hx ?_ wr hold he
        rw [← he, h.ctx_cb hold]
        exact hup
      have hold' := h.carries wr hold hup
      unfold Carries at hold' ⊢
      dsimp only
      rw [hctxs _ hne]
      exact hold'
    · rw [List.mem_singleton.mp hnew]
      unfold Carries
      dsimp only
      rw [Function.update_self]
      exact ⟨enterCtx_inFlight tr c, enterCtx_req tr c⟩
  · intro wr hwr hh
    rcases List.mem_append.mp hwr with hold | hnew
    · obtain ⟨hne, hh'⟩ := hcarries wr hold hh
      dsimp only
      rw [hctxs _ hne]
      exact h.fields wr hold hh'
    · rw [List.mem_singleton.mp hnew]
      dsimp only
      rw [Function.update_self]
      exact enterCtx_hasFields tr c

end CtxInv

end DisStore.Proofs
