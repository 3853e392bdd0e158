import DisStore.Proofs.DisconnectOnce
import DisStore.Proofs.PagePlaces
import DisStore.Proofs.TwoChunkWrites

/-!
# Which copy of a page is read

A page is recorded if its chunk is mapped to a slab and its bit is set in the bitmap of the
slab. The tables lead from a chunk to a slab of a server that is up, and the slab is bound to
the device for this chunk: it is bound before the tables lead to it, and given back after they
have stopped to. Binding a slab is the only operation that makes the tables lead to a slab, and
the only one that sets a bit is the completion of an RDMA write.
-/

namespace DisStore.Proofs
open DisStore DisStore.Lib

/-- The tables lead from chunk `x` to the slab. -/
def RoutesTo (t : ChunkTables) (x : Int) (slab : Nat × Nat) : Prop :=
  t.sess.cbIndexMap x = slab.1 ∧ t.sess.chunkMapCbChunk x = slab.2

/-- A read of page `p` is sent to the slab. -/
def PageRecorded (t : ChunkTables) (p : Nat) (slab : Nat × Nat) : Prop :=
  RoutesTo t (p / 262144 : Nat) slab ∧
    ((t.cbs slab.1).chunkList slab.2).bitmap (p % 262144) = true

/-- A page-aligned request inside the device and not longer than a chunk, a read of one page. -/
structure PageRequest (capacityG : Nat) (r : IoRequest) : Prop where
  admitted : Admitted capacityG 262144 r
  start_page : isPageSize ∣ r.start
  len_page : isPageSize ∣ r.len
  read : r.write = false → r.len = isPageSize

/-- Chunk `x` is on the slab, for this device and for its server. -/
structure OnSlab (maxMr : Nat) (bound : Nat × Nat → Option Int) (failed : Nat → Bool)
    (t : ChunkTables) (x : Int) (slab : Nat × Nat) : Prop where
  bound : bound slab = some x
  chunkMap : (t.cbs slab.1).chunkMap slab.2 = x
  chunk : 0 ≤ x
  lt : slab.2 < maxMr
  up : failed slab.1 = false
  state : t.sess.cbStateList slab.1 = .mapped

/-- The tables lead to slabs that are bound. A slab that the next DONE message gives back is
unmapped, and stays bound until then. -/
structure RouteInv (maxMr : Nat) (bound : Nat × Nat → Option Int) (failed : Nat → Bool)
    (drains scans : Nat → Option Nat) (t : ChunkTables) : Prop where
  index : ∀ x, t.sess.cbIndexMap x = -1 ∨ ∃ c : Nat, t.sess.cbIndexMap x = c
  slab : ∀ x, t.sess.chunkMapCbChunk x = -1 ∨ ∃ i : Nat, t.sess.chunkMapCbChunk x = i
  route : ∀ x slab, RoutesTo t x slab → OnSlab maxMr bound failed t x slab
  flagged : ∀ c, drains c ≠ none → ∀ i < maxMr, (t.cbs c).sendBuf.rkey i ≠ 0 →
    (t.cbs c).chunkMap i = -1 ∧ (failed c = false → bound (c, i) ≠ none)
  scans : ∀ c, scans c ≠ none → failed c = true

/-- Routes and bits may vanish. -/
structure Shrinks (t t' : ChunkTables) : Prop where
  index : ∀ x, t'.sess.cbIndexMap x = -1 ∨ t'.sess.cbIndexMap x = t.sess.cbIndexMap x
  slab : ∀ x, t'.sess.chunkMapCbChunk x = -1 ∨
    t'.sess.chunkMapCbChunk x = t.sess.chunkMapCbChunk x
  bits : ∀ c i p, ((t'.cbs c).chunkList i).bitmap p = true →
    ((t.cbs c).chunkList i).bitmap p = true

variable {maxMr capacityG : Nat} {bound bound' : Nat × Nat → Option Int}
  {failed failed' : Nat → Bool} {drains drains' scans scans' : Nat → Option Nat}
  {t t' : ChunkTables} {x : Int} {slab slab' : Nat × Nat} {p c i k : Nat} {r : IoRequest}
  {cfg : DeviceCfg} {d d' : Device}

section Pages

lemma PageRequest.one_page (h : PageRequest capacityG r) (hread : r.write = false) :
    r.pages = 1 := by
  rw [IoRequest.pages, h.read hread]
  rfl

lemma PageRequest.gbIndex (h : PageRequest capacityG r) (hsize : capacityG < 2 ^ 31) :
    r.gbIndex = (r.firstPage / 262144 : Nat) := by
  rw [(h.admitted.gbIndex_eq hsize).1, IoRequest.firstPage, Nat.div_div_eq_div_mul]
  rfl

lemma PageRequest.endIndex (h : PageRequest capacityG r) (hsize : capacityG < 2 ^ 31) :
    r.endIndex = ((r.start + r.len - isPageSize) / oneGb : Nat) := by
  have hlen := Nat.le_of_dvd h.admitted.len_pos h.len_page
  exact (h.admitted.endIndex_eq hsize (by omega)).1

lemma PageRequest.transferOf (h : PageRequest capacityG r) (hsize : capacityG < 2 ^ 31)
    (hone : r.gbIndex = r.endIndex) (q c i : Nat) :
    TransferOf r ⟨q, r.write, c, i, r.chunkOffset, r.len⟩ := by
  have hpos := h.admitted.len_pos
  obtain ⟨a, ha⟩ := h.start_page
  obtain ⟨b, hb⟩ := h.len_page
  rw [(h.admitted.gbIndex_eq hsize).1, h.endIndex hsize, Int.natCast_inj] at hone
  refine ⟨rfl, ?_, rfl, ?_⟩
  · dsimp only
    unfold IoRequest.firstPage IoRequest.chunkOffset oneGb isPageSize
    omega
  · dsimp only
    unfold IoRequest.chunkOffset
    unfold oneGb isPageSize at *
    omega

lemma PageRequest.one_chunk (h : PageRequest capacityG r) (hsize : capacityG < 2 ^ 31)
    (hread : r.write = false) : r.gbIndex = r.endIndex := by
  rw [(h.admitted.gbIndex_eq hsize).1, h.endIndex hsize, h.read hread, Nat.add_sub_cancel]

lemma PageRequest.crossing (h : PageRequest capacityG r) (hsize : capacityG < 2 ^ 31)
    (htwo : r.gbIndex ≠ r.endIndex) : CrossingWrite capacityG 262144 r := by
  have hwrite : r.write = true := by
    rw [← Bool.not_eq_false]
    exact fun hread => htwo (h.one_chunk hsize hread)
  have hpos := h.admitted.len_pos
  have hle := h.admitted.len_le
  obtain ⟨b, hb⟩ := h.len_page
  refine ⟨h.admitted, h.start_page, h.len_page, hwrite, ?_⟩
  rw [(h.admitted.gbIndex_eq hsize).1, h.endIndex hsize, Ne, Int.natCast_inj] at htwo
  unfold oneGb isPageSize at *
  omega

lemma TransferOf.page {tr : Transfer} (h : TransferOf r tr) (hp : r.covers p) :
    p / 262144 = r.firstPage / 262144 ∧
      p % 262144 = tr.offset / isPageSize + (p - r.firstPage) := by
  have hoff := h.offset
  have hlen := h.len
  have hinside := h.inside
  unfold IoRequest.covers at hp
  unfold oneGb isPageSize at *
  omega

lemma TransferOf.covers {tr : Transfer} (h : TransferOf r tr)
    (hchunk : p / 262144 = r.firstPage / 262144) (hlow : tr.offset / isPageSize ≤ p % 262144)
    (hhigh : p % 262144 < tr.offset / isPageSize + tr.len / isPageSize) : r.covers p := by
  have hoff := h.offset
  have hlen := h.len
  have hinside := h.inside
  unfold IoRequest.covers
  unfold oneGb isPageSize at *
  omega

end Pages

section Recorded

lemma RoutesTo.unique (h : RoutesTo t x slab) (h' : RoutesTo t x slab') : slab = slab' := by
  have hcb := h.1.symm.trans h'.1
  have hchunk := h.2.symm.trans h'.2
  exact Prod.ext (Int.natCast_inj.mp hcb) (Int.natCast_inj.mp hchunk)

lemma Shrinks.routesTo (h : Shrinks t t') (hr : RoutesTo t' x slab) : RoutesTo t x slab := by
  obtain ⟨hcb, hchunk⟩ := hr
  constructor
  · rcases h.index x with hnone | hsame
    · omega
    · rw [← hsame]
      exact hcb
  · rcases h.slab x with hnone | hsame
    · omega
    · rw [← hsame]
      exact hchunk

lemma Shrinks.recorded (h : Shrinks t t') (hr : PageRecorded t' p slab) : PageRecorded t p slab :=
  ⟨h.routesTo hr.1, h.bits _ _ _ hr.2⟩

lemma Shrinks.of_eq (hindex : t'.sess.cbIndexMap = t.sess.cbIndexMap)
    (hslab : t'.sess.chunkMapCbChunk = t.sess.chunkMapCbChunk)
    (hbits : ∀ c, (t'.cbs c).chunkList = (t.cbs c).chunkList) : Shrinks t t' := by
  refine ⟨fun x => .inr ?_, fun x => .inr ?_, fun c i p hp => ?_⟩
  · rw [hindex]
  · rw [hslab]
  · rwa [hbits] at hp

lemma recorded_updateBitmap {a b : Nat} {f : (Nat → Bool) → Nat → Bool} :
    PageRecorded (updateBitmap t a b f) p slab ↔
      RoutesTo t (p / 262144 : Nat) slab ∧
        if slab = (a, b) then f ((t.cbs a).chunkList b).bitmap (p % 262144) = true
        else ((t.cbs slab.1).chunkList slab.2).bitmap (p % 262144) = true := by
  obtain ⟨c, i⟩ := slab
  unfold PageRecorded updateBitmap
  simp only [Int.toNat_natCast, Prod.mk.injEq]
  by_cases hc : c = a
  · subst hc
    by_cases hi : i = b
    · subst hi
      simp only [Function.update_self, and_self, if_true]
      rfl
    · simp only [Function.update_self, Function.update_of_ne hi, hi, and_false, if_false]
      rfl
  · simp only [Function.update_of_ne hc, hc, false_and, if_false]
    rfl

lemma recorded_clearChunk {mapped : Prop} [Decidable mapped] {g : Int}
    (hindex : t.sess.cbIndexMap g = -1 ∨ ∃ c : Nat, t.sess.cbIndexMap g = c)
    (hmapped : mapped ↔ t.sess.cbIndexMap g ≠ -1 ∧ t.sess.chunkMapCbChunk g ≠ -1)
    {offset len : Nat}
    (hr : PageRecorded (if mapped then
      updateBitmap t (t.sess.cbIndexMap g) (t.sess.chunkMapCbChunk g)
        fun bitmap => bitmapGroupClear bitmap offset len else t) p slab) :
    PageRecorded t p slab ∧
      ¬(RoutesTo t g slab ∧ ((p % 262144 : Nat) : Int) ∈ bitmapGroup offset len) := by
  by_cases hm : mapped
  · obtain ⟨c, hc⟩ := hindex.resolve_left (hmapped.mp hm).1
    have hnat : updateBitmap t (t.sess.cbIndexMap g) (t.sess.chunkMapCbChunk g)
        (fun bitmap => bitmapGroupClear bitmap offset len) =
        updateBitmap t (c : Nat) ((t.sess.chunkMapCbChunk g).toNat : Nat)
          fun bitmap => bitmapGroupClear bitmap offset len := by
      rw [hc]
      rfl
    rw [if_pos hm, hnat, recorded_updateBitmap] at hr
    obtain ⟨hroute, hbit⟩ := hr
    split at hbit
    · next hslab =>
      simp only [bitmapGroupClear, Bool.and_eq_true, Bool.not_eq_true', decide_eq_false_iff_not]
        at hbit
      refine ⟨⟨hroute, ?_⟩, fun hclear => hbit.1 hclear.2⟩
      rw [hslab]
      exact hbit.2
    · next hslab =>
      refine ⟨⟨hroute, hbit⟩, ?_⟩
      rintro ⟨⟨hcb, hchunk⟩, -⟩
      refine hslab (Prod.ext ?_ ?_)
      · rw [hc, Int.natCast_inj] at hcb
        exact hcb.symm
      · rw [hchunk, Int.toNat_natCast]
  · rw [if_neg hm] at hr
    refine ⟨hr, ?_⟩
    rintro ⟨⟨hcb, hchunk⟩, -⟩
    exact hm (hmapped.mpr ⟨by omega, by omega⟩)

lemma RouteInv.clearTwoChunks (h : RouteInv maxMr bound failed drains scans t)
    (hsize : capacityG < 2 ^ 31) (hr : CrossingWrite capacityG 262144 r)
    (hp : PageRecorded (clearTwoChunks t r) p slab) : PageRecorded t p slab ∧ ¬r.covers p := by
  obtain ⟨hgb, hend⟩ := hr.indices hsize
  have hsess : ∀ (mapped : Prop) [Decidable mapped] (a b : Int) (f : (Nat → Bool) → Nat → Bool),
      (if mapped then updateBitmap t a b f else t).sess = t.sess := by
    intro mapped _ a b f
    split <;> rfl
  simp only [DisStore.clearTwoChunks] at hp
  obtain ⟨hp, hsecond⟩ := recorded_clearChunk (by rw [hsess]; exact h.index _)
    (by simp [hr.write]) hp
  obtain ⟨hp, hfirst⟩ := recorded_clearChunk (h.index _) (by simp [hr.write]) hp
  refine ⟨hp, fun hcovers => ?_⟩
  unfold RoutesTo at hsecond
  rw [hsess] at hsecond
  have hpage : requestPages r p := by
    obtain ⟨a, ha⟩ := hr.start_page
    obtain ⟨b, hb⟩ := hr.len_page
    obtain ⟨hlow, hhigh⟩ := hcovers
    unfold IoRequest.firstPage IoRequest.pages at *
    unfold requestPages isPageSize at *
    omega
  rcases hr.chunk_of_page hsize hpage with hchunk | hchunk
  · refine hfirst ⟨?_, (hr.mem_first hsize _).mpr ⟨p, hpage, rfl, hchunk⟩⟩
    rw [hgb, ← hchunk]
    exact hp.1
  · refine hsecond ⟨?_, (hr.mem_second hsize _).mpr ⟨p, hpage, rfl, hchunk⟩⟩
    rw [hend, ← hchunk]
    exact hp.1

/-- `IS_request` sends a request to the slab of its chunk, a read only if its page is recorded,
or to the disk; then no page of a write stays recorded, unless `rdma_on` is the reason. -/
lemma RouteInv.isRequest (h : RouteInv maxMr bound failed drains scans t)
    (hsize : capacityG < 2 ^ 31) (hr : PageRequest capacityG r)
    (hoff : r.write = true → r.gbIndex = r.endIndex → t.sess.rdmaOn = false →
      ∀ p slab, r.covers p → ¬PageRecorded t p slab) :
    (∃ c i : Nat, isRequest t r = (t, .transfer c i r.chunkOffset) ∧
      RoutesTo t (r.firstPage / 262144 : Nat) (c, i) ∧
      (∀ q, TransferOf r ⟨q, r.write, c, i, r.chunkOffset, r.len⟩) ∧
      (r.write = false → PageRecorded t r.firstPage (c, i))) ∨
    ∃ t', isRequest t r = (t', .disk) ∧ SameMaps t t' ∧
      (∀ p slab, PageRecorded t' p slab → PageRecorded t p slab) ∧
      (r.write = true → ∀ p slab, r.covers p → ¬PageRecorded t' p slab) := by
  by_cases hone : r.gbIndex = r.endIndex
  · have htransfer := hr.transferOf hsize hone
    have hgb := hr.gbIndex hsize
    unfold DisStore.isRequest
    rw [if_pos hone]
    dsimp only
    rw [hgb]
    by_cases hdisk : t.sess.cbIndexMap (r.firstPage / 262144 : Nat) = -1 ∨
        t.sess.chunkMapCbChunk (r.firstPage / 262144 : Nat) = -1 ∨ t.sess.rdmaOn = false
    · rw [if_pos hdisk]
      refine .inr ⟨t, rfl, .refl t, fun _ _ hp => hp, fun hwrite p slab hp hrec => ?_⟩
      obtain ⟨⟨hcb, hchunk⟩, -⟩ := id hrec
      rw [((htransfer 0 0 0).page hp).1] at hcb hchunk
      rcases hdisk with hno | hno | hno
      · omega
      · omega
      · exact hoff hwrite hone hno p slab hp hrec
    · rw [if_neg hdisk]
      push Not at hdisk
      obtain ⟨c, hc⟩ := (h.index _).resolve_left hdisk.1
      obtain ⟨i, hi⟩ := (h.slab _).resolve_left hdisk.2.1
      rw [hc, hi]
      cases hwrite : r.write with
      | true =>
        rw [hwrite] at htransfer
        refine .inl ⟨c, i, rfl, ⟨hc, hi⟩, fun q => htransfer q c i, fun hread => ?_⟩
        cases hread
      | false =>
        rw [hwrite] at htransfer
        have hbit : r.bitmapIndex.toNat = r.firstPage % 262144 := by
          have hoffset := (htransfer 0 0 0).offset
          dsimp only at hoffset
          rw [IoRequest.bitmapIndex, hoffset, toInt32_natCast (by omega), Int.toNat_natCast]
        simp only [Bool.false_eq_true, if_false, Int.toNat_natCast]
        rw [hbit]
        split
        · next hset =>
          exact .inl ⟨c, i, rfl, ⟨hc, hi⟩, fun q => htransfer q c i, fun _ => ⟨⟨hc, hi⟩, hset⟩⟩
        · refine .inr ⟨t, rfl, .refl t, fun _ _ hp => hp, fun htrue => ?_⟩
          cases htrue
  · have hcross := hr.crossing hsize hone
    refine .inr ⟨DisStore.clearTwoChunks t r, ?_, ?_, fun p slab hp => (h.clearTwoChunks hsize hcross hp).1,
      fun _ p slab hp hrec => (h.clearTwoChunks hsize hcross hrec).2 hp⟩
    · rw [DisStore.isRequest, if_neg hone]
    · have hmaps := sameMaps_isRequest t r
      rwa [DisStore.isRequest, if_neg hone] at hmaps

end Recorded

section RouteInv

lemma OnSlab.frame (h : OnSlab maxMr bound failed t x slab) (hbound : bound' slab = bound slab)
    (hfailed : failed' slab.1 = failed slab.1)
    (hmap : (t'.cbs slab.1).chunkMap slab.2 = (t.cbs slab.1).chunkMap slab.2)
    (hstate : t'.sess.cbStateList slab.1 = t.sess.cbStateList slab.1) :
    OnSlab maxMr bound' failed' t' x slab :=
  ⟨hbound.trans h.bound, hmap.trans h.chunkMap, h.chunk, h.lt, hfailed.trans h.up,
    hstate.trans h.state⟩

lemma RouteInv.shrink (h : RouteInv maxMr bound failed drains scans t) (hs : Shrinks t t')
    (hroute : ∀ x slab, RoutesTo t' x slab → OnSlab maxMr bound failed t x slab →
      OnSlab maxMr bound' failed' t' x slab)
    (hflagged : ∀ c, drains' c ≠ none → ∀ i < maxMr, (t'.cbs c).sendBuf.rkey i ≠ 0 →
      (t'.cbs c).chunkMap i = -1 ∧ (failed' c = false → bound' (c, i) ≠ none))
    (hscans : ∀ c, scans' c ≠ none → failed' c = true) :
    RouteInv maxMr bound' failed' drains' scans' t' := by
  refine ⟨fun x => ?_, fun x => ?_, ?_, hflagged, hscans⟩
  · rcases hs.index x with hnone | hsame
    · exact .inl hnone
    · rw [hsame]
      exact h.index x
  · rcases hs.slab x with hnone | hsame
    · exact .inl hnone
    · rw [hsame]
      exact h.slab x
  · intro x slab hr
    exact hroute x slab hr (h.route x slab (hs.routesTo hr))

lemma RouteInv.sameMaps (h : RouteInv maxMr bound failed drains scans t) (hm : SameMaps t t') :
    RouteInv maxMr bound failed drains scans t' := by
  refine ⟨?_, ?_, ?_, ?_, h.scans⟩
  · rw [hm.sess]
    exact h.index
  · rw [hm.sess]
    exact h.slab
  · intro x slab hr
    unfold RoutesTo at hr
    rw [hm.sess] at hr
    exact (h.route x slab hr).frame rfl rfl (by rw [hm.chunkMap]) (by rw [hm.sess])
  · intro c hc i hi
    rw [hm.sendBuf, hm.chunkMap]
    exact h.flagged c hc i hi

lemma RouteInv.session {sess : Session} (h : RouteInv maxMr bound failed drains scans t)
    (hindex : sess.cbIndexMap = t.sess.cbIndexMap)
    (hslab : sess.chunkMapCbChunk = t.sess.chunkMapCbChunk)
    (hstate : ∀ c, t.sess.cbStateList c = .mapped → sess.cbStateList c = .mapped) :
    RouteInv maxMr bound failed drains scans { t with sess := sess } := by
  refine h.shrink (.of_eq hindex hslab fun _ => rfl) (fun x slab _ hon => ?_) h.flagged h.scans
  exact hon.frame rfl rfl rfl ((hstate _ hon.state).trans hon.state.symm)

lemma shrinks_forgetChunk (t : ChunkTables) (g : Int) :
    Shrinks t { t with sess := forgetChunk t.sess g } := by
  refine ⟨fun x => .inr rfl, fun x => ?_, fun _ _ _ hp => hp⟩
  by_cases hx : x = g
  · left
    rw [hx]
    exact Function.update_self ..
  · right
    exact Function.update_of_ne hx _ _

lemma RouteInv.forgetChunk (h : RouteInv maxMr bound failed drains scans t) (g : Int) :
    RouteInv maxMr bound failed drains scans { t with sess := forgetChunk t.sess g } :=
  h.shrink (shrinks_forgetChunk t g) (fun _ _ _ hon => hon.frame rfl rfl rfl rfl) h.flagged h.scans

lemma RouteInv.drain (h : RouteInv maxMr bound failed drains scans t) (hc : drains c ≠ none)
    (o : Option Nat) : RouteInv maxMr bound failed (Function.update drains c o) scans t := by
  refine ⟨h.index, h.slab, h.route, fun c' hc' => h.flagged c' ?_, h.scans⟩
  by_cases hcc : c' = c
  · rw [hcc]
    exact hc
  · rwa [Function.update_of_ne hcc] at hc'

lemma RouteInv.scan (h : RouteInv maxMr bound failed drains scans t) (hc : scans c ≠ none)
    (o : Option Nat) : RouteInv maxMr bound failed drains (Function.update scans c o) t := by
  refine ⟨h.index, h.slab, h.route, h.flagged, fun c' hc' => h.scans c' ?_⟩
  by_cases hcc : c' = c
  · rw [hcc]
    exact hc
  · rwa [Function.update_of_ne hcc] at hc'

section Evict

variable {cb : ControlBlock}

/-- The tables after `evict_handler` of server `c` has unmapped the marked slabs. -/
def unmappedTables (maxMr : Nat) (t : ChunkTables) (c : Nat) (cb : ControlBlock) : ChunkTables :=
  { sess := (unmapMarked maxMr t.sess cb).1
    cbs := Function.update t.cbs c (unmapMarked maxMr t.sess cb).2 }

lemma shrinks_unmap (hlist : cb.chunkList = (t.cbs c).chunkList) :
    Shrinks t (unmappedTables maxMr t c cb) := by
  refine ⟨fun x => ?_, fun x => .inr rfl, fun c' i p hp => ?_⟩
  · dsimp only [unmappedTables, unmapMarked]
    split
    · exact .inl rfl
    · exact .inr rfl
  · have hsame : ((unmappedTables maxMr t c cb).cbs c').chunkList = (t.cbs c').chunkList := by
      apply update_field ControlBlock.chunkList
      exact hlist
    rwa [hsame] at hp

lemma RouteInv.unmap (h : RouteInv maxMr bound failed drains scans t)
    (hmap : cb.chunkMap = (t.cbs c).chunkMap) (hlist : cb.chunkList = (t.cbs c).chunkList)
    (hbound : ∀ i ∈ markedSlabs maxMr cb, bound (c, i) ≠ none) :
    RouteInv maxMr bound failed (Function.update drains c (some 0)) scans
      (unmappedTables maxMr t c cb) := by
  refine h.shrink (shrinks_unmap hlist) ?_ ?_ h.scans
  · rintro x ⟨c', i⟩ hr hon
    refine hon.frame rfl rfl ?_ rfl
    dsimp only [unmappedTables]
    by_cases hcc : c' = c
    · subst hcc
      have hmem : i ∉ markedSlabs maxMr cb := by
        intro hmem
        have hany : (markedSlabs maxMr cb).any fun j => decide (cb.chunkMap j = x) := by
          refine List.any_eq_true.mpr ⟨i, hmem, ?_⟩
          rw [hmap, hon.chunkMap]
          simp
        have hcb := hr.1
        dsimp only [unmappedTables, unmapMarked] at hcb
        rw [if_pos hany] at hcb
        omega
      rw [Function.update_self]
      dsimp only [unmapMarked]
      rw [if_neg hmem, hmap]
    · rw [Function.update_of_ne hcc]
  · intro c' hdrains i hi hrkey
    dsimp only [unmappedTables] at hrkey ⊢
    by_cases hcc : c' = c
    · subst hcc
      rw [Function.update_self] at hrkey ⊢
      dsimp only [unmapMarked] at hrkey ⊢
      by_cases hmem : i ∈ markedSlabs maxMr cb
      · rw [if_pos hmem]
        exact ⟨rfl, fun _ => hbound i hmem⟩
      · rw [if_neg hmem, if_pos hi] at hrkey
        exact absurd rfl hrkey
    · rw [Function.update_of_ne hcc] at hdrains hrkey ⊢
      exact h.flagged c' hdrains i hi hrkey

/-- The tables after `evict_handler` of server `c` has sent DONE. -/
def doneTables (maxMr : Nat) (t : ChunkTables) (c : Nat) (sizeG : Int) : ChunkTables :=
  { sess := (finishEvict maxMr sizeG t.sess (t.cbs c)).1
    cbs := Function.update t.cbs c (finishEvict maxMr sizeG t.sess (t.cbs c)).2 }

lemma shrinks_done (maxMr : Nat) (t : ChunkTables) (c : Nat) (sizeG : Int) :
    Shrinks t (doneTables maxMr t c sizeG) := by
  refine ⟨fun x => .inr rfl, fun x => .inr rfl, fun c' i p hp => ?_⟩
  dsimp only [doneTables] at hp
  by_cases hcc : c' = c
  · subst hcc
    rw [Function.update_self] at hp
    dsimp only [finishEvict, sendDoneMsg] at hp
    split at hp
    · cases hp
    · exact hp
  · rwa [Function.update_of_ne hcc] at hp

/-- The slabs that a DONE message of server `c` gives back are not bound any more. -/
def boundAfterDone (maxMr : Nat) (t : ChunkTables) (c : Nat) (bound : Nat × Nat → Option Int) :
    Nat × Nat → Option Int := fun p =>
  if p.1 = c ∧ p.2 < maxMr ∧ (t.cbs c).sendBuf.rkey p.2 ≠ 0 then none else bound p

lemma doneTables_chunkMap (maxMr : Nat) (t : ChunkTables) (c c' : Nat) (sizeG : Int) :
    ((doneTables maxMr t c sizeG).cbs c').chunkMap = (t.cbs c').chunkMap := by
  apply update_field ControlBlock.chunkMap
  rfl

lemma RouteInv.sendDone (h : RouteInv maxMr bound failed drains scans t) (hc : drains c ≠ none)
    (sizeG : Int) :
    RouteInv maxMr (boundAfterDone maxMr t c bound) failed (Function.update drains c none) scans
      (doneTables maxMr t c sizeG) := by
  refine h.shrink (shrinks_done maxMr t c sizeG) ?_ ?_ h.scans
  · rintro x ⟨c', i⟩ - hon
    refine hon.frame (if_neg ?_) rfl (by rw [doneTables_chunkMap]) rfl
    rintro ⟨rfl, hi, hrkey⟩
    have hunmapped := (h.flagged c' hc i hi hrkey).1
    have hmapped := hon.chunkMap
    have hchunk := hon.chunk
    dsimp only at hmapped
    omega
  · intro c' hdrains i hi hrkey
    by_cases hcc : c' = c
    · subst hcc
      rw [Function.update_self] at hdrains
      exact absurd rfl hdrains
    · rw [Function.update_of_ne hcc] at hdrains
      rw [doneTables_chunkMap]
      dsimp only [doneTables] at hrkey
      rw [Function.update_of_ne hcc] at hrkey
      rw [boundAfterDone, if_neg (fun hback => hcc hback.1)]
      exact h.flagged c' hdrains i hi hrkey

end Evict

section Disconnect

/-- The slabs of a server that is lost. -/
def lostBound (c : Nat) (bound : Nat × Nat → Option Int) : Nat × Nat → Option Int := fun p =>
  if p.1 = c then none else bound p

lemma RouteInv.lose (h : RouteInv maxMr bound failed drains scans t) (hs : Shrinks t t')
    (hgone : ∀ x i, ¬RoutesTo t' x (c, i))
    (hmap : ∀ c', (t'.cbs c').chunkMap = (t.cbs c').chunkMap)
    (hsend : ∀ c', (t'.cbs c').sendBuf = (t.cbs c').sendBuf)
    (hstate : ∀ c', c' ≠ c → t'.sess.cbStateList c' = t.sess.cbStateList c')
    (hscans : ∀ c', c' ≠ c → scans' c' = scans c') :
    RouteInv maxMr (lostBound c bound) (Function.update failed c true) drains scans' t' := by
  refine h.shrink hs ?_ ?_ ?_
  · rintro x ⟨c', i⟩ hr hon
    have hcc : c' ≠ c := by
      rintro rfl
      exact hgone x i hr
    exact hon.frame (if_neg hcc) (Function.update_of_ne hcc _ _) (by rw [hmap]) (hstate c' hcc)
  · intro c' hdrains i hi hrkey
    rw [hsend] at hrkey
    rw [hmap]
    obtain ⟨hunmapped, hbound⟩ := h.flagged c' hdrains i hi hrkey
    refine ⟨hunmapped, fun hup => ?_⟩
    have hcc : c' ≠ c := by
      rintro rfl
      rw [Function.update_self] at hup
      cases hup
    rw [Function.update_of_ne hcc] at hup
    rw [lostBound, if_neg hcc]
    exact hbound hup
  · intro c' hc'
    by_cases hcc : c' = c
    · rw [hcc, Function.update_self]
    · rw [Function.update_of_ne hcc]
      rw [hscans c' hcc] at hc'
      exact h.scans c' hc'

lemma shrinks_disallowChunks (maxMr c : Nat) (t : ChunkTables) :
    Shrinks t (disallowChunks maxMr c t) := by
  refine ⟨fun x => ?_, fun x => .inr rfl, fun c' i p hp => ?_⟩
  · dsimp only [disallowChunks]
    split
    · exact .inl rfl
    · exact .inr rfl
  · dsimp only [disallowChunks] at hp
    by_cases hcc : c' = c
    · subst hcc
      rw [Function.update_self] at hp
      dsimp only at hp
      split at hp
      · cases hp
      · exact hp
    · rwa [Function.update_of_ne hcc] at hp

lemma RouteInv.disconnect (h : RouteInv maxMr bound failed drains scans t) :
    RouteInv maxMr (lostBound c bound) (Function.update failed c true) drains
      (Function.update scans c (some 0)) (disallowChunks maxMr c t) := by
  have hs := shrinks_disallowChunks maxMr c t
  refine h.lose hs ?_ ?_ ?_ ?_ ?_
  · intro x i hr
    have hon := h.route x (c, i) (hs.routesTo hr)
    have hchunk := hon.chunk
    have hmap := hon.chunkMap
    dsimp only at hmap
    have hmapped : mappedChunks maxMr (t.cbs c) x = true := by
      refine List.any_eq_true.mpr ⟨i, mem_mappedSlabs.mpr ⟨hon.lt, by omega⟩, ?_⟩
      rw [hmap]
      simp
    have hcb := hr.1
    dsimp only [disallowChunks] at hcb
    rw [if_pos hmapped] at hcb
    omega
  · exact update_field ControlBlock.chunkMap t.cbs rfl
  · exact update_field ControlBlock.sendBuf t.cbs rfl
  · exact fun c' hcc => Function.update_of_ne hcc _ _
  · exact fun c' hcc => Function.update_of_ne hcc _ _

lemma RouteInv.disconnect_connected (h : RouteInv maxMr bound failed drains scans t)
    (hc : t.sess.cbStateList c = .connected) :
    RouteInv maxMr (lostBound c bound) (Function.update failed c true) drains scans
      { t with sess := { t.sess with
        cbStateList := Function.update t.sess.cbStateList c .fail } } := by
  have hs : Shrinks t { t with sess := { t.sess with
      cbStateList := Function.update t.sess.cbStateList c .fail } } :=
    .of_eq rfl rfl fun _ => rfl
  refine h.lose hs ?_ (fun _ => rfl) (fun _ => rfl) (fun c' hcc => Function.update_of_ne hcc _ _)
    fun _ _ => rfl
  intro x i hr
  have hstate := (h.route x (c, i) (hs.routesTo hr)).state
  rw [hc] at hstate
  cases hstate

lemma shrinks_forgetServer (maxMr c : Nat) (t : ChunkTables) :
    Shrinks t (forgetServer maxMr c t) := by
  obtain ⟨hindex, hslab⟩ := foldl_forgetChunk (t.cbs c).chunkMap (mappedSlabs maxMr (t.cbs c)) t.sess
  refine ⟨fun x => .inr ?_, fun x => ?_, fun c' i p hp => ?_⟩
  · exact congrFun hindex x
  · have hx := hslab x
    split at hx
    · exact .inl hx
    · exact .inr hx
  · have hlist : ((forgetServer maxMr c t).cbs c').chunkList = (t.cbs c').chunkList := by
      apply update_field ControlBlock.chunkList
      rfl
    rwa [hlist] at hp

lemma RouteInv.forget (h : RouteInv maxMr bound failed drains scans t) (hc : scans c ≠ none) :
    RouteInv maxMr bound failed drains (Function.update scans c none) (forgetServer maxMr c t) := by
  have hfailed := h.scans c hc
  refine h.shrink (shrinks_forgetServer maxMr c t) ?_ ?_ ?_
  · rintro x ⟨c', i⟩ - hon
    have hcc : c' ≠ c := by
      rintro rfl
      have hup := hon.up
      dsimp only at hup
      rw [hfailed] at hup
      cases hup
    refine hon.frame rfl rfl ?_ ?_
    · dsimp only [forgetServer]
      rw [Function.update_of_ne hcc]
    · exact congrFun (foldl_forgetChunk_cbStateList (t.cbs c) _ t.sess) c'
  · intro c' hdrains i hi hrkey
    have hsend : ((forgetServer maxMr c t).cbs c').sendBuf = (t.cbs c').sendBuf := by
      apply update_field ControlBlock.sendBuf
      rfl
    rw [hsend] at hrkey
    obtain ⟨hunmapped, hbound⟩ := h.flagged c' hdrains i hi hrkey
    refine ⟨?_, hbound⟩
    dsimp only [forgetServer]
    by_cases hcc : c' = c
    · subst hcc
      rw [Function.update_self]
      dsimp only
      rw [hunmapped, ite_self]
    · rw [Function.update_of_ne hcc]
      exact hunmapped
  · intro c' hc'
    by_cases hcc : c' = c
    · rw [hcc]
      exact hfailed
    · rw [Function.update_of_ne hcc] at hc'
      exact h.scans c' hc'

end Disconnect

section Bind

variable {msg : Message}

lemma recvInfoSingle_sendBuf (t : ChunkTables) (c c' : Nat) (msg : Message) :
    ((recvInfoSingle maxMr t c msg).cbs c').sendBuf = (t.cbs c').sendBuf := by
  simp only [recvInfoSingle, singleChunkInit]
  split
  · apply update_field ControlBlock.sendBuf
    rfl
  · apply update_field ControlBlock.sendBuf
    rfl

lemma recvInfoSingle_chunkList (t : ChunkTables) (c c' : Nat) {msg : Message} {i : Nat}
    (hmsg : grantedSlab maxMr msg = some i) :
    ((recvInfoSingle maxMr t c msg).cbs c').chunkList =
      if c' = c then Function.update (t.cbs c).chunkList i (receivedChunk msg i)
      else (t.cbs c').chunkList := by
  simp only [recvInfoSingle, singleChunkInit, hmsg]
  by_cases hcc : c' = c
  · subst hcc
    rw [Function.update_self, if_pos rfl]
  · rw [Function.update_of_ne hcc, if_neg hcc]

lemma shrinks_refused (t : ChunkTables) (c : Nat) (hmsg : grantedSlab maxMr msg = none) :
    Shrinks t (recvInfoSingle maxMr t c msg) := by
  have hsame := recvInfoSingle_refused t c hmsg
  refine .of_eq hsame.index hsame.slab fun c' => ?_
  simp only [recvInfoSingle, singleChunkInit, hmsg]
  apply update_field ControlBlock.chunkList
  rfl

lemma RouteInv.bind_refused (h : RouteInv maxMr bound failed drains scans t)
    (hmsg : grantedSlab maxMr msg = none) :
    RouteInv maxMr bound failed drains scans (recvInfoSingle maxMr t c msg) := by
  have hsame := recvInfoSingle_refused t c hmsg
  have hstate := (recvInfoSingle_session maxMr t c msg).1
  refine h.shrink (shrinks_refused t c hmsg) ?_ ?_ h.scans
  · rintro x ⟨c', i⟩ - hon
    refine hon.frame rfl rfl (congrFun (hsame.chunk c') i) ?_
    rw [hstate]
    by_cases hcc : c' = c
    · subst hcc
      rw [Function.update_self]
      exact hon.state.symm
    · exact Function.update_of_ne hcc _ _
  · intro c' hdrains i hi hrkey
    rw [recvInfoSingle_sendBuf] at hrkey
    rw [hsame.chunk]
    exact h.flagged c' hdrains i hi hrkey

lemma RouteInv.bind (h : RouteInv maxMr bound failed drains scans t)
    (hmsg : grantedSlab maxMr msg = some i) (hup : failed c = false) (hchunk : 0 ≤ msg.sizeGb)
    (hfree : bound (c, i) = none) :
    RouteInv maxMr (Function.update bound (c, i) (some msg.sizeGb)) failed drains scans
      (recvInfoSingle maxMr t c msg) := by
  have hto := recvInfoSingle_boundTo t c hmsg
  have hstate := (recvInfoSingle_session maxMr t c msg).1
  constructor
  · intro x
    rw [hto.index]
    by_cases hx : x = msg.sizeGb
    · subst hx
      rw [Function.update_self]
      exact .inr ⟨c, rfl⟩
    · rw [Function.update_of_ne hx]
      exact h.index x
  · intro x
    rw [hto.slab]
    by_cases hx : x = msg.sizeGb
    · subst hx
      rw [Function.update_self]
      exact .inr ⟨i, rfl⟩
    · rw [Function.update_of_ne hx]
      exact h.slab x
  · rintro x ⟨c', i'⟩ ⟨hcb, hslab⟩
    rw [hto.index] at hcb
    rw [hto.slab] at hslab
    by_cases hx : x = msg.sizeGb
    · subst hx
      rw [Function.update_self, Int.natCast_inj] at hcb hslab
      dsimp only at hcb hslab
      subst hcb hslab
      refine ⟨Function.update_self .., ?_, hchunk, grantedSlab_lt hmsg, hup, ?_⟩
      · rw [hto.chunk, if_pos ⟨rfl, rfl⟩]
      · rw [hstate, Function.update_self]
    · rw [Function.update_of_ne hx] at hcb hslab
      have hon := h.route x (c', i') ⟨hcb, hslab⟩
      have hne : (c', i') ≠ (c, i) := by
        intro he
        have hbound := hon.bound
        rw [he, hfree] at hbound
        cases hbound
      refine hon.frame (Function.update_of_ne hne _ _) rfl ?_ ?_
      · rw [hto.chunk, if_neg fun he => hne (Prod.ext he.1 he.2)]
      · rw [hstate]
        by_cases hcc : c' = c
        · subst hcc
          rw [Function.update_self]
          exact hon.state.symm
        · exact Function.update_of_ne hcc _ _
  · intro c' hdrains j hj hrkey
    rw [recvInfoSingle_sendBuf] at hrkey
    obtain ⟨hunmapped, hbound⟩ := h.flagged c' hdrains j hj hrkey
    have hne : ¬(c' = c ∧ j = i) := by
      rintro ⟨rfl, rfl⟩
      exact hbound hup hfree
    rw [hto.chunk, if_neg hne, Function.update_of_ne fun he => hne (Prod.mk.inj he)]
    exact ⟨hunmapped, hbound⟩
  · exact h.scans

lemma RouteInv.recorded_bind (h : RouteInv maxMr bound failed drains scans t)
    (hmsg : grantedSlab maxMr msg = some i) (hfree : bound (c, i) = none)
    (hrec : PageRecorded (recvInfoSingle maxMr t c msg) p slab) :
    PageRecorded t p slab ∧ slab ≠ (c, i) := by
  have hto := recvInfoSingle_boundTo t c hmsg
  obtain ⟨c', i'⟩ := slab
  obtain ⟨⟨hcb, hslab⟩, hbit⟩ := hrec
  rw [recvInfoSingle_chunkList t c c' hmsg] at hbit
  rw [hto.index] at hcb
  rw [hto.slab] at hslab
  by_cases hx : ((p / 262144 : Nat) : Int) = msg.sizeGb
  · rw [hx, Function.update_self, Int.natCast_inj] at hcb hslab
    dsimp only at hcb hslab hbit
    subst hcb hslab
    rw [if_pos rfl, Function.update_self] at hbit
    cases hbit
  · rw [Function.update_of_ne hx] at hcb hslab
    have hne : (c', i') ≠ (c, i) := by
      intro he
      have hbound := (h.route _ (c', i') ⟨hcb, hslab⟩).bound
      rw [he, hfree] at hbound
      cases hbound
    refine ⟨⟨⟨hcb, hslab⟩, ?_⟩, hne⟩
    by_cases hcc : c' = c
    · subst hcc
      have hi : i' ≠ i := fun he => hne (by rw [he])
      rwa [if_pos rfl, Function.update_of_ne hi] at hbit
    · rwa [if_neg hcc] at hbit

end Bind

end RouteInv

section PassInv

/-- A pass over the contexts of a server that is up: those that have been looked at are not in
flight for an unmapped slab, and no waiting request will make them so. -/
def PassInv (cfg : DeviceCfg) (failed : Nat → Bool) (d : Device) : Prop :=
  ∀ c k, d.drains c = some (k + 1) → failed c = false →
    (∀ tr ∈ d.waiting, tr.cb = c → (d.tables.cbs c).chunkMap tr.chunkIndex ≠ -1) ∧
    ∀ x ∈ (ctxIds cfg c).take (k + 1), drainWaits d x = false

/-- No slab becomes unmapped during a pass; contexts are left, settled, or taken for waiting
requests. -/
lemma PassInv.frame (h : PassInv cfg failed d)
    (hold : ∀ c k, d'.drains c = some (k + 1) → failed' c = false →
      d.drains c = some (k + 1) ∧ failed c = false ∧
        ∀ i, (d'.tables.cbs c).chunkMap i = -1 → (d.tables.cbs c).chunkMap i = -1)
    (hwaiting : ∀ tr ∈ d'.waiting, tr ∈ d.waiting ∨
      (d'.tables.cbs tr.cb).chunkMap tr.chunkIndex ≠ -1)
    (hctxs : ∀ x, (d'.ctxs x).inFlight ≠ .idle → d'.ctxs x = d.ctxs x ∨
      ∃ tr ∈ d.waiting, x.cb = tr.cb ∧ (d'.ctxs x).chunkIndex = tr.chunkIndex) :
    PassInv cfg failed' d' := by
  intro c k hk hup
  obtain ⟨hk', hup', hmap⟩ := hold c k hk hup
  obtain ⟨hwait, hpassed⟩ := h c k hk' hup'
  refine ⟨fun tr htr hc hunmapped => ?_, fun x hx => ?_⟩
  · rcases hwaiting tr htr with hin | hne
    · exact hwait tr hin hc (hmap _ hunmapped)
    · rw [hc] at hne
      exact hne hunmapped
  · have hcb : x.cb = c := (mem_ctxIds.mp (List.mem_of_mem_take hx)).1
    rw [← Bool.not_eq_true, drainWaits_iff, hcb]
    rintro ⟨hflight, hunmapped⟩
    have hunmapped' := hmap _ hunmapped
    rcases hctxs x hflight with hsame | ⟨tr, htr, htrcb, hchunk⟩
    · rw [hsame] at hflight hunmapped'
      have hwaits := drainWaits_iff.mpr ⟨hflight, hcb ▸ hunmapped'⟩
      rw [hpassed x hx] at hwaits
      cases hwaits
    · rw [hchunk, Int.toNat_natCast] at hunmapped'
      exact hwait tr htr (htrcb.symm.trans hcb) hunmapped'

lemma PassInv.drain {x : CtxId} (h : PassInv cfg failed d) (hk : d.drains c = some k)
    (hx : (ctxIds cfg c)[k]? = some x)
    (hok : d.drains c = some 0 →
      ∀ tr ∈ d.waiting, tr.cb = c → (d.tables.cbs c).chunkMap tr.chunkIndex ≠ -1) :
    PassInv cfg failed { d with
      drains := Function.update d.drains c (some (if drainWaits d x then 0 else k + 1)) } := by
  intro c' j hj hup
  dsimp only at hj
  by_cases hcc : c' = c
  · subst hcc
    rw [Function.update_self, Option.some.injEq] at hj
    split at hj
    · cases hj
    · next hwaits =>
      have hjk : j = k := by omega
      subst hjk
      obtain ⟨hwait, hpassed⟩ :
          (∀ tr ∈ d.waiting, tr.cb = c' → (d.tables.cbs c').chunkMap tr.chunkIndex ≠ -1) ∧
          ∀ y ∈ (ctxIds cfg c').take j, drainWaits d y = false := by
        cases j with
        | zero => exact ⟨hok hk, fun y hy => by simp at hy⟩
        | succ j => exact h c' j hk hup
      refine ⟨hwait, fun y hy => ?_⟩
      rw [List.take_add_one, hx, Option.toList_some, List.mem_append, List.mem_singleton] at hy
      rcases hy with hy | rfl
      · exact hpassed y hy
      · exact Bool.not_eq_true _ ▸ hwaits
  · rw [Function.update_of_ne hcc] at hj
    exact h c' j hj hup

lemma PassInv.finished (h : PassInv cfg failed d)
    (hend : d.drains c = some (ctxIds cfg c).length) (hup : failed c = false)
    (hne : ctxIds cfg c ≠ []) :
    (∀ tr ∈ d.waiting, tr.cb = c → (d.tables.cbs c).chunkMap tr.chunkIndex ≠ -1) ∧
      ∀ x ∈ ctxIds cfg c, drainWaits d x = false := by
  obtain ⟨k, hk⟩ := Nat.exists_eq_succ_of_ne_zero (List.length_pos_iff.mpr hne).ne'
  have hpassed := h c k (hend.trans (congrArg some hk)) hup
  rwa [← Nat.succ_eq_add_one, ← hk, List.take_length] at hpassed

end PassInv

end DisStore.Proofs
