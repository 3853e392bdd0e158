import DisStore.Lib.Count
import DisStore.Proofs.Contexts

/-!
# Contexts are free or in use

Every context of a pool is free, reading, writing or waiting for its mirrored bio. Each of
these says how often the context stands in the free list, among the work requests and among
the mirrored bios, and every event takes a context from one to another. A mirrored bio must
not complete before the RDMA write does: `IS_stackbd_end_io3` returns the context.
-/

namespace DisStore.Proofs
open DisStore DisStore.Lib

/-- The bio mirrors a write that holds context `x`. -/
def DiskBio.mirrors (x : CtxId) : DiskBio → Bool
  | .mirror y _ => decide (y = x)
  | .request _ => false

/-- The context has an outstanding work request or an outstanding mirrored bio. -/
def ctxUsed (d : Device) (x : CtxId) : Bool :=
  d.posted.any (fun wr => decide (wr.ctx = x)) || d.bios.any (DiskBio.mirrors x)

/-- The free lists hold the contexts that are not used, each of them once. -/
structure CtxsExclusive (cfg : DeviceCfg) (d : Device) : Prop where
  unused : ∀ p, ∀ x ∈ (d.pools p).free, ctxUsed d x = false
  once : ∀ p, (d.pools p).free.Nodup
  tail : ∀ p : Nat × Nat, (d.pools p).tail =
    (((List.range cfg.queueDepth).countP fun j => !ctxUsed d ⟨p.1, p.2, j⟩ : Nat) : Int) - 1
  bound : ∀ p, (d.pools p).tail ≤ (cfg.queueDepth : Int) - 1
  handed : ∀ p x pool, getCtx (d.pools p) = some (x, pool) → ctxUsed d x = false

/-- No work request is outstanding for the context that the bio at position `k` mirrors. -/
def rdmaDone (d : Device) (k : Nat) : Prop :=
  ∀ x req, d.bios[k]? = some (.mirror x req) → ∀ wr ∈ d.posted, wr.ctx ≠ x

/-- Posts succeed, there is no disconnect, and a mirrored bio completes after the RDMA write
of the same context. -/
def diskAfterRdma (d : Device) : DeviceEvent → Prop
  | .post _ _ success => success = true
  | .complete _ flushed => flushed = false
  | .diskDone k => rdmaDone d k
  | .disconnect _ | .scan _ | .forget _ => False
  | _ => True

/-- The same with posts that may fail if `lossy` holds. -/
def keepsPools (lossy : Prop) (d : Device) : DeviceEvent → Prop
  | .post _ _ success => success = true ∨ lossy
  | e => diskAfterRdma d e

/-- How often a context is in its free list, has a read or a write outstanding, and is
mirrored. -/
@[ext]
structure CtxCounts where
  free : Nat
  reads : Nat
  writes : Nat
  mirrors : Nat

def ctxCounts (d : Device) (x : CtxId) : CtxCounts :=
  { free := (d.pools (x.cb, x.queue)).free.count x
    reads := d.posted.countP fun wr => decide (wr.ctx = x ∧ wr.transfer.write = false)
    writes := d.posted.countP fun wr => decide (wr.ctx = x ∧ wr.transfer.write = true)
    mirrors := d.bios.countP (DiskBio.mirrors x) }

/-- A context is lost when the post of a read fails. -/
inductive CtxUse where
  | free | reading | writing | mirroring | lost

def CtxUse.counts : CtxUse → CtxCounts
  | .free => ⟨1, 0, 0, 0⟩
  | .reading => ⟨0, 1, 0, 0⟩
  | .writing => ⟨0, 0, 1, 1⟩
  | .mirroring => ⟨0, 0, 0, 1⟩
  | .lost => ⟨0, 0, 0, 0⟩

/-- The contexts of the pools and their uses; `lossy` says whether contexts may be lost. -/
structure PoolInv (lossy : Prop) (cfg : DeviceCfg) (d : Device) : Prop where
  tail : ∀ p, -1 ≤ (d.pools p).tail
  own : ∀ p, ∀ x ∈ (d.pools p).free, (x.cb, x.queue) = p
  use : ∀ x, x.slot < cfg.queueDepth →
    ∃ u : CtxUse, (u = .lost → lossy) ∧ ctxCounts d x = u.counts
  none : ∀ x, cfg.queueDepth ≤ x.slot → ctxCounts d x = ⟨0, 0, 0, 0⟩

variable {lossy : Prop} {cfg : DeviceCfg} {d d' : Device} {tr : Transfer} {queue : Nat} {x y : CtxId}
  {p pool : FreeCtxs}

lemma ctxInit_free (cfg : DeviceCfg) (c q : Nat) :
    (ctxInit cfg c q).free = (List.range cfg.queueDepth).map (CtxId.mk c q) := by
  simp [FreeCtxs.free, ctxInit]

lemma poolInv_init (cfg : DeviceCfg) (tables : ChunkTables) :
    PoolInv lossy cfg (deviceInit cfg tables) := by
  have hcount : ∀ y : CtxId, ctxCounts (deviceInit cfg tables) y =
      ⟨if y.slot < cfg.queueDepth then 1 else 0, 0, 0, 0⟩ := by
    intro y
    have hinj : Function.Injective (CtxId.mk y.cb y.queue) := fun i j hij => (CtxId.mk.inj hij).2.2
    ext
    · change (ctxInit cfg y.cb y.queue).free.count y = _
      rw [ctxInit_free]
      change List.count (CtxId.mk y.cb y.queue y.slot) _ = _
      rw [List.count_map_of_injective _ _ hinj, List.count_range]
    · rfl
    · rfl
    · rfl
  refine ⟨?_, ?_, ?_, ?_⟩
  · intro p
    change -1 ≤ (cfg.queueDepth : Int) - 1
    omega
  · intro p x hx
    change x ∈ (ctxInit cfg p.1 p.2).free at hx
    rw [ctxInit_free] at hx
    obtain ⟨j, -, rfl⟩ := List.mem_map.mp hx
    rfl
  · intro x hx
    exact ⟨.free, (by rintro ⟨⟩), by rw [hcount, if_pos hx]; rfl⟩
  · intro x hx
    rw [hcount, if_neg (by omega)]

lemma PoolInv.frame (h : PoolInv lossy cfg d) (hpools : d'.pools = d.pools)
    (hposted : d'.posted = d.posted)
    (hbios : ∀ x, d'.bios.countP (DiskBio.mirrors x) = d.bios.countP (DiskBio.mirrors x)) :
    PoolInv lossy cfg d' := by
  have hsame : ∀ x, ctxCounts d' x = ctxCounts d x := by
    intro x
    rw [ctxCounts, ctxCounts, hpools, hposted, hbios]
  refine ⟨?_, ?_, ?_, ?_⟩
  · rw [hpools]
    exact h.tail
  · rw [hpools]
    exact h.own
  · intro x hx
    rw [hsame]
    exact h.use x hx
  · intro x hx
    rw [hsame]
    exact h.none x hx

lemma PoolInv.move (h : PoolInv lossy cfg d) (u : CtxUse) (hu : u = .lost → lossy)
    (hslot : x.slot < cfg.queueDepth)
    (htail : ∀ p, -1 ≤ (d'.pools p).tail)
    (hown : ∀ p, ∀ y ∈ (d'.pools p).free, (y.cb, y.queue) = p)
    (hnew : ctxCounts d' x = u.counts) (hsame : ∀ y, y ≠ x → ctxCounts d' y = ctxCounts d y) :
    PoolInv lossy cfg d' := by
  refine ⟨htail, hown, ?_, ?_⟩
  · intro y hy
    by_cases hyx : y = x
    · subst hyx
      exact ⟨u, hu, hnew⟩
    · rw [hsame y hyx]
      exact h.use y hy
  · intro y hy
    have hyx : y ≠ x := by
      rintro rfl
      omega
    rw [hsame y hyx]
    exact h.none y hy

lemma PoolInv.use_of_pos (h : PoolInv lossy cfg d) (f : CtxCounts → Nat) (hf : f ⟨0, 0, 0, 0⟩ = 0)
    (hpos : 0 < f (ctxCounts d x)) :
    x.slot < cfg.queueDepth ∧ ∃ u : CtxUse, ctxCounts d x = u.counts ∧ 0 < f u.counts := by
  have hslot : x.slot < cfg.queueDepth := by
    by_contra hge
    rw [h.none x (by omega), hf] at hpos
    exact absurd hpos (by decide)
  obtain ⟨u, -, hu⟩ := h.use x hslot
  exact ⟨hslot, u, hu, hu ▸ hpos⟩

lemma PoolInv.of_free {q : Nat × Nat} (h : PoolInv lossy cfg d) (hx : x ∈ (d.pools q).free) :
    x.slot < cfg.queueDepth ∧ ctxCounts d x = CtxUse.free.counts := by
  have hpos : 0 < (ctxCounts d x).free := by
    have hq := h.own q x hx
    change 0 < (d.pools (x.cb, x.queue)).free.count x
    rw [hq]
    exact List.count_pos_iff.mpr hx
  obtain ⟨hslot, u, hu, hfree⟩ := h.use_of_pos CtxCounts.free rfl hpos
  cases u with
  | free => exact ⟨hslot, hu⟩
  | reading | writing | mirroring | lost => exact absurd hfree (by decide)

lemma PoolInv.of_read {wr : WorkRequest} (h : PoolInv lossy cfg d) (hwr : wr ∈ d.posted)
    (hread : wr.transfer.write = false) :
    wr.ctx.slot < cfg.queueDepth ∧ ctxCounts d wr.ctx = CtxUse.reading.counts := by
  have hpos : 0 < (ctxCounts d wr.ctx).reads :=
    List.countP_pos_iff.mpr ⟨wr, hwr, by simp [hread]⟩
  obtain ⟨hslot, u, hu, hreads⟩ := h.use_of_pos CtxCounts.reads rfl hpos
  cases u with
  | reading => exact ⟨hslot, hu⟩
  | free | writing | mirroring | lost => exact absurd hreads (by decide)

lemma PoolInv.of_write {wr : WorkRequest} (h : PoolInv lossy cfg d) (hwr : wr ∈ d.posted)
    (hwrite : wr.transfer.write = true) :
    wr.ctx.slot < cfg.queueDepth ∧ ctxCounts d wr.ctx = CtxUse.writing.counts := by
  have hpos : 0 < (ctxCounts d wr.ctx).writes :=
    List.countP_pos_iff.mpr ⟨wr, hwr, by simp [hwrite]⟩
  obtain ⟨hslot, u, hu, hwrites⟩ := h.use_of_pos CtxCounts.writes rfl hpos
  cases u with
  | writing => exact ⟨hslot, hu⟩
  | free | reading | mirroring | lost => exact absurd hwrites (by decide)

lemma PoolInv.of_mirror {req : Nat} (h : PoolInv lossy cfg d) (hbio : .mirror x req ∈ d.bios)
    (hdone : ∀ wr ∈ d.posted, wr.ctx ≠ x) :
    x.slot < cfg.queueDepth ∧ ctxCounts d x = CtxUse.mirroring.counts := by
  have hpos : 0 < (ctxCounts d x).mirrors :=
    List.countP_pos_iff.mpr ⟨_, hbio, by simp [DiskBio.mirrors]⟩
  have hwrites : (ctxCounts d x).writes = 0 := by
    refine List.countP_eq_zero.mpr fun wr hwr => ?_
    simp [hdone wr hwr]
  obtain ⟨hslot, u, hu, hmirrors⟩ := h.use_of_pos CtxCounts.mirrors rfl hpos
  rw [hu] at hwrites
  cases u with
  | mirroring => exact ⟨hslot, hu⟩
  | free | reading | lost => exact absurd hmirrors (by decide)
  | writing => exact absurd hwrites (by decide)

lemma insertCtx_counts (h : ∀ q, -1 ≤ (d.pools q).tail) (x y : CtxId) :
    ctxCounts (insertCtx d x) y =
      { ctxCounts d y with free := (ctxCounts d y).free + if y = x then 1 else 0 } := by
  ext
  · change ((insertCtx d x).pools (y.cb, y.queue)).free.count y = _
    rw [insertCtx_pool h, List.count_append]
    congr 1
    by_cases hyx : y = x
    · simp [hyx]
    · have hxy : ¬x = y := fun he => hyx he.symm
      by_cases hq : (y.cb, y.queue) = (x.cb, x.queue)
      · rw [if_pos hq, if_neg hyx, List.count_singleton, if_neg (by simpa using hxy)]
      · rw [if_neg hq, if_neg hyx, List.count_nil]
  · rfl
  · rfl
  · rfl

lemma insertCtx_own (ht : ∀ q, -1 ≤ (d.pools q).tail)
    (hown : ∀ q, ∀ y ∈ (d.pools q).free, (y.cb, y.queue) = q) (x : CtxId) (q : Nat × Nat) :
    ∀ y ∈ ((insertCtx d x).pools q).free, (y.cb, y.queue) = q := by
  intro y hy
  rw [insertCtx_pool ht, List.mem_append] at hy
  rcases hy with hy | hy
  · exact hown q y hy
  · split at hy
    · next hq => rw [List.mem_singleton.mp hy, hq]
    · cases hy

lemma holdCtx_counts (h : PoolInv lossy cfg d)
    (hget : getCtx (d.pools (tr.cb, queue)) = some (x, pool)) (y : CtxId) :
    (ctxCounts d y).free = (ctxCounts (holdCtx d tr queue x pool) y).free + if y = x then 1 else 0 := by
  have hx : x ∈ (d.pools (tr.cb, queue)).free := by
    rw [(free_getCtx (h.tail _) hget).1]
    simp
  have hown := h.own _ x hx
  change (d.pools (y.cb, y.queue)).free.count y = _
  rw [holdCtx_pool h.tail hget, List.count_append]
  congr 1
  by_cases hyx : y = x
  · simp [hyx, hown]
  · have hxy : ¬x = y := fun he => hyx he.symm
    by_cases hq : (y.cb, y.queue) = (tr.cb, queue)
    · rw [if_pos hq, if_neg hyx, List.count_singleton, if_neg (by simpa using hxy)]
    · rw [if_neg hq, if_neg hyx, List.count_nil]

lemma holdCtx_own (h : PoolInv lossy cfg d)
    (hget : getCtx (d.pools (tr.cb, queue)) = some (x, pool)) (q : Nat × Nat) :
    ∀ y ∈ ((holdCtx d tr queue x pool).pools q).free, (y.cb, y.queue) = q := by
  intro y hy
  apply h.own q y
  rw [holdCtx_pool h.tail hget]
  exact List.mem_append_left _ hy

/-- The use of a context after its transfer has been posted or has failed to be. -/
def postedUse (tr : Transfer) (success : Bool) : CtxUse :=
  match tr.write, success with
  | true, true => .writing
  | true, false => .mirroring
  | false, true => .reading
  | false, false => .lost

lemma PoolInv.post (h : PoolInv lossy cfg d)
    (hget : getCtx (d.pools (tr.cb, queue)) = some (x, pool)) (success : Bool)
    (hlossy : success = true ∨ lossy) :
    PoolInv lossy cfg { holdCtx d tr queue x pool with
      bios := d.bios ++ mirrorOf x tr
      posted := d.posted ++ if success then [⟨x, tr⟩] else [] } := by
  have hx : x ∈ (d.pools (tr.cb, queue)).free := by
    rw [(free_getCtx (h.tail _) hget).1]
    simp
  obtain ⟨hslot, hfree⟩ := h.of_free hx
  have hcounts := holdCtx_counts h hget
  have hlost : postedUse tr success = .lost → lossy := by
    cases success with
    | true =>
      unfold postedUse
      cases tr.write <;> nofun
    | false => exact fun _ => hlossy.resolve_left (by decide)
  refine h.move (postedUse tr success) hlost hslot (holdCtx_tail h.tail hget)
    (holdCtx_own h hget) ?_ fun y hyx => ?_
  · have hx0 := hcounts x
    rw [if_pos rfl, hfree] at hx0
    have hreads : (ctxCounts d x).reads = 0 := by rw [hfree]; rfl
    have hwrites : (ctxCounts d x).writes = 0 := by rw [hfree]; rfl
    have hmirrors : (ctxCounts d x).mirrors = 0 := by rw [hfree]; rfl
    simp only [ctxCounts] at hreads hwrites hmirrors
    ext
    · refine (Nat.succ.inj hx0).symm.trans ?_
      unfold postedUse
      cases tr.write <;> cases success <;> rfl
    · change (d.posted ++ if success then [WorkRequest.mk x tr] else []).countP _ = _
      rw [List.countP_append, hreads]
      cases hw : tr.write <;> cases success <;> simp [hw, postedUse, CtxUse.counts]
    · change (d.posted ++ if success then [WorkRequest.mk x tr] else []).countP _ = _
      rw [List.countP_append, hwrites]
      cases hw : tr.write <;> cases success <;> simp [hw, postedUse, CtxUse.counts]
    · change (d.bios ++ mirrorOf x tr).countP _ = _
      rw [List.countP_append, hmirrors, mirrorOf]
      cases hw : tr.write <;> cases success <;>
        simp [hw, postedUse, CtxUse.counts, DiskBio.mirrors]
  · have hy0 := hcounts y
    rw [if_neg hyx, Nat.add_zero] at hy0
    have hxy : ¬x = y := fun he => hyx he.symm
    have hmirror : (mirrorOf x tr).countP (DiskBio.mirrors y) = 0 := by
      unfold mirrorOf
      split <;> simp [DiskBio.mirrors, hxy]
    ext
    · exact hy0.symm
    · cases success <;> simp [ctxCounts, holdCtx, hxy]
    · cases success <;> simp [ctxCounts, holdCtx, hxy]
    · simp [ctxCounts, holdCtx, hmirror]

lemma PoolInv.giveUp (h : PoolInv lossy cfg d)
    (hget : getCtx (d.pools (tr.cb, queue)) = some (x, pool)) :
    PoolInv lossy cfg (giveUpCtx (holdCtx d tr queue x pool) x tr.req) := by
  have hx : x ∈ (d.pools (tr.cb, queue)).free := by
    rw [(free_getCtx (h.tail _) hget).1]
    simp
  obtain ⟨hslot, hfree⟩ := h.of_free hx
  have htail := holdCtx_tail h.tail hget
  have hinsert := insertCtx_counts htail x
  have hcounts := holdCtx_counts h hget
  have hsame : ∀ y, ctxCounts (giveUpCtx (holdCtx d tr queue x pool) x tr.req) y =
      ctxCounts d y := by
    intro y
    ext
    · rw [hcounts]
      exact congrArg CtxCounts.free (hinsert y)
    · rfl
    · rfl
    · simp [ctxCounts, giveUpCtx, requestStackbd, insertCtx, setCtx, holdCtx, DiskBio.mirrors]
  refine h.move .free (by rintro ⟨⟩) hslot (insertCtx_tail htail x)
    (insertCtx_own htail (holdCtx_own h hget) x) ?_ fun y _ => hsame y
  rw [hsame, hfree]

lemma complete_counts {k : Nat} {wr : WorkRequest} (hk : d.posted[k]? = some wr) (y : CtxId) :
    ((ctxCounts d y).reads = (ctxCounts { d with posted := d.posted.eraseIdx k } y).reads +
      if wr.ctx = y ∧ wr.transfer.write = false then 1 else 0) ∧
    (ctxCounts d y).writes = (ctxCounts { d with posted := d.posted.eraseIdx k } y).writes +
      if wr.ctx = y ∧ wr.transfer.write = true then 1 else 0 := by
  constructor
  · refine (countP_eraseIdx hk _).trans ?_
    simp only [decide_eq_true_eq, ctxCounts]
  · refine (countP_eraseIdx hk _).trans ?_
    simp only [decide_eq_true_eq, ctxCounts]

lemma PoolInv.readDone {k : Nat} {wr : WorkRequest} (h : PoolInv lossy cfg d)
    (hk : d.posted[k]? = some wr) (hread : wr.transfer.write = false)
    (hs : clientReadDone { d with posted := d.posted.eraseIdx k } wr.ctx = some d') :
    PoolInv lossy cfg d' := by
  obtain ⟨hslot, hreading⟩ := h.of_read (List.mem_of_getElem? hk) hread
  obtain ⟨req, -, rfl⟩ := Option.map_eq_some_iff.mp hs
  have hinsert := insertCtx_counts h.tail wr.ctx
  have hcounts := complete_counts hk
  refine h.move .free nofun hslot (insertCtx_tail h.tail wr.ctx) (insertCtx_own h.tail h.own wr.ctx)
    ?_ fun y hyx => ?_
  · have hreads := (hcounts wr.ctx).1
    have hwrites := (hcounts wr.ctx).2
    rw [hreading] at hreads hwrites
    rw [if_pos ⟨rfl, hread⟩] at hreads
    rw [if_neg (by simp [hread]), Nat.add_zero] at hwrites
    have hfree := congrArg CtxCounts.free (hinsert wr.ctx)
    rw [hreading, if_pos rfl] at hfree
    have hmirrors := congrArg CtxCounts.mirrors hreading
    ext
    · exact hfree
    · exact (Nat.succ.inj hreads).symm
    · exact hwrites.symm
    · exact hmirrors
  · have hxy : ¬wr.ctx = y := fun he => hyx he.symm
    have hreads := (hcounts y).1
    have hwrites := (hcounts y).2
    rw [if_neg (fun he => hxy he.1), Nat.add_zero] at hreads hwrites
    have hfree := congrArg CtxCounts.free (hinsert y)
    rw [if_neg hyx] at hfree
    ext
    · exact hfree
    · exact hreads.symm
    · exact hwrites.symm
    · rfl

lemma PoolInv.writeDone {k : Nat} {wr : WorkRequest} (h : PoolInv lossy cfg d)
    (hk : d.posted[k]? = some wr) (hwrite : wr.transfer.write = true) :
    PoolInv lossy cfg (clientWriteDone { d with posted := d.posted.eraseIdx k } wr.ctx) := by
  obtain ⟨hslot, hwriting⟩ := h.of_write (List.mem_of_getElem? hk) hwrite
  have hcounts := complete_counts hk
  have herased : PoolInv lossy cfg { d with posted := d.posted.eraseIdx k } := by
    refine h.move .mirroring nofun hslot h.tail h.own ?_ fun y hyx => ?_
    · have hreads := (hcounts wr.ctx).1
      have hwrites := (hcounts wr.ctx).2
      rw [hwriting] at hreads hwrites
      rw [if_neg (by simp [hwrite]), Nat.add_zero] at hreads
      rw [if_pos ⟨rfl, hwrite⟩] at hwrites
      have hfree := congrArg CtxCounts.free hwriting
      have hmirrors := congrArg CtxCounts.mirrors hwriting
      ext
      · exact hfree
      · exact hreads.symm
      · exact (Nat.succ.inj hwrites).symm
      · exact hmirrors
    · have hxy : ¬wr.ctx = y := fun he => hyx he.symm
      have hreads := (hcounts y).1
      have hwrites := (hcounts y).2
      rw [if_neg (fun he => hxy he.1), Nat.add_zero] at hreads hwrites
      ext
      · rfl
      · exact hreads.symm
      · exact hwrites.symm
      · rfl
  obtain ⟨hpools, hposted, hbios⟩ :=
    clientWriteDone_frame { d with posted := d.posted.eraseIdx k } wr.ctx
  exact herased.frame hpools hposted fun x => by rw [hbios]

lemma PoolInv.mirrorDone {k req : Nat} (h : PoolInv lossy cfg d)
    (hk : d.bios[k]? = some (.mirror x req)) (hdone : ∀ wr ∈ d.posted, wr.ctx ≠ x) :
    PoolInv lossy cfg (insertCtx { d with bios := d.bios.eraseIdx k } x) := by
  obtain ⟨hslot, hmirroring⟩ := h.of_mirror (List.mem_of_getElem? hk) hdone
  have hinsert := insertCtx_counts (d := { d with bios := d.bios.eraseIdx k }) h.tail x
  have hcounts : ∀ y, (ctxCounts d y).mirrors =
      (ctxCounts { d with bios := d.bios.eraseIdx k } y).mirrors + if x = y then 1 else 0 := by
    intro y
    refine (countP_eraseIdx hk _).trans ?_
    simp only [DiskBio.mirrors, decide_eq_true_eq, ctxCounts]
  refine h.move .free nofun hslot (insertCtx_tail h.tail x) (insertCtx_own h.tail h.own x)
    ?_ fun y hyx => ?_
  · have hmirrors := hcounts x
    rw [hmirroring, if_pos rfl] at hmirrors
    have hfree := congrArg CtxCounts.free hmirroring
    have hreads := congrArg CtxCounts.reads hmirroring
    have hwrites := congrArg CtxCounts.writes hmirroring
    ext
    · rw [hinsert, if_pos rfl]
      exact congrArg Nat.succ hfree
    · exact hreads
    · exact hwrites
    · exact (Nat.succ.inj hmirrors).symm
  · have hmirrors := hcounts y
    rw [if_neg (fun he => hyx he.symm), Nat.add_zero] at hmirrors
    ext
    · rw [hinsert, if_neg hyx]
      rfl
    · rfl
    · rfl
    · exact hmirrors.symm

lemma diskAfterRdma.keepsPools {e : DeviceEvent} (h : diskAfterRdma d e) (lossy : Prop) :
    DisStore.Proofs.keepsPools lossy d e := by
  cases e with
  | post k queue success => exact .inl h
  | _ => exact h

lemma keepsPools.ne_forget {e : DeviceEvent} (h : keepsPools lossy d e) (c : Nat) :
    e ≠ .forget c := by
  rintro rfl
  exact h

lemma PoolInv.step {e : DeviceEvent} (h : PoolInv lossy cfg d) (hok : keepsPools lossy d e)
    (hs : handleEvent cfg d e = some d') : PoolInv lossy cfg d' := by
  cases e with
  | route req r =>
    simp only [handleEvent] at hs
    split at hs
    · cases hs
      exact h.frame rfl rfl fun x => by simp [requestStackbd, DiskBio.mirrors]
    · cases hs
      exact h.frame rfl rfl fun _ => rfl
  | post k queue success =>
    obtain ⟨tr, x, pool, w, -, -, rfl, hget, hcase⟩ := handleEvent_post hs
    have hw : PoolInv lossy cfg { d with waiting := d.waiting.eraseIdx k } :=
      h.frame rfl rfl fun _ => rfl
    rcases hcase with ⟨-, rfl⟩ | ⟨-, rfl, rfl⟩ | ⟨-, rfl, rfl⟩
    · exact hw.giveUp hget
    · exact hw.post hget true hok
    · have hpost := hw.post hget false hok
      exact hpost.frame rfl (List.append_nil _).symm fun _ => rfl
  | complete k flushed =>
    have hflushed : flushed = false := hok
    simp only [handleEvent, Option.bind_eq_bind, Option.bind_eq_some_iff] at hs
    obtain ⟨wr, hk, hs⟩ := hs
    rw [cqEvent, hflushed, if_neg (by decide)] at hs
    cases hw : wr.transfer.write with
    | true =>
      rw [hw, if_pos rfl] at hs
      cases hs
      exact h.writeDone hk hw
    | false =>
      rw [hw, if_neg (by decide)] at hs
      exact h.readDone hk hw hs
  | diskDone k =>
    simp only [handleEvent, Option.bind_eq_bind, Option.bind_eq_some_iff] at hs
    obtain ⟨bio, hk, hs⟩ := hs
    cases hs
    cases bio with
    | mirror x req => exact h.mirrorDone hk (hok x req hk)
    | request req =>
      refine h.frame rfl rfl fun x => ?_
      have hcount := countP_eraseIdx hk (DiskBio.mirrors x)
      exact hcount.symm
  | unmap c stop =>
    simp only [handleEvent] at hs
    split at hs
    · cases hs
      exact h.frame rfl rfl fun _ => rfl
    · cases hs
  | drain c =>
    simp only [handleEvent, Option.bind_eq_bind, Option.bind_eq_some_iff] at hs
    obtain ⟨k, -, x, -, hs⟩ := hs
    cases hs
    exact h.frame rfl rfl fun _ => rfl
  | sendDone c =>
    simp only [handleEvent] at hs
    split at hs
    · cases hs
      exact h.frame rfl rfl fun _ => rfl
    · cases hs
  | disconnect c => exact absurd hok id
  | scan c => exact absurd hok id
  | forget c => exact absurd hok id

lemma ctxUsed_eq_false (d : Device) (x : CtxId) :
    ctxUsed d x = false ↔
      (ctxCounts d x).reads = 0 ∧ (ctxCounts d x).writes = 0 ∧ (ctxCounts d x).mirrors = 0 := by
  simp only [ctxUsed, ctxCounts, Bool.or_eq_false_iff, List.any_eq_false, List.countP_eq_zero,
    decide_eq_true_eq]
  constructor
  · rintro ⟨hposted, hbios⟩
    exact ⟨fun wr hwr hx => hposted wr hwr hx.1, fun wr hwr hx => hposted wr hwr hx.1, hbios⟩
  · rintro ⟨hreads, hwrites, hbios⟩
    refine ⟨fun wr hwr hx => ?_, hbios⟩
    cases hw : wr.transfer.write with
    | true => exact hwrites wr hwr ⟨hx, hw⟩
    | false => exact hreads wr hwr ⟨hx, hw⟩

lemma PoolInv.mem_free (h : PoolInv False cfg d) (q : Nat × Nat) (x : CtxId) :
    x ∈ (d.pools q).free ↔
      (x.cb, x.queue) = q ∧ x.slot < cfg.queueDepth ∧ ctxUsed d x = false := by
  constructor
  · intro hx
    obtain ⟨hslot, hfree⟩ := h.of_free hx
    refine ⟨h.own q x hx, hslot, (ctxUsed_eq_false d x).mpr ?_⟩
    rw [hfree]
    exact ⟨rfl, rfl, rfl⟩
  · rintro ⟨rfl, hslot, hunused⟩
    obtain ⟨hreads, hwrites, hmirrors⟩ := (ctxUsed_eq_false d x).mp hunused
    obtain ⟨u, hlost, hu⟩ := h.use x hslot
    rw [hu] at hreads hwrites hmirrors
    cases u with
    | lost => exact absurd rfl hlost
    | free =>
      have hone : (d.pools (x.cb, x.queue)).free.count x = 1 := congrArg CtxCounts.free hu
      exact List.count_pos_iff.mp (by omega)
    | reading => exact absurd hreads (by decide)
    | writing => exact absurd hwrites (by decide)
    | mirroring => exact absurd hmirrors (by decide)

lemma PoolInv.nodup_free (h : PoolInv lossy cfg d) (q : Nat × Nat) : (d.pools q).free.Nodup := by
  rw [List.nodup_iff_count_le_one]
  intro x
  by_cases hx : x ∈ (d.pools q).free
  · obtain ⟨-, hfree⟩ := h.of_free hx
    have hone : (d.pools (x.cb, x.queue)).free.count x = 1 := congrArg CtxCounts.free hfree
    rw [h.own q x hx] at hone
    omega
  · rw [List.count_eq_zero_of_not_mem hx]
    omega

lemma PoolInv.length_free (h : PoolInv False cfg d) (q : Nat × Nat) :
    (d.pools q).free.length =
      (List.range cfg.queueDepth).countP fun j => !ctxUsed d ⟨q.1, q.2, j⟩ := by
  have hinj : Function.Injective (CtxId.mk q.1 q.2) := fun i j hij => (CtxId.mk.inj hij).2.2
  have hperm : (d.pools q).free.Perm
      (((List.range cfg.queueDepth).filter fun j => !ctxUsed d ⟨q.1, q.2, j⟩).map
        (CtxId.mk q.1 q.2)) := by
    refine (List.perm_ext_iff_of_nodup (h.nodup_free q)
      ((List.nodup_range.filter _).map hinj)).mpr fun x => ?_
    rw [h.mem_free q x]
    constructor
    · rintro ⟨rfl, hslot, hunused⟩
      refine List.mem_map.mpr ⟨x.slot, List.mem_filter.mpr ⟨List.mem_range.mpr hslot, ?_⟩, rfl⟩
      simp [hunused]
    · intro hx
      obtain ⟨j, hj, rfl⟩ := List.mem_map.mp hx
      obtain ⟨hlt, hunused⟩ := List.mem_filter.mp hj
      exact ⟨rfl, List.mem_range.mp hlt, by simpa using hunused⟩
  rw [hperm.length_eq, List.length_map, List.countP_eq_length_filter]

theorem ctxs_exclusive (cfg : DeviceCfg) (tables : ChunkTables) (d : Device)
    (h : GuardedRun (deviceStep cfg) diskAfterRdma (deviceInit cfg tables) d) :
    CtxsExclusive cfg d := by
  have hkept : CtxsKept d ∧ PoolInv False cfg d := by
    apply h.invariant ⟨fun _ => rfl, poolInv_init cfg tables⟩
    rintro s e s' ⟨hkept, hs⟩ hok hstep
    rw [hkept.deviceStep_eq] at hstep
    have hkeeps := hok.keepsPools False
    exact ⟨hkept.step hkeeps.ne_forget hstep, hs.step hkeeps hstep⟩
  have hinv := hkept.2
  have hlen : ∀ q, (d.pools q).tail =
      (((List.range cfg.queueDepth).countP fun j => !ctxUsed d ⟨q.1, q.2, j⟩ : Nat) : Int) - 1 := by
    intro q
    have hfree := length_free (hinv.tail q)
    rw [hinv.length_free] at hfree
    omega
  refine ⟨?_, hinv.nodup_free, hlen, ?_, ?_⟩
  · intro q x hx
    exact ((hinv.mem_free q x).mp hx).2.2
  · intro q
    have hle := List.countP_le_length (p := fun j => !ctxUsed d ⟨q.1, q.2, j⟩)
      (l := List.range cfg.queueDepth)
    rw [List.length_range] at hle
    rw [hlen]
    omega
  · intro q x pool hget
    have hx : x ∈ (d.pools q).free := by
      rw [(free_getCtx (hinv.tail q) hget).1]
      simp
    exact ((hinv.mem_free q x).mp hx).2.2

/-- A write whose RDMA completion is handled before that of the disk. -/
theorem ctxs_exclusive_one_write :
    ∃ d, GuardedRun (deviceStep ⟨1, 1, 1⟩) diskAfterRdma oneCtx d ∧
      d.ended = [7] ∧ (d.pools (0, 0)).tail = 0 ∧ CtxsExclusive ⟨1, 1, 1⟩ d := by
  obtain ⟨s, hs⟩ : ∃ s, runActions (deviceStep ⟨1, 1, 1⟩) oneCtx
      [.route 7 ⟨0, 4096, true⟩, .post 0 0 true, .complete 0 false] = some s := ⟨_, rfl⟩
  have hposted : s.posted = [] := by
    have hmap : (runActions (deviceStep ⟨1, 1, 1⟩) oneCtx [.route 7 ⟨0, 4096, true⟩,
      .post 0 0 true, .complete 0 false]).map Device.posted = some [] := by decide
    rwa [hs, Option.map_some, Option.some.injEq] at hmap
  obtain ⟨d, hd, hended, htail⟩ : ∃ d, deviceStep ⟨1, 1, 1⟩ s (.diskDone 0) = some d ∧
      d.ended = [7] ∧ (d.pools (0, 0)).tail = 0 := by
    cases hs
    exact ⟨_, rfl, rfl, rfl⟩
  have hrun : GuardedRun (deviceStep ⟨1, 1, 1⟩) diskAfterRdma oneCtx s := by
    refine runActions_reaches _ ?_ .start hs
    intro e he s
    simp only [List.mem_cons, List.not_mem_nil, or_false] at he
    rcases he with rfl | rfl | rfl <;> simp [diskAfterRdma]
  have hrun' : GuardedRun (deviceStep ⟨1, 1, 1⟩) diskAfterRdma oneCtx d := by
    refine .next (.diskDone 0) hrun ?_ hd
    intro x req _ wr hwr
    rw [hposted] at hwr
    cases hwr
  exact ⟨d, hrun', hended, htail, ctxs_exclusive ⟨1, 1, 1⟩ _ d hrun'⟩

/-- The disk completes the mirrored bio of request 7 first: its context is free while its work
request is outstanding, and request 8 gets it. -/
theorem ctx_handed_out_twice :
    ((runActions (deviceStep ⟨1, 1, 1⟩) oneCtx
      [.route 7 ⟨0, 4096, true⟩, .post 0 0 true, .diskDone 0]).map
        fun s => ((s.pools (0, 0)).free, s.posted.map WorkRequest.ctx)) =
      some ([⟨0, 0, 0⟩], [⟨0, 0, 0⟩]) ∧
    ((runActions (deviceStep ⟨1, 1, 1⟩) oneCtx
      [.route 7 ⟨0, 4096, true⟩, .post 0 0 true, .diskDone 0, .route 8 ⟨4096, 4096, true⟩,
        .post 0 0 true]).map fun s => (s.posted.map WorkRequest.ctx, (s.ctxs ⟨0, 0, 0⟩).req)) =
      some ([⟨0, 0, 0⟩, ⟨0, 0, 0⟩], some 8) ∧
    ∃ s, runActions (deviceStep ⟨1, 1, 1⟩) oneCtx
      [.route 7 ⟨0, 4096, true⟩, .post 0 0 true, .diskDone 0] = some s ∧
      ¬CtxsExclusive ⟨1, 1, 1⟩ s := by
  refine ⟨by decide, by decide, _, rfl, fun h => ?_⟩
  exact absurd (h.unused (0, 0) ⟨0, 0, 0⟩ (by decide)) (by decide)

end DisStore.Proofs
