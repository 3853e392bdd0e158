import DisStore.Lib.Run
import DisStore.Device
import DisStore.Proofs.PageReads

/-!
# Taking and returning contexts

What `IS_get_ctx`, `IS_insert_ctx` and `IS_transfer_chunk` do to the list of free contexts and
to the context of a request, in one equation each.
-/

namespace DisStore.Proofs
open DisStore DisStore.Lib

/-- What `IS_rdma_read` or `IS_rdma_write` enters in the context. -/
def enterCtx (tr : Transfer) (c : RdmaCtx) : RdmaCtx :=
  if tr.write then writeCtx tr c else readCtx tr c

/-- The bio that mirrors a write. -/
def mirrorOf (x : CtxId) (tr : Transfer) : List DiskBio :=
  if tr.write then [.mirror x tr.req] else []

/-- The device after context `x` has been taken for a transfer; `pool` is what it leaves. -/
def holdCtx (d : Device) (tr : Transfer) (queue : Nat) (x : CtxId) (pool : FreeCtxs) : Device :=
  { d with
    pools := Function.update d.pools (tr.cb, queue) pool
    ctxs := Function.update d.ctxs x (enterCtx tr (d.ctxs x)) }

variable {cfg : DeviceCfg} {d d' : Device} {tr : Transfer} {queue : Nat} {success : Bool}
  {x : CtxId} {p pool : FreeCtxs}

lemma getCtx_eq_none : getCtx p = none ↔ p.tail = -1 := by
  unfold getCtx
  split <;> simp [*]

lemma free_getCtx (ht : -1 ≤ p.tail) (hget : getCtx p = some (x, pool)) :
    p.free = pool.free ++ [x] ∧ -1 ≤ pool.tail := by
  unfold getCtx at hget
  split at hget
  · cases hget
  · next hne =>
    obtain ⟨rfl, rfl⟩ := Prod.mk.inj (Option.some.inj hget)
    have hlen : (p.tail + 1).toNat = (p.tail - 1 + 1).toNat + 1 := by omega
    have hlast : (((p.tail - 1 + 1).toNat : Nat) : Int) = p.tail := by omega
    refine ⟨?_, by dsimp only; omega⟩
    rw [FreeCtxs.free, FreeCtxs.free, hlen, List.range_succ, List.map_append, List.map_singleton,
      hlast]

lemma free_insert (ht : -1 ≤ p.tail) (x : CtxId) :
    FreeCtxs.free ⟨Function.update p.ctxList (p.tail + 1) x, p.tail + 1⟩ = p.free ++ [x] := by
  have hlen : (p.tail + 1 + 1).toNat = (p.tail + 1).toNat + 1 := by omega
  have hlast : (((p.tail + 1).toNat : Nat) : Int) = p.tail + 1 := by omega
  rw [FreeCtxs.free, FreeCtxs.free, hlen, List.range_succ, List.map_append, List.map_singleton,
    hlast]
  dsimp only
  rw [Function.update_self]
  congr 1
  apply List.map_congr_left
  intro i hi
  have hlt := List.mem_range.mp hi
  exact Function.update_of_ne (by omega) _ _

lemma length_free (ht : -1 ≤ p.tail) : (p.free.length : Int) = p.tail + 1 := by
  rw [FreeCtxs.free, List.length_map, List.length_range]
  omega

lemma takeCtx_eq (hget : getCtx (d.pools (tr.cb, queue)) = some (x, pool))
    (enter : RdmaCtx → RdmaCtx) :
    takeCtx d tr queue enter = some (x, { d with
      pools := Function.update d.pools (tr.cb, queue) pool
      ctxs := Function.update d.ctxs x (enter (d.ctxs x)) }) := by
  rw [takeCtx, hget, Option.map_some]

lemma transferChunk_eq_none (hget : getCtx (d.pools (tr.cb, queue)) = none) :
    transferChunk d tr queue success = none := by
  simp [transferChunk, isRdmaWrite, isRdmaRead, takeCtx, hget]

/-- `IS_rdma_read` and `IS_rdma_write` in one: they differ in the fields that they enter and in
the mirrored bio. -/
lemma transferChunk_eq (hget : getCtx (d.pools (tr.cb, queue)) = some (x, pool)) :
    transferChunk d tr queue success = some (
      if d.tables.sess.rdmaOn = false then
        (giveUpCtx (holdCtx d tr queue x pool) x tr.req, false)
      else postSend { holdCtx d tr queue x pool with bios := d.bios ++ mirrorOf x tr } x tr
        success) := by
  cases hw : tr.write with
  | true =>
    simp only [transferChunk, isRdmaWrite, takeCtx_eq hget, hw, if_true, Option.bind_eq_bind,
      Option.bind_some, holdCtx, enterCtx, mirrorOf]
    split <;> rfl
  | false =>
    simp only [transferChunk, isRdmaRead, takeCtx_eq hget, hw, Bool.false_eq_true, if_false,
      Option.bind_eq_bind, Option.bind_some, holdCtx, enterCtx, mirrorOf, List.append_nil]
    split <;> rfl

lemma handleEvent_post {k : Nat} (h : handleEvent cfg d (.post k queue success) = some d') :
    ∃ tr x pool w, d.waiting[k]? = some tr ∧ queue < cfg.submitQueues ∧
      w = { d with waiting := d.waiting.eraseIdx k } ∧
      getCtx (d.pools (tr.cb, queue)) = some (x, pool) ∧
      ((d.tables.sess.rdmaOn = false ∧ d' = giveUpCtx (holdCtx w tr queue x pool) x tr.req) ∨
      (d.tables.sess.rdmaOn = true ∧ success = true ∧ d' = { holdCtx w tr queue x pool with
        bios := d.bios ++ mirrorOf x tr, posted := d.posted ++ [⟨x, tr⟩] }) ∨
      (d.tables.sess.rdmaOn = true ∧ success = false ∧ d' = endRequest
        { holdCtx w tr queue x pool with bios := d.bios ++ mirrorOf x tr } tr.req)) := by
  simp only [handleEvent, Option.bind_eq_bind, Option.bind_eq_some_iff] at h
  obtain ⟨tr, htr, h⟩ := h
  split at h
  · next hqueue =>
    obtain ⟨w, hw⟩ : ∃ w, w = { d with waiting := d.waiting.eraseIdx k } := ⟨_, rfl⟩
    have hpools : w.pools = d.pools := by rw [hw]
    have hon : w.tables = d.tables := by rw [hw]
    rw [← hw] at h
    cases hget : getCtx (d.pools (tr.cb, queue)) with
    | none =>
      rw [transferChunk_eq_none (by rw [hpools, hget])] at h
      cases h
    | some r =>
      obtain ⟨x, pool⟩ := r
      rw [transferChunk_eq (by rw [hpools, hget]), Option.bind_some, Option.some.injEq, hon] at h
      refine ⟨tr, x, pool, w, htr, hqueue, hw, hget, ?_⟩
      rw [← h, hw]
      cases hrdma : d.tables.sess.rdmaOn with
      | false => exact .inl ⟨rfl, by simp⟩
      | true =>
        cases success with
        | true => exact .inr (.inl ⟨rfl, rfl, by simp [postSend, holdCtx]⟩)
        | false => exact .inr (.inr ⟨rfl, rfl, by simp [postSend, holdCtx]⟩)
  · cases h

lemma clientReadDone_eq {req : Nat} (hreq : (d.ctxs x).req = some req) :
    clientReadDone d x = some (endRequest (insertCtx (setCtx d x { d.ctxs x with
      inFlight := .idle, chunkIndex := -1, req := none }) x) req) := by
  rw [clientReadDone, hreq, Option.map_some]

lemma clientWriteDone_of_none (hptr : (d.ctxs x).chunkPtr = none) : clientWriteDone d x = d := by
  simp only [clientWriteDone, hptr]

lemma clientWriteDone_eq {slab : Nat} (hptr : (d.ctxs x).chunkPtr = some slab) :
    clientWriteDone d x = { d with
      tables := updateBitmap d.tables x.cb slab fun bitmap =>
        bitmapGroupSet bitmap (d.ctxs x).offset (d.ctxs x).len
      ctxs := Function.update d.ctxs x { d.ctxs x with
        inFlight := .idle, chunkIndex := -1, chunkPtr := none, req := none }
      ended := d.ended ++ (d.ctxs x).req.toList } := by
  cases hreq : (d.ctxs x).req with
  | none => simp [clientWriteDone, hptr, hreq, setCtx]
  | some req => simp [clientWriteDone, hptr, hreq, setCtx, endRequest]

lemma clientWriteDone_frame (d : Device) (x : CtxId) :
    (clientWriteDone d x).pools = d.pools ∧ (clientWriteDone d x).posted = d.posted ∧
      (clientWriteDone d x).bios = d.bios := by
  cases hptr : (d.ctxs x).chunkPtr with
  | none =>
    rw [clientWriteDone_of_none hptr]
    exact ⟨rfl, rfl, rfl⟩
  | some slab =>
    rw [clientWriteDone_eq hptr]
    exact ⟨rfl, rfl, rfl⟩

lemma insertCtx_pool (ht : ∀ q, -1 ≤ (d.pools q).tail) (x : CtxId) (q : Nat × Nat) :
    ((insertCtx d x).pools q).free =
      (d.pools q).free ++ (if q = (x.cb, x.queue) then [x] else []) := by
  by_cases hq : q = (x.cb, x.queue)
  · subst hq
    rw [insertCtx, if_pos rfl]
    dsimp only
    rw [Function.update_self, free_insert (ht _)]
  · rw [insertCtx, if_neg hq, List.append_nil]
    dsimp only
    rw [Function.update_of_ne hq]

lemma insertCtx_tail (ht : ∀ q, -1 ≤ (d.pools q).tail) (x : CtxId) (q : Nat × Nat) :
    -1 ≤ ((insertCtx d x).pools q).tail := by
  have hx := ht (x.cb, x.queue)
  by_cases hq : q = (x.cb, x.queue)
  · subst hq
    simp only [insertCtx, Function.update_self]
    omega
  · simp only [insertCtx, Function.update_of_ne hq]
    exact ht q

lemma holdCtx_pool (ht : ∀ q, -1 ≤ (d.pools q).tail)
    (hget : getCtx (d.pools (tr.cb, queue)) = some (x, pool)) (q : Nat × Nat) :
    (d.pools q).free = ((holdCtx d tr queue x pool).pools q).free ++
      (if q = (tr.cb, queue) then [x] else []) := by
  by_cases hq : q = (tr.cb, queue)
  · subst hq
    rw [if_pos rfl, (free_getCtx (ht _) hget).1, holdCtx]
    dsimp only
    rw [Function.update_self]
  · rw [if_neg hq, List.append_nil, holdCtx]
    dsimp only
    rw [Function.update_of_ne hq]

lemma holdCtx_tail (ht : ∀ q, -1 ≤ (d.pools q).tail)
    (hget : getCtx (d.pools (tr.cb, queue)) = some (x, pool)) (q : Nat × Nat) :
    -1 ≤ ((holdCtx d tr queue x pool).pools q).tail := by
  by_cases hq : q = (tr.cb, queue)
  · subst hq
    simp only [holdCtx, Function.update_self]
    exact (free_getCtx (ht _) hget).2
  · simp only [holdCtx, Function.update_of_ne hq]
    exact ht q

lemma mem_ctxIds {c : Nat} : x ∈ ctxIds cfg c ↔
    x.cb = c ∧ x.queue < cfg.submitQueues ∧ x.slot < cfg.queueDepth := by
  simp only [ctxIds, List.mem_flatMap, List.mem_map, List.mem_range]
  constructor
  · rintro ⟨i, hi, j, hj, rfl⟩
    exact ⟨rfl, hi, hj⟩
  · rintro ⟨rfl, hi, hj⟩
    exact ⟨x.queue, hi, x.slot, hj, rfl⟩

section Memory

variable {e : DeviceEvent}

/-- The servers whose contexts are freed after an event. -/
def freedBy (d : Device) : DeviceEvent → Nat → Bool
  | .forget c => Function.update d.freed c true
  | _ => d.freed

/-- Routing the request reads outside of `chunk_list`. -/
def strays (d : Device) : DeviceEvent → Bool
  | .route _ r => outsideChunkList d.tables.sess r
  | _ => false

lemma cqEvent_keeps {wr : WorkRequest} {flushed : Bool} (h : cqEvent d wr flushed = some d') :
    d'.freed = d.freed ∧ d'.fault = d.fault ∧ d'.bios = d.bios := by
  unfold cqEvent at h
  split at h
  · cases h
    exact ⟨rfl, rfl, rfl⟩
  · split at h
    · cases h
      unfold clientWriteDone
      dsimp only
      split
      · exact ⟨rfl, rfl, rfl⟩
      · split <;> exact ⟨rfl, rfl, rfl⟩
    · obtain ⟨req, -, rfl⟩ := Option.map_eq_some_iff.mp h
      exact ⟨rfl, rfl, rfl⟩

lemma scanCtx_memory (h : scanCtx d x = some d') : d'.freed = d.freed ∧ d'.fault = d.fault := by
  unfold scanCtx at h
  dsimp only at h
  split at h
  · obtain ⟨req, -, rfl⟩ := Option.map_eq_some_iff.mp h
    exact ⟨rfl, rfl⟩
  · split at h <;> cases h <;> exact ⟨rfl, rfl⟩
  · cases h
    exact ⟨rfl, rfl⟩

lemma handleEvent_memory (h : handleEvent cfg d e = some d') :
    d'.freed = freedBy d e ∧ d'.fault = (d.fault || strays d e) := by
  have hsame : d'.freed = d.freed ∧ d'.fault = d.fault → freedBy d e = d.freed →
      strays d e = false → d'.freed = freedBy d e ∧ d'.fault = (d.fault || strays d e) := by
    rintro ⟨hfreed, hfault⟩ hby hstrays
    rw [hby, hstrays, Bool.or_false]
    exact ⟨hfreed, hfault⟩
  cases e with
  | route req r =>
    simp only [handleEvent] at h
    split at h <;> cases h <;> exact ⟨rfl, rfl⟩
  | post k queue success =>
    refine hsame ?_ rfl rfl
    obtain ⟨tr, x, pool, w, -, -, rfl, -, ⟨-, rfl⟩ | ⟨-, -, rfl⟩ | ⟨-, -, rfl⟩⟩ :=
      handleEvent_post h <;> exact ⟨rfl, rfl⟩
  | complete k flushed =>
    simp only [handleEvent, Option.bind_eq_bind, Option.bind_eq_some_iff] at h
    obtain ⟨wr, -, h⟩ := h
    obtain ⟨hfreed, hfault, -⟩ := cqEvent_keeps h
    exact hsame ⟨hfreed, hfault⟩ rfl rfl
  | diskDone k =>
    simp only [handleEvent, Option.bind_eq_bind, Option.bind_eq_some_iff, Option.some.injEq] at h
    obtain ⟨bio, -, rfl⟩ := h
    refine hsame ?_ rfl rfl
    cases bio <;> exact ⟨rfl, rfl⟩
  | drain c =>
    simp only [handleEvent, Option.bind_eq_bind, Option.bind_eq_some_iff, Option.some.injEq] at h
    obtain ⟨k, -, x, -, rfl⟩ := h
    exact hsame ⟨rfl, rfl⟩ rfl rfl
  | scan c =>
    simp only [handleEvent, Option.bind_eq_bind, Option.bind_eq_some_iff] at h
    obtain ⟨k, -, x, -, h⟩ := h
    have hmemory := scanCtx_memory h
    exact hsame hmemory rfl rfl
  | disconnect c =>
    simp only [handleEvent] at h
    split at h
    · cases h
    · refine hsame ?_ rfl rfl
      split at h <;> cases h <;> exact ⟨rfl, rfl⟩
  | unmap c stop =>
    simp only [handleEvent] at h
    split at h <;> cases h
    exact hsame ⟨rfl, rfl⟩ rfl rfl
  | sendDone c =>
    simp only [handleEvent] at h
    split at h <;> cases h
    exact hsame ⟨rfl, rfl⟩ rfl rfl
  | forget c =>
    simp only [handleEvent] at h
    split at h <;> cases h
    exact ⟨rfl, (Bool.or_false _).symm⟩

lemma deviceStep_cases (h : deviceStep cfg d e = some d') :
    d' = { d with fault := true } ∨
      (usedCtxs cfg d e).any d.freed = false ∧ handleEvent cfg d e = some d' := by
  unfold deviceStep at h
  split at h
  · cases h
    exact .inl rfl
  · next hused => exact .inr ⟨by simpa using hused, h⟩

lemma deviceStep_safe (h : deviceStep cfg d e = some d') (hsafe : d'.fault = false) :
    handleEvent cfg d e = some d' ∧ d.fault = false := by
  rcases deviceStep_cases h with rfl | ⟨-, h⟩
  · cases hsafe
  · rw [(handleEvent_memory h).2, Bool.or_eq_false_iff] at hsafe
    exact ⟨h, hsafe.1⟩

/-- No server has been disconnected. -/
def CtxsKept (d : Device) : Prop := ∀ c, d.freed c = false

lemma CtxsKept.deviceStep_eq (h : CtxsKept d) : deviceStep cfg d e = handleEvent cfg d e := by
  have hused : (usedCtxs cfg d e).any d.freed = false := by
    rw [Option.any_eq_false]
    exact fun c _ => h c
  rw [deviceStep, hused, if_neg (by decide)]

lemma CtxsKept.step (h : CtxsKept d) (hforget : ∀ c, e ≠ .forget c)
    (hs : handleEvent cfg d e = some d') : CtxsKept d' := by
  intro c
  rw [(handleEvent_memory hs).1]
  cases e with
  | forget c' => exact absurd rfl (hforget c')
  | _ => exact h c

end Memory

/-- A device with one context whose chunk 0 is on the first slab of server 0. -/
def oneCtx : Device := deviceInit ⟨1, 1, 1⟩ (oneSlab fun _ => true)

end DisStore.Proofs
