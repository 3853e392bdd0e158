import DisStore.Proofs.Contexts

/-!
# Posts that fail

When `ib_post_send` fails, `IS_rdma_read` and `IS_rdma_write` return its error and leave the
context as it is: taken from its pool, in flight and with the request, which the block layer
ends. A write has queued its mirrored bio before.
-/

namespace DisStore.Proofs
open DisStore DisStore.Lib

/-- The events that concern requests which are under way. -/
def DeviceEvent.isLater : DeviceEvent → Prop
  | .route .. | .post .. => False
  | _ => True

/-- Nothing is left of a request that has held context `x`. -/
structure PostUndone (cfg : DeviceCfg) (d : Device) (x : CtxId) (req : Nat) : Prop where
  free : (d.pools (x.cb, x.queue)).free.count x = 1
  idle : (d.ctxs x).inFlight = .idle
  forgotten : (d.ctxs x).req ≠ some req
  unmirrored : ∀ y, .mirror y req ∉ d.bios
  later : ∀ s, GuardedRun (deviceStep cfg) (fun _ e => DeviceEvent.isLater e) d s →
    s.ended.count req = d.ended.count req ∧
      ¬(drainWaits s x = true ∧ (s.ctxs x).req = some req)

/-- If the post fails, nothing is left of the request after the block layer has ended it. -/
def FailedPostUndone (cfg : DeviceCfg) (d : Device) (tr : Transfer) (queue : Nat)
    (success : Bool) : Prop :=
  ∀ x pool, getCtx (d.pools (tr.cb, queue)) = some (x, pool) →
    ∀ d', transferChunk d tr queue success = some (d', true) →
      PostUndone cfg (endRequest d' tr.req) x tr.req

variable {d d' : Device} {tr : Transfer} {queue : Nat} {success : Bool} {x : CtxId}
  {pool : FreeCtxs}

lemma transferChunk_failed (hget : getCtx (d.pools (tr.cb, queue)) = some (x, pool))
    (hon : d.tables.sess.rdmaOn = true) :
    ∃ d', transferChunk d tr queue false = some (d', true) ∧ (d'.ctxs x).inFlight ≠ .idle := by
  refine ⟨{ holdCtx d tr queue x pool with bios := d.bios ++ mirrorOf x tr }, ?_, ?_⟩
  · rw [transferChunk_eq hget, if_neg (by simp [hon]), postSend, if_neg (by decide)]
  · simp only [holdCtx, Function.update_self, enterCtx]
    split <;> simp [writeCtx, readCtx]

lemma transferChunk_error (hget : getCtx (d.pools (tr.cb, queue)) = some (x, pool))
    (h : transferChunk d tr queue success = some (d', true)) :
    success = false ∧ d.tables.sess.rdmaOn = true := by
  rw [transferChunk_eq hget, Option.some.injEq] at h
  by_cases hoff : d.tables.sess.rdmaOn = false
  · rw [if_pos hoff] at h
    cases (Prod.ext_iff.mp h).2
  · rw [if_neg hoff, postSend] at h
    cases success with
    | false => exact ⟨rfl, by simpa using hoff⟩
    | true => cases (Prod.ext_iff.mp h).2

theorem failedPostUndone_iff (cfg : DeviceCfg) (d : Device) (tr : Transfer) (queue : Nat)
    (success : Bool) :
    FailedPostUndone cfg d tr queue success ↔
      success = true ∨ d.tables.sess.rdmaOn = false ∨ (d.pools (tr.cb, queue)).tail = -1 := by
  constructor
  · intro h
    by_contra hcond
    simp only [not_or, Bool.not_eq_true, Bool.not_eq_false] at hcond
    obtain ⟨rfl, hon, htail⟩ := hcond
    obtain ⟨⟨x, pool⟩, hget⟩ := Option.ne_none_iff_exists'.mp (mt getCtx_eq_none.mp htail)
    obtain ⟨d', hd', hflight⟩ := transferChunk_failed hget hon
    exact hflight (h _ _ hget d' hd').idle
  · intro hcond x pool hget d' hd'
    obtain ⟨hfail, hon⟩ := transferChunk_error hget hd'
    have htail : (d.pools (tr.cb, queue)).tail ≠ -1 := by
      intro htail
      rw [getCtx_eq_none.mpr htail] at hget
      cases hget
    simp [hfail, hon, htail] at hcond

/-- The write of request 7 fails to be posted; the scan after a disconnect ends it again and
its mirrored bio is still queued. The read of request 7 fails to be posted; an eviction then
waits for it. -/
theorem failed_post_is_kept :
    (runActions (deviceStep ⟨1, 1, 1⟩) oneCtx
      [.route 7 ⟨0, 4096, true⟩, .post 0 0 false, .disconnect 0, .scan 0]).map
        (fun s => (s.ended, s.bios, (s.pools (0, 0)).tail)) =
      some ([7, 7], [.mirror ⟨0, 0, 0⟩ 7], -1) ∧
    (runActions (deviceStep ⟨1, 1, 1⟩) oneCtx
      [.route 7 ⟨0, 4096, false⟩, .post 0 0 false, .unmap 0 (slabMessage 0 1)]).map
        (fun s => (s.ended, drainWaits s ⟨0, 0, 0⟩, (s.ctxs ⟨0, 0, 0⟩).req)) =
      some ([7], true, some 7) ∧
    ¬FailedPostUndone ⟨1, 1, 1⟩ oneCtx ⟨7, true, 0, 0, 0, 4096⟩ 0 false := by
  refine ⟨by decide, by decide, fun h => ?_⟩
  have hget : getCtx (oneCtx.pools (0, 0)) = some (⟨0, 0, 0⟩, ⟨(oneCtx.pools (0, 0)).ctxList, -1⟩) :=
    rfl
  obtain ⟨d', hd', hflight⟩ : ∃ d', transferChunk oneCtx ⟨7, true, 0, 0, 0, 4096⟩ 0 false =
      some (d', true) ∧ (d'.ctxs ⟨0, 0, 0⟩).inFlight ≠ .idle := transferChunk_failed hget rfl
  exact hflight (h _ _ hget d' hd').idle

end DisStore.Proofs
