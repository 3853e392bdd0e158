import DisStore.Lib.Count
import DisStore.Proofs.Contexts

/-!
# Requests end once across a disconnect

Every request that is posted to a server is in one of three places: in flight in its context,
re-issued to the disk, or ended. The completions and the scan of `IS_disconnect_handler` move
it from one to the next. The scan leaves the request in the context, so a successful
completion that is handled after it would end the request again. The contexts are freed after
the scan, so a mirrored bio that completes later would return freed memory to a freed pool.
-/

namespace DisStore.Proofs
open DisStore DisStore.Lib

/-- The work requests of server `c`, each with a context and a request of its own. -/
structure Loaded (cfg : DeviceCfg) (c : Nat) (d : Device) : Prop where
  ctx : ∀ wr ∈ d.posted, wr.ctx ∈ ctxIds cfg c
  req : ∀ wr ∈ d.posted, (d.ctxs wr.ctx).req = some wr.transfer.req
  flight : ∀ wr ∈ d.posted,
    (d.ctxs wr.ctx).inFlight = if wr.transfer.write then .write else .read
  chunk : ∀ wr ∈ d.posted, wr.transfer.write = true →
    (d.ctxs wr.ctx).chunkPtr = some wr.transfer.chunkIndex
  ctxs_nodup : (d.posted.map WorkRequest.ctx).Nodup
  reqs_nodup : (d.posted.map fun wr => wr.transfer.req).Nodup
  idle : ∀ x, (∀ wr ∈ d.posted, wr.ctx ≠ x) → (d.ctxs x).inFlight = .idle
  bios : ∀ wr ∈ d.posted, .request wr.transfer.req ∉ d.bios
  ended : ∀ wr ∈ d.posted, wr.transfer.req ∉ d.ended
  state : d.tables.sess.cbStateList c = .mapped ∨ d.tables.sess.cbStateList c = .evicting
  scans : d.scans c = none
  allocated : d.freed c = false
  safe : d.fault = false

/-- The disconnect of server `c` has been handled. -/
def disconnected (c : Nat) (d : Device) : Prop :=
  d.tables.sess.cbStateList c = .fail ∧ d.scans c = none

/-- No request of `wrs` is ended twice, or re-issued and ended; when nothing is pending any
more, all of them have been ended. No freed memory has been accessed. -/
structure EndsOnce (c : Nat) (wrs : List WorkRequest) (d : Device) : Prop where
  once : ∀ wr ∈ wrs, d.ended.count wr.transfer.req ≤ 1
  reissued : ∀ wr ∈ wrs, .request wr.transfer.req ∈ d.bios → wr.transfer.req ∉ d.ended
  final : disconnected c d → d.posted = [] → d.bios = [] →
    ∀ wr ∈ wrs, d.ended.count wr.transfer.req = 1
  safe : d.fault = false

/-- Completions, disk completions and the one disconnect of server `c`. A successful completion
is handled while its context is in flight, before the scan has come to it, and a mirrored bio
completes before its context is freed. -/
def handledInTime (c : Nat) (d : Device) : DeviceEvent → Prop
  | .complete k flushed => flushed = false →
      ∀ wr, d.posted[k]? = some wr → (d.ctxs wr.ctx).inFlight ≠ .idle
  | .diskDone k => ∀ s, d.bios[k]?.bind DiskBio.cb = some s → d.freed s = false
  | .disconnect c' => c' = c ∧ d.freed c = false
  | .scan c' | .forget c' => c' = c
  | _ => False

instance (c : Nat) (d : Device) (e : DeviceEvent) : Decidable (handledInTime c d e) :=
  match e with
  | .complete k _ => inferInstanceAs (Decidable (_ → ∀ wr, d.posted[k]? = some wr → _))
  | .diskDone k => inferInstanceAs (Decidable (∀ s, d.bios[k]?.bind DiskBio.cb = some s → _))
  | .disconnect _ => inferInstanceAs (Decidable (_ ∧ _))
  | .scan _ | .forget _ => inferInstanceAs (Decidable (_ = _))
  | .route .. | .post .. | .unmap .. | .drain .. | .sendDone .. => isFalse id

/-- Where the requests of the state `d₀` are. -/
structure OnceInv (cfg : DeviceCfg) (c : Nat) (d₀ d : Device) : Prop where
  sub : ∀ wr ∈ d.posted, wr ∈ d₀.posted
  kept : ∀ wr ∈ d₀.posted, (d.ctxs wr.ctx).inFlight ≠ .idle → d.ctxs wr.ctx = d₀.ctxs wr.ctx
  idle : ∀ x, (∀ wr ∈ d₀.posted, wr.ctx ≠ x) → (d.ctxs x).inFlight = .idle
  place : ∀ wr ∈ d₀.posted, (if (d.ctxs wr.ctx).inFlight = .idle then 0 else 1) +
    d.bios.count (.request wr.transfer.req) + d.ended.count wr.transfer.req = 1
  state : d.tables.sess.cbStateList c ≠ .connected
  scanned : ∀ k, d.scans c = some k →
    ∀ x ∈ (ctxIds cfg c).take k, (d.ctxs x).inFlight = .idle
  handled : disconnected c d → ∀ x ∈ ctxIds cfg c, (d.ctxs x).inFlight = .idle
  freed : d.freed c = true →
    d.scans c = none ∧ ∀ x ∈ ctxIds cfg c, (d.ctxs x).inFlight = .idle
  safe : d.fault = false

variable {cfg : DeviceCfg} {c : Nat} {d₀ d d' : Device} {wr wr' : WorkRequest} {x : CtxId}

lemma Loaded.ctx_inj (h : Loaded cfg c d) (hwr : wr ∈ d.posted) (hwr' : wr' ∈ d.posted)
    (heq : wr.ctx = wr'.ctx) : wr = wr' :=
  List.inj_on_of_nodup_map h.ctxs_nodup hwr hwr' heq

lemma Loaded.req_inj (h : Loaded cfg c d) (hwr : wr ∈ d.posted) (hwr' : wr' ∈ d.posted)
    (heq : wr.transfer.req = wr'.transfer.req) : wr = wr' :=
  List.inj_on_of_nodup_map h.reqs_nodup hwr hwr' heq

lemma Loaded.onceInv (h : Loaded cfg c d) : OnceInv cfg c d d := by
  refine ⟨fun _ hwr => hwr, fun _ _ _ => rfl, h.idle, ?_, ?_, ?_, ?_, ?_, h.safe⟩
  · intro wr hwr
    have hflight : (d.ctxs wr.ctx).inFlight ≠ .idle := by
      rw [h.flight wr hwr]
      split <;> decide
    rw [if_neg hflight, List.count_eq_zero_of_not_mem (h.bios wr hwr),
      List.count_eq_zero_of_not_mem (h.ended wr hwr)]
  · rcases h.state with hst | hst <;> rw [hst] <;> decide
  · intro k hk
    rw [h.scans] at hk
    cases hk
  · intro hdone
    rcases h.state with hst | hst <;> rw [hdone.1] at hst <;> cases hst
  · intro hfreed
    rw [h.allocated] at hfreed
    cases hfreed

/-- The request of a context in flight moves on: it is re-issued (`bios`) or ended (`ends`). -/
lemma OnceInv.move (h : OnceInv cfg c d₀ d) (hload : Loaded cfg c d₀) (hwr : wr ∈ d₀.posted)
    (hflight : (d.ctxs wr.ctx).inFlight ≠ .idle) (bios : List DiskBio) (ends : List Nat)
    (hone : bios.count (.request wr.transfer.req) + ends.count wr.transfer.req = 1)
    (hothers : ∀ req, req ≠ wr.transfer.req →
      bios.count (.request req) = 0 ∧ ends.count req = 0)
    (hposted : ∀ v ∈ d'.posted, v ∈ d₀.posted)
    (hctxs : ∀ y, y ≠ wr.ctx → d'.ctxs y = d.ctxs y)
    (hidle : (d'.ctxs wr.ctx).inFlight = .idle)
    (hbios : d'.bios = d.bios ++ bios) (hended : d'.ended = d.ended ++ ends)
    (hstate : d'.tables.sess.cbStateList c = d.tables.sess.cbStateList c)
    (hscanned : ∀ k, d'.scans c = some k →
      ∀ x ∈ (ctxIds cfg c).take k, (d'.ctxs x).inFlight = .idle)
    (hscans : d'.scans c = none → d.scans c = none)
    (hmemory : d'.freed = d.freed ∧ d'.fault = d.fault) : OnceInv cfg c d₀ d' := by
  have hidles : ∀ y, (d.ctxs y).inFlight = .idle → (d'.ctxs y).inFlight = .idle := by
    intro y hy
    by_cases hyx : y = wr.ctx
    · rw [hyx]
      exact hidle
    · rw [hctxs y hyx]
      exact hy
  refine ⟨hposted, ?_, fun y hy => hidles y (h.idle y hy), ?_, hstate ▸ h.state, hscanned, ?_, ?_,
    hmemory.2.trans h.safe⟩
  · intro v hv hne
    by_cases hyx : v.ctx = wr.ctx
    · rw [hyx] at hne
      exact absurd hidle hne
    · rw [hctxs _ hyx] at hne ⊢
      exact h.kept v hv hne
  · intro v hv
    have hold := h.place v hv
    rw [hbios, hended, List.count_append, List.count_append]
    by_cases hvw : v = wr
    · subst hvw
      rw [if_neg hflight] at hold
      rw [if_pos hidle]
      omega
    · have hyx : v.ctx ≠ wr.ctx := fun he => hvw (hload.ctx_inj hv hwr he)
      have hreq : v.transfer.req ≠ wr.transfer.req := fun he => hvw (hload.req_inj hv hwr he)
      obtain ⟨hb, he⟩ := hothers _ hreq
      rw [hctxs _ hyx]
      omega
  · intro hdone y hy
    have hold : disconnected c d := ⟨hstate ▸ hdone.1, hscans hdone.2⟩
    exact hidles y (h.handled hold y hy)
  · intro hfreed
    rw [hmemory.1] at hfreed
    exact absurd ((h.freed hfreed).2 _ (hload.ctx wr hwr)) hflight

lemma OnceInv.exists_of_flight (h : OnceInv cfg c d₀ d) (hflight : (d.ctxs x).inFlight ≠ .idle) :
    ∃ wr ∈ d₀.posted, wr.ctx = x := by
  by_contra hnone
  push Not at hnone
  exact hflight (h.idle x hnone)

lemma OnceInv.success (h : OnceInv cfg c d₀ d) (hload : Loaded cfg c d₀) (hwr : wr ∈ d₀.posted)
    (hflight : (d.ctxs wr.ctx).inFlight ≠ .idle) (hs : cqEvent d wr false = some d') :
    OnceInv cfg c d₀ d' := by
  have hkept := h.kept wr hwr hflight
  have hreq := hload.req wr hwr
  have hone : ([] : List DiskBio).count (.request wr.transfer.req) +
      [wr.transfer.req].count wr.transfer.req = 1 := by simp
  have hothers : ∀ req, req ≠ wr.transfer.req →
      ([] : List DiskBio).count (.request req) = 0 ∧ [wr.transfer.req].count req = 0 := by
    intro req hne
    exact ⟨rfl, List.count_eq_zero_of_not_mem (by simpa using hne)⟩
  have hscanned : ∀ k, d.scans c = some k → ∀ x ∈ (ctxIds cfg c).take k, x ≠ wr.ctx := by
    rintro k hk x hx rfl
    exact hflight (h.scanned k hk _ hx)
  rw [cqEvent, if_neg (by decide)] at hs
  cases hw : wr.transfer.write with
  | true =>
    have hptr := hload.chunk wr hwr hw
    rw [hw, if_pos rfl, clientWriteDone_eq (by rw [hkept, hptr]), hkept, hreq] at hs
    cases hs
    refine h.move hload hwr hflight [] [wr.transfer.req] hone hothers h.sub
      (fun y hy => Function.update_of_ne hy _ _) ?_ (List.append_nil _).symm rfl rfl ?_ id
      ⟨rfl, rfl⟩
    · simp only [Function.update_self]
    · intro k hk x hx
      have hne := hscanned k hk x hx
      simp only [Function.update_of_ne hne]
      exact h.scanned k hk x hx
  | false =>
    rw [hw, if_neg (by decide), clientReadDone_eq (by rw [hkept, hreq])] at hs
    cases hs
    refine h.move hload hwr hflight [] [wr.transfer.req] hone hothers h.sub
      (fun y hy => Function.update_of_ne hy _ _) ?_ (List.append_nil _).symm rfl rfl ?_ id
      ⟨rfl, rfl⟩
    · simp only [endRequest, insertCtx, setCtx, Function.update_self]
    · intro k hk x hx
      have hne := hscanned k hk x hx
      simp only [endRequest, insertCtx, setCtx, Function.update_of_ne hne]
      exact h.scanned k hk x hx

lemma OnceInv.scan {k : Nat} (h : OnceInv cfg c d₀ d) (hload : Loaded cfg c d₀)
    (hk : d.scans c = some k) (hx : (ctxIds cfg c)[k]? = some x)
    (hs : scanCtx { d with scans := Function.update d.scans c (some (k + 1)) } x = some d') :
    OnceInv cfg c d₀ d' := by
  have htake : (ctxIds cfg c).take (k + 1) = (ctxIds cfg c).take k ++ [x] := by
    rw [List.take_add_one, hx, Option.toList_some]
  have hnext : ∀ {e : Device}, (e.ctxs x).inFlight = .idle →
      (∀ y, y ≠ x → e.ctxs y = d.ctxs y) →
      ∀ j, Function.update d.scans c (some (k + 1)) c = some j →
        ∀ y ∈ (ctxIds cfg c).take j, (e.ctxs y).inFlight = .idle := by
    intro e hidle hsame j hj y hy
    rw [Function.update_self, Option.some.injEq] at hj
    subst hj
    by_cases hyx : y = x
    · rw [hyx]
      exact hidle
    · rw [htake, List.mem_append, List.mem_singleton, or_iff_left hyx] at hy
      rw [hsame y hyx]
      exact h.scanned k hk y hy
  cases hflight : (d.ctxs x).inFlight with
  | idle =>
    simp only [scanCtx, hflight, Option.some.injEq] at hs
    subst hs
    refine ⟨h.sub, h.kept, h.idle, h.place, h.state, hnext hflight fun _ _ => rfl, ?_, ?_, h.safe⟩
    · intro hdone
      have hscans := hdone.2
      simp at hscans
    · intro hfreed
      rw [(h.freed hfreed).1] at hk
      cases hk
  | read =>
    obtain ⟨wr, hwr, rfl⟩ := h.exists_of_flight (by rw [hflight]; decide)
    have hreq : (d.ctxs wr.ctx).req = some wr.transfer.req := by
      rw [h.kept wr hwr (by rw [hflight]; decide), hload.req wr hwr]
    simp only [scanCtx, hflight, hreq, Option.map_some, Option.some.injEq] at hs
    subst hs
    refine h.move hload hwr (by rw [hflight]; decide) [.request wr.transfer.req] [] (by simp) ?_
      h.sub (fun y hy => Function.update_of_ne hy _ _) ?_ rfl (List.append_nil _).symm rfl
      (hnext ?_ fun y hy => Function.update_of_ne hy _ _) ?_ ⟨rfl, rfl⟩
    · intro req hne
      refine ⟨List.count_eq_zero_of_not_mem ?_, rfl⟩
      simpa using hne
    · simp [insertCtx, requestStackbd, setCtx]
    · simp [insertCtx, requestStackbd, setCtx]
    · intro hnone
      simp [insertCtx, requestStackbd, setCtx] at hnone
  | write =>
    obtain ⟨wr, hwr, rfl⟩ := h.exists_of_flight (by rw [hflight]; decide)
    have hreq : (d.ctxs wr.ctx).req = some wr.transfer.req := by
      rw [h.kept wr hwr (by rw [hflight]; decide), hload.req wr hwr]
    simp only [scanCtx, hflight, hreq, Option.some.injEq] at hs
    subst hs
    refine h.move hload hwr (by rw [hflight]; decide) [] [wr.transfer.req] (by simp) ?_ h.sub
      (fun y hy => Function.update_of_ne hy _ _) ?_ (List.append_nil _).symm rfl rfl
      (hnext ?_ fun y hy => Function.update_of_ne hy _ _) ?_ ⟨rfl, rfl⟩
    · intro req hne
      refine ⟨rfl, List.count_eq_zero_of_not_mem ?_⟩
      simpa using hne
    · simp [endRequest, setCtx]
    · simp [endRequest, setCtx]
    · intro hnone
      simp [endRequest, setCtx] at hnone

lemma OnceInv.diskDone {k : Nat} {bio : DiskBio} (h : OnceInv cfg c d₀ d)
    (hk : d.bios[k]? = some bio) :
    OnceInv cfg c d₀ (endIo { d with bios := d.bios.eraseIdx k } bio) := by
  have hcount : ∀ req, d.bios.count (.request req) =
      (d.bios.eraseIdx k).count (.request req) + if bio == .request req then 1 else 0 :=
    fun req => countP_eraseIdx hk _
  cases bio with
  | mirror y r =>
    refine ⟨h.sub, h.kept, h.idle, fun wr hwr => ?_, h.state, h.scanned, h.handled, h.freed,
      h.safe⟩
    have hold := h.place wr hwr
    rw [hcount] at hold
    exact hold
  | request r =>
    refine ⟨h.sub, h.kept, h.idle, fun wr hwr => ?_, h.state, h.scanned, h.handled, h.freed,
      h.safe⟩
    have hold := h.place wr hwr
    rw [hcount] at hold
    have hended : (d.ended ++ [r]).count wr.transfer.req =
        d.ended.count wr.transfer.req + if r == wr.transfer.req then 1 else 0 := by
      rw [List.count_append, List.count_singleton]
    have hbio : (DiskBio.request r == .request wr.transfer.req) = (r == wr.transfer.req) := by
      by_cases hr : r = wr.transfer.req <;> simp [hr]
    rw [hbio] at hold
    change (if (d.ctxs wr.ctx).inFlight = .idle then 0 else 1) +
      (d.bios.eraseIdx k).count (.request wr.transfer.req) +
      (d.ended ++ [r]).count wr.transfer.req = 1
    rw [hended]
    omega

lemma foldl_forgetChunk_cbStateList (cb : ControlBlock) (slabs : List Nat) (sess : Session) :
    (slabs.foldl (fun s i => forgetChunk s (cb.chunkMap i)) sess).cbStateList =
      sess.cbStateList := by
  induction slabs generalizing sess with
  | nil => rfl
  | cons i rest ih =>
    rw [List.foldl_cons, ih]
    rfl

lemma OnceInv.allocated {e : DeviceEvent} (h : OnceInv cfg c d₀ d) (hload : Loaded cfg c d₀)
    (hok : handledInTime c d e) : (usedCtxs cfg d e).any d.freed = false := by
  rw [Option.any_eq_false]
  intro c' hused
  cases e with
  | complete k flushed =>
    cases flushed with
    | true => cases hused
    | false =>
      obtain ⟨wr, hk, rfl⟩ := Option.map_eq_some_iff.mp hused
      have hctx := hload.ctx wr (h.sub wr (List.mem_of_getElem? hk))
      rw [(mem_ctxIds.mp hctx).1, ← Bool.not_eq_true]
      exact fun hfreed => hok rfl wr hk ((h.freed hfreed).2 _ hctx)
  | diskDone k => exact hok c' hused
  | scan s =>
    have hc : s = c := hok
    subst hc
    obtain ⟨x, hx, rfl⟩ := Option.map_eq_some_iff.mp hused
    obtain ⟨k, hk, hx⟩ := Option.bind_eq_some_iff.mp hx
    rw [(mem_ctxIds.mp (List.mem_of_getElem? hx)).1, ← Bool.not_eq_true]
    intro hfreed
    rw [(h.freed hfreed).1] at hk
    cases hk
  | disconnect s => cases hused
  | forget s => cases hused
  | _ => exact absurd hok id

lemma OnceInv.step {e : DeviceEvent} (h : OnceInv cfg c d₀ d) (hload : Loaded cfg c d₀)
    (hok : handledInTime c d e) (hs : deviceStep cfg d e = some d') :
    OnceInv cfg c d₀ d' := by
  rw [deviceStep, h.allocated hload hok, if_neg (by decide)] at hs
  cases e with
  | complete k flushed =>
    simp only [handleEvent, Option.bind_eq_bind, Option.bind_eq_some_iff] at hs
    obtain ⟨wr, hk, hs⟩ := hs
    have herased : OnceInv cfg c d₀ { d with posted := d.posted.eraseIdx k } :=
      ⟨fun v hv => h.sub v (List.mem_of_mem_eraseIdx hv), h.kept, h.idle, h.place, h.state,
        h.scanned, h.handled, h.freed, h.safe⟩
    cases flushed with
    | true =>
      rw [cqEvent, if_pos rfl] at hs
      cases hs
      exact herased
    | false => exact herased.success hload (h.sub wr (List.mem_of_getElem? hk)) (hok rfl wr hk) hs
  | diskDone k =>
    simp only [handleEvent, Option.bind_eq_bind, Option.bind_eq_some_iff] at hs
    obtain ⟨bio, hk, hs⟩ := hs
    cases hs
    exact h.diskDone hk
  | disconnect c' =>
    obtain ⟨rfl, hallocated⟩ := hok
    simp only [handleEvent, if_neg h.state] at hs
    split at hs
    · cases hs
    · cases hs
      refine ⟨h.sub, h.kept, h.idle, h.place, ?_, ?_, ?_, ?_, h.safe⟩
      · simp [disallowChunks]
      · intro k hk x hx
        simp only [Function.update_self, Option.some.injEq] at hk
        subst hk
        simp at hx
      · intro hdone
        have hscans := hdone.2
        simp at hscans
      · intro hfreed
        rw [hallocated] at hfreed
        cases hfreed
  | scan c' =>
    have hc : c' = c := hok
    subst hc
    simp only [handleEvent, Option.bind_eq_bind, Option.bind_eq_some_iff] at hs
    obtain ⟨k, hk, x, hx, hs⟩ := hs
    exact h.scan hload hk hx hs
  | forget c' =>
    have hc : c' = c := hok
    subst hc
    simp only [handleEvent] at hs
    split at hs
    · next hend =>
      cases hs
      have hall : ∀ x ∈ ctxIds cfg c', (d.ctxs x).inFlight = .idle := by
        have hscanned := h.scanned _ hend
        rwa [List.take_length] at hscanned
      refine ⟨h.sub, h.kept, h.idle, h.place, ?_, ?_, fun _ => hall,
        fun _ => ⟨Function.update_self .., hall⟩, h.safe⟩
      · simp only [forgetServer, foldl_forgetChunk_cbStateList]
        exact h.state
      · intro k hk
        simp at hk
    · cases hs
  | route req r => exact absurd hok id
  | post k queue success => exact absurd hok id
  | unmap c' stop => exact absurd hok id
  | drain c' => exact absurd hok id
  | sendDone c' => exact absurd hok id

theorem requests_end_once (cfg : DeviceCfg) (c : Nat) (d₀ : Device) (hload : Loaded cfg c d₀)
    (d : Device) (h : GuardedRun (deviceStep cfg) (handledInTime c) d₀ d) :
    EndsOnce c d₀.posted d := by
  have hinv : OnceInv cfg c d₀ d := h.invariant hload.onceInv
    fun s e s' hs hok hstep => hs.step hload hok hstep
  refine ⟨?_, ?_, ?_, hinv.safe⟩
  · intro wr hwr
    have hplace := hinv.place wr hwr
    omega
  · intro wr hwr hbio hend
    have hplace := hinv.place wr hwr
    have hb := List.count_pos_iff.mpr hbio
    have he := List.count_pos_iff.mpr hend
    omega
  · intro hdone _ hbios wr hwr
    have hplace := hinv.place wr hwr
    have hidle := hinv.handled hdone wr.ctx (hload.ctx wr hwr)
    rw [if_pos hidle, hbios, List.count_nil] at hplace
    omega

/-- The write of request 7 and the read of request 8 are outstanding. -/
def writeAndRead : Device :=
  let d := deviceInit ⟨1, 1, 2⟩ (oneSlab fun _ => true)
  { d with
    pools := Function.update d.pools (0, 0) { d.pools (0, 0) with tail := -1 }
    ctxs := Function.update (Function.update d.ctxs ⟨0, 0, 1⟩ ⟨.write, some 7, 0, some 0, 0, 4096⟩)
      ⟨0, 0, 0⟩ ⟨.read, some 8, 0, none, 0, 0⟩
    posted := [⟨⟨0, 0, 1⟩, ⟨7, true, 0, 0, 0, 4096⟩⟩, ⟨⟨0, 0, 0⟩, ⟨8, false, 0, 0, 4096, 4096⟩⟩]
    bios := [.mirror ⟨0, 0, 1⟩ 7] }

lemma writeAndRead_loaded : Loaded ⟨1, 1, 2⟩ 0 writeAndRead := by
  refine ⟨by decide, by decide, by decide, by decide, by decide, by decide, ?_, by decide,
    by decide, .inl rfl, rfl, rfl, rfl⟩
  intro x hx
  have hwrite : x ≠ ⟨0, 0, 1⟩ := fun he => hx _ List.mem_cons_self he.symm
  have hread : x ≠ ⟨0, 0, 0⟩ := fun he =>
    hx _ (List.mem_cons_of_mem _ (List.mem_singleton.mpr rfl)) he.symm
  simp only [writeAndRead, Function.update_of_ne hread, Function.update_of_ne hwrite]
  rfl

/-- The write is flushed and the server is disconnected. The scan re-issues the read and ends the
write, whose mirrored bio completes before the contexts are freed; the read is flushed after
that, and the disk ends it. -/
theorem requests_end_once_flushed :
    ∃ d, GuardedRun (deviceStep ⟨1, 1, 2⟩) (handledInTime 0) writeAndRead d ∧
      disconnected 0 d ∧ d.freed 0 = true ∧ d.posted = [] ∧ d.bios = [] ∧ d.ended = [7, 8] ∧
      EndsOnce 0 writeAndRead.posted d := by
  have hrun : (runChecked (deviceStep ⟨1, 1, 2⟩) (fun d e => decide (handledInTime 0 d e))
      writeAndRead [.complete 0 true, .disconnect 0, .scan 0, .scan 0, .diskDone 0, .forget 0,
        .complete 0 true, .diskDone 0]).map
      (fun d => (d.tables.sess.cbStateList 0, d.scans 0, d.freed 0, d.posted, d.bios, d.ended)) =
        some (.fail, none, true, [], [], [7, 8]) := by
    rfl
  obtain ⟨d, hd, hfields⟩ := Option.map_eq_some_iff.mp hrun
  simp only [Prod.mk.injEq] at hfields
  obtain ⟨hstate, hscans, hfreed, hposted, hbios, hended⟩ := hfields
  have hreach := runChecked_decide_reaches hd
  exact ⟨d, hreach, ⟨hstate, hscans⟩, hfreed, hposted, hbios, hended,
    requests_end_once _ _ _ writeAndRead_loaded d hreach⟩

/-- Successful completions that are handled after the scan end the write of request 7 again, and
the read of request 8, which the scan has re-issued to the disk. -/
theorem late_success_ends_again :
    (runActions (deviceStep ⟨1, 1, 2⟩) writeAndRead
      [.disconnect 0, .scan 0, .scan 0, .complete 0 false, .complete 0 false]).map
        (fun d => (d.ended, d.bios)) =
      some ([7, 7, 8], [.mirror ⟨0, 0, 1⟩ 7, .request 8]) ∧
    ∃ d, runActions (deviceStep ⟨1, 1, 2⟩) writeAndRead
      [.disconnect 0, .scan 0, .scan 0, .complete 0 false, .complete 0 false] = some d ∧
      ¬EndsOnce 0 writeAndRead.posted d := by
  refine ⟨by decide, _, rfl, fun h => ?_⟩
  exact absurd (h.once _ List.mem_cons_self) (by decide)

end DisStore.Proofs
