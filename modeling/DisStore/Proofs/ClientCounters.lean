import DisStore.Counters
import DisStore.Lib.Count
import DisStore.Proofs.ChunkMaps
import DisStore.Proofs.ServerChoice

/-!
# The counters of the client

`chunk_size_g` of a server counts its mapped slabs in every run. `mapped_cb_num` should count
the servers in use, but an eviction takes slabs off it and a disconnect nothing. The
difference between the two is followed exactly: a bind leaves it alone, an eviction round of
`size_g` slabs lowers it by `size_g`, and the loss of a server in use raises it by one.
-/

namespace DisStore

/-- CB_MAPPED or CB_EVICTING -/
def CbState.inUse : CbState → Bool
  | .mapped | .evicting => true
  | .idle | .connected | .fail => false

/-- The number of servers in use. -/
def Session.usedCbs (numCb : Nat) (s : Session) : Nat :=
  Nat.count (fun c => (s.cbStateList c).inUse = true) numCb

/-- The number of entries of `chunk_map` that are not -1. -/
def ControlBlock.mappedCount (maxMr : Nat) (cb : ControlBlock) : Nat :=
  Nat.count (fun i => cb.chunkMap i ≠ -1) maxMr

/-- What the counters should be. -/
structure CountersAgree (numCb maxMr : Nat) (t : ChunkTables) : Prop where
  chunkSize : ∀ c, (t.cbs c).chunkSizeG = (t.cbs c).mappedCount maxMr
  mappedCb : t.sess.mappedCbNum = t.sess.usedCbs numCb
  nonneg : 0 ≤ t.sess.mappedCbNum

/-- The premise on the operations: they are about servers of the session, and a STOP flags
`size_gb` slabs, all of them mapped. -/
def counterOpFits (numCb maxMr : Nat) (t : ChunkTables) : CounterOp → Prop
  | .bind _ _ => True
  | .evict c stop _ => c < numCb ∧ stop.sizeGb = (grantedSlabs maxMr stop).length ∧
      ∀ i ∈ grantedSlabs maxMr stop, (t.cbs c).chunkMap i ≠ -1
  | .disconnect c _ => c < numCb

instance (numCb maxMr : Nat) (t : ChunkTables) : DecidablePred (counterOpFits numCb maxMr t)
  | .bind _ _ => inferInstanceAs (Decidable True)
  | .evict c stop _ => inferInstanceAs (Decidable (c < numCb ∧
      stop.sizeGb = (grantedSlabs maxMr stop).length ∧
      ∀ i ∈ grantedSlabs maxMr stop, (t.cbs c).chunkMap i ≠ -1))
  | .disconnect c _ => inferInstanceAs (Decidable (c < numCb))

/-- An operation that takes nothing away: a STOP of size 0, the disconnect of a server that is
not in use. -/
def takesNothing (t : ChunkTables) : CounterOp → Prop
  | .bind _ _ => True
  | .evict _ stop _ => stop.sizeGb = 0
  | .disconnect c _ => (t.sess.cbStateList c).inUse = false

instance (t : ChunkTables) : DecidablePred (takesNothing t)
  | .bind _ _ => inferInstanceAs (Decidable True)
  | .evict _ stop _ => inferInstanceAs (Decidable (stop.sizeGb = 0))
  | .disconnect c _ => inferInstanceAs (Decidable ((t.sess.cbStateList c).inUse = false))

/-- By how much an operation moves `mapped_cb_num` away from the number of servers in use. -/
def driftOf (t : ChunkTables) : CounterOp → Int
  | .bind _ _ => 0
  | .evict _ stop _ => -stop.sizeGb
  | .disconnect c _ => if (t.sess.cbStateList c).inUse then 1 else 0

end DisStore

namespace DisStore.Proofs
open DisStore DisStore.Lib

/-- The counters of the servers are right, only servers in use have mapped slabs, and
`mapped_cb_num` is off by `drift`. -/
structure CounterInv (numCb maxMr : Nat) (drift : Int) (t : ChunkTables) : Prop where
  chunkSize : ∀ c, (t.cbs c).chunkSizeG = (t.cbs c).mappedCount maxMr
  used : ∀ c i, i < maxMr → (t.cbs c).chunkMap i ≠ -1 → (t.sess.cbStateList c).inUse = true
  mappedCb : t.sess.mappedCbNum = t.sess.usedCbs numCb + drift

section Counters
variable {numCb selectNum maxMr capacityG : Nat} {drift : Int} {t t' : ChunkTables}

lemma mappedCount_congr (maxMr : Nat) {cb cb' : ControlBlock}
    (h : ∀ i < maxMr, cb'.chunkMap i = cb.chunkMap i) :
    cb'.mappedCount maxMr = cb.mappedCount maxMr :=
  count_congr fun i hi => by rw [h i hi]

lemma usedCbs_congr {s s' : Session}
    (h : ∀ c < numCb, (s'.cbStateList c).inUse = (s.cbStateList c).inUse) :
    s'.usedCbs numCb = s.usedCbs numCb :=
  count_congr fun c hc => by rw [h c hc]

lemma usedCbs_enter {s s' : Session} {c : Nat} (hc : c < numCb)
    (hbefore : (s.cbStateList c).inUse = false) (hafter : (s'.cbStateList c).inUse = true)
    (hrest : ∀ c' < numCb, c' ≠ c →
      (s'.cbStateList c').inUse = (s.cbStateList c').inUse) :
    s'.usedCbs numCb = s.usedCbs numCb + 1 := by
  apply count_insert hc
  · rw [hbefore]
    exact Bool.false_ne_true
  · exact hafter
  · intro c' hc' hne
    rw [hrest c' hc' hne]

lemma counterInv_init (numCb maxMr capacityG : Nat) :
    CounterInv numCb maxMr 0 (chunkTablesInit capacityG) := by
  have hnone : Nat.count (fun _ => False) maxMr = 0 := by simp
  have hmaps : kernelCbInit.mappedCount maxMr = 0 := by
    rw [ControlBlock.mappedCount, ← hnone]
    exact count_congr fun i _ => by simp [kernelCbInit]
  refine ⟨fun c => ?_, fun c i _ hne => (hne rfl).elim, ?_⟩
  · change (0 : Int) = (kernelCbInit.mappedCount maxMr : Nat)
    rw [hmaps]
    rfl
  · have hused : (sessionCreate capacityG).usedCbs numCb = 0 := by
      rw [Session.usedCbs, Nat.count_iff_forall_not]
      intro c _
      exact Bool.false_ne_true
    change (0 : Int) = ((sessionCreate capacityG).usedCbs numCb : Nat) + 0
    rw [hused]
    rfl

lemma countersAgree_iff (h : CounterInv numCb maxMr drift t) :
    CountersAgree numCb maxMr t ↔ drift = 0 := by
  have hmapped := h.mappedCb
  constructor
  · intro hagree
    have heq := hagree.mappedCb
    omega
  · intro hzero
    refine ⟨h.chunkSize, ?_, ?_⟩ <;> omega

/-! ## A call of IS_single_chunk_map -/

/-- The queries connect idle servers and change nothing else of the session. -/
structure QueriedSession (sel : List Nat) (s s' : Session) : Prop where
  state : ∀ c, s'.cbStateList c =
    if s.cbStateList c = .idle ∧ c ∈ sel then .connected else s.cbStateList c
  mappedCb : s'.mappedCbNum = s.mappedCbNum

lemma queryServer_session (reply : Nat → Int) (q : ServerQuery) (c i : Nat) :
    QueriedSession [c] q.sess (queryServer reply q (c, i)).sess := by
  constructor
  · intro c'
    by_cases hc : c' = c
    · subst hc
      by_cases hidle : q.sess.cbStateList c' = .idle
      · simp [queryServer, hidle]
      · by_cases hfail : q.sess.cbStateList c' = .fail
        · simp [queryServer, hfail]
        · simp [queryServer, hidle, hfail]
    · simp only [queryServer, List.mem_singleton, hc, and_false, if_false]
      split
      · rfl
      · split
        · exact Function.update_of_ne hc ..
        · rfl
  · simp only [queryServer]
    split
    · rfl
    · split <;> rfl

lemma foldl_queryServer_session (reply : Nat → Int) (sel : List Nat) (k : Nat) (q : ServerQuery) :
    QueriedSession sel q.sess ((sel.zipIdx k).foldl (queryServer reply) q).sess := by
  induction sel generalizing k q with
  | nil => exact ⟨fun c => by simp, rfl⟩
  | cons c sel ih =>
    have hone := queryServer_session reply q c k
    have hrest := ih (k + 1) (queryServer reply q (c, k))
    rw [List.zipIdx_cons, List.foldl_cons]
    refine ⟨fun c' => ?_, hrest.mappedCb.trans hone.mappedCb⟩
    rw [hrest.state, hone.state]
    by_cases hidle : q.sess.cbStateList c' = .idle
    · by_cases hc : c' = c
      · subst hc
        simp [hidle]
      · simp [hidle, hc]
    · simp [hidle]

/-- What a call asks, which server it binds and what it does to the session. -/
structure MapsOne (numCb : Nat) (s : Session) (r : MapChoice) : Prop where
  asked : ∀ c ∈ r.queried, c < numCb ∧ (s.cbStateList c).available = true
  state : ∀ c, r.sess.cbStateList c =
    if s.cbStateList c = .idle ∧ c ∈ r.queried then .connected else s.cbStateList c
  refused : r.bound = none → r.sess.mappedCbNum = s.mappedCbNum
  bound : ∀ x, r.bound = some x → ∃ c ∈ r.queried, x = (c : Int) ∧
    r.sess.mappedCbNum =
      s.mappedCbNum + if r.sess.cbStateList c = .connected then 1 else 0

lemma singleChunkMap_session {s : Session} {draws : Nat → Nat} {reply : Nat → Int}
    {chunk : Int} {sel : List Nat} {r : MapChoice}
    (hselect : selectCbs numCb numCb selectNum s draws = some sel)
    (hr : singleChunkMap numCb numCb selectNum s draws reply chunk = some r) :
    ∃ s', QueriedSession sel s s' ∧ r.sess.cbStateList = s'.cbStateList ∧
      (r.bound = none → r.sess.mappedCbNum = s'.mappedCbNum) ∧
      ∀ x, r.bound = some x → r.sess.mappedCbNum =
        s'.mappedCbNum + if s'.cbStateList x.toNat = .connected then 1 else 0 := by
  have hquery := foldl_queryServer_session reply sel 0 ⟨s, [], fun _ => -1, fun _ => numCb⟩
  simp only [singleChunkMap, hselect, Option.bind_eq_bind, Option.bind_some] at hr
  generalize sel.zipIdx.foldl (queryServer reply) ⟨s, [], fun _ => -1, fun _ => numCb⟩ = q
    at hr hquery
  generalize (List.range' 1 (sel.length - 1)).foldl moreFree (q.freeMem, q.freeMemSorted) = m
    at hr
  by_cases hnil : sel = []
  · rw [if_pos hnil] at hr
    cases hr
    exact ⟨s, ⟨fun c => by simp [hnil], rfl⟩, rfl, fun _ => rfl, (by rintro _ ⟨⟩)⟩
  · rw [if_neg hnil] at hr
    refine ⟨q.sess, hquery, ?_⟩
    by_cases hzero : m.1 0 = 0
    · rw [if_pos hzero] at hr
      cases hr
      exact ⟨rfl, fun _ => rfl, (by rintro _ ⟨⟩)⟩
    · rw [if_neg hzero] at hr
      cases hr
      refine ⟨?_, (by rintro ⟨⟩), ?_⟩
      · dsimp only
        split <;> rfl
      · intro x hx
        cases hx
        dsimp only
        split
        · rfl
        · exact (add_zero _).symm

lemma singleChunkMap_mapsOne {s : Session} {draws : Nat → Nat} {reply : Nat → Int}
    {chunk : Int} {r : MapChoice} (hreply : ∀ c, IsInt (reply c)) (hn : numCb < 2 ^ 31)
    (hr : singleChunkMap numCb numCb selectNum s draws reply chunk = some r) :
    MapsOne numCb s r := by
  obtain ⟨sel, r', hselect, hsel, hr', rfl, hcase⟩ :=
    singleChunkMap_eq numCb selectNum s draws hreply hn chunk
  obtain rfl : r' = r := Option.some.inj (hr'.symm.trans hr)
  obtain ⟨s', hquery, hstate, hnone, hsome⟩ := singleChunkMap_session hselect hr
  refine ⟨hsel.available, ?_, ?_, ?_⟩
  · intro c
    rw [hstate]
    exact hquery.state c
  · intro hbound
    rw [hnone hbound, hquery.mappedCb]
  · intro x hx
    obtain ⟨c, hc, rfl⟩ : ∃ c ∈ r'.queried, x = (c : Int) := by
      rcases hcase with ⟨-, hbound, -⟩ | ⟨c, hc, -, ⟨-, hbound, -⟩ | ⟨-, hbound, -⟩⟩
      · cases hx.symm.trans hbound
      · cases hx.symm.trans hbound
      · exact ⟨c, hc, Option.some.inj (hx.symm.trans hbound)⟩
    refine ⟨c, hc, rfl, ?_⟩
    rw [hsome _ hx, hquery.mappedCb, hstate, Int.toNat_natCast]

/-! ## INFO_SINGLE -/

/-- The part of the invariant that is about the servers. -/
structure SlabsCounted (maxMr : Nat) (t : ChunkTables) : Prop where
  chunkSize : ∀ c, (t.cbs c).chunkSizeG = (t.cbs c).mappedCount maxMr
  used : ∀ c i, i < maxMr → (t.cbs c).chunkMap i ≠ -1 → (t.sess.cbStateList c).inUse = true

lemma recvInfoSingle_chunkSize (t : ChunkTables) (c c' : Nat) (msg : Message) :
    ((recvInfoSingle maxMr t c msg).cbs c').chunkSizeG =
      (t.cbs c').chunkSizeG + if c' = c ∧ grantedSlab maxMr msg ≠ none then 1 else 0 := by
  by_cases hc : c' = c
  · subst hc
    cases hg : grantedSlab maxMr msg with
    | none =>
      simp only [recvInfoSingle, singleChunkInit, hg]
      simp
    | some i =>
      simp only [recvInfoSingle, singleChunkInit, hg]
      simp
  · simp [recvInfoSingle, hc]

lemma SlabsCounted.recvInfoSingle (h : SlabsCounted maxMr t) (c : Nat) {msg : Message}
    (hsize : 0 ≤ msg.sizeGb) (hunused : grantsUnused maxMr t c msg = true) :
    SlabsCounted maxMr (recvInfoSingle maxMr t c msg) := by
  obtain ⟨hstate, -⟩ := recvInfoSingle_session maxMr t c msg
  have hkept : ∀ c', (t.sess.cbStateList c').inUse = true →
      ((DisStore.recvInfoSingle maxMr t c msg).sess.cbStateList c').inUse = true := by
    intro c' huse
    rw [hstate]
    by_cases hc : c' = c
    · rw [hc, Function.update_self]
      rfl
    · rw [Function.update_of_ne hc]
      exact huse
  cases hg : grantedSlab maxMr msg with
  | none =>
    have hsame := recvInfoSingle_refused t c hg
    refine ⟨fun c' => ?_, fun c' i hi hne => ?_⟩
    · have hcount := mappedCount_congr maxMr fun i _ => congrFun (hsame.chunk c') i
      rw [recvInfoSingle_chunkSize, hg, hcount, h.chunkSize c']
      simp
    · rw [hsame.chunk c'] at hne
      exact hkept c' (h.used c' i hi hne)
  | some i =>
    have hbound := recvInfoSingle_boundTo t c hg
    have hfree : (t.cbs c).chunkMap i = -1 := by
      simpa [grantsUnused, hg] using hunused
    refine ⟨fun c' => ?_, fun c' j hj hne => ?_⟩
    · rw [recvInfoSingle_chunkSize, hg, h.chunkSize c']
      by_cases hc : c' = c
      · subst hc
        have hcount : ((DisStore.recvInfoSingle maxMr t c' msg).cbs c').mappedCount maxMr =
            (t.cbs c').mappedCount maxMr + 1 := by
          apply count_insert (grantedSlab_lt hg) (not_not.mpr hfree)
          · rw [hbound.chunk, if_pos ⟨rfl, rfl⟩]
            omega
          · intro j _ hji
            rw [hbound.chunk, if_neg (fun heq => hji heq.2)]
        rw [hcount]
        simp
      · have hsame : ∀ j < maxMr,
            ((DisStore.recvInfoSingle maxMr t c msg).cbs c').chunkMap j = (t.cbs c').chunkMap j := by
          intro j _
          rw [hbound.chunk, if_neg (fun heq => hc heq.1)]
        rw [mappedCount_congr maxMr hsame]
        simp [hc]
    · by_cases hc : c' = c
      · rw [hc, hstate, Function.update_self]
        rfl
      · rw [hbound.chunk, if_neg (fun heq => hc heq.1)] at hne
        exact hkept c' (h.used c' j hj hne)

/-! ## The whole call -/

lemma isInt_toInt (x : Int32) : IsInt x.toInt :=
  ⟨Int32.le_toInt x, Int32.toInt_lt x⟩

lemma MapsOne.inUse {s : Session} {r : MapChoice} (h : MapsOne numCb s r) (c : Nat) :
    (r.sess.cbStateList c).inUse = (s.cbStateList c).inUse := by
  rw [h.state]
  split
  · rename_i hidle
    rw [hidle.1]
    rfl
  · rfl

lemma MapsOne.asked_state {s : Session} {r : MapChoice} (h : MapsOne numCb s r) {c : Nat}
    (hc : c ∈ r.queried) :
    r.sess.cbStateList c = .connected ∨ r.sess.cbStateList c = .mapped := by
  have havailable := (h.asked c hc).2
  rw [h.state]
  cases hstate : s.cbStateList c with
  | idle => simp [hc]
  | connected => simp
  | mapped => simp
  | evicting =>
    rw [hstate] at havailable
    cases havailable
  | fail =>
    rw [hstate] at havailable
    cases havailable

lemma SlabsCounted.asked (h : SlabsCounted maxMr t) {r : MapChoice}
    (hmaps : MapsOne numCb t.sess r) : SlabsCounted maxMr (askedTables t r) := by
  have hnew : kernelCbInit.mappedCount maxMr = 0 := by
    rw [ControlBlock.mappedCount, Nat.count_iff_forall_not]
    exact fun i _ hne => hne rfl
  refine ⟨fun c => ?_, fun c i hi hne => ?_⟩
  · by_cases hc : t.sess.cbStateList c = .idle ∧ c ∈ r.queried
    · simp only [askedTables, if_pos hc]
      exact congrArg Nat.cast hnew.symm
    · simp only [askedTables, if_neg hc]
      exact h.chunkSize c
  · change (r.sess.cbStateList c).inUse = true
    rw [hmaps.inUse]
    by_cases hc : t.sess.cbStateList c = .idle ∧ c ∈ r.queried
    · simp only [askedTables, if_pos hc] at hne
      exact (hne rfl).elim
    · simp only [askedTables, if_neg hc] at hne
      exact h.used c i hi hne

lemma MapsOne.counted (maxMr : Nat) {r : MapChoice} (hmaps : MapsOne numCb t.sess r) {c : Nat}
    (hc : c ∈ r.queried) (msg : Message) :
    ((recvInfoSingle maxMr (askedTables t r) c msg).sess.usedCbs numCb : Int) =
      t.sess.usedCbs numCb + if r.sess.cbStateList c = .connected then 1 else 0 := by
  obtain ⟨hstate, -⟩ := recvInfoSingle_session maxMr (askedTables t r) c msg
  have hother : ∀ c' < numCb, c' ≠ c →
      ((recvInfoSingle maxMr (askedTables t r) c msg).sess.cbStateList c').inUse =
        (t.sess.cbStateList c').inUse := by
    intro c' _ hne
    rw [hstate, Function.update_of_ne hne]
    exact hmaps.inUse c'
  have hmapped :
      ((recvInfoSingle maxMr (askedTables t r) c msg).sess.cbStateList c).inUse = true := by
    rw [hstate, Function.update_self]
    rfl
  have hbefore := hmaps.inUse c
  rcases hmaps.asked_state hc with hconn | hmap
  · rw [hconn] at hbefore
    rw [if_pos hconn, usedCbs_enter (hmaps.asked c hc).1 hbefore.symm hmapped hother]
    rfl
  · rw [hmap] at hbefore
    have hne : r.sess.cbStateList c ≠ .connected := by
      rw [hmap]
      nofun
    rw [if_neg hne, add_zero, Nat.cast_inj]
    apply usedCbs_congr
    intro c' hc'
    by_cases heq : c' = c
    · rw [heq, hmapped, ← hbefore]
      rfl
    · exact hother c' hc' heq

lemma CounterInv.singleChunkBind (hn : numCb < 2 ^ 31) (h : CounterInv numCb maxMr drift t) {s : Nat}
    {call : MapInput} (hstep : singleChunkBind numCb selectNum maxMr t s call = some t') :
    CounterInv numCb maxMr drift t' ∧
      ∀ c, t.sess.cbStateList c = .evicting → t'.sess.cbStateList c = .evicting := by
  simp only [DisStore.singleChunkBind, Option.bind_eq_bind, Option.bind_eq_some_iff] at hstep
  obtain ⟨r, hr, hstep⟩ := hstep
  have hmaps := singleChunkMap_mapsOne (fun c => isInt_toInt (call.reply c)) hn hr
  have hasked := SlabsCounted.asked ⟨h.chunkSize, h.used⟩ hmaps
  have hevicting : ∀ c, t.sess.cbStateList c = .evicting → r.sess.cbStateList c = .evicting := by
    intro c hc
    rw [hmaps.state, hc]
    rfl
  have hmapped := h.mappedCb
  split at hstep
  · rename_i hbound
    cases hstep
    have hused : r.sess.usedCbs numCb = t.sess.usedCbs numCb :=
      usedCbs_congr fun c _ => hmaps.inUse c
    refine ⟨⟨hasked.chunkSize, hasked.used, ?_⟩, hevicting⟩
    change r.sess.mappedCbNum = (r.sess.usedCbs numCb : Int) + drift
    rw [hmaps.refused hbound, hused]
    exact hmapped
  · rename_i x hbound
    obtain ⟨c, hc, rfl, hcount⟩ := hmaps.bound x hbound
    rw [Option.ite_none_right_eq_some, Option.some.injEq, Int.toNat_natCast] at hstep
    obtain ⟨hunused, rfl⟩ := hstep
    have hslabs := hasked.recvInfoSingle c (Int.natCast_nonneg s) hunused
    have hused := hmaps.counted maxMr hc { call.info with sizeGb := (s : Int) }
    obtain ⟨hstate, hnum⟩ := recvInfoSingle_session maxMr (askedTables t r) c
      { call.info with sizeGb := (s : Int) }
    refine ⟨⟨hslabs.chunkSize, hslabs.used, ?_⟩, ?_⟩
    · rw [hnum, hused]
      change r.sess.mappedCbNum = _
      rw [hcount, hmapped]
      ring
    · intro c' hc'
      have hne : c' ≠ c := by
        rintro rfl
        have havailable := (hmaps.asked c' hc).2
        rw [hc'] at havailable
        cases havailable
      rw [hstate, Function.update_of_ne hne]
      exact hevicting c' hc'

/-! ## Eviction rounds and disconnects -/

lemma CounterInv.bindLoop (hn : numCb < 2 ^ 31) {step : ChunkTables → Nat → Option ChunkTables}
    (hbind : ∀ t s t', step t s = some t' → ∃ t₁ call, t₁.cbs = t.cbs ∧
      t₁.sess.cbStateList = t.sess.cbStateList ∧ t₁.sess.mappedCbNum = t.sess.mappedCbNum ∧
      DisStore.singleChunkBind numCb selectNum maxMr t₁ s call = some t')
    (chunks : List Nat) (h : CounterInv numCb maxMr drift t)
    (hloop : chunks.foldlM step t = some t') :
    CounterInv numCb maxMr drift t' ∧
      ∀ c, t.sess.cbStateList c = .evicting → t'.sess.cbStateList c = .evicting := by
  induction chunks generalizing t with
  | nil =>
    cases hloop
    exact ⟨h, fun _ hc => hc⟩
  | cons s chunks ih =>
    simp only [List.foldlM_cons, Option.bind_eq_bind, Option.bind_eq_some_iff] at hloop
    obtain ⟨t₂, hstep, hloop⟩ := hloop
    obtain ⟨t₁, call, hcbs, hstate, hnum, hcall⟩ := hbind t s t₂ hstep
    have hstart : CounterInv numCb maxMr drift t₁ := by
      refine ⟨?_, ?_, ?_⟩
      · rw [hcbs]
        exact h.chunkSize
      · rw [hcbs, hstate]
        exact h.used
      · rw [hnum, h.mappedCb, Session.usedCbs, Session.usedCbs, hstate]
    obtain ⟨hnext, hkept⟩ := hstart.singleChunkBind hn hcall
    obtain ⟨hend, hkeptEnd⟩ := ih hnext hloop
    refine ⟨hend, fun c hc => hkeptEnd c (hkept c ?_)⟩
    rw [hstate]
    exact hc

lemma clientRecvStop_counts (maxMr : Nat) (cb : ControlBlock) :
    (clientRecvStop maxMr cb).chunkSizeG = cb.chunkSizeG ∧
      (clientRecvStop maxMr cb).shrinkSizeG = cb.recvBuf.sizeGb := by
  unfold clientRecvStop
  split
  · rename_i hzero
    exact ⟨rfl, hzero.symm⟩
  · exact ⟨rfl, rfl⟩

lemma mappedCount_marked {cb cb' : ControlBlock} {slabs : List Nat} (hnodup : slabs.Nodup)
    (hslabs : ∀ i ∈ slabs, i < maxMr ∧ cb.chunkMap i ≠ -1)
    (hmap : ∀ i < maxMr, cb'.chunkMap i = if i ∈ slabs then -1 else cb.chunkMap i) :
    (cb'.mappedCount maxMr : Int) = cb.mappedCount maxMr - slabs.length := by
  have hsplit : cb.mappedCount maxMr =
      cb'.mappedCount maxMr + Nat.count (fun i => i ∈ slabs) maxMr := by
    apply count_split
    · intro i hi
      rw [hmap i hi]
      by_cases hmem : i ∈ slabs
      · simp [hmem, (hslabs i hmem).2]
      · simp [hmem]
    · intro i hi hne hmem
      rw [hmap i hi, if_pos hmem] at hne
      exact hne rfl
  rw [count_mem_eq_length hnodup fun i hi => (hslabs i hi).1] at hsplit
  omega

lemma CounterInv.evictUnmap (h : CounterInv numCb maxMr drift t) {c : Nat} {cb : ControlBlock}
    (hchunk : cb.chunkMap = (t.cbs c).chunkMap) (hcount : cb.chunkSizeG = (t.cbs c).chunkSizeG)
    (hmarked : ∀ i ∈ markedSlabs maxMr cb, cb.chunkMap i ≠ -1)
    (hsize : cb.shrinkSizeG = (markedSlabs maxMr cb).length) (hne : cb.shrinkSizeG ≠ 0) :
    CounterInv numCb maxMr (drift - cb.shrinkSizeG) (evictUnmap maxMr c t cb) := by
  have hslabs : ∀ i ∈ markedSlabs maxMr cb, i < maxMr ∧ (t.cbs c).chunkMap i ≠ -1 :=
    fun i hi => ⟨lt_of_mem_markedSlabs hi, hchunk ▸ hmarked i hi⟩
  have huse : (t.sess.cbStateList c).inUse = true := by
    have hlen : markedSlabs maxMr cb ≠ [] := by
      intro hnil
      rw [hnil] at hsize
      exact hne hsize
    obtain ⟨i, hi⟩ := List.exists_mem_of_ne_nil _ hlen
    exact h.used c i (hslabs i hi).1 (hslabs i hi).2
  have hstate : ∀ c', (((DisStore.evictUnmap maxMr c t cb).sess.cbStateList c').inUse) =
      (t.sess.cbStateList c').inUse := by
    intro c'
    change (Function.update t.sess.cbStateList c .evicting c').inUse = _
    by_cases hc : c' = c
    · rw [hc, Function.update_self, huse]
      rfl
    · rw [Function.update_of_ne hc]
  have hself : ∀ i, ((DisStore.evictUnmap maxMr c t cb).cbs c).chunkMap i =
      if i ∈ markedSlabs maxMr cb then -1 else (t.cbs c).chunkMap i := by
    intro i
    simp only [DisStore.evictUnmap, Function.update_self, ← hchunk]
    rfl
  have hother : ∀ c', c' ≠ c → (DisStore.evictUnmap maxMr c t cb).cbs c' = t.cbs c' :=
    fun c' hc => Function.update_of_ne hc ..
  refine ⟨fun c' => ?_, fun c' i hi hmapped => ?_, ?_⟩
  · by_cases hc : c' = c
    · subst hc
      have hnodup : (markedSlabs maxMr cb).Nodup := List.nodup_range.filter _
      have hleft := mappedCount_marked hnodup hslabs fun i _ => hself i
      have hsub : ((DisStore.evictUnmap maxMr c' t cb).cbs c').chunkSizeG =
          (t.cbs c').chunkSizeG - cb.shrinkSizeG := by
        simp only [DisStore.evictUnmap, Function.update_self, ← hcount]
        rfl
      rw [hsub, hleft, h.chunkSize, hsize]
    · rw [hother c' hc]
      exact h.chunkSize c'
  · rw [hstate]
    by_cases hc : c' = c
    · rw [hc]
      exact huse
    · rw [hother c' hc] at hmapped
      exact h.used c' i hi hmapped
  · have hused : (DisStore.evictUnmap maxMr c t cb).sess.usedCbs numCb = t.sess.usedCbs numCb :=
      usedCbs_congr fun c' _ => hstate c'
    have hnum : (DisStore.evictUnmap maxMr c t cb).sess.mappedCbNum =
        t.sess.mappedCbNum - cb.shrinkSizeG := rfl
    rw [hnum, hused, h.mappedCb]
    ring

lemma CounterInv.setState (h : CounterInv numCb maxMr drift t) (c : Nat) (st : CbState)
    (hst : st.inUse = (t.sess.cbStateList c).inUse) {sess : Session}
    (hstate : sess.cbStateList = Function.update t.sess.cbStateList c st)
    (hnum : sess.mappedCbNum = t.sess.mappedCbNum) :
    CounterInv numCb maxMr drift { t with sess := sess } := by
  have huse : ∀ c', (sess.cbStateList c').inUse = (t.sess.cbStateList c').inUse := by
    intro c'
    rw [hstate]
    by_cases hc : c' = c
    · rw [hc, Function.update_self, hst]
    · rw [Function.update_of_ne hc]
  refine ⟨h.chunkSize, ?_, ?_⟩
  · intro c' i hi hne
    change (sess.cbStateList c').inUse = true
    rw [huse]
    exact h.used c' i hi hne
  · have hused : sess.usedCbs numCb = t.sess.usedCbs numCb := usedCbs_congr fun c' _ => huse c'
    change sess.mappedCbNum = (sess.usedCbs numCb : Int) + drift
    rw [hnum, hused]
    exact h.mappedCb

lemma CounterInv.setCb (h : CounterInv numCb maxMr drift t) {c : Nat} {cb : ControlBlock}
    (hchunk : cb.chunkMap = (t.cbs c).chunkMap) (hcount : cb.chunkSizeG = (t.cbs c).chunkSizeG) :
    CounterInv numCb maxMr drift { t with cbs := Function.update t.cbs c cb } := by
  have hmap := update_field ControlBlock.chunkMap t.cbs hchunk
  have hsize := update_field ControlBlock.chunkSizeG t.cbs hcount
  refine ⟨fun c' => ?_, fun c' i hi hne => ?_, h.mappedCb⟩
  · dsimp only
    rw [hsize, mappedCount_congr maxMr fun i _ => congrFun (hmap c') i]
    exact h.chunkSize c'
  · dsimp only at hne
    rw [hmap] at hne
    exact h.used c' i hi hne

lemma CounterInv.evictServer (hn : numCb < 2 ^ 31) (h : CounterInv numCb maxMr drift t) {c : Nat}
    {stop : Message} {calls : Nat → MapInput}
    (hsize : stop.sizeGb = (grantedSlabs maxMr stop).length)
    (hflags : ∀ i ∈ grantedSlabs maxMr stop, (t.cbs c).chunkMap i ≠ -1)
    (hstep : evictServer (fun t s => DisStore.singleChunkBind numCb selectNum maxMr t s (calls s))
      maxMr capacityG t c stop = some t') :
    CounterInv numCb maxMr (drift - stop.sizeGb) t' := by
  obtain ⟨hchunk, -⟩ :=
    clientRecvStop_chunkMap maxMr { t.cbs c with recvBuf := stop, state := .recvStop }
  obtain ⟨hcount, hshrink⟩ :=
    clientRecvStop_counts maxMr { t.cbs c with recvBuf := stop, state := .recvStop }
  have hmarked : stop.sizeGb ≠ 0 → markedSlabs maxMr (clientRecvStop maxMr
      { t.cbs c with recvBuf := stop, state := .recvStop }) = grantedSlabs maxMr stop :=
    fun hne => markedSlabs_stop hne
  simp only [DisStore.evictServer] at hstep
  generalize clientRecvStop maxMr { t.cbs c with recvBuf := stop, state := .recvStop } = cb
    at hchunk hcount hshrink hmarked hstep
  dsimp only at hchunk hcount hshrink
  rw [hshrink] at hstep
  by_cases hzero : stop.sizeGb = 0
  · rw [if_pos hzero] at hstep
    cases hstep
    rw [hzero, sub_zero]
    exact h.setCb hchunk hcount
  · rw [if_neg hzero, Option.bind_eq_bind, Option.bind_eq_some_iff] at hstep
    obtain ⟨t₁, hloop, hend⟩ := hstep
    cases hend
    rw [← hmarked hzero] at hsize hflags
    have hunmap := h.evictUnmap hchunk hcount (fun i hi => hchunk ▸ hflags i hi)
      (hshrink.trans hsize) (hshrink ▸ hzero)
    rw [hshrink] at hunmap
    obtain ⟨hbound, hkept⟩ := hunmap.bindLoop hn (fun t s t' hcall =>
      ⟨{ t with sess := forgetChunk t.sess s }, calls s, rfl, rfl, rfl, hcall⟩) _ hloop
    have hevicting := hkept c (Function.update_self ..)
    have hused := (congrArg CbState.inUse hevicting).symm
    exact hbound.setState c .mapped hused rfl rfl

lemma foldl_forgetChunk_session (f : Nat → Int) (slabs : List Nat) (s : Session) :
    (slabs.foldl (fun s i => forgetChunk s (f i)) s).cbStateList = s.cbStateList ∧
      (slabs.foldl (fun s i => forgetChunk s (f i)) s).mappedCbNum = s.mappedCbNum := by
  induction slabs generalizing s with
  | nil => exact ⟨rfl, rfl⟩
  | cons i slabs ih => exact ih (forgetChunk s (f i))

lemma CounterInv.loseServer (h : CounterInv numCb maxMr drift t) {c : Nat} (hc : c < numCb) :
    CounterInv numCb maxMr (drift + if (t.sess.cbStateList c).inUse then 1 else 0)
      (forgetServer maxMr c (disallowChunks maxMr c t)) := by
  obtain ⟨hfold, hnum⟩ := foldl_forgetChunk_session
    ((disallowChunks maxMr c t).cbs c).chunkMap
    (mappedSlabs maxMr ((disallowChunks maxMr c t).cbs c)) (disallowChunks maxMr c t).sess
  have hstate : (forgetServer maxMr c (disallowChunks maxMr c t)).sess.cbStateList =
      Function.update t.sess.cbStateList c .fail := hfold
  have hmapped : (forgetServer maxMr c (disallowChunks maxMr c t)).sess.mappedCbNum =
      t.sess.mappedCbNum := hnum
  have hother : ∀ c', c' ≠ c →
      (forgetServer maxMr c (disallowChunks maxMr c t)).cbs c' = t.cbs c' := by
    intro c' hne
    simp only [forgetServer, disallowChunks, Function.update_of_ne hne]
  have hself : ∀ i < maxMr,
      ((forgetServer maxMr c (disallowChunks maxMr c t)).cbs c).chunkMap i = -1 := by
    intro i hi
    simp only [forgetServer, disallowChunks, Function.update_self, mem_mappedSlabs]
    split
    · rfl
    · rename_i hnot
      by_contra hne
      exact hnot ⟨hi, hne⟩
  have hsize : ((forgetServer maxMr c (disallowChunks maxMr c t)).cbs c).chunkSizeG = 0 := by
    simp only [forgetServer, disallowChunks, Function.update_self]
  generalize forgetServer maxMr c (disallowChunks maxMr c t) = t₁
    at hstate hmapped hother hself hsize
  refine ⟨fun c' => ?_, fun c' i hi hne => ?_, ?_⟩
  · by_cases heq : c' = c
    · have hnone : (t₁.cbs c).mappedCount maxMr = 0 := by
        rw [ControlBlock.mappedCount, Nat.count_iff_forall_not]
        exact fun i hi => not_not.mpr (hself i hi)
      rw [heq, hsize, hnone]
      rfl
    · rw [hother c' heq]
      exact h.chunkSize c'
  · have heq : c' ≠ c := by
      rintro rfl
      exact hne (hself i hi)
    rw [hother c' heq] at hne
    rw [hstate, Function.update_of_ne heq]
    exact h.used c' i hi hne
  · have hrest : ∀ c' < numCb, c' ≠ c →
        (t.sess.cbStateList c').inUse = (t₁.sess.cbStateList c').inUse := by
      intro c' _ hne
      rw [hstate, Function.update_of_ne hne]
    have hfail : (t₁.sess.cbStateList c).inUse = false := by
      rw [hstate, Function.update_self]
      rfl
    rw [hmapped, h.mappedCb]
    by_cases huse : (t.sess.cbStateList c).inUse = true
    · rw [if_pos huse, usedCbs_enter hc hfail huse hrest, Nat.cast_add, Nat.cast_one]
      ring
    · rw [if_neg huse, add_zero]
      have hsame : t.sess.usedCbs numCb = t₁.sess.usedCbs numCb := by
        apply usedCbs_congr
        intro c' hc'
        by_cases heq : c' = c
        · rw [heq, hfail]
          exact Bool.eq_false_iff.mpr huse
        · exact hrest c' hc' heq
      rw [hsame]

lemma CounterInv.disconnectServer (hn : numCb < 2 ^ 31) (h : CounterInv numCb maxMr drift t)
    {c : Nat} (hc : c < numCb) {calls : Nat → MapInput}
    (hstep : disconnectServer
      (fun t s => DisStore.singleChunkBind numCb selectNum maxMr t s (calls s)) maxMr capacityG
        t c = some t') :
    CounterInv numCb maxMr (drift + if (t.sess.cbStateList c).inUse then 1 else 0) t' := by
  simp only [DisStore.disconnectServer] at hstep
  by_cases hconn : t.sess.cbStateList c = .connected
  · rw [if_pos hconn] at hstep
    cases hstep
    have hfail : CbState.fail.inUse = (t.sess.cbStateList c).inUse := by
      rw [hconn]
      rfl
    rw [hconn]
    exact (add_zero drift).symm ▸ h.setState c .fail hfail rfl rfl
  · rw [if_neg hconn, Option.bind_eq_bind, Option.bind_eq_some_iff] at hstep
    obtain ⟨t₁, hloop, hend⟩ := hstep
    cases hend
    obtain ⟨hbound, -⟩ := (h.loseServer hc).bindLoop hn
      (fun t s t' hcall => ⟨t, calls s, rfl, rfl, rfl, hcall⟩) _ hloop
    exact ⟨hbound.chunkSize, hbound.used, hbound.mappedCb⟩

lemma CounterInv.step (hn : numCb < 2 ^ 31) (h : CounterInv numCb maxMr drift t)
    {op : CounterOp} (hfits : counterOpFits numCb maxMr t op)
    (hstep : counterStep numCb selectNum maxMr capacityG t op = some t') :
    CounterInv numCb maxMr (drift + driftOf t op) t' := by
  cases op with
  | bind s call =>
    rw [driftOf, add_zero]
    exact (h.singleChunkBind hn hstep).1
  | evict c stop calls =>
    obtain ⟨-, hsize, hflags⟩ := hfits
    exact h.evictServer hn hsize hflags hstep
  | disconnect c calls => exact h.disconnectServer hn hfits hstep

lemma driftOf_eq_zero (t : ChunkTables) (op : CounterOp) : driftOf t op = 0 ↔ takesNothing t op := by
  cases op with
  | bind s call => exact ⟨fun _ => trivial, fun _ => rfl⟩
  | evict c stop calls => exact neg_eq_zero
  | disconnect c calls =>
    rw [driftOf, takesNothing]
    cases (t.sess.cbStateList c).inUse <;> simp

/-- In every run of binds, eviction rounds and disconnects the counters of the servers count
their slabs, and only servers in use have some. -/
lemma exists_counterInv (hn : numCb < 2 ^ 31)
    (h : GuardedRun (counterStep numCb selectNum maxMr capacityG) (counterOpFits numCb maxMr)
      (chunkTablesInit capacityG) t) : ∃ drift, CounterInv numCb maxMr drift t := by
  apply GuardedRun.invariant (P := fun t => ∃ drift, CounterInv numCb maxMr drift t)
    ⟨0, counterInv_init numCb maxMr capacityG⟩ _ h
  rintro t op t' ⟨drift, hinv⟩ hfits hstep
  exact ⟨_, hinv.step hn hfits hstep⟩

end Counters

/-- **The counters of the client**: `chunk_size_g` of every server is the number of its mapped
slabs after any operations. As long as no STOP has a size and no server in use is lost,
`mapped_cb_num` is the number of servers in use, and the first operation that is not of this
kind makes it another number. -/
theorem client_counters_agree (numCb selectNum maxMr capacityG : Nat) (hn : numCb < 2 ^ 31) :
    (∀ t, GuardedRun (counterStep numCb selectNum maxMr capacityG) (counterOpFits numCb maxMr)
        (chunkTablesInit capacityG) t →
      ∀ c, (t.cbs c).chunkSizeG = (t.cbs c).mappedCount maxMr) ∧
    ∀ t, GuardedRun (counterStep numCb selectNum maxMr capacityG)
        (fun t op => counterOpFits numCb maxMr t op ∧ takesNothing t op)
        (chunkTablesInit capacityG) t →
      CountersAgree numCb maxMr t ∧
      ∀ op t', counterOpFits numCb maxMr t op →
        counterStep numCb selectNum maxMr capacityG t op = some t' →
        (CountersAgree numCb maxMr t' ↔ takesNothing t op) := by
  refine ⟨fun t h c => ?_, fun t h => ?_⟩
  · obtain ⟨drift, hinv⟩ := exists_counterInv hn h
    exact hinv.chunkSize c
  · have hinv : CounterInv numCb maxMr 0 t := by
      apply GuardedRun.invariant (counterInv_init numCb maxMr capacityG) _ h
      rintro t op t' hinv ⟨hfits, hnothing⟩ hstep
      have hnext := hinv.step hn hfits hstep
      rwa [(driftOf_eq_zero t op).mpr hnothing, add_zero] at hnext
    refine ⟨(countersAgree_iff hinv).mpr rfl, ?_⟩
    intro op t' hfits hstep
    have hnext := hinv.step hn hfits hstep
    rw [zero_add] at hnext
    rw [countersAgree_iff hnext]
    exact driftOf_eq_zero t op

/-- A call with one server that has 5 slabs free and grants slab `i`. -/
def slabGiven (i : Nat) : MapInput :=
  { draws := fun _ => 0
    reply := fun _ => 5
    info := slabMessage i 0 }

/-- Of three servers, server 1 has the most room. -/
def slabGivenByOne (i : Nat) : MapInput :=
  { slabGiven i with reply := fun c => if c = 1 then 9 else 5 }

/-- Chunks 3 and 4 are bound to servers 0 and 1, server 1 sends a STOP of size 0, and server 2,
which has no chunk, is lost. -/
def nothingTaken : List CounterOp :=
  [.bind 3 (slabGiven 7), .bind 4 (slabGivenByOne 8),
    .evict 1 kernelCbInit.recvBuf fun _ => slabGiven 0, .disconnect 2 fun _ => slabGiven 0]

/-- Two servers are in use after these operations. The disconnect of one of them makes
`mapped_cb_num` wrong. -/
theorem client_counters_agree_two_servers :
    ∃ t t', runChecked (counterStep 3 3 32 12)
        (fun t op => decide (counterOpFits 3 32 t op ∧ takesNothing t op))
        (chunkTablesInit 12) nothingTaken = some t ∧
      t.sess.mappedCbNum = 2 ∧ t.sess.cbStateList 2 = .fail ∧ CountersAgree 3 32 t ∧
      counterStep 3 3 32 12 t (.disconnect 1 fun _ => slabGiven 6) = some t' ∧
      t'.sess.mappedCbNum = 2 ∧ ¬CountersAgree 3 32 t' := by
  obtain ⟨t, t', ht, hnum, hfail, hlost, hnum', huse⟩ : ∃ t t',
      runChecked (counterStep 3 3 32 12)
        (fun t op => decide (counterOpFits 3 32 t op ∧ takesNothing t op))
        (chunkTablesInit 12) nothingTaken = some t ∧
      t.sess.mappedCbNum = 2 ∧ t.sess.cbStateList 2 = .fail ∧
      counterStep 3 3 32 12 t (.disconnect 1 fun _ => slabGiven 6) = some t' ∧
      t'.sess.mappedCbNum = 2 ∧ (t.sess.cbStateList 1).inUse = true :=
    ⟨_, _, rfl, rfl, rfl, rfl, rfl, rfl⟩
  obtain ⟨hagree, hiff⟩ := (client_counters_agree 3 3 32 12 (by decide)).2 t
    (runChecked_decide_reaches ht)
  refine ⟨t, t', ht, hnum, hfail, hagree, hlost, hnum', fun hagree' => ?_⟩
  have hnothing :=
    (hiff (.disconnect 1 fun _ => slabGiven 6) t' (by decide : 1 < 3) hlost).mp hagree'
  exact Bool.false_ne_true (hnothing.symm.trans huse)

/-- A STOP message for slabs 7 and 8. -/
def stopTwoSlabs : Message :=
  { kernelCbInit.recvBuf with
    rkey := fun k => if k = 7 ∨ k = 8 then 1 else 0
    sizeGb := 2 }

/-- Two chunks are bound to the only server and then evicted together: `mapped_cb_num` is -1,
and the server is in use. -/
theorem mapped_cb_num_negative :
    ∃ t, GuardedRun (counterStep 1 1 32 12) (counterOpFits 1 32) (chunkTablesInit 12) t ∧
      t.sess.mappedCbNum = -1 ∧ t.sess.cbStateList 0 = .mapped ∧ ¬CountersAgree 1 32 t := by
  obtain ⟨t, ht, hnum, hstate⟩ : ∃ t,
      runChecked (counterStep 1 1 32 12) (fun t op => decide (counterOpFits 1 32 t op))
        (chunkTablesInit 12)
        [.bind 3 (slabGiven 7), .bind 4 (slabGiven 8), .evict 0 stopTwoSlabs fun _ => slabGiven 0] =
          some t ∧
      t.sess.mappedCbNum = -1 ∧ t.sess.cbStateList 0 = .mapped := ⟨_, rfl, rfl, rfl⟩
  refine ⟨t, ?_, hnum, hstate, fun hagree => ?_⟩
  · exact runChecked_decide_reaches ht
  · have hnonneg := hagree.nonneg
    omega

end DisStore.Proofs
