import DisStore.Trigger
import DisStore.Lib.Exclusive
import DisStore.Proofs.ChunkMaps

/-!
# A chunk is bound by one thread at a time

Each chunk is held by at most one of: a slab that has it, an unanswered BIND_SINGLE, a thread
that has not sent BIND_SINGLE yet, the list of a handler. `trigger_enable` protects the list
of a handler only as long as no other handler turns it on, and the return of
`IS_single_chunk_map` means an answered BIND_SINGLE only as long as nobody else waits for the
same server.
-/

namespace DisStore.Proofs
open DisStore DisStore.Lib

/-- BIND_SINGLE has not been sent yet. -/
def beforeBind : MapPc → Bool
  | .awaitInfo _ => false
  | _ => true

/-- No chunk is mapped or unmapped, and no thread is woken from its wait for INFO_SINGLE. -/
structure SameChunks (t t' : ChunkTables) : Prop where
  index : t'.sess.cbIndexMap = t.sess.cbIndexMap
  chunk : ∀ c, (t'.cbs c).chunkMap = (t.cbs c).chunkMap
  waits : ∀ c, (t'.cbs c).state = .waitOps → (t.cbs c).state = .waitOps
  flag : t'.sess.triggerOn = t.sess.triggerOn

/-- What each event finds and does. -/
inductive TriggerMove (maxMr capacityG : Nat) (st : TriggerState) :
    TriggerEvent → TriggerState → Prop
  | triggerStart {s : Nat} (hs : s < capacityG) (hcall : (st.threads .trigger).call = none)
      (hon : st.tables.sess.triggerOn = true) (hindex : st.tables.sess.cbIndexMap s = -1) :
      TriggerMove maxMr capacityG st (.triggerStart s)
        (setThread st .trigger { st.threads .trigger with call := some ⟨s, .choose []⟩ })
  | evictStart {c : Nat} {stop : Message} (cb : ControlBlock)
      (hchunk : cb.chunkMap = (st.tables.cbs c).chunkMap) (hstate : cb.state ≠ .waitOps)
      (hidle : (st.threads (.evict c)).phase = .idle) :
      TriggerMove maxMr capacityG st (.evictStart c stop)
        (setThread
          { st with tables :=
            { sess := (unmapMarked maxMr st.tables.sess cb).1
              cbs := Function.update st.tables.cbs c (unmapMarked maxMr st.tables.sess cb).2 } }
          (.evict c) { st.threads (.evict c) with
            phase := .draining
            todo := evictedChunks capacityG (markedChunks maxMr cb) })
  | evictDone {c : Nat} (t : ChunkTables) (hphase : (st.threads (.evict c)).phase = .draining)
      (hsame : SameChunks st.tables t) :
      TriggerMove maxMr capacityG st (.evictDone c)
        (setThread { st with tables := t } (.evict c)
          { st.threads (.evict c) with phase := .remapping })
  | disconnectStart {c : Nat} (hidle : (st.threads (.disconnect c)).phase = .idle) :
      TriggerMove maxMr capacityG st (.disconnectStart c)
        (setThread { st with tables := disallowChunks maxMr c st.tables } (.disconnect c)
          { st.threads (.disconnect c) with
            phase := .draining
            todo := evictedChunks capacityG (mappedChunks maxMr (st.tables.cbs c)) })
  | disconnectForget {c : Nat} (hphase : (st.threads (.disconnect c)).phase = .draining) :
      TriggerMove maxMr capacityG st (.disconnectForget c)
        (setThread { st with tables := forgetServer maxMr c st.tables } (.disconnect c)
          { st.threads (.disconnect c) with phase := .remapping })
  | nextChunk {tid : ThreadId} {s : Nat} {rest : List Nat} (t : ChunkTables)
      (hthread : st.threads tid = ⟨.remapping, s :: rest, none⟩) (hsame : SameChunks st.tables t) :
      TriggerMove maxMr capacityG st (.nextChunk tid)
        (setThread { st with tables := t } tid ⟨.remapping, rest, some ⟨s, .choose []⟩⟩)
  | proceed {ev : TriggerEvent} {tid : ThreadId} {s : Nat} {pc pc' : MapPc} (t : ChunkTables)
      (hcall : (st.threads tid).call = some ⟨s, pc⟩) (hpc : beforeBind pc = true)
      (hpc' : beforeBind pc' = true) (hsame : SameChunks st.tables t) :
      TriggerMove maxMr capacityG st ev
        (setThread { st with tables := t } tid
          { st.threads tid with call := some ⟨s, pc'⟩ })
  | giveUp {tid : ThreadId} {s : Nat} {pc : MapPc}
      (hcall : (st.threads tid).call = some ⟨s, pc⟩) (hpc : beforeBind pc = true) :
      TriggerMove maxMr capacityG st (.giveUp tid)
        (setThread st tid { st.threads tid with call := none })
  | sendBind {tid : ThreadId} {c s : Nat} {pc : MapPc}
      (hcall : (st.threads tid).call = some ⟨s, pc⟩) (hpc : beforeBind pc = true) :
      TriggerMove maxMr capacityG st (.sendBind tid c)
        (setThread { st with binds := Function.update st.binds c (st.binds c ++ [s]) } tid
          { st.threads tid with call := some ⟨s, .awaitInfo c⟩ })
  | finishCall {tid : ThreadId} {s c : Nat} (t : ChunkTables)
      (hcall : (st.threads tid).call = some ⟨s, .awaitInfo c⟩)
      (hstate : (st.tables.cbs c).state = .waitOps) (hsame : SameChunks st.tables t) :
      TriggerMove maxMr capacityG st (.finishCall tid)
        (setThread { st with tables := t } tid { st.threads tid with call := none })
  | finishHandler {tid : ThreadId} (t : ChunkTables)
      (hthread : st.threads tid = ⟨.remapping, [], none⟩)
      (hsame : SameChunks st.tables { t with sess :=
        { t.sess with triggerOn := st.tables.sess.triggerOn } }) :
      TriggerMove maxMr capacityG st (.finishHandler tid)
        (setThread { st with tables := t } tid ⟨.idle, [], none⟩)
  | recvInfoSingle {c s : Nat} {msg : Message} {rest : List Nat} (hbinds : st.binds c = s :: rest) :
      TriggerMove maxMr capacityG st (.recvInfoSingle c msg)
        { st with
          tables := recvInfoSingle maxMr st.tables c { msg with sizeGb := (s : Int) }
          binds := Function.update st.binds c rest }
  | recvOther {c : Nat} {state : TestState} (t : ChunkTables) (hsame : SameChunks st.tables t) :
      TriggerMove maxMr capacityG st (.recvOther c state) { st with tables := t }

section Moves

variable {maxMr capacityG : Nat} {st st' : TriggerState} {ev : TriggerEvent} {t : ChunkTables}

lemma SameChunks.refl (t : ChunkTables) : SameChunks t t :=
  ⟨rfl, fun _ => rfl, fun _ h => h, rfl⟩

lemma waits_update (cbs : Nat → ControlBlock) {cb : ControlBlock} {c : Nat}
    (hstate : cb.state = .waitOps → (cbs c).state = .waitOps) (c' : Nat)
    (hc' : (Function.update cbs c cb c').state = .waitOps) : (cbs c').state = .waitOps := by
  by_cases hc : c' = c
  · subst hc
    rw [Function.update_self] at hc'
    exact hstate hc'
  · rw [Function.update_of_ne hc] at hc'
    exact hc'

lemma SameChunks.update {cb : ControlBlock} {sess : Session} {c : Nat}
    (hindex : sess.cbIndexMap = t.sess.cbIndexMap) (hflag : sess.triggerOn = t.sess.triggerOn)
    (hchunk : cb.chunkMap = (t.cbs c).chunkMap)
    (hstate : cb.state = .waitOps → (t.cbs c).state = .waitOps) :
    SameChunks t { sess := sess, cbs := Function.update t.cbs c cb } := by
  constructor
  · exact hindex
  · exact update_field ControlBlock.chunkMap t.cbs hchunk
  · exact waits_update t.cbs hstate
  · exact hflag

lemma sameChunks_setCbState {c : Nat} {state : TestState} (hstate : state ≠ .waitOps) :
    SameChunks t (setCbState t c state) :=
  SameChunks.update rfl rfl rfl fun h => absurd h hstate

lemma sameChunks_consumeFree (c : Nat) : SameChunks t (consumeFree t c) := by
  have hset : SameChunks t (setCbState t c .afterFreeMem) := sameChunks_setCbState (by simp)
  simp only [consumeFree]
  split
  · exact ⟨hset.index, hset.chunk, hset.waits, hset.flag⟩
  · exact hset

lemma sameChunks_beforeMap (tid : ThreadId) (s : Nat) : SameChunks t (beforeMap tid t s) := by
  cases tid <;> exact ⟨rfl, fun _ => rfl, fun _ h => h, rfl⟩

lemma sameChunks_afterRemap (tid : ThreadId) :
    SameChunks t { afterRemap tid t with sess :=
      { (afterRemap tid t).sess with triggerOn := t.sess.triggerOn } } := by
  cases tid <;> exact ⟨rfl, fun _ => rfl, fun _ h => h, rfl⟩

lemma foldl_forgetChunk_triggerOn (f : Nat → Int) (slabs : List Nat) (s : Session) :
    (slabs.foldl (fun s i => forgetChunk s (f i)) s).triggerOn = s.triggerOn := by
  induction slabs generalizing s with
  | nil => rfl
  | cons i rest ih => exact ih _

lemma recvInfoSingle_triggerOn (t : ChunkTables) (c : Nat) (msg : Message) :
    (recvInfoSingle maxMr t c msg).sess.triggerOn = t.sess.triggerOn := by
  simp only [recvInfoSingle, singleChunkInit]
  split <;> rfl

lemma triggerStep_move (h : triggerStep maxMr capacityG st ev = some st') :
    TriggerMove maxMr capacityG st ev st' := by
  cases ev with
  | triggerStart s =>
    simp only [triggerStep, Option.ite_none_right_eq_some, Option.some.injEq] at h
    obtain ⟨⟨hs, hcall, hon, hindex⟩, rfl⟩ := h
    exact .triggerStart hs hcall hon hindex
  | evictStart c stop =>
    simp only [triggerStep, Option.ite_none_right_eq_some, Option.some.injEq] at h
    obtain ⟨⟨hidle, -⟩, rfl⟩ := h
    apply TriggerMove.evictStart _ _ _ hidle
    · exact (clientRecvStop_chunkMap maxMr _).1
    · rw [clientRecvStop_state]
      simp
  | evictDone c =>
    simp only [triggerStep, Option.ite_none_right_eq_some, Option.some.injEq] at h
    obtain ⟨hphase, rfl⟩ := h
    exact .evictDone _ hphase (SameChunks.update rfl rfl rfl fun h => h)
  | disconnectStart c =>
    simp only [triggerStep, Option.ite_none_right_eq_some, Option.some.injEq] at h
    obtain ⟨⟨hidle, -⟩, rfl⟩ := h
    exact .disconnectStart hidle
  | disconnectForget c =>
    simp only [triggerStep, Option.ite_none_right_eq_some, Option.some.injEq] at h
    obtain ⟨hphase, rfl⟩ := h
    exact .disconnectForget hphase
  | nextChunk tid =>
    simp only [triggerStep] at h
    split at h
    · next s rest hthread =>
      rw [← Option.some.inj h]
      exact .nextChunk _ hthread (sameChunks_beforeMap tid s)
    · cases h
  | query tid c =>
    simp only [triggerStep] at h
    split at h
    · next s asked hcall =>
      simp only [Option.ite_none_right_eq_some, Option.some.injEq] at h
      rw [← h.2]
      exact .proceed _ hcall rfl rfl (.refl _)
    · cases h
  | consumeFree tid =>
    simp only [triggerStep] at h
    split at h
    · next s asked c hcall =>
      simp only [Option.ite_none_right_eq_some, Option.some.injEq] at h
      rw [← h.2]
      exact .proceed _ hcall rfl rfl (sameChunks_consumeFree c)
    · cases h
  | giveUp tid =>
    simp only [triggerStep] at h
    split at h
    · next s asked hcall =>
      rw [← Option.some.inj h]
      exact .giveUp hcall rfl
    · cases h
  | sendBind tid c =>
    simp only [triggerStep] at h
    split at h
    · next s asked hcall =>
      simp only [Option.ite_none_right_eq_some, Option.some.injEq] at h
      rw [← h.2]
      exact .sendBind hcall rfl
    · cases h
  | finishCall tid =>
    simp only [triggerStep] at h
    split at h
    · next s c hcall =>
      simp only [Option.ite_none_right_eq_some, Option.some.injEq] at h
      obtain ⟨hstate, rfl⟩ := h
      exact .finishCall _ hcall hstate ⟨rfl, fun _ => rfl, fun _ h => h, rfl⟩
    · cases h
  | finishHandler tid =>
    simp only [triggerStep] at h
    split at h
    · next hthread =>
      rw [← Option.some.inj h]
      exact .finishHandler _ hthread (sameChunks_afterRemap tid)
    · cases h
  | recvInfoSingle c msg =>
    simp only [triggerStep] at h
    split at h
    · cases h
    · next s rest hbinds =>
      rw [← Option.some.inj h]
      exact .recvInfoSingle hbinds
  | recvOther c state =>
    simp only [triggerStep, Option.ite_none_right_eq_some, Option.some.injEq] at h
    obtain ⟨hstate, rfl⟩ := h
    exact .recvOther _ (sameChunks_setCbState hstate)

end Moves

/-- No two handlers overlap, and BIND_SINGLE goes to a server only when no thread waits for its
INFO_SINGLE and its control block does not show an earlier one. -/
def triggerFits (st : TriggerState) : TriggerEvent → Prop
  | .evictStart _ _ | .disconnectStart _ => ∀ tid, (st.threads tid).phase = .idle
  | .sendBind _ c => (st.tables.cbs c).state ≠ .waitOps ∧
      ∀ tid s, (st.threads tid).call ≠ some ⟨s, .awaitInfo c⟩
  | _ => True

/-- One handler at a time, with the trigger off. -/
structure HandlerInv (st : TriggerState) : Prop where
  nodup : ∀ tid, (st.threads tid).todo.Nodup
  trigger : (st.threads .trigger).phase = .idle
  rest : ∀ tid, (st.threads tid).phase = .idle →
    (st.threads tid).todo = [] ∧ (tid ≠ .trigger → (st.threads tid).call = none)
  single : ∀ tid tid', (st.threads tid).phase ≠ .idle → (st.threads tid').phase ≠ .idle → tid = tid'
  off : st.tables.sess.triggerOn = true → ∀ tid, (st.threads tid).phase = .idle

/-- A thread that waits for INFO_SINGLE is the only one for its server. -/
structure WaitInv (st : TriggerState) : Prop where
  awaited : ∀ c, ∀ s ∈ st.binds c, ∃ tid, (st.threads tid).call = some ⟨s, .awaitInfo c⟩
  single : ∀ c tid tid' s s', (st.threads tid).call = some ⟨s, .awaitInfo c⟩ →
    (st.threads tid').call = some ⟨s', .awaitInfo c⟩ → tid = tid'
  answered : ∀ c tid s, (st.threads tid).call = some ⟨s, .awaitInfo c⟩ →
    (st.tables.cbs c).state = .waitOps → st.binds c = []
  one : ∀ c, (st.binds c).length ≤ 1

section Handlers

variable {maxMr capacityG : Nat} {st st' : TriggerState} {ev : TriggerEvent} {t : ChunkTables}

@[simp] lemma setThread_self (tid : ThreadId) (th : MapThread) :
    (setThread st tid th).threads tid = th := Function.update_self ..

lemma setThread_of_ne {tid tid' : ThreadId} (h : tid' ≠ tid) (th : MapThread) :
    (setThread st tid th).threads tid' = st.threads tid' := Function.update_of_ne h ..

lemma HandlerInv.setCall {binds : Nat → List Nat} {tid : ThreadId} {call : Option MapCall}
    (h : HandlerInv st) (hflag : t.sess.triggerOn = st.tables.sess.triggerOn)
    (hcall : call = none ∨ tid = .trigger ∨ (st.threads tid).call ≠ none) :
    HandlerInv (setThread { st with tables := t, binds := binds } tid
      { st.threads tid with call := call }) := by
  have hphase : ∀ tid', ((setThread { st with tables := t, binds := binds } tid
      { st.threads tid with call := call }).threads tid').phase = (st.threads tid').phase ∧
      ((setThread { st with tables := t, binds := binds } tid
      { st.threads tid with call := call }).threads tid').todo = (st.threads tid').todo := by
    intro tid'
    by_cases ht : tid' = tid
    · subst ht
      simp
    · rw [setThread_of_ne ht]
      exact ⟨rfl, rfl⟩
  constructor
  · intro tid'
    rw [(hphase tid').2]
    exact h.nodup tid'
  · rw [(hphase _).1]
    exact h.trigger
  · intro tid' hidle
    rw [(hphase tid').1] at hidle
    rw [(hphase tid').2]
    refine ⟨(h.rest tid' hidle).1, fun hne => ?_⟩
    by_cases ht : tid' = tid
    · subst ht
      rw [setThread_self]
      rcases hcall with hnone | htrigger | hsome
      · exact hnone
      · exact absurd htrigger hne
      · exact absurd ((h.rest tid' hidle).2 hne) hsome
    · rw [setThread_of_ne ht]
      exact (h.rest tid' hidle).2 hne
  · intro tid₁ tid₂ h₁ h₂
    rw [(hphase _).1] at h₁ h₂
    exact h.single tid₁ tid₂ h₁ h₂
  · intro hon tid'
    rw [(hphase tid').1]
    exact h.off (hflag ▸ hon) tid'

lemma HandlerInv.setActive {tid : ThreadId} {th : MapThread} (h : HandlerInv st)
    (hactive : th.phase ≠ .idle) (hothers : ∀ tid', tid' ≠ tid → (st.threads tid').phase = .idle)
    (htid : tid ≠ .trigger) (hnodup : th.todo.Nodup) (hoff : t.sess.triggerOn = false) :
    HandlerInv (setThread { st with tables := t } tid th) := by
  constructor
  · intro tid'
    by_cases ht : tid' = tid
    · subst ht
      rw [setThread_self]
      exact hnodup
    · rw [setThread_of_ne ht]
      exact h.nodup tid'
  · rw [setThread_of_ne (Ne.symm htid)]
    exact h.trigger
  · intro tid' hidle
    by_cases ht : tid' = tid
    · subst ht
      rw [setThread_self] at hidle
      exact absurd hidle hactive
    · rw [setThread_of_ne ht] at hidle ⊢
      exact h.rest tid' hidle
  · intro tid₁ tid₂ h₁ h₂
    have honly : ∀ tid', ((setThread { st with tables := t } tid th).threads tid').phase ≠ .idle →
        tid' = tid := by
      intro tid' hne
      by_contra ht
      rw [setThread_of_ne ht] at hne
      exact hne (hothers tid' ht)
    rw [honly tid₁ h₁, honly tid₂ h₂]
  · intro hon
    have htrue : t.sess.triggerOn = true := hon
    rw [hoff] at htrue
    cases htrue

lemma HandlerInv.setIdle {tid : ThreadId} (h : HandlerInv st)
    (hothers : ∀ tid', tid' ≠ tid → (st.threads tid').phase = .idle) :
    HandlerInv (setThread { st with tables := t } tid ⟨.idle, [], none⟩) := by
  have hidle : ∀ tid', ((setThread { st with tables := t } tid ⟨.idle, [], none⟩).threads
      tid').phase = .idle := by
    intro tid'
    by_cases ht : tid' = tid
    · subst ht
      rw [setThread_self]
    · rw [setThread_of_ne ht]
      exact hothers tid' ht
  constructor
  · intro tid'
    by_cases ht : tid' = tid
    · subst ht
      simp
    · rw [setThread_of_ne ht]
      exact h.nodup tid'
  · exact hidle .trigger
  · intro tid' _
    by_cases ht : tid' = tid
    · subst ht
      simp
    · rw [setThread_of_ne ht]
      exact h.rest tid' (hothers tid' ht)
  · intro tid₁ _ h₁ _
    exact absurd (hidle tid₁) h₁
  · intro _ tid'
    exact hidle tid'

lemma HandlerInv.alone {tid : ThreadId} (h : HandlerInv st) (hne : (st.threads tid).phase ≠ .idle) :
    st.tables.sess.triggerOn = false ∧ tid ≠ .trigger ∧
      ∀ tid', tid' ≠ tid → (st.threads tid').phase = .idle := by
  refine ⟨?_, ?_, ?_⟩
  · by_contra hon
    exact hne (h.off (by simpa using hon) tid)
  · rintro rfl
    exact hne h.trigger
  · intro tid' ht
    by_contra hne'
    exact ht (h.single tid' tid hne' hne)

lemma HandlerInv.step (h : HandlerInv st) (hfit : triggerFits st ev)
    (hstep : triggerStep maxMr capacityG st ev = some st') : HandlerInv st' := by
  cases triggerStep_move hstep with
  | triggerStart _ _ _ _ => exact h.setCall rfl (.inr (.inl rfl))
  | evictStart cb _ _ hidle =>
    have hall : ∀ tid, (st.threads tid).phase = .idle := hfit
    exact h.setActive (by simp) (fun tid' _ => hall tid') (by simp) (nodup_evictedChunks _) rfl
  | evictDone t hphase hsame =>
    obtain ⟨hoff, htid, hothers⟩ := h.alone (by rw [hphase]; simp)
    exact h.setActive (by simp) hothers htid (h.nodup _) (hsame.flag.trans hoff)
  | disconnectStart hidle =>
    have hall : ∀ tid, (st.threads tid).phase = .idle := hfit
    exact h.setActive (by simp) (fun tid' _ => hall tid') (by simp) (nodup_evictedChunks _) rfl
  | @disconnectForget c hphase =>
    obtain ⟨hoff, htid, hothers⟩ := h.alone (by rw [hphase]; simp)
    refine h.setActive (by simp) hothers htid (h.nodup _) ?_
    rw [← hoff]
    exact foldl_forgetChunk_triggerOn _ _ _
  | @nextChunk tid s rest t hthread hsame =>
    have hne : (st.threads tid).phase ≠ .idle := by simp [hthread]
    obtain ⟨hoff, htid, hothers⟩ := h.alone hne
    have hnodup := h.nodup tid
    rw [hthread] at hnodup
    exact h.setActive (by simp) hothers htid (List.nodup_cons.mp hnodup).2 (hsame.flag.trans hoff)
  | proceed t hcall _ _ hsame => exact h.setCall hsame.flag (.inr (.inr (by simp [hcall])))
  | giveUp hcall _ => exact h.setCall rfl (.inl rfl)
  | sendBind hcall _ => exact h.setCall rfl (.inr (.inr (by simp [hcall])))
  | finishCall t _ _ hsame => exact h.setCall hsame.flag (.inl rfl)
  | @finishHandler tid t hthread hsame =>
    have hne : (st.threads tid).phase ≠ .idle := by simp [hthread]
    obtain ⟨-, htid, hothers⟩ := h.alone hne
    exact h.setIdle hothers
  | recvInfoSingle hbinds =>
    refine ⟨h.nodup, h.trigger, h.rest, h.single, fun hon => h.off ?_⟩
    rw [← hon]
    exact (recvInfoSingle_triggerOn _ _ _).symm
  | recvOther t hsame =>
    exact ⟨h.nodup, h.trigger, h.rest, h.single, fun hon => h.off (hsame.flag ▸ hon)⟩

lemma handlerInv_init (capacityG : Nat) : HandlerInv (triggerInit capacityG) := by
  constructor <;> simp [triggerInit]

end Handlers

section Waits

variable {maxMr capacityG : Nat} {st st' : TriggerState} {ev : TriggerEvent} {t : ChunkTables}

lemma waitInv_init (capacityG : Nat) : WaitInv (triggerInit capacityG) := by
  constructor <;> simp [triggerInit]

lemma WaitInv.frame {tid : ThreadId} {th : MapThread} (h : WaitInv st)
    (hcall : ∀ s c, th.call = some ⟨s, .awaitInfo c⟩ ↔
      (st.threads tid).call = some ⟨s, .awaitInfo c⟩)
    (hstate : ∀ c, (t.cbs c).state = .waitOps → (st.tables.cbs c).state = .waitOps) :
    WaitInv (setThread { st with tables := t } tid th) := by
  have hcalls : ∀ tid' s c, ((setThread { st with tables := t } tid th).threads tid').call =
      some ⟨s, .awaitInfo c⟩ ↔ (st.threads tid').call = some ⟨s, .awaitInfo c⟩ := by
    intro tid' s c
    by_cases ht : tid' = tid
    · subst ht
      rw [setThread_self]
      exact hcall s c
    · rw [setThread_of_ne ht]
  constructor
  · intro c s hs
    obtain ⟨tid', ht⟩ := h.awaited c s hs
    exact ⟨tid', (hcalls tid' s c).mpr ht⟩
  · intro c tid₁ tid₂ s₁ s₂ h₁ h₂
    exact h.single c tid₁ tid₂ s₁ s₂ ((hcalls _ _ _).mp h₁) ((hcalls _ _ _).mp h₂)
  · intro c tid' s ht hc
    exact h.answered c tid' s ((hcalls _ _ _).mp ht) (hstate c hc)
  · exact h.one

lemma beforeBind_ne {call : Option MapCall} {s : Nat} {pc : MapPc} (hcall : call = some ⟨s, pc⟩)
    (hpc : beforeBind pc = true) (s' c : Nat) : call ≠ some ⟨s', .awaitInfo c⟩ := by
  rintro rfl
  cases hcall
  simp [beforeBind] at hpc

lemma WaitInv.sendBind {tid : ThreadId} {c s : Nat} {pc : MapPc} (h : WaitInv st)
    (hcall : (st.threads tid).call = some ⟨s, pc⟩) (hpc : beforeBind pc = true)
    (hstate : (st.tables.cbs c).state ≠ .waitOps)
    (hnobody : ∀ tid s, (st.threads tid).call ≠ some ⟨s, .awaitInfo c⟩) :
    WaitInv (setThread { st with binds := Function.update st.binds c (st.binds c ++ [s]) } tid
      { st.threads tid with call := some ⟨s, .awaitInfo c⟩ }) := by
  have hempty : st.binds c = [] := by
    rw [List.eq_nil_iff_forall_not_mem]
    intro s' hs'
    obtain ⟨tid', ht⟩ := h.awaited c s' hs'
    exact hnobody tid' s' ht
  have hothers : ∀ {tid' s' c'}, c' ≠ c → (((setThread { st with
      binds := Function.update st.binds c (st.binds c ++ [s]) } tid
      { st.threads tid with call := some ⟨s, .awaitInfo c⟩ }).threads tid').call =
      some ⟨s', .awaitInfo c'⟩ ↔ (st.threads tid').call = some ⟨s', .awaitInfo c'⟩) := by
    intro tid' s' c' hc
    by_cases ht : tid' = tid
    · subst ht
      have hold := beforeBind_ne hcall hpc s' c'
      simp [hold, Ne.symm hc]
    · rw [setThread_of_ne ht]
  have honly : ∀ {tid' s'}, ((setThread { st with
      binds := Function.update st.binds c (st.binds c ++ [s]) } tid
      { st.threads tid with call := some ⟨s, .awaitInfo c⟩ }).threads tid').call =
      some ⟨s', .awaitInfo c⟩ → tid' = tid := by
    intro tid' s' hcall'
    by_contra ht
    rw [setThread_of_ne ht] at hcall'
    exact hnobody tid' s' hcall'
  constructor
  · intro c' s' hs'
    simp only [setThread] at hs'
    by_cases hc : c' = c
    · subst hc
      rw [Function.update_self, hempty, List.nil_append, List.mem_singleton] at hs'
      subst hs'
      exact ⟨tid, by rw [setThread_self]⟩
    · rw [Function.update_of_ne hc] at hs'
      obtain ⟨tid', ht⟩ := h.awaited c' s' hs'
      exact ⟨tid', (hothers hc).mpr ht⟩
  · intro c' tid₁ tid₂ s₁ s₂ h₁ h₂
    by_cases hc : c' = c
    · subst hc
      rw [honly h₁, honly h₂]
    · exact h.single c' tid₁ tid₂ s₁ s₂ ((hothers hc).mp h₁) ((hothers hc).mp h₂)
  · intro c' tid' s' ht hw
    by_cases hc : c' = c
    · subst hc
      exact absurd hw hstate
    · simp only [setThread, Function.update_of_ne hc]
      exact h.answered c' tid' s' ((hothers hc).mp ht) hw
  · intro c'
    simp only [setThread]
    by_cases hc : c' = c
    · subst hc
      simp [hempty]
    · rw [Function.update_of_ne hc]
      exact h.one c'

/-- A thread is woken by the answer to its BIND_SINGLE. -/
lemma WaitInv.finishCall {tid : ThreadId} {c s : Nat} (h : WaitInv st)
    (hcall : (st.threads tid).call = some ⟨s, .awaitInfo c⟩)
    (hstate : (st.tables.cbs c).state = .waitOps) (hsame : SameChunks st.tables t) :
    WaitInv (setThread { st with tables := t } tid { st.threads tid with call := none }) := by
  have hempty := h.answered c tid s hcall hstate
  have hold : ∀ {tid' s' c'}, ((setThread { st with tables := t } tid
      { st.threads tid with call := none }).threads tid').call = some ⟨s', .awaitInfo c'⟩ →
      (st.threads tid').call = some ⟨s', .awaitInfo c'⟩ := by
    intro tid' s' c' hcall'
    by_cases ht : tid' = tid
    · subst ht
      simp at hcall'
    · rw [setThread_of_ne ht] at hcall'
      exact hcall'
  constructor
  · intro c' s' hs'
    obtain ⟨tid', ht⟩ := h.awaited c' s' hs'
    refine ⟨tid', ?_⟩
    rw [setThread_of_ne]
    · exact ht
    · rintro rfl
      rw [hcall] at ht
      cases ht
      have hmem : s ∈ st.binds c := hs'
      rw [hempty] at hmem
      cases hmem
  · intro c' tid₁ tid₂ s₁ s₂ h₁ h₂
    exact h.single c' tid₁ tid₂ s₁ s₂ (hold h₁) (hold h₂)
  · intro c' tid' s' ht hw
    exact h.answered c' tid' s' (hold ht) (hsame.waits c' hw)
  · exact h.one

lemma WaitInv.recvInfoSingle {c s : Nat} {msg : Message} {rest : List Nat} (h : WaitInv st)
    (hbinds : st.binds c = s :: rest) :
    WaitInv { st with
      tables := recvInfoSingle maxMr st.tables c msg
      binds := Function.update st.binds c rest } := by
  have hrest : rest = [] := by
    have hone := h.one c
    rw [hbinds, List.length_cons] at hone
    exact List.length_eq_zero_iff.mp (by omega)
  constructor
  · intro c' s' hs'
    by_cases hc : c' = c
    · subst hc
      simp [hrest] at hs'
    · simp only [Function.update_of_ne hc] at hs'
      exact h.awaited c' s' hs'
  · exact h.single
  · intro c' tid s' ht hw
    by_cases hc : c' = c
    · subst hc
      simp [hrest]
    · simp only [Function.update_of_ne hc]
      simp only [DisStore.recvInfoSingle, Function.update_of_ne hc] at hw
      exact h.answered c' tid s' ht hw
  · intro c'
    by_cases hc : c' = c
    · subst hc
      simp [hrest]
    · simp only [Function.update_of_ne hc]
      exact h.one c'

lemma WaitInv.step (h : WaitInv st) (hfit : triggerFits st ev)
    (hstep : triggerStep maxMr capacityG st ev = some st') : WaitInv st' := by
  cases triggerStep_move hstep with
  | triggerStart _ hcall _ _ => exact h.frame (by simp [hcall]) fun _ hc => hc
  | evictStart cb _ hstate _ =>
    refine h.frame (fun _ _ => Iff.rfl) (waits_update _ ?_)
    exact fun hw => absurd hw hstate
  | evictDone t _ hsame => exact h.frame (fun _ _ => Iff.rfl) hsame.waits
  | disconnectStart _ =>
    exact h.frame (fun _ _ => Iff.rfl) (waits_update _ fun hw => hw)
  | disconnectForget _ =>
    exact h.frame (fun _ _ => Iff.rfl) (waits_update _ fun hw => hw)
  | nextChunk t hthread hsame => exact h.frame (by simp [hthread]) hsame.waits
  | proceed t hcall hpc hpc' hsame =>
    apply h.frame _ hsame.waits
    intro s' c'
    simp [beforeBind_ne hcall hpc s' c', beforeBind_ne rfl hpc' s' c']
  | giveUp hcall hpc =>
    apply h.frame _ fun _ hc => hc
    intro s' c'
    simp [beforeBind_ne hcall hpc s' c']
  | sendBind hcall hpc => exact h.sendBind hcall hpc hfit.1 hfit.2
  | finishCall t hcall hstate hsame => exact h.finishCall hcall hstate hsame
  | finishHandler t hthread hsame => exact h.frame (by simp [hthread]) hsame.waits
  | recvInfoSingle hbinds => exact h.recvInfoSingle hbinds
  | recvOther t hsame =>
    exact ⟨h.awaited, h.single, fun c tid s ht hc => h.answered c tid s ht (hsame.waits c hc), h.one⟩

end Waits

/-- What a chunk may be held by. -/
inductive Holder where
  | slab (c i : Nat)
  | bind (c : Nat)
  | call (tid : ThreadId)
  | list (tid : ThreadId)

/-- The disconnect handler of server `c` has put chunk `s` in its list and has not yet taken it
from its slab. -/
def Drains (st : TriggerState) (c s : Nat) : Prop :=
  (st.threads (.disconnect c)).phase = .draining ∧ s ∈ (st.threads (.disconnect c)).todo

/-- The list of a disconnect handler counts from the moment when the slabs are cleared. -/
def Holds (maxMr : Nat) (st : TriggerState) (s : Nat) : Holder → Prop
  | .slab c i => i < maxMr ∧ (st.tables.cbs c).chunkMap i = s
  | .bind c => s ∈ st.binds c
  | .call tid => ∃ pc, (st.threads tid).call = some ⟨s, pc⟩ ∧ beforeBind pc = true
  | .list tid => s ∈ (st.threads tid).todo ∧
      ∀ c, tid = .disconnect c → (st.threads tid).phase ≠ .draining

structure HoldInv (maxMr capacityG : Nat) (st : TriggerState) : Prop where
  exclusive : Exclusive (Holds maxMr st)
  bound : ∀ s k, Holds maxMr st s k → s < capacityG
  index : ∀ c i s, Holds maxMr st s (.slab c i) →
    st.tables.sess.cbIndexMap s ≠ -1 ∨ Drains st c s
  drain : ∀ c s, Drains st c s → s < capacityG ∧ ∀ k, Holds maxMr st s k → ∃ i, k = .slab c i

section Holds

variable {maxMr capacityG : Nat} {st st' : TriggerState} {ev : TriggerEvent} {t : ChunkTables}

lemma holdInv_init (maxMr capacityG : Nat) : HoldInv maxMr capacityG (triggerInit capacityG) := by
  have hnone : ∀ s k, ¬Holds maxMr (triggerInit capacityG) s k := by
    intro s k
    cases k <;> simp [Holds, triggerInit, chunkTablesInit, kernelCbInit]
  have hdrains : ∀ c s, ¬Drains (triggerInit capacityG) c s := by
    simp [Drains, triggerInit]
  constructor
  · intro s k k' hk _
    exact absurd hk (hnone s k)
  · intro s k hk
    exact absurd hk (hnone s k)
  · intro c i s hk
    exact absurd hk (hnone s _)
  · intro c s hd
    exact absurd hd (hdrains c s)

lemma HoldInv.keep (h : HoldInv maxMr capacityG st)
    (hsub : ∀ s k, Holds maxMr st' s k → Holds maxMr st s k)
    (hindex : st'.tables.sess.cbIndexMap = st.tables.sess.cbIndexMap)
    (hdrains : ∀ c s, Drains st' c s ↔ Drains st c s) : HoldInv maxMr capacityG st' := by
  constructor
  · exact h.exclusive.mono hsub
  · intro s k hk
    exact h.bound s k (hsub s k hk)
  · intro c i s hk
    rw [hindex, hdrains]
    exact h.index c i s (hsub s _ hk)
  · intro c s hd
    obtain ⟨hs, hd⟩ := h.drain c s ((hdrains c s).mp hd)
    exact ⟨hs, fun k hk => hd k (hsub s k hk)⟩

lemma HoldInv.move (h : HoldInv maxMr capacityG st) (moved : Nat → Prop) (target : Holder)
    (hnew : ∀ s k, Holds maxMr st' s k → Holds maxMr st s k ∨ moved s)
    (hmoved : ∀ s, moved s → s < capacityG ∧ ∀ k, Holds maxMr st' s k → k = target)
    (hdrains : ∀ c s, Drains st' c s → Drains st c s ∧ ¬moved s)
    (hindex : ∀ c i s, Holds maxMr st' s (.slab c i) →
      st'.tables.sess.cbIndexMap s ≠ -1 ∨ Drains st' c s) :
    HoldInv maxMr capacityG st' := by
  constructor
  · exact h.exclusive.transfer moved target hnew fun s hs => (hmoved s hs).2
  · intro s k hk
    rcases hnew s k hk with hold | hm
    · exact h.bound s k hold
    · exact (hmoved s hm).1
  · exact hindex
  · intro c s hd
    obtain ⟨hold, hm⟩ := hdrains c s hd
    obtain ⟨hs, hd⟩ := h.drain c s hold
    exact ⟨hs, fun k hk => hd k ((hnew s k hk).resolve_right hm)⟩

lemma HoldInv.unheld {s : Nat} (h : HoldInv maxMr capacityG st) (hh : HandlerInv st)
    (hw : WaitInv st) (hcall : (st.threads .trigger).call = none)
    (hon : st.tables.sess.triggerOn = true) (hindex : st.tables.sess.cbIndexMap s = -1)
    (k : Holder) : ¬Holds maxMr st s k := by
  have hidle := hh.off hon
  have hnocall : ∀ tid, (st.threads tid).call = none := by
    intro tid
    by_cases ht : tid = .trigger
    · rw [ht]
      exact hcall
    · exact (hh.rest tid (hidle tid)).2 ht
  intro hk
  cases k with
  | slab c i =>
    rcases h.index c i s hk with hne | hd
    · exact hne hindex
    · rw [Drains, hidle] at hd
      simp at hd
  | bind c =>
    obtain ⟨tid, ht⟩ := hw.awaited c s hk
    rw [hnocall] at ht
    cases ht
  | call tid =>
    obtain ⟨pc, ht, -⟩ := hk
    rw [hnocall] at ht
    cases ht
  | list tid =>
    have hmem := hk.1
    rw [(hh.rest tid (hidle tid)).1] at hmem
    cases hmem

lemma holds_setCall {binds : Nat → List Nat} {tid : ThreadId} {call : Option MapCall} {s : Nat}
    (hchunk : ∀ c, (t.cbs c).chunkMap = (st.tables.cbs c).chunkMap) {k : Holder}
    (hk : Holds maxMr (setThread { st with tables := t, binds := binds } tid
      { st.threads tid with call := call }) s k) :
    Holds maxMr st s k ∨ (∃ c, k = .bind c ∧ s ∈ binds c) ∨
      (k = .call tid ∧ ∃ pc, call = some ⟨s, pc⟩ ∧ beforeBind pc = true) := by
  cases k with
  | slab c i =>
    left
    simp only [Holds, setThread, hchunk] at hk
    exact hk
  | bind c => exact .inr (.inl ⟨c, rfl, hk⟩)
  | call tid' =>
    by_cases ht : tid' = tid
    · subst ht
      simp only [Holds, setThread_self] at hk
      exact .inr (.inr ⟨rfl, hk⟩)
    · simp only [Holds, setThread_of_ne ht] at hk
      exact .inl hk
  | list tid' =>
    left
    by_cases ht : tid' = tid
    · subst ht
      simp only [Holds, setThread_self] at hk
      exact hk
    · simp only [Holds, setThread_of_ne ht] at hk
      exact hk

lemma drains_setCall {binds : Nat → List Nat} {tid : ThreadId} {call : Option MapCall} {c s : Nat} :
    Drains (setThread { st with tables := t, binds := binds } tid
      { st.threads tid with call := call }) c s ↔ Drains st c s := by
  by_cases ht : .disconnect c = tid
  · subst ht
    simp [Drains]
  · rw [Drains, setThread_of_ne ht]
    rfl

lemma HoldInv.triggerStart {s : Nat} (h : HoldInv maxMr capacityG st) (hs : s < capacityG)
    (hunheld : ∀ k, ¬Holds maxMr st s k) (hidle : ∀ tid, (st.threads tid).phase = .idle) :
    HoldInv maxMr capacityG
      (setThread st .trigger { st.threads .trigger with call := some ⟨s, .choose []⟩ }) := by
  apply h.move (fun r => r = s) (.call .trigger)
  · intro r k hk
    rcases holds_setCall (fun _ => rfl) hk with hold | ⟨c, rfl, hc⟩ | ⟨-, pc, hcall, -⟩
    · exact .inl hold
    · exact .inl hc
    · cases hcall
      exact .inr rfl
  · rintro r rfl
    refine ⟨hs, fun k hk => ?_⟩
    rcases holds_setCall (fun _ => rfl) hk with hold | ⟨c, rfl, hc⟩ | ⟨rfl, -⟩
    · exact absurd hold (hunheld k)
    · exact absurd hc (hunheld (.bind c))
    · rfl
  · intro c r hd
    rw [drains_setCall, Drains, hidle] at hd
    simp at hd
  · intro c i r hk
    rw [drains_setCall]
    exact h.index c i r hk

lemma HoldInv.sendBind {tid : ThreadId} {c s : Nat} {pc : MapPc} (h : HoldInv maxMr capacityG st)
    (hcall : (st.threads tid).call = some ⟨s, pc⟩) (hpc : beforeBind pc = true) :
    HoldInv maxMr capacityG
      (setThread { st with binds := Function.update st.binds c (st.binds c ++ [s]) } tid
        { st.threads tid with call := some ⟨s, .awaitInfo c⟩ }) := by
  have hheld : Holds maxMr st s (.call tid) := ⟨pc, hcall, hpc⟩
  have hbind : ∀ {c' r}, r ∈ Function.update st.binds c (st.binds c ++ [s]) c' →
      r ∈ st.binds c' ∨ (c' = c ∧ r = s) := by
    intro c' r hr
    by_cases hc : c' = c
    · subst hc
      rw [Function.update_self, List.mem_append, List.mem_singleton] at hr
      exact hr.imp_right fun hr => ⟨rfl, hr⟩
    · rw [Function.update_of_ne hc] at hr
      exact .inl hr
  apply h.move (fun r => r = s) (.bind c)
  · intro r k hk
    rcases holds_setCall (fun _ => rfl) hk with hold | ⟨c', rfl, hc'⟩ | ⟨-, pc', hpc', hbefore⟩
    · exact .inl hold
    · exact (hbind hc').imp_right And.right
    · cases hpc'
      cases hbefore
  · rintro r rfl
    refine ⟨h.bound r _ hheld, fun k hk => ?_⟩
    have hne : k ≠ .call tid := by
      rintro rfl
      obtain ⟨pc', hpc', hbefore⟩ := hk
      rw [setThread_self] at hpc'
      cases hpc'
      cases hbefore
    rcases holds_setCall (fun _ => rfl) hk with hold | ⟨c', rfl, hc'⟩ | ⟨hk', -⟩
    · exact absurd (h.exclusive r k _ hold hheld) hne
    · rcases hbind hc' with hold | ⟨rfl, -⟩
      · exact absurd (h.exclusive r (.bind c') _ hold hheld) hne
      · rfl
    · exact absurd hk' hne
  · intro c' r hd
    rw [drains_setCall] at hd
    refine ⟨hd, ?_⟩
    rintro rfl
    obtain ⟨i, hi⟩ := (h.drain c' r hd).2 _ hheld
    cases hi
  · intro c' i r hk
    rw [drains_setCall]
    exact h.index c' i r hk

lemma HoldInv.nextChunk {tid : ThreadId} {s : Nat} {rest : List Nat}
    (h : HoldInv maxMr capacityG st) (hnodup : (s :: rest).Nodup)
    (hthread : st.threads tid = ⟨.remapping, s :: rest, none⟩) (hsame : SameChunks st.tables t) :
    HoldInv maxMr capacityG
      (setThread { st with tables := t } tid ⟨.remapping, rest, some ⟨s, .choose []⟩⟩) := by
  have hheld : Holds maxMr st s (.list tid) := by simp [Holds, hthread]
  have hcases : ∀ {r k}, Holds maxMr (setThread { st with tables := t } tid
      ⟨.remapping, rest, some ⟨s, .choose []⟩⟩) r k →
      Holds maxMr st r k ∧ (k = .list tid → r ∈ rest) ∨ (r = s ∧ k = .call tid) := by
    intro r k hk
    cases k with
    | slab c i =>
      simp only [Holds, setThread, hsame.chunk] at hk
      exact .inl ⟨hk, by simp⟩
    | bind c => exact .inl ⟨hk, by simp⟩
    | call tid' =>
      by_cases ht : tid' = tid
      · subst ht
        obtain ⟨pc, hpc, -⟩ := hk
        rw [setThread_self] at hpc
        cases hpc
        exact .inr ⟨rfl, rfl⟩
      · simp only [Holds, setThread_of_ne ht] at hk
        exact .inl ⟨hk, by simp⟩
    | list tid' =>
      by_cases ht : tid' = tid
      · subst ht
        simp only [Holds, setThread_self] at hk
        refine .inl ⟨?_, fun _ => hk.1⟩
        simp [Holds, hthread, hk.1]
      · simp only [Holds, setThread_of_ne ht] at hk
        refine .inl ⟨hk, fun heq => ?_⟩
        cases heq
        exact absurd rfl ht
  have hdrains : ∀ {c r}, Drains (setThread { st with tables := t } tid
      ⟨.remapping, rest, some ⟨s, .choose []⟩⟩) c r ↔ Drains st c r := by
    intro c r
    by_cases ht : .disconnect c = tid
    · subst ht
      simp [Drains, hthread]
    · rw [Drains, setThread_of_ne ht]
      rfl
  apply h.move (fun r => r = s) (.call tid)
  · intro r k hk
    exact (hcases hk).imp And.left And.left
  · rintro r rfl
    refine ⟨h.bound r _ hheld, fun k hk => ?_⟩
    rcases hcases hk with ⟨hold, hlist⟩ | ⟨-, hk⟩
    · have hk := hlist (h.exclusive r k _ hold hheld)
      exact absurd hk (List.nodup_cons.mp hnodup).1
    · exact hk
  · intro c r hd
    rw [hdrains] at hd
    refine ⟨hd, ?_⟩
    rintro rfl
    obtain ⟨i, hi⟩ := (h.drain c r hd).2 _ hheld
    cases hi
  · intro c i r hk
    rw [hdrains]
    rcases hcases hk with ⟨hold, -⟩ | ⟨-, hk⟩
    · simp only [setThread, hsame.index]
      exact h.index c i r hold
    · cases hk

lemma HoldInv.recvInfoSingle {c s : Nat} {msg : Message} (h : HoldInv maxMr capacityG st)
    (hbinds : st.binds c = [s]) :
    HoldInv maxMr capacityG { st with
      tables := recvInfoSingle maxMr st.tables c { msg with sizeGb := (s : Int) }
      binds := Function.update st.binds c [] } := by
  have hheld : Holds maxMr st s (.bind c) := by simp [Holds, hbinds]
  have hbind : ∀ {c' r}, r ∈ Function.update st.binds c [] c' → r ∈ st.binds c' ∧ c' ≠ c := by
    intro c' r hr
    by_cases hc : c' = c
    · subst hc
      simp at hr
    · rw [Function.update_of_ne hc] at hr
      exact ⟨hr, hc⟩
  cases hg : grantedSlab maxMr { msg with sizeGb := (s : Int) } with
  | none =>
    have hsame := recvInfoSingle_refused st.tables c hg
    apply h.keep
    · intro r k hk
      cases k with
      | slab c' i' =>
        simp only [Holds, hsame.chunk] at hk
        exact hk
      | bind c' => exact (hbind hk).1
      | call tid => exact hk
      | list tid => exact hk
    · exact hsame.index
    · exact fun _ _ => Iff.rfl
  | some i =>
    have hb := recvInfoSingle_boundTo st.tables c hg
    have hcases : ∀ {r k}, Holds maxMr { st with
        tables := DisStore.recvInfoSingle maxMr st.tables c { msg with sizeGb := (s : Int) }
        binds := Function.update st.binds c [] } r k →
        Holds maxMr st r k ∧ k ≠ .bind c ∨ (r = s ∧ k = .slab c i) := by
      intro r k hk
      cases k with
      | slab c' i' =>
        simp only [Holds, hb.chunk] at hk
        by_cases hci : c' = c ∧ i' = i
        · rw [if_pos hci] at hk
          obtain ⟨rfl, rfl⟩ := hci
          exact .inr ⟨by exact_mod_cast hk.2.symm, rfl⟩
        · rw [if_neg hci] at hk
          exact .inl ⟨hk, by simp⟩
      | bind c' =>
        obtain ⟨hold, hne⟩ := hbind hk
        exact .inl ⟨hold, by simp [hne]⟩
      | call tid => exact .inl ⟨hk, by simp⟩
      | list tid => exact .inl ⟨hk, by simp⟩
    have htarget : ∀ {k}, Holds maxMr { st with
        tables := DisStore.recvInfoSingle maxMr st.tables c { msg with sizeGb := (s : Int) }
        binds := Function.update st.binds c [] } s k → k = .slab c i := by
      intro k hk
      rcases hcases hk with ⟨hold, hne⟩ | ⟨-, hk⟩
      · exact absurd (h.exclusive s k _ hold hheld) hne
      · exact hk
    apply h.move (fun r => r = s) (.slab c i)
    · intro r k hk
      exact (hcases hk).imp And.left And.left
    · rintro r rfl
      exact ⟨h.bound r _ hheld, fun k hk => htarget hk⟩
    · intro c' r hd
      refine ⟨hd, ?_⟩
      rintro rfl
      obtain ⟨i', hi'⟩ := (h.drain c' r hd).2 _ hheld
      cases hi'
    · intro c' i' r hk
      simp only [hb.index]
      by_cases hr : r = s
      · subst hr
        simp only [Function.update_self]
        left
        omega
      · rw [Function.update_of_ne (by exact_mod_cast hr)]
        rcases hcases hk with ⟨hold, -⟩ | ⟨heq, -⟩
        · exact h.index c' i' r hold
        · exact absurd heq hr

lemma markedChunks_eq_true {cb : ControlBlock} {x : Int} :
    markedChunks maxMr cb x = true ↔ ∃ i ∈ markedSlabs maxMr cb, cb.chunkMap i = x := by
  simp [markedChunks]

lemma mappedChunks_eq_true {cb : ControlBlock} {s : Nat} :
    mappedChunks maxMr cb s = true ↔ ∃ i, i < maxMr ∧ cb.chunkMap i = s := by
  simp only [mappedChunks, List.any_eq_true, mem_mappedSlabs, decide_eq_true_eq]
  constructor
  · rintro ⟨i, ⟨hi, -⟩, hs⟩
    exact ⟨i, hi, hs⟩
  · rintro ⟨i, hi, hs⟩
    refine ⟨i, ⟨hi, ?_⟩, hs⟩
    rw [hs]
    omega

lemma HoldInv.evictStart {c : Nat} {cb : ControlBlock} (h : HoldInv maxMr capacityG st)
    (hchunk : cb.chunkMap = (st.tables.cbs c).chunkMap)
    (hidle : ∀ tid, (st.threads tid).phase = .idle)
    (hst' : st' = setThread
      { st with tables :=
        { sess := (unmapMarked maxMr st.tables.sess cb).1
          cbs := Function.update st.tables.cbs c (unmapMarked maxMr st.tables.sess cb).2 } }
      (.evict c) { st.threads (.evict c) with
        phase := .draining
        todo := evictedChunks capacityG (markedChunks maxMr cb) }) :
    HoldInv maxMr capacityG st' := by
  have hnodrain : ∀ c' s, ¬Drains st c' s := by
    intro c' s
    simp [Drains, hidle]
  have hcases : ∀ {s k}, Holds maxMr st' s k →
      Holds maxMr st s k ∧ (∀ i ∈ markedSlabs maxMr cb, k ≠ .slab c i) ∨
        (s ∈ evictedChunks capacityG (markedChunks maxMr cb) ∧ k = .list (.evict c)) := by
    intro s k hk
    rw [hst'] at hk
    cases k with
    | slab c' i' =>
      left
      simp only [Holds, setThread] at hk
      by_cases hc : c' = c
      · subst hc
        simp only [Function.update_self, unmapMarked] at hk
        by_cases hi : i' ∈ markedSlabs maxMr cb
        · rw [if_pos hi] at hk
          omega
        · rw [if_neg hi, hchunk] at hk
          refine ⟨hk, ?_⟩
          rintro i hmarked heq
          cases heq
          exact hi hmarked
      · rw [Function.update_of_ne hc] at hk
        exact ⟨hk, by simp [hc]⟩
    | bind c' => exact .inl ⟨hk, by simp⟩
    | call tid =>
      left
      by_cases ht : tid = .evict c
      · subst ht
        simp only [Holds, setThread_self] at hk
        exact ⟨hk, by simp⟩
      · simp only [Holds, setThread_of_ne ht] at hk
        exact ⟨hk, by simp⟩
    | list tid =>
      by_cases ht : tid = .evict c
      · subst ht
        simp only [Holds, setThread_self] at hk
        exact .inr ⟨hk.1, rfl⟩
      · simp only [Holds, setThread_of_ne ht] at hk
        exact .inl ⟨hk, by simp⟩
  have htarget : ∀ {s k}, s ∈ evictedChunks capacityG (markedChunks maxMr cb) →
      Holds maxMr st' s k → k = .list (.evict c) := by
    intro s k hs hk
    obtain ⟨i, hi, hci⟩ := markedChunks_eq_true.mp (mem_evictedChunks.mp hs).2
    have hheld : Holds maxMr st s (.slab c i) := ⟨lt_of_mem_markedSlabs hi, hchunk ▸ hci⟩
    rcases hcases hk with ⟨hold, hne⟩ | ⟨-, hk⟩
    · exact absurd (h.exclusive s k _ hold hheld) (hne i hi)
    · exact hk
  apply h.move (fun s => s ∈ evictedChunks capacityG (markedChunks maxMr cb)) (.list (.evict c))
  · intro s k hk
    exact (hcases hk).imp And.left And.left
  · intro s hs
    exact ⟨(mem_evictedChunks.mp hs).1, fun k hk => htarget hs hk⟩
  · intro c' s hd
    rw [hst', Drains, setThread_of_ne (by simp)] at hd
    exact absurd hd (hnodrain c' s)
  · intro c' i' s hk
    left
    -- a chunk that is still on a slab is not among those whose entries are reset
    have hunmarked : ¬markedChunks maxMr cb s = true := by
      intro hm
      rcases hcases hk with ⟨hold, -⟩ | ⟨-, hk'⟩
      · have hs := mem_evictedChunks.mpr ⟨h.bound s _ hold, hm⟩
        cases htarget hs hk
      · cases hk'
    rcases hcases hk with ⟨hold, -⟩ | ⟨-, hk'⟩
    · have hentry : st'.tables.sess.cbIndexMap s = st.tables.sess.cbIndexMap s := by
        rw [hst']
        exact if_neg hunmarked
      rw [hentry]
      exact (h.index c' i' s hold).resolve_right (hnodrain c' s)
    · cases hk'

lemma HoldInv.disconnectStart {c : Nat} (h : HoldInv maxMr capacityG st)
    (hidle : ∀ tid, (st.threads tid).phase = .idle)
    (hst' : st' = setThread
      { st with tables := disallowChunks maxMr c st.tables } (.disconnect c)
      { st.threads (.disconnect c) with
        phase := .draining
        todo := evictedChunks capacityG (mappedChunks maxMr (st.tables.cbs c)) }) :
    HoldInv maxMr capacityG st' := by
  have hsub : ∀ s k, Holds maxMr st' s k → Holds maxMr st s k := by
    intro s k hk
    rw [hst'] at hk
    cases k with
    | slab c' i' =>
      have hchunk : ((disallowChunks maxMr c st.tables).cbs c').chunkMap =
          (st.tables.cbs c').chunkMap := by
        apply update_field ControlBlock.chunkMap
        rfl
      simp only [Holds, setThread, hchunk] at hk
      exact hk
    | bind c' => exact hk
    | call tid =>
      by_cases ht : tid = .disconnect c
      · subst ht
        simp only [Holds, setThread_self] at hk
        exact hk
      · simp only [Holds, setThread_of_ne ht] at hk
        exact hk
    | list tid =>
      by_cases ht : tid = .disconnect c
      · subst ht
        simp only [Holds, setThread_self] at hk
        exact absurd rfl (hk.2 c rfl)
      · simp only [Holds, setThread_of_ne ht] at hk
        exact hk
  have hheld : ∀ {s : Nat}, mappedChunks maxMr (st.tables.cbs c) s = true →
      ∃ i, Holds maxMr st s (.slab c i) := by
    intro s hs
    exact mappedChunks_eq_true.mp hs
  constructor
  · exact h.exclusive.mono hsub
  · intro s k hk
    exact h.bound s k (hsub s k hk)
  · intro c' i' s hk
    have hold := hsub s _ hk
    by_cases hm : mappedChunks maxMr (st.tables.cbs c) s = true
    · obtain ⟨i, hi⟩ := hheld hm
      cases h.exclusive s _ _ hold hi
      right
      rw [hst', Drains, setThread_self]
      exact ⟨rfl, mem_evictedChunks.mpr ⟨h.bound s _ hold, hm⟩⟩
    · left
      have hentry : st'.tables.sess.cbIndexMap s = st.tables.sess.cbIndexMap s := by
        rw [hst']
        exact if_neg hm
      rw [hentry]
      refine (h.index c' i' s hold).resolve_right ?_
      simp [Drains, hidle]
  · intro c' s hd
    by_cases hc : c' = c
    · subst hc
      rw [hst', Drains, setThread_self] at hd
      obtain ⟨hs, hm⟩ := mem_evictedChunks.mp hd.2
      obtain ⟨i, hi⟩ := hheld hm
      exact ⟨hs, fun k hk => ⟨i, h.exclusive s k _ (hsub s k hk) hi⟩⟩
    · rw [hst', Drains, setThread_of_ne (by simp [hc])] at hd
      simp [hidle] at hd

lemma HoldInv.disconnectForget {c : Nat} (h : HoldInv maxMr capacityG st)
    (hphase : (st.threads (.disconnect c)).phase = .draining)
    (hothers : ∀ tid, tid ≠ .disconnect c → (st.threads tid).phase = .idle)
    (hst' : st' = setThread
      { st with tables := forgetServer maxMr c st.tables } (.disconnect c)
      { st.threads (.disconnect c) with phase := .remapping }) :
    HoldInv maxMr capacityG st' := by
  have hcases : ∀ {s k}, Holds maxMr st' s k →
      Holds maxMr st s k ∧ (∀ i, k ≠ .slab c i) ∨ (Drains st c s ∧ k = .list (.disconnect c)) := by
    intro s k hk
    rw [hst'] at hk
    cases k with
    | slab c' i' =>
      left
      simp only [Holds, setThread, forgetServer] at hk
      by_cases hc : c' = c
      · subst hc
        simp only [Function.update_self, mem_mappedSlabs] at hk
        split_ifs at hk with hmapped
        · exact hk.2.elim
        · exact absurd ⟨hk.1, by omega⟩ hmapped
      · rw [Function.update_of_ne hc] at hk
        exact ⟨hk, by simp [hc]⟩
    | bind c' => exact .inl ⟨hk, by simp⟩
    | call tid =>
      left
      by_cases ht : tid = .disconnect c
      · subst ht
        simp only [Holds, setThread_self] at hk
        exact ⟨hk, by simp⟩
      · simp only [Holds, setThread_of_ne ht] at hk
        exact ⟨hk, by simp⟩
    | list tid =>
      by_cases ht : tid = .disconnect c
      · subst ht
        simp only [Holds, setThread_self] at hk
        exact .inr ⟨⟨hphase, hk.1⟩, rfl⟩
      · simp only [Holds, setThread_of_ne ht] at hk
        exact .inl ⟨hk, by simp⟩
  apply h.move (fun s => Drains st c s) (.list (.disconnect c))
  · intro s k hk
    exact (hcases hk).imp And.left And.left
  · intro s hs
    obtain ⟨hlt, hd⟩ := h.drain c s hs
    refine ⟨hlt, fun k hk => ?_⟩
    rcases hcases hk with ⟨hold, hne⟩ | ⟨-, hk⟩
    · obtain ⟨i, hi⟩ := hd k hold
      exact absurd hi (hne i)
    · exact hk
  · intro c' s hd
    by_cases hc : c' = c
    · subst hc
      rw [hst', Drains, setThread_self] at hd
      simp at hd
    · have hne : ThreadId.disconnect c' ≠ .disconnect c := by simp [hc]
      rw [hst', Drains, setThread_of_ne hne] at hd
      simp [hothers _ hne] at hd
  · intro c' i' s hk
    left
    have hentry : st'.tables.sess.cbIndexMap = st.tables.sess.cbIndexMap := by
      rw [hst']
      exact (foldl_forgetChunk _ _ _).1
    rw [hentry]
    rcases hcases hk with ⟨hold, hne⟩ | ⟨-, hk'⟩
    · refine (h.index c' i' s hold).resolve_right ?_
      have hc : ThreadId.disconnect c' ≠ .disconnect c := by
        rintro heq
        cases heq
        exact hne i' rfl
      simp [Drains, hothers _ hc]
    · cases hk'

lemma HoldInv.endCall {tid : ThreadId} (h : HoldInv maxMr capacityG st)
    (hsame : SameChunks st.tables t) : HoldInv maxMr capacityG
      (setThread { st with tables := t } tid { st.threads tid with call := none }) := by
  apply h.keep
  · intro s k hk
    rcases holds_setCall hsame.chunk hk with hold | ⟨c, rfl, hc⟩ | ⟨-, pc, hcall, -⟩
    · exact hold
    · exact hc
    · cases hcall
  · exact hsame.index
  · exact fun _ _ => drains_setCall

lemma HoldInv.step (h : HoldInv maxMr capacityG st) (hh : HandlerInv st) (hw : WaitInv st)
    (hfit : triggerFits st ev) (hstep : triggerStep maxMr capacityG st ev = some st') :
    HoldInv maxMr capacityG st' := by
  cases triggerStep_move hstep with
  | triggerStart hs hcall hon hindex =>
    exact h.triggerStart hs (h.unheld hh hw hcall hon hindex) (hh.off hon)
  | evictStart cb hchunk _ _ => exact h.evictStart hchunk hfit rfl
  | @evictDone c t _ hsame =>
    apply h.keep
    · intro s k hk
      cases k with
      | slab c' i' =>
        simp only [Holds, setThread, hsame.chunk] at hk
        exact hk
      | bind c' => exact hk
      | call tid =>
        by_cases ht : tid = .evict c
        · subst ht
          simp only [Holds, setThread_self] at hk
          exact hk
        · simp only [Holds, setThread_of_ne ht] at hk
          exact hk
      | list tid =>
        by_cases ht : tid = .evict c
        · subst ht
          simp only [Holds, setThread_self] at hk
          exact ⟨hk.1, by simp⟩
        · simp only [Holds, setThread_of_ne ht] at hk
          exact hk
    · exact hsame.index
    · intro c' s
      rw [Drains, setThread_of_ne (by simp)]
      rfl
  | disconnectStart _ => exact h.disconnectStart hfit rfl
  | disconnectForget hphase =>
    obtain ⟨-, -, hothers⟩ := hh.alone (by rw [hphase]; simp)
    exact h.disconnectForget hphase hothers rfl
  | @nextChunk tid s rest t hthread hsame =>
    have hnodup := hh.nodup tid
    rw [hthread] at hnodup
    exact h.nextChunk hnodup hthread hsame
  | proceed t hcall hpc hpc' hsame =>
    apply h.keep
    · intro s' k hk
      rcases holds_setCall hsame.chunk hk with hold | ⟨c, rfl, hc⟩ | ⟨rfl, pc'', heq, -⟩
      · exact hold
      · exact hc
      · cases heq
        exact ⟨_, hcall, hpc⟩
    · exact hsame.index
    · exact fun _ _ => drains_setCall
  | giveUp hcall hpc => exact h.endCall (.refl _)
  | sendBind hcall hpc => exact h.sendBind hcall hpc
  | finishCall t hcall hstate hsame => exact h.endCall hsame
  | @finishHandler tid t hthread hsame =>
    apply h.keep
    · intro s k hk
      cases k with
      | slab c i =>
        have hchunk : (t.cbs c).chunkMap = (st.tables.cbs c).chunkMap := hsame.chunk c
        simp only [Holds, setThread, hchunk] at hk
        exact hk
      | bind c => exact hk
      | call tid' =>
        by_cases ht : tid' = tid
        · subst ht
          simp [Holds] at hk
        · simp only [Holds, setThread_of_ne ht] at hk
          exact hk
      | list tid' =>
        by_cases ht : tid' = tid
        · subst ht
          simp [Holds] at hk
        · simp only [Holds, setThread_of_ne ht] at hk
          exact hk
    · exact hsame.index
    · intro c s
      by_cases ht : .disconnect c = tid
      · subst ht
        simp [Drains, hthread]
      · rw [Drains, setThread_of_ne ht]
        rfl
  | @recvInfoSingle c s msg rest hbinds =>
    have hone := hw.one c
    rw [hbinds, List.length_cons] at hone
    have hrest : rest = [] := List.length_eq_zero_iff.mp (by omega)
    subst hrest
    exact h.recvInfoSingle hbinds
  | recvOther t hsame =>
    apply h.keep
    · intro s k hk
      cases k with
      | slab c i =>
        simp only [Holds, hsame.chunk] at hk
        exact hk
      | bind c => exact hk
      | call tid => exact hk
      | list tid => exact hk
    · exact hsame.index
    · exact fun _ _ => Iff.rfl

/-- The three invariants together. -/
structure TriggerInv (maxMr capacityG : Nat) (st : TriggerState) : Prop where
  handlers : HandlerInv st
  waits : WaitInv st
  holds : HoldInv maxMr capacityG st

lemma triggerInv_run (h : GuardedRun (triggerStep maxMr capacityG) triggerFits
    (triggerInit capacityG) st) : TriggerInv maxMr capacityG st := by
  apply h.invariant
  · exact ⟨handlerInv_init capacityG, waitInv_init capacityG, holdInv_init maxMr capacityG⟩
  · intro st ev st' hinv hfit hstep
    exact ⟨hinv.handlers.step hfit hstep, hinv.waits.step hfit hstep,
      hinv.holds.step hinv.handlers hinv.waits hfit hstep⟩

end Holds

/-- An evict or disconnect handler has unmapped chunk `s` and has not finished rebinding it. -/
def Rebinding (st : TriggerState) (s : Nat) : Prop :=
  ∃ tid, tid ≠ .trigger ∧
    (s ∈ (st.threads tid).todo ∨ ∃ pc, (st.threads tid).call = some ⟨s, pc⟩)

theorem chunk_bound_once (maxMr capacityG : Nat) {st : TriggerState}
    (h : GuardedRun (triggerStep maxMr capacityG) triggerFits (triggerInit capacityG) st) :
    (∀ s, (triggerStep maxMr capacityG st (.triggerStart s)).isSome → ¬Rebinding st s) ∧
      ∀ s c i c' i' : Nat, i < maxMr → i' < maxMr → (st.tables.cbs c).chunkMap i = s →
        (st.tables.cbs c').chunkMap i' = s → c = c' ∧ i = i' := by
  have hinv := triggerInv_run h
  constructor
  · rintro s hstart ⟨tid, htid, hbusy⟩
    obtain ⟨st', hst'⟩ := Option.isSome_iff_exists.mp hstart
    simp only [triggerStep, Option.ite_none_right_eq_some] at hst'
    obtain ⟨⟨-, -, hon, -⟩, -⟩ := hst'
    have hrest := hinv.handlers.rest tid (hinv.handlers.off hon tid)
    rcases hbusy with hmem | ⟨pc, hcall⟩
    · rw [hrest.1] at hmem
      cases hmem
    · rw [hrest.2 htid] at hcall
      cases hcall
  · intro s c i c' i' hi hi' hs hs'
    have heq := hinv.holds.exclusive s (.slab c i) (.slab c' i') ⟨hi, hs⟩ ⟨hi', hs'⟩
    cases heq
    exact ⟨rfl, rfl⟩

/-- A thread asks server `c` and binds the chunk that it maps to the first slab there. -/
def bindEvents (tid : ThreadId) (c : Nat) : List TriggerEvent :=
  [.query tid c, .recvOther c .freeMemRecv, .consumeFree tid, .sendBind tid c,
    .recvInfoSingle c (slabMessage 0 0), .finishCall tid]

/-- What a state that is reached has to allow for an event. -/
def triggerCheck (st : TriggerState) : TriggerEvent → Bool
  | .evictStart _ _ | .disconnectStart _ => st.tables.sess.triggerOn
  | .sendBind tid c => decide ((st.tables.cbs c).state ≠ .waitOps) &&
      [ThreadId.trigger, tid].all (fun tid => match (st.threads tid).call with
        | some ⟨_, .awaitInfo c'⟩ => decide (c' ≠ c)
        | _ => true) &&
      (st.tables.sess.triggerOn || decide ((st.threads tid).phase ≠ .idle))
  | _ => true

lemma triggerFits_of_check {maxMr capacityG : Nat} {st : TriggerState} {ev : TriggerEvent}
    (h : GuardedRun (triggerStep maxMr capacityG) triggerFits (triggerInit capacityG) st)
    (hcheck : triggerCheck st ev = true) : triggerFits st ev := by
  have hinv := (triggerInv_run h).handlers
  cases ev with
  | evictStart c stop => exact hinv.off hcheck
  | disconnectStart c => exact hinv.off hcheck
  | sendBind tid c =>
    simp only [triggerCheck, Bool.and_eq_true, Bool.or_eq_true, decide_eq_true_eq,
      List.all_eq_true] at hcheck
    obtain ⟨⟨hstate, hcalls⟩, hbusy⟩ := hcheck
    refine ⟨hstate, fun tid' s hcall => ?_⟩
    by_cases hseen : tid' ∈ [ThreadId.trigger, tid]
    · have hother := hcalls tid' hseen
      simp [hcall] at hother
    · -- a handler other than the one that sends is idle
      simp only [List.mem_cons, List.not_mem_nil, or_false, not_or] at hseen
      have hidle : (st.threads tid').phase = .idle := by
        by_contra hphase
        obtain hon | htid := hbusy
        · exact hphase (hinv.off hon tid')
        · exact hseen.2 (hinv.single tid' tid hphase htid)
      rw [(hinv.rest tid' hidle).2 hseen.1] at hcall
      cases hcall
  | _ => trivial

/-- The trigger has bound chunks 0 and 1; chunk 0 has been evicted and bound to server 2 by
`evict_handler`, and the trigger is on again. -/
theorem chunk_bound_once_evicted : ∃ st : TriggerState,
    GuardedRun (triggerStep 1 3) triggerFits (triggerInit 3) st ∧
      (st.tables.cbs 0).chunkMap 0 = -1 ∧ (st.tables.cbs 1).chunkMap 0 = 1 ∧
      (st.tables.cbs 2).chunkMap 0 = 0 ∧ ¬Rebinding st 2 ∧
      ∀ c i : Nat, i < 1 → (st.tables.cbs c).chunkMap i = 0 → c = 2 ∧ i = 0 := by
  have hmap : (runChecked (triggerStep 1 3) triggerCheck (triggerInit 3)
      ([.triggerStart 0] ++ bindEvents .trigger 0 ++ [.triggerStart 1] ++ bindEvents .trigger 1 ++
        [.evictStart 0 (slabMessage 0 1), .evictDone 0, .nextChunk (.evict 0)] ++
        bindEvents (.evict 0) 2 ++ [.finishHandler (.evict 0)])).map (fun st =>
          ((st.tables.cbs 0).chunkMap 0, (st.tables.cbs 1).chunkMap 0,
            (st.tables.cbs 2).chunkMap 0, (triggerStep 1 3 st (.triggerStart 2)).isSome)) =
      some (-1, 1, 0, true) := by
    decide +kernel
  obtain ⟨st, hst, hfields⟩ := Option.map_eq_some_iff.mp hmap
  simp only [Prod.mk.injEq] at hfields
  obtain ⟨h0, h1, h2, hstart⟩ := hfields
  have hrun := runChecked_reaches_of_reached _
    (fun _ _ _ hr hcheck => triggerFits_of_check hr hcheck) .start hst
  have honce := chunk_bound_once 1 3 hrun
  refine ⟨st, hrun, h0, h1, h2, honce.1 2 hstart, fun c i hi hc => ?_⟩
  obtain ⟨rfl, rfl⟩ := honce.2 0 2 0 c i (by decide) hi h2 hc
  exact ⟨rfl, rfl⟩

/-- Two evictions overlap and the first to finish turns the trigger on, so that the trigger and
the other eviction both bind chunk 0. -/
theorem chunk_bound_twice : ∃ st st' : TriggerState,
    GuardedRun (triggerStep 1 2) (fun _ _ => True) (triggerInit 2) st ∧
      (triggerStep 1 2 st (.triggerStart 0)).isSome ∧ Rebinding st 0 ∧
      GuardedRun (triggerStep 1 2) (fun _ _ => True) st st' ∧
      (st'.tables.cbs 3).chunkMap 0 = 0 ∧ (st'.tables.cbs 4).chunkMap 0 = 0 := by
  refine ⟨_, _, runActions_reaches
    ([.triggerStart 0] ++ bindEvents .trigger 0 ++ [.triggerStart 1] ++ bindEvents .trigger 1 ++
      [.evictStart 0 (slabMessage 0 1), .evictStart 1 (slabMessage 0 1), .evictDone 1,
        .nextChunk (.evict 1)] ++ bindEvents (.evict 1) 2 ++ [.finishHandler (.evict 1)])
    (fun _ _ _ => trivial) .start rfl, rfl, ⟨.evict 0, by simp, .inl List.mem_cons_self⟩,
    runActions_reaches
    ([.triggerStart 0] ++ bindEvents .trigger 3 ++ [.evictDone 0, .nextChunk (.evict 0)] ++
      bindEvents (.evict 0) 4)
    (fun _ _ _ => trivial) .start rfl, rfl, rfl⟩

end DisStore.Proofs
