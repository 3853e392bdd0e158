import DisStore.Notice
import DisStore.Lib.Run
import DisStore.Proofs.ReplyState

/-!
# Eviction notices reach the handler

`c_state` is written by the receive handler, by `IS_single_chunk_init` and by `evict_handler`
itself. A notice stays there until the handler has observed it if no chunk is bound while a
notice is unseen and no EVICT arrives before the handler has taken back the last STOP.
-/

namespace DisStore.Proofs
open DisStore DisStore.Lib

/-- The handler has observed a STOP and has still to assign C_READY. -/
def resets : HandlerPc → Bool
  | .readSize | .resetZero | .unmap | .drain | .sendDone | .resetDone => true
  | _ => false

/-- An EVICT has a size and is received when no notice is unseen and the handler is not about
to assign C_READY; a chunk is bound when no notice is unseen. -/
def noticeFits (maxMr : Nat) (s : NoticeState) : NoticeEvent → Prop
  | .receive => ∀ m rest, s.toClient = m :: rest →
      (m.type = .evict → m.sizeGb ≠ 0 ∧ s.unseen = [] ∧ resets s.handler.pc = false) ∧
      (m.type = .infoSingle → (∃ i < maxMr, m.rkey i ≠ 0) → s.unseen = [])
  | _ => True

/-- What the handler has to do next for the round it is in. -/
inductive Spot where
  | rest | observed | waiting | zero | evicting | exited
  deriving DecidableEq

def spot (h : EvictHandler) : Spot :=
  match h.pc with
  | .loop | .awaitEvict | .resetDone | .remap => .rest
  | .sendActivity => .observed
  | .awaitStop => .waiting
  | .readSize => if h.cb.shrinkSizeG = 0 then .zero else .evicting
  | .resetZero => .zero
  | .unmap | .drain | .sendDone => .evicting
  | .exited => .exited

lemma spot_eq_waiting {h : EvictHandler} : spot h = .waiting ↔ h.pc = .awaitStop := by
  unfold spot
  cases h.pc <;> simp
  split_ifs <;> simp

/-- The stages of a round: the monitor, the handler, the notices that are unseen or on their
way, and the ACTIVITY and DONE messages that the monitor has still to take. A STOP of size
zero is not answered, so that the next EVICT may follow it at once. -/
inductive Round : Monitor → Spot → List Notice → Nat → Nat → Prop
  | quiet : Round .idle .rest [] 0 0
  | asked : Round .awaitActivity .rest [.evict] 0 0
  | askedBehind : Round .awaitActivity .waiting [.stop true, .evict] 0 0
  | askedReading : Round .awaitActivity .zero [.evict] 0 0
  | observed : Round .awaitActivity .observed [] 0 0
  | reported : Round .awaitActivity .waiting [] 1 0
  | stopping : Round .awaitDone .waiting [.stop false] 0 0
  | evicting : Round .awaitDone .evicting [] 0 0
  | stopped : Round .awaitDone .rest [] 0 1
  | dismissed : Round .idle .waiting [.stop true] 0 0
  | dismissing : Round .idle .zero [] 0 0

namespace Round

variable {m : Monitor} {x : Spot} {p q : List Notice} {a d : Nat} {z : Bool}

lemma start (h : Round .idle x p a d) : Round .awaitActivity x (p ++ [.evict]) a d := by
  cases h <;> constructor

lemma stop (h : Round .awaitActivity x p (a + 1) d) :
    Round (if z then .idle else .awaitDone) x (p ++ [.stop z]) a d := by
  cases h
  cases z
  · exact .stopping
  · exact .dismissed

lemma finish (h : Round .awaitDone x p a (d + 1)) : Round .idle x p a d := by
  cases h
  exact .quiet

lemma observeEvict (h : Round m .rest (.evict :: p) a d) : Round m .observed p a d := by
  cases h
  exact .observed

lemma report (h : Round m .observed p a d) : Round m .waiting p (a + 1) d := by
  cases h
  exact .reported

lemma observeStop (h : Round m .waiting (.stop z :: p) a d) :
    Round m (if z then .zero else .evicting) p a d := by
  cases h <;> constructor

lemma reset (h : Round m .zero p a d) : Round m .rest p a d := by
  cases h <;> constructor

lemma done (h : Round m .evicting p a d) : Round m .rest p a (d + 1) := by
  cases h
  exact .stopped

lemma stop_first (h : Round m x (p ++ .stop z :: q) a d) : p = [] ∧ x = .waiting := by
  generalize hp : p ++ .stop z :: q = l at h
  cases h <;> rcases p with _ | ⟨n, _ | ⟨n', t⟩⟩ <;> simp at hp ⊢

lemma rest_first {n : Notice} (h : Round m .rest (n :: p) a d) : n = .evict := by
  cases h
  rfl

lemma waiting_first {n : Notice} (h : Round m .waiting (n :: p) a d) : n.cState = .stop := by
  cases h <;> rfl

lemma observed_nil (h : Round m .observed p a d) : p = [] := by
  cases h
  rfl

lemma not_exited (h : Round m .exited p a d) : False := by
  cases h

end Round

def isActivity (m : Message) : Bool := decide (m.type = .activity)

def isDone (m : Message) : Bool := decide (m.type = .done)

/-- The notices that are unseen or on their way. -/
def comingNotices (s : NoticeState) : List Notice := s.unseen ++ s.toClient.filterMap noticeOf

structure NoticeInv (s : NoticeState) : Prop where
  round : Round s.monitor (spot s.handler) (comingNotices s)
    (s.toDaemon.countP isActivity + s.evictSem) (s.toDaemon.countP isDone + s.stopSem)
  types : ∀ m ∈ s.toClient, isAnswer m = true ∨ m.type = .evict ∨ m.type = .stop
  up : s.handler.cb.state.isConnected = true ∧ s.handler.cb.state ≠ .error
  one : s.unseen.length ≤ 1
  told : ∀ n ∈ s.unseen, s.handler.cb.cState = n.cState
  sized : ∀ z, .stop z ∈ s.unseen → z = decide (s.handler.cb.shrinkSizeG = 0)
  busy : resets s.handler.pc = true → s.unseen = []
  calmEvict : s.unseen = [] → resets s.handler.pc = false → spot s.handler = .rest →
    s.handler.cb.cState ≠ .evict
  calmStop : s.unseen = [] → spot s.handler = .observed ∨ spot s.handler = .waiting →
    s.handler.cb.cState ≠ .stop
  evicts : s.evicts = s.activities + s.unseen.count .evict +
    if spot s.handler = .observed then 1 else 0
  stops : s.stops = s.dones + s.unseen.count (.stop false) +
    if spot s.handler = .evicting then 1 else 0

lemma noticeInv_init (sess : Session) (cb : ControlBlock) : NoticeInv (noticeInit sess cb) := by
  constructor
  · exact .quiet
  all_goals simp [noticeInit, evictHandlerInit, spot, resets, TestState.isConnected]

lemma singleChunkInit_cState (maxMr cbIndex : Nat) (s : Session) (cb : ControlBlock) :
    (singleChunkInit maxMr cbIndex s cb).2.cState = cb.cState ∨
      ((∃ i < maxMr, cb.recvBuf.rkey i ≠ 0) ∧
        (singleChunkInit maxMr cbIndex s cb).2.cState = .ready) := by
  unfold singleChunkInit
  dsimp only
  split
  · exact .inl rfl
  · rename_i i hfind
    right
    have hmem := List.mem_of_find?_eq_some hfind
    have hkey := List.find?_some hfind
    simp only [decide_eq_true_eq] at hkey
    exact ⟨⟨i, List.mem_range.mp hmem, hkey⟩, rfl⟩

lemma singleChunkInit_shrink (maxMr cbIndex : Nat) (s : Session) (cb : ControlBlock) :
    (singleChunkInit maxMr cbIndex s cb).2.shrinkSizeG = cb.shrinkSizeG := by
  unfold singleChunkInit
  dsimp only
  split <;> rfl

/-- A reply leaves the size of the eviction alone, and `c_state` unless it binds a chunk. -/
lemma cqRecv_answer (maxMr cbIndex : Nat) (s : Session) (cb : ControlBlock) {msg : Message}
    (hup : cb.state.isConnected = true) (hok : cb.state ≠ .error) (hmsg : isAnswer msg = true) :
    (cqRecv maxMr cbIndex s cb msg).2.shrinkSizeG = cb.shrinkSizeG ∧
      ((cqRecv maxMr cbIndex s cb msg).2.cState = cb.cState ∨
        msg.type = .infoSingle ∧ (∃ i < maxMr, msg.rkey i ≠ 0) ∧
          (cqRecv maxMr cbIndex s cb msg).2.cState = .ready) := by
  simp only [isAnswer, decide_eq_true_eq] at hmsg
  unfold cqRecv clientRecv
  rw [if_neg hok]
  simp only [hup, Bool.true_eq_false, if_false]
  rcases hmsg with hmsg | hmsg
  · simp [hmsg]
  · simp only [hmsg]
    refine ⟨singleChunkInit_shrink _ _ _ _, ?_⟩
    rcases singleChunkInit_cState maxMr cbIndex
        { s with cbStateList := Function.update s.cbStateList cbIndex .mapped }
        { cb with recvBuf := msg, state := .waitOps } with hkeep | ⟨hkey, hready⟩
    · exact .inl hkeep
    · exact .inr ⟨trivial, hkey, hready⟩

lemma cqRecv_evict_cState (maxMr cbIndex : Nat) (s : Session) (cb : ControlBlock) {msg : Message}
    (hup : cb.state.isConnected = true) (hok : cb.state ≠ .error) (hmsg : msg.type = .evict)
    (hsize : msg.sizeGb ≠ 0) : (cqRecv maxMr cbIndex s cb msg).2.cState = .evict := by
  rw [cqRecv_evict maxMr cbIndex s hup hok hmsg, clientRecvEvict, if_neg hsize]

lemma cqRecv_stop_cState (maxMr cbIndex : Nat) (s : Session) (cb : ControlBlock) {msg : Message}
    (hup : cb.state.isConnected = true) (hok : cb.state ≠ .error) (hmsg : msg.type = .stop) :
    (cqRecv maxMr cbIndex s cb msg).2.cState = .stop ∧
      (cqRecv maxMr cbIndex s cb msg).2.shrinkSizeG = msg.sizeGb := by
  rw [cqRecv_stop maxMr cbIndex s hup hok hmsg, clientRecvStop]
  split
  next hzero => exact ⟨rfl, hzero.symm⟩
  next => exact ⟨rfl, rfl⟩

variable {maxMr capacityG cbIndex : Nat} {s s' : NoticeState}

/-- Only the channels, the sizes behind them and parts of the control block that no notice is
read from have changed. -/
lemma NoticeInv.frame (h : NoticeInv s) {cb : ControlBlock}
    (hround : Round s'.monitor (spot s.handler) (comingNotices s')
      (s'.toDaemon.countP isActivity + s'.evictSem) (s'.toDaemon.countP isDone + s'.stopSem))
    (htypes : ∀ m ∈ s'.toClient, isAnswer m = true ∨ m.type = .evict ∨ m.type = .stop)
    (hhandler : s'.handler = { s.handler with sess := s'.handler.sess, cb := cb })
    (hstate : cb.state.isConnected = true ∧ cb.state ≠ .error)
    (hcs : cb.cState = s.handler.cb.cState ∨ s.unseen = [] ∧ cb.cState = .ready)
    (hsize : cb.shrinkSizeG = s.handler.cb.shrinkSizeG) (hunseen : s'.unseen = s.unseen)
    (hevicts : s'.evicts = s.evicts) (hstops : s'.stops = s.stops)
    (hacts : s'.activities = s.activities) (hdones : s'.dones = s.dones) : NoticeInv s' := by
  have hcb : s'.handler.cb = cb := by rw [hhandler]
  have hpc : s'.handler.pc = s.handler.pc := by rw [hhandler]
  have hspot : spot s'.handler = spot s.handler := by
    unfold spot
    rw [hpc, hcb, hsize]
  constructor
  · rw [hspot]
    exact hround
  · exact htypes
  · rw [hcb]
    exact hstate
  · rw [hunseen]
    exact h.one
  · intro n hn
    rw [hunseen] at hn
    rcases hcs with hkeep | ⟨hnone, -⟩
    · rw [hcb, hkeep]
      exact h.told n hn
    · rw [hnone] at hn
      cases hn
  · intro z hz
    rw [hcb, hsize]
    exact h.sized z (hunseen ▸ hz)
  · intro hr
    rw [hunseen]
    exact h.busy (hpc ▸ hr)
  · intro hnone hr hrest
    rw [hcb]
    rcases hcs with hkeep | ⟨-, hready⟩
    · rw [hkeep]
      exact h.calmEvict (hunseen ▸ hnone) (hpc ▸ hr) (hspot ▸ hrest)
    · simp [hready]
  · intro hnone hs
    rw [hcb]
    rcases hcs with hkeep | ⟨-, hready⟩
    · rw [hkeep]
      exact h.calmStop (hunseen ▸ hnone) (hspot ▸ hs)
    · simp [hready]
  · rw [hevicts, hacts, hunseen, hspot]
    exact h.evicts
  · rw [hstops, hdones, hunseen, hspot]
    exact h.stops

lemma NoticeInv.request (h : NoticeInv s) (cb : ControlBlock)
    (hquiet : isActivity cb.sendBuf = false ∧ isDone cb.sendBuf = false)
    (hcb : cb = { s.handler.cb with sendBuf := cb.sendBuf }) :
    NoticeInv { s with
      handler := { s.handler with cb := cb }
      toDaemon := s.toDaemon ++ [cb.sendBuf] } := by
  apply h.frame
  · simpa [comingNotices, List.countP_append, List.countP_cons, hquiet.1, hquiet.2] using h.round
  · exact h.types
  · rfl
  · rw [hcb]
    exact h.up
  · left
    rw [hcb]
  · rw [hcb]
  all_goals rfl

lemma noticeOf_answer {m : Message} (h : isAnswer m = true) : noticeOf m = none := by
  simp only [isAnswer, decide_eq_true_eq] at h
  unfold noticeOf
  rcases h with h | h <;> rw [h]

lemma NoticeInv.serve (h : NoticeInv s) {req : Message} {rest : List Message}
    (hreq : s.toDaemon = req :: rest) {msg : Message}
    (hs : noticeStep maxMr capacityG cbIndex s (.serve msg) = some s') : NoticeInv s' := by
  have hround := h.round
  rw [hreq, List.countP_cons, List.countP_cons] at hround
  have hanswer : ∀ m : Message, isAnswer m = true →
      (s.toClient ++ [m]).filterMap noticeOf = s.toClient.filterMap noticeOf := by
    intro m hm
    simp [noticeOf_answer hm]
  have htypes : ∀ m : Message, isAnswer m = true → ∀ x ∈ s.toClient ++ [m],
      isAnswer x = true ∨ x.type = .evict ∨ x.type = .stop := by
    intro m hm x hx
    rcases List.mem_append.mp hx with hx | hx
    · exact h.types x hx
    · rw [List.mem_singleton.mp hx]
      exact .inl hm
  simp only [noticeStep, hreq] at hs
  split at hs
  · rename_i ht
    rw [← Option.some.inj hs]
    apply h.frame
    · simpa [comingNotices, hanswer, isActivity, isDone, isAnswer, ht] using hround
    · exact htypes _ rfl
    · rfl
    · exact h.up
    · exact .inl rfl
    all_goals rfl
  · rename_i ht
    rw [← Option.some.inj hs]
    apply h.frame
    · simpa [comingNotices, hanswer, isActivity, isDone, isAnswer, ht] using hround
    · exact htypes _ rfl
    · rfl
    · exact h.up
    · exact .inl rfl
    all_goals rfl
  · rename_i ht
    rw [← Option.some.inj hs]
    apply h.frame
    · simpa [comingNotices, isActivity, isDone, ht, add_assoc, add_comm 1] using hround
    · exact h.types
    · rfl
    · exact h.up
    · exact .inl rfl
    all_goals rfl
  · rename_i ht
    rw [← Option.some.inj hs]
    apply h.frame
    · simpa [comingNotices, isActivity, isDone, ht, add_assoc, add_comm 1] using hround
    · exact h.types
    · rfl
    · exact h.up
    · exact .inl rfl
    all_goals rfl
  · cases hs

lemma NoticeInv.post (h : NoticeInv s) {monitor : Monitor} {evictSem : Nat} {msg : Message}
    (hmsg : msg.type = .evict ∨ msg.type = .stop)
    (hround : Round monitor (spot s.handler) (comingNotices s ++ (noticeOf msg).toList)
      (s.toDaemon.countP isActivity + evictSem) (s.toDaemon.countP isDone + s.stopSem)) :
    NoticeInv { s with
      monitor := monitor, evictSem := evictSem, toClient := s.toClient ++ [msg] } := by
  apply h.frame
  · convert hround using 1
    unfold comingNotices
    rw [List.filterMap_append, ← List.append_assoc]
    cases hn : noticeOf msg <;> simp [hn]
  · intro x hx
    rcases List.mem_append.mp hx with hx | hx
    · exact h.types x hx
    · rw [List.mem_singleton.mp hx]
      exact .inr hmsg
  · rfl
  · exact h.up
  · exact .inl rfl
  all_goals rfl

lemma comingNotices_receive {msg : Message} {rest : List Message} (hm : s.toClient = msg :: rest) :
    s.unseen ++ (noticeOf msg).toList ++ rest.filterMap noticeOf = comingNotices s := by
  unfold comingNotices
  rw [hm, List.filterMap_cons, List.append_assoc]
  cases noticeOf msg <;> rfl

lemma NoticeInv.receiveAnswer (cbIndex : Nat) (h : NoticeInv s) {m : Message}
    {rest : List Message}
    (hm : s.toClient = m :: rest) (ha : isAnswer m = true)
    (hbind : m.type = .infoSingle → (∃ i < maxMr, m.rkey i ≠ 0) → s.unseen = []) :
    NoticeInv { s with
      handler := { s.handler with
        sess := (cqRecv maxMr cbIndex s.handler.sess s.handler.cb m).1
        cb := (cqRecv maxMr cbIndex s.handler.sess s.handler.cb m).2 }
      toClient := rest } := by
  have hcoming := comingNotices_receive hm
  rw [noticeOf_answer ha, Option.toList_none, List.append_nil] at hcoming
  have hstate := cqRecv_state maxMr cbIndex s.handler.sess s.handler.cb m h.up.1 h.up.2 (.inl ha)
  obtain ⟨hsize, hcs⟩ := cqRecv_answer maxMr cbIndex s.handler.sess s.handler.cb h.up.1 h.up.2 ha
  apply h.frame
  · have hround := h.round
    rw [← hcoming] at hround
    exact hround
  · exact fun x hx => h.types x (hm ▸ List.mem_cons_of_mem _ hx)
  · rfl
  · rw [hstate]
    simp only [isAnswer, decide_eq_true_eq] at ha
    rcases ha with ha | ha <;> rw [ha] <;> decide
  · rcases hcs with hkeep | ⟨htype, hkey, hready⟩
    · exact .inl hkeep
    · exact .inr ⟨hbind htype hkey, hready⟩
  · exact hsize
  all_goals rfl

/-- A notice is received: it is the only one that the handler has not seen. -/
lemma NoticeInv.receiveNotice (h : NoticeInv s) {m : Message} {rest : List Message}
    (hm : s.toClient = m :: rest) {n : Notice} (hn : noticeOf m = some n)
    (htype : m.type = .evict ∨ m.type = .stop) (hnone : s.unseen = [])
    (hpc : resets s.handler.pc = false)
    (hcs : (cqRecv maxMr cbIndex s.handler.sess s.handler.cb m).2.cState = n.cState)
    (hsize : ∀ z, n = .stop z →
      z = decide ((cqRecv maxMr cbIndex s.handler.sess s.handler.cb m).2.shrinkSizeG = 0)) :
    NoticeInv { s with
      handler := { s.handler with
        sess := (cqRecv maxMr cbIndex s.handler.sess s.handler.cb m).1
        cb := (cqRecv maxMr cbIndex s.handler.sess s.handler.cb m).2 }
      toClient := rest
      unseen := [n]
      evicts := s.evicts + if n = .evict then 1 else 0
      stops := s.stops + if n = .stop false then 1 else 0 } := by
  have hcoming := comingNotices_receive hm
  rw [hn, hnone, Option.toList_some, List.nil_append] at hcoming
  have hstate := cqRecv_state maxMr cbIndex s.handler.sess s.handler.cb m h.up.1 h.up.2
    (.inr htype)
  have hspot : ∀ sess cb, spot { s.handler with sess := sess, cb := cb } = spot s.handler := by
    intro sess cb
    unfold spot
    revert hpc
    cases s.handler.pc <;> simp [resets]
  have hevicts := h.evicts
  have hstops := h.stops
  rw [hnone, List.count_nil] at hevicts hstops
  constructor
  · have hround := h.round
    rw [← hcoming] at hround
    rw [hspot]
    exact hround
  · exact fun x hx => h.types x (hm ▸ List.mem_cons_of_mem _ hx)
  · rw [hstate]
    rcases htype with ht | ht <;> rw [ht] <;> decide
  · exact le_refl 1
  · intro x hx
    rw [List.mem_singleton.mp hx]
    exact hcs
  · intro z hz
    exact hsize z (List.mem_singleton.mp hz).symm
  · intro hr
    rw [hpc] at hr
    cases hr
  · simp
  · simp
  · rw [hspot, hevicts, List.count_singleton]
    cases n
    · simp
      omega
    · simp
  · rw [hspot, hstops, List.count_singleton]
    rcases n with _ | _ | _
    · simp
    · simp
      omega
    · simp

lemma NoticeInv.receive (h : NoticeInv s) {m : Message} {rest : List Message}
    (hm : s.toClient = m :: rest) (hok : noticeFits maxMr s .receive)
    (hs : noticeStep maxMr capacityG cbIndex s .receive = some s') : NoticeInv s' := by
  obtain ⟨hevict, hbind⟩ := hok m rest hm
  have hmem : m ∈ s.toClient := by simp [hm]
  simp only [noticeStep, hm] at hs
  rw [← Option.some.inj hs]
  rcases h.types m hmem with ha | ht | ht
  · have hanswer := h.receiveAnswer cbIndex hm ha hbind
    simp only [isAnswer, decide_eq_true_eq] at ha
    have hnone : noticeOf m = none := noticeOf_answer (by simpa [isAnswer] using ha)
    rcases ha with ha | ha <;> simpa [hnone, ha] using hanswer
  · obtain ⟨hsize, hnone, hpc⟩ := hevict ht
    have hn : noticeOf m = some .evict := by simp [noticeOf, ht]
    have hcs := cqRecv_evict_cState maxMr cbIndex s.handler.sess s.handler.cb h.up.1 h.up.2 ht hsize
    have hnew := h.receiveNotice hm hn (.inl ht) hnone hpc hcs (by simp)
    simpa [hn, ht, hnone] using hnew
  · have hn : noticeOf m = some (.stop (decide (m.sizeGb = 0))) := by simp [noticeOf, ht]
    have hround := h.round
    rw [← comingNotices_receive hm, hn, Option.toList_some, List.append_assoc,
      List.singleton_append] at hround
    obtain ⟨hnone, hwait⟩ := hround.stop_first
    have hpc : resets s.handler.pc = false := by
      rw [spot_eq_waiting.mp hwait]
      rfl
    have hcs := cqRecv_stop_cState maxMr cbIndex s.handler.sess s.handler.cb h.up.1 h.up.2 ht
    have hnew := h.receiveNotice hm hn (.inr ht) hnone hpc hcs.1 (by simp [hcs.2])
    simpa [hn, ht, hnone] using hnew

lemma NoticeInv.proceed (h : NoticeInv s) {t : EvictHandler} {out : List Message}
    (hround : Round s.monitor (spot t) (comingNotices s)
      (s.toDaemon.countP isActivity + out.countP isActivity + s.evictSem)
      (s.toDaemon.countP isDone + out.countP isDone + s.stopSem))
    (hstate : t.cb.state = s.handler.cb.state)
    (hcs : t.cb.cState = s.handler.cb.cState ∨ s.unseen = [] ∧ t.cb.cState = .ready)
    (hsize : t.cb.shrinkSizeG = s.handler.cb.shrinkSizeG ∨ s.unseen = [])
    (hbusy : resets t.pc = true → s.unseen = [])
    (hevict : s.unseen = [] → resets t.pc = false → spot t = .rest → t.cb.cState ≠ .evict)
    (hstop : s.unseen = [] → spot t = .observed ∨ spot t = .waiting → t.cb.cState ≠ .stop)
    (hevicts : out.countP isActivity + (if spot t = .observed then 1 else 0) =
      if spot s.handler = .observed then 1 else 0)
    (hstops : out.countP isDone + (if spot t = .evicting then 1 else 0) =
      if spot s.handler = .evicting then 1 else 0) :
    NoticeInv { s with
      handler := t
      toDaemon := s.toDaemon ++ out
      activities := s.activities + out.countP isActivity
      dones := s.dones + out.countP isDone } := by
  have he := h.evicts
  have hd := h.stops
  constructor
  · rw [List.countP_append, List.countP_append]
    exact hround
  · exact h.types
  · rw [hstate]
    exact h.up
  · exact h.one
  · intro n hn
    rcases hcs with hkeep | ⟨hnone, -⟩
    · rw [hkeep]
      exact h.told n hn
    · rw [hnone] at hn
      cases hn
  · intro z hz
    rcases hsize with hkeep | hnone
    · rw [hkeep]
      exact h.sized z hz
    · rw [hnone] at hz
      cases hz
  · exact hbusy
  · exact hevict
  · exact hstop
  · dsimp only
    omega
  · dsimp only
    omega

lemma NoticeInv.observe (h : NoticeInv s) {t : EvictHandler} {n : Notice}
    (hunseen : s.unseen = [n]) (hcb : t.cb = s.handler.cb)
    (hround : Round s.monitor (spot t) (s.toClient.filterMap noticeOf)
      (s.toDaemon.countP isActivity + s.evictSem) (s.toDaemon.countP isDone + s.stopSem))
    (hrest : spot t ≠ .rest) (hcs : spot t = .observed ∨ spot t = .waiting → n = .evict)
    (hspot : spot s.handler ≠ .observed ∧ spot s.handler ≠ .evicting)
    (hevict : n = .evict ↔ spot t = .observed) (hstop : n = .stop false ↔ spot t = .evicting) :
    NoticeInv { s with handler := t, unseen := [] } := by
  have he := h.evicts
  have hd := h.stops
  rw [if_neg hspot.1, hunseen, List.count_singleton] at he
  rw [if_neg hspot.2, hunseen, List.count_singleton] at hd
  constructor
  · exact hround
  · exact h.types
  · rw [hcb]
    exact h.up
  · simp
  · simp
  · simp
  · simp
  · intro _ _ hr
    exact absurd hr hrest
  · intro _ hs
    have htold := h.told n (by simp [hunseen])
    rw [hcs hs] at htold
    rw [hcb, htold]
    simp [Notice.cState]
  · rw [he]
    simp [hevict]
  · rw [hd]
    simp [hstop]

lemma noticeStep_handler {t : EvictHandler} {out : List Message}
    (ht : handlerStep maxMr capacityG cbIndex s.handler = some (t, out)) :
    noticeStep maxMr capacityG cbIndex s .handler = some { s with
      handler := t
      toDaemon := s.toDaemon ++ out
      unseen := observeNotice s.handler.pc s.unseen
      activities := s.activities + out.countP isActivity
      dones := s.dones + out.countP isDone } := by
  simp only [noticeStep, ht, Option.bind_eq_bind, Option.bind_some]
  rfl

lemma NoticeInv.unseen_of_evict (h : NoticeInv s) (hpc : s.handler.pc = .awaitEvict)
    (hcs : s.handler.cb.cState = .evict) : s.unseen = [.evict] := by
  have hone := h.one
  have htold := h.told
  have hcalm := h.calmEvict
  cases hu : s.unseen with
  | nil =>
    have hspot : spot s.handler = .rest := by simp [spot, hpc]
    exact absurd hcs (hcalm hu (by rw [hpc]; rfl) hspot)
  | cons n rest =>
    rw [hu] at hone htold
    have hn := htold n List.mem_cons_self
    rw [hcs] at hn
    cases n with
    | evict => simpa using hone
    | stop z => cases hn

lemma NoticeInv.unseen_of_stop (h : NoticeInv s) (hpc : s.handler.pc = .awaitStop)
    (hcs : s.handler.cb.cState = .stop) :
    s.unseen = [.stop (decide (s.handler.cb.shrinkSizeG = 0))] := by
  have hone := h.one
  have htold := h.told
  have hcalm := h.calmStop
  cases hu : s.unseen with
  | nil => exact absurd hcs (hcalm hu (.inr (spot_eq_waiting.mpr hpc)))
  | cons n rest =>
    have hsized := h.sized
    rw [hu] at hone htold hsized
    have hn := htold n List.mem_cons_self
    rw [hcs] at hn
    cases n with
    | evict => cases hn
    | stop z =>
      rw [← hsized z List.mem_cons_self]
      simpa using hone

/-- Every step of the handler keeps the invariant; it moves the round on where it observes a
notice, answers one or takes back a STOP. -/
lemma NoticeInv.handler (h : NoticeInv s)
    (hs : noticeStep maxMr capacityG cbIndex s .handler = some s') : NoticeInv s' := by
  have hround := h.round
  have hok := h.up.2
  have hcalm := h.calmEvict
  have hwait := h.calmStop
  obtain ⟨t, out, ht⟩ : ∃ t out, handlerStep maxMr capacityG cbIndex s.handler = some (t, out) := by
    cases ht : handlerStep maxMr capacityG cbIndex s.handler with
    | none => simp [noticeStep, ht] at hs
    | some r => exact ⟨r.1, r.2, rfl⟩
  rw [noticeStep_handler ht] at hs
  rw [← Option.some.inj hs]
  cases hpc : s.handler.pc with
  | loop =>
    simp only [handlerStep, hpc, if_neg hok, Option.some.injEq, Prod.mk.injEq] at ht
    obtain ⟨rfl, rfl⟩ := ht
    simp only [spot, hpc] at hround hcalm
    apply h.proceed <;> simp [spot, hpc, hround, resets]
    exact fun hnone => hcalm hnone rfl trivial
  | awaitEvict =>
    simp only [handlerStep, hpc, Option.ite_none_right_eq_some, Option.some.injEq,
      Prod.mk.injEq] at ht
    obtain ⟨hcs, rfl, rfl⟩ := ht
    have hunseen := h.unseen_of_evict hpc hcs
    simp only [spot, hpc, comingNotices, hunseen, List.singleton_append] at hround
    simp only [observeNotice, hunseen, List.append_nil, List.countP_nil, add_zero]
    apply h.observe hunseen
    · rfl
    · exact hround.observeEvict
    all_goals simp [spot, hpc]
  | sendActivity =>
    simp only [handlerStep, hpc, Option.some.injEq, Prod.mk.injEq] at ht
    obtain ⟨rfl, rfl⟩ := ht
    simp only [spot, hpc] at hround hwait
    have hnext := hround.report
    rw [add_right_comm] at hnext
    apply h.proceed <;> simp [spot, hpc, resets, sendActivity, isActivity, isDone]
    · simpa [isActivity, isDone] using hnext
    · exact fun hnone => hwait hnone (.inl trivial)
  | awaitStop =>
    simp only [handlerStep, hpc, Option.ite_none_right_eq_some, Option.some.injEq,
      Prod.mk.injEq] at ht
    obtain ⟨hcs, rfl, rfl⟩ := ht
    have hunseen := h.unseen_of_stop hpc hcs
    simp only [spot, hpc, comingNotices, hunseen, List.singleton_append] at hround
    have hnext := hround.observeStop
    simp only [decide_eq_true_eq] at hnext
    simp only [observeNotice, hunseen, List.append_nil, List.countP_nil, add_zero]
    apply h.observe hunseen
    · rfl
    · exact hnext
    all_goals simp [spot, hpc]
    all_goals split_ifs <;> simp
  | readSize =>
    simp only [handlerStep, hpc, Option.some.injEq, Prod.mk.injEq] at ht
    obtain ⟨rfl, rfl⟩ := ht
    have hnone := h.busy (by rw [hpc]; rfl)
    by_cases hz : s.handler.cb.shrinkSizeG = 0
    · simp only [spot, hpc, if_pos hz] at hround
      apply h.proceed <;> simp [spot, hpc, hz, hround, hnone, resets]
    · simp only [spot, hpc, if_neg hz] at hround
      apply h.proceed <;> simp [spot, hpc, hz, hround, hnone, resets]
  | resetZero =>
    simp only [handlerStep, hpc, Option.some.injEq, Prod.mk.injEq] at ht
    obtain ⟨rfl, rfl⟩ := ht
    have hnone := h.busy (by rw [hpc]; rfl)
    simp only [spot, hpc] at hround
    have hnext := hround.reset
    apply h.proceed <;> simp [spot, hpc, hnext, hnone, resets]
  | unmap =>
    simp only [handlerStep, hpc, Option.some.injEq, Prod.mk.injEq] at ht
    obtain ⟨rfl, rfl⟩ := ht
    have hnone := h.busy (by rw [hpc]; rfl)
    simp only [spot, hpc] at hround
    apply h.proceed <;> simp [spot, hpc, hround, hnone, resets, unmapMarked]
  | drain =>
    simp only [handlerStep, hpc, Option.some.injEq, Prod.mk.injEq] at ht
    obtain ⟨rfl, rfl⟩ := ht
    have hnone := h.busy (by rw [hpc]; rfl)
    simp only [spot, hpc] at hround
    apply h.proceed <;> simp [spot, hpc, hround, hnone, resets]
  | sendDone =>
    simp only [handlerStep, hpc, Option.some.injEq, Prod.mk.injEq] at ht
    obtain ⟨rfl, rfl⟩ := ht
    have hnone := h.busy (by rw [hpc]; rfl)
    simp only [spot, hpc] at hround
    have hnext := hround.done
    rw [add_right_comm] at hnext
    apply h.proceed <;>
      simp [spot, hpc, hnone, resets, finishEvict, sendDoneMsg, isActivity, isDone]
    simpa [isActivity, isDone] using hnext
  | resetDone =>
    simp only [handlerStep, hpc, Option.some.injEq, Prod.mk.injEq] at ht
    obtain ⟨rfl, rfl⟩ := ht
    have hnone := h.busy (by rw [hpc]; rfl)
    simp only [spot, hpc] at hround
    apply h.proceed <;> simp [spot, hpc, hround, hnone, resets]
  | remap =>
    simp only [handlerStep, hpc, Option.some.injEq, Prod.mk.injEq] at ht
    obtain ⟨rfl, rfl⟩ := ht
    simp only [spot, hpc] at hround hcalm
    apply h.proceed <;> simp [spot, hpc, hround, resets]
    exact fun hnone => hcalm hnone rfl trivial
  | exited => simp [handlerStep, hpc] at ht

lemma NoticeInv.step (h : NoticeInv s) {e : NoticeEvent} (hok : noticeFits maxMr s e)
    (hs : noticeStep maxMr capacityG cbIndex s e = some s') : NoticeInv s' := by
  cases e with
  | handler => exact h.handler hs
  | query =>
    simp only [noticeStep, Option.some.injEq] at hs
    rw [← hs]
    exact h.request (sendQuery s.handler.cb) ⟨rfl, rfl⟩ rfl
  | bind selectChunk =>
    simp only [noticeStep, Option.some.injEq] at hs
    rw [← hs]
    exact h.request (sendBindSingle s.handler.cb selectChunk) ⟨rfl, rfl⟩ rfl
  | serve msg =>
    cases hreq : s.toDaemon with
    | nil => simp [noticeStep, hreq] at hs
    | cons req rest => exact h.serve hreq hs
  | evict msg =>
    simp only [noticeStep, Option.ite_none_right_eq_some, Option.some.injEq] at hs
    obtain ⟨hidle, rfl⟩ := hs
    apply h.post (.inl rfl)
    exact (hidle ▸ h.round).start
  | stop msg =>
    simp only [noticeStep, Option.ite_none_right_eq_some, Option.some.injEq] at hs
    obtain ⟨⟨hmon, hsem⟩, rfl⟩ := hs
    have hround := h.round
    obtain ⟨k, hk⟩ := Nat.exists_eq_succ_of_ne_zero hsem.ne'
    rw [hmon, hk, Nat.succ_eq_add_one, ← add_assoc] at hround
    have hnext := Round.stop (z := decide (msg.sizeGb = 0)) hround
    simp only [decide_eq_true_eq] at hnext
    apply h.post (.inr rfl)
    rw [hk]
    exact hnext
  | finish =>
    simp only [noticeStep, Option.ite_none_right_eq_some, Option.some.injEq] at hs
    obtain ⟨⟨hmon, hsem⟩, rfl⟩ := hs
    have hround := h.round
    obtain ⟨k, hk⟩ := Nat.exists_eq_succ_of_ne_zero hsem.ne'
    rw [hmon, hk, Nat.succ_eq_add_one, ← add_assoc] at hround
    apply h.frame
    · rw [hk]
      exact hround.finish
    · exact h.types
    · rfl
    · exact h.up
    · exact .inl rfl
    all_goals rfl
  | receive =>
    cases hm : s.toClient with
    | nil => simp [noticeStep, hm] at hs
    | cons m rest => exact h.receive hm hok hs

/-- The handler has answered every notice that it has to answer. -/
def settled (s : NoticeState) : Prop :=
  s.unseen = [] ∧ spot s.handler ≠ .observed ∧ spot s.handler ≠ .evicting

/-- The steps of the handler up to its next answer. -/
def handlerRank (s : NoticeState) : Nat :=
  match s.handler.pc with
  | .awaitStop => 5
  | .remap | .readSize => 4
  | .loop | .unmap => 3
  | .awaitEvict | .drain => 2
  | _ => 1

lemma NoticeInv.handler_enabled (maxMr capacityG cbIndex : Nat) (h : NoticeInv s)
    (hs : ¬settled s) : ∃ s', noticeStep maxMr capacityG cbIndex s .handler = some s' ∧
      s'.evicts = s.evicts ∧ s'.stops = s.stops ∧
      (settled s' ∨ handlerRank s' < handlerRank s) := by
  have hround := h.round
  cases hpc : s.handler.pc with
  | loop =>
    refine ⟨_, noticeStep_handler (by simp only [handlerStep, hpc]; rfl), rfl, rfl, .inr ?_⟩
    simp [handlerRank, hpc, h.up.2]
  | awaitEvict =>
    have hcs : s.handler.cb.cState = .evict := by
      cases hu : s.unseen with
      | nil => exact absurd ⟨hu, by simp [spot, hpc]⟩ hs
      | cons n rest =>
        simp only [spot, hpc, comingNotices, hu, List.cons_append] at hround
        rw [h.told n (by simp [hu]), hround.rest_first]
        rfl
    refine ⟨_, noticeStep_handler (by simp only [handlerStep, hpc, hcs, if_true]; rfl), rfl, rfl,
      .inr ?_⟩
    simp [handlerRank, hpc]
  | sendActivity =>
    simp only [spot, hpc] at hround
    have hnil := (List.append_eq_nil_iff.mp hround.observed_nil).1
    refine ⟨_, noticeStep_handler (by simp only [handlerStep, hpc]; rfl), rfl, rfl, .inl ?_⟩
    simp [settled, spot, hpc, observeNotice, hnil]
  | awaitStop =>
    have hcs : s.handler.cb.cState = .stop := by
      cases hu : s.unseen with
      | nil => exact absurd ⟨hu, by simp [spot, hpc]⟩ hs
      | cons n rest =>
        simp only [spot, hpc, comingNotices, hu, List.cons_append] at hround
        rw [h.told n (by simp [hu]), hround.waiting_first]
    refine ⟨_, noticeStep_handler (by simp only [handlerStep, hpc, hcs, if_true]; rfl), rfl, rfl,
      .inr ?_⟩
    simp [handlerRank, hpc]
  | readSize =>
    have hnone := h.busy (by rw [hpc]; rfl)
    have hsize : s.handler.cb.shrinkSizeG ≠ 0 := by
      intro hz
      exact hs ⟨hnone, by simp [spot, hpc, hz]⟩
    refine ⟨_, noticeStep_handler (by simp only [handlerStep, hpc]; rfl), rfl, rfl, .inr ?_⟩
    simp [handlerRank, hpc, hsize]
  | resetZero => exact absurd ⟨h.busy (by rw [hpc]; rfl), by simp [spot, hpc]⟩ hs
  | unmap =>
    refine ⟨_, noticeStep_handler (by simp only [handlerStep, hpc]; rfl), rfl, rfl, .inr ?_⟩
    simp [handlerRank, hpc]
  | drain =>
    refine ⟨_, noticeStep_handler (by simp only [handlerStep, hpc]; rfl), rfl, rfl, .inr ?_⟩
    simp [handlerRank, hpc]
  | sendDone =>
    have hnone := h.busy (by rw [hpc]; rfl)
    refine ⟨_, noticeStep_handler (by simp only [handlerStep, hpc]; rfl), rfl, rfl, .inl ?_⟩
    simp [settled, spot, hpc, observeNotice, hnone]
  | resetDone => exact absurd ⟨h.busy (by rw [hpc]; rfl), by simp [spot, hpc]⟩ hs
  | remap =>
    refine ⟨_, noticeStep_handler (by simp only [handlerStep, hpc]; rfl), rfl, rfl, .inr ?_⟩
    simp [handlerRank, hpc]
  | exited =>
    simp only [spot, hpc] at hround
    exact hround.not_exited.elim

/-- In every run whose events meet `noticeFits`, a received notice that the handler has not
observed is still in `c_state`, and the handler's own steps lead to a state in which it has
sent an ACTIVITY for every EVICT and a DONE for every STOP with a size. -/
theorem notices_answered (maxMr capacityG cbIndex : Nat) (sess : Session) (cb : ControlBlock)
    {s : NoticeState} (h : GuardedRun (noticeStep maxMr capacityG cbIndex) (noticeFits maxMr)
      (noticeInit sess cb) s) :
    (∀ n ∈ s.unseen, s.handler.cb.cState = n.cState) ∧
      ∃ k s', runActions (noticeStep maxMr capacityG cbIndex) s (List.replicate k .handler) =
          some s' ∧ s'.activities = s.evicts ∧ s'.dones = s.stops := by
  have hinv : NoticeInv s := by
    apply GuardedRun.invariant (noticeInv_init sess cb) _ h
    intro s e s' hs hok hstep
    exact hs.step hok hstep
  refine ⟨hinv.told, ?_⟩
  obtain ⟨k, s', hrun, ⟨hinv', he, hd⟩, hset⟩ := runActions_reaches_goal
    (noticeStep maxMr capacityG cbIndex)
    (P := fun t => NoticeInv t ∧ t.evicts = s.evicts ∧ t.stops = s.stops)
    settled NoticeEvent.handler handlerRank (by
      intro t ht hns
      obtain ⟨t', hstep, he, hd, hlt⟩ := ht.1.handler_enabled maxMr capacityG cbIndex hns
      exact ⟨t', hstep, ⟨ht.1.handler hstep, he.trans ht.2.1, hd.trans ht.2.2⟩, hlt⟩)
    s ⟨hinv, rfl, rfl⟩
  refine ⟨k, s', hrun, ?_, ?_⟩
  · have hevicts := hinv'.evicts
    rw [hset.1, if_neg hset.2.1, he] at hevicts
    simpa using hevicts.symm
  · have hstops := hinv'.stops
    rw [hset.1, if_neg hset.2.2, hd] at hstops
    simpa using hstops.symm

/-- The condition of the runs as a test. -/
def noticeCheck (maxMr : Nat) (s : NoticeState) : NoticeEvent → Bool
  | .receive => s.toClient.head?.all fun m => decide (
      (m.type = .evict → m.sizeGb ≠ 0 ∧ s.unseen = [] ∧ resets s.handler.pc = false) ∧
      (m.type = .infoSingle → (∃ i < maxMr, m.rkey i ≠ 0) → s.unseen = []))
  | _ => true

lemma noticeFits_of_check {maxMr : Nat} {s : NoticeState} {e : NoticeEvent}
    (hcheck : noticeCheck maxMr s e = true) : noticeFits maxMr s e := by
  cases e with
  | receive =>
    intro m rest hm
    rw [noticeCheck, hm, List.head?_cons, Option.all_some] at hcheck
    exact of_decide_eq_true hcheck
  | _ => exact trivial

/-- A message of size 1 about slab 0. -/
def slabZero : Message :=
  { kernelCbInit.recvBuf with sizeGb := 1, rkey := fun i => if i = 0 then 1 else 0 }

/-- A chunk is bound to slab 0 and the slab is evicted, up to the STOP. -/
def boundAndStopped : List NoticeEvent :=
  [.bind 0, .serve slabZero, .receive, .handler, .evict slabZero, .receive, .handler, .handler,
    .serve kernelCbInit.recvBuf, .stop slabZero, .receive]

/-- The handler has still to observe STOP, and its steps lead to the DONE. -/
theorem notices_answered_one_round :
    ∃ s, runChecked (noticeStep 32 12 0) (noticeCheck 32)
        (noticeInit (sessionCreate 12) kernelCbInit) boundAndStopped = some s ∧
      s.unseen = [.stop false] ∧ s.handler.cb.cState = .stop ∧ s.dones = 0 ∧
      ∃ k s', runActions (noticeStep 32 12 0) s (List.replicate k .handler) = some s' ∧
        s'.activities = 1 ∧ s'.dones = 1 := by
  obtain ⟨s, hs, hunseen, hdones, hevicts, hstops⟩ : ∃ s,
      runChecked (noticeStep 32 12 0) (noticeCheck 32)
        (noticeInit (sessionCreate 12) kernelCbInit) boundAndStopped = some s ∧
      s.unseen = [.stop false] ∧ s.dones = 0 ∧ s.evicts = 1 ∧ s.stops = 1 :=
    ⟨_, rfl, rfl, rfl, rfl, rfl⟩
  obtain ⟨htold, k, s', hrun, hactivities, hdone⟩ := notices_answered 32 12 0 (sessionCreate 12)
    kernelCbInit (runChecked_reaches _ (fun _ _ _ hcheck => noticeFits_of_check hcheck) .start hs)
  refine ⟨s, hs, hunseen, ?_, hdones, k, s', hrun, hactivities.trans hevicts, hdone.trans hstops⟩
  exact htold (.stop false) (by rw [hunseen]; exact List.mem_singleton_self _)

/-- A chunk is bound after EVICT and before the handler runs: `c_state` is C_READY, no thread
can go on, and the monitor waits for an ACTIVITY that is never sent. In the second run the
daemon has taken DONE and starts the next round before the handler assigns C_READY. -/
theorem notice_overwritten :
    (∃ s, GuardedRun (noticeStep 32 12 0) (fun _ _ => True)
        (noticeInit (sessionCreate 12) kernelCbInit) s ∧
      s.unseen = [.evict] ∧ s.handler.cb.cState = .ready ∧ s.monitor = .awaitActivity ∧
      s.toClient = [] ∧ s.toDaemon = [] ∧ noticeStep 32 12 0 s .handler = none) ∧
    ∃ s, GuardedRun (noticeStep 32 12 0) (fun _ _ => True)
        (noticeInit (sessionCreate 12) kernelCbInit) s ∧
      s.unseen = [.evict] ∧ s.handler.cb.cState = .ready ∧ s.monitor = .awaitActivity ∧
      s.handler.pc = .awaitEvict := by
  constructor
  · exact ⟨_, runActions_reaches
      [.handler, .bind 0, .evict slabZero, .serve slabZero, .receive, .receive]
      (fun _ _ _ => trivial) .start rfl, rfl, rfl, rfl, rfl, rfl, rfl⟩
  · exact ⟨_, runActions_reaches
      (boundAndStopped ++ [.handler, .handler, .handler, .handler, .handler,
        .serve kernelCbInit.recvBuf, .finish, .evict slabZero, .receive, .handler, .handler,
        .handler])
      (fun _ _ _ => trivial) .start rfl, rfl, rfl, rfl, rfl⟩

end DisStore.Proofs
