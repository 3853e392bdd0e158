import DisStore.Link
import DisStore.Lib.Run

/-!
# Replies on the control block

`cb->state` carries the progress of the connection, the replies to requests and the eviction
notices. Between a reply and the thread that waits for it the state is kept if no message
arrives before ESTABLISHED and no eviction notice arrives while a reply is not consumed.
-/

namespace DisStore.Proofs
open DisStore DisStore.Lib

/-- The thread waits for a reply. -/
def awaitsReply : Waiter → Bool
  | .connecting | .awaitFree | .awaitInfo => true
  | _ => false

def isAnswer (m : Message) : Bool := decide (m.type = .freeSize ∨ m.type = .infoSingle)

/-- At most one request or reply is under way, and it is the one that the thread waits for. -/
structure LinkInv (s : LinkState) : Prop where
  types : ∀ m ∈ s.toClient, isAnswer m = true ∨ m.type = .evict ∨ m.type = .stop
  one : (if s.daemonUp then 0 else 1) + s.toDaemon.length + s.toClient.countP isAnswer +
    (if s.answered then 1 else 0) = if awaitsReply s.waiter then 1 else 0
  requests : ∀ m ∈ s.toDaemon, m.type = if s.waiter = .awaitInfo then .bindSingle else .query
  replies : ∀ m ∈ s.toClient, isAnswer m = true → isReply s.waiter m.type = true
  boot : s.daemonUp = false → s.waiter ≠ .awaitInfo
  down : s.clientUp = false → s.cb.state = .routeResolved ∧ s.waiter = .connecting
  up : s.clientUp = true → s.cb.state.isConnected = true ∧ s.cb.state ≠ .error
  kept : s.answered = true →
    s.cb.state = if s.waiter = .awaitInfo then .waitOps else .freeMemRecv
  fresh : s.answered = false → (s.waiter ≠ .awaitInfo → s.cb.state ≠ .freeMemRecv) ∧
    (s.waiter = .chosen ∨ s.waiter = .awaitInfo → s.cb.state ≠ .waitOps)

/-- What a received message makes of `cb->state`. -/
def receivedState : MsgType → TestState
  | .freeSize => .freeMemRecv
  | .infoSingle | .info => .waitOps
  | .evict => .recvEvict
  | .stop => .recvStop
  | _ => .error

lemma singleChunkInit_state (maxMr cbIndex : Nat) (s : Session) (cb : ControlBlock) :
    (singleChunkInit maxMr cbIndex s cb).2.state = cb.state := by
  unfold singleChunkInit
  dsimp only
  split <;> rfl

lemma clientRecvEvict_state (cb : ControlBlock) : (clientRecvEvict cb).state = cb.state := by
  unfold clientRecvEvict
  split <;> rfl

lemma cqRecv_state (maxMr cbIndex : Nat) (s : Session) (cb : ControlBlock) (msg : Message)
    (hup : cb.state.isConnected = true) (hok : cb.state ≠ .error)
    (htype : isAnswer msg = true ∨ msg.type = .evict ∨ msg.type = .stop) :
    (cqRecv maxMr cbIndex s cb msg).2.state = receivedState msg.type := by
  simp only [isAnswer, decide_eq_true_eq] at htype
  rcases htype with (h | h) | h | h
  · rw [cqRecv_freeSize maxMr cbIndex s hup hok h, h]
    rfl
  · rw [cqRecv_infoSingle maxMr cbIndex s hup hok h, h, singleChunkInit_state]
    rfl
  · rw [cqRecv_evict maxMr cbIndex s hup hok h, h, clientRecvEvict_state]
    rfl
  · rw [cqRecv_stop maxMr cbIndex s hup hok h, h, clientRecvStop_state]
    rfl

/-- Messages are received after ESTABLISHED, and eviction notices only while no reply waits to
be consumed. -/
def receiveFits (s : LinkState) : LinkEvent → Prop
  | .receive => s.clientUp = true ∧ ∀ m rest, s.toClient = m :: rest →
      (m.type = .evict ∨ m.type = .stop) → s.answered = false
  | _ => True

lemma linkInv_init (sess : Session) (cb : ControlBlock) : LinkInv (linkInit sess cb) := by
  constructor <;> simp [linkInit, awaitsReply]

variable {maxMr cbIndex : Nat} {s s' : LinkState}

lemma isReply_notice (w : Waiter) {m : Message} (h : m.type = .evict ∨ m.type = .stop) :
    isReply w m.type = false := by
  rcases h with h | h
  · rw [h]
    cases w <;> rfl
  · rw [h]
    cases w <;> rfl

lemma LinkInv.receive (h : LinkInv s) {m : Message} {rest : List Message}
    (hm : s.toClient = m :: rest) (hup : s.clientUp = true)
    (hnotice : (m.type = .evict ∨ m.type = .stop) → s.answered = false) :
    LinkInv { s with
      sess := (cqRecv maxMr cbIndex s.sess s.cb m).1
      cb := (cqRecv maxMr cbIndex s.sess s.cb m).2
      toClient := rest
      answered := s.answered || isReply s.waiter m.type } := by
  obtain ⟨hconn, hok⟩ := h.up hup
  have hmem : m ∈ s.toClient := by simp [hm]
  have hrest : ∀ x ∈ rest, x ∈ s.toClient := fun x hx => hm ▸ List.mem_cons_of_mem _ hx
  have htype := h.types m hmem
  have hstate := cqRecv_state maxMr cbIndex s.sess s.cb m hconn hok htype
  have hone := h.one
  rw [hm, List.countP_cons] at hone
  have hreply := h.replies m hmem
  constructor
  · exact fun x hx => h.types x (hrest x hx)
  · by_cases ha : isAnswer m = true
    · have hfresh : s.answered = false := by
        by_contra hne
        simp only [Bool.not_eq_false] at hne
        simp only [ha, hne, if_true] at hone
        split_ifs at hone <;> omega
      simp only [hreply ha, hfresh, Bool.or_true, ha, if_true] at hone ⊢
      simp only [Bool.false_eq_true, if_false] at hone
      omega
    · have hno := isReply_notice s.waiter (htype.resolve_left ha)
      simp only [hno, Bool.or_false, ha, Bool.false_eq_true, if_false, add_zero] at hone ⊢
      exact hone
  · exact h.requests
  · exact fun x hx => h.replies x (hrest x hx)
  · exact h.boot
  · intro hdown
    rw [hup] at hdown
    cases hdown
  · intro _
    rw [hstate]
    rcases htype with h1 | h1 | h1
    · simp only [isAnswer, decide_eq_true_eq] at h1
      rcases h1 with h1 | h1 <;> rw [h1] <;> decide
    · rw [h1]; decide
    · rw [h1]; decide
  · intro hans
    rw [hstate]
    rcases htype with h1 | h1
    · have hr := hreply h1
      revert hr
      cases s.waiter <;> cases m.type <;> simp [isReply, receivedState]
    · rw [isReply_notice s.waiter h1, hnotice h1] at hans
      cases hans
  · intro hans
    obtain ⟨-, hno⟩ := Bool.or_eq_false_iff.mp hans
    have hnot : ¬isAnswer m = true := by
      intro ha
      rw [hreply ha] at hno
      cases hno
    rw [hstate]
    rcases htype.resolve_left hnot with h1 | h1
    · rw [h1]
      simp [receivedState]
    · rw [h1]
      simp [receivedState]

lemma LinkInv.notice (h : LinkInv s) {m : Message} (hm : m.type = .evict ∨ m.type = .stop) :
    LinkInv { s with toClient := s.toClient ++ [m] } := by
  have hno : isAnswer m = false := by
    rcases hm with hm | hm <;> simp [isAnswer, hm]
  constructor
  · intro x hx
    rcases List.mem_append.mp hx with hx | hx
    · exact h.types x hx
    · rw [List.mem_singleton.mp hx]
      exact .inr hm
  · have hone := h.one
    simpa [List.countP_append, hno] using hone
  · exact h.requests
  · intro x hx ha
    rcases List.mem_append.mp hx with hx | hx
    · exact h.replies x hx ha
    · rw [List.mem_singleton.mp hx, hno] at ha
      cases ha
  · exact h.boot
  · exact h.down
  · exact h.up
  · exact h.kept
  · exact h.fresh

lemma LinkInv.reply (h : LinkInv s) {m : Message} {up : Bool} {reqs : List Message}
    (hm : isAnswer m = true) (hreply : isReply s.waiter m.type = true)
    (hreqs : ∀ x ∈ reqs, x ∈ s.toDaemon) (hup : up = false → s.daemonUp = false)
    (hcount : (if up then 0 else 1) + reqs.length + 1 =
      (if s.daemonUp then 0 else 1) + s.toDaemon.length) :
    LinkInv { s with daemonUp := up, toDaemon := reqs, toClient := s.toClient ++ [m] } := by
  constructor
  · intro x hx
    rcases List.mem_append.mp hx with hx | hx
    · exact h.types x hx
    · rw [List.mem_singleton.mp hx]
      exact .inl hm
  · have hone := h.one
    simp only [List.countP_append, List.countP_singleton, hm, if_true]
    omega
  · exact fun x hx => h.requests x (hreqs x hx)
  · intro x hx ha
    rcases List.mem_append.mp hx with hx | hx
    · exact h.replies x hx ha
    · rw [List.mem_singleton.mp hx]
      exact hreply
  · exact fun hf => h.boot (hup hf)
  · exact h.down
  · exact h.up
  · exact h.kept
  · exact h.fresh

lemma LinkInv.quiet (h : LinkInv s) (hq : awaitsReply s.waiter = false ∨ s.answered = true) :
    s.daemonUp = true ∧ s.toDaemon = [] ∧ s.toClient.countP isAnswer = 0 ∧
      (awaitsReply s.waiter = false → s.answered = false) := by
  have hone := h.one
  have hle : (if s.daemonUp then 0 else 1) + s.toDaemon.length + s.toClient.countP isAnswer = 0 := by
    rcases hq with hq | hq <;> rw [hq] at hone <;> split_ifs at hone ⊢ <;> simp_all
  refine ⟨?_, ?_, ?_, ?_⟩
  · by_contra hne
    simp [hne] at hle
  · exact List.length_eq_zero_iff.mp (by omega)
  · omega
  · intro hw
    by_contra hne
    simp only [Bool.not_eq_false] at hne
    rw [hw, hne] at hone
    simp at hone

lemma LinkInv.of_quiet (htypes : ∀ m ∈ s.toClient, isAnswer m = true ∨ m.type = .evict ∨
      m.type = .stop) (hd : s.daemonUp = true) (hreqs : s.toDaemon = [])
    (hzero : s.toClient.countP isAnswer = 0) (hans : s.answered = false)
    (hup : s.clientUp = true) (hconn : s.cb.state.isConnected = true) (hok : s.cb.state ≠ .error)
    (hw : awaitsReply s.waiter = false) (hfree : s.cb.state ≠ .freeMemRecv)
    (hops : s.waiter = .chosen → s.cb.state ≠ .waitOps) : LinkInv s := by
  have hnone : ∀ x ∈ s.toClient, ¬isAnswer x = true := List.countP_eq_zero.mp hzero
  constructor
  · exact htypes
  · simp [hd, hreqs, hzero, hans, hw]
  · simp [hreqs]
  · exact fun x hx ha => (hnone x hx ha).elim
  · simp [hd]
  · simp [hup]
  · exact fun _ => ⟨hconn, hok⟩
  · simp [hans]
  · intro _
    refine ⟨fun _ => hfree, ?_⟩
    rintro (hc | hc)
    · exact hops hc
    · rw [hc] at hw
      cases hw

/-- The thread sends a request: nothing is under way when it does not wait. -/
lemma LinkInv.request (h : LinkInv s) (cb : ControlBlock) {w : Waiter} {m : Message}
    (hw : awaitsReply s.waiter = false) (hw' : w = .awaitFree ∨ w = .awaitInfo)
    (hm : m.type = if w = .awaitInfo then .bindSingle else .query) (hcb : cb.state = s.cb.state)
    (hchosen : w = .awaitInfo → s.waiter = .chosen) :
    LinkInv { s with cb := cb, waiter := w, toDaemon := s.toDaemon ++ [m] } := by
  obtain ⟨hd, hreqs, hzero, hans⟩ := h.quiet (.inl hw)
  have hnone : ∀ x ∈ s.toClient, ¬isAnswer x = true := List.countP_eq_zero.mp hzero
  have hclient : s.clientUp = true := by
    by_contra hne
    simp only [Bool.not_eq_true] at hne
    rw [(h.down hne).2] at hw
    cases hw
  have haw : awaitsReply w = true := by
    rcases hw' with rfl | rfl <;> rfl
  obtain ⟨hfree, hops⟩ := h.fresh (hans hw)
  have hne : s.waiter ≠ .awaitInfo := by
    intro he
    rw [he] at hw
    cases hw
  constructor
  · exact h.types
  · simp [haw, hreqs, hzero, hd, hans hw]
  · intro x hx
    rw [hreqs] at hx
    rw [List.mem_singleton.mp hx]
    exact hm
  · exact fun x hx ha => (hnone x hx ha).elim
  · simp [hd]
  · simp [hclient]
  · intro _
    rw [hcb]
    exact h.up hclient
  · simp [hans hw]
  · intro _
    rw [hcb]
    refine ⟨fun _ => hfree hne, ?_⟩
    rintro (hc | hc)
    · rcases hw' with rfl | rfl <;> cases hc
    · exact hops (.inl (hchosen hc))

lemma LinkInv.established (h : LinkInv s) (hdown : s.clientUp = false) :
    LinkInv { s with cb := { s.cb with state := .connected }, clientUp := true } := by
  obtain ⟨hstate, hwaiter⟩ := h.down hdown
  have hans : s.answered = false := by
    by_contra hne
    simp only [Bool.not_eq_false] at hne
    have := h.kept hne
    rw [hstate, hwaiter] at this
    cases this
  constructor
  · exact h.types
  · exact h.one
  · exact h.requests
  · exact h.replies
  · exact h.boot
  · simp
  · simp [TestState.isConnected]
  · simp [hans]
  · simp

lemma LinkInv.passConnected (h : LinkInv s) (hw : s.waiter = .connecting)
    (hconn : s.cb.state.isConnected = true) : LinkInv { s with waiter := .awaitFree } := by
  have hclient : s.clientUp = true := by
    by_contra hne
    simp only [Bool.not_eq_true] at hne
    rw [(h.down hne).1] at hconn
    cases hconn
  have hone := h.one
  have hrequests := h.requests
  have hreplies := h.replies
  have hkept := h.kept
  have hfresh := h.fresh
  simp only [hw] at hone hrequests hreplies hkept hfresh
  constructor
  · exact h.types
  · exact hone
  · exact hrequests
  · intro m hm ha
    have hr := hreplies m hm ha
    revert hr
    cases m.type <;> simp [isReply]
  · simp
  · simp [hclient]
  · exact h.up
  · exact hkept
  · intro ha
    refine ⟨fun _ => (hfresh ha).1 (by simp), ?_⟩
    simp

lemma LinkInv.clientUp_of_state (h : LinkInv s) (hstate : s.cb.state ≠ .routeResolved) :
    s.clientUp = true := by
  by_contra hne
  simp only [Bool.not_eq_true] at hne
  exact hstate (h.down hne).1

lemma LinkInv.answer (h : LinkInv s) {msg req : Message} {rest : List Message}
    (hreq : s.toDaemon = req :: rest)
    (hs : linkStep maxMr cbIndex s (.answer msg) = some s') : LinkInv s' := by
  have htype := h.requests req (by simp [hreq])
  have hone := h.one
  rw [hreq, List.length_cons] at hone
  have haw : awaitsReply s.waiter = true := by
    by_contra hne
    simp [hne] at hone
  have hsub : ∀ x ∈ rest, x ∈ s.toDaemon := fun x hx => hreq ▸ List.mem_cons_of_mem _ hx
  by_cases hw : s.waiter = .awaitInfo
  · rw [if_pos hw] at htype
    simp only [linkStep, hreq, htype, Option.some.injEq] at hs
    subst hs
    apply h.reply rfl (by rw [hw]; rfl) hsub (fun hf => hf)
    rw [hreq, List.length_cons]
    omega
  · rw [if_neg hw] at htype
    simp only [linkStep, hreq, htype, Option.some.injEq] at hs
    subst hs
    have hreply : isReply s.waiter .freeSize = true := by
      cases hc : s.waiter <;> simp [hc, awaitsReply, isReply] at haw hw ⊢
    apply h.reply rfl hreply hsub (fun hf => hf)
    rw [hreq, List.length_cons]
    omega

lemma LinkInv.step (h : LinkInv s) {e : LinkEvent} (hok : receiveFits s e)
    (hs : linkStep maxMr cbIndex s e = some s') : LinkInv s' := by
  cases e with
  | establishedClient =>
    simp only [linkStep, Option.ite_none_left_eq_some, Bool.not_eq_true] at hs
    rw [← Option.some.inj hs.2]
    exact h.established hs.1
  | establishedDaemon msg =>
    simp only [linkStep, Option.ite_none_left_eq_some, Bool.not_eq_true] at hs
    obtain ⟨hdown, hs⟩ := hs
    rw [← Option.some.inj hs]
    have hone := h.one
    have hboot := h.boot hdown
    have hreply : isReply s.waiter .freeSize = true := by
      rw [hdown] at hone
      cases hw : s.waiter <;> simp [hw, awaitsReply, isReply] at hone hboot ⊢
    apply h.reply rfl hreply (fun x hx => hx)
    · simp
    · simp [hdown]
      omega
  | passConnected =>
    simp only [linkStep, Option.ite_none_right_eq_some] at hs
    rw [← Option.some.inj hs.2]
    exact h.passConnected hs.1.1 hs.1.2
  | consumeFree =>
    simp only [linkStep, Option.ite_none_right_eq_some] at hs
    obtain ⟨⟨hw, hstate⟩, hs⟩ := hs
    rw [← Option.some.inj hs]
    have hans : s.answered = true := by
      by_contra hne
      simp only [Bool.not_eq_true] at hne
      exact (h.fresh hne).1 (by simp [hw]) hstate
    obtain ⟨hd, hreqs, hzero, -⟩ := h.quiet (.inr hans)
    have hup := h.clientUp_of_state (by simp [hstate])
    apply LinkInv.of_quiet
    · exact h.types
    · exact hd
    · exact hreqs
    · exact hzero
    · rfl
    · exact hup
    · rfl
    · simp
    · rfl
    · simp
    · simp
  | skip =>
    simp only [linkStep, Option.ite_none_right_eq_some] at hs
    obtain ⟨hw, hs⟩ := hs
    rw [← Option.some.inj hs]
    have hidle : awaitsReply s.waiter = false := by rw [hw]; rfl
    obtain ⟨hd, hreqs, hzero, hans⟩ := h.quiet (.inl hidle)
    have hfresh := h.fresh (hans hidle)
    have hup : s.clientUp = true := by
      by_contra hne
      simp only [Bool.not_eq_true] at hne
      rw [(h.down hne).2] at hw
      cases hw
    obtain ⟨hconn, herr⟩ := h.up hup
    apply LinkInv.of_quiet
    · exact h.types
    · exact hd
    · exact hreqs
    · exact hzero
    · exact hans hidle
    · exact hup
    · exact hconn
    · exact herr
    · rfl
    · exact hfresh.1 (by simp [hw])
    · simp
  | query =>
    simp only [linkStep, Option.ite_none_right_eq_some] at hs
    obtain ⟨hw, hs⟩ := hs
    rw [← Option.some.inj hs]
    exact h.request (sendQuery s.cb) (by rw [hw]; rfl) (.inl rfl) rfl rfl (by simp)
  | bind chunk =>
    simp only [linkStep, Option.ite_none_right_eq_some] at hs
    obtain ⟨hw, hs⟩ := hs
    rw [← Option.some.inj hs]
    exact h.request (sendBindSingle s.cb chunk) (by rw [hw]; rfl) (.inr rfl) rfl rfl
      (fun _ => hw)
  | consumeInfo =>
    simp only [linkStep, Option.ite_none_right_eq_some] at hs
    obtain ⟨⟨hw, hstate⟩, hs⟩ := hs
    rw [← Option.some.inj hs]
    have hans : s.answered = true := by
      by_contra hne
      simp only [Bool.not_eq_true] at hne
      exact (h.fresh hne).2 (.inr hw) hstate
    obtain ⟨hd, hreqs, hzero, -⟩ := h.quiet (.inr hans)
    have hup := h.clientUp_of_state (by simp [hstate])
    apply LinkInv.of_quiet
    · exact h.types
    · exact hd
    · exact hreqs
    · exact hzero
    · rfl
    · exact hup
    · simp [hstate, TestState.isConnected]
    · simp [hstate]
    · rfl
    · simp [hstate]
    · simp
  | answer msg =>
    cases hreq : s.toDaemon with
    | nil => simp [linkStep, hreq] at hs
    | cons req rest => exact h.answer hreq hs
  | evict msg =>
    simp only [linkStep, Option.ite_none_right_eq_some] at hs
    rw [← Option.some.inj hs.2]
    exact h.notice (.inl rfl)
  | stop msg =>
    simp only [linkStep, Option.ite_none_right_eq_some] at hs
    rw [← Option.some.inj hs.2]
    exact h.notice (.inr rfl)
  | receive =>
    obtain ⟨hup, hnotice⟩ := hok
    simp only [linkStep] at hs
    split at hs
    · cases hs
    · rename_i m rest hm
      rw [if_neg (h.up hup).2] at hs
      rw [← Option.some.inj hs]
      exact h.receive hm hup (hnotice m rest hm)

/-- In every run whose events meet `receiveFits`, a reply that has been received and not yet
consumed is still in `cb->state`, so that the wait for it can be passed, and the state is
never ERROR. -/
theorem reply_kept_until_consumed (maxMr cbIndex : Nat) (sess : Session) (cb : ControlBlock)
    {s : LinkState}
    (h : GuardedRun (linkStep maxMr cbIndex) receiveFits (linkInit sess cb) s) :
    s.cb.state ≠ .error ∧
      (s.answered = true → awaitsReply s.waiter = true ∧
        (s.waiter = .awaitInfo → s.cb.state = .waitOps) ∧
        (s.waiter ≠ .awaitInfo → s.cb.state = .freeMemRecv)) := by
  have hinv : LinkInv s := by
    apply GuardedRun.invariant (linkInv_init sess cb) _ h
    intro s e s' hs hok hstep
    exact hs.step hok hstep
  constructor
  · cases hup : s.clientUp with
    | false =>
      rw [(hinv.down hup).1]
      decide
    | true => exact (hinv.up hup).2
  · intro hans
    have hkept := hinv.kept hans
    refine ⟨?_, fun hw => ?_, fun hw => ?_⟩
    · by_contra hne
      simp only [Bool.not_eq_true] at hne
      have hfalse := (hinv.quiet (.inl hne)).2.2.2 hne
      rw [hans] at hfalse
      cases hfalse
    · rw [hkept, if_pos hw]
    · rw [hkept, if_neg hw]

/-- Both sides are established and the first FREE_SIZE waits for the thread. -/
theorem reply_kept_until_consumed_established :
    ∃ s, runActions (linkStep 32 0) (linkInit (sessionCreate 12) kernelCbInit)
        [.establishedClient, .establishedDaemon kernelCbInit.recvBuf, .receive] = some s ∧
      s.answered = true ∧ s.cb.state ≠ .error ∧ s.cb.state = .freeMemRecv := by
  refine ⟨_, rfl, rfl, ?_⟩
  have hkept := reply_kept_until_consumed 32 0 (sessionCreate 12) kernelCbInit
    (.next .receive (.next (.establishedDaemon kernelCbInit.recvBuf)
      (.next .establishedClient .start trivial rfl) trivial rfl)
      ⟨rfl, fun m rest hm ht => rfl⟩ rfl)
  exact ⟨hkept.1, (hkept.2 rfl).2.2 (by decide)⟩

/-- A chunk is bound and the server is queried again. FREE_SIZE and EVICT are both received
before the thread runs: the reply is overwritten and the thread waits for ever. And a FREE_SIZE
that is received before ESTABLISHED is an error. -/
theorem reply_overwritten_by_notice :
    (∃ s, GuardedRun (linkStep 32 0) (fun _ _ => True) (linkInit (sessionCreate 12) kernelCbInit) s ∧
      s.answered = true ∧ s.waiter = .awaitFree ∧ s.cb.state = .recvEvict) ∧
    ∃ s, GuardedRun (linkStep 32 0) (fun _ _ => True) (linkInit (sessionCreate 12) kernelCbInit) s ∧
      s.cb.state = .error := by
  constructor
  · refine ⟨_, runActions_reaches
      [.establishedClient, .establishedDaemon kernelCbInit.recvBuf, .receive, .passConnected,
        .consumeFree, .bind 0, .answer { kernelCbInit.recvBuf with rkey := fun _ => 1 }, .receive,
        .consumeInfo, .query, .answer kernelCbInit.recvBuf,
        .evict { kernelCbInit.recvBuf with sizeGb := 1 }, .receive, .receive]
      (fun _ _ _ => trivial) .start rfl, rfl, rfl, rfl⟩
  · exact ⟨_, runActions_reaches [.establishedDaemon kernelCbInit.recvBuf, .receive]
      (fun _ _ _ => trivial) .start rfl, rfl⟩

end DisStore.Proofs
