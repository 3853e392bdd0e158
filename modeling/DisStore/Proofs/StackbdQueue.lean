import DisStore.Stackbd
import DisStore.Lib.Trace
import DisStore.Proofs.DiskFallback

/-!
# The queue of the backup disk is a FIFO

Whatever the order of the steps of the callers and of the thread, the list under the spin lock
behaves like a queue to which a call appends all its bios at once, in the order in which the
calls take the lock. No wake-up is lost: the thread does not sleep while there is a bio to
submit, unless the call that adds it still has to wake. So the bios are all submitted as long as
the thread is not stopped; `kthread_stop` leaves those that are in the list.
-/

namespace DisStore.Proofs
open DisStore DisStore.Lib

/-- The queue that the disk is meant to have. -/
structure DiskFifo where
  ready : Bool
  queue : List QueuedBio
  submitted : List QueuedBio
  errors : List QueuedBio

inductive FifoAct where
  | ready
  | call (c : StackbdCall)
  | serve

def fifoStep (t : DiskFifo) : FifoAct → Option DiskFifo
  | .ready => some { t with ready := true }
  | .call c =>
    if t.ready then c.bios.map fun bios => { t with queue := t.queue ++ bios }
    else c.aborted.map fun b => { t with errors := t.errors ++ [b] }
  | .serve =>
    match t.queue with
    | [] => none
    | b :: rest => some { t with queue := rest, submitted := t.submitted ++ [b] }

def fifoInit : DiskFifo := ⟨false, [], [], []⟩

def fifoCalls : FifoAct → List StackbdCall
  | .call c => [c]
  | _ => []

def lockCalls : StackbdEvent → List StackbdCall
  | .spinLock c => [c]
  | _ => []

/-- The bio that the thread has taken from the list and not submitted. -/
def carried : ThreadPc → List QueuedBio
  | .spinUnlock popped => popped.toList
  | .ioFn b => [b]
  | _ => []

/-- The bios that the call with the lock has still to add. -/
def toAdd : Option LockHolder → List QueuedBio
  | some (.adding rest) => rest
  | _ => []

def toFail : Option LockHolder → List QueuedBio
  | some (.aborting b) => [b]
  | _ => []

/-- The call that has the lock and has not been accepted or refused. -/
def undecided : Option LockHolder → List StackbdCall
  | some (.entered c) => [c]
  | _ => []

/-- A call takes effect when it finds the device ready or not. -/
def diskFifo (s : StackbdQueue) : DiskFifo where
  ready := s.bdevRaw && s.isActive
  queue := carried s.pc ++ s.bioList ++ toAdd s.lock
  submitted := s.submitted
  errors := s.errors ++ toFail s.lock

variable {s s' : StackbdQueue}

section Moves

/-- What a step of the thread can be. -/
inductive ThreadMove (s : StackbdQueue) : StackbdQueue → Prop
  | goesOn : s.pc = .loopTest → s.stop = .running → ThreadMove s { s with pc := .waitTest }
  | exits : s.pc = .loopTest → s.stop ≠ .running → ThreadMove s { s with pc := .exited }
  | skipsWait : s.pc = .waitTest → s.waitDone = true → ThreadMove s { s with pc := .spinLock }
  | waits : s.pc = .waitTest → s.waitDone = false → ThreadMove s { s with pc := .prepareToWait }
  | listens : s.pc = .prepareToWait →
      ThreadMove s { s with interruptible := true, pc := .waitRetest }
  | leaves : s.pc = .waitRetest → s.waitDone = true →
      ThreadMove s { s with interruptible := false, pc := .spinLock }
  | sleeps : s.pc = .waitRetest → s.waitDone = false → ThreadMove s { s with pc := .schedule }
  | wakes : s.pc = .schedule → s.interruptible = false →
      ThreadMove s { s with pc := .prepareToWait }
  | locks : s.pc = .spinLock → s.lock = none →
      ThreadMove s { s with lock := some .thread, pc := .locked }
  | findsNone : s.pc = .locked → s.bioList = [] → ThreadMove s { s with pc := .spinUnlock none }
  | pops (b : QueuedBio) (rest : List QueuedBio) : s.pc = .locked → s.bioList = b :: rest →
      ThreadMove s { s with bioList := rest, pc := .spinUnlock (some b) }
  | unlocks : s.pc = .spinUnlock none → ThreadMove s { s with lock := none, pc := .loopTest }
  | carries (b : QueuedBio) : s.pc = .spinUnlock (some b) →
      ThreadMove s { s with lock := none, pc := .ioFn b }
  | submits (b : QueuedBio) : s.pc = .ioFn b →
      ThreadMove s { s with submitted := s.submitted ++ [b], pc := .loopTest }

lemma threadMove_of (h : stackbdThreadfn s = some s') : ThreadMove s s' := by
  revert h
  fun_cases stackbdThreadfn s with
  | case1 | case2 => rintro ⟨⟩
  | case3 hpc =>
    rintro ⟨⟩
    split_ifs with hstop
    · exact .goesOn hpc hstop
    · exact .exits hpc hstop
  | case4 hpc =>
    rintro ⟨⟩
    split_ifs with hdone
    · exact .skipsWait hpc hdone
    · exact .waits hpc (by simpa using hdone)
  | case5 hpc =>
    rintro ⟨⟩
    exact .listens hpc
  | case6 hpc hdone =>
    rintro ⟨⟩
    exact .leaves hpc hdone
  | case7 hpc hdone =>
    rintro ⟨⟩
    exact .sleeps hpc (by simpa using hdone)
  | case8 => rintro ⟨⟩
  | case9 hpc hint =>
    rintro ⟨⟩
    exact .wakes hpc (by simpa using hint)
  | case10 hpc hlock =>
    rintro ⟨⟩
    exact .locks hpc hlock
  | case11 => rintro ⟨⟩
  | case12 hpc hnil =>
    rintro ⟨⟩
    exact .findsNone hpc hnil
  | case13 hpc b rest hcons =>
    rintro ⟨⟩
    exact .pops b rest hpc hcons
  | case14 hpc =>
    rintro ⟨⟩
    exact .unlocks hpc
  | case15 b hpc =>
    rintro ⟨⟩
    exact .carries b hpc
  | case16 b hpc =>
    rintro ⟨⟩
    exact .submits b hpc

/-- What a step of the call with the lock can be. -/
inductive CallMove (s : StackbdQueue) : StackbdQueue → Prop
  | refuses (c : StackbdCall) (b : QueuedBio) : s.lock = some (.entered c) →
      (s.bdevRaw && s.isActive) = false → c.aborted = some b →
      CallMove s { s with lock := some (.aborting b) }
  | accepts (c : StackbdCall) (bios : List QueuedBio) : s.lock = some (.entered c) →
      (s.bdevRaw && s.isActive) = true → c.bios = some bios →
      CallMove s { s with lock := some (.adding bios) }
  | adds (b : QueuedBio) (rest : List QueuedBio) : s.lock = some (.adding (b :: rest)) →
      CallMove s { s with bioList := s.bioList ++ [b], lock := some (.adding rest) }
  | wakes : s.lock = some (.adding []) →
      CallMove s { s with interruptible := false, lock := some .waked }
  | unlocks : s.lock = some .waked → CallMove s { s with lock := none }
  | fails (b : QueuedBio) : s.lock = some (.aborting b) →
      CallMove s { s with lock := none, errors := s.errors ++ [b] }

lemma callMove_of (h : stackbdMakeRequest s = some s') : CallMove s s' := by
  revert h
  fun_cases stackbdMakeRequest s with
  | case3 c hlock hready =>
    intro h
    obtain ⟨b, hb, rfl⟩ := Option.map_eq_some_iff.mp h
    exact .refuses c b hlock (Bool.and_eq_false_iff.mpr hready) hb
  | case4 c hlock hready =>
    intro h
    obtain ⟨bios, hbios, rfl⟩ := Option.map_eq_some_iff.mp h
    exact .accepts c bios hlock (by simpa using hready) hbios
  | case1 | case2 => rintro ⟨⟩
  | case5 b rest hlock =>
    rintro ⟨⟩
    exact .adds b rest hlock
  | case6 hlock =>
    rintro ⟨⟩
    exact .wakes hlock
  | case7 hlock =>
    rintro ⟨⟩
    exact .unlocks hlock
  | case8 b hlock =>
    rintro ⟨⟩
    exact .fails b hlock

/-- What a step can be. -/
inductive QueueMove (s : StackbdQueue) : StackbdEvent → StackbdQueue → Prop
  | opens : QueueMove s .openDisk { s with bdevRaw := true }
  | activates : s.bdevRaw = true → QueueMove s .activate { s with isActive := true }
  | starts : s.isActive = true → s.pc = .created →
      QueueMove s .startThread { s with pc := .loopTest }
  | enters (c : StackbdCall) : s.lock = none →
      QueueMove s (.spinLock c) { s with lock := some (.entered c) }
  | calls {s' : StackbdQueue} : CallMove s s' → QueueMove s .call s'
  | runs {s' : StackbdQueue} : ThreadMove s s' → QueueMove s .thread s'
  | flags : s.stop = .running → s.pc ≠ .created →
      QueueMove s .setStop { s with stop := .flagged }
  | wakesStop : s.stop = .flagged →
      QueueMove s .wakeStop { s with stop := .waked, interruptible := false }

lemma queueMove_of {e : StackbdEvent} (h : stackbdStep s e = some s') : QueueMove s e s' := by
  cases e with
  | openDisk =>
    cases h
    exact .opens
  | activate =>
    obtain ⟨hraw, hs⟩ := Option.ite_none_right_eq_some.mp h
    cases hs
    exact .activates hraw
  | startThread =>
    simp only [stackbdStep] at h
    split at h
    · next hactive hpc =>
      cases h
      exact .starts hactive hpc
    · cases h
  | spinLock c =>
    simp only [stackbdStep] at h
    split at h
    · next hlock =>
      cases h
      exact .enters c hlock
    · cases h
  | call => exact .calls (callMove_of h)
  | thread => exact .runs (threadMove_of h)
  | setStop =>
    simp only [stackbdStep] at h
    split at h
    · cases h
    · next hstop hpc =>
      cases h
      exact .flags hstop hpc
    · cases h
  | wakeStop =>
    obtain ⟨hstop, hs⟩ := Option.ite_none_right_eq_some.mp h
    cases hs
    exact .wakesStop hstop

end Moves

section Lock

/-- The thread is between `spin_lock_irq` and `spin_unlock_irq`. -/
def inLock : ThreadPc → Bool
  | .locked | .spinUnlock _ => true
  | _ => false

/-- The thread has the lock exactly there. -/
def LockInv (s : StackbdQueue) : Prop := inLock s.pc = true ↔ s.lock = some .thread

lemma LockInv.step {e : StackbdEvent} (h : LockInv s) (hs : QueueMove s e s') : LockInv s' := by
  cases hs with
  | calls hcall => cases hcall <;> simp_all [LockInv]
  | runs hthread => cases hthread <;> simp_all [LockInv, inLock]
  | _ => simp_all [LockInv, inLock]

end Lock

section Simulation

/-- The thread takes a bio from the list without effect on the queue; the queue serves it when
it is submitted. -/
lemma diskFifo_thread (h : LockInv s) (hs : ThreadMove s s') :
    undecided s'.lock = undecided s.lock ∧
      (diskFifo s' = diskFifo s ∨ fifoStep (diskFifo s) .serve = some (diskFifo s')) := by
  cases hs with
  | submits b hpc => exact ⟨rfl, .inr (by simp [diskFifo, fifoStep, carried, hpc])⟩
  | locks hpc hlock =>
    simp [diskFifo, carried, toAdd, toFail, undecided, hpc, hlock]
  | unlocks hpc | carries b hpc =>
    have hlock : s.lock = some .thread := h.mp (by rw [hpc]; rfl)
    simp [diskFifo, carried, toAdd, toFail, undecided, hpc, hlock]
  | _ => simp_all [diskFifo, carried]

lemma diskFifo_call (hs : CallMove s s') :
    (undecided s'.lock = undecided s.lock ∧ diskFifo s' = diskFifo s) ∨
      ∃ c, undecided s.lock = [c] ∧ undecided s'.lock = [] ∧
        fifoStep (diskFifo s) (.call c) = some (diskFifo s') := by
  cases hs with
  | refuses c b hlock hready hb =>
    refine .inr ⟨c, by rw [hlock]; rfl, rfl, ?_⟩
    simp [fifoStep, diskFifo, hready, hb, hlock, toAdd, toFail]
  | accepts c bios hlock hready hbios =>
    refine .inr ⟨c, by rw [hlock]; rfl, rfl, ?_⟩
    simp [fifoStep, diskFifo, hready, hbios, hlock, toAdd, toFail]
  | adds b rest hlock => exact .inl ⟨by rw [hlock]; rfl, by simp [diskFifo, hlock, toAdd, toFail]⟩
  | wakes hlock | unlocks hlock | fails b hlock =>
    exact .inl ⟨by rw [hlock]; rfl, by simp [diskFifo, hlock, toAdd, toFail]⟩

lemma diskFifo_step {e : StackbdEvent} (h : LockInv s) (hs : QueueMove s e s') :
    ∃ acts, GuardedTrace fifoStep (fun _ _ => True) (diskFifo s) acts (diskFifo s') ∧
      undecided s.lock ++ lockCalls e = acts.flatMap fifoCalls ++ undecided s'.lock := by
  have hnone : diskFifo s' = diskFifo s →
      GuardedTrace fifoStep (fun _ _ => True) (diskFifo s) [] (diskFifo s') := by
    intro heq
    rw [heq]
    exact .nil _
  have hone : ∀ act, fifoStep (diskFifo s) act = some (diskFifo s') →
      GuardedTrace fifoStep (fun _ _ => True) (diskFifo s) [act] (diskFifo s') :=
    fun act hact => .cons trivial hact (.nil _)
  cases hs with
  | opens =>
    rcases Bool.eq_false_or_eq_true s.isActive with hactive | hactive
    · exact ⟨[.ready], hone .ready (by simp [diskFifo, fifoStep, hactive]), by
        simp [lockCalls, fifoCalls]⟩
    · exact ⟨[], hnone (by simp [diskFifo, hactive]), by simp [lockCalls]⟩
  | activates hraw =>
    exact ⟨[.ready], hone .ready (by simp [diskFifo, fifoStep, hraw]), by
      simp [lockCalls, fifoCalls]⟩
  | starts hactive hpc =>
    exact ⟨[], hnone (by simp [diskFifo, carried, hpc]), by simp [lockCalls]⟩
  | enters c hlock =>
    exact ⟨[], hnone (by simp [diskFifo, toAdd, toFail, hlock]), by
      simp [lockCalls, undecided, hlock]⟩
  | calls hcall =>
    obtain ⟨hsame, heq⟩ | ⟨c, hc, hdecided, hact⟩ := diskFifo_call hcall
    · exact ⟨[], hnone heq, by simp [lockCalls, hsame]⟩
    · exact ⟨[.call c], hone _ hact, by simp [lockCalls, fifoCalls, hc, hdecided]⟩
  | runs hthread =>
    obtain ⟨hsame, heq | hact⟩ := diskFifo_thread h hthread
    · exact ⟨[], hnone heq, by simp [lockCalls, hsame]⟩
    · exact ⟨[.serve], hone _ hact, by simp [lockCalls, fifoCalls, hsame]⟩
  | flags | wakesStop => exact ⟨[], hnone rfl, by simp [lockCalls]⟩

/-- In every interleaving the list and the thread are a FIFO to which the calls append all their
bios at once, in the order in which they take the lock. -/
theorem stackbd_refines_fifo (events : List StackbdEvent) (s : StackbdQueue)
    (h : GuardedTrace stackbdStep (fun _ _ => True) stackbdQueueInit events s) :
    ∃ acts, GuardedTrace fifoStep (fun _ _ => True) fifoInit acts (diskFifo s) ∧
      events.flatMap lockCalls = acts.flatMap fifoCalls ++ undecided s.lock := by
  have hinit : LockInv stackbdQueueInit := by simp [LockInv, inLock, stackbdQueueInit]
  refine h.simulation diskFifo lockCalls fifoCalls (fun s => undecided s.lock) ?_ hinit
  intro s e s' hinv _ hs
  have hmove := queueMove_of hs
  exact ⟨hinv.step hmove, diskFifo_step hinv hmove⟩

/-- A bio of one page. -/
def pageBio (addr : Nat) : Bio := ⟨[pageAt addr], by simp⟩

/-- The read of a request of two bios. -/
def twoBios : StackbdCall := .makeRequest2 ⟨[pageBio 0, pageBio 8192], by simp⟩

/-- One call comes before the disk is open. The thread sees the first of two clones before the
call has added the second one, and waits for the lock. It has the first clone, and the list has
the second one, when the mirror of a context is added. -/
def overlappingCalls : List StackbdEvent :=
  [.spinLock (.makeRequest5 (pageBio 0)), .call, .call, .openDisk, .activate, .startThread,
    .spinLock twoBios, .call, .call, .thread, .thread, .call, .call, .call, .thread, .thread,
    .thread, .spinLock (.makeRequest5 (pageBio 4096)), .call, .thread, .call]

theorem stackbd_refines_fifo_overlapping :
    ∃ s, GuardedTrace stackbdStep (fun _ _ => True) stackbdQueueInit overlappingCalls s ∧
      (diskFifo s).errors = [.mirror (pageBio 0)] ∧ (diskFifo s).submitted.length = 1 ∧
      (diskFifo s).queue.length = 2 ∧
      (diskFifo s).queue.getLast? = some (.mirror (pageBio 4096)) ∧
      ∃ acts, GuardedTrace fifoStep (fun _ _ => True) fifoInit acts (diskFifo s) ∧
        acts.flatMap fifoCalls =
          [.makeRequest5 (pageBio 0), twoBios, .makeRequest5 (pageBio 4096)] := by
  obtain ⟨s, hs, herrors, hsubmitted, hlength, hlast, hlock⟩ : ∃ s,
      runActions stackbdStep stackbdQueueInit overlappingCalls = some s ∧
      (diskFifo s).errors = [.mirror (pageBio 0)] ∧ (diskFifo s).submitted.length = 1 ∧
      (diskFifo s).queue.length = 2 ∧
      (diskFifo s).queue.getLast? = some (.mirror (pageBio 4096)) ∧ undecided s.lock = [] :=
    ⟨_, rfl, rfl, rfl, rfl, rfl, rfl⟩
  have htrace : GuardedTrace stackbdStep (fun _ _ => True) stackbdQueueInit overlappingCalls s :=
    .of_runActions (fun _ _ _ => trivial) hs
  obtain ⟨acts, hacts, hcalls⟩ := stackbd_refines_fifo _ s htrace
  rw [hlock, List.append_nil] at hcalls
  exact ⟨s, htrace, herrors, hsubmitted, hlength, hlast, acts, hacts, hcalls.symm⟩

lemma makeRequest_append (callback : EndIo) (t : Stackbd) (req : Request)
    (hraw : t.bdevRaw = true) (hactive : t.isActive = true) :
    (makeRequest callback t req).map (fun r => r.1.bioList) =
      (makeRequest callback ⟨true, true, []⟩ req).map fun r => t.bioList ++ r.1.bioList := by
  rw [makeRequest_ready hraw hactive, makeRequest_ready rfl rfl, cloneLoop_eq, cloneLoop_eq]
  split_ifs
  · simp only [Option.bind_some]
    cases req.bios.drop (req.nrPhysSegments - 1) <;> simp
  · rfl

/-- A call of the queue is the function on the list that models it. -/
theorem fifo_call_makeRequest (t : Stackbd) (req : Request) (hraw : t.bdevRaw = true)
    (hactive : t.isActive = true) (q : DiskFifo) (hready : q.ready = true)
    (hqueue : q.queue = t.bioList.map .clone) :
    (fifoStep q (.call (.makeRequest2 req))).map DiskFifo.queue =
        (makeRequest2 t req).map (fun r => r.1.bioList.map .clone) ∧
      (fifoStep q (.call (.makeRequest4 req))).map DiskFifo.queue =
        (makeRequest4 t req).map (fun r => r.1.bioList.map .clone) := by
  have hcall : ∀ callback, (makeRequest callback t req).map (fun r => r.1.bioList.map .clone) =
      (makeRequest callback ⟨true, true, []⟩ req).map
        fun r => q.queue ++ r.1.bioList.map .clone := by
    intro callback
    have happend := congrArg (Option.map (List.map QueuedBio.clone))
      (makeRequest_append callback t req hraw hactive)
    rw [Option.map_map, Option.map_map] at happend
    simpa [Function.comp_def, hqueue] using happend
  constructor
  · simp only [fifoStep, hready, if_true, StackbdCall.bios, Option.map_map]
    exact (hcall .endIo).symm
  · simp only [fifoStep, hready, if_true, StackbdCall.bios, Option.map_map]
    exact (hcall .endIo2).symm

end Simulation

section Wake

/-- What must hold while the thread sleeps: `kthread_stop` has not woken it, and the list is
empty or the call that adds to it will wake it. -/
def MaySleep (s : StackbdQueue) : Prop :=
  s.stop ≠ .waked ∧ (s.bioList = [] ∨ ∃ rest, s.lock = some (.adding rest))

/-- What the thread relies on where it is. -/
def WakeInv (s : StackbdQueue) : Prop :=
  match s.pc with
  | .schedule => s.interruptible = true → MaySleep s
  | .spinLock | .locked => s.waitDone = true
  | .spinUnlock none | .exited => s.stop ≠ .running
  | _ => True

lemma waitDone_eq_false (h : s.waitDone = false) : s.stop = .running ∧ s.bioList = [] := by
  simpa [StackbdQueue.waitDone] using h

lemma WakeInv.thread (h : WakeInv s) (hs : ThreadMove s s') : WakeInv s' := by
  cases hs with
  | exits hpc hstop => exact hstop
  | skipsWait hpc hdone | leaves hpc hdone => exact hdone
  | sleeps hpc hdone =>
    obtain ⟨hstop, hnil⟩ := waitDone_eq_false hdone
    intro _
    exact ⟨by simp [hstop], .inl hnil⟩
  | locks hpc hlock =>
    rw [WakeInv, hpc] at h
    exact h
  | findsNone hpc hnil =>
    rw [WakeInv, hpc] at h
    have hstop : s.stop ≠ .running := by simpa [StackbdQueue.waitDone, hnil] using h
    exact hstop
  | _ => trivial

lemma WakeInv.stay (h : WakeInv s) (hpc : s'.pc = s.pc)
    (hstop : s.stop ≠ .running → s'.stop ≠ .running)
    (hlist : s.bioList ≠ [] → s'.bioList ≠ [])
    (hsleep : s'.interruptible = true → s.interruptible = true ∧ (MaySleep s → MaySleep s')) :
    WakeInv s' := by
  have hdone : s.waitDone = true → s'.waitDone = true := by
    simp only [StackbdQueue.waitDone, Bool.or_eq_true, decide_eq_true_eq, Bool.not_eq_true',
      List.isEmpty_eq_false_iff]
    exact Or.imp hstop hlist
  unfold WakeInv at h ⊢
  rw [hpc]
  split
  · next hsched =>
    simp only [hsched] at h
    intro hint
    obtain ⟨hold, hmay⟩ := hsleep hint
    exact hmay (h hold)
  all_goals next hold =>
    simp only [hold] at h
    first
      | exact hdone h
      | exact hstop h
      | trivial

lemma MaySleep.nil (h : MaySleep s) (hlock : ∀ rest, s.lock ≠ some (.adding rest)) :
    s.stop ≠ .waked ∧ s.bioList = [] :=
  ⟨h.1, h.2.resolve_right fun ⟨rest, hrest⟩ => hlock rest hrest⟩

lemma WakeInv.call (h : WakeInv s) (hs : CallMove s s') : WakeInv s' := by
  cases hs with
  | adds b rest hlock =>
    exact h.stay rfl id (fun _ => by simp) fun hint => ⟨hint, fun hmay => ⟨hmay.1, .inr ⟨_, rfl⟩⟩⟩
  | wakes hlock => exact h.stay rfl id id (by rintro ⟨⟩)
  | accepts c bios hlock | refuses c b hlock | unlocks hlock | fails b hlock =>
    refine h.stay rfl id id fun hint => ⟨hint, fun hmay => ?_⟩
    obtain ⟨hstop, hnil⟩ := hmay.nil (by simp [hlock])
    exact ⟨hstop, .inl hnil⟩

lemma WakeInv.step {e : StackbdEvent} (h : WakeInv s) (hs : QueueMove s e s') : WakeInv s' := by
  cases hs with
  | calls hcall => exact h.call hcall
  | runs hthread => exact h.thread hthread
  | starts hactive hpc => trivial
  | opens | activates hraw => exact h.stay rfl id id fun hint => ⟨hint, id⟩
  | enters c hlock =>
    refine h.stay rfl id id fun hint => ⟨hint, fun hmay => ?_⟩
    obtain ⟨hstop, hnil⟩ := hmay.nil (by simp [hlock])
    exact ⟨hstop, .inl hnil⟩
  | flags hrun hpc =>
    exact h.stay rfl (by simp) id fun hint => ⟨hint, fun hmay => ⟨by simp, hmay.2⟩⟩
  | wakesStop hflag => exact h.stay rfl (by simp) id (by rintro ⟨⟩)

end Wake

section Service

/-- Calls that do not dereference NULL: they have bios to add, or a bio to fail if the device is
not ready. -/
def callsAllowed (s : StackbdQueue) : StackbdEvent → Prop
  | .spinLock c => c.bios ≠ none ∧ ((s.bdevRaw && s.isActive) = false → c.aborted ≠ none)
  | _ => True

instance (s : StackbdQueue) (e : StackbdEvent) : Decidable (callsAllowed s e) :=
  match e with
  | .spinLock _ => inferInstanceAs (Decidable (_ ∧ _))
  | .openDisk | .activate | .startThread | .call | .thread | .setStop | .wakeStop =>
    .isTrue trivial

/-- The steps that serve what is there: no new call, no `kthread_stop`. -/
def serving : StackbdEvent → Bool
  | .startThread | .call | .thread | .wakeStop => true
  | _ => false

/-- What the call with the lock will have added. -/
def promised (s : StackbdQueue) : List QueuedBio :=
  match s.lock with
  | some (.entered c) => if s.bdevRaw && s.isActive then c.bios.getD [] else []
  | some (.adding rest) => rest
  | _ => []

/-- The bios that have been accepted and not submitted, in the order of the queue. -/
def unsubmitted (s : StackbdQueue) : List QueuedBio := carried s.pc ++ s.bioList ++ promised s

/-- The invariants of the queue. -/
structure QueueInv (s : StackbdQueue) : Prop where
  lock : LockInv s
  wake : WakeInv s
  /-- The call before its checks can pass one of them. -/
  entered : ∀ c, s.lock = some (.entered c) →
    c.bios ≠ none ∧ ((s.bdevRaw && s.isActive) = false → c.aborted ≠ none)
  /-- Before `stackbd_start` nothing is queued. -/
  inactive : s.isActive = false → s.pc = .created ∧ s.bioList = [] ∧ toAdd s.lock = []
  started : s.stop ≠ .running → s.pc ≠ .created

lemma queueInv_init : QueueInv stackbdQueueInit where
  lock := by simp [LockInv, inLock, stackbdQueueInit]
  wake := trivial
  entered c := by rintro ⟨⟩
  inactive _ := ⟨rfl, rfl, rfl⟩
  started hstop := absurd rfl hstop

lemma QueueInv.step {e : StackbdEvent} (h : QueueInv s) (hok : callsAllowed s e)
    (hs : QueueMove s e s') : QueueInv s' := by
  refine ⟨h.lock.step hs, h.wake.step hs, ?_, ?_, ?_⟩
  · have hold := h.entered
    cases hs with
    | enters c hlock =>
      rintro c' ⟨⟩
      exact hok
    | calls hcall => cases hcall <;> simp_all
    | runs hthread => cases hthread <;> simp_all
    | _ => simp_all
  · have hold := h.inactive
    cases hs with
    | calls hcall => cases hcall <;> simp_all [toAdd]
    | runs hthread => cases hthread <;> simp_all [toAdd]
    | _ => simp_all [toAdd]
  · have hold := h.started
    cases hs with
    | calls hcall => cases hcall <;> exact hold
    | runs hthread => cases hthread <;> simp_all
    | _ => simp_all

/-- The steps that the thread has before it, if nothing is added; a thread that has been woken
while it listens goes around once more. -/
def threadWork (s : StackbdQueue) : Nat :=
  if s.stop = .running then
    match s.pc with
    | .created => 8
    | .spinUnlock _ => 7
    | .ioFn _ => 6
    | .loopTest => 5
    | .waitTest => 4
    | .prepareToWait => 3
    | .waitRetest => if s.interruptible then 2 else 5
    | .schedule => if s.interruptible then 1 else 4
    | .spinLock => 1
    | .locked | .exited => 0
  else
    match s.pc with
    | .created => 9
    | .schedule => 8
    | .prepareToWait => 7
    | .waitTest | .waitRetest => 6
    | .spinLock => 5
    | .locked => 4
    | .spinUnlock (some _) => 3
    | .spinUnlock none | .ioFn _ => 2
    | .loopTest => 1
    | .exited => 0

def callWork : Option LockHolder → Nat
  | some (.entered _) => 7
  | some (.adding _) => 6
  | some .waked | some (.aborting _) => 1
  | _ => 0

/-- A bound on the steps that serve the queue. -/
def queueWork (s : StackbdQueue) : Nat :=
  13 * (promised s).length + 12 * s.bioList.length + callWork s.lock + threadWork s +
    if s.stop = .flagged then 1 else 0

lemma thread_frame (h : LockInv s) (hs : ThreadMove s s') :
    promised s' = promised s ∧ callWork s'.lock = callWork s.lock ∧ s'.stop = s.stop := by
  cases hs with
  | locks hpc hlock => simp [promised, callWork, hlock]
  | unlocks hpc | carries b hpc =>
    have hlock : s.lock = some .thread := h.mp (by rw [hpc]; rfl)
    simp [promised, callWork, hlock]
  | _ => exact ⟨rfl, rfl, rfl⟩

lemma threadWork_lt (h : WakeInv s) (hs : ThreadMove s s') :
    12 * s'.bioList.length + threadWork s' < 12 * s.bioList.length + threadWork s := by
  by_cases hstop : s.stop = .running
  · cases hs with
    | exits hpc hstop' => exact absurd hstop hstop'
    | findsNone hpc hnil =>
      rw [WakeInv, hpc] at h
      simp [StackbdQueue.waitDone, hstop, hnil] at h
    | sleeps hpc hdone =>
      cases hint : s.interruptible <;> simp [threadWork, hstop, hpc, hint]
    | pops b rest hpc hcons =>
      simp only [threadWork, hstop, hpc, hcons, List.length_cons, if_true]
      omega
    | leaves hpc hdone =>
      cases hint : s.interruptible <;> simp [threadWork, hstop, hpc, hint]
    | _ => simp [threadWork, *]
  · cases hs with
    | goesOn hpc hstop' => exact absurd hstop' hstop
    | waits hpc hdone | sleeps hpc hdone => exact absurd (waitDone_eq_false hdone).1 hstop
    | pops b rest hpc hcons =>
      simp only [threadWork, hstop, hpc, hcons, List.length_cons, if_false]
      omega
    | _ => simp [threadWork, *]

lemma queueWork_thread (h : QueueInv s) (hs : ThreadMove s s') : queueWork s' < queueWork s := by
  obtain ⟨hpromised, hcall, hstop⟩ := thread_frame h.lock hs
  have hlt := threadWork_lt h.wake hs
  rw [queueWork, queueWork, hpromised, hcall, hstop]
  omega

lemma threadWork_wake (lock : Option LockHolder) :
    threadWork { s with interruptible := false, lock := lock } ≤ threadWork s + 3 := by
  cases hpc : s.pc <;> by_cases hstop : s.stop = .running <;> cases hint : s.interruptible <;>
    simp [threadWork, hpc, hstop, hint]

lemma queueWork_call (hs : CallMove s s') : queueWork s' < queueWork s := by
  cases hs with
  | refuses c b hlock hready hb => simp [queueWork, promised, callWork, threadWork, hlock, hready]
  | accepts c bios hlock hready hbios =>
    simp [queueWork, promised, callWork, threadWork, hlock, hready, hbios]
  | adds b rest hlock =>
    simp [queueWork, promised, callWork, threadWork, hlock]
    omega
  | wakes hlock =>
    have hle := threadWork_wake (s := s) (some .waked)
    simp only [queueWork, promised, callWork, hlock]
    omega
  | unlocks hlock | fails b hlock => simp [queueWork, promised, callWork, threadWork, hlock]

lemma queueWork_lt {e : StackbdEvent} (h : QueueInv s) (he : serving e = true)
    (hs : QueueMove s e s') : queueWork s' < queueWork s := by
  cases hs with
  | calls hcall => exact queueWork_call hcall
  | runs hthread => exact queueWork_thread h hthread
  | starts hactive hpc =>
    by_cases hstop : s.stop = .running <;>
      simp [queueWork, promised, threadWork, hpc, hstop]
  | wakesStop hflag =>
    have hstop : threadWork { s with stop := .waked, interruptible := false } = threadWork s := by
      simp [threadWork, hflag]
    simp [queueWork, promised, hstop, hflag]
  | _ => cases he

lemma unsubmitted_step {e : StackbdEvent} (h : QueueInv s) (he : serving e = true)
    (hs : QueueMove s e s') :
    s'.submitted ++ unsubmitted s' = s.submitted ++ unsubmitted s := by
  cases hs with
  | calls hcall => cases hcall <;> simp_all [unsubmitted, promised]
  | runs hthread =>
    have hpromised := (thread_frame h.lock hthread).1
    cases hthread <;> simp_all [unsubmitted, carried]
  | starts hactive hpc => simp [unsubmitted, promised, carried, hpc]
  | wakesStop hflag => rfl
  | _ => cases he

lemma QueueInv.lock_free (h : QueueInv s)
    (hstuck : ∀ e, serving e = true → stackbdStep s e = none) : s.lock = none := by
  have hcall : stackbdMakeRequest s = none := hstuck .call rfl
  cases hlock : s.lock with
  | none => rfl
  | some holder =>
    cases holder with
    | thread =>
      have hpc := h.lock.mpr hlock
      have hthread : stackbdThreadfn s = none := hstuck .thread rfl
      revert hthread
      fun_cases stackbdThreadfn s <;> simp_all [inLock]
    | entered c =>
      obtain ⟨hbios, haborted⟩ := h.entered c hlock
      simp only [stackbdMakeRequest, hlock] at hcall
      split_ifs at hcall with hready
      · exact absurd (Option.map_eq_none_iff.mp hcall) (haborted (Bool.and_eq_false_iff.mpr hready))
      · exact absurd (Option.map_eq_none_iff.mp hcall) hbios
    | adding rest => cases rest <;> simp [stackbdMakeRequest, hlock] at hcall
    | waked | aborting b => simp [stackbdMakeRequest, hlock] at hcall

/-- Where no step of the service is left the queue is empty, unless the thread was stopped. -/
lemma QueueInv.idle (h : QueueInv s)
    (hstuck : ∀ e, serving e = true → stackbdStep s e = none) :
    (s.stop = .running ∧ unsubmitted s = []) ∨ (s.stop ≠ .running ∧ s.pc = .exited) := by
  have hlock := h.lock_free hstuck
  have hthread : stackbdThreadfn s = none := hstuck .thread rfl
  have hstart := hstuck .startThread rfl
  have hstop := hstuck .wakeStop rfl
  revert hthread
  fun_cases stackbdThreadfn s with
  | case1 hpc =>
    -- the thread has not been started
    intro _
    have hinactive : s.isActive = false := by
      cases hactive : s.isActive with
      | false => rfl
      | true => simp [stackbdStep, hpc, hactive] at hstart
    have hrun : s.stop = .running := by
      by_contra hne
      exact h.started hne hpc
    obtain ⟨-, hnil, -⟩ := h.inactive hinactive
    exact .inl ⟨hrun, by simp [unsubmitted, carried, promised, hpc, hnil, hlock]⟩
  | case2 hpc =>
    intro _
    have hwake := h.wake
    rw [WakeInv, hpc] at hwake
    exact .inr ⟨hwake, hpc⟩
  | case8 hpc hint =>
    -- the thread sleeps: no wake-up is to come
    intro _
    have hwake := h.wake
    rw [WakeInv, hpc] at hwake
    obtain ⟨hwaked, hnil⟩ := (hwake hint).nil (by simp [hlock])
    have hrun : s.stop = .running := by
      cases hcase : s.stop with
      | running => rfl
      | flagged => simp [stackbdStep, hcase] at hstop
      | waked => exact absurd hcase hwaked
    exact .inl ⟨hrun, by simp [unsubmitted, carried, promised, hpc, hnil, hlock]⟩
  | case11 hpc holder hsome =>
    rw [hlock] at hsome
    cases hsome
  | _ => rintro ⟨⟩

/-- A stopped thread submits the bio that it has or is about to take, and no other. -/
def lastBio : ThreadPc → Nat
  | .loopTest | .spinUnlock none | .exited => 0
  | _ => 1

lemma lastBio_le (pc : ThreadPc) : lastBio pc ≤ 1 := by
  fun_cases lastBio pc <;> simp

/-- What serving keeps of the queue that it started with. -/
structure ServedFrom (s t : StackbdQueue) : Prop where
  inv : QueueInv t
  bios : t.submitted ++ unsubmitted t = s.submitted ++ unsubmitted s
  stop : t.stop = .running ↔ s.stop = .running
  last : s.stop ≠ .running →
    t.submitted.length + lastBio t.pc ≤ s.submitted.length + lastBio s.pc

lemma ServedFrom.step {e : StackbdEvent} {t t' : StackbdQueue} (h : ServedFrom s t)
    (he : serving e = true) (hs : stackbdStep t e = some t') : ServedFrom s t' := by
  have hmove := queueMove_of hs
  have hok : callsAllowed t e := by
    cases e with
    | spinLock c => cases he
    | _ => trivial
  refine ⟨h.inv.step hok hmove, (unsubmitted_step h.inv he hmove).trans h.bios, ?_, ?_⟩
  · rw [← h.stop]
    cases hmove with
    | calls hcall => cases hcall <;> rfl
    | runs hthread => cases hthread <;> rfl
    | starts hactive hpc => rfl
    | wakesStop hflag => simp [hflag]
    | _ => cases he
  · intro hstop
    refine le_trans ?_ (h.last hstop)
    have hstopped : t.stop ≠ .running := fun hrun => hstop (h.stop.mp hrun)
    cases hmove with
    | calls hcall => cases hcall <;> exact Nat.le_refl _
    | runs hthread => cases hthread <;> simp_all [lastBio]
    | starts hactive hpc => simp [lastBio]
    | wakesStop hflag => exact Nat.le_refl _
    | _ => cases he

/-- From every reachable state the queue is served in a bounded number of steps: no wake-up is
lost, and in the end every bio that has been accepted is submitted, in order. A thread that
`kthread_stop` has stopped ends after at most one more bio and leaves the others in the list. -/
theorem queued_bios_are_submitted (s : StackbdQueue)
    (h : GuardedRun stackbdStep callsAllowed stackbdQueueInit s) (served : List StackbdEvent)
    (s' : StackbdQueue)
    (hserved : GuardedTrace stackbdStep (fun _ e => serving e = true) s served s') :
    served.length ≤ queueWork s ∧
    ((∀ e, serving e = true → stackbdStep s' e = none) →
      (s.stop = .running → s'.submitted = s.submitted ++ unsubmitted s) ∧
      (s.stop ≠ .running → s'.pc = .exited ∧
        s'.submitted ++ s'.bioList = s.submitted ++ unsubmitted s ∧
        s'.submitted.length ≤ s.submitted.length + 1)) := by
  have hinv : QueueInv s := h.invariant queueInv_init
    fun s e s' hs hok hstep => hs.step hok (queueMove_of hstep)
  have hstart : ServedFrom s s := ⟨hinv, rfl, Iff.rfl, fun _ => Nat.le_refl _⟩
  have hend : ServedFrom s s' :=
    hserved.invariant (fun t e t' ht he hstep => ht.step he hstep) hstart
  refine ⟨?_, fun hstuck => ?_⟩
  · have hle := hserved.length_le queueWork (fun t e t' ht he hstep =>
      ⟨ht.step he hstep, queueWork_lt ht.inv he (queueMove_of hstep)⟩) hstart
    omega
  have hbios := hend.bios
  have hlock := hend.inv.lock_free hstuck
  obtain ⟨hrun, hnil⟩ | ⟨hstop, hpc⟩ := hend.inv.idle hstuck
  · rw [hnil, List.append_nil] at hbios
    exact ⟨fun _ => hbios, fun hstop => absurd (hend.stop.mp hrun) hstop⟩
  · refine ⟨fun hrun => absurd (hend.stop.mpr hrun) hstop, fun hstop' => ⟨hpc, ?_, ?_⟩⟩
    · simpa [unsubmitted, carried, promised, hpc, hlock] using hbios
    · have hlast := hend.last hstop'
      have hone := lastBio_le s.pc
      omega

/-- Two clones are in the list when the thread is stopped: one is submitted, the other stays. -/
theorem queued_bios_are_submitted_stopped :
    ∃ s s', GuardedRun stackbdStep callsAllowed stackbdQueueInit s ∧
      GuardedTrace stackbdStep (fun _ e => serving e = true) s
        (List.replicate 6 .thread ++ [.wakeStop]) s' ∧
      s'.pc = .exited ∧ s'.bioList.length = 1 ∧
      s'.submitted ++ s'.bioList = s.submitted ++ unsubmitted s ∧
      s'.submitted.length ≤ s.submitted.length + 1 := by
  obtain ⟨s, hs⟩ : ∃ s, runChecked stackbdStep (fun s e => decide (callsAllowed s e))
      stackbdQueueInit [.openDisk, .activate, .startThread, .spinLock twoBios, .call, .call, .call,
        .call, .call, .thread, .setStop] = some s := ⟨_, rfl⟩
  obtain ⟨s', hs', hstop, hlen, hstuck⟩ : ∃ s',
      runActions stackbdStep s (List.replicate 6 .thread ++ [.wakeStop]) = some s' ∧
      s.stop = .flagged ∧ s'.bioList.length = 1 ∧
      ∀ e, serving e = true → stackbdStep s' e = none := by
    cases hs
    refine ⟨_, rfl, rfl, rfl, fun e he => ?_⟩
    cases e <;> first | rfl | cases he
  have hrun : GuardedRun stackbdStep callsAllowed stackbdQueueInit s :=
    runChecked_decide_reaches hs
  have hserved : GuardedTrace stackbdStep (fun _ e => serving e = true) s
      (List.replicate 6 .thread ++ [.wakeStop]) s' := by
    refine .of_runActions (fun e he _ => ?_) hs'
    rw [List.mem_append, List.mem_replicate, List.mem_singleton] at he
    rcases he with ⟨-, rfl⟩ | rfl <;> rfl
  obtain ⟨hpc, hbios, hone⟩ :=
    ((queued_bios_are_submitted s hrun _ s' hserved).2 hstuck).2 (by simp [hstop])
  exact ⟨s, s', hrun, hserved, hpc, hlen, hbios, hone⟩

end Service

end DisStore.Proofs
