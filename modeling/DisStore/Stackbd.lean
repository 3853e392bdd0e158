import DisStore.Bio

/-!
# The queue of the backup disk

`stackbd_make_request` and its variants add bios to `stackbd.bio_list` under a spin lock and wake
`stackbd_threadfn`, which takes them from the list one at a time and gives them to the disk.
Any number of processors call; the step between two accesses to what they share with the thread
is one event. `wait_event_interruptible` is taken apart: it reads the list without the lock, and
between that read and `schedule` a call can add to the list and wake.
-/

namespace DisStore

/-- A bio in the list, by the functions that add it: clones of the bios of a request, the mirror
of a context that ends with `IS_stackbd_end_io3`, and a bio sent to the disk directly. -/
inductive QueuedBio where
  | clone (c : Clone)
  | mirror (b : Bio)
  | bio (b : Bio)

inductive StackbdCall where
  | makeRequest (b : Bio)
  | makeRequest2 (req : Request)
  | makeRequest3 (req : Request)
  | makeRequest4 (req : Request)
  | makeRequest5 (b : Bio)

/-- The bios that a call adds, `none` if it runs off the chain of the request. -/
def StackbdCall.bios : StackbdCall → Option (List QueuedBio)
  | .makeRequest b => some [.bio b]
  | .makeRequest2 req =>
    (DisStore.makeRequest2 ⟨true, true, []⟩ req).map fun r => r.1.bioList.map .clone
  -- the loop of this one goes over all segments and sets no callback
  | .makeRequest3 req =>
    (cloneLoop req.nrPhysSegments req.bios []).map fun r => r.2.map .clone
  | .makeRequest4 req =>
    (DisStore.makeRequest4 ⟨true, true, []⟩ req).map fun r => r.1.bioList.map .clone
  | .makeRequest5 b => some [.mirror b]

/-- The bio that the abort path gives to `bio_io_error`; it is NULL in the three functions that
clone. -/
def StackbdCall.aborted : StackbdCall → Option QueuedBio
  | .makeRequest b => some (.bio b)
  | .makeRequest5 b => some (.mirror b)
  | _ => none

/-- Who has `stackbd.lock`; a call is before the checks of the device, has bios to add and then
to wake the thread, has woken it, or aborts. -/
inductive LockHolder where
  | thread
  | entered (c : StackbdCall)
  | adding (rest : List QueuedBio)
  | waked
  | aborting (b : QueuedBio)

/-- Where `stackbd_threadfn` is. -/
inductive ThreadPc where
  | created
  -- `kthread_should_stop` of the loop
  | loopTest
  -- the first test of the condition in `wait_event_interruptible`
  | waitTest
  | prepareToWait
  -- the test after `prepare_to_wait`
  | waitRetest
  | schedule
  | spinLock
  | locked
  | spinUnlock (popped : Option QueuedBio)
  | ioFn (b : QueuedBio)
  | exited

/-- `kthread_stop` sets a flag and then wakes the thread. -/
inductive StopState where
  | running | flagged | waked
  deriving DecidableEq

/-- `struct stackbd_t`, its thread and what has become of the bios: given to
`generic_make_request`, or ended by `bio_io_error`. -/
structure StackbdQueue where
  bdevRaw : Bool
  isActive : Bool
  bioList : List QueuedBio
  lock : Option LockHolder
  pc : ThreadPc
  /-- The thread is on `req_event` and its state is `TASK_INTERRUPTIBLE`. -/
  interruptible : Bool
  stop : StopState
  submitted : List QueuedBio
  errors : List QueuedBio

def stackbdQueueInit : StackbdQueue where
  bdevRaw := false
  isActive := false
  bioList := []
  lock := none
  pc := .created
  interruptible := false
  stop := .running
  submitted := []
  errors := []

/-- The condition that the thread waits for. -/
def StackbdQueue.waitDone (s : StackbdQueue) : Bool :=
  s.stop ≠ .running || !s.bioList.isEmpty

/-- A step of `stackbd_threadfn`. -/
def stackbdThreadfn (s : StackbdQueue) : Option StackbdQueue :=
  match s.pc with
  | .created | .exited => none
  | .loopTest => some { s with pc := if s.stop = .running then .waitTest else .exited }
  | .waitTest => some { s with pc := if s.waitDone then .spinLock else .prepareToWait }
  | .prepareToWait => some { s with interruptible := true, pc := .waitRetest }
  | .waitRetest =>
    if s.waitDone then some { s with interruptible := false, pc := .spinLock }
    else some { s with pc := .schedule }
  -- the thread is not chosen again before it has been woken
  | .schedule => if s.interruptible then none else some { s with pc := .prepareToWait }
  | .spinLock =>
    match s.lock with
    | none => some { s with lock := some .thread, pc := .locked }
    | some _ => none
  | .locked =>
    match s.bioList with
    | [] => some { s with pc := .spinUnlock none }
    | b :: rest => some { s with bioList := rest, pc := .spinUnlock (some b) }
  | .spinUnlock none => some { s with lock := none, pc := .loopTest }
  | .spinUnlock (some b) => some { s with lock := none, pc := .ioFn b }
  | .ioFn b => some { s with submitted := s.submitted ++ [b], pc := .loopTest }

/-- A step of the call that has the lock. -/
def stackbdMakeRequest (s : StackbdQueue) : Option StackbdQueue :=
  match s.lock with
  | none | some .thread => none
  | some (.entered c) =>
    if s.bdevRaw = false ∨ s.isActive = false then
      c.aborted.map fun b => { s with lock := some (.aborting b) }
    else c.bios.map fun bios => { s with lock := some (.adding bios) }
  | some (.adding (b :: rest)) =>
    some { s with bioList := s.bioList ++ [b], lock := some (.adding rest) }
  -- `wake_up`
  | some (.adding []) => some { s with interruptible := false, lock := some .waked }
  | some .waked => some { s with lock := none }
  | some (.aborting b) => some { s with lock := none, errors := s.errors ++ [b] }

inductive StackbdEvent where
  -- `stackbd_start`: the disk is opened, `is_active` is set, the thread is started
  | openDisk | activate | startThread
  | spinLock (c : StackbdCall)
  | call
  | thread
  -- `kthread_stop`
  | setStop | wakeStop

def stackbdStep (s : StackbdQueue) : StackbdEvent → Option StackbdQueue
  | .openDisk => some { s with bdevRaw := true }
  | .activate => if s.bdevRaw then some { s with isActive := true } else none
  | .startThread =>
    match s.isActive, s.pc with
    | true, .created => some { s with pc := .loopTest }
    | _, _ => none
  | .spinLock c =>
    match s.lock with
    | none => some { s with lock := some (.entered c) }
    | some _ => none
  | .call => stackbdMakeRequest s
  | .thread => stackbdThreadfn s
  -- `IS_unregister_block_device` comes after `stackbd_start` has returned
  | .setStop =>
    match s.stop, s.pc with
    | .running, .created => none
    | .running, _ => some { s with stop := .flagged }
    | _, _ => none
  | .wakeStop =>
    if s.stop = .flagged then some { s with stop := .waked, interruptible := false } else none

end DisStore
