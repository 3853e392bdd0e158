import Mathlib.Tactic

/-!
# The paging simulator

The simulator of `test/simulation/sim_page.h`: a page table whose resident entries form
a clock ring, a byte-addressed physical memory and a swap backend. Pointers into the
page table are kept as indices. An access outside the page table, the physical memory or
the remote region has no result.
-/

namespace DisStore

/-- `PAGE_SIZE` -/
def pageSize : Nat := 4096

/-- `index(addr)` -/
def pageIndex (addr : Nat) : Nat := addr / pageSize

/-- `offset(addr)` -/
def pageOffset (addr : Nat) : Nat := addr % pageSize

/-- `address(frame)`, in 32-bit unsigned arithmetic. -/
def frameAddress (frame : Nat) : Nat := frame * pageSize % 2 ^ 32

/-- `page_entry`: `clear` is -1 for a page that is not resident, otherwise the reference
bit of the clock. -/
structure PageEntry where
  pframe : Nat
  cnext : Nat
  clear : Int
  dirty : Int

/-- The bytes of one page, by their offset. -/
abbrev PageBytes := Nat → UInt8

/-- The swap backends: one `<n>.swap` file for each flushed page (`DEVICE` 1 to 3), or one
remote region of `size` bytes (`DEVICE` 4). -/
inductive SwapDevice where
  | files (swap : Nat → Option PageBytes)
  | remote (size : Nat) (mem : Nat → UInt8)

/-- What `page_load` obtains for page `vframe`. A file that does not exist reads as zeros. -/
def SwapDevice.fetch : SwapDevice → Nat → Option PageBytes
  | .files swap, vframe =>
    match swap vframe with
    | some bytes => some bytes
    | none => some fun _ => 0
  | .remote size mem, vframe =>
    if frameAddress vframe + pageSize ≤ size then
      some fun k => mem (frameAddress vframe + k)
    else none

/-- What `page_flush` leaves behind after writing `bytes` for page `vframe`. -/
def SwapDevice.store : SwapDevice → Nat → PageBytes → Option SwapDevice
  | .files swap, vframe, bytes => some (.files (Function.update swap vframe (some bytes)))
  | .remote size mem, vframe, bytes =>
    if frameAddress vframe + pageSize ≤ size then
      some (.remote size fun a =>
        if frameAddress vframe ≤ a ∧ a < frameAddress vframe + pageSize then
          bytes (a - frameAddress vframe)
        else mem a)
    else none

structure SimState where
  physMemSize : Nat
  physMem : Nat → UInt8
  numPages : Nat
  pgtable : Nat → PageEntry
  lastC : Nat
  currC : Nat
  swap : SwapDevice

/-- `init_phys_mem` followed by `init_page_table`. -/
def simInit (physMemSize virMemSize : UInt32) (swap : SwapDevice) : SimState :=
  let numPages := virMemSize.toNat / pageSize
  let initNp := physMemSize.toNat / pageSize
  { physMemSize := physMemSize.toNat
    physMem := fun _ => 0
    numPages := numPages
    pgtable := fun i =>
      if i < initNp then ⟨i, (i + 1) % initNp, 1, 0⟩ else ⟨0, 0, -1, 0⟩
    lastC := initNp - 1
    currC := 0
    swap := swap }

/-- Assigns one page-table entry. -/
def SimState.setEntry (s : SimState) (v : Nat) (f : PageEntry → PageEntry) : SimState :=
  { s with pgtable := Function.update s.pgtable v (f (s.pgtable v)) }

/-- `page_load`: fills the frame from the swap backend. -/
def pageLoad (s : SimState) (vframe pframe : Nat) : Option SimState :=
  if frameAddress pframe + pageSize ≤ s.physMemSize then
    (s.swap.fetch vframe).map fun bytes =>
      { s with physMem := fun a =>
          if frameAddress pframe ≤ a ∧ a < frameAddress pframe + pageSize then
            bytes (a - frameAddress pframe)
          else s.physMem a }
  else none

/-- `page_flush`: writes the page's frame to the swap backend. -/
def pageFlush (s : SimState) (vframe : Nat) : Option SimState :=
  let pframe := (s.pgtable vframe).pframe
  if frameAddress pframe + pageSize ≤ s.physMemSize then
    (s.swap.store vframe fun k => s.physMem (frameAddress pframe + k)).map fun swap =>
      { s with swap := swap }
  else none

/-- The sweep loop of `page_fault`, with a bound on its iterations. -/
def clockSweep : Nat → SimState → Option SimState
  | 0, _ => none
  | fuel + 1, s =>
    if s.currC < s.numPages then
      if (s.pgtable s.currC).clear ≠ 0 then
        clockSweep fuel
          { s.setEntry s.currC (fun e => { e with clear := 0 }) with
            lastC := s.currC
            currC := (s.pgtable s.currC).cnext }
      else some s
    else none

/-- `if (curr_c->dirty == 1) page_flush(curr_c - pgtable);` -/
def flushDirty (s : SimState) (v : Nat) : Option SimState :=
  if (s.pgtable v).dirty = 1 then pageFlush s v else some s

/-- The last assignments of `page_fault`: `vframe` takes the place of `curr_c` behind
`last_c`. The entries are assigned in the order of the source, since `last_c` and `curr_c`
may coincide. -/
def spliceEntry (s : SimState) (vframe : Nat) : SimState :=
  let s := s.setEntry s.lastC fun e => { e with cnext := vframe }
  let s := s.setEntry vframe fun e => { e with pframe := (s.pgtable s.currC).pframe }
  let s := s.setEntry vframe fun e => { e with clear := 1, dirty := 0 }
  let s := s.setEntry vframe fun e => { e with cnext := (s.pgtable s.currC).cnext }
  { s with currC := vframe }

/-- The part of `page_fault` after the sweep has found its victim `curr_c`. -/
def pageReplace (s : SimState) (vframe : Nat) : Option SimState := do
  let s ← flushDirty s s.currC
  let s := s.setEntry s.currC fun e => { e with clear := -1 }
  let s ← pageLoad s vframe (s.pgtable s.currC).pframe
  guard (s.lastC < s.numPages)
  some (spliceEntry s vframe)

def pageFault (fuel : Nat) (s : SimState) (vframe : Nat) : Option SimState :=
  (clockSweep fuel s).bind fun s => pageReplace s vframe

/-- The common start of `get` and `put`: fault the page in when it is not resident. -/
def pageTouch (fuel : Nat) (s : SimState) (vframe : Nat) : Option SimState :=
  if vframe < s.numPages then
    if (s.pgtable vframe).clear = -1 then pageFault fuel s vframe else some s
  else none

/-- `get` -/
def simGet (fuel : Nat) (s : SimState) (vaddr : UInt32) : Option (UInt8 × SimState) := do
  let vframe := pageIndex vaddr.toNat
  let s ← pageTouch fuel s vframe
  let s := s.setEntry vframe fun e => { e with clear := 1 }
  let a := frameAddress (s.pgtable vframe).pframe + pageOffset vaddr.toNat
  if a < s.physMemSize then some (s.physMem a, s) else none

/-- `put` -/
def simPut (fuel : Nat) (s : SimState) (vaddr : UInt32) (c : UInt8) : Option SimState := do
  let vframe := pageIndex vaddr.toNat
  let s ← pageTouch fuel s vframe
  let s := s.setEntry vframe fun e => { e with dirty := 1, clear := 1 }
  let a := frameAddress (s.pgtable vframe).pframe + pageOffset vaddr.toNat
  if a < s.physMemSize then
    some { s with physMem := Function.update s.physMem a c }
  else none

inductive SimOp where
  | get (vaddr : UInt32)
  | put (vaddr : UInt32) (c : UInt8)
  deriving DecidableEq

def SimOp.vaddr : SimOp → UInt32
  | .get a => a
  | .put a _ => a

/-- One call, with the character that a `get` returns. -/
def simStep (fuel : Nat) (s : SimState) : SimOp → Option (Option UInt8 × SimState)
  | .get a => (simGet fuel s a).map fun r => (some r.1, r.2)
  | .put a c => (simPut fuel s a c).map fun s => (none, s)

/-- The state after one call. -/
def simNext (fuel : Nat) (s : SimState) (op : SimOp) : Option SimState :=
  (simStep fuel s op).map (·.2)

/-- The results of a sequence of calls, one for each call. -/
def simRun (fuel : Nat) : SimState → List SimOp → Option (List (Option UInt8))
  | _, [] => some []
  | s, op :: ops => do
    let (out, s) ← simStep fuel s op
    let outs ← simRun fuel s ops
    some (out :: outs)

end DisStore
