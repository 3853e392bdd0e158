import DisStore.Lib.CString
import DisStore.PageSim

/-!
# The client of the paging simulator

`main` of `test/simulation/client.c` with the helpers of `utils.h`: the sizes are read from the
arguments, every byte of the virtual memory is written once, and then random addresses of a
sliding window are read and written until the alarm. Unsigned numbers are below 2^32; a
division by zero has no result.
-/

namespace DisStore
open DisStore.Lib

/-- `atoi` of a string that starts with its digits, as the unsigned number it is converted to:
`strtol` stops at the largest `long`. -/
def atoi (s : List Char) : Nat := min (decimalValue (s.takeWhile Char.isDigit)) (2 ^ 63 - 1) % 2 ^ 32

/-- The factor of a suffix; the cases of the `switch` fall through. -/
def suffixUnit (c : Char) : Nat :=
  if c = 'G' then 1024 * 1024 * 1024
  else if c = 'M' then 1024 * 1024
  else if c = 'K' then 1024
  else 1

/-- `trans_size`; the empty string has no last character. -/
def transSize (csize : List Char) : Option UInt32 := do
  let last ← csize.getLast?
  if last.isDigit then some (UInt32.ofNat (atoi csize))
  else some (UInt32.ofNat (atoi csize.dropLast * suffixUnit last))

/-- The outcomes of `rand()`, at most `RAND_MAX`. -/
abbrev RandOutcomes := Nat → Fin (2 ^ 31)

/-- `rand_int`, with the number of calls of `rand()` so far. -/
def randInt (rand : RandOutcomes) (size pos : Nat) : Option (Nat × Nat) :=
  if size = 0 then none else some ((rand pos).val % size, pos + 1)

/-- `rand_range` -/
def randRange (rand : RandOutcomes) (base offset pos : Nat) : Option (Nat × Nat) :=
  if offset = 0 then none else some (((rand pos).val % offset + base) % 2 ^ 32, pos + 1)

/-- `rand_char` -/
def randChar (rand : RandOutcomes) (pos : Nat) : Option (UInt8 × Nat) := do
  let (r, pos) ← randInt rand 2 pos
  let base := if r ≠ 0 then '0'.toNat else 'a'.toNat
  let (offset, pos) ← randInt rand (if r ≠ 0 then 10 else 26) pos
  some (UInt8.ofNat (base + offset), pos)

/-- The fill loop from `i` on, for `n` more bytes. -/
def fillLoop (rand : RandOutcomes) : Nat → Nat → Nat → Option (List SimOp × Nat)
  | 0, _, pos => some ([], pos)
  | n + 1, i, pos => do
    let (c, pos) ← randChar rand pos
    let (ops, pos) ← fillLoop rand n (i + 1) pos
    some (.put (UInt32.ofNat i) c :: ops, pos)

/-- `offset` of `main`. -/
def windowSize : Nat := 1024 * 10

/-- `buf_size - offset` -/
def windowRoom (bufSize : UInt32) : Nat := (bufSize.toNat + (2 ^ 32 - windowSize)) % 2 ^ 32

/-- `if (rand_int(100) > 95) base = rand_int(buf_size - offset);` -/
def drawBase (rand : RandOutcomes) (bufSize : UInt32) (base pos : Nat) : Option (Nat × Nat) := do
  let (r, pos) ← randInt rand 100 pos
  if r > 95 then randInt rand (windowRoom bufSize) pos else some (base, pos)

/-- The call of `get` or `put` for address `i`. -/
def measureCall (rand : RandOutcomes) (i pos : Nat) : Option (SimOp × Nat) := do
  let (r, pos) ← randInt rand 100 pos
  if r < 90 then some (.get (UInt32.ofNat i), pos)
  else
    let (c, pos) ← randChar rand pos
    some (.put (UInt32.ofNat i) c, pos)

/-- `n` iterations of the measurement loop. -/
def measureLoop (rand : RandOutcomes) (bufSize : UInt32) : Nat → Nat → Nat → Option (List SimOp)
  | 0, _, _ => some []
  | n + 1, base, pos => do
    let (base, pos) ← drawBase rand bufSize base pos
    let (i, pos) ← randRange rand base windowSize pos
    let (op, pos) ← measureCall rand i pos
    let ops ← measureLoop rand bufSize n base pos
    some (op :: ops)

/-- `main` with `n` iterations of the measurement loop before the alarm: the simulator as it is
initialised and the calls that are made. -/
def clientMain (argv1 argv2 : List Char) (swap : SwapDevice) (rand : RandOutcomes) (n : Nat) :
    Option (SimState × List SimOp) := do
  let bufSize ← transSize argv2
  let physSize ← transSize argv1
  let (filled, pos) ← fillLoop rand bufSize.toNat 0 0
  let measured ← measureLoop rand bufSize n 0 pos
  some (simInit physSize bufSize swap, filled ++ measured)

end DisStore
