import DisStore.SimClient
import Mathlib.Data.List.TakeWhile
import Mathlib.Tactic

/-!
# The addresses of the simulation client

The fill loop passes every address below `buf_size`, the measurement loop the addresses of a
window of 10240 bytes. They all lie in the page table iff `buf_size` is a whole number of pages
and larger than the window.
-/

namespace DisStore.Proofs
open DisStore DisStore.Lib

variable {rand : RandOutcomes} {bufSize : UInt32}

lemma randInt_eq (rand : RandOutcomes) {size : Nat} (h : size ≠ 0) (pos : Nat) :
    randInt rand size pos = some ((rand pos).val % size, pos + 1) := if_neg h

lemma exists_randChar (rand : RandOutcomes) (pos : Nat) :
    ∃ c, randChar rand pos = some (c, pos + 2) := by
  have hsize : ∀ r : Nat, (if r ≠ 0 then 10 else 26) ≠ 0 := by
    intro r
    split <;> decide
  unfold randChar
  rw [randInt_eq rand (by decide)]
  simp only [Option.bind_eq_bind, Option.bind_some]
  rw [randInt_eq rand (hsize _)]
  exact ⟨_, rfl⟩

lemma exists_fillLoop (rand : RandOutcomes) (n i pos : Nat) :
    ∃ ops pos', fillLoop rand n i pos = some (ops, pos') ∧
      ops.map SimOp.vaddr = (List.range' i n).map UInt32.ofNat := by
  induction n generalizing i pos with
  | zero => exact ⟨[], pos, rfl, rfl⟩
  | succ n ih =>
    obtain ⟨c, hc⟩ := exists_randChar rand pos
    obtain ⟨ops, pos', hops, haddrs⟩ := ih (i + 1) (pos + 2)
    refine ⟨.put (UInt32.ofNat i) c :: ops, pos', ?_, ?_⟩
    · simp only [fillLoop, hc, hops, Option.bind_eq_bind, Option.bind_some]
    · rw [List.map_cons, haddrs, List.range'_succ, List.map_cons]
      rfl

lemma windowRoom_eq (h : windowSize < bufSize.toNat) :
    windowRoom bufSize = bufSize.toNat - windowSize := by
  have hlt := bufSize.toNat_lt
  unfold windowRoom
  unfold windowSize at h ⊢
  omega

lemma exists_drawBase (rand : RandOutcomes) (h : windowSize < bufSize.toNat) {base : Nat}
    (hbase : base + windowSize ≤ bufSize.toNat) (pos : Nat) :
    ∃ base' pos', drawBase rand bufSize base pos = some (base', pos') ∧
      base' + windowSize ≤ bufSize.toNat := by
  have hroom := windowRoom_eq h
  unfold drawBase
  rw [randInt_eq rand (by decide)]
  simp only [Option.bind_eq_bind, Option.bind_some]
  split
  · have hne : windowRoom bufSize ≠ 0 := by omega
    have hmod := Nat.mod_lt (rand (pos + 1)).val (Nat.pos_of_ne_zero hne)
    refine ⟨_, _, randInt_eq rand hne _, ?_⟩
    omega
  · exact ⟨base, pos + 1, rfl, hbase⟩

lemma exists_measureCall (rand : RandOutcomes) (i pos : Nat) :
    ∃ op pos', measureCall rand i pos = some (op, pos') ∧ op.vaddr = UInt32.ofNat i := by
  unfold measureCall
  rw [randInt_eq rand (by decide)]
  simp only [Option.bind_eq_bind, Option.bind_some]
  split
  · exact ⟨_, _, rfl, rfl⟩
  · obtain ⟨c, hc⟩ := exists_randChar rand (pos + 1)
    rw [hc]
    exact ⟨_, _, rfl, rfl⟩

lemma exists_measureLoop (rand : RandOutcomes) (h : windowSize < bufSize.toNat) (n base pos : Nat)
    (hbase : base + windowSize ≤ bufSize.toNat) :
    ∃ ops, measureLoop rand bufSize n base pos = some ops ∧
      ∀ op ∈ ops, op.vaddr.toNat < bufSize.toNat := by
  induction n generalizing base pos with
  | zero => exact ⟨[], rfl, by simp⟩
  | succ n ih =>
    obtain ⟨base', pos', hdraw, hbase'⟩ := exists_drawBase rand h hbase pos
    have hrange : randRange rand base' windowSize pos' =
        some (((rand pos').val % windowSize + base') % 2 ^ 32, pos' + 1) := if_neg (by decide)
    have hmod : (rand pos').val % windowSize < windowSize := Nat.mod_lt _ (by decide)
    have hlt := bufSize.toNat_lt
    have haddr : ((rand pos').val % windowSize + base') % 2 ^ 32 < bufSize.toNat := by
      rw [Nat.mod_eq_of_lt (by omega)]
      omega
    generalize ((rand pos').val % windowSize + base') % 2 ^ 32 = i at haddr hrange
    obtain ⟨op, pos'', hcall, hop⟩ := exists_measureCall rand i (pos' + 1)
    obtain ⟨ops, hops, hin⟩ := ih base' pos'' hbase'
    refine ⟨op :: ops, ?_, ?_⟩
    · simp only [measureLoop, hdraw, hrange, hcall, hops, Option.bind_eq_bind, Option.bind_some]
    · intro op' hop'
      rcases List.mem_cons.mp hop' with rfl | hop'
      · rw [hop, UInt32.toNat_ofNat_of_lt' (haddr.trans hlt)]
        exact haddr
      · exact hin op' hop'

inductive SizeSuffix
  | bytes | K | M | G
  deriving DecidableEq

def SizeSuffix.text : SizeSuffix → List Char
  | .bytes => []
  | .K => ['K']
  | .M => ['M']
  | .G => ['G']

def SizeSuffix.unit : SizeSuffix → Nat
  | .bytes => 1
  | .K => 1024
  | .M => 1024 * 1024
  | .G => 1024 * 1024 * 1024

/-- A size argument: decimal digits with an optional suffix. -/
structure SizeArg where
  digits : List Char
  suffix : SizeSuffix
  nonempty : digits ≠ []
  isDigit : ∀ c ∈ digits, c.isDigit = true

def SizeArg.text (arg : SizeArg) : List Char := arg.digits ++ arg.suffix.text

/-- The size that an argument stands for, in 32-bit arithmetic. -/
def SizeArg.size (arg : SizeArg) : Nat :=
  min (decimalValue arg.digits) (2 ^ 63 - 1) * arg.suffix.unit % 2 ^ 32

lemma atoi_digits {digits : List Char} (h : ∀ c ∈ digits, c.isDigit = true) :
    atoi digits = min (decimalValue digits) (2 ^ 63 - 1) % 2 ^ 32 := by
  rw [atoi, List.takeWhile_eq_self_iff.mpr h]

lemma transSize_suffix {digits : List Char} (h : ∀ c ∈ digits, c.isDigit = true) {c : Char}
    (hc : c.isDigit = false) :
    transSize (digits ++ [c]) = some (UInt32.ofNat
      (min (decimalValue digits) (2 ^ 63 - 1) % 2 ^ 32 * suffixUnit c)) := by
  unfold transSize
  rw [List.getLast?_concat, List.dropLast_concat, atoi_digits h]
  simp [hc]

lemma transSize_text (arg : SizeArg) :
    ∃ size, transSize arg.text = some size ∧ size.toNat = arg.size := by
  obtain ⟨digits, suffix, hne, hdigits⟩ := arg
  have hmod : ∀ x u : Nat, (UInt32.ofNat (x % 2 ^ 32 * u)).toNat = x * u % 2 ^ 32 := by
    intro x u
    rw [UInt32.toNat_ofNat', Nat.mod_mul_mod]
  cases suffix with
  | bytes =>
    have hlast : digits.getLast? = some (digits.getLast hne) := List.getLast?_eq_some_getLast hne
    have hdigit := hdigits _ (List.getLast_mem hne)
    refine ⟨UInt32.ofNat (atoi digits), ?_, ?_⟩
    · simp only [SizeArg.text, SizeSuffix.text, List.append_nil, transSize, hlast, hdigit, if_true,
        Option.bind_eq_bind, Option.bind_some]
    · rw [atoi_digits hdigits, ← Nat.mul_one (_ % 2 ^ 32), hmod]
      rfl
  | K => exact ⟨_, transSize_suffix hdigits (by decide), hmod _ _⟩
  | M => exact ⟨_, transSize_suffix hdigits (by decide), hmod _ _⟩
  | G => exact ⟨_, transSize_suffix hdigits (by decide), hmod _ _⟩

/-- Whatever `rand()` returns and however many iterations are made: `rand_int` is never called
with 0, and every call is for a page of the table. -/
def StaysInTable (argv1 argv2 : List Char) (swap : SwapDevice) : Prop :=
  ∀ rand n, ∃ s ops, clientMain argv1 argv2 swap rand n = some (s, ops) ∧
    ∀ op ∈ ops, pageIndex op.vaddr.toNat < s.numPages

lemma clientMain_eq {argv1 argv2 : List Char} {swap : SwapDevice} {physSize : UInt32} {n pos : Nat}
    {filled measured : List SimOp} (hphys : transSize argv1 = some physSize)
    (hbuf : transSize argv2 = some bufSize)
    (hfill : fillLoop rand bufSize.toNat 0 0 = some (filled, pos))
    (hmeasure : measureLoop rand bufSize n 0 pos = some measured) :
    clientMain argv1 argv2 swap rand n =
      some (simInit physSize bufSize swap, filled ++ measured) := by
  simp only [clientMain, hphys, hbuf, hfill, hmeasure, Option.bind_eq_bind, Option.bind_some]

lemma pageIndex_lt_of_lt {a : Nat} (hdvd : pageSize ∣ bufSize.toNat) (ha : a < bufSize.toNat) :
    pageIndex a < bufSize.toNat / pageSize := by
  unfold pageIndex
  unfold pageSize at hdvd ⊢
  omega

lemma staysInTable_of_pages {argv1 argv2 : List Char} {swap : SwapDevice} {physSize : UInt32}
    (hphys : transSize argv1 = some physSize) (hbuf : transSize argv2 = some bufSize)
    (hdvd : pageSize ∣ bufSize.toNat) (hwindow : windowSize < bufSize.toNat) :
    StaysInTable argv1 argv2 swap := by
  intro rand n
  obtain ⟨filled, pos, hfill, haddrs⟩ := exists_fillLoop rand bufSize.toNat 0 0
  obtain ⟨measured, hmeasure, hin⟩ := exists_measureLoop rand hwindow n 0 pos (by omega)
  refine ⟨_, _, clientMain_eq hphys hbuf hfill hmeasure, fun op hop => ?_⟩
  refine pageIndex_lt_of_lt hdvd ?_
  rcases List.mem_append.mp hop with hop | hop
  · have hmem : op.vaddr ∈ (List.range' 0 bufSize.toNat).map UInt32.ofNat :=
      haddrs ▸ List.mem_map_of_mem hop
    obtain ⟨i, hi, hvaddr⟩ := List.mem_map.mp hmem
    have hlt : i < bufSize.toNat := by
      rw [List.mem_range'_1] at hi
      omega
    rw [← hvaddr, UInt32.toNat_ofNat_of_lt' (hlt.trans bufSize.toNat_lt)]
    exact hlt
  · exact hin op hop

lemma fillLoop_last {filled : List SimOp} {pos : Nat} (hpos : 0 < bufSize.toNat)
    (hfill : fillLoop rand bufSize.toNat 0 0 = some (filled, pos)) :
    ∃ op ∈ filled, op.vaddr.toNat = bufSize.toNat - 1 := by
  obtain ⟨ops, pos', hops, haddrs⟩ := exists_fillLoop rand bufSize.toNat 0 0
  obtain ⟨rfl, -⟩ := Prod.mk.inj (Option.some_inj.mp (hfill.symm.trans hops))
  have hmem : UInt32.ofNat (bufSize.toNat - 1) ∈ filled.map SimOp.vaddr := by
    rw [haddrs]
    refine List.mem_map_of_mem ?_
    rw [List.mem_range'_1]
    omega
  obtain ⟨op, hop, hvaddr⟩ := List.mem_map.mp hmem
  have hlt := bufSize.toNat_lt
  refine ⟨op, hop, ?_⟩
  rw [hvaddr, UInt32.toNat_ofNat_of_lt' (show bufSize.toNat - 1 < 2 ^ 32 by omega)]

lemma pages_of_staysInTable {argv1 argv2 : List Char} {swap : SwapDevice}
    (hbuf : transSize argv2 = some bufSize) (h : StaysInTable argv1 argv2 swap) :
    pageSize ∣ bufSize.toNat := by
  by_contra hdvd
  obtain ⟨s, ops, hmain, hin⟩ := h (fun _ => 0) 0
  obtain ⟨physSize, hphys⟩ : ∃ physSize, transSize argv1 = some physSize := by
    simp only [clientMain, hbuf, Option.bind_eq_bind, Option.bind_some] at hmain
    obtain ⟨physSize, hphys, -⟩ := Option.bind_eq_some_iff.mp hmain
    exact ⟨physSize, hphys⟩
  obtain ⟨filled, pos, hfill, -⟩ := exists_fillLoop (fun _ => 0) bufSize.toNat 0 0
  rw [clientMain_eq hphys hbuf hfill rfl] at hmain
  obtain ⟨rfl, rfl⟩ := Prod.mk.inj (Option.some_inj.mp hmain)
  have hpos : 0 < bufSize.toNat := by
    rcases Nat.eq_zero_or_pos bufSize.toNat with hzero | hpos
    · exact (hdvd (hzero ▸ dvd_zero _)).elim
    · exact hpos
  obtain ⟨op, hop, hlast⟩ := fillLoop_last hpos hfill
  have hpage : pageIndex op.vaddr.toNat < bufSize.toNat / pageSize :=
    hin op (List.mem_append_left _ hop)
  rw [hlast] at hpage
  unfold pageIndex at hpage
  unfold pageSize at hdvd hpage
  omega

/-- The outcomes of `rand()` that make the client read the last byte of the first window. -/
def windowEnd : RandOutcomes := fun _ => 10239

lemma measureLoop_windowEnd (bufSize : UInt32) (pos : Nat) :
    measureLoop windowEnd bufSize 1 0 pos = some [.get 10239] := by
  have hval : ∀ k, (windowEnd k).val = 10239 := fun _ => rfl
  have hbase : drawBase windowEnd bufSize 0 pos = some (0, pos + 1) := by
    simp [drawBase, randInt, hval]
  have haddr : randRange windowEnd 0 windowSize (pos + 1) = some (10239, pos + 2) := by
    simp [randRange, windowSize, hval]
  have hcall : measureCall windowEnd 10239 (pos + 2) = some (.get 10239, pos + 3) := by
    simp [measureCall, randInt, hval]
  simp only [measureLoop, hbase, haddr, hcall, Option.bind_eq_bind, Option.bind_some]

lemma window_of_staysInTable {argv1 argv2 : List Char} {swap : SwapDevice} {physSize : UInt32}
    (hphys : transSize argv1 = some physSize) (hbuf : transSize argv2 = some bufSize)
    (h : StaysInTable argv1 argv2 swap) : windowSize < bufSize.toNat := by
  have hdvd := pages_of_staysInTable hbuf h
  by_contra hsmall
  obtain ⟨s, ops, hmain, hin⟩ := h windowEnd 1
  obtain ⟨filled, pos, hfill, -⟩ := exists_fillLoop windowEnd bufSize.toNat 0 0
  rw [clientMain_eq hphys hbuf hfill (measureLoop_windowEnd bufSize pos)] at hmain
  obtain ⟨rfl, rfl⟩ := Prod.mk.inj (Option.some_inj.mp hmain)
  have hpage : pageIndex (10239 : UInt32).toNat < bufSize.toNat / pageSize :=
    hin (.get 10239) (List.mem_append_right _ (List.mem_singleton.mpr rfl))
  have hindex : pageIndex (10239 : UInt32).toNat = 2 := by decide
  rw [hindex] at hpage
  unfold windowSize at hsmall
  unfold pageSize at hdvd hpage
  omega

/-- The client stays in its page table iff the virtual size is a whole number of pages and
larger than the window of the measurement loop. -/
theorem client_stays_in_table_iff (phys vir : SizeArg) (swap : SwapDevice) :
    StaysInTable phys.text vir.text swap ↔ 4096 ∣ vir.size ∧ 10240 < vir.size := by
  obtain ⟨physSize, hphys, -⟩ := transSize_text phys
  obtain ⟨virSize, hvir, hsize⟩ := transSize_text vir
  rw [← hsize]
  constructor
  · intro h
    exact ⟨pages_of_staysInTable hvir h, window_of_staysInTable hphys hvir h⟩
  · rintro ⟨hdvd, hwindow⟩
    exact staysInTable_of_pages hphys hvir hdvd hwindow

/-- The arguments `8K 5K`: the fill loop writes to a second page of a table with one. -/
theorem client_fills_past_table :
    ∃ s ops, clientMain ['8', 'K'] ['5', 'K'] (.files fun _ => none) (fun _ => 0) 0 =
        some (s, ops) ∧
      ∃ op ∈ ops, s.numPages ≤ pageIndex op.vaddr.toNat := by
  have hphys : transSize ['8', 'K'] = some 8192 := by decide
  have hvir : transSize ['5', 'K'] = some 5120 := by decide
  obtain ⟨filled, pos, hfill, -⟩ := exists_fillLoop (fun _ => 0) (5120 : UInt32).toNat 0 0
  obtain ⟨op, hop, hlast⟩ := fillLoop_last (by decide) hfill
  refine ⟨_, _, clientMain_eq hphys hvir hfill rfl, op, List.mem_append_left _ hop, ?_⟩
  rw [hlast]
  decide

end DisStore.Proofs
