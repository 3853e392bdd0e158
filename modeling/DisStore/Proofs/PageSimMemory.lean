import DisStore.Proofs.PageSimClock

/-!
# The paging simulator implements flat memory

`MemInv` ties the resident set, the frames, the dirty bits, the clock ring and the swap
backend to one flat memory. Every call keeps it, so a sequence of calls returns what the
flat memory returns.
-/

namespace DisStore.Proofs
open DisStore DisStore.Lib

/-- The byte that the swap backend holds for page `v` at offset `k`. -/
def swapByte : SwapDevice → Nat → Nat → UInt8
  | .files swap, v, k => match swap v with
    | some bytes => bytes k
    | none => 0
  | .remote _ mem, v, k => mem (v * pageSize + k)

/-- The backend has room for the `n` pages of the page table. -/
def SwapReady (n : Nat) : SwapDevice → Prop
  | .files _ => True
  | .remote size _ => n * pageSize ≤ size

lemma frameAddress_eq {v : Nat} (hv : v < 2 ^ 20) : frameAddress v = v * pageSize := by
  unfold frameAddress pageSize
  omega

lemma page_block_unique {v w k a : Nat} (hk : k < pageSize) (ha : a = v * pageSize + k) :
    (w * pageSize ≤ a ∧ a < w * pageSize + pageSize) ↔ w = v := by
  unfold pageSize at *
  constructor
  · rintro ⟨h1, h2⟩
    omega
  · rintro rfl
    omega

lemma page_room {v n size : Nat} (hv : v < n) (h : n * pageSize ≤ size) :
    v * pageSize + pageSize ≤ size := by
  have hle : (v + 1) * pageSize ≤ n * pageSize := Nat.mul_le_mul_right pageSize hv
  rw [Nat.add_mul, Nat.one_mul] at hle
  exact hle.trans h

lemma fetch_ready {n v : Nat} {swap : SwapDevice} (h : SwapReady n swap) (hv : v < n)
    (hn : n ≤ 2 ^ 20) :
    ∃ bytes, swap.fetch v = some bytes ∧ ∀ k < pageSize, bytes k = swapByte swap v k := by
  cases swap with
  | files swap =>
    cases hs : swap v with
    | none => exact ⟨fun _ => 0, by simp [SwapDevice.fetch, hs], by simp [swapByte, hs]⟩
    | some bytes => exact ⟨bytes, by simp [SwapDevice.fetch, hs], by simp [swapByte, hs]⟩
  | remote size mem =>
    have hroom : v * pageSize + pageSize ≤ size := page_room hv h
    refine ⟨fun k => mem (v * pageSize + k), ?_, fun k _ => rfl⟩
    simp [SwapDevice.fetch, frameAddress_eq (show v < 2 ^ 20 by omega), hroom]

lemma store_ready {n v : Nat} {swap : SwapDevice} (bytes : PageBytes) (h : SwapReady n swap)
    (hv : v < n) (hn : n ≤ 2 ^ 20) :
    ∃ swap', swap.store v bytes = some swap' ∧ SwapReady n swap' ∧
      ∀ w k, k < pageSize →
        swapByte swap' w k = if w = v then bytes k else swapByte swap w k := by
  cases swap with
  | files swap =>
    refine ⟨_, rfl, trivial, ?_⟩
    intro w k _
    by_cases hw : w = v
    · subst hw
      simp [swapByte]
    · simp [swapByte, hw]
  | remote size mem =>
    have hroom : v * pageSize + pageSize ≤ size := page_room hv h
    have hstore : (SwapDevice.remote size mem).store v bytes = some (.remote size fun a =>
        if v * pageSize ≤ a ∧ a < v * pageSize + pageSize then bytes (a - v * pageSize)
        else mem a) := by
      rw [SwapDevice.store, frameAddress_eq (show v < 2 ^ 20 by omega), if_pos hroom]
    refine ⟨_, hstore, h, ?_⟩
    intro w k hk
    simp only [swapByte]
    by_cases hw : w = v
    · subst hw
      rw [if_pos ((page_block_unique hk rfl).mpr rfl), if_pos rfl]
      simp
    · rw [if_neg (fun hb => hw ((page_block_unique hk rfl).mp hb).symm), if_neg hw]

/-- The part of the representation that does not depend on what memory and backend hold. With
more frames than pages no page is ever evicted and the ring is never walked; otherwise the ring is
intact. -/
structure Framed (np : Nat) (s : SimState) : Prop where
  frames : np ≤ 2 ^ 20
  pages : s.numPages ≤ 2 ^ 20
  room : np * pageSize ≤ s.physMemSize
  ready : SwapReady s.numPages s.swap
  frame : ∀ v < s.numPages, Resident s v → (s.pgtable v).pframe < np
  ring : (∀ v < s.numPages, Resident s v) ∨ ∃ ring, ClockInv np s ring

/-- The simulator state represents the flat memory `virt`. -/
structure MemInv (np : Nat) (s : SimState) (virt : Nat → UInt8) : Prop extends Framed np s where
  frameInj : ∀ v < s.numPages, ∀ w < s.numPages, Resident s v → Resident s w →
    (s.pgtable v).pframe = (s.pgtable w).pframe → v = w
  data : ∀ v < s.numPages, Resident s v → ∀ k < pageSize,
    s.physMem ((s.pgtable v).pframe * pageSize + k) = virt (v * pageSize + k)
  swapped : ∀ v < s.numPages, (Resident s v → (s.pgtable v).dirty ≠ 1) → ∀ k < pageSize,
    swapByte s.swap v k = virt (v * pageSize + k)

lemma Framed.swept {np : Nat} {s s' : SimState} {ring : List Nat} (h : Framed np s)
    (hs : SweptFrom s s') (hr : ClockInv np s' ring) : Framed np s' := by
  refine ⟨h.frames, hs.numPages ▸ h.pages, hs.physMemSize ▸ h.room, ?_, ?_, .inr ⟨ring, hr⟩⟩
  · rw [hs.numPages, hs.swap]
    exact h.ready
  · intro v hv hres
    rw [hs.pframe]
    exact h.frame v (hs.numPages ▸ hv) ((hs.resident v).mp hres)

lemma MemInv.swept {np : Nat} {s s' : SimState} {virt : Nat → UInt8} {ring : List Nat}
    (h : MemInv np s virt) (hs : SweptFrom s s') (hr : ClockInv np s' ring) :
    MemInv np s' virt := by
  have hd : ∀ v, (Resident s' v → (s'.pgtable v).dirty ≠ 1) ↔
      (Resident s v → (s.pgtable v).dirty ≠ 1) := by
    intro v
    rw [hs.resident v, hs.dirty v]
  refine ⟨h.toFramed.swept hs hr, ?_, ?_, ?_⟩
  · intro v hv w hw hrv hrw he
    rw [hs.pframe, hs.pframe] at he
    exact h.frameInj v (hs.numPages ▸ hv) w (hs.numPages ▸ hw) ((hs.resident v).mp hrv)
      ((hs.resident w).mp hrw) he
  · intro v hv hres k hk
    rw [hs.pframe, hs.physMem]
    exact h.data v (hs.numPages ▸ hv) ((hs.resident v).mp hres) k hk
  · intro v hv hclean k hk
    rw [hs.swap]
    exact h.swapped v (hs.numPages ▸ hv) ((hd v).mp hclean) k hk

lemma Framed.flush {np : Nat} {s : SimState} (h : Framed np s) {v : Nat} (hv : v < s.numPages)
    (hr : Resident s v) :
    ∃ swap, flushDirty s v = some { s with swap := swap } ∧ SwapReady s.numPages swap ∧
      ((s.pgtable v).dirty = 1 → pageFlush s v = some { s with swap := swap } ∧
        ∀ w k, k < pageSize → swapByte swap w k =
          if w = v then s.physMem ((s.pgtable v).pframe * pageSize + k)
          else swapByte s.swap w k) ∧
      ((s.pgtable v).dirty ≠ 1 → swap = s.swap) := by
  have hf := h.frame v hv hr
  have hfl : (s.pgtable v).pframe < 2 ^ 20 := hf.trans_le h.frames
  by_cases hd : (s.pgtable v).dirty = 1
  · obtain ⟨swap, hstore, hready, hbyte⟩ := store_ready
      (fun k => s.physMem ((s.pgtable v).pframe * pageSize + k)) h.ready hv h.pages
    have hflush : pageFlush s v = some { s with swap := swap } := by
      unfold pageFlush
      simp only [frameAddress_eq hfl, if_pos (page_room hf h.room), hstore, Option.map_some]
    refine ⟨swap, ?_, hready, fun _ => ⟨hflush, hbyte⟩, fun hnot => (hnot hd).elim⟩
    rw [flushDirty, if_pos hd, hflush]
  · refine ⟨s.swap, ?_, h.ready, fun hyes => (hd hyes).elim, fun _ => rfl⟩
    rw [flushDirty, if_neg hd]

lemma MemInv.flush {np : Nat} {s : SimState} {virt : Nat → UInt8} (h : MemInv np s virt)
    {v : Nat} (hv : v < s.numPages) (hr : Resident s v) :
    ∃ swap, flushDirty s v = some { s with swap := swap } ∧
      SwapReady s.numPages swap ∧ ∀ w k, k < pageSize →
        swapByte swap w k = if w = v then virt (v * pageSize + k) else swapByte s.swap w k := by
  obtain ⟨swap, hflush, hready, hdirty, hclean⟩ := h.toFramed.flush hv hr
  refine ⟨swap, hflush, hready, fun w k hk => ?_⟩
  by_cases hd : (s.pgtable v).dirty = 1
  · rw [(hdirty hd).2 w k hk, h.data v hv hr k hk]
  · rw [hclean hd]
    by_cases hw : w = v
    · subst hw
      rw [if_pos rfl, h.swapped w hv (fun _ => hd) k hk]
    · rw [if_neg hw]

lemma spliceEntry_entry {s : SimState} {v : Nat} (hvc : v ≠ s.currC) (w : Nat) :
    (spliceEntry s v).pgtable w =
      if w = v then ⟨(s.pgtable s.currC).pframe,
        Function.update (cnextOf s) s.lastC v s.currC, 1, 0⟩
      else { s.pgtable w with cnext := Function.update (cnextOf s) s.lastC v w } := by
  have hcv : s.currC ≠ v := fun he => hvc he.symm
  unfold spliceEntry
  simp only [setEntry_get]
  by_cases hw : w = v
  · subst hw
    by_cases hlc : s.currC = s.lastC
    · have hlv : s.lastC ≠ w := hlc ▸ hcv
      simp [SimState.setEntry, hlv, hlc, Function.update_apply]
    · simp [SimState.setEntry, hcv, hlc, cnextOf, Function.update_apply]
  · by_cases hwl : w = s.lastC
    · subst hwl
      simp [hw]
    · simp [hw, hwl, cnextOf]

/-- The state in which the entries are spliced: the victim is gone and its frame is loaded. -/
def loadedState (s : SimState) (swap : SwapDevice) (bytes : PageBytes) : SimState :=
  let frame := (s.pgtable s.currC).pframe
  { s.setEntry s.currC (fun e => { e with clear := -1 }) with
    swap := swap
    physMem := fun a =>
      if frame * pageSize ≤ a ∧ a < frame * pageSize + pageSize then bytes (a - frame * pageSize)
      else s.physMem a }

lemma loadedState_entry (s : SimState) (swap : SwapDevice) (bytes : PageBytes) (w : Nat) :
    (loadedState s swap bytes).pgtable w =
      if w = s.currC then { s.pgtable s.currC with clear := -1 } else s.pgtable w :=
  setEntry_get s s.currC (fun e => { e with clear := -1 }) w

lemma cnextOf_loadedState (s : SimState) (swap : SwapDevice) (bytes : PageBytes) :
    cnextOf (loadedState s swap bytes) = cnextOf s := by
  funext w
  unfold cnextOf
  rw [loadedState_entry]
  split
  · next h => rw [h]
  · rfl

lemma pageReplace_eq {s : SimState} {swap : SwapDevice} {bytes : PageBytes} {v : Nat}
    (hflush : flushDirty s s.currC = some { s with swap := swap })
    (hfetch : swap.fetch v = some bytes) (hf : (s.pgtable s.currC).pframe < 2 ^ 20)
    (hroom : (s.pgtable s.currC).pframe * pageSize + pageSize ≤ s.physMemSize)
    (hl : s.lastC < s.numPages) :
    pageReplace s v = some (spliceEntry (loadedState s swap bytes) v) := by
  unfold pageReplace
  rw [hflush]
  have hload : pageLoad ({ s with swap := swap }.setEntry s.currC fun e => { e with clear := -1 }) v
      (s.pgtable s.currC).pframe = some (loadedState s swap bytes) := by
    unfold pageLoad
    rw [frameAddress_eq hf, if_pos (by exact hroom)]
    simp only [SimState.setEntry, hfetch, Option.map_some, loadedState]
  have hentry : (({ s with swap := swap }.setEntry s.currC
      fun e => { e with clear := -1 }).pgtable s.currC).pframe = (s.pgtable s.currC).pframe := by
    rw [setEntry_get, if_pos rfl]
  simp only [Option.bind_eq_bind, Option.bind_some]
  have hcur : ({ s with swap := swap }.setEntry s.currC
      fun e => { e with clear := -1 }).currC = s.currC := rfl
  rw [hcur, hentry, hload]
  have hlast : (loadedState s swap bytes).lastC < (loadedState s swap bytes).numPages := hl
  simp [hlast]

lemma replaced_entry {s : SimState} {swap : SwapDevice} {bytes : PageBytes} {v : Nat}
    (hvc : v ≠ s.currC) (w : Nat) :
    (spliceEntry (loadedState s swap bytes) v).pgtable w =
      if w = v then ⟨(s.pgtable s.currC).pframe,
        Function.update (cnextOf s) s.lastC v s.currC, 1, 0⟩
      else { s.pgtable w with
        cnext := Function.update (cnextOf s) s.lastC v w
        clear := if w = s.currC then -1 else (s.pgtable w).clear } := by
  rw [spliceEntry_entry (s := loadedState s swap bytes) hvc, cnextOf_loadedState]
  have hlast : (loadedState s swap bytes).lastC = s.lastC := rfl
  have hcur : (loadedState s swap bytes).currC = s.currC := rfl
  rw [hlast, hcur, loadedState_entry, if_pos rfl]
  by_cases hw : w = v
  · rw [if_pos hw, if_pos hw]
  · rw [if_neg hw, if_neg hw, loadedState_entry]
    by_cases hc : w = s.currC
    · subst hc
      simp
    · simp [hc]

lemma cnextOf_replaced {s : SimState} {swap : SwapDevice} {bytes : PageBytes} {v : Nat}
    (hvc : v ≠ s.currC) :
    cnextOf (spliceEntry (loadedState s swap bytes) v) =
      Function.update (Function.update (cnextOf s) s.lastC v) v
        (Function.update (cnextOf s) s.lastC v s.currC) := by
  funext w
  unfold cnextOf
  rw [replaced_entry hvc]
  by_cases hw : w = v
  · subst hw
    simp
    rfl
  · simp [hw]
    rfl

lemma resident_replaced {s : SimState} {swap : SwapDevice} {bytes : PageBytes} {v : Nat}
    (hvc : v ≠ s.currC) (w : Nat) :
    Resident (spliceEntry (loadedState s swap bytes) v) w ↔
      w = v ∨ (w ≠ s.currC ∧ Resident s w) := by
  unfold Resident
  rw [replaced_entry hvc]
  by_cases hw : w = v
  · simp [hw]
  · by_cases hc : w = s.currC
    · subst hc
      simp [hw]
    · simp [hw, hc]

lemma ClockInv.replaced {np : Nat} {s : SimState} {rest : List Nat} {swap : SwapDevice}
    {bytes : PageBytes} {v : Nat} (h : ClockInv np s (s.currC :: rest))
    (hzero : (s.pgtable s.currC).clear = 0) (hv : v < s.numPages) (hnr : ¬Resident s v) :
    ClockInv np (spliceEntry (loadedState s swap bytes) v) (v :: rest) := by
  have hring : v ∉ s.currC :: rest := fun hm => hnr ((h.resident v hv).mpr hm)
  have hvc : v ≠ s.currC := fun he => hring (he ▸ List.mem_cons_self)
  have hlast : (s.currC :: rest).getLast (by simp) = s.lastC := by
    rcases h.lastPlace with hl | hl
    · rw [List.getLast?_eq_getLast_of_ne_nil (by simp)] at hl
      simpa using hl
    · omega
  have hbound : ∀ w ∈ v :: rest, w < s.numPages := by
    intro w hw
    rcases List.mem_cons.mp hw with rfl | hw
    · exact hv
    · exact h.bound w (by simp [hw])
  have hcv : s.currC ∉ rest := (List.nodup_cons.mp h.isRing.nodup).1
  refine ⟨?_, rfl, ?_, hbound, ?_, ?_, h.lastBound, ?_, .inr ?_⟩
  · have hrep := h.isRing.replaceHead hring
    rw [hlast] at hrep
    rw [cnextOf_replaced hvc]
    exact hrep
  · simpa using h.length
  · intro w hw
    rw [resident_replaced hvc, h.resident w hw, List.mem_cons, List.mem_cons]
    constructor
    · rintro (rfl | ⟨hne, hm⟩)
      · exact .inl rfl
      · exact .inr (hm.resolve_left hne)
    · rintro (rfl | hm)
      · exact .inl rfl
      · exact .inr ⟨fun he => hcv (he ▸ hm), .inr hm⟩
  · intro w hw
    rw [replaced_entry hvc]
    by_cases hwv : w = v
    · simp [hwv]
    · have hwr : w ∈ rest := (List.mem_cons.mp hw).resolve_left hwv
      have hwc : w ≠ s.currC := fun he => hcv (he ▸ hwr)
      simpa [hwv, hwc] using h.bit w (by simp [hwr])
  · have hl : (spliceEntry (loadedState s swap bytes) v).lastC = s.lastC := rfl
    have hc : (spliceEntry (loadedState s swap bytes) v).currC = v := rfl
    rw [hl, hc, cnextOf_replaced hvc]
    have hlv : s.lastC ≠ v := by
      intro he
      exact hring (he ▸ hlast ▸ List.getLast_mem (by simp))
    simp [hlv]
  · have hc : (spliceEntry (loadedState s swap bytes) v).currC = v := rfl
    rw [hc, replaced_entry hvc, if_pos rfl]

lemma Framed.replaced {np : Nat} {s : SimState} {swap : SwapDevice} {bytes : PageBytes}
    {v : Nat} {ring : List Nat} (h : Framed np s) (hvc : v ≠ s.currC) (hcb : s.currC < s.numPages)
    (hcr : Resident s s.currC) (hready : SwapReady s.numPages swap)
    (hring : ClockInv np (spliceEntry (loadedState s swap bytes) v) ring) :
    Framed np (spliceEntry (loadedState s swap bytes) v) := by
  refine ⟨h.frames, h.pages, h.room, hready, ?_, .inr ⟨ring, hring⟩⟩
  intro w hw hres
  rw [replaced_entry hvc]
  by_cases hwv : w = v
  · simpa [hwv] using h.frame _ hcb hcr
  · have hold := ((resident_replaced hvc w).mp hres).resolve_left hwv
    simpa [hwv] using h.frame w hw hold.2

lemma MemInv.replace {np : Nat} {s : SimState} {virt : Nat → UInt8} {ring : List Nat}
    (h : MemInv np s virt) (hr : ClockInv np s ring) (hzero : (s.pgtable s.currC).clear = 0)
    {v : Nat} (hv : v < s.numPages) (hnr : ¬Resident s v) :
    ∃ s', pageReplace s v = some s' ∧ MemInv np s' virt ∧ (∃ ring, ClockInv np s' ring) ∧
      Resident s' v ∧ s'.numPages = s.numPages := by
  obtain ⟨rest, rfl⟩ : ∃ rest, ring = s.currC :: rest := by
    cases ring with
    | nil => exact (hr.isRing.ne_nil rfl).elim
    | cons a rest => exact ⟨rest, by simpa using hr.head⟩
  have hcb : s.currC < s.numPages := hr.bound _ (by simp)
  have hcr : Resident s s.currC := (hr.resident _ hcb).mpr (by simp)
  have hvc : v ≠ s.currC := fun he => hnr (he ▸ hcr)
  have hcf := h.frame _ hcb hcr
  obtain ⟨swap, hflush, hready, hbyte⟩ := h.flush hcb hcr
  obtain ⟨bytes, hfetch, hbytes⟩ := fetch_ready hready hv h.pages
  have heq := pageReplace_eq (v := v) hflush hfetch (hcf.trans_le h.frames)
    (page_room hcf h.room) hr.lastBound
  have hring : ClockInv np (spliceEntry (loadedState s swap bytes) v) (v :: rest) :=
    hr.replaced hzero hv hnr
  refine ⟨_, heq, ?_, ⟨_, hring⟩, (resident_replaced hvc v).mpr (.inl rfl), rfl⟩
  -- No other resident page uses the victim's frame.
  have hother : ∀ w < s.numPages, w ≠ s.currC → Resident s w →
      (s.pgtable w).pframe ≠ (s.pgtable s.currC).pframe :=
    fun w hw hne hrw he => hne (h.frameInj w hw _ hcb hrw hcr he)
  refine ⟨h.toFramed.replaced hvc hcb hcr hready hring, ?_, ?_, ?_⟩
  · intro w hw x hx hrw hrx he
    rw [replaced_entry hvc, replaced_entry hvc] at he
    by_cases hwv : w = v
    · by_cases hxv : x = v
      · rw [hwv, hxv]
      · have hx' := ((resident_replaced hvc x).mp hrx).resolve_left hxv
        simp only [hwv, hxv, if_true, if_false] at he
        exact (hother x hx hx'.1 hx'.2 he.symm).elim
    · have hw' := ((resident_replaced hvc w).mp hrw).resolve_left hwv
      by_cases hxv : x = v
      · simp only [hwv, hxv, if_true, if_false] at he
        exact (hother w hw hw'.1 hw'.2 he).elim
      · have hx' := ((resident_replaced hvc x).mp hrx).resolve_left hxv
        simp only [hwv, hxv, if_false] at he
        exact h.frameInj w hw x hx hw'.2 hx'.2 he
  · intro w hw hres k hk
    have hmem : ∀ a, (spliceEntry (loadedState s swap bytes) v).physMem a =
        if (s.pgtable s.currC).pframe * pageSize ≤ a ∧
          a < (s.pgtable s.currC).pframe * pageSize + pageSize then
          bytes (a - (s.pgtable s.currC).pframe * pageSize) else s.physMem a := fun _ => rfl
    rw [hmem, replaced_entry hvc]
    by_cases hwv : w = v
    · subst hwv
      simp only [if_true]
      rw [if_pos ((page_block_unique hk rfl).mpr rfl), Nat.add_sub_cancel_left, hbytes k hk,
        hbyte w k hk, if_neg hvc, h.swapped w hv (fun hrw => (hnr hrw).elim) k hk]
    · have hw' := ((resident_replaced hvc w).mp hres).resolve_left hwv
      simp only [hwv, if_false]
      rw [if_neg (fun hb => hother w hw hw'.1 hw'.2 ((page_block_unique hk rfl).mp hb).symm)]
      exact h.data w hw hw'.2 k hk
  · intro w hw hclean k hk
    have hsw : (spliceEntry (loadedState s swap bytes) v).swap = swap := rfl
    rw [hsw, hbyte w k hk]
    by_cases hwc : w = s.currC
    · rw [if_pos hwc, hwc]
    · rw [if_neg hwc]
      refine h.swapped w hw (fun hrw => ?_) k hk
      have hd := hclean ((resident_replaced hvc w).mpr (.inr ⟨hwc, hrw⟩))
      have hwv : w ≠ v := fun he => hnr (he ▸ hrw)
      rw [replaced_entry hvc, if_neg hwv] at hd
      exact hd

lemma MemInv.touch {np fuel : Nat} {s : SimState} {virt : Nat → UInt8} (h : MemInv np s virt)
    (hf : np < fuel) {v : Nat} (hv : v < s.numPages) :
    ∃ s', pageTouch fuel s v = some s' ∧ MemInv np s' virt ∧
      ((∃ ring, ClockInv np s ring) → ∃ ring, ClockInv np s' ring) ∧ Resident s' v ∧
      s'.numPages = s.numPages := by
  by_cases hres : Resident s v
  · have hc : (s.pgtable v).clear ≠ -1 := hres
    exact ⟨s, by simp [pageTouch, hv, hc], h, id, hres, rfl⟩
  · obtain ⟨ring, hr⟩ := h.ring.resolve_left (fun hall => hres (hall v hv))
    obtain ⟨s₁, ring₁, hsweep, hr₁, hsw, hzero⟩ := clockSweep_ends fuel hr hf
    have hv₁ : v < s₁.numPages := hsw.numPages ▸ hv
    have hres₁ : ¬Resident s₁ v := fun hr₁ => hres ((hsw.resident v).mp hr₁)
    obtain ⟨s', hs', hinv, hring, hrv, hn⟩ := (h.swept hsw hr₁).replace hr₁ hzero hv₁ hres₁
    have hc : (s.pgtable v).clear = -1 := by simpa [Resident] using hres
    refine ⟨s', ?_, hinv, fun _ => hring, hrv, hn.trans hsw.numPages⟩
    simp [pageTouch, hv, hc, pageFault, hsweep, hs']

section Reference

variable {np : Nat} {s : SimState} {v : Nat} (d : Int)

lemma reference_entry (s : SimState) (v : Nat) (w : Nat) :
    (s.setEntry v fun e => { e with dirty := d, clear := 1 }).pgtable w =
      if w = v then { s.pgtable v with dirty := d, clear := 1 } else s.pgtable w :=
  setEntry_get s v (fun e => { e with dirty := d, clear := 1 }) w

lemma reference_pframe (s : SimState) (v : Nat) (w : Nat) :
    ((s.setEntry v fun e => { e with dirty := d, clear := 1 }).pgtable w).pframe =
      (s.pgtable w).pframe := by
  rw [reference_entry]
  split
  · next hw => rw [hw]
  · rfl

lemma reference_resident (hrv : Resident s v) (w : Nat) :
    Resident (s.setEntry v fun e => { e with dirty := d, clear := 1 }) w ↔ Resident s w := by
  unfold Resident
  rw [reference_entry]
  split
  · next hw =>
    subst hw
    have hc : (s.pgtable w).clear ≠ -1 := hrv
    simp [hc]
  · exact Iff.rfl

lemma cnextOf_reference (s : SimState) (v : Nat) :
    cnextOf (s.setEntry v fun e => { e with dirty := d, clear := 1 }) = cnextOf s := by
  funext w
  unfold cnextOf
  rw [reference_entry]
  split
  · next hw => rw [hw]
  · rfl

lemma ClockInv.reference {ring : List Nat} (hr : ClockInv np s ring) (hrv : Resident s v) :
    ClockInv np (s.setEntry v fun e => { e with dirty := d, clear := 1 }) ring := by
  refine ⟨?_, hr.head, hr.length, hr.bound, ?_, ?_, hr.lastBound, ?_, ?_⟩
  · rw [cnextOf_reference]
    exact hr.isRing
  · intro w hw
    rw [reference_resident d hrv w, hr.resident w hw]
  · intro w hw
    rw [reference_entry]
    split
    · exact .inr rfl
    · exact hr.bit w hw
  · rw [cnextOf_reference]
    exact hr.lastNext
  · refine hr.lastPlace.imp id fun hc => ?_
    rw [reference_entry]
    split
    · rfl
    · exact hc

lemma Framed.reference (h : Framed np s) (hrv : Resident s v) :
    Framed np (s.setEntry v fun e => { e with dirty := d, clear := 1 }) := by
  have hres := reference_resident d hrv
  refine ⟨h.frames, h.pages, h.room, h.ready, ?_, ?_⟩
  · intro w hw hrw
    rw [reference_pframe]
    exact h.frame w hw ((hres w).mp hrw)
  · rcases h.ring with hall | ⟨ring, hr⟩
    · exact .inl fun w hw => (hres w).mpr (hall w hw)
    · exact .inr ⟨ring, hr.reference d hrv⟩

lemma MemInv.reference {virt : Nat → UInt8} (h : MemInv np s virt) (hrv : Resident s v)
    (hd : d ≠ 1 → d = (s.pgtable v).dirty) :
    MemInv np (s.setEntry v fun e => { e with dirty := d, clear := 1 }) virt := by
  have hres := reference_resident d hrv
  refine ⟨h.toFramed.reference d hrv, ?_, ?_, ?_⟩
  · intro w hw x hx hrw hrx he
    rw [reference_pframe, reference_pframe] at he
    exact h.frameInj w hw x hx ((hres w).mp hrw) ((hres x).mp hrx) he
  · intro w hw hrw k hk
    rw [reference_pframe]
    exact h.data w hw ((hres w).mp hrw) k hk
  · intro w hw hclean k hk
    refine h.swapped w hw (fun hrw => ?_) k hk
    have hdw := hclean ((hres w).mpr hrw)
    rw [reference_entry] at hdw
    by_cases hwv : w = v
    · subst hwv
      rw [if_pos rfl] at hdw
      exact hd hdw ▸ hdw
    · rw [if_neg hwv] at hdw
      exact hdw

end Reference

lemma Framed.access {np : Nat} {s : SimState} (h : Framed np s) {a : Nat}
    (ha : pageIndex a < s.numPages) (hr : Resident s (pageIndex a)) :
    frameAddress (s.pgtable (pageIndex a)).pframe + pageOffset a =
        (s.pgtable (pageIndex a)).pframe * pageSize + pageOffset a ∧
      frameAddress (s.pgtable (pageIndex a)).pframe + pageOffset a < s.physMemSize ∧
      pageOffset a < pageSize ∧ pageIndex a * pageSize + pageOffset a = a := by
  have hf := h.frame _ ha hr
  have hroom := page_room hf h.room
  have hoff : pageOffset a < pageSize := Nat.mod_lt _ (by decide)
  rw [frameAddress_eq (hf.trans_le h.frames)]
  exact ⟨rfl, by omega, hoff, Nat.div_add_mod' a pageSize⟩

lemma ClockInv.write {np : Nat} {s : SimState} {ring : List Nat} (h : ClockInv np s ring)
    (mem : Nat → UInt8) : ClockInv np { s with physMem := mem } ring :=
  ⟨h.isRing, h.head, h.length, h.bound, h.resident, h.bit, h.lastBound, h.lastNext, h.lastPlace⟩

lemma Framed.write {np : Nat} {s : SimState} (h : Framed np s) (mem : Nat → UInt8) :
    Framed np { s with physMem := mem } :=
  ⟨h.frames, h.pages, h.room, h.ready, h.frame,
    h.ring.imp id fun ⟨ring, hr⟩ => ⟨ring, hr.write mem⟩⟩

/-- A byte stored to a dirty resident page is stored to the represented memory: frames are
disjoint and so are pages. -/
lemma MemInv.write {np : Nat} {s : SimState} {virt : Nat → UInt8} (h : MemInv np s virt)
    {a : Nat} (ha : pageIndex a < s.numPages) (hr : Resident s (pageIndex a))
    (hd : (s.pgtable (pageIndex a)).dirty = 1) (c : UInt8) :
    MemInv np
      { s with
        physMem := Function.update s.physMem
          (frameAddress (s.pgtable (pageIndex a)).pframe + pageOffset a) c }
      (Function.update virt a c) := by
  obtain ⟨haddr, -, hoff, hback⟩ := h.access ha hr
  rw [haddr]
  refine ⟨h.toFramed.write _, h.frameInj, ?_, ?_⟩
  · intro w hw hrw k hk
    have hold := h.data w hw hrw k hk
    dsimp only
    by_cases hwa : w = pageIndex a ∧ k = pageOffset a
    · obtain ⟨rfl, rfl⟩ := hwa
      rw [hback]
      simp
    · have hne : (s.pgtable w).pframe * pageSize + k ≠
          (s.pgtable (pageIndex a)).pframe * pageSize + pageOffset a := by
        intro he
        have hfr := (page_block_unique (w := (s.pgtable w).pframe) hoff he).mp (by omega)
        have hw' := h.frameInj w hw _ ha hrw hr hfr
        subst hw'
        exact hwa ⟨rfl, by omega⟩
      have hne' : w * pageSize + k ≠ a := by
        intro he
        have hw' := (page_block_unique (w := w) hoff (he.trans hback.symm)).mp (by omega)
        subst hw'
        exact hwa ⟨rfl, by omega⟩
      rw [Function.update_of_ne hne, Function.update_of_ne hne']
      exact hold
  · intro w hw hclean k hk
    have hwa : w ≠ pageIndex a := by
      rintro rfl
      exact hclean hr hd
    have hne' : w * pageSize + k ≠ a := by
      intro he
      exact hwa ((page_block_unique (w := w) hoff (he.trans hback.symm)).mp (by omega))
    rw [Function.update_of_ne hne']
    exact h.swapped w hw hclean k hk

lemma resident_setEntry (s : SimState) (v : Nat) (d : Int) :
    Resident (s.setEntry v fun e => { e with dirty := d, clear := 1 }) v := by
  unfold Resident
  rw [setEntry_get, if_pos rfl]
  simp

lemma MemInv.get {np fuel : Nat} {s : SimState} {virt : Nat → UInt8} (h : MemInv np s virt)
    (hf : np < fuel) (a : UInt32) (ha : pageIndex a.toNat < s.numPages) :
    ∃ s', simGet fuel s a = some (virt a.toNat, s') ∧ MemInv np s' virt ∧
      ((∃ ring, ClockInv np s ring) → ∃ ring, ClockInv np s' ring) ∧
      s'.numPages = s.numPages := by
  obtain ⟨s₁, htouch, h₁, hring, hr₁, hn₁⟩ := h.touch hf ha
  have ha₁ : pageIndex a.toNat < s₁.numPages := hn₁ ▸ ha
  have h₂ := h₁.reference (s₁.pgtable (pageIndex a.toNat)).dirty hr₁ (fun _ => rfl)
  have hr₂ := resident_setEntry s₁ (pageIndex a.toNat) (s₁.pgtable (pageIndex a.toNat)).dirty
  obtain ⟨haddr, hlt, hoff, hback⟩ := h₂.access ha₁ hr₂
  have hval := h₂.data _ ha₁ hr₂ _ hoff
  rw [hback, ← haddr] at hval
  refine ⟨_, ?_, h₂, fun hc => ?_, hn₁⟩
  · simp only [simGet, htouch, Option.bind_eq_bind, Option.bind_some]
    exact (if_pos hlt).trans (congrArg (fun x => some (x, _)) hval)
  · obtain ⟨ring, hr⟩ := hring hc
    exact ⟨ring, hr.reference _ hr₁⟩

lemma MemInv.put {np fuel : Nat} {s : SimState} {virt : Nat → UInt8} (h : MemInv np s virt)
    (hf : np < fuel) (a : UInt32) (c : UInt8) (ha : pageIndex a.toNat < s.numPages) :
    ∃ s', simPut fuel s a c = some s' ∧ MemInv np s' (Function.update virt a.toNat c) ∧
      ((∃ ring, ClockInv np s ring) → ∃ ring, ClockInv np s' ring) ∧
      s'.numPages = s.numPages := by
  obtain ⟨s₁, htouch, h₁, hring, hr₁, hn₁⟩ := h.touch hf ha
  have ha₁ : pageIndex a.toNat < s₁.numPages := hn₁ ▸ ha
  have h₂ := h₁.reference 1 hr₁ (fun hne => (hne rfl).elim)
  have hr₂ := resident_setEntry s₁ (pageIndex a.toNat) 1
  obtain ⟨-, hlt, -, -⟩ := h₂.access ha₁ hr₂
  refine ⟨_, ?_, h₂.write ha₁ hr₂ (by rw [setEntry_get, if_pos rfl]) c, fun hc => ?_, hn₁⟩
  · simp only [simPut, htouch, Option.bind_eq_bind, Option.bind_some]
    exact if_pos hlt
  · obtain ⟨ring, hr⟩ := hring hc
    exact ⟨ring, (hr.reference 1 hr₁).write _⟩

/-- The character of the last `put` to `a`, or 0. -/
def latestPut (ops : List SimOp) (a : UInt32) : UInt8 :=
  ops.foldl (fun c op => match op with
    | .put b d => if b = a then d else c
    | .get _ => c) 0

/-- What a flat memory that starts out as `virt` holds at `a` after the calls. -/
def flatAfter (virt : Nat → UInt8) (ops : List SimOp) : Nat → UInt8 :=
  ops.foldl (fun mem op => match op with
    | .put b d => Function.update mem b.toNat d
    | .get _ => mem) virt

lemma flatAfter_zero (ops : List SimOp) (a : UInt32) :
    flatAfter (fun _ => 0) ops a.toNat = latestPut ops a := by
  have h : ∀ (ops : List SimOp) (mem : Nat → UInt8) (c : UInt8), mem a.toNat = c →
      flatAfter mem ops a.toNat = ops.foldl (fun c op => match op with
        | .put b d => if b = a then d else c
        | .get _ => c) c := by
    intro ops
    induction ops with
    | nil => exact fun mem c hc => hc
    | cons op ops ih =>
      intro mem c hc
      cases op with
      | get b => exact ih mem c hc
      | put b d =>
        refine ih (Function.update mem b.toNat d) (if b = a then d else c) ?_
        by_cases hb : b = a
        · simp [hb]
        · have hne : a.toNat ≠ b.toNat := fun he => hb (UInt32.toNat_inj.mp he).symm
          simp [hb, hne, hc]
  exact h ops (fun _ => 0) 0 rfl

lemma MemInv.run {np fuel : Nat} (hf : np < fuel) (ops : List SimOp) {s : SimState}
    {virt : Nat → UInt8} (h : MemInv np s virt)
    (hops : ∀ op ∈ ops, pageIndex op.vaddr.toNat < s.numPages) :
    ∃ outs, simRun fuel s ops = some outs ∧ ∀ i a, ops[i]? = some (.get a) →
      outs[i]? = some (some (flatAfter virt (ops.take i) a.toNat)) := by
  induction ops generalizing s virt with
  | nil => exact ⟨[], rfl, by simp⟩
  | cons op ops ih =>
    have hop := hops op (by simp)
    cases op with
    | get a =>
      obtain ⟨s', hget, hinv, -, hn⟩ := h.get hf a hop
      obtain ⟨outs, hrun, houts⟩ := ih hinv (fun o ho => hn ▸ hops o (by simp [ho]))
      refine ⟨some (virt a.toNat) :: outs, by simp [simRun, simStep, hget, hrun], ?_⟩
      intro i b hb
      cases i with
      | zero =>
        simp only [List.getElem?_cons_zero, Option.some.injEq, SimOp.get.injEq] at hb
        subst hb
        rfl
      | succ i => exact houts i b hb
    | put a c =>
      obtain ⟨s', hput, hinv, -, hn⟩ := h.put hf a c hop
      obtain ⟨outs, hrun, houts⟩ := ih hinv (fun o ho => hn ▸ hops o (by simp [ho]))
      refine ⟨none :: outs, by simp [simRun, simStep, hput, hrun], ?_⟩
      intro i b hb
      cases i with
      | zero => simp at hb
      | succ i => exact houts i b hb

/-- The backend before the first call: no swap file, or a zeroed region with room for `n`
pages. -/
def SwapFresh (n : Nat) : SwapDevice → Prop
  | .files swap => ∀ v, swap v = none
  | .remote size mem => n * pageSize ≤ size ∧ ∀ a, mem a = 0

lemma clockInv_init {phys vir : UInt32} (swap : SwapDevice) (hnp : 1 ≤ phys.toNat / pageSize)
    (hle : phys.toNat / pageSize ≤ vir.toNat / pageSize) :
    ClockInv (phys.toNat / pageSize) (simInit phys vir swap)
      (0 :: List.range' 1 (phys.toNat / pageSize - 1)) := by
  generalize hn : phys.toNat / pageSize = np at hnp hle
  have hmem : ∀ v, v ∈ 0 :: List.range' 1 (np - 1) ↔ v < np := by
    intro v
    rw [List.mem_cons, List.mem_range'_1]
    omega
  have hentry : ∀ v, (simInit phys vir swap).pgtable v =
      if v < np then ⟨v, (v + 1) % np, 1, 0⟩ else ⟨0, 0, -1, 0⟩ := by
    intro v
    simp [simInit, hn]
  have hnext : ∀ v < np, cnextOf (simInit phys vir swap) v = (v + 1) % np := by
    intro v hv
    simp [cnextOf, hentry, hv]
  have hnum : (simInit phys vir swap).numPages = vir.toNat / pageSize := rfl
  have hlast : (simInit phys vir swap).lastC = np - 1 := by simp [simInit, hn]
  refine ⟨⟨?_, ?_⟩, rfl, ?_, ?_, ?_, ?_, ?_, ?_, .inr ?_⟩
  · refine RingPath.range' 0 (np - 1) (fun i _ hi => ?_) ?_
    · rw [hnext i (by omega), Nat.mod_eq_of_lt (by omega)]
    · rw [hnext _ (by omega), show 0 + (np - 1) + 1 = np by omega, Nat.mod_self]
  · rw [List.nodup_cons]
    exact ⟨by rw [List.mem_range'_1]; omega, List.nodup_range'⟩
  · simp only [List.length_cons, List.length_range']
    omega
  · intro v hv
    have := (hmem v).mp hv
    omega
  · intro v _
    rw [hmem]
    unfold Resident
    rw [hentry]
    split <;> simp_all
  · intro v hv
    rw [hentry, if_pos ((hmem v).mp hv)]
    exact .inr rfl
  · rw [hlast]
    omega
  · rw [hlast, hnext _ (by omega), show np - 1 + 1 = np by omega, Nat.mod_self]
    rfl
  · have hc : (simInit phys vir swap).currC = 0 := rfl
    rw [hc, hentry, if_pos (by omega)]

lemma simInit_entry (phys vir : UInt32) (swap : SwapDevice) (w : Nat) :
    (simInit phys vir swap).pgtable w =
      if w < phys.toNat / pageSize then ⟨w, (w + 1) % (phys.toNat / pageSize), 1, 0⟩
      else ⟨0, 0, -1, 0⟩ := rfl

lemma simInit_resident (phys vir : UInt32) (swap : SwapDevice) (w : Nat) :
    Resident (simInit phys vir swap) w ↔ w < phys.toNat / pageSize := by
  unfold Resident
  rw [simInit_entry]
  split <;> simp_all

lemma framed_init {phys vir : UInt32} {swap : SwapDevice} (hnp : 1 ≤ phys.toNat / pageSize)
    (hready : SwapReady (vir.toNat / pageSize) swap) :
    Framed (phys.toNat / pageSize) (simInit phys vir swap) := by
  have hres := simInit_resident phys vir swap
  have hsmall : ∀ n : Nat, n < 2 ^ 32 → n / pageSize ≤ 2 ^ 20 := by
    intro n hn
    unfold pageSize
    omega
  refine ⟨hsmall _ phys.toNat_lt, hsmall _ vir.toNat_lt, Nat.div_mul_le_self _ _, hready, ?_, ?_⟩
  · intro v _ hr
    rw [simInit_entry, if_pos ((hres v).mp hr)]
    exact (hres v).mp hr
  · by_cases hle : phys.toNat / pageSize ≤ vir.toNat / pageSize
    · exact .inr ⟨_, clockInv_init swap hnp hle⟩
    · -- More frames than pages: every page of the table is resident from the start.
      refine .inl fun v hvn => (hres v).mpr ?_
      have hn : (simInit phys vir swap).numPages = vir.toNat / pageSize := rfl
      omega

lemma memInv_init {phys vir : UInt32} {swap : SwapDevice} (hnp : 1 ≤ phys.toNat / pageSize)
    (hsw : SwapFresh (vir.toNat / pageSize) swap) :
    MemInv (phys.toNat / pageSize) (simInit phys vir swap) (fun _ => 0) := by
  have hready : SwapReady (vir.toNat / pageSize) swap := by
    cases swap with
    | files swap => trivial
    | remote size mem => exact hsw.1
  have hframe : ∀ v, Resident (simInit phys vir swap) v →
      ((simInit phys vir swap).pgtable v).pframe = v := by
    intro v hr
    rw [simInit_entry, if_pos ((simInit_resident phys vir swap v).mp hr)]
  refine ⟨framed_init hnp hready, ?_, fun _ _ _ _ _ => rfl, ?_⟩
  · intro v _ w _ hrv hrw he
    rwa [hframe v hrv, hframe w hrw] at he
  · intro v _ _ k _
    cases swap with
    | files swap =>
      have hnone : swap v = none := hsw v
      simp [simInit, swapByte, hnone]
    | remote size mem => exact hsw.2 _

/-- The simulator is flat memory: with enough fuel for one turn of the clock, every sequence
of calls in range runs to its end, and each `get` returns the latest earlier `put` to its
address. -/
theorem simRun_implements_flat_memory (phys vir : UInt32) (swap : SwapDevice)
    (hnp : 1 ≤ phys.toNat / pageSize) (hsw : SwapFresh (vir.toNat / pageSize) swap)
    (fuel : Nat) (hf : phys.toNat / pageSize < fuel) (ops : List SimOp)
    (hops : ∀ op ∈ ops, pageIndex op.vaddr.toNat < vir.toNat / pageSize) :
    ∃ outs, simRun fuel (simInit phys vir swap) ops = some outs ∧
      ∀ i a, ops[i]? = some (.get a) → outs[i]? = some (some (latestPut (ops.take i) a)) := by
  obtain ⟨outs, hrun, houts⟩ := (memInv_init hnp hsw).run hf ops hops
  refine ⟨outs, hrun, fun i a hi => ?_⟩
  rw [houts i a hi, flatAfter_zero]

/-- A one-frame memory: the second page evicts the first one, which is read back from swap. -/
theorem simRun_implements_flat_memory_one_frame :
    ∃ outs, simRun 2 (simInit 4096 8192 (.files fun _ => none))
        [.put 5 7, .get 4096, .get 5] = some outs ∧
      outs[2]? = some (some 7) := by
  obtain ⟨outs, hrun, houts⟩ := simRun_implements_flat_memory 4096 8192 (.files fun _ => none)
    (by decide) (fun _ => rfl) 2 (by decide) [.put 5 7, .get 4096, .get 5] (by decide)
  exact ⟨outs, hrun, houts 2 5 rfl⟩

end DisStore.Proofs
