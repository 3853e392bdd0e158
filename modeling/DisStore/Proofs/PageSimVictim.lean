import DisStore.Proofs.PageSimRing

/-!
# The victim of a page fault

What `page_fault` does in every reachable state, whatever the swap backend held at first: how
far the sweep goes, which page it evicts, when that page is flushed and what the ring, the
entries and the frames are afterwards. The dirty bit of a resident page says whether a `put`
has come since the page was last loaded.
-/

namespace DisStore.Proofs
open DisStore DisStore.Lib

/-- A call that faults page `p` in, made after the calls `before`. -/
def LoadedBy (fuel : Nat) (init : SimState) (before : List SimOp) (op : SimOp) (p : Nat) : Prop :=
  pageIndex op.vaddr.toNat = p ∧
    ∃ s, runActions (simNext fuel) init before = some s ∧ (s.pgtable p).clear = -1

/-- Some `put` of the calls has written to page `p`, and no later call has loaded it. -/
def WrittenSinceLoad (fuel : Nat) (init : SimState) (ops : List SimOp) (p : Nat) : Prop :=
  ∃ l a c l', ops = l ++ .put a c :: l' ∧ pageIndex a.toNat = p ∧
    ∀ l₁ op l₂, l' = l₁ ++ op :: l₂ → ¬LoadedBy fuel init (l ++ .put a c :: l₁) op p

lemma writtenSinceLoad_snoc (fuel : Nat) (init : SimState) (ops : List SimOp) (op : SimOp)
    (p : Nat) :
    WrittenSinceLoad fuel init (ops ++ [op]) p ↔
      (∃ a c, op = .put a c ∧ pageIndex a.toNat = p) ∨
        (WrittenSinceLoad fuel init ops p ∧ ¬LoadedBy fuel init ops op p) := by
  constructor
  · rintro ⟨l, a, c, l', heq, hp, hload⟩
    rcases List.eq_nil_or_concat l' with rfl | ⟨l'', b, rfl⟩
    · obtain ⟨-, hop⟩ := List.append_inj' heq rfl
      exact .inl ⟨a, c, List.singleton_inj.mp hop, hp⟩
    · have hsplit : ops ++ [op] = (l ++ .put a c :: l'') ++ [b] := by simpa using heq
      obtain ⟨rfl, hop⟩ := List.append_inj' hsplit rfl
      obtain rfl := List.singleton_inj.mp hop
      refine .inr ⟨⟨l, a, c, l'', rfl, hp, fun l₁ op' l₂ hl => ?_⟩, hload l'' op [] (by simp)⟩
      exact hload l₁ op' (l₂ ++ [op]) (by simp [hl])
  · rintro (⟨a, c, rfl, hp⟩ | ⟨⟨l, a, c, l', rfl, hp, hload⟩, hnot⟩)
    · exact ⟨ops, a, c, [], rfl, hp, fun l₁ op l₂ hl => by simp at hl⟩
    · refine ⟨l, a, c, l' ++ [op], by simp, hp, fun l₁ op' l₂ hl => ?_⟩
      rcases List.eq_nil_or_concat l₂ with rfl | ⟨l₂', b, rfl⟩
      · obtain ⟨rfl, hop⟩ := List.append_inj' hl rfl
        obtain rfl := List.singleton_inj.mp hop
        exact hnot
      · have hsplit : l' ++ [op] = (l₁ ++ op' :: l₂') ++ [b] := by simpa using hl
        obtain ⟨rfl, -⟩ := List.append_inj' hsplit rfl
        exact hload l₁ op' l₂' rfl

/-- The pages on the ring, from the hand on. -/
def ringFrom (np : Nat) (s : SimState) : List Nat := (List.range np).map (walk s)

/-- The dirty bits tell of `written`, the pages that have been written since they were loaded. -/
structure FrameInv (np : Nat) (s : SimState) (written : Nat → Prop) : Prop
    extends Framed np s where
  dirty : ∀ v < s.numPages, Resident s v → ((s.pgtable v).dirty = 1 ↔ written v)

variable {np fuel : Nat} {s s' t : SimState} {written : Nat → Prop} {v : Nat} {ring : List Nat}

lemma FrameInv.swept (h : FrameInv np s written) (hs : SweptFrom s t) (hr : ClockInv np t ring) :
    FrameInv np t written := by
  refine ⟨h.toFramed.swept hs hr, fun w hw hres => ?_⟩
  rw [hs.dirty]
  exact h.dirty w (hs.numPages ▸ hw) ((hs.resident w).mp hres)

/-- The state after the part of the fault that follows the sweep. -/
structure Replaced (t : SimState) (v : Nat) (written : Prop) (s' : SimState) : Prop where
  hand : s'.currC = v
  entry : (s'.pgtable v).pframe = (t.pgtable t.currC).pframe ∧ (s'.pgtable v).clear = 1 ∧
    (s'.pgtable v).dirty = 0
  others : ∀ w, w ≠ v → (s'.pgtable w).pframe = (t.pgtable w).pframe ∧
    (s'.pgtable w).dirty = (t.pgtable w).dirty
  flushed : written → (pageFlush t t.currC).map SimState.swap = some s'.swap
  kept : ¬written → s'.swap = t.swap
  memory : ∀ a, a / pageSize ≠ (t.pgtable t.currC).pframe → s'.physMem a = t.physMem a

lemma FrameInv.replace (h : FrameInv np t written) {rest : List Nat}
    (hr : ClockInv np t (t.currC :: rest)) (hzero : (t.pgtable t.currC).clear = 0)
    (hv : v < t.numPages) (hnr : ¬Resident t v) :
    ∃ s', pageReplace t v = some s' ∧ ClockInv np s' (v :: rest) ∧
      FrameInv np s' (fun w => w ≠ v ∧ written w) ∧ Resident s' v ∧
      s'.numPages = t.numPages ∧ Replaced t v (written t.currC) s' := by
  have hcb : t.currC < t.numPages := hr.bound _ (by simp)
  have hcr : Resident t t.currC := (hr.resident _ hcb).mpr (by simp)
  have hvc : v ≠ t.currC := fun he => hnr (he ▸ hcr)
  have hcf := h.frame _ hcb hcr
  have hdirty := h.dirty _ hcb hcr
  obtain ⟨swap, hflush, hready, hwritten, hclean⟩ := h.toFramed.flush hcb hcr
  obtain ⟨bytes, hfetch, -⟩ := fetch_ready hready hv h.pages
  have heq := pageReplace_eq (v := v) hflush hfetch (hcf.trans_le h.frames)
    (page_room hcf h.room) hr.lastBound
  have hring : ClockInv np (spliceEntry (loadedState t swap bytes) v) (v :: rest) :=
    hr.replaced hzero hv hnr
  refine ⟨_, heq, hring, ⟨h.toFramed.replaced hvc hcb hcr hready hring, ?_⟩,
    (resident_replaced hvc v).mpr (.inl rfl), rfl, rfl, ?_, ?_, ?_,
    fun hnot => hclean (hdirty.not.mpr hnot), ?_⟩
  · intro w hw hres
    rw [replaced_entry hvc]
    by_cases hwv : w = v
    · simp [hwv]
    · have hold := ((resident_replaced hvc w).mp hres).resolve_left hwv
      simpa [hwv] using h.dirty w hw hold.2
  · rw [replaced_entry hvc, if_pos rfl]
    exact ⟨rfl, rfl, rfl⟩
  · intro w hw
    rw [replaced_entry hvc, if_neg hw]
    exact ⟨rfl, rfl⟩
  · intro hw
    rw [(hwritten (hdirty.mpr hw)).1]
    rfl
  · intro a ha
    refine if_neg fun hin => ha ?_
    unfold pageSize at hin ⊢
    omega

lemma clockSweep_mono {k : Nat} (hk : fuel ≤ k) (h : clockSweep fuel s = some t) :
    clockSweep k s = some t := by
  induction fuel generalizing s k with
  | zero => cases h
  | succ fuel ih =>
    obtain ⟨k, rfl⟩ : ∃ n, k = n + 1 := ⟨k - 1, by omega⟩
    simp only [clockSweep] at h ⊢
    split at h
    · rename_i hb
      rw [if_pos hb]
      split at h
      · rename_i hset
        rw [if_pos hset]
        exact ih (by omega) h
      · rename_i hset
        rw [if_neg hset]
        exact h
    · cases h

/-- The fault of page `v` in state `s`: `t` is the state when the sweep has ended, `s'` the
state after the fault. -/
structure ClockFault (np : Nat) (s : SimState) (v : Nat) (written : Nat → Prop)
    (t s' : SimState) : Prop where
  iterations : (passedOf s (ringFrom np s)).length ≤ np
  sweep : clockSweep ((passedOf s (ringFrom np s)).length + 1) s = some t
  victim : t.currC = victimOf s (ringFrom np s)
  bits : BitsCleared s t (passedOf s (ringFrom np s))
  swept : SweptFrom s t
  fault : ∀ fuel, np < fuel → pageFault fuel s v = some s'
  flush : (t.pgtable t.currC).dirty = 1 ↔ written t.currC
  replaced : Replaced t v (written t.currC) s'
  ring : ∃ rest, (ringFrom np s).rotate (passedOf s (ringFrom np s)).length = t.currC :: rest ∧
    ringFrom np s' = v :: rest

lemma FrameInv.fault (h : FrameInv np s written) (hr : ClockInv np s ring) (hv : v < s.numPages)
    (hnr : ¬Resident s v) :
    ∃ t s', ClockFault np s v written t s' ∧ (∃ ring, ClockInv np s' ring) ∧
      FrameInv np s' (fun w => w ≠ v ∧ written w) ∧ Resident s' v ∧
      s'.numPages = s.numPages := by
  have hwalk : ringFrom np s = ring := hr.map_walk.1
  have hpassed := passedOf_length_le s ring
  rw [hr.length] at hpassed
  obtain ⟨t, hsweep, hcur, hrt, hsw, hbits, hzero⟩ :=
    clockSweep_spec ((passedOf s ring).length + 1) hr (by omega)
  -- the turned ring starts with the victim
  obtain ⟨rest, hrest⟩ : ∃ rest, ring.rotate (passedOf s ring).length = t.currC :: rest := by
    have hhead := hrt.head
    cases hturn : ring.rotate (passedOf s ring).length with
    | nil => simp [hturn] at hhead
    | cons a rest => exact ⟨rest, by simpa [hturn] using hhead⟩
  rw [hrest] at hrt
  have hvt : v < t.numPages := hsw.numPages ▸ hv
  have hnrt : ¬Resident t v := fun hres => hnr ((hsw.resident v).mp hres)
  have ht := h.swept hsw hrt
  have htb : t.currC < t.numPages := hrt.bound _ (by simp)
  have htr : Resident t t.currC := (hrt.resident _ htb).mpr (by simp)
  obtain ⟨s', hreplace, hring', hinv', hres', hnum', hrep⟩ := ht.replace hrt hzero hvt hnrt
  refine ⟨t, s', ?_, ⟨_, hring'⟩, hinv', hres', hnum'.trans hsw.numPages⟩
  constructor
  · rw [hwalk]
    exact hpassed
  · rw [hwalk]
    exact hsweep
  · rw [hwalk]
    exact hcur
  · rw [hwalk]
    exact hbits
  · exact hsw
  · intro fuel hf
    rw [pageFault, clockSweep_mono (by omega) hsweep]
    exact hreplace
  · exact ht.dirty t.currC htb htr
  · exact hrep
  · rw [hwalk]
    exact ⟨rest, hrest, hring'.map_walk.1⟩

lemma FrameInv.touch (h : FrameInv np s written) (hf : np < fuel) (hv : v < s.numPages) :
    ∃ s', pageTouch fuel s v = some s' ∧
      FrameInv np s' (fun w => written w ∧ ¬(v = w ∧ (s.pgtable w).clear = -1)) ∧
      Resident s' v ∧ s'.numPages = s.numPages := by
  by_cases hclear : (s.pgtable v).clear = -1
  · have hnr : ¬Resident s v := fun hres => hres hclear
    obtain ⟨ring, hr⟩ := h.ring.resolve_left fun hall => hnr (hall v hv)
    obtain ⟨t, s', hfault, -, hinv, hres, hnum⟩ := h.fault hr hv hnr
    have hsame : (fun w => written w ∧ ¬(v = w ∧ (s.pgtable w).clear = -1)) =
        fun w => w ≠ v ∧ written w := by
      funext w
      apply propext
      by_cases hw : w = v
      · simp [hw, hclear]
      · simp [hw, Ne.symm hw]
    refine ⟨s', ?_, hsame ▸ hinv, hres, hnum⟩
    rw [pageTouch, if_pos hv, if_pos hclear]
    exact hfault.fault fuel hf
  · have hsame : (fun w => written w ∧ ¬(v = w ∧ (s.pgtable w).clear = -1)) = written := by
      funext w
      apply propext
      refine and_iff_left ?_
      rintro ⟨rfl, hw⟩
      exact hclear hw
    refine ⟨s, ?_, hsame.symm ▸ h, hclear, rfl⟩
    rw [pageTouch, if_pos hv, if_neg hclear]

lemma FrameInv.reference (h : FrameInv np s written) (hrv : Resident s v) (d : Int)
    (written' : Nat → Prop) (hv : d = 1 ↔ written' v)
    (hother : ∀ w, w ≠ v → (written' w ↔ written w)) :
    FrameInv np (s.setEntry v fun e => { e with dirty := d, clear := 1 }) written' := by
  have hres := reference_resident d hrv
  refine ⟨h.toFramed.reference d hrv, fun w hw hrw => ?_⟩
  rw [reference_entry]
  by_cases hwv : w = v
  · rw [if_pos hwv, hwv]
    exact hv
  · rw [if_neg hwv, hother w hwv]
    exact h.dirty w hw ((hres w).mp hrw)

lemma FrameInv.write (h : FrameInv np s written) (mem : Nat → UInt8) :
    FrameInv np { s with physMem := mem } written :=
  ⟨h.toFramed.write mem, h.dirty⟩

lemma FrameInv.get (h : FrameInv np s written) (hf : np < fuel) (a : UInt32)
    (ha : pageIndex a.toNat < s.numPages) :
    ∃ c s', simGet fuel s a = some (c, s') ∧
      FrameInv np s' (fun w => written w ∧ ¬(pageIndex a.toNat = w ∧ (s.pgtable w).clear = -1)) ∧
      s'.numPages = s.numPages := by
  obtain ⟨s₁, htouch, h₁, hr₁, hn₁⟩ := h.touch hf ha
  have ha₁ : pageIndex a.toNat < s₁.numPages := hn₁ ▸ ha
  have h₂ := h₁.reference hr₁ (s₁.pgtable (pageIndex a.toNat)).dirty _ (h₁.dirty _ ha₁ hr₁)
    (fun _ _ => Iff.rfl)
  obtain ⟨-, hlt, -, -⟩ := h₂.access ha₁ (resident_setEntry s₁ (pageIndex a.toNat) _)
  refine ⟨?byte, _, ?call, h₂, hn₁⟩
  case call =>
    simp only [simGet, htouch, Option.bind_eq_bind, Option.bind_some]
    exact if_pos hlt

lemma FrameInv.put (h : FrameInv np s written) (hf : np < fuel) (a : UInt32) (c : UInt8)
    (ha : pageIndex a.toNat < s.numPages) :
    ∃ s', simPut fuel s a c = some s' ∧
      FrameInv np s' (fun w => pageIndex a.toNat = w ∨
        (written w ∧ ¬(pageIndex a.toNat = w ∧ (s.pgtable w).clear = -1))) ∧
      s'.numPages = s.numPages := by
  obtain ⟨s₁, htouch, h₁, hr₁, hn₁⟩ := h.touch hf ha
  have ha₁ : pageIndex a.toNat < s₁.numPages := hn₁ ▸ ha
  have h₂ := h₁.reference hr₁ 1 (fun w => pageIndex a.toNat = w ∨
      (written w ∧ ¬(pageIndex a.toNat = w ∧ (s.pgtable w).clear = -1)))
    ⟨fun _ => .inl rfl, fun _ => rfl⟩ (fun w hw => or_iff_right (Ne.symm hw))
  obtain ⟨-, hlt, -, -⟩ := h₂.access ha₁ (resident_setEntry s₁ (pageIndex a.toNat) 1)
  refine ⟨_, ?call, h₂.write ?mem, hn₁⟩
  case call =>
    simp only [simPut, htouch, Option.bind_eq_bind, Option.bind_some]
    exact if_pos hlt

/-- One call: the pages written since they were loaded are the ones before it that it has not
loaded, and the page that it writes. -/
lemma FrameInv.next (h : FrameInv np s written) (hf : np < fuel) (op : SimOp)
    (hop : pageIndex op.vaddr.toNat < s.numPages) :
    ∃ s', simNext fuel s op = some s' ∧ s'.numPages = s.numPages ∧
      FrameInv np s' (fun w => (∃ a c, op = .put a c ∧ pageIndex a.toNat = w) ∨
        (written w ∧ ¬(pageIndex op.vaddr.toNat = w ∧ (s.pgtable w).clear = -1))) := by
  cases op with
  | get a =>
    obtain ⟨c, s', hget, hinv, hn⟩ := h.get hf a hop
    refine ⟨s', by simp [simNext, simStep, hget], hn, ?_⟩
    simpa [SimOp.vaddr] using hinv
  | put a c =>
    obtain ⟨s', hput, hinv, hn⟩ := h.put hf a c hop
    refine ⟨s', by simp [simNext, simStep, hput], hn, ?_⟩
    simpa [SimOp.vaddr] using hinv

lemma frameInv_init {phys vir : UInt32} {swap : SwapDevice} (hnp : 1 ≤ phys.toNat / pageSize)
    (hready : SwapReady (vir.toNat / pageSize) swap) :
    FrameInv (phys.toNat / pageSize) (simInit phys vir swap) (fun _ => False) := by
  refine ⟨framed_init hnp hready, fun w _ hr => ?_⟩
  rw [simInit_entry, if_pos ((simInit_resident phys vir swap w).mp hr)]
  simp

lemma frameInv_run {phys vir : UInt32} {swap : SwapDevice} (hnp : 1 ≤ phys.toNat / pageSize)
    (hready : SwapReady (vir.toNat / pageSize) swap) (hf : phys.toNat / pageSize < fuel)
    (ops : List SimOp) (hops : ∀ op ∈ ops, pageIndex op.vaddr.toNat < vir.toNat / pageSize) :
    ∃ s, runActions (simNext fuel) (simInit phys vir swap) ops = some s ∧
      s.numPages = vir.toNat / pageSize ∧
      FrameInv (phys.toNat / pageSize) s
        (WrittenSinceLoad fuel (simInit phys vir swap) ops) := by
  induction ops using List.reverseRecOn with
  | nil =>
    have hnone : WrittenSinceLoad fuel (simInit phys vir swap) [] = fun _ => False := by
      funext p
      apply propext
      refine ⟨?_, False.elim⟩
      rintro ⟨l, a, c, l', heq, -⟩
      simp at heq
    exact ⟨_, rfl, rfl, hnone ▸ frameInv_init hnp hready⟩
  | append_singleton ops op ih =>
    obtain ⟨s, hrun, hnum, hinv⟩ := ih fun o ho => hops o (by simp [ho])
    obtain ⟨s', hstep, hnum', hinv'⟩ := hinv.next hf op (hnum ▸ hops op (by simp))
    refine ⟨s', ?_, hnum'.trans hnum, ?_⟩
    · rw [runActions_snoc, hrun]
      exact hstep
    · have hsame : WrittenSinceLoad fuel (simInit phys vir swap) (ops ++ [op]) =
          fun w => (∃ a c, op = .put a c ∧ pageIndex a.toNat = w) ∨
            (WrittenSinceLoad fuel (simInit phys vir swap) ops w ∧
              ¬(pageIndex op.vaddr.toNat = w ∧ (s.pgtable w).clear = -1)) := by
        funext w
        apply propext
        rw [writtenSinceLoad_snoc]
        have hloaded : LoadedBy fuel (simInit phys vir swap) ops op w ↔
            pageIndex op.vaddr.toNat = w ∧ (s.pgtable w).clear = -1 := by
          refine and_congr_right fun _ => ⟨?_, fun hc => ⟨s, hrun, hc⟩⟩
          rintro ⟨t, ht, hc⟩
          obtain rfl := Option.some_inj.mp (ht.symm.trans hrun)
          exact hc
        rw [hloaded]
      rw [hsame]
      exact hinv'

/-- In every reachable state, for every page that is not resident: the sweep ends within a turn
of the ring at the right victim, which is flushed iff it has been written since it was loaded,
and the page takes the victim's place and frame. -/
theorem page_fault_replaces_victim (phys vir : UInt32) (swap : SwapDevice)
    (hnp : 1 ≤ phys.toNat / pageSize) (hready : SwapReady (vir.toNat / pageSize) swap)
    (fuel : Nat) (hf : phys.toNat / pageSize < fuel) (ops : List SimOp)
    (hops : ∀ op ∈ ops, pageIndex op.vaddr.toNat < vir.toNat / pageSize) :
    ∃ s, runActions (simNext fuel) (simInit phys vir swap) ops = some s ∧
      ∀ v < vir.toNat / pageSize, (s.pgtable v).clear = -1 →
        ∃ t s', ClockFault (phys.toNat / pageSize) s v
          (WrittenSinceLoad fuel (simInit phys vir swap) ops) t s' := by
  obtain ⟨s, hrun, hnum, hinv⟩ := frameInv_run hnp hready hf ops hops
  refine ⟨s, hrun, fun v hv hclear => ?_⟩
  have hnr : ¬Resident s v := fun hres => hres hclear
  obtain ⟨ring, hr⟩ := hinv.ring.resolve_left fun hall => hnr (hall v (hnum ▸ hv))
  obtain ⟨t, s', hfault, -⟩ := hinv.fault hr (hnum ▸ hv) hnr
  exact ⟨t, s', hfault⟩

/-- Two frames and three pages: the written page at the hand is the victim. -/
theorem page_fault_replaces_victim_two_frames :
    ∃ s, runActions (simNext 3) (simInit 8192 12288 (.files fun _ => none)) [.put 5 7] = some s ∧
      ∃ t s', ClockFault 2 s 2
        (WrittenSinceLoad 3 (simInit 8192 12288 (.files fun _ => none)) [.put 5 7]) t s' := by
  obtain ⟨s, hrun, hfault⟩ := page_fault_replaces_victim 8192 12288 (.files fun _ => none)
    (by decide) trivial 3 (by decide) [.put 5 7] (by decide)
  have hclear : (s.pgtable 2).clear = -1 := by
    rw [← Option.some_inj.mp hrun]
    rfl
  exact ⟨s, hrun, hfault 2 (by decide) hclear⟩

end DisStore.Proofs
