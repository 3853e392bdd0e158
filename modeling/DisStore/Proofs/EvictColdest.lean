import DisStore.Proofs.DaemonAccounting
import DisStore.Proofs.StopMessages

/-!
# An eviction frees the coldest slabs

The partial exchange sort of `evict_mem` puts the smallest activities in front, although it is
stopped before the list is sorted and acts on each entry as soon as it is placed. What is freed
at once and what the clients give back add up to the size that was asked for.
-/

namespace DisStore.Proofs
open DisStore DisStore.Lib

variable {cfg : DaemonConfig} {d : DaemonState} {k : Nat} {ev : Nat → ChunkActivity}

/-! ### The sort -/

lemma exchangeActivity_order {n m : Nat} (hnm : n ≠ m) (ev : Nat → ChunkActivity) :
    (exchangeActivity n ev m n).activity = min (ev n).activity (ev m).activity ∧
      (exchangeActivity n ev m n).activity ≤ (exchangeActivity n ev m m).activity ∧
      ∀ p, p ≠ n → (ev p).activity ≤ (exchangeActivity n ev m p).activity := by
  unfold exchangeActivity
  split_ifs with hlt
  · refine ⟨?_, ?_, ?_⟩
    · rw [Function.update_of_ne hnm, Function.update_self]
      omega
    · rw [Function.update_of_ne hnm, Function.update_self, Function.update_self]
      omega
    · intro p hp
      by_cases hpm : p = m
      · rw [hpm, Function.update_self]
        omega
      · rw [Function.update_of_ne hpm, Function.update_of_ne hp]
  · exact ⟨by omega, by omega, fun p _ => le_rfl⟩

lemma foldl_exchangeActivity_order {n : Nat} (ms : List Nat) (hms : ∀ m ∈ ms, n ≠ m)
    (ev : Nat → ChunkActivity) :
    (ms.foldl (exchangeActivity n) ev n).activity ≤ (ev n).activity ∧
      (∀ m ∈ ms, (ms.foldl (exchangeActivity n) ev n).activity ≤
        (ms.foldl (exchangeActivity n) ev m).activity) ∧
      (∀ p, p ≠ n → (ev p).activity ≤ (ms.foldl (exchangeActivity n) ev p).activity) ∧
      ∀ x, x ≤ (ev n).activity → (∀ m ∈ ms, x ≤ (ev m).activity) →
        x ≤ (ms.foldl (exchangeActivity n) ev n).activity := by
  induction ms generalizing ev with
  | nil => exact ⟨le_rfl, by simp, fun p _ => le_rfl, fun x hx _ => hx⟩
  | cons m ms ih =>
    have hnm : n ≠ m := hms m List.mem_cons_self
    obtain ⟨hmin, hle, hup⟩ := exchangeActivity_order hnm ev
    obtain ⟨hn, hleast, hrest, hlow⟩ :=
      ih (fun m' hm' => hms m' (List.mem_cons_of_mem _ hm')) (exchangeActivity n ev m)
    rw [List.foldl_cons]
    refine ⟨hn.trans (by omega), ?_, ?_, ?_⟩
    · intro m' hm'
      rcases List.mem_cons.mp hm' with rfl | hm'
      · exact hn.trans (hle.trans (hrest m' hnm.symm))
      · exact hleast m' hm'
    · intro p hp
      exact (hup p hp).trans (hrest p hp)
    · intro x hx hall
      have hxm := hall m List.mem_cons_self
      apply hlow x (by omega)
      intro m' hm'
      have hne := (hms m' (List.mem_cons_of_mem _ hm')).symm
      exact (hall m' (List.mem_cons_of_mem _ hm')).trans (hup m' hne)

lemma foldl_exchangeActivity_before {n p : Nat} (ms : List Nat) (hms : ∀ m ∈ ms, n < m)
    (hp : p < n) (ev : Nat → ChunkActivity) : ms.foldl (exchangeActivity n) ev p = ev p := by
  induction ms generalizing ev with
  | nil => rfl
  | cons m ms ih =>
    rw [List.foldl_cons, ih fun m' hm' => hms m' (List.mem_cons_of_mem _ hm')]
    have hm := hms m List.mem_cons_self
    unfold exchangeActivity
    split
    · rw [Function.update_of_ne (by omega), Function.update_of_ne (by omega)]
    · rfl

/-- The first `n` places hold the smallest activities, in order. -/
def SortedFront (k n : Nat) (ev : Nat → ChunkActivity) : Prop :=
  ∀ i < n, ∀ m, i < m → m < k → (ev i).activity ≤ (ev m).activity

lemma SortedFront.placeColdest {n : Nat} (h : SortedFront k n ev) :
    SortedFront k (n + 1) (placeColdest k n ev) := by
  have hms : ∀ m ∈ List.range' (n + 1) (k - (n + 1)), n < m ∧ m < k := by
    intro m hm
    rw [List.mem_range'_1] at hm
    omega
  obtain ⟨-, hleast, hup, hlow⟩ := foldl_exchangeActivity_order (n := n)
    (List.range' (n + 1) (k - (n + 1))) (fun m hm => by have := hms m hm; omega) ev
  have hbefore := fun p hp => foldl_exchangeActivity_before (p := p)
    (List.range' (n + 1) (k - (n + 1))) (fun m hm => (hms m hm).1) hp ev
  intro i hi m him hmk
  unfold DisStore.placeColdest
  by_cases hin : i = n
  · subst hin
    apply hleast m
    rw [List.mem_range'_1]
    omega
  · have hlt : i < n := by omega
    rw [hbefore i hlt]
    by_cases hmn : m < n
    · rw [hbefore m hmn]
      exact h i hlt m him hmk
    · by_cases hmn' : m = n
      · subst hmn'
        apply hlow _ (h i hlt m him hmk)
        intro m' hm'
        have hm' := hms m' hm'
        exact h i hlt m' (by omega) hm'.2
      · exact (h i hlt m him hmk).trans (hup m hmn')

lemma sortedFront_coldestFirst (k : Nat) (ev : Nat → ChunkActivity) (n : Nat) :
    SortedFront k n (coldestFirst k ev n) := by
  induction n with
  | zero => exact fun i hi => by omega
  | succ n ih => exact ih.placeColdest

lemma coldestFirst_perm (k : Nat) (ev : Nat → ChunkActivity) (n : Nat) (hn : n ≤ k) :
    ∃ σ : Equiv.Perm Nat, (∀ i, σ i < k ↔ i < k) ∧ coldestFirst k ev n = ev ∘ σ := by
  have hswap : ∀ {a b : Nat}, a < k → b < k → ∀ i, Equiv.swap a b i < k ↔ i < k := by
    intro a b ha hb i
    rw [Equiv.swap_apply_def]
    split_ifs <;> omega
  have hloop : ∀ (n : Nat) (ms : List Nat) (ev : Nat → ChunkActivity), n < k → (∀ m ∈ ms, m < k) →
      ∃ σ : Equiv.Perm Nat, (∀ i, σ i < k ↔ i < k) ∧ ms.foldl (exchangeActivity n) ev = ev ∘ σ := by
    intro n ms
    induction ms with
    | nil => exact fun ev _ _ => ⟨1, fun i => Iff.rfl, rfl⟩
    | cons m ms ih =>
      intro ev hnk hms
      obtain ⟨σ, hσ, he⟩ := ih (exchangeActivity n ev m) hnk fun m' hm' =>
        hms m' (List.mem_cons_of_mem _ hm')
      rw [List.foldl_cons, he]
      rcases exchangeActivity_swap n m ev with hno | hex
      · exact ⟨σ, hσ, by rw [hno]⟩
      · refine ⟨σ.trans (Equiv.swap n m), ?_, ?_⟩
        · intro i
          rw [Equiv.trans_apply, hswap hnk (hms m List.mem_cons_self), hσ]
        · rw [hex]
          rfl
  induction n with
  | zero => exact ⟨1, fun i => Iff.rfl, rfl⟩
  | succ n ih =>
    obtain ⟨σ, hσ, he⟩ := ih (by omega)
    obtain ⟨τ, hτ, he'⟩ := hloop n (List.range' (n + 1) (k - (n + 1))) (coldestFirst k ev n)
      (by omega) (fun m hm => by rw [List.mem_range'_1] at hm; omega)
    refine ⟨τ.trans σ, ?_, ?_⟩
    · intro i
      rw [Equiv.trans_apply, hσ, hτ]
    · change placeColdest k n (coldestFirst k ev n) = _
      rw [placeColdest, he', he]
      rfl

lemma coldestSlabs_coldest {P : Nat → Prop} (h : Listed k P ev) {n : Nat} (hn : n ≤ k) {p q : Nat}
    (hp : p < k) (hq : q < k) (hfront : (ev p).chunkIndex ∈ coldestSlabs k ev n)
    (hrest : (ev q).chunkIndex ∉ coldestSlabs k ev n) :
    (ev p).activity ≤ (ev q).activity := by
  obtain ⟨σ, hσ, he⟩ := coldestFirst_perm k ev n hn
  have hplace : ∀ i, coldestFirst k ev n (σ.symm i) = ev i := by
    intro i
    rw [he, Function.comp_apply, Equiv.apply_symm_apply]
  have hlt : ∀ i, σ.symm i < k ↔ i < k := by
    intro i
    rw [← hσ, Equiv.apply_symm_apply]
  -- the slab of `p` is in front, and no other entry has that slab
  obtain ⟨i, hi, hidx⟩ := List.mem_map.mp hfront
  have hi := List.mem_range.mp hi
  have hpi : σ i = p := by
    apply h.inj _ _ ((hσ i).mpr (by omega)) hp
    rw [← hidx, he]
    rfl
  have hfirst : σ.symm p = i := by
    rw [← hpi, Equiv.symm_apply_apply]
  have hback : n ≤ σ.symm q := by
    by_contra hlt'
    apply hrest
    rw [← hplace q]
    exact List.mem_map_of_mem (List.mem_range.mpr (by omega))
  have hsorted := sortedFront_coldestFirst k ev n i hi (σ.symm q) (by omega) ((hlt q).mpr hq)
  rw [hplace q, ← hfirst, hplace p] at hsorted
  exact hsorted

/-! ### What the round leaves allocated -/

/-- The map of a connection names slabs by their own index. -/
def SelfIndexed (cfg : DaemonConfig) (d : DaemonState) : Prop :=
  ∀ k c, d.heap k = some c → ∀ i < cfg.maxFreeMemGb, c.sessChunkMap i = -1 ∨ c.sessChunkMap i = i

/-- The slabs that are allocated, in a state whose connections name slabs by their index. -/
structure Allocated (cfg : DaemonConfig) (mallocMap : Nat → Bool) (d : DaemonState) : Prop where
  malloc : d.mallocMap = mallocMap
  sess : SelfIndexed cfg d

variable {mallocMap : Nat → Bool}

lemma SelfIndexed.updateConn (h : SelfIndexed cfg d) (id : ConnId) {f : Connection → Connection}
    (hf : ∀ c i, (f c).sessChunkMap i = c.sessChunkMap i ∨ (f c).sessChunkMap i = -1) :
    SelfIndexed cfg (d.updateConn id f) := by
  intro k c hc i hi
  obtain ⟨c₀, hc₀, rfl⟩ := updateConn_some hc
  have h₀ := h k c₀ hc₀ i hi
  split
  · rcases hf c₀ i with he | he
    · rwa [he]
    · exact .inl he
  · exact h₀

lemma Allocated.updateConn (h : Allocated cfg mallocMap d) (id : ConnId)
    {f : Connection → Connection} (hf : ∀ c, (f c).sessChunkMap = c.sessChunkMap) :
    Allocated cfg mallocMap (d.updateConn id f) :=
  ⟨h.malloc, h.sess.updateConn id fun c i => .inl (congrFun (hf c) i)⟩

lemma RoundReady.allocated (h : RoundReady cfg d) : Allocated cfg d.mallocMap d := by
  refine ⟨rfl, fun k c hc i hi => ?_⟩
  rw [(h.books 0).sess k c hc i hi]
  split
  · exact .inr rfl
  · exact .inl rfl

lemma Allocated.forSlots (h : Allocated cfg mallocMap d)
    (step : DaemonState → ConnId → Option (DaemonState × Outbox))
    (hstep : ∀ d id d' out, Allocated cfg mallocMap d → step d id = some (d', out) →
      Allocated cfg mallocMap d') (slots : List Nat) {r : DaemonState × Outbox}
    (hr : forSlots step slots d = some r) : Allocated cfg mallocMap r.1 := by
  induction slots generalizing d r with
  | nil =>
    rw [← Option.some.inj hr]
    exact h
  | cons i slots ih =>
    simp only [DisStore.forSlots, Option.bind_eq_bind, Option.bind_eq_some_iff] at hr
    obtain ⟨id, -, r₁, h₁, r₂, h₂, hr⟩ := hr
    rw [← Option.some.inj hr]
    exact ih (r := r₂) (hstep d id r₁.1 r₁.2 h h₁) h₂

lemma Allocated.collectActivity (h : Allocated cfg mallocMap d) (slots : List Nat)
    {r : DaemonState × List ChunkActivity} (hr : collectActivity cfg slots d = some r) :
    Allocated cfg mallocMap r.1 := by
  induction slots generalizing d r with
  | nil =>
    rw [← Option.some.inj hr]
    exact h
  | cons i slots ih =>
    simp only [DisStore.collectActivity, Option.bind_eq_bind, Option.bind_eq_some_iff] at hr
    obtain ⟨id, -, c, -, -, -, r₁, h₁, hr⟩ := hr
    rw [← Option.some.inj hr]
    exact ih (r := r₁) (h.updateConn id (f := takeActivity) fun _ => rfl) h₁

lemma Allocated.flagLoop {r r' : RoundState} (h : Allocated cfg mallocMap r.daemon) (k : Nat)
    (ns : List Nat) (hr : ns.foldlM (flagColdest k) r = some r') :
    Allocated cfg mallocMap r'.daemon := by
  induction ns generalizing r with
  | nil =>
    rw [← Option.some.inj hr]
    exact h
  | cons n ns ih =>
    simp only [List.foldlM_cons, Option.bind_eq_bind, Option.bind_eq_some_iff] at hr
    obtain ⟨r₁, h₁, hr⟩ := hr
    apply ih _ hr
    simp only [flagColdest, Option.bind_eq_bind, Option.bind_eq_some_iff] at h₁
    obtain ⟨id, -, h₁⟩ := h₁
    rw [← Option.some.inj h₁]
    exact h.updateConn id fun _ => rfl

lemma Allocated.recvDoneSlot (h : Allocated cfg mallocMap d) (id : ConnId) {i : Nat}
    (hi : i < cfg.maxFreeMemGb) {d' : DaemonState} (hr : recvDoneSlot d id i = some d') :
    Allocated cfg (Function.update mallocMap i false) d' := by
  simp only [DisStore.recvDoneSlot, Option.bind_eq_bind, Option.bind_eq_some_iff] at hr
  obtain ⟨c, hc, _, hguard, hr⟩ := hr
  have hindex : 0 ≤ c.sessChunkMap i := by
    by_contra hneg
    simp [guard, hneg] at hguard
  have hself : (c.sessChunkMap i).toNat = i := by
    have := h.sess id c hc i hi
    omega
  rw [← Option.some.inj hr, hself]
  constructor
  · exact congrArg (Function.update · i false) h.malloc
  · apply h.sess.updateConn id
    intro c' j
    by_cases hj : j = i
    · exact .inr (hj ▸ Function.update_self ..)
    · exact .inl (Function.update_of_ne hj ..)

/-- What is allocated once the slabs of a list are given back. -/
def givenBack (mallocMap : Nat → Bool) (slabs : List Nat) : Nat → Bool := fun i =>
  mallocMap i && !decide (i ∈ slabs)

lemma givenBack_update (mallocMap : Nat → Bool) (i : Nat) (slabs : List Nat) :
    givenBack (Function.update mallocMap i false) slabs = givenBack mallocMap (i :: slabs) := by
  funext j
  unfold givenBack
  by_cases hj : j = i
  · subst hj
    simp
  · simp [hj]

lemma givenBack_givenBack (mallocMap : Nat → Bool) (slabs slabs' : List Nat) :
    givenBack (givenBack mallocMap slabs) slabs' = givenBack mallocMap (slabs ++ slabs') := by
  funext j
  simp only [givenBack, List.mem_append, Bool.decide_or, Bool.not_or, Bool.and_assoc]

@[simp]
lemma givenBack_nil (mallocMap : Nat → Bool) : givenBack mallocMap [] = mallocMap := by
  funext j
  simp [givenBack]

lemma Allocated.recvDoneSlots (h : Allocated cfg mallocMap d) (id : ConnId) (slabs : List Nat)
    (hlt : ∀ i ∈ slabs, i < cfg.maxFreeMemGb) {d' : DaemonState}
    (hr : slabs.foldlM (fun d i => DisStore.recvDoneSlot d id i) d = some d') :
    Allocated cfg (givenBack mallocMap slabs) d' := by
  induction slabs generalizing d mallocMap with
  | nil =>
    rw [← Option.some.inj hr, givenBack_nil]
    exact h
  | cons i slabs ih =>
    simp only [List.foldlM_cons, Option.bind_eq_bind, Option.bind_eq_some_iff] at hr
    obtain ⟨d₁, h₁, hr⟩ := hr
    rw [← givenBack_update]
    exact ih (h.recvDoneSlot id (hlt i List.mem_cons_self) h₁)
      (fun j hj => hlt j (List.mem_cons_of_mem _ hj)) hr

lemma Allocated.recvDone (h : Allocated cfg mallocMap d) {id : ConnId} {c : Connection}
    (hc : d.heap id = some c) {d' : DaemonState} (hr : recvDone cfg d id = some d') :
    Allocated cfg (givenBack mallocMap (flaggedSlots cfg c.recvMsg)) d' := by
  simp only [DisStore.recvDone, hc, Option.bind_eq_bind, Option.bind_some,
    Option.bind_eq_some_iff] at hr
  obtain ⟨d₁, h₁, hr⟩ := hr
  have hfreed := h.recvDoneSlots id (flaggedSlots cfg c.recvMsg)
    (fun i hi => List.mem_range.mp (List.mem_filter.mp hi).1) h₁
  set d₂ : DaemonState := { d₁ with
    sizeGb := d₁.sizeGb - c.recvMsg.sizeGb
    mappedSize := d₁.mappedSize - c.recvMsg.sizeGb }
  have hcount : Allocated cfg (givenBack mallocMap (flaggedSlots cfg c.recvMsg)) d₂ :=
    ⟨hfreed.malloc, hfreed.sess⟩
  have hlast := hcount.updateConn id (f := fun c' => { c' with
    mappedChunkSize := c'.mappedChunkSize - c.recvMsg.sizeGb
    stopSem := c'.stopSem + 1 }) fun _ => rfl
  split at hr
  · rw [← Option.some.inj hr]
    exact ⟨hlast.malloc, hlast.sess⟩
  · rw [← Option.some.inj hr]
    exact hlast

/-- The slabs that the answers to the STOP messages give back. -/
def returnedSlabs (cfg : DaemonConfig) (stops : Outbox) : List Nat :=
  stops.flatMap fun x => if x.2.sizeGb ≠ 0 then flaggedSlots cfg x.2 else []

lemma flaggedSlots_doneReply (cfg : DaemonConfig) (stop : Message) :
    flaggedSlots cfg (doneReply stop) = flaggedSlots cfg stop := by
  unfold flaggedSlots doneReply
  apply List.filter_congr
  intro i _
  by_cases hi : stop.rkey i = 0 <;> simp [hi]

lemma Allocated.stopConnection (h : Allocated cfg mallocMap d) (mr : Nat → MemRegion) (n : Int)
    (id : ConnId) {r : DaemonState × Outbox} (hr : stopConnection cfg mr n d id = some r) :
    Allocated cfg (givenBack mallocMap (returnedSlabs cfg r.2)) r.1 := by
  have hsent := h.updateConn id (f := fun c =>
    { c with sendMsg := { c.sendMsg with type := .stop, sizeGb := n } }) fun _ => rfl
  cases hc : d.heap id with
  | none =>
    have hheap : (d.updateConn id fun c =>
        { c with sendMsg := { c.sendMsg with type := .stop, sizeGb := n } }).heap id = none := by
      rw [updateConn_heap, if_pos rfl, hc]
      rfl
    simp only [DisStore.stopConnection, sendStop, sendMessage, hheap] at hr
    split at hr
    · simp at hr
    · rw [← Option.some.inj hr]
      simpa [returnedSlabs] using hsent
  | some c =>
    simp only [DisStore.stopConnection, sendStop, sendMessage_updateConn hc] at hr
    have hout : returnedSlabs cfg [(id, { c.sendMsg with type := .stop, sizeGb := n })] =
        if n ≠ 0 then flaggedSlots cfg { c.sendMsg with type := .stop, sizeGb := n } else [] := by
      simp [returnedSlabs]
    split at hr
    · rename_i hn
      simp only [List.head?_cons, Option.bind_eq_bind, Option.bind_some,
        Option.bind_eq_some_iff] at hr
      obtain ⟨r₁, hdone, hr⟩ := hr
      rw [← Option.some.inj hr, hout, if_pos hn]
      set stop : Message := { c.sendMsg with type := .stop, sizeGb := n }
      have hc₁ := updateConn_of_some id (fun c =>
        { c with sendMsg := { c.sendMsg with type := .stop, sizeGb := n } }) hc
      rw [if_pos rfl] at hc₁
      have hrecv := hsent.updateConn id (f := fun c => { c with recvMsg := doneReply stop })
        fun _ => rfl
      have hc₂ := updateConn_of_some id (fun c => { c with recvMsg := doneReply stop }) hc₁
      rw [if_pos rfl] at hc₂
      simp only [onRecv, hc₁, Option.bind_eq_bind, Option.bind_some] at hdone
      obtain ⟨d₁, hd₁, hr₁⟩ := Option.map_eq_some_iff.mp hdone
      have hfreed := hrecv.recvDone hc₂ hd₁
      rw [flaggedSlots_doneReply] at hfreed
      rw [← hr₁]
      exact hfreed.updateConn id fun _ => rfl
    · rename_i hn
      rw [← Option.some.inj hr, hout, if_neg hn, givenBack_nil]
      exact hsent

lemma returnedSlabs_append (cfg : DaemonConfig) (out out' : Outbox) :
    returnedSlabs cfg (out ++ out') = returnedSlabs cfg out ++ returnedSlabs cfg out' :=
  List.flatMap_append ..

lemma Allocated.stopLoop (h : Allocated cfg mallocMap d) (mr : Nat → MemRegion)
    (sendList : Int → Int) (connIndex : Int) (slots : List Nat) {r : DaemonState × Outbox}
    (hr : stopLoop cfg mr sendList connIndex slots d = some r) :
    Allocated cfg (givenBack mallocMap (returnedSlabs cfg r.2)) r.1 := by
  induction slots generalizing d mallocMap r with
  | nil =>
    rw [← Option.some.inj hr]
    simpa [returnedSlabs] using h
  | cons i slots ih =>
    have hsplit : ∃ r₁ r₂ : DaemonState × Outbox,
        Allocated cfg (givenBack mallocMap (returnedSlabs cfg r₁.2)) r₁.1 ∧
        DisStore.stopLoop cfg mr sendList connIndex slots r₁.1 = some r₂ ∧
        (r₂.1, r₁.2 ++ r₂.2) = r := by
      simp only [DisStore.stopLoop, Option.bind_eq_bind] at hr
      split at hr
      · simp only [Option.bind_eq_some_iff] at hr
        obtain ⟨last, -, id, -, r₁, hone, r₂, hrest, hr⟩ := hr
        exact ⟨r₁, r₂, h.stopConnection mr _ id hone, hrest, Option.some.inj hr⟩
      · split at hr
        · simp only [Option.bind_eq_some_iff] at hr
          obtain ⟨id, -, r₁, hone, r₂, hrest, hr⟩ := hr
          exact ⟨r₁, r₂, h.stopConnection mr _ id hone, hrest, Option.some.inj hr⟩
        · rw [Option.bind_some, Option.bind_eq_some_iff] at hr
          obtain ⟨r₂, hrest, hr⟩ := hr
          refine ⟨(d, []), r₂, ?_, hrest, Option.some.inj hr⟩
          simpa [returnedSlabs] using h
    obtain ⟨r₁, r₂, hfirst, hrest, rfl⟩ := hsplit
    have hall := ih (r := r₂) hfirst hrest
    rw [givenBack_givenBack, ← returnedSlabs_append] at hall
    exact hall

lemma Allocated.evictRound (h : Allocated cfg mallocMap d) (mr : Nat → MemRegion)
    (rand : Nat → Nat) {reply : ConnId → Message} (hreply : ∀ id, (reply id).type = .activity)
    (junk : Nat → ChunkActivity) (evictG : Int) {r : EvictRound}
    (hr : evictRound cfg mr rand reply junk d evictG = some r) :
    Allocated cfg (givenBack mallocMap (returnedSlabs cfg r.stops)) r.daemon := by
  simp only [DisStore.evictRound, Option.bind_eq_bind, Option.bind_eq_some_iff] at hr
  obtain ⟨⟨j, sendList⟩, -, k, -, r₁, hev, r₂, hrecv, r₃, hcollect, r₄, hflag, r₅, hstop, hr⟩ := hr
  have hsend : ∀ d id d' out, Allocated cfg mallocMap d → some (sendEvict d id j) = some (d', out) →
      Allocated cfg mallocMap d' := by
    intro d id d' out hd he
    obtain ⟨rfl, -⟩ := Prod.mk.inj (Option.some.inj he)
    exact hd.updateConn id fun _ => rfl
  have hactivity : ∀ d id d' out, Allocated cfg mallocMap d →
      onRecv cfg mr d id (reply id) = some (d', out) → Allocated cfg mallocMap d' := by
    intro d id d' out hd he
    simp only [onRecv, hreply id, Option.bind_eq_bind, Option.bind_eq_some_iff] at he
    obtain ⟨c, -, he⟩ := he
    obtain ⟨rfl, -⟩ := Prod.mk.inj (Option.some.inj he)
    have hmsg := hd.updateConn id (f := fun c => { c with recvMsg := reply id }) fun _ => rfl
    exact hmsg.updateConn id fun _ => rfl
  have h₁ := h.forSlots _ hsend _ hev
  have h₂ := h₁.forSlots _ hactivity _ hrecv
  have h₃ := h₂.collectActivity _ hcollect
  have h₄ := Allocated.flagLoop (r := ⟨r₃.1, evictionList r₃.2 junk, sendList, -1⟩) h₃ k.toNat _ hflag
  have h₅ := h₄.stopLoop mr r₄.sendList r₄.connIndex _ hstop
  rw [← Option.some.inj hr]
  exact h₅

/-! ### The whole of `evict_mem` -/

lemma foldl_releaseSlab (slabs : List Nat) (d : DaemonState) :
    slabs.foldl releaseSlab d = { d with mallocMap := givenBack d.mallocMap slabs } := by
  induction slabs generalizing d with
  | nil => simp
  | cons i slabs ih =>
    rw [List.foldl_cons, ih, ← givenBack_update]
    rfl

lemma freeUnmapped_eq (cfg : DaemonConfig) (d : DaemonState) {stopG : Int} (hstop : 0 < stopG) :
    let freed := firstFree cfg d stopG.toNat
    (freed.length : Int) = min stopG (freeSlabs cfg d) ∧
      freeUnmapped cfg d stopG =
        ({ d with mallocMap := givenBack d.mallocMap freed, sizeGb := d.sizeGb - freed.length },
          if (freed.length : Int) = stopG then none else some (stopG - freed.length)) := by
  intro freed
  have hframe : ∀ (d : DaemonState) (i j : Nat), j ≠ i →
      (releaseSlab d i).freeSlab j = d.freeSlab j := by
    intro d i j hj
    change (Function.update d.mallocMap i false j && _) = _
    rw [Function.update_of_ne hj]
    rfl
  have hfold := takeLoop_eq_foldl (t := stopG) (p := DaemonState.freeSlab) (f := releaseSlab)
    (List.range cfg.maxFreeMemGb) 0 d List.nodup_range hstop hframe
  rw [sub_zero, foldl_releaseSlab] at hfold
  obtain ⟨-, hcount⟩ := takeLoop_spec (p := DaemonState.freeSlab) (f := releaseSlab) (t := stopG)
    (I := fun _ _ => True) (List.range cfg.maxFreeMemGb) 0 d List.nodup_range trivial
    (fun _ _ _ _ _ _ => trivial) hframe
  have hearly := takeLoop_early (p := DaemonState.freeSlab) (f := releaseSlab)
    (List.range cfg.maxFreeMemGb) 0 d hstop
  have hlen : (freed.length : Int) = min stopG (freeSlabs cfg d) := by
    change (((List.filter d.freeSlab _).take stopG.toNat).length : Int) = _
    rw [List.length_take, freeSlabs, List.countP_eq_length_filter]
    omega
  have hfreed : (takeLoop DaemonState.freeSlab releaseSlab stopG
      (List.range cfg.maxFreeMemGb) 0 d).2.1 = freed.length := by
    rw [hcount, hlen, takeCount, freeSlabs]
    split <;> omega
  refine ⟨hlen, ?_⟩
  revert hfold hfreed hearly
  unfold freeUnmapped
  rcases takeLoop DaemonState.freeSlab releaseSlab stopG (List.range cfg.maxFreeMemGb) 0 d with
    ⟨d', j, _ | _⟩
  · rintro rfl hearly rfl
    have hne : ¬(freed.length : Int) = stopG := fun he => by simpa using hearly.mpr he
    rw [if_neg hne]
    rfl
  · rintro rfl hearly rfl
    have he : (freed.length : Int) = stopG := hearly.mp rfl
    rw [if_pos he, he]
    rfl

lemma RoundReady.freeUnmapped (h : RoundReady cfg d) {stopG : Int} (hstop : 0 < stopG) :
    RoundReady cfg (freeUnmapped cfg d stopG).1 := by
  have hbooks := fun id => (h.books id).freeUnmapped hstop
  rw [(freeUnmapped_eq cfg d hstop).2] at hbooks ⊢
  exact ⟨hbooks, h.slot_lt, h.slot, h.state⟩

lemma count_givenBack {mallocMap : Nat → Bool} {slabs : List Nat} {n : Nat} (hnodup : slabs.Nodup)
    (hmem : ∀ i ∈ slabs, i < n ∧ mallocMap i = true) :
    Nat.count (fun i => mallocMap i = true) n =
      Nat.count (fun i => givenBack mallocMap slabs i = true) n + slabs.length := by
  rw [← count_mem_eq_length hnodup fun i hi => (hmem i hi).1]
  apply count_split
  · intro i _
    unfold givenBack
    by_cases hi : i ∈ slabs
    · simp [hi, (hmem i hi).2]
    · simp [hi]
  · intro i _ hback hi
    simp [givenBack, hi] at hback

/-- The slabs that the STOP messages of a round flag are the slabs that it evicts, and each of
these messages asks for an answer. -/
lemma mem_flagged_iff {slots : List Nat} {slabs : List Nat} {F : Nat → ConnId × Message}
    (hown : ∀ m ∈ slabs, m < cfg.maxFreeMemGb ∧ ∃ i ∈ slots, d.connMap m = i)
    (hstop : ∀ i ∈ slots, IsRoundStop d slabs i (F i)) (hnodup : slabs.Nodup) (m : Nat) :
    (m ∈ slabs ↔ ∃ x ∈ slots.map F, m ∈ flaggedSlots cfg x.2) ∧
      (m ∈ returnedSlabs cfg (slots.map F) ↔ m ∈ slabs) := by
  have hlt : ∀ m ∈ slabs, m < cfg.maxFreeMemGb := fun m hm => (hown m hm).1
  have hflag := fun i hi => (hstop i hi).flagged hnodup hlt
  have hmark : ∀ m ∈ slabs, ∃ i ∈ slots, m ∈ flaggedSlots cfg (F i).2 ∧ (F i).2.sizeGb ≠ 0 := by
    intro m hm
    obtain ⟨hlt, i, hi, hmi⟩ := hown m hm
    have hcount : 0 < ownCount d slabs i := List.countP_pos_iff.mpr ⟨m, hm, by simpa using hmi⟩
    have hlast : 0 < ownCount d slabs (lastOwner d slabs) := by
      have hne : slabs ≠ [] := List.ne_nil_of_mem hm
      apply List.countP_pos_iff.mpr
      exact ⟨_, List.getLast_mem hne, by simp [lastOwner, List.getLast?_eq_getLast_of_ne_nil hne]⟩
    refine ⟨i, hi, ?_, ?_⟩
    · apply List.mem_filter.mpr
      rw [List.mem_range, (hstop i hi).rkey m, if_pos ⟨hm, hmi⟩]
      exact ⟨hlt, rfl⟩
    · rw [(hstop i hi).size, if_pos hcount]
      omega
  refine ⟨⟨?_, ?_⟩, ⟨?_, ?_⟩⟩
  · intro hm
    obtain ⟨i, hi, hmem, -⟩ := hmark m hm
    exact ⟨F i, List.mem_map_of_mem hi, hmem⟩
  · rintro ⟨x, hx, hmem⟩
    obtain ⟨i, hi, rfl⟩ := List.mem_map.mp hx
    exact ((hflag i hi).1 m hmem).1
  · intro hm
    obtain ⟨x, hx, hmem⟩ := List.mem_flatMap.mp hm
    obtain ⟨i, hi, rfl⟩ := List.mem_map.mp hx
    split at hmem
    · exact ((hflag i hi).1 m hmem).1
    · exact (List.not_mem_nil hmem).elim
  · intro hm
    obtain ⟨i, hi, hmem, hsize⟩ := hmark m hm
    refine List.mem_flatMap.mpr ⟨F i, List.mem_map_of_mem hi, ?_⟩
    rw [if_pos hsize]
    exact hmem

/-- What an eviction of flagged slabs must be: distinct mapped slabs that asked connections have
reported, none of them warmer than a reported slab that is not flagged. -/
structure ColdestEvicted (cfg : DaemonConfig) (d : DaemonState) (reply : ConnId → Message)
    (r : EvictRound) (slabs : List Nat) : Prop where
  nodup : slabs.Nodup
  flagged : ∀ m, m ∈ slabs ↔ ∃ x ∈ r.stops, m ∈ flaggedSlots cfg x.2
  mapped : ∀ m ∈ slabs, m < cfg.maxFreeMemGb ∧ d.connMap m ≠ -1
  reported : ∀ m ∈ slabs, ∃ x ∈ r.evicts, ∃ e ∈ reportedActivity cfg (reply x.1), e.chunkIndex = m
  coldest : ∀ x ∈ r.evicts, ∀ y ∈ r.evicts, ∀ e ∈ reportedActivity cfg (reply x.1),
    ∀ f ∈ reportedActivity cfg (reply y.1),
      e.chunkIndex ∈ slabs → f.chunkIndex ∉ slabs → e.activity ≤ f.activity

lemma evictRound_coldest (h : RoundReady cfg d) {reply : ConnId → Message}
    (hreply : ExactReplies cfg d reply) {evictG : Int} (hpos : 0 ≤ evictG)
    (hle : evictG ≤ d.mappedSize) (mr : Nat → MemRegion) (rand : Nat → Nat)
    (junk : Nat → ChunkActivity) :
    ∃ r slabs, evictRound cfg mr rand reply junk d evictG = some r ∧
      (slabs.length : Int) = evictG ∧ ColdestEvicted cfg d reply r slabs ∧
      r.daemon.mallocMap = givenBack d.mallocMap slabs := by
  obtain ⟨j, sendList, evicts, F, d', -, hj, hocc, hround, hevicts, hnodup, hlen, hown, hstop⟩ :=
    evictRound_eq h hreply hpos mr rand junk
  have hasked : ∀ i ∈ askedSlots cfg sendList, sendList i = 1 := by
    intro i hi
    simpa using (List.mem_filter.mp hi).2
  set slots := askedSlots cfg sendList with hslots
  set slabs := roundSlabs cfg d reply j sendList with hslabs
  set reports := roundReports cfg d reply slots with hreports
  have hlisted := evictionList_listed h hreply hocc hasked (fun _ => ⟨0, 0⟩) j
  have hcoldest : slabs = coldestSlabs reports.length (evictionList reports fun _ => ⟨0, 0⟩) j.toNat :=
    rfl
  -- what is evicted has been reported, so the list is long enough
  have hsub : slabs ⊆ reports.map ChunkActivity.chunkIndex := by
    intro m hm
    obtain ⟨hlt, i, hi, hmi⟩ := hown m hm
    rw [hreports, roundReports_slabs h hreply hocc]
    exact mem_slotSlabs.mpr ⟨hlt, i, hi, hmi⟩
  have henough : j.toNat ≤ reports.length := by
    have hle := (List.subperm_of_subset hnodup hsub).length_le
    rw [List.length_map] at hle
    omega
  have hget : ∀ x ∈ evicts, ∀ e ∈ reportedActivity cfg (reply x.1),
      ∃ p < reports.length, evictionList reports (fun _ => ⟨0, 0⟩) p = e := by
    intro x hx e he
    have hfst : x.1 ∈ slots.map (slotConn d) := hevicts ▸ List.mem_map_of_mem hx
    obtain ⟨i, hi, hix⟩ := List.mem_map.mp hfst
    have hmem : e ∈ reports := List.mem_flatMap.mpr ⟨i, hi, hix ▸ he⟩
    obtain ⟨p, hp, hpe⟩ := List.mem_iff_getElem.mp hmem
    exact ⟨p, hp, by simp [evictionList, hp, hpe]⟩
  have hmalloc := h.allocated.evictRound mr rand (fun id => (hreply id).1) junk evictG hround
  refine ⟨_, slabs, hround, by omega, ⟨hnodup, ?_, ?_, ?_, ?_⟩, ?_⟩
  · intro m
    exact (mem_flagged_iff hown hstop hnodup m).1
  · intro m hm
    obtain ⟨hlt, i, -, hmi⟩ := hown m hm
    exact ⟨hlt, by omega⟩
  · intro m hm
    obtain ⟨e, he, rfl⟩ := List.mem_map.mp (hsub hm)
    obtain ⟨i, hi, hei⟩ := List.mem_flatMap.mp he
    have hfst : slotConn d i ∈ evicts.map Prod.fst := hevicts ▸ List.mem_map_of_mem hi
    obtain ⟨x, hx, hxi⟩ := List.mem_map.mp hfst
    exact ⟨x, hx, e, hxi ▸ hei, rfl⟩
  · intro x hx y hy e he f hf hin hout
    obtain ⟨p, hp, rfl⟩ := hget x hx e he
    obtain ⟨q, hq, rfl⟩ := hget y hy f hf
    rw [hcoldest] at hin hout
    exact coldestSlabs_coldest hlisted henough hp hq hin hout
  · rw [hmalloc.malloc]
    funext m
    unfold givenBack
    simp only [(mem_flagged_iff hown hstop hnodup m).2]

lemma evictMem_coldest (h : RoundReady cfg d) {reply : ConnId → Message}
    (hreply : ExactReplies cfg d reply) {stopG : Int} (hpos : 0 < stopG) (hle : stopG ≤ d.sizeGb)
    (mr : Nat → MemRegion) (rand : Nat → Nat) (junk : Nat → ChunkActivity) :
    ∃ r slabs, evictMem cfg mr rand reply junk d stopG = some r ∧
      (slabs.length : Int) = stopG - (firstFree cfg d stopG.toNat).length ∧
      ColdestEvicted cfg d reply r slabs ∧
      r.daemon.mallocMap =
        givenBack (givenBack d.mallocMap (firstFree cfg d stopG.toNat)) slabs := by
  obtain ⟨hlen, hfree⟩ := freeUnmapped_eq cfg d hpos
  have hready := h.freeUnmapped hpos
  set freed := firstFree cfg d stopG.toNat
  unfold evictMem
  by_cases henough : (freed.length : Int) = stopG
  · rw [hfree, if_pos henough]
    refine ⟨_, [], rfl, by simp [henough], ?_, (givenBack_nil _).symm⟩
    constructor <;> simp
  · rw [if_neg henough] at hfree
    rw [hfree] at hready ⊢
    have hbooks := (h.books 0).free_eq
    have hmapped : stopG - freed.length ≤ d.mappedSize := by omega
    obtain ⟨r, slabs, hround, hlength, hcold, hmalloc⟩ :=
      evictRound_coldest hready hreply (by omega) hmapped mr rand junk
    exact ⟨r, slabs, hround, hlength,
      ⟨hcold.nodup, hcold.flagged, hcold.mapped, hcold.reported, hcold.coldest⟩, hmalloc⟩

/-- `evict_mem` frees unmapped slabs first, never more than asked for. What is missing then is
flagged: distinct mapped slabs, the coldest that the asked connections report. Once these are
given back, `stop_g` slabs less are allocated. -/
theorem eviction_frees_coldest (cfg : DaemonConfig) (d : DaemonState) (mr : Nat → MemRegion)
    (rand : Nat → Nat) (reply : ConnId → Message) (junk : Nat → ChunkActivity) (stopG : Int)
    (h : RoundReady cfg d) (hreply : ExactReplies cfg d reply) (hpos : 1 ≤ stopG)
    (hle : stopG ≤ d.sizeGb) :
    ∃ (r : EvictRound) (freed slabs : List Nat),
      evictMem cfg mr rand reply junk d stopG = some r ∧
      freed.Nodup ∧ (∀ i ∈ freed, i < cfg.maxFreeMemGb ∧ d.freeSlab i = true) ∧
      (freed.length : Int) = min stopG (freeSlabs cfg d) ∧
      (slabs.length : Int) = stopG - freed.length ∧
      ColdestEvicted cfg d reply r slabs ∧
      (∀ i, r.daemon.mallocMap i = (d.mallocMap i && !decide (i ∈ freed ++ slabs))) ∧
      (Nat.count (fun i => d.mallocMap i = true) cfg.maxFreeMemGb : Int) =
        Nat.count (fun i => r.daemon.mallocMap i = true) cfg.maxFreeMemGb + stopG := by
  obtain ⟨r, slabs, hevict, hslabs, hcold, hmalloc⟩ :=
    evictMem_coldest h hreply (show 0 < stopG by omega) hle mr rand junk
  have hlen := (freeUnmapped_eq cfg d (show 0 < stopG by omega)).1
  set freed := firstFree cfg d stopG.toNat
  have hfreed : ∀ i ∈ freed, i < cfg.maxFreeMemGb ∧ d.freeSlab i = true := fun i hi =>
    mem_firstFree hi
  have hfree : ∀ i ∈ freed, d.mallocMap i = true ∧ d.connMap i = -1 := fun i hi =>
    (freeSlab_iff d i).mp (hfreed i hi).2
  rw [givenBack_givenBack] at hmalloc
  refine ⟨r, freed, slabs, hevict, firstFree_nodup .., hfreed, hlen, hslabs, hcold,
    fun i => congrFun hmalloc i, ?_⟩
  have hnodup : (freed ++ slabs).Nodup := by
    apply List.Nodup.append (firstFree_nodup ..) hcold.nodup
    intro i hi hi'
    exact (hcold.mapped i hi').2 (hfree i hi).2
  have hallocated : ∀ i ∈ freed ++ slabs, i < cfg.maxFreeMemGb ∧ d.mallocMap i = true := by
    intro i hi
    rcases List.mem_append.mp hi with hi | hi
    · exact ⟨(hfreed i hi).1, (hfree i hi).1⟩
    · obtain ⟨hlt, hmap⟩ := hcold.mapped i hi
      exact ⟨hlt, ((h.books 0).owned i hlt hmap).1⟩
  have hcount := count_givenBack hnodup hallocated
  rw [List.length_append] at hcount
  rw [hmalloc, hcount]
  push_cast
  omega

/-- Two of three slabs are evicted; slab 0 is the warmest. -/
theorem eviction_frees_two_coldest :
    ∃ (r : EvictRound) (freed slabs : List Nat),
      evictMem defaultConfig (fun i => ⟨i, i⟩) id (twoReplies fun m => if m = 0 then 9 else m)
        (fun _ => ⟨0, 0⟩) twoClients 2 = some r ∧
      (slabs.length : Int) = 2 - freed.length ∧
      ColdestEvicted defaultConfig twoClients (twoReplies fun m => if m = 0 then 9 else m) r
        slabs := by
  obtain ⟨r, freed, slabs, hevict, -, -, -, hlen, hcold, -⟩ := eviction_frees_coldest defaultConfig
    twoClients (fun i => ⟨i, i⟩) id (twoReplies fun m => if m = 0 then 9 else m) (fun _ => ⟨0, 0⟩) 2
    twoClients_ready (twoReplies_exact _ (by decide)) (by decide) (by decide)
  exact ⟨r, freed, slabs, hevict, hlen, hcold⟩

end DisStore.Proofs
