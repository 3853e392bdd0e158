import DisStore.Proofs.DaemonBooks

/-!
# Daemon accounting

Along every run of the daemon's operations the counters agree with the maps, as long as no
bind asks for more slabs than are free and every connection finds a slot.
-/

namespace DisStore.Proofs
open DisStore DisStore.Lib

variable {cfg : DaemonConfig} {id : ConnId} {d d' : DaemonState}

lemma count_lt_eq (n k : Nat) (h : k ≤ n) :
    Nat.count (fun i : Nat => decide ((i : Int) < k) = true) n = k := by
  induction n with
  | zero =>
    rw [Nat.count_zero]
    omega
  | succ n ih =>
    rw [Nat.count_succ]
    by_cases hk : k ≤ n
    · rw [ih hk, if_neg (by simpa using hk), add_zero]
    · have hkn : k = n + 1 := by omega
      have hall : Nat.count (fun i : Nat => decide ((i : Int) < k) = true) n = n := by
        apply Nat.count_of_forall
        intro i hi
        simp only [decide_eq_true_eq]
        omega
      rw [hall, if_pos (by simp only [decide_eq_true_eq]; omega), hkn]

lemma Books.rdmaSessionInit (cfg : DaemonConfig) (freeMemG : Int) (id : ConnId) :
    Books cfg id 0 0 (DisStore.rdmaSessionInit cfg freeMemG) := by
  have hle := cfg.thresholds_le
  obtain ⟨k, hk, hkn⟩ : ∃ k : Nat, (DisStore.rdmaSessionInit cfg freeMemG).sizeGb = k ∧
      k ≤ cfg.maxFreeMemGb := by
    have hpos : 0 ≤ (DisStore.rdmaSessionInit cfg freeMemG).sizeGb := by
      simp only [DisStore.rdmaSessionInit]
      have hdiv : (cfg.freeMemEvictThreshold + cfg.freeMemExpandThreshold).tdiv 2 ≤
          cfg.freeMemExpandThreshold := by
        rw [Int.tdiv_eq_ediv]
        split
        · omega
        · have hsign : Int.sign 2 = 1 := rfl
          omega
      split_ifs <;> omega
    have hmax : (DisStore.rdmaSessionInit cfg freeMemG).sizeGb ≤ cfg.maxFreeMemGb := by
      simp only [DisStore.rdmaSessionInit]
      split_ifs <;> omega
    refine ⟨(DisStore.rdmaSessionInit cfg freeMemG).sizeGb.toNat, ?_, ?_⟩
    · omega
    · omega
  have hmal : (DisStore.rdmaSessionInit cfg freeMemG).mallocMap =
      fun i : Nat => decide ((i : Int) < (DisStore.rdmaSessionInit cfg freeMemG).sizeGb) := rfl
  constructor
  · simp only [hmal, hk]
    rw [count_lt_eq cfg.maxFreeMemGb k hkn, add_zero]
  · have hnone : Nat.count (fun i => (DisStore.rdmaSessionInit cfg freeMemG).connMap i ≠ -1)
        cfg.maxFreeMemGb = 0 := by
      rw [← Nat.count_false]
      apply count_congr
      intro j _
      simp [DisStore.rdmaSessionInit]
    rw [hnone]
    rfl
  · intro k c hc
    cases hc
  · intro i _ hne
    exact (hne rfl).elim
  · intro k c hc
    cases hc
  · intro k c hc
    cases hc

lemma Books.sendFreeMemSize (h : Books cfg id 0 0 d) {k : ConnId} {r : DaemonState × Outbox}
    (hr : DisStore.sendFreeMemSize d k = some r) : Books cfg id 0 0 r.1 := by
  simp only [DisStore.sendFreeMemSize, Option.bind_eq_bind, Option.bind_eq_some_iff] at hr
  obtain ⟨c, hc, hr⟩ := hr
  rw [← Option.some.inj hr]
  exact h.message k (fun _ => rfl) (fun _ => rfl) (fun _ => rfl)

lemma Books.collectActivity (slots : List Nat) (h : Books cfg id 0 0 d)
    {r : DaemonState × List ChunkActivity} (hr : DisStore.collectActivity cfg slots d = some r) :
    Books cfg id 0 0 r.1 := by
  induction slots generalizing d r with
  | nil =>
    simp only [DisStore.collectActivity, Option.some.injEq] at hr
    rw [← hr]
    exact h
  | cons i slots ih =>
    simp only [DisStore.collectActivity, Option.bind_eq_bind, Option.bind_eq_some_iff,
      Option.some.injEq] at hr
    obtain ⟨k, hk, c, hc, -, -, r', hr', hr⟩ := hr
    have hnext := h.message k (f := takeActivity) (fun _ => rfl) (fun _ => rfl) (fun _ => rfl)
    have hbooks := ih hnext hr'
    rw [← hr]
    exact hbooks

/-- A DONE message flags exactly `size_gb` slabs of its sender. -/
def doneStepFits (cfg : DaemonConfig) (d : DaemonState) : DaemonOp → Prop
  | .recv _ id msg => msg.type = .done → ∀ c, d.heap id = some c → doneFits cfg c msg
  | _ => True

/-- Besides, a connection request finds an idle slot, BIND asks for at least one slab and for
no more than are free, and BIND_SINGLE finds one. -/
def stepFits (cfg : DaemonConfig) (d : DaemonState) : DaemonOp → Prop
  | .connect _ _ _ => ∃ slot, firstIdleSlot cfg d = some slot
  | .recv mr id msg => doneStepFits cfg d (.recv mr id msg) ∧
      (msg.type = .bind → bindFits cfg d msg.sizeGb) ∧
      (msg.type = .bindSingle → 0 < freeSlabs cfg d)
  | _ => True

lemma Books.onRecv (h : Books cfg id 0 0 d) {mr : Nat → MemRegion} {msg : Message}
    {r : DaemonState × Outbox} (hok : stepFits cfg d (.recv mr id msg))
    (hr : DisStore.onRecv cfg mr d id msg = some r) : Books cfg id 0 0 r.1 := by
  obtain ⟨hdone, hbind, hsingle⟩ := hok
  simp only [DisStore.onRecv, Option.bind_eq_bind, Option.bind_eq_some_iff] at hr
  obtain ⟨c, hc, hr⟩ := hr
  have h1 := h.message id (f := fun c => { c with recvMsg := msg })
    (fun _ => rfl) (fun _ => rfl) (fun _ => rfl)
  have hc1 := updateConn_of_some id (fun c => { c with recvMsg := msg }) hc
  rw [if_pos rfl] at hc1
  cases htype : msg.type with
  | query =>
    simp only [htype] at hr
    exact h1.sendFreeMemSize hr
  | bind =>
    simp only [htype, Option.bind_eq_some_iff] at hr
    obtain ⟨r₁, hr₁, hr⟩ := hr
    have h2 := h1.sendMr (hbind htype) hr₁
    rw [← Option.some.inj hr]
    exact h2.setState c.connIndex (by decide)
  | bindSingle =>
    simp only [htype, Option.bind_eq_some_iff] at hr
    obtain ⟨r₁, hr₁, hr⟩ := hr
    have h2 := h1.sendSingleMr (hsingle htype) hr₁
    rw [← Option.some.inj hr]
    exact h2.setState c.connIndex (by decide)
  | activity =>
    simp only [htype] at hr
    rw [← Option.some.inj hr]
    exact h1.message id (fun _ => rfl) (fun _ => rfl) (fun _ => rfl)
  | done =>
    simp only [htype, Option.map_eq_some_iff] at hr
    obtain ⟨d₁, hd₁, hr⟩ := hr
    obtain ⟨d₂, hd₂, h2⟩ := h1.recvDone hc1 (hdone htype c hc)
    rw [← hr, Option.some.inj (hd₁.symm.trans hd₂)]
    exact h2
  | info | infoSingle | freeSize | evict | stop => simp [htype] at hr

lemma Books.daemonStep (h : Books cfg id 0 0 d) {op : DaemonOp} (hok : stepFits cfg d op)
    (hs : DisStore.daemonStep cfg d op = some d') : Books cfg id 0 0 d' := by
  cases op with
  | connect k junkIndex junkMsg =>
    obtain ⟨slot, hslot⟩ := hok
    simp only [DisStore.daemonStep, Option.ite_none_right_eq_some] at hs
    obtain ⟨hnone, hs⟩ := hs
    rw [← Option.some.inj hs]
    exact ((h.rename k).buildConnection hnone hslot).rename id
  | established k =>
    simp only [DisStore.daemonStep, Option.map_eq_some_iff] at hs
    obtain ⟨r, hr, hs⟩ := hs
    rw [← hs]
    exact h.sendFreeMemSize hr
  | recv mr k msg =>
    simp only [DisStore.daemonStep, Option.map_eq_some_iff] at hs
    obtain ⟨r, hr, hs⟩ := hs
    rw [← hs]
    exact ((h.rename k).onRecv hok hr).rename id
  | freeForEvict lastFreeMemG =>
    simp only [DisStore.daemonStep, Option.ite_none_right_eq_some] at hs
    obtain ⟨hstop, hs⟩ := hs
    rw [← Option.some.inj hs]
    exact h.freeUnmapped hstop.2
  | sendEvict k n =>
    rw [← Option.some.inj hs]
    exact h.message k (fun _ => rfl) (fun _ => rfl) (fun _ => rfl)
  | collect slots =>
    simp only [DisStore.daemonStep, Option.map_eq_some_iff] at hs
    obtain ⟨r, hr, hs⟩ := hs
    rw [← hs]
    exact h.collectActivity slots hr
  | flag k n evictList sendList =>
    simp only [DisStore.daemonStep, flagColdest, Option.map_eq_some_iff, Option.bind_eq_bind,
      Option.bind_eq_some_iff] at hs
    obtain ⟨r, ⟨k, hk, hr⟩, hs⟩ := hs
    rw [← hs, ← Option.some.inj hr]
    exact h.message k (fun _ => rfl) (fun _ => rfl) (fun _ => rfl)
  | sendStop k n =>
    rw [← Option.some.inj hs]
    exact h.message k (fun _ => rfl) (fun _ => rfl) (fun _ => rfl)
  | awaitStop k =>
    simp only [DisStore.daemonStep] at hs
    split at hs
    · split at hs
      · rw [← Option.some.inj hs]
        exact h.message k (fun _ => rfl) (fun _ => rfl) (fun _ => rfl)
      · cases hs
    · cases hs
  | expand lastFreeMemG =>
    simp only [DisStore.daemonStep, Option.ite_none_right_eq_some] at hs
    obtain ⟨hlast, hs⟩ := hs
    rw [← Option.some.inj hs]
    exact h.expandMem hlast
  | disconnect k => exact ((h.rename k).destroyConnection hs).rename id

lemma Books.free_eq (h : Books cfg id 0 0 d) : d.sizeGb - d.mappedSize = freeSlabs cfg d := by
  have hsize := h.size
  have hmapped := h.mapped
  have hsplit := count_split (p := fun i => d.mallocMap i = true)
    (q := fun i => d.freeSlab i = true) (r := fun i => d.connMap i ≠ -1)
    (n := cfg.maxFreeMemGb) ?_ ?_
  · rw [count_eq_countP d.freeSlab] at hsplit
    unfold freeSlabs
    omega
  · intro j hj
    have hown := h.owned j hj
    rw [freeSlab_iff]
    constructor
    · intro hmal
      by_cases hmap : d.connMap j = -1
      · exact .inl ⟨hmal, hmap⟩
      · exact .inr hmap
    · rintro (hfree | hmap)
      · exact hfree.1
      · exact (hown hmap).1
  · intro j _ hfree hmap
    exact hmap ((freeSlab_iff d j).mp hfree).2

/-- In every run whose steps meet `stepFits` the three kinds of counters count the maps, and
FREE_SIZE carries the number of allocated slabs that nobody uses. -/
theorem daemon_counters_count_maps (cfg : DaemonConfig) (freeMemG : Int) {d : DaemonState}
    (h : GuardedRun (daemonStep cfg) (stepFits cfg) (rdmaSessionInit cfg freeMemG) d) :
    d.sizeGb = Nat.count (fun i => d.mallocMap i = true) cfg.maxFreeMemGb ∧
      d.mappedSize = Nat.count (fun i => d.connMap i ≠ -1) cfg.maxFreeMemGb ∧
      (∀ id c, d.heap id = some c →
        c.mappedChunkSize = Nat.count (fun i => c.sessChunkMap i ≠ -1) cfg.maxFreeMemGb) ∧
      ∀ id r, sendFreeMemSize d id = some r → ∀ x ∈ r.2,
        x.2.sizeGb = freeSlabs cfg d ∧ 0 ≤ x.2.sizeGb := by
  have hbooks : ∀ id, Books cfg id 0 0 d := by
    intro id
    apply GuardedRun.invariant (Books.rdmaSessionInit cfg freeMemG id) _ h
    intro s op s' hs hok hstep
    exact hs.daemonStep hok hstep
  refine ⟨?_, ?_, ?_, ?_⟩
  · have := (hbooks 0).size
    omega
  · have := (hbooks 0).mapped
    omega
  · intro id c hc
    have := (hbooks id).chunk id c hc
    rw [if_pos rfl] at this
    omega
  · intro id r hr x hx
    simp only [sendFreeMemSize, Option.bind_eq_bind, Option.bind_eq_some_iff] at hr
    obtain ⟨c, hc, hr⟩ := hr
    have hc' := updateConn_of_some id (fun c : Connection => { c with sendMsg :=
      { c.sendMsg with type := .freeSize, sizeGb := d.sizeGb - d.mappedSize } }) hc
    rw [if_pos rfl] at hc'
    rw [← Option.some.inj hr] at hx
    simp only [sendMessage, hc', List.mem_singleton] at hx
    have hfree := (hbooks id).free_eq
    rw [hx]
    dsimp only
    omega

/-- Two slabs are bound to one connection by a BIND of size two. -/
theorem daemon_counters_count_maps_bind_two :
    ∃ d, runActions (daemonStep defaultConfig) (rdmaSessionInit defaultConfig 10)
        [.connect 0 0 emptyMessage,
          .recv (fun i => ⟨i, i + 1⟩) 0 { emptyMessage with type := .bind, sizeGb := 2 }] = some d ∧
      d.mappedSize = 2 ∧ d.mappedSize = Nat.count (fun i => d.connMap i ≠ -1) 32 := by
  refine ⟨_, rfl, by decide, ?_⟩
  refine (daemon_counters_count_maps defaultConfig 10 (.next (.recv (fun i => ⟨i, i + 1⟩) 0
    { emptyMessage with type := .bind, sizeGb := 2 })
    (.next (.connect 0 0 emptyMessage) .start ⟨0, by decide⟩ rfl) ?_ rfl)).2.1
  refine ⟨?_, fun _ => .inr (by decide), ?_⟩
  · intro ht
    cases ht
  · intro ht
    cases ht

/-- One slab is free and two connections ask for it with BIND_SINGLE. The second one gets
nothing and is counted all the same: FREE_SIZE then carries -1. -/
theorem daemon_counts_refused_bind :
    ∃ d, GuardedRun (daemonStep defaultConfig) (doneStepFits defaultConfig)
        (rdmaSessionInit defaultConfig 9) d ∧
      d.mappedSize = 2 ∧ Nat.count (fun i => d.connMap i ≠ -1) 32 = 1 ∧
      d.sizeGb - d.mappedSize = -1 ∧
      (d.heap 1).map (fun c => (c.mappedChunkSize,
        Nat.count (fun i => c.sessChunkMap i ≠ -1) 32)) = some (1, 0) := by
  refine ⟨_, runActions_reaches
    [.connect 0 0 emptyMessage, .connect 1 0 emptyMessage,
      .recv (fun i => ⟨i, i + 1⟩) 0 { emptyMessage with type := .bindSingle, sizeGb := 0 },
      .recv (fun i => ⟨i, i + 1⟩) 1 { emptyMessage with type := .bindSingle, sizeGb := 0 }]
    ?_ .start rfl, by decide, by decide, by decide, by decide⟩
  intro a ha s
  simp only [List.mem_cons, List.not_mem_nil, or_false] at ha
  rcases ha with rfl | rfl | rfl | rfl
  · trivial
  · trivial
  · intro ht
    cases ht
  · intro ht
    cases ht

end DisStore.Proofs
