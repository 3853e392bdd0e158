import DisStore.Proofs.ConnTable

/-!
# The memory monitor and the last disconnect

`destroy_connection` clears `running` when the last connection goes and nothing sets it again.
The monitor serves every client as long as no client comes after that; while it is in its loop,
readings below and above the thresholds lead to `evict_mem` and to an expansion.
-/

namespace DisStore.Proofs

open DisStore DisStore.Lib

variable {cfg : DaemonConfig} {hits : HitThresholds} {s s' : MonitorState}

/-- `conn_num` counts the live connections, `running` is cleared only when there are none, and
the monitor leaves its loop only after that. -/
structure MonitorInv (s : MonitorState) : Prop where
  live : ∃ l : List ConnId, l.Nodup ∧ (∀ id, s.daemon.heap id ≠ none ↔ id ∈ l) ∧
    s.daemon.connNum = l.length
  running : s.daemon.running = false → s.daemon.connNum = 0
  inLoop : s.freeMem = none → s.daemon.running = false

lemma monitorInv_init (cfg : DaemonConfig) (freeMemG lastFreeMemG : Int) :
    MonitorInv (monitorInit cfg freeMemG lastFreeMemG) := by
  refine ⟨⟨[], List.nodup_nil, ?_, rfl⟩, fun _ => rfl, ?_⟩
  · intro id
    simp [monitorInit, rdmaSessionInit]
  · intro h
    cases h

lemma expandMem_conns (cfg : DaemonConfig) (d : DaemonState) (lastFreeMemG : Int) :
    (expandMem cfg d lastFreeMemG).heap = d.heap ∧
      (expandMem cfg d lastFreeMemG).connNum = d.connNum ∧
      (expandMem cfg d lastFreeMemG).running = d.running := by
  have hloop := fun t => (takeLoop_spec (t := t) (p := fun d i => !d.mallocMap i)
    (f := allocateSlab)
    (I := fun _ d' => d'.heap = d.heap ∧ d'.connNum = d.connNum ∧ d'.running = d.running)
    (List.range cfg.maxFreeMemGb) 0 d List.nodup_range ⟨rfl, rfl, rfl⟩
    (fun _ _ _ _ h _ => h) (fun d i k hk => by simp [allocateSlab, hk])).1
  unfold expandMem
  exact hloop _

lemma freeMemBody_conns (cfg : DaemonConfig) (hits : HitThresholds) (s : MonitorState)
    (m : FreeMem) (filteredFreeMemG : Int) :
    (freeMemBody cfg hits s m filteredFreeMemG).daemon.heap = s.daemon.heap ∧
      (freeMemBody cfg hits s m filteredFreeMemG).daemon.connNum = s.daemon.connNum ∧
      (freeMemBody cfg hits s m filteredFreeMemG).daemon.running = s.daemon.running ∧
      (freeMemBody cfg hits s m filteredFreeMemG).freeMem ≠ none := by
  have hexpand := expandMem_conns cfg s.daemon filteredFreeMemG
  unfold freeMemBody
  dsimp only
  split
  · split <;> simp
  · split
    · split
      · exact ⟨hexpand.1, hexpand.2.1, hexpand.2.2, by simp⟩
      · simp
    · simp

/-- No client comes after the last one has gone: a request comes while `running` is set. -/
def requestWhileRunning (s : MonitorState) : MonitorEvent → Prop
  | .conn (.connectRequest _ _ _) => s.daemon.running = true
  | .conn (.disconnected _) | .look _ => True

instance (s : MonitorState) (e : MonitorEvent) : Decidable (requestWhileRunning s e) :=
  match e with
  | .conn (.connectRequest _ _ _) => inferInstanceAs (Decidable (s.daemon.running = true))
  | .conn (.disconnected _) | .look _ => isTrue trivial

lemma MonitorInv.connect (h : MonitorInv s) {id : ConnId} (junkIndex : Int) (junkMsg : Message)
    (hid : s.daemon.heap id = none) (hrunning : s.daemon.running = true) :
    MonitorInv { s with daemon := buildConnection cfg s.daemon id junkIndex junkMsg } := by
  obtain ⟨l, hnodup, hmem, hnum⟩ := h.live
  have hrun : (buildConnection cfg s.daemon id junkIndex junkMsg).running = true := by
    unfold buildConnection
    cases firstIdleSlot cfg s.daemon <;> exact hrunning
  have hheap : ∃ c, (buildConnection cfg s.daemon id junkIndex junkMsg).heap =
      Function.update s.daemon.heap id (some c) := by
    unfold buildConnection
    cases firstIdleSlot cfg s.daemon <;> exact ⟨_, rfl⟩
  have hnew : id ∉ l := fun hin => (hmem id).mpr hin hid
  refine ⟨⟨id :: l, List.nodup_cons.mpr ⟨hnew, hnodup⟩, ?_, ?_⟩, ?_, ?_⟩
  · obtain ⟨c, hc⟩ := hheap
    intro k
    dsimp only
    rw [hc, List.mem_cons]
    by_cases hk : k = id
    · simp [hk]
    · rw [Function.update_of_ne hk, hmem k]
      simp [hk]
  · dsimp only
    rw [buildConnection_connNum, hnum]
    simp
  · intro hstop
    rw [hrun] at hstop
    cases hstop
  · intro hleft
    have hstop := h.inLoop hleft
    rw [hrunning] at hstop
    cases hstop

lemma MonitorInv.disconnect (h : MonitorInv s) {id : ConnId} {d' : DaemonState}
    (hd : destroyConnection cfg s.daemon id = some d') :
    MonitorInv { s with daemon := d' } := by
  obtain ⟨l, hnodup, hmem, hnum⟩ := h.live
  obtain ⟨c, hc, hd⟩ := Option.bind_eq_some_iff.mp hd
  have hin : id ∈ l := (hmem id).mp (by simp [hc])
  have hlen := List.length_erase_of_mem hin
  have hpos := List.length_pos_of_mem hin
  have hparts : d'.heap = Function.update s.daemon.heap id none ∧
      d'.connNum = s.daemon.connNum - 1 ∧
      d'.running = if s.daemon.connNum - 1 = 0 then false else s.daemon.running := by
    rw [← Option.some_inj.mp hd]
    dsimp only
    split <;> exact ⟨rfl, rfl, rfl⟩
  obtain ⟨hheap, hnum', hrunning'⟩ := hparts
  refine ⟨⟨l.erase id, hnodup.erase id, ?_, ?_⟩, ?_, ?_⟩
  · intro k
    dsimp only
    rw [hheap, hnodup.mem_erase_iff]
    by_cases hk : k = id
    · simp [hk]
    · rw [Function.update_of_ne hk, hmem k]
      simp [hk]
  · dsimp only
    rw [hnum', hnum, hlen]
    omega
  · intro hstop
    dsimp only at hstop ⊢
    rw [hrunning'] at hstop
    split at hstop
    · omega
    · have hzero := h.running hstop
      omega
  · intro hleft
    dsimp only
    rw [hrunning', h.inLoop hleft]
    split <;> rfl

lemma MonitorInv.step (h : MonitorInv s) {e : MonitorEvent} (hok : requestWhileRunning s e)
    (he : monitorStep cfg hits s e = some s') : MonitorInv s' := by
  cases e with
  | conn e =>
    obtain ⟨d', hd, rfl⟩ := Option.map_eq_some_iff.mp he
    cases e with
    | connectRequest id junkIndex junkMsg =>
      simp only [onEvent, Option.ite_none_right_eq_some, Option.some_inj] at hd
      obtain ⟨hid, rfl⟩ := hd
      exact h.connect junkIndex junkMsg hid hok
    | disconnected id => exact h.disconnect hd
  | look filteredFreeMemG =>
    obtain ⟨m, -, hm⟩ := Option.bind_eq_some_iff.mp he
    split at hm
    · obtain ⟨hheap, hnum, hrunning, hfree⟩ := freeMemBody_conns cfg hits s m filteredFreeMemG
      rw [← Option.some_inj.mp hm]
      refine ⟨?_, ?_, fun hleft => (hfree hleft).elim⟩
      · rw [hheap, hnum]
        exact h.live
      · rw [hrunning, hnum]
        exact h.running
    · rename_i hstop
      rw [← Option.some_inj.mp hm]
      exact ⟨h.live, h.running, fun _ => Bool.eq_false_iff.mpr hstop⟩

lemma monitorInv_of_run {freeMemG lastFreeMemG : Int}
    (h : GuardedRun (monitorStep cfg hits) requestWhileRunning
      (monitorInit cfg freeMemG lastFreeMemG) s) : MonitorInv s :=
  h.invariant (monitorInv_init cfg freeMemG lastFreeMemG) fun _ _ _ hinv hok he =>
    hinv.step hok he

lemma pressure_evicts (cfg : DaemonConfig) (hits : HitThresholds) {x : Int}
    (hx : x < cfg.freeMemEvictThreshold) (hrunning : s.daemon.running = true)
    (hsize : 0 < s.daemon.sizeGb) (hm : s.freeMem ≠ none) :
    ∃ k s', runActions (monitorStep cfg hits) s (List.replicate k (.look x)) = some s' ∧
      ∃ stopSizeG, 0 < stopSizeG ∧ s'.calls = s.calls ++ [.evictMem stopSizeG] := by
  have hreach := runActions_reaches_goal (monitorStep cfg hits)
    (P := fun t => t.daemon.running = true ∧ 0 < t.daemon.sizeGb ∧ t.freeMem ≠ none ∧
      (t.calls = s.calls ∨ ∃ z, 0 < z ∧ t.calls = s.calls ++ [.evictMem z]))
    (fun t => ∃ z, 0 < z ∧ t.calls = s.calls ++ [.evictMem z]) (.look x)
    (fun t => hits.memEvict - (t.freeMem.map FreeMem.evictHitCount).getD 0) ?_ s
    ⟨hrunning, hsize, hm, .inl rfl⟩
  · obtain ⟨k, s', hrun, -, hgoal⟩ := hreach
    exact ⟨k, s', hrun, hgoal⟩
  · rintro t ⟨htrun, htsize, htm, hcalls⟩ hnot
    have hcalls : t.calls = s.calls := hcalls.resolve_right hnot
    obtain ⟨m, hm⟩ := Option.ne_none_iff_exists'.mp htm
    refine ⟨freeMemBody cfg hits t m x, ?_, ?_⟩
    · simp [monitorStep, hm, htrun]
    · unfold freeMemBody
      dsimp only
      rw [if_pos hx, hm]
      by_cases hhit : hits.memEvict ≤ m.evictHitCount + 1
      · rw [if_pos hhit]
        -- the reading is below the threshold and there is memory, so the size is positive
        have hstop : 0 < if t.daemon.sizeGb < cfg.freeMemEvictThreshold - x then t.daemon.sizeGb
            else cfg.freeMemEvictThreshold - x := by
          split <;> omega
        rw [if_pos hstop, hcalls]
        exact ⟨⟨htrun, htsize, by simp, .inr ⟨_, hstop, rfl⟩⟩, .inl ⟨_, hstop, rfl⟩⟩
      · rw [if_neg hhit]
        refine ⟨⟨htrun, htsize, by simp, .inl hcalls⟩, .inr ?_⟩
        simp only [Option.map_some, Option.getD_some]
        omega

lemma slack_expands (cfg : DaemonConfig) (hits : HitThresholds) {x : Int}
    (hx : cfg.freeMemExpandThreshold < x) (hrunning : s.daemon.running = true)
    (hm : s.freeMem ≠ none) :
    ∃ k s', runActions (monitorStep cfg hits) s (List.replicate k (.look x)) = some s' ∧
      s'.calls = s.calls ++ [.expand] := by
  have hreach := runActions_reaches_goal (monitorStep cfg hits)
    (P := fun t => t.daemon.running = true ∧ t.freeMem ≠ none ∧
      (t.calls = s.calls ∨ t.calls = s.calls ++ [.expand]))
    (fun t => t.calls = s.calls ++ [.expand]) (.look x)
    (fun t => hits.memExpand - (t.freeMem.map FreeMem.expandHitCount).getD 0) ?_ s
    ⟨hrunning, hm, .inl rfl⟩
  · obtain ⟨k, s', hrun, -, hgoal⟩ := hreach
    exact ⟨k, s', hrun, hgoal⟩
  · rintro t ⟨htrun, htm, hcalls⟩ hnot
    have hcalls : t.calls = s.calls := hcalls.resolve_right hnot
    have hlow : ¬x < cfg.freeMemEvictThreshold := by
      have hle := cfg.thresholds_le
      omega
    obtain ⟨m, hm⟩ := Option.ne_none_iff_exists'.mp htm
    refine ⟨freeMemBody cfg hits t m x, ?_, ?_⟩
    · simp [monitorStep, hm, htrun]
    · unfold freeMemBody
      dsimp only
      rw [if_neg hlow, if_pos hx, hm]
      by_cases hhit : hits.memExpand ≤ m.expandHitCount + 1
      · rw [if_pos hhit, hcalls]
        have hrun := (expandMem_conns cfg t.daemon x).2.2
        exact ⟨⟨hrun.trans htrun, by simp, .inr rfl⟩, .inl rfl⟩
      · rw [if_neg hhit]
        refine ⟨⟨htrun, by simp, .inl hcalls⟩, .inr ?_⟩
        simp only [Option.map_some, Option.getD_some]
        omega

/-- What the monitor is there for: it is in its loop, and low and high readings still lead to
evictions and expansions. -/
structure MonitorServes (cfg : DaemonConfig) (hits : HitThresholds) (s : MonitorState) : Prop where
  running : s.daemon.running = true
  inLoop : s.freeMem ≠ none
  evicts : 0 < s.daemon.sizeGb → ∀ x < cfg.freeMemEvictThreshold, ∃ k s',
    runActions (monitorStep cfg hits) s (List.replicate k (.look x)) = some s' ∧
      ∃ stopSizeG, 0 < stopSizeG ∧ s'.calls = s.calls ++ [.evictMem stopSizeG]
  expands : ∀ x > cfg.freeMemExpandThreshold, ∃ k s',
    runActions (monitorStep cfg hits) s (List.replicate k (.look x)) = some s' ∧
      s'.calls = s.calls ++ [.expand]

lemma MonitorInv.serves (h : MonitorInv s) (hnum : 0 < s.daemon.connNum) :
    MonitorServes cfg hits s := by
  have hrunning : s.daemon.running = true := by
    by_contra hstop
    have hzero := h.running (Bool.eq_false_iff.mpr hstop)
    omega
  have hin : s.freeMem ≠ none := by
    intro hleft
    rw [h.inLoop hleft] at hrunning
    cases hrunning
  exact ⟨hrunning, hin, fun hsize x hx => pressure_evicts cfg hits hx hrunning hsize hin,
    fun x hx => slack_expands cfg hits hx hrunning hin⟩

/-- Along all runs in which no client comes after the last one has gone, for any scheduling of
the monitor: while a connection is live the monitor is in its loop and can evict and expand. -/
theorem monitor_serves_clients (cfg : DaemonConfig) (hits : HitThresholds)
    (freeMemG lastFreeMemG : Int) (s : MonitorState)
    (h : GuardedRun (monitorStep cfg hits) requestWhileRunning
      (monitorInit cfg freeMemG lastFreeMemG) s) :
    ((∃ id, s.daemon.heap id ≠ none) ↔ 0 < s.daemon.connNum) ∧
      (0 < s.daemon.connNum → MonitorServes cfg hits s) := by
  have hinv := monitorInv_of_run h
  refine ⟨?_, hinv.serves⟩
  obtain ⟨l, -, hmem, hnum⟩ := hinv.live
  rw [hnum, Int.natCast_pos, List.length_pos_iff_exists_mem]
  exact exists_congr hmem

/-- A client stays while another one comes and goes. -/
theorem monitor_serves_clients_two :
    ∃ s, runChecked (monitorStep defaultConfig defaultHits)
        (fun s e => decide (requestWhileRunning s e)) (monitorInit defaultConfig 20 20)
        [.conn (.connectRequest 0 7 emptyMessage), .look 12,
          .conn (.connectRequest 1 7 emptyMessage), .conn (.disconnected 1), .look 12] = some s ∧
      MonitorServes defaultConfig defaultHits s := by
  obtain ⟨s, hs, hnum⟩ : ∃ s, runChecked (monitorStep defaultConfig defaultHits)
      (fun s e => decide (requestWhileRunning s e)) (monitorInit defaultConfig 20 20)
      [.conn (.connectRequest 0 7 emptyMessage), .look 12,
        .conn (.connectRequest 1 7 emptyMessage), .conn (.disconnected 1), .look 12] = some s ∧
        0 < s.daemon.connNum := ⟨_, rfl, by decide⟩
  have hrun := runChecked_decide_reaches hs
  exact ⟨s, hs, (monitor_serves_clients defaultConfig defaultHits 20 20 s hrun).2 hnum⟩

/-- The only client goes, the monitor looks and leaves its loop, and another client comes. -/
theorem monitor_gone_for_second_client :
    ∃ s, runActions (monitorStep defaultConfig defaultHits) (monitorInit defaultConfig 20 20)
        [.conn (.connectRequest 0 7 emptyMessage), .conn (.disconnected 0), .look 12,
          .conn (.connectRequest 1 7 emptyMessage)] = some s ∧
      0 < s.daemon.connNum ∧ s.daemon.running = false ∧ s.freeMem = none :=
  ⟨_, rfl, by decide, rfl, rfl⟩

end DisStore.Proofs
