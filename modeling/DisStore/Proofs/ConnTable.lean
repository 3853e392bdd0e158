import DisStore.Monitor
import DisStore.Lib.Count
import DisStore.Lib.Run

/-!
# The connection table of the daemon

Connections come into the first idle slot and leave it again in any order. The table is in
step with the live connections as long as every request finds an idle slot; a request that
finds none is accepted all the same.
-/

namespace DisStore.Proofs

open DisStore DisStore.Lib

variable {cfg : DaemonConfig} {d d' : DaemonState}

/-- Every live connection has exactly one slot of the table, the other slots are empty and
`conn_num` counts the occupied ones. -/
structure ConnTable (cfg : DaemonConfig) (d : DaemonState) : Prop where
  live : ∀ id c, d.heap id = some c → 0 ≤ c.connIndex ∧ c.connIndex < cfg.maxClient ∧
    d.conns c.connIndex = some id ∧ d.connsState c.connIndex ≠ .idle
  once : ∀ id c, d.heap id = some c → ∀ i : Int, 0 ≤ i → i < cfg.maxClient →
    d.conns i = some id → i = c.connIndex
  others : ∀ i : Int, 0 ≤ i → i < cfg.maxClient →
    (∀ id c, d.heap id = some c → c.connIndex ≠ i) →
      d.conns i = none ∧ d.connsState i = .idle
  num : d.connNum = Nat.count (fun i => d.conns i ≠ none) cfg.maxClient

lemma conns_once
    (hlive : ∀ id c, d.heap id = some c → 0 ≤ c.connIndex ∧ c.connIndex < cfg.maxClient ∧
      d.conns c.connIndex = some id ∧ d.connsState c.connIndex ≠ .idle)
    (hothers : ∀ i : Int, 0 ≤ i → i < cfg.maxClient →
      (∀ id c, d.heap id = some c → c.connIndex ≠ i) →
        d.conns i = none ∧ d.connsState i = .idle)
    {id : ConnId} {c : Connection} (hc : d.heap id = some c) {i : Int} (hi : 0 ≤ i)
    (hi' : i < cfg.maxClient) (hconns : d.conns i = some id) : i = c.connIndex := by
  by_contra hne
  have hnone : ∀ k c', d.heap k = some c' → c'.connIndex ≠ i := by
    intro k c' hc' he
    have hk : d.conns i = some k := he ▸ (hlive k c' hc').2.2.1
    obtain rfl := Option.some_inj.mp (hk.symm.trans hconns)
    obtain rfl := Option.some_inj.mp (hc'.symm.trans hc)
    exact hne he.symm
  rw [(hothers i hi hi' hnone).1] at hconns
  cases hconns

lemma connTable_init (cfg : DaemonConfig) (freeMemG : Int) :
    ConnTable cfg (rdmaSessionInit cfg freeMemG) := by
  have hheap : ∀ id, (rdmaSessionInit cfg freeMemG).heap id = none := fun _ => rfl
  refine ⟨?_, ?_, fun _ _ _ _ => ⟨rfl, rfl⟩, ?_⟩
  · intro id c hc
    rw [hheap] at hc
    cases hc
  · intro id c hc
    rw [hheap] at hc
    cases hc
  · simp [rdmaSessionInit, Nat.count_false]

lemma firstIdleSlot_spec {slot : Nat} (h : firstIdleSlot cfg d = some slot) :
    slot < cfg.maxClient ∧ d.connsState slot = .idle := by
  have hmem := List.mem_of_find?_eq_some h
  exact ⟨List.mem_range.mp hmem, by simpa using List.find?_some h⟩

lemma exists_firstIdleSlot {i : Nat} (hi : i < cfg.maxClient) (hidle : d.connsState i = .idle) :
    ∃ slot, firstIdleSlot cfg d = some slot := by
  refine Option.isSome_iff_exists.mp (List.find?_isSome.mpr ⟨i, List.mem_range.mpr hi, ?_⟩)
  simpa using hidle

lemma ConnTable.empty_of_idle (h : ConnTable cfg d) {i : Nat} (hi : i < cfg.maxClient)
    (hidle : d.connsState i = .idle) :
    d.conns i = none ∧ ∀ id c, d.heap id = some c → c.connIndex ≠ i := by
  have hnone : ∀ id c, d.heap id = some c → c.connIndex ≠ i := by
    intro id c hc he
    exact (h.live id c hc).2.2.2 (he ▸ hidle)
  exact ⟨(h.others i (by omega) (by omega) hnone).1, hnone⟩

lemma ConnTable.enter (h : ConnTable cfg d) {id : ConnId} {c : Connection} {slot : Nat}
    (hid : d.heap id = none) (hlt : slot < cfg.maxClient) (hidle : d.connsState slot = .idle)
    (hindex : c.connIndex = slot) :
    ConnTable cfg { d with
      heap := Function.update d.heap id (some c)
      conns := Function.update d.conns slot (some id)
      connsState := Function.update d.connsState slot .connected
      connNum := d.connNum + 1 } := by
  obtain ⟨hempty, hnone⟩ := h.empty_of_idle hlt hidle
  have hlive : ∀ k c', Function.update d.heap id (some c) k = some c' →
      0 ≤ c'.connIndex ∧ c'.connIndex < cfg.maxClient ∧
        Function.update d.conns slot (some id) c'.connIndex = some k ∧
        Function.update d.connsState slot .connected c'.connIndex ≠ .idle := by
    intro k c' hc'
    by_cases hk : k = id
    · subst hk
      rw [Function.update_self, Option.some_inj] at hc'
      subst hc'
      rw [hindex]
      simp [hlt]
    · rw [Function.update_of_ne hk] at hc'
      have hne := hnone k c' hc'
      rw [Function.update_of_ne hne, Function.update_of_ne hne]
      exact h.live k c' hc'
  have hothers : ∀ i : Int, 0 ≤ i → i < cfg.maxClient →
      (∀ k c', Function.update d.heap id (some c) k = some c' → c'.connIndex ≠ i) →
      Function.update d.conns slot (some id) i = none ∧
        Function.update d.connsState slot .connected i = .idle := by
    intro i hi hi' hfree
    have hne : i ≠ slot := by
      intro he
      exact hfree id c (Function.update_self ..) (hindex.trans he.symm)
    rw [Function.update_of_ne hne, Function.update_of_ne hne]
    refine h.others i hi hi' fun k c' hc' => hfree k c' ?_
    have hk : k ≠ id := by
      rintro rfl
      rw [hid] at hc'
      cases hc'
    rw [Function.update_of_ne hk]
    exact hc'
  refine ⟨hlive, fun k c' hc' i hi hi' => conns_once hlive hothers hc' hi hi', hothers, ?_⟩
  have hcount : Nat.count (fun i : Nat => Function.update d.conns slot (some id) i ≠ none)
      cfg.maxClient = Nat.count (fun i : Nat => d.conns i ≠ none) cfg.maxClient + 1 := by
    refine count_insert hlt (not_not.mpr hempty) ?_ ?_
    · rw [Function.update_self]
      exact Option.some_ne_none id
    · intro j _ hne
      rw [Function.update_of_ne (Int.ofNat_inj.not.mpr hne)]
  dsimp only
  rw [h.num, hcount]
  push_cast
  rfl

lemma ConnTable.leave (h : ConnTable cfg d) {id : ConnId} {c : Connection}
    (hc : d.heap id = some c) :
    ConnTable cfg { d with
      heap := Function.update d.heap id none
      conns := Function.update d.conns c.connIndex none
      connsState := Function.update d.connsState c.connIndex .idle
      connNum := d.connNum - 1 } := by
  obtain ⟨hpos, hlt, hconns, -⟩ := h.live id c hc
  -- the connections that stay are the ones of other slots
  have hstay : ∀ k c', Function.update d.heap id none k = some c' →
      d.heap k = some c' ∧ c'.connIndex ≠ c.connIndex := by
    intro k c' hc'
    have hk : k ≠ id := by
      rintro rfl
      rw [Function.update_self] at hc'
      cases hc'
    rw [Function.update_of_ne hk] at hc'
    refine ⟨hc', fun he => hk ?_⟩
    have hslot := (h.live k c' hc').2.2.1
    rw [he, hconns] at hslot
    exact (Option.some_inj.mp hslot).symm
  have hlive : ∀ k c', Function.update d.heap id none k = some c' →
      0 ≤ c'.connIndex ∧ c'.connIndex < cfg.maxClient ∧
        Function.update d.conns c.connIndex none c'.connIndex = some k ∧
        Function.update d.connsState c.connIndex .idle c'.connIndex ≠ .idle := by
    intro k c' hc'
    obtain ⟨hold, hne⟩ := hstay k c' hc'
    rw [Function.update_of_ne hne, Function.update_of_ne hne]
    exact h.live k c' hold
  have hothers : ∀ i : Int, 0 ≤ i → i < cfg.maxClient →
      (∀ k c', Function.update d.heap id none k = some c' → c'.connIndex ≠ i) →
      Function.update d.conns c.connIndex none i = none ∧
        Function.update d.connsState c.connIndex .idle i = .idle := by
    intro i hi hi' hfree
    by_cases he : i = c.connIndex
    · rw [he, Function.update_self, Function.update_self]
      exact ⟨rfl, rfl⟩
    · rw [Function.update_of_ne he, Function.update_of_ne he]
      refine h.others i hi hi' fun k c' hc' => ?_
      by_cases hk : k = id
      · rw [hk, hc] at hc'
        rw [← Option.some_inj.mp hc']
        exact Ne.symm he
      · exact hfree k c' (by rw [Function.update_of_ne hk]; exact hc')
  refine ⟨hlive, fun k c' hc' i hi hi' => conns_once hlive hothers hc' hi hi', hothers, ?_⟩
  have hslot : ((c.connIndex.toNat : Nat) : Int) = c.connIndex := Int.toNat_of_nonneg hpos
  have hcount : Nat.count (fun i : Nat => d.conns i ≠ none) cfg.maxClient =
      Nat.count (fun i : Nat => Function.update d.conns c.connIndex none i ≠ none)
        cfg.maxClient + 1 := by
    refine count_insert (i := c.connIndex.toNat) (by omega) ?_ ?_ ?_
    · rw [hslot, Function.update_self]
      exact not_not.mpr rfl
    · rw [hslot, hconns]
      exact Option.some_ne_none id
    · intro j _ hne
      have hne' : (j : Int) ≠ c.connIndex := by omega
      rw [Function.update_of_ne hne']
  dsimp only
  rw [h.num, hcount]
  push_cast
  omega

lemma ConnTable.congr (h : ConnTable cfg d) (hheap : d'.heap = d.heap) (hconns : d'.conns = d.conns)
    (hstate : d'.connsState = d.connsState) (hnum : d'.connNum = d.connNum) :
    ConnTable cfg d' := by
  obtain ⟨hlive, honce, hothers, hcount⟩ := h
  constructor
  · rw [hheap, hconns, hstate]
    exact hlive
  · rw [hheap, hconns]
    exact honce
  · rw [hheap, hconns, hstate]
    exact hothers
  · rw [hnum, hconns]
    exact hcount

/-- A connection request comes while some slot is idle. -/
def findsIdleSlot (cfg : DaemonConfig) (d : DaemonState) : ConnEvent → Prop
  | .connectRequest _ _ _ => ∃ i < cfg.maxClient, d.connsState (i : Nat) = .idle
  | .disconnected _ => True

instance (cfg : DaemonConfig) (d : DaemonState) (e : ConnEvent) :
    Decidable (findsIdleSlot cfg d e) :=
  match e with
  | .connectRequest _ _ _ =>
    inferInstanceAs (Decidable (∃ i < cfg.maxClient, d.connsState (i : Nat) = .idle))
  | .disconnected _ => isTrue trivial

lemma ConnTable.buildConnection (h : ConnTable cfg d) {id : ConnId} (junkIndex : Int)
    (junkMsg : Message) (hid : d.heap id = none) {i : Nat} (hi : i < cfg.maxClient)
    (hidle : d.connsState i = .idle) :
    ConnTable cfg (DisStore.buildConnection cfg d id junkIndex junkMsg) := by
  obtain ⟨slot, hslot⟩ := exists_firstIdleSlot hi hidle
  obtain ⟨hlt, hslotIdle⟩ := firstIdleSlot_spec hslot
  unfold DisStore.buildConnection
  rw [hslot]
  exact h.enter hid hlt hslotIdle rfl

lemma ConnTable.onEvent (h : ConnTable cfg d) {e : ConnEvent} (hok : findsIdleSlot cfg d e)
    (he : DisStore.onEvent cfg d e = some d') : ConnTable cfg d' := by
  cases e with
  | connectRequest id junkIndex junkMsg =>
    simp only [DisStore.onEvent, Option.ite_none_right_eq_some, Option.some_inj] at he
    obtain ⟨hid, rfl⟩ := he
    obtain ⟨i, hi, hidle⟩ := hok
    exact h.buildConnection junkIndex junkMsg hid hi hidle
  | disconnected id =>
    obtain ⟨c, hc, hd⟩ := Option.bind_eq_some_iff.mp he
    refine (h.leave hc).congr ?_ ?_ ?_ ?_ <;>
      · rw [← Option.some_inj.mp hd]
        dsimp only
        split <;> rfl

lemma connTable_of_run {freeMemG : Int}
    (h : GuardedRun (onEvent cfg) (findsIdleSlot cfg) (rdmaSessionInit cfg freeMemG) d) :
    ConnTable cfg d :=
  h.invariant (connTable_init cfg freeMemG) fun _ _ _ htable hok he => htable.onEvent hok he

/-- The table after a request: it is in step with the connections, and if all slots were taken
nothing has changed. -/
def RequestHandled (cfg : DaemonConfig) (d d' : DaemonState) : Prop :=
  ConnTable cfg d' ∧ ((∀ i < cfg.maxClient, d.connsState (i : Nat) ≠ .idle) →
    d'.heap = d.heap ∧ d'.conns = d.conns ∧ d'.connsState = d.connsState ∧
      d'.connNum = d.connNum)

/-- The daemon counts every request, also one that has found no slot. -/
lemma buildConnection_connNum (cfg : DaemonConfig) (d : DaemonState) (id : ConnId)
    (junkIndex : Int) (junkMsg : Message) :
    (buildConnection cfg d id junkIndex junkMsg).connNum = d.connNum + 1 := by
  unfold buildConnection
  cases firstIdleSlot cfg d <;> rfl

/-- Along all runs in which every request finds an idle slot the table is in step with the
connections, and the next request is handled correctly iff it finds an idle slot, too. -/
theorem conn_table_matches_connections (cfg : DaemonConfig) (freeMemG : Int) (d : DaemonState)
    (h : GuardedRun (onEvent cfg) (findsIdleSlot cfg) (rdmaSessionInit cfg freeMemG) d) :
    ConnTable cfg d ∧
    ∀ id junkIndex junkMsg d', onEvent cfg d (.connectRequest id junkIndex junkMsg) = some d' →
      (RequestHandled cfg d d' ↔ findsIdleSlot cfg d (.connectRequest id junkIndex junkMsg)) := by
  have htable := connTable_of_run h
  refine ⟨htable, fun id junkIndex junkMsg d' he => ⟨fun hhandled => ?_, fun hfits => ?_⟩⟩
  · by_contra hfull
    have htaken : ∀ i < cfg.maxClient, d.connsState (i : Nat) ≠ .idle := fun i hi hidle =>
      hfull ⟨i, hi, hidle⟩
    obtain ⟨-, -, -, hnum⟩ := hhandled.2 htaken
    simp only [onEvent, Option.ite_none_right_eq_some, Option.some_inj] at he
    rw [← he.2, buildConnection_connNum] at hnum
    omega
  · obtain ⟨i, hi, hidle⟩ := hfits
    have hfits : findsIdleSlot cfg d (.connectRequest id junkIndex junkMsg) := ⟨i, hi, hidle⟩
    exact ⟨htable.onEvent hfits he, fun htaken => (htaken i hi hidle).elim⟩

/-- Two clients connect and the first one leaves again. -/
theorem conn_table_matches_connections_two :
    ∃ d, runChecked (onEvent defaultConfig) (fun d e => decide (findsIdleSlot defaultConfig d e))
        (rdmaSessionInit defaultConfig 0)
        [.connectRequest 0 7 emptyMessage, .connectRequest 1 7 emptyMessage, .disconnected 0] =
          some d ∧ ConnTable defaultConfig d ∧ d.connNum = 1 := by
  obtain ⟨d, hd, hnum⟩ : ∃ d, runChecked (onEvent defaultConfig)
      (fun d e => decide (findsIdleSlot defaultConfig d e)) (rdmaSessionInit defaultConfig 0)
      [.connectRequest 0 7 emptyMessage, .connectRequest 1 7 emptyMessage, .disconnected 0] =
        some d ∧ d.connNum = 1 := ⟨_, rfl, rfl⟩
  have hrun := runChecked_decide_reaches hd
  exact ⟨d, hd, (conn_table_matches_connections defaultConfig 0 d hrun).1, hnum⟩

/-- One client more than there are slots is accepted and counted. -/
theorem full_table_accepts_request :
    ∃ d, runActions (onEvent defaultConfig) (rdmaSessionInit defaultConfig 0)
        ((List.range 33).map fun k => .connectRequest k 7 emptyMessage) = some d ∧
      ¬ConnTable defaultConfig d := by
  obtain ⟨d, hd, hnum⟩ : ∃ d, runActions (onEvent defaultConfig) (rdmaSessionInit defaultConfig 0)
      ((List.range 33).map fun k => .connectRequest k 7 emptyMessage) = some d ∧
        d.connNum = 33 := ⟨_, rfl, rfl⟩
  refine ⟨d, hd, fun htable => ?_⟩
  have hcount := Nat.count_le (p := fun i : Nat => d.conns i ≠ none) (n := defaultConfig.maxClient)
  have hslots : defaultConfig.maxClient = 32 := rfl
  have hoccupied := htable.num
  omega

end DisStore.Proofs
