import DisStore.Proofs.EvictSelect

/-!
# STOP messages of an eviction round

The loops of `evict_mem` are computed one after the other: the state after each of them is an
explicit function of the state before the round. Every asked connection is sent one STOP
message and the flags add up, but all of these messages carry the count of the connection that
was flagged last.
-/

namespace DisStore.Proofs
open DisStore DisStore.Lib

variable {cfg : DaemonConfig} {d : DaemonState}

/-- The listed connections are all changed by `f`. -/
def updateConns (d : DaemonState) (ids : List ConnId) (f : ConnId → Connection → Connection) :
    DaemonState :=
  { d with heap := fun k => if k ∈ ids then (d.heap k).map (f k) else d.heap k }

lemma updateConns_nil (f : ConnId → Connection → Connection) : updateConns d [] f = d := by
  simp [updateConns]

lemma updateConns_cons {id : ConnId} {ids : List ConnId} (f : ConnId → Connection → Connection)
    (hid : id ∉ ids) :
    updateConns (d.updateConn id (f id)) ids f = updateConns d (id :: ids) f := by
  unfold updateConns DaemonState.updateConn
  congr 1
  funext k
  by_cases hk : k = id
  · subst hk
    simp [hid]
  · simp [hk]

lemma updateConns_twice (ids : List ConnId) (f g : ConnId → Connection → Connection) :
    updateConns (updateConns d ids f) ids g = updateConns d ids fun k c => g k (f k c) := by
  unfold updateConns
  congr 1
  funext k
  by_cases hk : k ∈ ids
  · simp only [hk, if_true, Option.map_map]
    rfl
  · simp only [hk, if_false]

/-- The connection in a slot. -/
def slotConn (d : DaemonState) (i : Nat) : ConnId := (d.conns i).getD 0

/-- Distinct slots that hold connections. -/
structure Occupied (d : DaemonState) (slots : List Nat) : Prop where
  nodup : slots.Nodup
  conn : ∀ i ∈ slots, ∃ c, d.conns i = some (slotConn d i) ∧ d.heap (slotConn d i) = some c ∧
    c.connIndex = i

lemma Occupied.tail {i : Nat} {slots : List Nat} (h : Occupied d (i :: slots)) :
    Occupied d slots ∧ slotConn d i ∉ slots.map (slotConn d) := by
  obtain ⟨hi, hnodup⟩ := List.nodup_cons.mp h.nodup
  refine ⟨⟨hnodup, fun j hj => h.conn j (List.mem_cons_of_mem _ hj)⟩, ?_⟩
  intro hmem
  obtain ⟨j, hj, he⟩ := List.mem_map.mp hmem
  obtain ⟨c, -, hc, hidx⟩ := h.conn i List.mem_cons_self
  obtain ⟨c', -, hc', hidx'⟩ := h.conn j (List.mem_cons_of_mem _ hj)
  rw [he, hc] at hc'
  have hcc := Option.some.inj hc'
  have hij : i = j := by
    rw [hcc, hidx'] at hidx
    omega
  exact hi (hij ▸ hj)

lemma Occupied.updateConn {i : Nat} {slots : List Nat} (h : Occupied d (i :: slots))
    (f : Connection → Connection) : Occupied (d.updateConn (slotConn d i) f) slots := by
  obtain ⟨htail, hfresh⟩ := h.tail
  refine ⟨htail.nodup, fun j hj => ?_⟩
  obtain ⟨c, hslot, hc, hidx⟩ := htail.conn j hj
  have hne : slotConn d j ≠ slotConn d i := by
    intro he
    exact hfresh (he ▸ List.mem_map_of_mem hj)
  refine ⟨c, hslot, ?_, hidx⟩
  have hheap := updateConn_of_some (slotConn d i) f hc
  rw [if_neg hne] at hheap
  exact hheap

lemma forSlots_update (step : DaemonState → ConnId → Option (DaemonState × Outbox))
    (f : ConnId → Connection → Connection) (out : ConnId → Connection → Outbox)
    (hstep : ∀ d id c, d.heap id = some c → step d id = some (d.updateConn id (f id), out id c))
    (slots : List Nat) (d : DaemonState) (h : Occupied d slots) :
    forSlots step slots d = some (updateConns d (slots.map (slotConn d)) f,
      slots.flatMap fun i => ((d.heap (slotConn d i)).map (out (slotConn d i))).getD []) := by
  induction slots generalizing d with
  | nil => simp [forSlots, updateConns_nil]
  | cons i slots ih =>
    obtain ⟨c, hslot, hc, -⟩ := h.conn i List.mem_cons_self
    obtain ⟨-, hfresh⟩ := h.tail
    have hrest := ih (d.updateConn (slotConn d i) (f (slotConn d i))) (h.updateConn _)
    have hconn : ∀ j, slotConn (d.updateConn (slotConn d i) (f (slotConn d i))) j = slotConn d j :=
      fun _ => rfl
    simp only [hconn] at hrest
    simp only [forSlots, hslot, hstep d _ c hc, hrest, Option.bind_eq_bind, Option.bind_some,
      Option.some.injEq, Prod.mk.injEq]
    constructor
    · rw [List.map_cons]
      exact updateConns_cons f hfresh
    · rw [List.flatMap_cons, hc]
      congr 1
      apply List.flatMap_congr
      intro j hj
      have hne : slotConn d j ≠ slotConn d i := by
        intro he
        exact hfresh (he ▸ List.mem_map_of_mem hj)
      rw [updateConn_heap, if_neg hne]

/-- What the connection in a slot has reported. -/
def slotReports (cfg : DaemonConfig) (d : DaemonState) (i : Nat) : List ChunkActivity :=
  ((d.heap (slotConn d i)).map fun c => reportedActivity cfg c.recvMsg).getD []

lemma collectActivity_eq (cfg : DaemonConfig) (slots : List Nat) (d : DaemonState) (h : Occupied d slots)
    (hsem : ∀ i ∈ slots, ∀ c, d.heap (slotConn d i) = some c → 0 < c.evictSem) :
    collectActivity cfg slots d = some
      (updateConns d (slots.map (slotConn d)) (fun _ => takeActivity),
        slots.flatMap (slotReports cfg d)) := by
  induction slots generalizing d with
  | nil => simp [collectActivity, updateConns_nil]
  | cons i slots ih =>
    obtain ⟨c, hslot, hc, -⟩ := h.conn i List.mem_cons_self
    obtain ⟨-, hfresh⟩ := h.tail
    have hne : ∀ j ∈ slots, slotConn d j ≠ slotConn d i := by
      intro j hj he
      exact hfresh (he ▸ List.mem_map_of_mem hj)
    have hrest := ih (d.updateConn (slotConn d i) takeActivity) (h.updateConn _) (by
      intro j hj c' hc'
      change (d.updateConn (slotConn d i) takeActivity).heap (slotConn d j) = some c' at hc'
      rw [updateConn_heap, if_neg (hne j hj)] at hc'
      exact hsem j (List.mem_cons_of_mem _ hj) c' hc')
    have hreports : slots.flatMap (slotReports cfg (d.updateConn (slotConn d i) takeActivity)) =
        slots.flatMap (slotReports cfg d) := by
      apply List.flatMap_congr
      intro j hj
      change (((d.updateConn _ _).heap (slotConn d j)).map _).getD [] = slotReports cfg d j
      rw [updateConn_heap, if_neg (hne j hj)]
      rfl
    have hown : slotReports cfg d i = reportedActivity cfg c.recvMsg := by
      simp [slotReports, hc]
    have hpos := hsem i List.mem_cons_self c hc
    simp only [collectActivity, hslot, hc, Option.bind_eq_bind, Option.bind_some, hpos, guard_true,
      Option.pure_def, hrest, Option.some.injEq, Prod.mk.injEq]
    constructor
    · rw [List.map_cons]
      exact updateConns_cons (fun _ => takeActivity) hfresh
    · rw [List.flatMap_cons, hown, hreports]

lemma totalChunks_eq (slots : List Nat) (d : DaemonState) (h : Occupied d slots) :
    totalChunks d slots = some (slots.map fun i =>
      ((d.heap (slotConn d i)).map Connection.mappedChunkSize).getD 0).sum := by
  have hloop : ∀ (slots : List Nat) (k : Int), Occupied d slots →
      slots.foldlM (fun (k : Int) (i : Nat) => do
        let conn ← (d.conns i).bind d.heap
        some (k + conn.mappedChunkSize)) k =
      some (k + (slots.map fun i =>
        ((d.heap (slotConn d i)).map Connection.mappedChunkSize).getD 0).sum) := by
    intro slots
    induction slots with
    | nil => simp
    | cons i slots ih =>
      intro k h
      obtain ⟨c, hslot, hc, -⟩ := h.conn i List.mem_cons_self
      have hrest := ih (k + c.mappedChunkSize) h.tail.1
      simp only [List.foldlM_cons, hslot, hc, Option.bind_some, Option.bind_eq_bind] at hrest ⊢
      rw [hrest, List.map_cons, List.sum_cons, hc]
      simp [add_assoc]
  rw [totalChunks, hloop slots 0 h, zero_add]

/-- The connection's part of the listed slabs has been flagged and counted. -/
def flagConn (connMap : Nat → Int) (slabs : List Nat) (c : Connection) : Connection :=
  { c with sendMsg := { c.sendMsg with
      rkey := fun m => if m ∈ slabs ∧ connMap m = c.connIndex then 1 else c.sendMsg.rkey m
      sizeGb := c.sendMsg.sizeGb + slabs.countP fun m => decide (connMap m = c.connIndex) } }

def flagSlabs (d : DaemonState) (slabs : List Nat) : DaemonState :=
  { d with heap := fun k => (d.heap k).map (flagConn d.connMap slabs) }

lemma flagSlabs_nil (d : DaemonState) : flagSlabs d [] = d := by
  have hconn : flagConn d.connMap [] = id := by
    funext c
    simp [flagConn]
  simp [flagSlabs, hconn]

lemma flagSlabs_snoc (slabs : List Nat) {m : Nat} {id : ConnId} {c : Connection}
    (hc : d.heap id = some c) (hidx : c.connIndex = d.connMap m)
    (hinj : ∀ k c', d.heap k = some c' → c'.connIndex = d.connMap m → k = id) :
    (flagSlabs d slabs).updateConn id (fun c => { c with sendMsg := { c.sendMsg with
        rkey := Function.update c.sendMsg.rkey m 1
        sizeGb := c.sendMsg.sizeGb + 1 } }) = flagSlabs d (slabs ++ [m]) := by
  unfold flagSlabs DaemonState.updateConn
  congr 1
  funext k
  by_cases hk : k = id
  · subst hk
    simp only [Function.update_self, hc, Option.map_some, flagConn, Option.some.injEq,
      Connection.mk.injEq, Message.mk.injEq, true_and, and_true]
    constructor
    · funext m'
      by_cases hm : m' = m
      · subst hm
        simp [hidx]
      · simp [hm]
    · rw [List.countP_append]
      simp [hidx, add_assoc]
  · rw [Function.update_of_ne hk]
    cases hk' : d.heap k with
    | none => simp [hk']
    | some c' =>
      have hne : d.connMap m ≠ c'.connIndex := fun he => hk (hinj k c' hk' he.symm)
      simp only [hk', Option.map_some, flagConn, Option.some.injEq, Connection.mk.injEq,
        Message.mk.injEq, true_and, and_true]
      constructor
      · funext m'
        by_cases hm : m' = m
        · subst hm
          simp [hne]
        · simp [hm]
      · rw [List.countP_append]
        simp [hne]

/-- The marks of the connections after the listed slabs have been flagged. -/
def markFlagged (d : DaemonState) (sendList : Int → Int) (slabs : List Nat) (x : Int) : Int :=
  if sendList x = 1 ∧ slabs.any (fun m => decide (d.connMap m = x)) then 2 else sendList x

/-- The value that `conn_index` is left with. -/
def lastOwner (d : DaemonState) (slabs : List Nat) : Int :=
  (slabs.getLast?.map d.connMap).getD (-1)

/-- A slab of a connection that was asked. -/
def AskedSlab (cfg : DaemonConfig) (d : DaemonState) (sendList : Int → Int) (m : Nat) : Prop :=
  m < cfg.maxFreeMemGb ∧ sendList (d.connMap m) = 1 ∧
    ∃ id c, d.conns (d.connMap m) = some id ∧ d.heap id = some c ∧ c.connIndex = d.connMap m

lemma markFlagged_snoc {sendList : Int → Int} (slabs : List Nat) {m : Nat}
    (hm : sendList (d.connMap m) = 1) :
    (if markFlagged d sendList slabs (d.connMap m) = 1 then
      Function.update (markFlagged d sendList slabs) (d.connMap m) 2
    else markFlagged d sendList slabs) = markFlagged d sendList (slabs ++ [m]) := by
  funext x
  by_cases hx : x = d.connMap m
  · subst hx
    by_cases hany : slabs.any (fun m' => decide (d.connMap m' = d.connMap m)) = true
    · simp [markFlagged, hm, hany]
    · simp [markFlagged, hm, hany]
  · have hne : d.connMap m ≠ x := fun he => hx he.symm
    have hsame : markFlagged d sendList (slabs ++ [m]) x = markFlagged d sendList slabs x := by
      simp [markFlagged, hne]
    rw [hsame]
    split
    · rw [Function.update_of_ne hx]
    · rfl

lemma flagLoop_eq {k : Nat} {ev : Nat → ChunkActivity} {sendList : Int → Int}
    (hlisted : Listed k (AskedSlab cfg d sendList) ev)
    (hinj : ∀ k k' c c', d.heap k = some c → d.heap k' = some c' →
      c.connIndex = c'.connIndex → k = k') (n : Nat) (hn : n ≤ k) :
    (List.range n).foldlM (flagColdest k) ⟨d, ev, sendList, -1⟩ =
      some ⟨flagSlabs d (coldestSlabs k ev n), coldestFirst k ev n,
        markFlagged d sendList (coldestSlabs k ev n), lastOwner d (coldestSlabs k ev n)⟩ := by
  induction n with
  | zero =>
    have hmark : markFlagged d sendList [] = sendList := by
      funext x
      simp [markFlagged]
    simp [coldestSlabs, coldestFirst, flagSlabs_nil, hmark, lastOwner]
  | succ n ih =>
    obtain ⟨-, hasked, id, c, hslot, hc, hidx⟩ :=
      (hlisted.coldestFirst (n + 1) hn).good n (by omega)
    set m := (coldestFirst k ev (n + 1) n).chunkIndex with hm
    have hflag := flagSlabs_snoc (coldestSlabs k ev n) hc hidx (by
      intro k' c' hc' he
      exact hinj k' id c' c hc' hc (he.trans hidx.symm))
    have hmark := markFlagged_snoc (coldestSlabs k ev n) hasked
    have hlast : lastOwner d (coldestSlabs k ev n ++ [m]) = d.connMap m := by
      simp [lastOwner]
    rw [List.range_succ, List.foldlM_append, ih (by omega), hlisted.coldestSlabs_succ (by omega)]
    simp only [Option.bind_eq_bind, Option.bind_some, List.foldlM_cons, List.foldlM_nil,
      Option.pure_def]
    rw [← hm, hlast, ← hflag, ← hmark]
    have hplace : placeColdest k n (coldestFirst k ev n) = coldestFirst k ev (n + 1) := rfl
    have hslot' : (flagSlabs d (coldestSlabs k ev n)).conns (d.connMap m) = some id := hslot
    have hmap : (flagSlabs d (coldestSlabs k ev n)).connMap = d.connMap := rfl
    simp only [flagColdest, hplace, ← hm, hmap, hslot', Option.bind_eq_bind, Option.bind_some]

lemma recvDone_frame {id : ConnId} {c : Connection} (hc : d.heap id = some c)
    (hsess : ∀ i ∈ flaggedSlots cfg c.recvMsg, 0 ≤ c.sessChunkMap i) :
    ∃ d', recvDone cfg d id = some d' ∧ d'.conns = d.conns ∧
      (∀ k, k ≠ id → d'.heap k = d.heap k) ∧
      ∃ c', d'.heap id = some c' ∧ c'.sendMsg = c.sendMsg := by
  have hloop : ∀ (is : List Nat) (d : DaemonState) (c : Connection), d.heap id = some c →
      is.Nodup → (∀ i ∈ is, 0 ≤ c.sessChunkMap i) →
      ∃ d', is.foldlM (fun d i => recvDoneSlot d id i) d = some d' ∧ d'.conns = d.conns ∧
        (∀ k, k ≠ id → d'.heap k = d.heap k) ∧
        ∃ c', d'.heap id = some c' ∧ c'.sendMsg = c.sendMsg := by
    intro is
    induction is with
    | nil => exact fun d c hc _ _ => ⟨d, rfl, rfl, fun _ _ => rfl, c, hc, rfl⟩
    | cons i is ih =>
      intro d c hc hnodup hsess
      obtain ⟨hi, hnd⟩ := List.nodup_cons.mp hnodup
      have hpos := hsess i List.mem_cons_self
      set d₁ : DaemonState := { d.updateConn id (fun c =>
          { c with sessChunkMap := Function.update c.sessChunkMap i (-1) }) with
        connMap := Function.update d.connMap (c.sessChunkMap i).toNat (-1)
        mallocMap := Function.update d.mallocMap (c.sessChunkMap i).toNat false } with hd₁
      have hstep : recvDoneSlot d id i = some d₁ := by
        simp [recvDoneSlot, hc, hpos, hd₁, DaemonState.updateConn]
      have hc₁ : d₁.heap id =
          some { c with sessChunkMap := Function.update c.sessChunkMap i (-1) } := by
        simp [hd₁, DaemonState.updateConn, hc]
      obtain ⟨d', hfold, hconns, hother, c', hc', hmsg⟩ := ih d₁ _ hc₁ hnd (by
        intro j hj
        have hne : j ≠ i := fun he => hi (he ▸ hj)
        simp only [Function.update_of_ne hne]
        exact hsess j (List.mem_cons_of_mem _ hj))
      refine ⟨d', ?_, hconns, ?_, c', hc', hmsg⟩
      · simp only [List.foldlM_cons, hstep, Option.bind_eq_bind, Option.bind_some]
        exact hfold
      · intro k hk
        rw [hother k hk]
        simp [hd₁, DaemonState.updateConn, hk]
  obtain ⟨d₁, hfold, hconns, hother, c', hc', hmsg⟩ :=
    hloop _ d c hc (List.nodup_range.filter _) hsess
  simp only [recvDone, hc, Option.bind_eq_bind, Option.bind_some]
  rw [show List.foldlM (fun d i => recvDoneSlot d id i) d (flaggedSlots cfg c.recvMsg) = some d₁
    from hfold]
  have hheap : ∀ (d₂ : DaemonState) (f : Connection → Connection), d₂.heap = d₁.heap →
      (∀ x, (f x).sendMsg = x.sendMsg) →
      (∀ k, k ≠ id → (d₂.updateConn id f).heap k = d.heap k) ∧
        ∃ c', (d₂.updateConn id f).heap id = some c' ∧ c'.sendMsg = c.sendMsg := by
    intro d₂ f hd₂ hf
    constructor
    · intro k hk
      rw [updateConn_heap, if_neg hk, hd₂, hother k hk]
    · refine ⟨f c', ?_, (hf c').trans hmsg⟩
      rw [updateConn_heap, if_pos rfl, hd₂, hc', Option.map_some]
  split
  · exact ⟨_, rfl, hconns, hheap _ _ rfl (fun _ => rfl)⟩
  · exact ⟨_, rfl, hconns, hheap _ _ rfl (fun _ => rfl)⟩

/-- The STOP message that `send_stop` posts for a connection. -/
def stopMessage (c : Connection) (n : Int) : Message :=
  { c.sendMsg with type := .stop, sizeGb := n }

lemma stopConnection_eq (cfg : DaemonConfig) (mr : Nat → MemRegion) {id : ConnId} {c : Connection} {n : Int}
    (hc : d.heap id = some c)
    (hsess : ∀ i < cfg.maxFreeMemGb, c.sendMsg.rkey i ≠ 0 → 0 ≤ c.sessChunkMap i) :
    ∃ d', stopConnection cfg mr n d id = some (d', [(id, stopMessage c n)]) ∧
      d'.conns = d.conns ∧ (∀ k, k ≠ id → d'.heap k = d.heap k) ∧
      ∃ c', d'.heap id = some c' ∧ c'.sendMsg = stopMessage c n := by
  set d₁ := d.updateConn id fun c =>
    { c with sendMsg := { c.sendMsg with type := .stop, sizeGb := n } } with hd₁
  have hc₁ : d₁.heap id = some { c with sendMsg := stopMessage c n } := by
    have := updateConn_of_some id (fun c : Connection =>
      { c with sendMsg := { c.sendMsg with type := .stop, sizeGb := n } }) hc
    rwa [if_pos rfl] at this
  have hother₁ : ∀ k, k ≠ id → d₁.heap k = d.heap k := by
    intro k hk
    rw [hd₁, updateConn_heap, if_neg hk]
  have hsend : sendStop d id n = (d₁, [(id, stopMessage c n)]) := by
    simp only [sendStop, sendMessage, ← hd₁, hc₁]
  by_cases hn : n = 0
  · refine ⟨d₁, ?_, rfl, hother₁, _, hc₁, rfl⟩
    simp only [stopConnection, hsend]
    rw [if_neg (not_not.mpr hn)]
  · -- the answer is handled as a DONE message
    set done := doneReply (stopMessage c n) with hdone
    set d₂ := d₁.updateConn id fun c => { c with recvMsg := done } with hd₂
    have hc₂ : d₂.heap id = some { c with sendMsg := stopMessage c n, recvMsg := done } := by
      have := updateConn_of_some id (fun c : Connection => { c with recvMsg := done }) hc₁
      rwa [if_pos rfl] at this
    have hflags : ∀ i ∈ flaggedSlots cfg done, 0 ≤ c.sessChunkMap i := by
      intro i hi
      obtain ⟨hi, hkey⟩ := List.mem_filter.mp hi
      apply hsess i (List.mem_range.mp hi)
      intro hz
      simp [hdone, doneReply, stopMessage, hz] at hkey
    obtain ⟨d₃, hrecv, hconns, hother, c', hc', hmsg⟩ := recvDone_frame hc₂ hflags
    have honRecv : onRecv cfg mr d₁ id done = some (d₃, []) := by
      have htype : done.type = .done := rfl
      simp only [onRecv, hc₁, htype, Option.bind_eq_bind, Option.bind_some, ← hd₂, hrecv,
        Option.map_some]
    refine ⟨d₃.updateConn id fun c => { c with stopSem := c.stopSem - 1 }, ?_, hconns, ?_, ?_⟩
    · simp only [stopConnection, hsend]
      rw [if_pos hn]
      simp only [List.head?_cons, Option.bind_eq_bind, Option.bind_some, ← hdone, honRecv]
    · intro k hk
      rw [updateConn_heap, if_neg hk, hother k hk, hd₂, updateConn_heap, if_neg hk, hother₁ k hk]
    · refine ⟨_, updateConn_of_some id _ hc', ?_⟩
      rw [if_pos rfl]
      exact hmsg

/-- The STOP message for the connection in a slot. -/
def slotStop (d : DaemonState) (n : Int) (i : Nat) : Outbox :=
  ((d.heap (slotConn d i)).map fun c => (slotConn d i, stopMessage c n)).toList

/-- What the final loop sends for a slot when `l` is the size for flagged connections. -/
def slotStops (d : DaemonState) (sendList : Int → Int) (l : Int) (i : Nat) : Outbox :=
  if sendList i = 2 then slotStop d l i else if sendList i = 1 then slotStop d 0 i else []

/-- What the final loop needs of the slots it still has to visit: `l` is the count of the
connection flagged last. -/
structure StopReady (cfg : DaemonConfig) (sendList : Int → Int) (connIndex l : Int)
    (slots : List Nat) (d : DaemonState) : Prop where
  occupied : Occupied d (slots.filter fun i => decide (sendList i = 1 ∨ sendList i = 2))
  flags : ∀ i ∈ slots, (sendList i = 1 ∨ sendList i = 2) → ∀ c, d.heap (slotConn d i) = some c →
    ∀ m < cfg.maxFreeMemGb, c.sendMsg.rkey m ≠ 0 → 0 ≤ c.sessChunkMap m
  last : (∃ i ∈ slots, sendList i = 2) → ∃ id c, d.conns connIndex = some id ∧
    d.heap id = some c ∧ c.sendMsg.sizeGb = l ∧ ∀ j ∈ slots, sendList j = 1 → slotConn d j ≠ id

lemma StopReady.next {sendList : Int → Int} {connIndex l n : Int} {i : Nat} {slots : List Nat}
    {d' : DaemonState} (h : StopReady cfg sendList connIndex l (i :: slots) d)
    (hi : sendList i = 1 ∨ sendList i = 2) (hn : sendList i = 2 → n = l) {c : Connection}
    (hconns : d'.conns = d.conns)
    (hother : ∀ k, k ≠ slotConn d i → d'.heap k = d.heap k)
    (hself : ∃ c', d'.heap (slotConn d i) = some c' ∧ c'.sendMsg = stopMessage c n) :
    StopReady cfg sendList connIndex l slots d' ∧
      ∀ j ∈ slots, slotStops d' sendList l j = slotStops d sendList l j := by
  have hslot : ∀ j, slotConn d' j = slotConn d j := by
    intro j
    unfold slotConn
    rw [hconns]
  have hocc := h.occupied
  rw [List.filter_cons_of_pos (by simpa using hi)] at hocc
  obtain ⟨htail, hfresh⟩ := hocc.tail
  have hheap : ∀ j ∈ slots, (sendList j = 1 ∨ sendList j = 2) →
      d'.heap (slotConn d' j) = d.heap (slotConn d j) := by
    intro j hj hsj
    rw [hslot j]
    apply hother
    intro he
    exact hfresh (he ▸ List.mem_map_of_mem (List.mem_filter.mpr ⟨hj, by simpa using hsj⟩))
  refine ⟨⟨⟨htail.nodup, ?_⟩, ?_, ?_⟩, ?_⟩
  · intro j hj
    obtain ⟨c', hs', hc', hidx⟩ := htail.conn j hj
    obtain ⟨hjs, hsj⟩ := List.mem_filter.mp hj
    refine ⟨c', ?_, ?_, hidx⟩
    · rw [hslot j, hconns]
      exact hs'
    · rw [hheap j hjs (by simpa using hsj)]
      exact hc'
  · intro j hj hsj c' hc'
    rw [hheap j hj hsj] at hc'
    exact h.flags j (List.mem_cons_of_mem _ hj) hsj c' hc'
  · rintro ⟨j, hj, hsj⟩
    obtain ⟨id, cl, hid, hcl, hl, hdist⟩ := h.last ⟨j, List.mem_cons_of_mem _ hj, hsj⟩
    have hdist' : ∀ j ∈ slots, sendList j = 1 → slotConn d' j ≠ id := by
      intro j hj h1
      rw [hslot j]
      exact hdist j (List.mem_cons_of_mem _ hj) h1
    by_cases hself' : id = slotConn d i
    · obtain ⟨c', hc', hmsg⟩ := hself
      refine ⟨id, c', hconns ▸ hid, hself' ▸ hc', ?_, hdist'⟩
      rw [hmsg]
      rcases hi with h1 | h2
      · exact (hdist i List.mem_cons_self h1 hself'.symm).elim
      · exact hn h2
    · refine ⟨id, cl, hconns ▸ hid, ?_, hl, hdist'⟩
      rw [hother id hself']
      exact hcl
  · intro j hj
    unfold slotStops slotStop
    split
    · rw [hheap j hj (.inr ‹_›), hslot j]
    · split
      · rw [hheap j hj (.inl ‹_›), hslot j]
      · rfl

lemma stopLoop_eq (mr : Nat → MemRegion) {sendList : Int → Int} {connIndex l : Int}
    (slots : List Nat) (d : DaemonState) (h : StopReady cfg sendList connIndex l slots d) :
    ∃ d', stopLoop cfg mr sendList connIndex slots d =
      some (d', slots.flatMap (slotStops d sendList l)) := by
  induction slots generalizing d with
  | nil => exact ⟨d, rfl⟩
  | cons i slots ih =>
    -- the two marked cases differ in the size only
    have hmarked : ∀ n, (sendList i = 1 ∨ sendList i = 2) → (sendList i = 2 → n = l) →
        ∃ d₁ d', stopConnection cfg mr n d (slotConn d i) = some (d₁, slotStop d n i) ∧
          d.conns i = some (slotConn d i) ∧
          stopLoop cfg mr sendList connIndex slots d₁ =
            some (d', slots.flatMap (slotStops d sendList l)) := by
      intro n hi hn
      obtain ⟨c, hslot, hc, -⟩ := h.occupied.conn i
        (List.mem_filter.mpr ⟨List.mem_cons_self, by simpa using hi⟩)
      obtain ⟨d₁, hstop, hconns, hother, hself⟩ := stopConnection_eq cfg mr (n := n) hc
        (h.flags i List.mem_cons_self hi c hc)
      obtain ⟨hready, hsame⟩ := h.next hi hn hconns hother hself
      obtain ⟨d', hrest⟩ := ih d₁ hready
      refine ⟨d₁, d', ?_, hslot, ?_⟩
      · rw [hstop]
        simp [slotStop, hc]
      · rw [hrest]
        congr 2
        exact List.flatMap_congr hsame
    by_cases h2 : sendList i = 2
    · obtain ⟨d₁, d', hstop, hslot, hrest⟩ := hmarked l (.inr h2) (fun _ => rfl)
      obtain ⟨id, cl, hid, hcl, hl, -⟩ := h.last ⟨i, List.mem_cons_self, h2⟩
      refine ⟨d', ?_⟩
      simp only [stopLoop, h2, if_true, hid, hcl, hslot, Option.bind_eq_bind, Option.bind_some,
        hl, hstop, hrest, List.flatMap_cons, slotStops]
    · by_cases h1 : sendList i = 1
      · obtain ⟨d₁, d', hstop, hslot, hrest⟩ := hmarked 0 (.inl h1) (fun he => (h2 he).elim)
        refine ⟨d', ?_⟩
        have h12 : ¬(1 : Int) = 2 := by decide
        simp only [stopLoop, h1, h12, if_true, if_false, hslot, Option.bind_eq_bind,
          Option.bind_some, hstop, hrest, List.flatMap_cons, slotStops]
      · have hready : StopReady cfg sendList connIndex l slots d := by
          have hocc := h.occupied
          rw [List.filter_cons_of_neg (by simp [h1, h2])] at hocc
          refine ⟨hocc, fun j hj => h.flags j (List.mem_cons_of_mem _ hj), ?_⟩
          rintro ⟨j, hj, hsj⟩
          obtain ⟨id, cl, hid, hcl, hl, hdist⟩ := h.last ⟨j, List.mem_cons_of_mem _ hj, hsj⟩
          exact ⟨id, cl, hid, hcl, hl, fun j hj => hdist j (List.mem_cons_of_mem _ hj)⟩
        obtain ⟨d', hrest⟩ := ih d hready
        refine ⟨d', ?_⟩
        simp only [stopLoop, h1, h2, if_false, Option.bind_eq_bind, Option.bind_some, hrest,
          List.flatMap_cons, List.nil_append, slotStops]

/-- The ACTIVITY messages report exactly the slabs that the connections have. -/
def ExactReplies (cfg : DaemonConfig) (d : DaemonState) (reply : ConnId → Message) : Prop :=
  ∀ id, (reply id).type = .activity ∧ ∀ c, d.heap id = some c →
    ∀ m < cfg.maxFreeMemGb, (reply id).buf m ≠ 0 ↔ c.sessChunkMap m ≠ -1

/-- The connection of an asked slot after EVICT, ACTIVITY and the collection. -/
def polledConn (reply : ConnId → Message) (j : Int) (id : ConnId) (c : Connection) : Connection :=
  takeActivity { c with
    sendMsg := { c.sendMsg with type := .evict, sizeGb := j, rkey := fun _ => 0 }
    recvMsg := reply id
    evictSem := c.evictSem + 1 }

/-- What the connections of the listed slots report. -/
def roundReports (cfg : DaemonConfig) (d : DaemonState) (reply : ConnId → Message)
    (slots : List Nat) : List ChunkActivity :=
  slots.flatMap fun i => reportedActivity cfg (reply (slotConn d i))

lemma poll_eq (mr : Nat → MemRegion) {reply : ConnId → Message} (hreply : ExactReplies cfg d reply)
    (slots : List Nat) (h : Occupied d slots) (j : Int) :
    ∃ d₁ d₂ evicts out, forSlots (fun d id => some (sendEvict d id j)) slots d = some (d₁, evicts) ∧
      evicts.map Prod.fst = slots.map (slotConn d) ∧
      forSlots (fun d id => onRecv cfg mr d id (reply id)) slots d₁ = some (d₂, out) ∧
      collectActivity cfg slots d₂ =
        some (updateConns d (slots.map (slotConn d)) (polledConn reply j),
          roundReports cfg d reply slots) := by
  set ids := slots.map (slotConn d) with hids
  set f₁ : ConnId → Connection → Connection := fun _ c =>
    { c with sendMsg := { c.sendMsg with type := .evict, sizeGb := j, rkey := fun _ => 0 } }
  set f₂ : ConnId → Connection → Connection := fun id c =>
    { c with recvMsg := reply id, evictSem := c.evictSem + 1 }
  have hoccupied : ∀ f : ConnId → Connection → Connection,
      (∀ id c, (f id c).connIndex = c.connIndex) → Occupied (updateConns d ids f) slots := by
    intro f hf
    refine ⟨h.nodup, fun i hi => ?_⟩
    obtain ⟨c, hslot, hc, hidx⟩ := h.conn i hi
    refine ⟨f (slotConn d i) c, hslot, ?_, (hf _ c).trans hidx⟩
    change (if slotConn d i ∈ ids then (d.heap (slotConn d i)).map (f (slotConn d i)) else _) = _
    rw [if_pos (List.mem_map_of_mem hi), hc]
    rfl
  have hevict := forSlots_update (fun d id => some (sendEvict d id j)) f₁
    (fun id c => [(id, (f₁ id c).sendMsg)]) (by
      intro d id c hc
      have hc' := updateConn_of_some id (f₁ id) hc
      rw [if_pos rfl] at hc'
      change some (d.updateConn id (f₁ id), sendMessage (d.updateConn id (f₁ id)) id) = _
      rw [sendMessage, hc']) slots d h
  have hrecv := forSlots_update (fun d id => onRecv cfg mr d id (reply id)) f₂ (fun _ _ => []) (by
      intro d id c hc
      simp only [onRecv, hc, Option.bind_eq_bind, Option.bind_some, (hreply id).1]
      rw [updateConn_twice]
      rfl) slots (updateConns d ids f₁) (hoccupied f₁ fun _ _ => rfl)
  have hpolled : updateConns (updateConns d ids f₁) ids f₂ =
      updateConns d ids fun id c => f₂ id (f₁ id c) := updateConns_twice ids f₁ f₂
  have hheap : ∀ i ∈ slots, ∃ c, (updateConns d ids fun id c => f₂ id (f₁ id c)).heap
      (slotConn d i) = some (f₂ (slotConn d i) (f₁ (slotConn d i) c)) := by
    intro i hi
    obtain ⟨c, -, hc, -⟩ := h.conn i hi
    refine ⟨c, ?_⟩
    change (if slotConn d i ∈ ids then (d.heap (slotConn d i)).map _ else _) = _
    rw [if_pos (List.mem_map_of_mem hi), hc]
    rfl
  have hcollect := collectActivity_eq cfg slots
    (updateConns d ids fun id c => f₂ id (f₁ id c)) (hoccupied _ fun _ _ => rfl) (by
      intro i hi c hc
      obtain ⟨c₀, hc₀⟩ := hheap i hi
      rw [← Option.some.inj (hc₀.symm.trans hc)]
      exact Nat.succ_pos _)
  refine ⟨_, _, _, _, hevict, ?_, hrecv, ?_⟩
  · rw [List.map_flatMap, hids, ← List.flatMap_pure_eq_map]
    apply List.flatMap_congr
    intro i hi
    obtain ⟨c, -, hc, -⟩ := h.conn i hi
    rw [hc]
    rfl
  · change collectActivity cfg slots (updateConns (updateConns d ids f₁) ids f₂) = _
    rw [hpolled, hcollect]
    congr 2
    · exact updateConns_twice ids _ _
    · apply List.flatMap_congr
      intro i hi
      obtain ⟨c, hc⟩ := hheap i hi
      change (Option.map _ ((updateConns d ids _).heap (slotConn d i))).getD [] = _
      rw [hc]
      rfl

/-- The slabs of the connection in a slot. -/
def slotSlabs (cfg : DaemonConfig) (d : DaemonState) (i : Nat) : List Nat :=
  (List.range cfg.maxFreeMemGb).filter fun m => decide (d.connMap m = i)

variable {reply : ConnId → Message} {slots : List Nat}

lemma reportedSlabs_eq (h : RoundReady cfg d) (hreply : ExactReplies cfg d reply)
    (hocc : Occupied d slots) {i : Nat} (hi : i ∈ slots) :
    (reportedActivity cfg (reply (slotConn d i))).map ChunkActivity.chunkIndex =
      slotSlabs cfg d i := by
  obtain ⟨c, -, hc, hidx⟩ := hocc.conn i hi
  unfold reportedActivity slotSlabs
  rw [List.map_map]
  change List.map id _ = _
  rw [List.map_id]
  apply List.filter_congr
  intro m hm
  have hm := List.mem_range.mp hm
  have hsess := (h.books 0).sess _ c hc m hm
  rw [decide_eq_decide, (hreply _).2 c hc m hm, hsess, hidx]
  split
  · simp [*]
  · simp [*]

lemma roundReports_slabs (h : RoundReady cfg d) (hreply : ExactReplies cfg d reply)
    (hocc : Occupied d slots) :
    (roundReports cfg d reply slots).map ChunkActivity.chunkIndex =
      slots.flatMap (slotSlabs cfg d) := by
  unfold roundReports
  rw [List.map_flatMap]
  apply List.flatMap_congr
  intro i hi
  exact reportedSlabs_eq h hreply hocc hi

lemma slotSlabs_nodup (cfg : DaemonConfig) (hocc : Occupied d slots) : (slots.flatMap (slotSlabs cfg d)).Nodup := by
  rw [List.nodup_flatMap]
  refine ⟨fun i _ => List.nodup_range.filter _, ?_⟩
  apply hocc.nodup.imp
  intro i i' hne m hm hm'
  have h1 := (List.mem_filter.mp hm).2
  have h2 := (List.mem_filter.mp hm').2
  simp only [decide_eq_true_eq] at h1 h2
  omega

lemma mem_slotSlabs {m : Nat} :
    m ∈ slots.flatMap (slotSlabs cfg d) ↔ m < cfg.maxFreeMemGb ∧ ∃ i ∈ slots, d.connMap m = i := by
  simp only [List.mem_flatMap, slotSlabs, List.mem_filter, List.mem_range, decide_eq_true_eq]
  constructor
  · rintro ⟨i, hi, hm, he⟩
    exact ⟨hm, i, hi, he⟩
  · rintro ⟨hm, i, hi, he⟩
    exact ⟨i, hi, hm, he⟩

lemma roundReports_length (h : RoundReady cfg d) (hreply : ExactReplies cfg d reply)
    (hocc : Occupied d slots) :
    (slots.map fun i => ((d.heap (slotConn d i)).map Connection.mappedChunkSize).getD 0).sum =
      ((roundReports cfg d reply slots).length : Int) := by
  rw [← List.length_map (f := ChunkActivity.chunkIndex), roundReports_slabs h hreply hocc,
    List.length_flatMap, Nat.cast_list_sum, List.map_map]
  congr 1
  apply List.map_congr_left
  intro i hi
  obtain ⟨c, -, hc, hidx⟩ := hocc.conn i hi
  have hchunk := (h.books (slotConn d i)).chunk _ c hc
  rw [if_pos rfl, add_zero] at hchunk
  rw [hc, Option.map_some, Option.getD_some, ← hchunk, Function.comp_apply, slotSlabs,
    ← List.countP_eq_length_filter]
  congr 1
  change Nat.count _ _ = Nat.count (fun m => d.connMap m = i) _
  apply count_congr
  intro m hm
  rw [(h.books 0).sess _ c hc m hm, hidx]
  split
  · simp [*]
  · simp [*]

/-- The number of listed slabs that belong to slot `x`. -/
def ownCount (d : DaemonState) (slabs : List Nat) (x : Int) : Nat :=
  slabs.countP fun m => decide (d.connMap m = x)

lemma ownCount_pos {slabs : List Nat} {x : Int} :
    slabs.any (fun m => decide (d.connMap m = x)) = true ↔ 0 < ownCount d slabs x := by
  rw [ownCount, List.countP_pos_iff, List.any_eq_true]

lemma evictionList_listed (h : RoundReady cfg d) (hreply : ExactReplies cfg d reply)
    {sendList : Int → Int} (hocc : Occupied d slots) (hasked : ∀ i ∈ slots, sendList i = 1)
    (junk : Nat → ChunkActivity) (j : Int) :
    Listed (roundReports cfg d reply slots).length
      (AskedSlab cfg (updateConns d (slots.map (slotConn d)) (polledConn reply j)) sendList)
      (evictionList (roundReports cfg d reply slots) junk) := by
  have hslabs := roundReports_slabs h hreply hocc
  have hget : ∀ i, (hi : i < (roundReports cfg d reply slots).length) →
      evictionList (roundReports cfg d reply slots) junk i =
        (roundReports cfg d reply slots).get ⟨i, hi⟩ := by
    intro i hi
    simp [evictionList, hi]
  constructor
  · intro i hi
    rw [hget i hi]
    have hmem := List.mem_map_of_mem (f := ChunkActivity.chunkIndex)
      (List.get_mem (roundReports cfg d reply slots) ⟨i, hi⟩)
    rw [hslabs] at hmem
    obtain ⟨hm, x, hx, hmx⟩ := mem_slotSlabs.mp hmem
    obtain ⟨c, hslot, hc, hidx⟩ := hocc.conn x hx
    set m := ((roundReports cfg d reply slots).get ⟨i, hi⟩).chunkIndex
    refine ⟨hm, ?_, slotConn d x, polledConn reply j (slotConn d x) c, ?_, ?_, ?_⟩
    · change sendList (d.connMap m) = 1
      rw [hmx]
      exact hasked x hx
    · change d.conns (d.connMap m) = _
      rw [hmx]
      exact hslot
    · change (if slotConn d x ∈ slots.map (slotConn d) then _ else _) = _
      rw [if_pos (List.mem_map_of_mem hx), hc]
      rfl
    · change c.connIndex = d.connMap m
      rw [hmx]
      exact hidx
  · intro i i' hi hi' he
    rw [hget i hi, hget i' hi'] at he
    have hnodup := slotSlabs_nodup cfg hocc
    rw [← hslabs] at hnodup
    have hinj := List.nodup_iff_injective_get.mp hnodup
    have heq := @hinj ⟨i, by simpa using hi⟩ ⟨i', by simpa using hi'⟩
    simp only [List.get_eq_getElem, List.getElem_map, Fin.mk.injEq] at heq he
    exact heq he

lemma flatMap_eq_filter_map {α β : Type*} (p : α → Bool) (f : α → List β) (F : α → β)
    (l : List α) (hp : ∀ i ∈ l, p i = true → f i = [F i]) (hn : ∀ i ∈ l, p i = false → f i = []) :
    l.flatMap f = (l.filter p).map F := by
  induction l with
  | nil => rfl
  | cons i l ih =>
    have hrest := ih (fun j hj => hp j (List.mem_cons_of_mem _ hj))
      (fun j hj => hn j (List.mem_cons_of_mem _ hj))
    rw [List.flatMap_cons, hrest]
    cases hi : p i with
    | true =>
      rw [List.filter_cons_of_pos hi, hp i List.mem_cons_self hi]
      rfl
    | false =>
      rw [List.filter_cons_of_neg (by simp [hi]), hn i List.mem_cons_self hi]
      rfl

lemma flagged_heap (reply : ConnId → Message) (hocc : Occupied d slots) (j : Int)
    (slabs : List Nat) {i : Nat} (hi : i ∈ slots) :
    ∃ c₀ c : Connection, d.heap (slotConn d i) = some c₀ ∧ c₀.connIndex = i ∧ c.connIndex = i ∧
      c.sessChunkMap = c₀.sessChunkMap ∧
      (flagSlabs (updateConns d (slots.map (slotConn d)) (polledConn reply j)) slabs).heap
        (slotConn d i) = some c ∧
      (∀ m, c.sendMsg.rkey m = if m ∈ slabs ∧ d.connMap m = i then 1 else 0) ∧
      c.sendMsg.sizeGb = ownCount d slabs i := by
  obtain ⟨c₀, -, hc₀, hidx⟩ := hocc.conn i hi
  refine ⟨c₀, flagConn d.connMap slabs (polledConn reply j (slotConn d i) c₀), hc₀, hidx, hidx,
    rfl, ?_, ?_, ?_⟩
  · change Option.map _ (if slotConn d i ∈ slots.map (slotConn d) then _ else _) = _
    rw [if_pos (List.mem_map_of_mem hi), hc₀]
    rfl
  · intro m
    change (if m ∈ slabs ∧ d.connMap m = c₀.connIndex then 1 else 0) = _
    rw [hidx]
  · change (0 : Int) + ownCount d slabs c₀.connIndex = _
    rw [hidx, zero_add]

lemma StopReady.of_flagged (reply : ConnId → Message) (h : RoundReady cfg d) {sendList : Int → Int} (j : Int)
    (hvals : ∀ x, sendList x = -1 ∨ sendList x = 1) (hocc : Occupied d (askedSlots cfg sendList))
    {slabs : List Nat} (hslabs : ∀ m ∈ slabs, m < cfg.maxFreeMemGb ∧
      ∃ i ∈ askedSlots cfg sendList, d.connMap m = i) :
    StopReady cfg (markFlagged d sendList slabs) (lastOwner d slabs)
      (ownCount d slabs (lastOwner d slabs)) (List.range cfg.maxClient)
      (flagSlabs (updateConns d ((askedSlots cfg sendList).map (slotConn d))
        (polledConn reply j)) slabs) := by
  have hmark : ∀ i ∈ List.range cfg.maxClient, (markFlagged d sendList slabs i = 1 ∨
      markFlagged d sendList slabs i = 2) → i ∈ askedSlots cfg sendList := by
    intro i hi hm
    refine List.mem_filter.mpr ⟨hi, ?_⟩
    rw [decide_eq_true_eq]
    rcases hvals i with hv | hv
    · simp [markFlagged, hv] at hm
    · exact hv
  refine ⟨⟨List.nodup_range.filter _, ?_⟩, ?_, ?_⟩
  · intro i hi
    obtain ⟨hi, hm⟩ := List.mem_filter.mp hi
    have hasked := hmark i hi (by simpa using hm)
    obtain ⟨c₀, c, -, -, hidx, -, hc, -, -⟩ := flagged_heap reply hocc j slabs hasked
    obtain ⟨-, hslot, -, -⟩ := hocc.conn i hasked
    exact ⟨c, hslot, hc, hidx⟩
  · intro i hi hm c hc m hmlt hkey
    obtain ⟨c₀, c', hc₀, hidx₀, -, hsess, hc', hrkey, -⟩ :=
      flagged_heap reply hocc j slabs (hmark i hi hm)
    rw [← Option.some.inj (hc'.symm.trans hc)] at hkey ⊢
    rw [hrkey m] at hkey
    have hown : d.connMap m = i := by
      by_contra hne
      simp [hne] at hkey
    rw [hsess, (h.books 0).sess _ c₀ hc₀ m hmlt, if_pos (hown.trans hidx₀.symm)]
    omega
  · rintro ⟨i, -, hi⟩
    -- a marked connection means that some slab is flagged
    have hne : slabs ≠ [] := by
      rintro rfl
      rcases hvals i with hv | hv <;> simp [markFlagged, hv] at hi
    have hlast : lastOwner d slabs = d.connMap (slabs.getLast hne) := by
      simp [lastOwner, List.getLast?_eq_getLast_of_ne_nil hne]
    obtain ⟨hmlt, x, hx, hmx⟩ := hslabs _ (List.getLast_mem hne)
    obtain ⟨c₀, c, -, -, hidx, -, hc, -, hsize⟩ := flagged_heap reply hocc j slabs hx
    obtain ⟨-, hslot, -, -⟩ := hocc.conn x hx
    rw [hlast, hmx]
    refine ⟨slotConn d x, c, hslot, hc, hsize, ?_⟩
    intro y hy h1 he
    have hyask := hmark y hy (.inl h1)
    obtain ⟨-, c', -, -, hidx', -, hc', -, -⟩ := flagged_heap reply hocc j slabs hyask
    have hyx : (y : Int) = x := by
      change slotConn d y = slotConn d x at he
      rw [he] at hc'
      rw [← hidx', ← hidx, Option.some.inj (hc'.symm.trans hc)]
    have hany : slabs.any (fun m => decide (d.connMap m = y)) = true := by
      rw [List.any_eq_true]
      exact ⟨_, List.getLast_mem hne, by simpa [hyx] using hmx⟩
    have hv : sendList y = 1 := by simpa using (List.mem_filter.mp hyask).2
    simp [markFlagged, hv, hany] at h1

/-- The slabs that a round evicts: the coldest ones of what the asked connections report. -/
def roundSlabs (cfg : DaemonConfig) (d : DaemonState) (reply : ConnId → Message) (j : Int)
    (sendList : Int → Int) : List Nat :=
  let reports := roundReports cfg d reply (askedSlots cfg sendList)
  coldestSlabs reports.length (fun i => reports.getD i ⟨0, 0⟩) j.toNat

/-- The STOP message of a slot when the slabs of `slabs` are evicted. -/
structure IsRoundStop (d : DaemonState) (slabs : List Nat) (i : Nat) (x : ConnId × Message) :
    Prop where
  conn : x.1 = slotConn d i
  type : x.2.type = .stop
  rkey : ∀ m, x.2.rkey m = if m ∈ slabs ∧ d.connMap m = i then 1 else 0
  size : x.2.sizeGb = if 0 < ownCount d slabs i then ownCount d slabs (lastOwner d slabs) else 0

lemma evictRound_eq (h : RoundReady cfg d) (hreply : ExactReplies cfg d reply) {evictG : Int}
    (hevict : 0 ≤ evictG) (mr : Nat → MemRegion) (rand : Nat → Nat) (junk : Nat → ChunkActivity) :
    ∃ j sendList evicts F d', selectTargets cfg d rand evictG = some (j, sendList) ∧
      j = min evictG d.mappedSize ∧
      Occupied d (askedSlots cfg sendList) ∧
      evictRound cfg mr rand reply junk d evictG =
        some ⟨d', j, evicts, (askedSlots cfg sendList).map F⟩ ∧
      evicts.map Prod.fst = (askedSlots cfg sendList).map (slotConn d) ∧
      (roundSlabs cfg d reply j sendList).Nodup ∧
      (roundSlabs cfg d reply j sendList).length = j ∧
      (∀ m ∈ roundSlabs cfg d reply j sendList, m < cfg.maxFreeMemGb ∧
        ∃ i ∈ askedSlots cfg sendList, d.connMap m = i) ∧
      ∀ i ∈ askedSlots cfg sendList,
        IsRoundStop d (roundSlabs cfg d reply j sendList) i (F i) := by
  obtain ⟨sendList, picked, hselect, hpos, hpick, hlen, hpicked, hvals⟩ :=
    selectTargets_asks h rand hevict
  set j := min evictG d.mappedSize with hj
  have hj0 : 0 ≤ j := by omega
  set slots := askedSlots cfg sendList with hslots
  have hasked : ∀ i ∈ slots, sendList i = 1 := by
    intro i hi
    simpa using (List.mem_filter.mp hi).2
  have hocc : Occupied d slots := by
    refine ⟨List.nodup_range.filter _, fun i hi => ?_⟩
    rcases hvals i with hv | ⟨-, -, -, k, hk⟩
    · have := hasked i hi
      omega
    · obtain ⟨c, hc, hidx⟩ := h.slot i k hk
      have hslot : slotConn d i = k := by simp [slotConn, hk]
      exact ⟨c, hslot ▸ hk, hslot ▸ hc, hidx⟩
  set reports := roundReports cfg d reply slots with hreports
  set slabs := roundSlabs cfg d reply j sendList with hslabs
  -- the sampled slabs are all reported, so enough is reported
  have henough : j.toNat ≤ reports.length := by
    have hsub : picked ⊆ slots.flatMap (slotSlabs cfg d) := by
      intro m hm
      obtain ⟨hlt, hmap, hsend⟩ := hpicked m hm
      rcases hvals (d.connMap m) with hv | ⟨-, h0, hmax, -⟩
      · omega
      · refine mem_slotSlabs.mpr ⟨hlt, (d.connMap m).toNat, ?_, by omega⟩
        refine List.mem_filter.mpr ⟨List.mem_range.mpr (by omega), ?_⟩
        rw [Int.toNat_of_nonneg h0]
        simpa using hsend
    have hle := (List.subperm_of_subset hpick hsub).length_le
    rw [← roundReports_slabs h hreply hocc, List.length_map, ← hreports] at hle
    omega
  have hlisted := evictionList_listed h hreply hocc hasked junk j
  have hcoldest : coldestSlabs reports.length (evictionList reports junk) j.toNat = slabs := by
    rw [hslabs, roundSlabs, ← hslots, ← hreports]
    apply coldestSlabs_congr _ henough
    intro i hi
    simp [evictionList, hi]
  obtain ⟨hnodup, hmem⟩ := hlisted.coldestSlabs henough
  rw [hcoldest] at hnodup hmem
  have hown : ∀ m ∈ slabs, m < cfg.maxFreeMemGb ∧ ∃ i ∈ slots, d.connMap m = i := by
    intro m hm
    obtain ⟨hlt, hsend, -⟩ := hmem m hm
    change sendList (d.connMap m) = 1 at hsend
    rcases hvals (d.connMap m) with hv | ⟨-, h0, hmax, -⟩
    · omega
    · refine ⟨hlt, (d.connMap m).toNat, ?_, by omega⟩
      refine List.mem_filter.mpr ⟨List.mem_range.mpr (by omega), ?_⟩
      rw [Int.toNat_of_nonneg h0]
      simpa using hsend
  have hlength : (slabs.length : Int) = j := by
    rw [← hcoldest, coldestSlabs, List.length_map, List.length_range]
    omega
  obtain ⟨d₁, d₂, evicts, out, hev, hevfst, hrecv, hcollect⟩ := poll_eq mr hreply slots hocc j
  set d₃ := updateConns d (slots.map (slotConn d)) (polledConn reply j) with hd₃
  have hinj : ∀ k k' c c', d₃.heap k = some c → d₃.heap k' = some c' →
      c.connIndex = c'.connIndex → k = k' := by
    have hidx : ∀ k c, d₃.heap k = some c → ∃ c₀, d.heap k = some c₀ ∧
        c₀.connIndex = c.connIndex := by
      intro k c hc
      change (if k ∈ slots.map (slotConn d) then _ else _) = _ at hc
      split at hc
      · obtain ⟨c₀, hc₀, rfl⟩ := Option.map_eq_some_iff.mp hc
        exact ⟨c₀, hc₀, rfl⟩
      · exact ⟨c, hc, rfl⟩
    intro k k' c c' hc hc' he
    obtain ⟨c₀, hc₀, h₀⟩ := hidx k c hc
    obtain ⟨c₀', hc₀', h₀'⟩ := hidx k' c' hc'
    exact (h.books 0).index_inj hc₀ hc₀' (h₀.trans (he.trans h₀'.symm))
  have hflag := flagLoop_eq hlisted hinj j.toNat henough
  rw [hcoldest] at hflag
  have hready := StopReady.of_flagged reply h j (fun x => (hvals x).imp id And.left)
    hocc hown
  obtain ⟨d', hstop⟩ := stopLoop_eq mr _ _ hready
  set sl := markFlagged d sendList slabs with hsl
  set l : Int := ((ownCount d slabs (lastOwner d slabs) : Nat) : Int) with hl
  have hstop' : stopLoop cfg mr sl (lastOwner d slabs) (List.range cfg.maxClient)
      (flagSlabs d₃ slabs) =
        some (d', (List.range cfg.maxClient).flatMap (slotStops (flagSlabs d₃ slabs) sl l)) := hstop
  set F : Nat → ConnId × Message := fun i =>
    (slotStops (flagSlabs d₃ slabs) sl l i).head?.getD (0, emptyMessage) with hF
  have hone : ∀ i ∈ slots, slotStops (flagSlabs d₃ slabs) sl l i = [F i] ∧
      IsRoundStop d slabs i (F i) := by
    intro i hi
    obtain ⟨c₀, c, -, -, -, -, hc, hrkey, hsize⟩ := flagged_heap reply hocc j slabs hi
    have hstops : slotStops (flagSlabs d₃ slabs) sl l i =
        [(slotConn d i, stopMessage c (if 0 < ownCount d slabs i then l else 0))] := by
      have hone : ∀ n, slotStop (flagSlabs d₃ slabs) n i = [(slotConn d i, stopMessage c n)] := by
        intro n
        change (Option.map _ ((flagSlabs d₃ slabs).heap (slotConn d i))).toList = _
        rw [hc]
        rfl
      unfold slotStops
      by_cases hown' : 0 < ownCount d slabs i
      · have h2 : sl i = 2 := by
          rw [hsl, markFlagged, if_pos ⟨hasked i hi, ownCount_pos.mpr hown'⟩]
        rw [if_pos h2, if_pos hown', hone]
      · have h1 : sl i = 1 := by
          rw [hsl, markFlagged, if_neg (fun hh => hown' (ownCount_pos.mp hh.2)), hasked i hi]
        rw [if_neg (by rw [h1]; decide), if_pos h1, if_neg hown', hone]
    have hFi : F i = (slotConn d i, stopMessage c (if 0 < ownCount d slabs i then l else 0)) := by
      rw [hF]
      simp only [hstops, List.head?_cons, Option.getD_some]
    rw [hFi]
    refine ⟨hstops, rfl, rfl, hrkey, ?_⟩
    change (if 0 < ownCount d slabs i then l else 0) = _
    split
    · exact hl
    · rfl
  have hall : (List.range cfg.maxClient).flatMap (slotStops (flagSlabs d₃ slabs) sl l) =
      slots.map F := by
    apply flatMap_eq_filter_map
    · intro i hi hp
      exact (hone i (List.mem_filter.mpr ⟨hi, hp⟩)).1
    · intro i hi hp
      have hv : sendList i = -1 := by
        rcases hvals i with hv | hv
        · exact hv
        · simp [hv.1] at hp
      have h0 : sl i = -1 := by
        rw [hsl, markFlagged, if_neg (by omega), hv]
      rw [slotStops, if_neg (by omega), if_neg (by omega)]
  have hk := totalChunks_eq slots d hocc
  rw [roundReports_length h hreply hocc] at hk
  refine ⟨j, sendList, evicts, F, d', hselect, hj, hocc, ?_, hevfst, hnodup, hlength, hown,
    fun i hi => (hone i hi).2⟩
  simp only [evictRound, hselect, Option.bind_eq_bind, Option.bind_some, ← hslots, hk, hev,
    hrecv, hcollect, Int.toNat_natCast]
  rw [hflag, Option.bind_some]
  change (stopLoop cfg mr sl (lastOwner d slabs) (List.range cfg.maxClient)
    (flagSlabs d₃ slabs)).bind _ = _
  rw [hstop', hall]
  rfl

lemma IsRoundStop.flagged {slabs : List Nat} {i : Nat} {x : ConnId × Message}
    (h : IsRoundStop d slabs i x) (hnodup : slabs.Nodup)
    (hlt : ∀ m ∈ slabs, m < cfg.maxFreeMemGb) :
    (∀ m ∈ flaggedSlots cfg x.2, m ∈ slabs ∧ d.connMap m = i) ∧
      (flaggedSlots cfg x.2).length = ownCount d slabs i := by
  have hmem : ∀ m, m ∈ flaggedSlots cfg x.2 ↔ m ∈ slabs.filter fun m => decide (d.connMap m = i) := by
    intro m
    simp only [flaggedSlots, List.mem_filter, List.mem_range, decide_eq_true_eq, h.rkey m]
    constructor
    · rintro ⟨-, hne⟩
      by_contra hno
      simp [hno] at hne
    · intro hm
      exact ⟨hlt m hm.1, by simp [hm]⟩
  constructor
  · intro m hm
    simpa using (hmem m).mp hm
  · rw [ownCount, List.countP_eq_length_filter]
    apply List.Perm.length_eq
    exact (List.perm_ext_iff_of_nodup (List.nodup_range.filter _) (hnodup.filter _)).mpr hmem

lemma sum_ownCount (hnodup : slots.Nodup) {slabs : List Nat}
    (hown : ∀ m ∈ slabs, ∃ i ∈ slots, d.connMap m = i) :
    (slots.map fun i : Nat => (ownCount d slabs i : Int)).sum = slabs.length := by
  induction slabs with
  | nil => simp [ownCount]
  | cons m slabs ih =>
    obtain ⟨x, hx, hmx⟩ := hown m List.mem_cons_self
    have hrest := ih fun m' hm' => hown m' (List.mem_cons_of_mem _ hm')
    have hcons : ∀ i : Nat, (ownCount d (m :: slabs) i : Int) =
        ownCount d slabs i + if i = x then 1 else 0 := by
      intro i
      unfold ownCount
      by_cases hix : i = x
      · rw [List.countP_cons_of_pos (by simpa [hix] using hmx), if_pos hix]
        push_cast
        ring
      · rw [List.countP_cons_of_neg (by simpa [hmx] using fun he => hix he.symm), if_neg hix,
          add_zero]
    have hone : (slots.map fun i => if i = x then (1 : Int) else 0).sum = 1 := by
      rw [List.sum_map_ite_eq, List.count_eq_one_of_mem hnodup hx]
      simp
    simp only [hcons]
    rw [List.sum_map_add, hrest, hone]
    push_cast [List.length_cons]
    ring

/-- Every connection that owns one of the evicted slabs owns equally many of them. -/
def EvenRound (cfg : DaemonConfig) (d : DaemonState) (rand : Nat → Nat)
    (reply : ConnId → Message) (evictG : Int) : Prop :=
  ∀ j sendList, selectTargets cfg d rand evictG = some (j, sendList) →
    ∀ a ∈ roundSlabs cfg d reply j sendList, ∀ b ∈ roundSlabs cfg d reply j sendList,
      ownCount d (roundSlabs cfg d reply j sendList) (d.connMap a) =
        ownCount d (roundSlabs cfg d reply j sendList) (d.connMap b)

/-- One round of `evict_mem`: every connection that is sent EVICT is sent one STOP, the flags
are on its own slabs and add up to the number of slabs that the round evicts. The sizes of the
messages are right exactly when the round is even. -/
theorem evictRound_stop_messages (cfg : DaemonConfig) (d : DaemonState) (mr : Nat → MemRegion)
    (rand : Nat → Nat) (reply : ConnId → Message) (junk : Nat → ChunkActivity) (evictG : Int)
    (h : RoundReady cfg d) (hreply : ExactReplies cfg d reply) (hevict : 0 ≤ evictG) :
    ∃ r, evictRound cfg mr rand reply junk d evictG = some r ∧
      r.evictG = min evictG d.mappedSize ∧
      (r.evicts.map Prod.fst).Nodup ∧ r.stops.map Prod.fst = r.evicts.map Prod.fst ∧
      (∀ x ∈ r.stops, x.2.type = .stop) ∧
      (∀ x ∈ r.stops, ∃ c, d.heap x.1 = some c ∧
        ∀ m ∈ flaggedSlots cfg x.2, c.sessChunkMap m ≠ -1) ∧
      (r.stops.map fun x => ((flaggedSlots cfg x.2).length : Int)).sum = r.evictG ∧
      ((∀ x ∈ r.stops, x.2.sizeGb = (flaggedSlots cfg x.2).length) ↔
        EvenRound cfg d rand reply evictG) := by
  obtain ⟨j, sendList, evicts, F, d', hselect, hj, hocc, hround, hevicts, hnodup, hlen, hown,
    hstop⟩ := evictRound_eq h hreply hevict mr rand junk
  set slots := askedSlots cfg sendList
  set slabs := roundSlabs cfg d reply j sendList with hslabs
  have hlt : ∀ m ∈ slabs, m < cfg.maxFreeMemGb := fun m hm => (hown m hm).1
  have hflagged := fun i hi => (hstop i hi).flagged hnodup hlt
  refine ⟨_, hround, hj, ?_, ?_, ?_, ?_, ?_, ?_⟩
  · rw [hevicts]
    apply List.Nodup.map_on _ hocc.nodup
    intro i hi i' hi' he
    obtain ⟨c, -, hc, hidx⟩ := hocc.conn i hi
    obtain ⟨c', -, hc', hidx'⟩ := hocc.conn i' hi'
    rw [he, hc'] at hc
    rw [← Option.some.inj hc, hidx'] at hidx
    omega
  · rw [hevicts, List.map_map]
    apply List.map_congr_left
    intro i hi
    exact (hstop i hi).conn
  · intro x hx
    obtain ⟨i, hi, rfl⟩ := List.mem_map.mp hx
    exact (hstop i hi).type
  · intro x hx
    obtain ⟨i, hi, rfl⟩ := List.mem_map.mp hx
    obtain ⟨c, -, hc, hidx⟩ := hocc.conn i hi
    refine ⟨c, (hstop i hi).conn ▸ hc, fun m hm => ?_⟩
    obtain ⟨hmem, hmap⟩ := (hflagged i hi).1 m hm
    rw [(h.books 0).sess _ c hc m (hlt m hmem), if_pos (hmap.trans hidx.symm)]
    omega
  · rw [List.map_map]
    have hcount : slots.map ((fun x => ((flaggedSlots cfg x.2).length : Int)) ∘ F) =
        slots.map fun i : Nat => (ownCount d slabs i : Int) := by
      apply List.map_congr_left
      intro i hi
      simp only [Function.comp_apply, (hflagged i hi).2]
    rw [hcount, sum_ownCount hocc.nodup fun m hm => (hown m hm).2]
    exact hlen
  · constructor
    · intro hsizes j' sendList' hselect'
      rw [hselect] at hselect'
      obtain ⟨rfl, rfl⟩ := Prod.mk.inj (Option.some.inj hselect')
      rw [← hslabs]
      have hlast : ∀ a ∈ slabs, ownCount d slabs (d.connMap a) =
          ownCount d slabs (lastOwner d slabs) := by
        intro a ha
        obtain ⟨-, i, hi, hai⟩ := hown a ha
        have hpos : 0 < ownCount d slabs i :=
          List.countP_pos_iff.mpr ⟨a, ha, by simpa using hai⟩
        have hsize := hsizes (F i) (List.mem_map_of_mem hi)
        rw [(hstop i hi).size, if_pos hpos, (hflagged i hi).2] at hsize
        rw [hai]
        omega
      intro a ha b hb
      rw [hlast a ha, hlast b hb]
    · intro heven x hx
      obtain ⟨i, hi, rfl⟩ := List.mem_map.mp hx
      rw [(hstop i hi).size, (hflagged i hi).2]
      by_cases hpos : 0 < ownCount d slabs i
      · obtain ⟨a, ha, hai⟩ := List.countP_pos_iff.mp hpos
        have hai : d.connMap a = i := by simpa using hai
        have hne : slabs ≠ [] := List.ne_nil_of_mem ha
        have hlast : lastOwner d slabs = d.connMap (slabs.getLast hne) := by
          simp [lastOwner, List.getLast?_eq_getLast_of_ne_nil hne]
        rw [if_pos hpos, hlast, ← hai,
          heven j sendList hselect a ha _ (List.getLast_mem hne)]
      · rw [if_neg hpos]
        omega

/-- A connection of slot `i` that owns the slabs from `a` up to `b`. -/
def ownerOf (i : Int) (a b : Nat) : Connection :=
  { connIndex := i
    sessChunkMap := fun m => if a ≤ m ∧ m < b then m else -1
    mappedChunkSize := b - a
    sendMsg := emptyMessage
    recvMsg := emptyMessage
    evictSem := 0
    stopSem := 0 }

/-- Two clients: slabs 0 and 1 belong to the first one and slab 2 to the second one. -/
def twoClients : DaemonState :=
  { heap := fun k => if k = 0 then some (ownerOf 0 0 2) else
      if k = 1 then some (ownerOf 1 2 3) else none
    conns := fun i => if i = 0 then some 0 else if i = 1 then some 1 else none
    connsState := fun i => if i = 0 ∨ i = 1 then .mapped else .idle
    connNum := 2
    sizeGb := 3
    mappedSize := 3
    connMap := fun m => if m < 2 then 0 else if m < 3 then 1 else -1
    mallocMap := fun m => decide (m < 3)
    running := true }

/-- Each client reports its own slabs, with the given activities. -/
def twoReplies (activity : Nat → Nat) (id : ConnId) : Message :=
  { emptyMessage with
    buf := fun m => if id = 0 ∧ m < 2 ∨ id = 1 ∧ m = 2 then ntohll (activity m) else 0
    type := .activity }

lemma twoClients_heap {k : ConnId} {c : Connection} (hc : twoClients.heap k = some c) :
    k = 0 ∧ c = ownerOf 0 0 2 ∨ k = 1 ∧ c = ownerOf 1 2 3 := by
  simp only [twoClients] at hc
  split at hc
  · exact .inl ⟨‹_›, (Option.some.inj hc).symm⟩
  · split at hc
    · exact .inr ⟨‹_›, (Option.some.inj hc).symm⟩
    · cases hc

lemma twoClients_ready : RoundReady defaultConfig twoClients := by
  refine ⟨fun id => ⟨by decide, by decide, ?_, ?_, ?_, ?_⟩, ?_, ?_, ?_⟩
  · intro k c hc
    rcases twoClients_heap hc with ⟨rfl, rfl⟩ | ⟨rfl, rfl⟩
    · simp only [ite_self]
      decide
    · simp only [ite_self]
      decide
  · intro i _ hne
    simp only [twoClients] at hne ⊢
    by_cases h2 : i < 2
    · exact ⟨by simp; omega, 0, ownerOf 0 0 2, rfl, by simp [h2, ownerOf]⟩
    · by_cases h3 : i < 3
      · exact ⟨by simp [h3], 1, ownerOf 1 2 3, rfl, by simp [h2, h3, ownerOf]⟩
      · simp [h2, h3] at hne
  · intro k c hc i _
    rcases twoClients_heap hc with ⟨rfl, rfl⟩ | ⟨rfl, rfl⟩ <;> simp only [twoClients, ownerOf] <;>
      split_ifs <;> omega
  · intro k c hc
    rcases twoClients_heap hc with ⟨rfl, rfl⟩ | ⟨rfl, rfl⟩ <;> decide
  · intro k c hc
    rcases twoClients_heap hc with ⟨rfl, rfl⟩ | ⟨rfl, rfl⟩ <;> decide
  · intro i k hk
    simp only [twoClients] at hk
    split at hk
    · rw [← Option.some.inj hk]
      exact ⟨ownerOf 0 0 2, rfl, by simp [ownerOf, *]⟩
    · split at hk
      · rw [← Option.some.inj hk]
        exact ⟨ownerOf 1 2 3, rfl, by simp [ownerOf, *]⟩
      · cases hk
  · intro i _
    by_cases h0 : i = 0
    · subst h0
      exact ⟨fun _ => ⟨0, ownerOf 0 0 2, rfl, rfl, by decide⟩, fun _ => by decide⟩
    · by_cases h1 : i = 1
      · subst h1
        exact ⟨fun _ => ⟨1, ownerOf 1 2 3, rfl, rfl, by decide⟩, fun _ => by decide⟩
      · constructor
        · intro hst
          simp [twoClients, h0, h1] at hst
        · rintro ⟨k, c, hk, -, -⟩
          simp [twoClients, h0, h1] at hk

lemma twoReplies_exact (activity : Nat → Nat) (h0 : ∀ m < 3, ntohll (activity m) ≠ 0) :
    ExactReplies defaultConfig twoClients (twoReplies activity) := by
  intro id
  refine ⟨rfl, fun c hc m _ => ?_⟩
  have hpos := h0 m
  rcases twoClients_heap hc with ⟨rfl, rfl⟩ | ⟨rfl, rfl⟩
  · simp only [twoReplies, ownerOf]
    by_cases hm : m < 2
    · simp [hm]
      omega
    · simp [hm]
  · simp only [twoReplies, ownerOf]
    by_cases hm : m = 2
    · subst hm
      simp
      omega
    · have hout : ¬(2 ≤ m ∧ m < 3) := by omega
      simp [hm, hout]

/-- Slab 0 is the one that is used most. -/
def firstSlabHot (m : Nat) : Nat := if m = 0 then 9 else m

lemma firstSlabHot_even : EvenRound defaultConfig twoClients id (twoReplies firstSlabHot) 2 := by
  intro j sendList hselect
  have hslabs : (selectTargets defaultConfig twoClients id 2).map (fun p =>
      roundSlabs defaultConfig twoClients (twoReplies firstSlabHot) p.1 p.2) = some [1, 2] := by
    decide +kernel
  rw [hselect, Option.map_some, Option.some.injEq] at hslabs
  rw [hslabs]
  decide

/-- Two slabs are evicted, one of each client, and the sizes of the STOP messages are right. -/
theorem evictRound_stop_messages_two_clients :
    ∃ r, evictRound defaultConfig (fun i => ⟨i, i⟩) id (twoReplies firstSlabHot)
        (fun _ => ⟨0, 0⟩) twoClients 2 = some r ∧
      r.evictG = 2 ∧ r.stops.map Prod.fst = r.evicts.map Prod.fst ∧
      (r.stops.map fun x => ((flaggedSlots defaultConfig x.2).length : Int)).sum = 2 ∧
      ∀ x ∈ r.stops, x.2.sizeGb = (flaggedSlots defaultConfig x.2).length := by
  obtain ⟨r, hr, hj, -, hids, -, -, hsum, hsizes⟩ := evictRound_stop_messages defaultConfig
    twoClients (fun i => ⟨i, i⟩) id (twoReplies firstSlabHot) (fun _ => ⟨0, 0⟩) 2
    twoClients_ready (twoReplies_exact _ (by decide)) (by decide)
  exact ⟨r, hr, hj, hids, hsum.trans hj, hsizes.mpr firstSlabHot_even⟩

/-- All three slabs are evicted. The slab flagged last belongs to the second client, which has
one slab, so the first client is told to stop one slab with two of them flagged. -/
theorem evictRound_sends_size_of_other_client :
    RoundReady defaultConfig twoClients ∧
      ExactReplies defaultConfig twoClients (twoReplies fun m => m + 1) ∧
      (evictRound defaultConfig (fun i => ⟨i, i⟩) id (twoReplies fun m => m + 1)
        (fun _ => ⟨0, 0⟩) twoClients 3).map (fun r =>
          r.stops.map fun x => (x.1, x.2.sizeGb, (flaggedSlots defaultConfig x.2).length)) =
        some [(0, 1, 2), (1, 1, 1)] :=
  ⟨twoClients_ready, twoReplies_exact _ (by decide), by decide +kernel⟩

end DisStore.Proofs
