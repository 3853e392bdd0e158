import DisStore.Proofs.DaemonBooks

/-!
# Who owns the slabs of the daemon

The maps of the daemon without its counters: what every operation does to the relation
`ownsSlab` between connections and slabs.
-/

namespace DisStore.Proofs
open DisStore DisStore.Lib

/-- `conn_map` says that the slab belongs to the connection. -/
def ownsSlab (d : DaemonState) (k : ConnId) (i : Nat) : Bool :=
  match d.heap k with
  | some c => decide (d.connMap i = c.connIndex)
  | none => false

/-- `stop_sem` of a connection. -/
def stopSemOf (d : DaemonState) (k : ConnId) : Nat :=
  match d.heap k with
  | some c => c.stopSem
  | none => 0

/-- Live connections have slots of their own, used slabs are allocated and belong to live
connections, and the map of a connection repeats its part of `conn_map`. -/
structure DaemonMaps (cfg : DaemonConfig) (d : DaemonState) : Prop where
  table : ∀ k c, d.heap k = some c →
    d.conns c.connIndex = some k ∧ 0 ≤ c.connIndex ∧ d.connsState c.connIndex ≠ .idle
  owned : ∀ i < cfg.maxFreeMemGb, d.connMap i ≠ -1 → d.mallocMap i = true ∧
    ∃ k c, d.heap k = some c ∧ c.connIndex = d.connMap i
  sess : ∀ k c, d.heap k = some c → ∀ i < cfg.maxFreeMemGb,
    c.sessChunkMap i = if d.connMap i = c.connIndex then (i : Int) else -1

/-- An operation that leaves the owners alone: it changes messages, semaphores and counters,
and allocates slabs or frees unused ones. -/
structure KeepsOwners (d d' : DaemonState) : Prop where
  conn : ∀ k, (d'.heap k).map (fun c => (c.connIndex, c.sessChunkMap)) =
    (d.heap k).map fun c => (c.connIndex, c.sessChunkMap)
  conns : d'.conns = d.conns
  state : ∀ i, d.connsState i ≠ .idle → d'.connsState i ≠ .idle
  connMap : d'.connMap = d.connMap
  malloc : ∀ i, d.connMap i ≠ -1 → d.mallocMap i = true → d'.mallocMap i = true

variable {cfg : DaemonConfig} {d d' d'' : DaemonState} {id k : ConnId} {c : Connection}

lemma KeepsOwners.refl (d : DaemonState) : KeepsOwners d d :=
  ⟨fun _ => rfl, rfl, fun _ h => h, rfl, fun _ _ h => h⟩

lemma KeepsOwners.trans (h : KeepsOwners d d') (h' : KeepsOwners d' d'') : KeepsOwners d d'' :=
  ⟨fun k => (h'.conn k).trans (h.conn k), h'.conns.trans h.conns,
    fun i hi => h'.state i (h.state i hi), h'.connMap.trans h.connMap,
    fun i hi hm => h'.malloc i (h.connMap ▸ hi) (h.malloc i hi hm)⟩

lemma KeepsOwners.of_some (h : KeepsOwners d d') (hc : d'.heap k = some c) :
    ∃ c₀, d.heap k = some c₀ ∧ c.connIndex = c₀.connIndex ∧ c.sessChunkMap = c₀.sessChunkMap := by
  have hconn := h.conn k
  rw [hc, Option.map_some] at hconn
  obtain ⟨c₀, hc₀, heq⟩ := Option.map_eq_some_iff.mp hconn.symm
  obtain ⟨hidx, hsess⟩ := Prod.mk.inj heq
  exact ⟨c₀, hc₀, hidx.symm, hsess.symm⟩

lemma KeepsOwners.live (h : KeepsOwners d d') : (d'.heap k).isSome = (d.heap k).isSome := by
  have hconn := congrArg Option.isSome (h.conn k)
  rwa [Option.isSome_map, Option.isSome_map] at hconn

lemma KeepsOwners.ownsSlab (h : KeepsOwners d d') (k : ConnId) (i : Nat) :
    ownsSlab d' k i = ownsSlab d k i := by
  have hconn := h.conn k
  unfold DisStore.Proofs.ownsSlab
  rw [h.connMap]
  cases hd : d.heap k with
  | none =>
    rw [hd, Option.map_none, Option.map_eq_none_iff] at hconn
    rw [hconn]
  | some c =>
    rw [hd, Option.map_some] at hconn
    obtain ⟨c', hc', heq⟩ := Option.map_eq_some_iff.mp hconn
    rw [hc']
    simp only [(Prod.mk.inj heq).1]

lemma DaemonMaps.keep (h : DaemonMaps cfg d) (hkeep : KeepsOwners d d') : DaemonMaps cfg d' := by
  refine ⟨?_, ?_, ?_⟩
  · intro k c hc
    obtain ⟨c₀, hc₀, hidx, -⟩ := hkeep.of_some hc
    obtain ⟨hconns, hpos, hstate⟩ := h.table k c₀ hc₀
    rw [hidx, hkeep.conns]
    exact ⟨hconns, hpos, hkeep.state _ hstate⟩
  · intro i hi hne
    rw [hkeep.connMap] at hne ⊢
    obtain ⟨hmalloc, k, c, hc, hidx⟩ := h.owned i hi hne
    refine ⟨hkeep.malloc i hne hmalloc, ?_⟩
    have hconn := hkeep.conn k
    rw [hc, Option.map_some] at hconn
    obtain ⟨c', hc', heq⟩ := Option.map_eq_some_iff.mp hconn
    exact ⟨k, c', hc', (Prod.mk.inj heq).1.trans hidx⟩
  · intro k c hc i hi
    obtain ⟨c₀, hc₀, hidx, hsess⟩ := hkeep.of_some hc
    rw [hidx, hsess, hkeep.connMap]
    exact h.sess k c₀ hc₀ i hi

lemma keepsOwners_updateConn (d : DaemonState) (id : ConnId) {f : Connection → Connection}
    (hidx : ∀ x, (f x).connIndex = x.connIndex)
    (hsess : ∀ x, (f x).sessChunkMap = x.sessChunkMap) : KeepsOwners d (d.updateConn id f) := by
  refine ⟨fun k => ?_, rfl, fun _ h => h, rfl, fun _ _ h => h⟩
  rw [updateConn_heap]
  by_cases hk : k = id
  · subst hk
    rw [if_pos rfl, Option.map_map]
    congr 1
    funext x
    simp only [Function.comp_apply, hidx, hsess]
  · rw [if_neg hk]

lemma DaemonMaps.index_inj (h : DaemonMaps cfg d) {k' : ConnId} {c' : Connection}
    (hc : d.heap k = some c) (hc' : d.heap k' = some c') (he : c.connIndex = c'.connIndex) :
    k = k' := by
  have hslot := (h.table k c hc).1
  rw [he, (h.table k' c' hc').1] at hslot
  exact (Option.some.inj hslot).symm

/-- The owner of slab `i` changes between nobody and connection `id`. -/
structure SetsOwner (id : ConnId) (i : Nat) (owner : Int) (d d' : DaemonState) : Prop where
  conns : d'.conns = d.conns
  state : d'.connsState = d.connsState
  connMap : d'.connMap = Function.update d.connMap i owner
  malloc : ∀ j, j ≠ i → d'.mallocMap j = d.mallocMap j
  others : ∀ k, k ≠ id → d'.heap k = d.heap k

lemma DaemonMaps.setOwner (h : DaemonMaps cfg d) {c' : Connection} {i : Nat} {owner v : Int}
    (hset : SetsOwner id i owner d d') (hc : d.heap id = some c) (hc' : d'.heap id = some c')
    (hidx : c'.connIndex = c.connIndex) (hsess : c'.sessChunkMap = Function.update c.sessChunkMap i v)
    (hv : v = if owner = c.connIndex then (i : Int) else -1)
    (hold : d.connMap i = -1 ∨ d.connMap i = c.connIndex)
    (hnew : owner = -1 ∨ owner = c.connIndex ∧ d'.mallocMap i = true) :
    DaemonMaps cfg d' ∧ ∀ k j, ownsSlab d' k j =
      if k = id ∧ j = i then decide (owner = c.connIndex) else ownsSlab d k j := by
  have hpos := (h.table id c hc).2.1
  -- another connection has neither the old nor the new entry
  have hother : ∀ k x, k ≠ id → d.heap k = some x →
      d.connMap i ≠ x.connIndex ∧ owner ≠ x.connIndex := by
    intro k x hk hx
    have hposx := (h.table k x hx).2.1
    have hne : c.connIndex ≠ x.connIndex := fun he => hk (h.index_inj hc hx he).symm
    constructor
    · rcases hold with he | he <;> rw [he]
      · omega
      · exact hne
    · rcases hnew with he | ⟨he, -⟩ <;> rw [he]
      · omega
      · exact hne
  refine ⟨⟨?_, ?_, ?_⟩, ?_⟩
  · intro k x hx
    rw [hset.conns, hset.state]
    by_cases hk : k = id
    · subst hk
      rw [hc', Option.some.injEq] at hx
      rw [← hx, hidx]
      exact h.table k c hc
    · rw [hset.others k hk] at hx
      exact h.table k x hx
  · intro j hj hne
    rw [hset.connMap] at hne ⊢
    by_cases hji : j = i
    · subst hji
      rw [Function.update_self] at hne ⊢
      obtain ⟨howner, hmalloc⟩ := hnew.resolve_left hne
      exact ⟨hmalloc, id, c', hc', hidx.trans howner.symm⟩
    · rw [Function.update_of_ne hji] at hne ⊢
      obtain ⟨hmalloc, k, x, hx, hxi⟩ := h.owned j hj hne
      refine ⟨hset.malloc j hji ▸ hmalloc, ?_⟩
      by_cases hk : k = id
      · subst hk
        rw [hc, Option.some.injEq] at hx
        exact ⟨k, c', hc', hidx.trans (hx ▸ hxi)⟩
      · exact ⟨k, x, (hset.others k hk).trans hx, hxi⟩
  · intro k x hx j hj
    rw [hset.connMap]
    by_cases hk : k = id
    · subst hk
      rw [hc', Option.some.injEq] at hx
      rw [← hx, hidx, hsess]
      by_cases hji : j = i
      · subst hji
        rw [Function.update_self, Function.update_self, hv]
      · rw [Function.update_of_ne hji, Function.update_of_ne hji]
        exact h.sess k c hc j hj
    · rw [hset.others k hk] at hx
      by_cases hji : j = i
      · subst hji
        have hsess := h.sess k x hx j hj
        rw [if_neg (hother k x hk hx).1] at hsess
        rw [Function.update_self, if_neg (hother k x hk hx).2, hsess]
      · rw [Function.update_of_ne hji]
        exact h.sess k x hx j hj
  · intro k j
    unfold ownsSlab
    by_cases hk : k = id
    · subst hk
      rw [hc', hc, hset.connMap]
      by_cases hji : j = i
      · simp [hji, hidx]
      · simp [hji, hidx]
    · rw [hset.others k hk, hset.connMap]
      simp only [hk, false_and, if_false]
      cases hx : d.heap k with
      | none => rfl
      | some x =>
        by_cases hji : j = i
        · subst hji
          simp [(hother k x hk hx).1, (hother k x hk hx).2]
        · simp [hji]

/-- What an operation on connection `id` does to the owners and to `stop_sem`: the listed
slabs get the owner or lose it, and no connection comes or goes. -/
structure Moves (id : ConnId) (slabs : List Nat) (owned : Bool) (sem : Nat)
    (d d' : DaemonState) : Prop where
  owns : ∀ k i, ownsSlab d' k i = if k = id ∧ i ∈ slabs then owned else ownsSlab d k i
  live : ∀ k, (d'.heap k).isSome = (d.heap k).isSome
  stopSem : ∀ k, stopSemOf d' k = if k = id then sem else stopSemOf d k

lemma KeepsOwners.moves (h : KeepsOwners d d') {sem : Nat}
    (hsem : ∀ k, stopSemOf d' k = if k = id then sem else stopSemOf d k) :
    Moves id [] false sem d d' := by
  refine ⟨fun k i => ?_, fun k => h.live, hsem⟩
  rw [h.ownsSlab, if_neg (fun hk => List.not_mem_nil hk.2)]

lemma Moves.before {slabs : List Nat} {owned b : Bool} {sem sem' : Nat}
    (h : Moves id [] b sem d d') (h' : Moves id slabs owned sem' d' d'') :
    Moves id slabs owned sem' d d'' := by
  refine ⟨fun k i => ?_, fun k => (h'.live k).trans (h.live k), fun k => ?_⟩
  · rw [h'.owns, h.owns, if_neg (fun hk : k = id ∧ i ∈ [] => List.not_mem_nil hk.2)]
  · rw [h'.stopSem, h.stopSem]
    by_cases hk : k = id
    · rw [if_pos hk, if_pos hk]
    · simp only [if_neg hk]

lemma Moves.after {slabs : List Nat} {owned b : Bool} {sem sem' : Nat}
    (h : Moves id slabs owned sem d d') (h' : Moves id [] b sem' d' d'') :
    Moves id slabs owned sem' d d'' := by
  refine ⟨fun k i => ?_, fun k => (h'.live k).trans (h.live k), fun k => ?_⟩
  · rw [h'.owns, h.owns, if_neg (fun hk : k = id ∧ i ∈ [] => List.not_mem_nil hk.2)]
  · rw [h'.stopSem, h.stopSem]
    by_cases hk : k = id
    · rw [if_pos hk, if_pos hk]
    · simp only [if_neg hk]

lemma stopSemOf_updateConn (hc : d.heap id = some c) (f : Connection → Connection) (k : ConnId) :
    stopSemOf (d.updateConn id f) k = if k = id then (f c).stopSem else stopSemOf d k := by
  unfold stopSemOf
  rw [updateConn_heap]
  by_cases hk : k = id
  · rw [if_pos hk, if_pos hk, hc]
    rfl
  · rw [if_neg hk, if_neg hk]

lemma keepsOwners_setState (d : DaemonState) (i : Int) {st : ConnState} (hst : st ≠ .idle) :
    KeepsOwners d { d with connsState := Function.update d.connsState i st } := by
  refine ⟨fun _ => rfl, rfl, fun j hj => ?_, rfl, fun _ _ h => h⟩
  by_cases hji : j = i
  · subst hji
    simpa using hst
  · simpa [hji] using hj

lemma keepsOwners_counters (d : DaemonState) (size mapped : Int) :
    KeepsOwners d { d with sizeGb := size, mappedSize := mapped } :=
  ⟨fun _ => rfl, rfl, fun _ h => h, rfl, fun _ _ h => h⟩

lemma keepsOwners_releaseSlab {i : Nat} (h : d.freeSlab i = true) :
    KeepsOwners d (releaseSlab d i) := by
  refine ⟨fun _ => rfl, rfl, fun _ h => h, rfl, fun j hj hmalloc => ?_⟩
  have hji : j ≠ i := fun he => hj (he ▸ ((freeSlab_iff d i).mp h).2)
  simpa [releaseSlab, hji] using hmalloc

lemma keepsOwners_allocateSlab (d : DaemonState) (i : Nat) :
    KeepsOwners d (allocateSlab d i) := by
  refine ⟨fun _ => rfl, rfl, fun _ h => h, rfl, fun j _ hmalloc => ?_⟩
  by_cases hji : j = i
  · simp [allocateSlab, hji]
  · simpa [allocateSlab, hji] using hmalloc

/-- The heap and the owners, all that the freeing and the expansion of memory keep. -/
def KeepsHeap (d d' : DaemonState) : Prop := KeepsOwners d d' ∧ d'.heap = d.heap

lemma keepsHeap_takeLoop {p : DaemonState → Nat → Bool} {f : DaemonState → Nat → DaemonState}
    (hf : ∀ d i, p d i = true → KeepsHeap d (f d i))
    (hframe : ∀ d i k, k ≠ i → p (f d i) k = p d k) (d : DaemonState) (t : Int) (n : Nat) :
    KeepsHeap d (takeLoop p f t (List.range n) 0 d).1 := by
  have hspec := takeLoop_spec (p := p) (f := f) (t := t) (I := fun _ d' => KeepsHeap d d')
    (List.range n) 0 d List.nodup_range ⟨KeepsOwners.refl d, rfl⟩ ?_ hframe
  · exact hspec.1
  · intro _ d' i _ hkeep hp
    exact ⟨hkeep.1.trans (hf d' i hp).1, (hf d' i hp).2.trans hkeep.2⟩

lemma keepsHeap_freeUnmapped (cfg : DaemonConfig) (d : DaemonState) (stopG : Int) :
    KeepsHeap d (freeUnmapped cfg d stopG).1 := by
  have hloop := keepsHeap_takeLoop (p := DaemonState.freeSlab) (f := releaseSlab)
    (fun d i hi => ⟨keepsOwners_releaseSlab hi, rfl⟩)
    (fun d i k hk => by
      change (Function.update d.mallocMap i false k && _) = _
      rw [Function.update_of_ne hk]
      rfl) d stopG cfg.maxFreeMemGb
  unfold freeUnmapped
  split
  next d' _ heq =>
    rw [heq] at hloop
    exact ⟨hloop.1.trans (keepsOwners_counters d' _ _), hloop.2⟩
  next d' _ heq =>
    rw [heq] at hloop
    exact ⟨hloop.1.trans (keepsOwners_counters d' _ _), hloop.2⟩

lemma keepsHeap_expandMem (cfg : DaemonConfig) (d : DaemonState) (lastFreeMemG : Int) :
    KeepsHeap d (expandMem cfg d lastFreeMemG) := by
  have hloop : ∀ t, KeepsHeap d (takeLoop (fun d i => !d.mallocMap i) allocateSlab t
      (List.range cfg.maxFreeMemGb) 0 d).1 := fun t =>
    keepsHeap_takeLoop (fun d i _ => ⟨keepsOwners_allocateSlab d i, rfl⟩)
      (fun d i k hk => by simp [allocateSlab, hk]) d t cfg.maxFreeMemGb
  unfold expandMem
  dsimp only
  exact ⟨(hloop _).1.trans (keepsOwners_counters _ _ _), (hloop _).2⟩

lemma KeepsHeap.moves (h : KeepsHeap d d') (id : ConnId) :
    Moves id [] false (stopSemOf d id) d d' := by
  apply h.1.moves
  intro k
  unfold stopSemOf
  rw [h.2]
  by_cases hk : k = id
  · rw [if_pos hk, hk]
  · rw [if_neg hk]

lemma moves_message (hc : d.heap id = some c) {f : Connection → Connection}
    (hidx : ∀ x, (f x).connIndex = x.connIndex) (hsess : ∀ x, (f x).sessChunkMap = x.sessChunkMap)
    (hsem : ∀ x, (f x).stopSem = x.stopSem) : Moves id [] false c.stopSem d (d.updateConn id f) := by
  apply (keepsOwners_updateConn d id hidx hsess).moves
  intro k
  rw [stopSemOf_updateConn hc, hsem]

lemma stopSemOf_of_some (hc : d.heap id = some c) : stopSemOf d id = c.stopSem := by
  unfold stopSemOf
  rw [hc]

lemma ownsSlab_of_some (hc : d.heap id = some c) (i : Nat) :
    ownsSlab d id i = decide (d.connMap i = c.connIndex) := by
  unfold ownsSlab
  rw [hc]

lemma DaemonMaps.bindSlab (h : DaemonMaps cfg d) (mr : Nat → MemRegion) {i : Nat}
    (hc : d.heap id = some c) (hfree : d.freeSlab i = true) :
    DaemonMaps cfg (bindSlab d id c.connIndex mr i) ∧
      Moves id [i] true c.stopSem d (bindSlab d id c.connIndex mr i) := by
  obtain ⟨hmalloc, hmap⟩ := (freeSlab_iff d i).mp hfree
  have hheap := updateConn_of_some id (fun c => { c with
      sessChunkMap := Function.update c.sessChunkMap i i
      sendMsg := { c.sendMsg with
        buf := Function.update c.sendMsg.buf i (htonll (mr i).addr)
        rkey := Function.update c.sendMsg.rkey i (htonl (mr i).rkey) } }) hc
  rw [if_pos rfl] at hheap
  have hset : SetsOwner id i c.connIndex d (DisStore.bindSlab d id c.connIndex mr i) :=
    ⟨rfl, rfl, rfl, fun _ _ => rfl, fun k hk => Function.update_of_ne hk _ _⟩
  obtain ⟨hmaps, howns⟩ := h.setOwner hset hc hheap rfl rfl (by rw [if_pos rfl]) (.inl hmap)
    (.inr ⟨rfl, hmalloc⟩)
  refine ⟨hmaps, fun k j => ?_, fun k => ?_, stopSemOf_updateConn hc _⟩
  · rw [howns, decide_eq_true rfl]
    simp only [List.mem_singleton]
  · change ((d.updateConn id _).heap k).isSome = _
    rw [updateConn_heap]
    by_cases hk : k = id
    · rw [if_pos hk, Option.isSome_map, hk]
    · rw [if_neg hk]

lemma DaemonMaps.recvDoneSlot (h : DaemonMaps cfg d) {i : Nat} (hi : i < cfg.maxFreeMemGb)
    (hc : d.heap id = some c) (hown : ownsSlab d id i = true) :
    ∃ d', DisStore.recvDoneSlot d id i = some d' ∧ DaemonMaps cfg d' ∧
      Moves id [i] false c.stopSem d d' ∧
      d'.heap id = some { c with sessChunkMap := Function.update c.sessChunkMap i (-1) } := by
  have hmap : d.connMap i = c.connIndex := by
    unfold ownsSlab at hown
    rw [hc] at hown
    exact of_decide_eq_true hown
  have hindex : c.sessChunkMap i = i := by rw [h.sess id c hc i hi, if_pos hmap]
  have hpos := (h.table id c hc).2.1
  set d' : DaemonState := { d.updateConn id (fun c =>
      { c with sessChunkMap := Function.update c.sessChunkMap i (-1) }) with
    connMap := Function.update d.connMap i (-1)
    mallocMap := Function.update d.mallocMap i false } with hd'
  have hheap : d'.heap id =
      some { c with sessChunkMap := Function.update c.sessChunkMap i (-1) } := by
    rw [hd']
    exact (updateConn_of_some id _ hc).trans (by rw [if_pos rfl])
  have hset : SetsOwner id i (-1) d d' := ⟨rfl, rfl, rfl,
    fun j hj => Function.update_of_ne hj _ _, fun k hk => Function.update_of_ne hk _ _⟩
  obtain ⟨hmaps, howns⟩ := h.setOwner hset hc hheap rfl rfl (by rw [if_neg (by omega)])
    (.inr hmap) (.inl rfl)
  refine ⟨d', ?_, hmaps, ⟨fun k j => ?_, fun k => ?_, stopSemOf_updateConn hc _⟩, hheap⟩
  · simp [DisStore.recvDoneSlot, hc, hindex, hd', DaemonState.updateConn]
  · rw [howns, decide_eq_false (by omega)]
    simp only [List.mem_singleton]
  · change ((d.updateConn id _).heap k).isSome = _
    rw [updateConn_heap]
    by_cases hk : k = id
    · rw [if_pos hk, Option.isSome_map, hk]
    · rw [if_neg hk]

lemma DaemonMaps.recvDoneSlots (slabs : List Nat) (h : DaemonMaps cfg d)
    (hc : d.heap id = some c) (hnodup : slabs.Nodup)
    (hown : ∀ i ∈ slabs, i < cfg.maxFreeMemGb ∧ ownsSlab d id i = true) :
    ∃ d' sess, slabs.foldlM (fun d i => DisStore.recvDoneSlot d id i) d = some d' ∧
      DaemonMaps cfg d' ∧ Moves id slabs false c.stopSem d d' ∧
      d'.heap id = some { c with sessChunkMap := sess } := by
  induction slabs generalizing d c with
  | nil =>
    refine ⟨d, c.sessChunkMap, rfl, h, (KeepsOwners.refl d).moves fun k => ?_, hc⟩
    by_cases hk : k = id
    · rw [if_pos hk, hk, stopSemOf, hc]
    · rw [if_neg hk]
  | cons i rest ih =>
    obtain ⟨hi, hnodup⟩ := List.nodup_cons.mp hnodup
    obtain ⟨hlt, howni⟩ := hown i List.mem_cons_self
    obtain ⟨d₁, hslot, hmaps, hmoves, hheap⟩ := h.recvDoneSlot hlt hc howni
    have hrest : ∀ j ∈ rest, j < cfg.maxFreeMemGb ∧ ownsSlab d₁ id j = true := by
      intro j hj
      have hji : j ≠ i := fun he => hi (he ▸ hj)
      rw [hmoves.owns, if_neg (fun hk => hji (List.mem_singleton.mp hk.2))]
      exact hown j (List.mem_cons_of_mem _ hj)
    obtain ⟨d', sess, hfold, hmaps', hmoves', hheap'⟩ := ih hmaps hheap hnodup hrest
    refine ⟨d', sess, ?_, hmaps', ⟨fun k j => ?_, fun k => ?_, fun k => ?_⟩, hheap'⟩
    · simp only [List.foldlM_cons, hslot, Option.bind_eq_bind, Option.bind_some]
      exact hfold
    · rw [hmoves'.owns, hmoves.owns]
      by_cases hk : k = id
      · simp only [hk, true_and, List.mem_cons]
        by_cases hji : j = i <;> by_cases hj : j ∈ rest <;> simp [hji, hj]
      · simp [hk]
    · rw [hmoves'.live, hmoves.live]
    · rw [hmoves'.stopSem, hmoves.stopSem]
      by_cases hk : k = id
      · rw [if_pos hk, if_pos hk]
      · simp only [if_neg hk]

lemma DaemonMaps.recvDone (h : DaemonMaps cfg d) (hc : d.heap id = some c)
    (hown : ∀ i ∈ flaggedSlots cfg c.recvMsg, ownsSlab d id i = true) :
    ∃ d', DisStore.recvDone cfg d id = some d' ∧ DaemonMaps cfg d' ∧
      Moves id (flaggedSlots cfg c.recvMsg) false (c.stopSem + 1) d d' := by
  have hslots : ∀ i ∈ flaggedSlots cfg c.recvMsg,
      i < cfg.maxFreeMemGb ∧ ownsSlab d id i = true := fun i hi =>
    ⟨List.mem_range.mp (List.mem_of_mem_filter hi), hown i hi⟩
  obtain ⟨d₁, sess, hfold, hmaps, hmoves, hheap⟩ :=
    h.recvDoneSlots (flaggedSlots cfg c.recvMsg) hc (List.nodup_range.filter _) hslots
  have hcount := keepsOwners_counters d₁ (d₁.sizeGb - c.recvMsg.sizeGb)
    (d₁.mappedSize - c.recvMsg.sizeGb)
  set d₂ : DaemonState := { d₁ with
    sizeGb := d₁.sizeGb - c.recvMsg.sizeGb
    mappedSize := d₁.mappedSize - c.recvMsg.sizeGb }
  have hheap₂ : d₂.heap id = some { c with sessChunkMap := sess } := hheap
  have hconn := keepsOwners_updateConn d₂ id (f := fun x =>
    { x with mappedChunkSize := x.mappedChunkSize - c.recvMsg.sizeGb, stopSem := x.stopSem + 1 })
    (fun _ => rfl) (fun _ => rfl)
  have hmaps' := hmaps.keep (hcount.trans hconn)
  have hmoves' := hmoves.after ((hcount.trans hconn).moves (stopSemOf_updateConn hheap₂ _))
  simp only [DisStore.recvDone, hc, hfold, Option.bind_eq_bind, Option.bind_some]
  split
  · have hstate := keepsOwners_setState (d₂.updateConn id fun x =>
      { x with mappedChunkSize := x.mappedChunkSize - c.recvMsg.sizeGb, stopSem := x.stopSem + 1 })
      c.connIndex (by decide : ConnState.connected ≠ .idle)
    exact ⟨_, rfl, hmaps'.keep hstate, hmoves'.owns, hmoves'.live, hmoves'.stopSem⟩
  · exact ⟨_, rfl, hmaps', hmoves'⟩

lemma DaemonMaps.buildConnection (h : DaemonMaps cfg d) (hnone : d.heap id = none) {slot : Nat}
    (hslot : firstIdleSlot cfg d = some slot) (junkIndex : Int) (junkMsg : Message) :
    DaemonMaps cfg (buildConnection cfg d id junkIndex junkMsg) ∧
      (∀ i < cfg.maxFreeMemGb,
        ownsSlab (DisStore.buildConnection cfg d id junkIndex junkMsg) id i = false) ∧
      stopSemOf (DisStore.buildConnection cfg d id junkIndex junkMsg) id = 0 := by
  have hidle : d.connsState slot = .idle := by
    simpa using List.find?_some hslot
  have hfresh : ∀ k c, d.heap k = some c → c.connIndex ≠ slot := by
    intro k c hc he
    exact (h.table k c hc).2.2 (he ▸ hidle)
  have hunused : ∀ i < cfg.maxFreeMemGb, d.connMap i ≠ slot := by
    intro i hi he
    obtain ⟨-, k, c, hc, hidx⟩ := h.owned i hi (by omega)
    exact hfresh k c hc (hidx.trans he)
  have hother : ∀ k c, d.heap k = some c → k ≠ id := by
    intro k c hc he
    rw [he, hnone] at hc
    cases hc
  unfold DisStore.buildConnection
  rw [hslot]
  refine ⟨⟨?_, ?_, ?_⟩, ?_, ?_⟩
  · intro k c hc
    by_cases hk : k = id
    · subst hk
      simp only [Function.update_self, Option.some.injEq] at hc
      subst hc
      simp
    · simp only [Function.update_of_ne hk] at hc
      simp only [Function.update_of_ne (hfresh k c hc)]
      exact h.table k c hc
  · intro i hi hne
    obtain ⟨hmalloc, k, c, hc, hidx⟩ := h.owned i hi hne
    refine ⟨hmalloc, k, c, ?_, hidx⟩
    simp only [Function.update_of_ne (hother k c hc)]
    exact hc
  · intro k c hc i hi
    by_cases hk : k = id
    · subst hk
      simp only [Function.update_self, Option.some.injEq] at hc
      subst hc
      simp [hunused i hi]
    · simp only [Function.update_of_ne hk] at hc
      exact h.sess k c hc i hi
  · intro i hi
    simp [ownsSlab, hunused i hi]
  · simp [stopSemOf]

lemma buildConnection_heap (cfg : DaemonConfig) (d : DaemonState) (junkIndex : Int)
    (junkMsg : Message) (hk : k ≠ id) :
    (buildConnection cfg d id junkIndex junkMsg).heap k = d.heap k := by
  unfold buildConnection
  split
  · exact Function.update_of_ne hk _ _
  · exact Function.update_of_ne hk _ _

lemma buildConnection_connMap (cfg : DaemonConfig) (d : DaemonState) (junkIndex : Int)
    (junkMsg : Message) : (buildConnection cfg d id junkIndex junkMsg).connMap = d.connMap := by
  unfold buildConnection
  split <;> rfl

lemma DaemonMaps.destroyConnection (h : DaemonMaps cfg d) (hc : d.heap id = some c)
    (hcovers : c.mappedChunkSize ≤ 0 → ∀ i < cfg.maxFreeMemGb, ownsSlab d id i = false)
    (hd : DisStore.destroyConnection cfg d id = some d') :
    DaemonMaps cfg d' ∧ d'.heap = Function.update d.heap id none ∧
      d'.conns = Function.update d.conns c.connIndex none ∧
      ∀ k, k ≠ id → ∀ i < cfg.maxFreeMemGb, ownsSlab d' k i = ownsSlab d k i := by
  obtain ⟨hmalloc, hheap, hconns, hstate, hmap⟩ : d'.mallocMap = d.mallocMap ∧
      d'.heap = Function.update d.heap id none ∧
      d'.conns = Function.update d.conns c.connIndex none ∧
      d'.connsState = Function.update d.connsState c.connIndex .idle ∧
      ∀ j < cfg.maxFreeMemGb, d'.connMap j =
        if d.connMap j = c.connIndex then -1 else d.connMap j := by
    simp only [DisStore.destroyConnection, hc, Option.bind_eq_bind, Option.bind_some,
      Option.some.injEq] at hd
    subst hd
    by_cases hpos : c.mappedChunkSize > 0
    · rw [if_pos hpos]
      refine ⟨rfl, rfl, rfl, rfl, fun j hj => ?_⟩
      dsimp only
      rw [destroyed_connMap (h.sess id c hc) hj]
      simp
    · rw [if_neg hpos]
      refine ⟨rfl, rfl, rfl, rfl, fun j hj => ?_⟩
      have hown := hcovers (by omega) j hj
      rw [ownsSlab_of_some hc, decide_eq_false_iff_not] at hown
      rw [if_neg hown]
  -- the connections that stay are the ones of other slots
  have hstay : ∀ k c', d'.heap k = some c' →
      k ≠ id ∧ d.heap k = some c' ∧ c'.connIndex ≠ c.connIndex := by
    intro k c' hc'
    rw [hheap] at hc'
    have hk : k ≠ id := by
      rintro rfl
      simp at hc'
    rw [Function.update_of_ne hk] at hc'
    exact ⟨hk, hc', fun he => hk (h.index_inj hc' hc he)⟩
  have hother : ∀ k c', d'.heap k = some c' → ∀ j < cfg.maxFreeMemGb,
      (d'.connMap j = c'.connIndex ↔ d.connMap j = c'.connIndex) := by
    intro k c' hc' j hj
    obtain ⟨-, h₀, hidx⟩ := hstay k c' hc'
    have hpos := (h.table k c' h₀).2.1
    rw [hmap j hj]
    split <;> omega
  refine ⟨⟨?_, ?_, ?_⟩, hheap, hconns, ?_⟩
  · intro k c' hc'
    obtain ⟨-, h₀, hidx⟩ := hstay k c' hc'
    rw [hconns, hstate, Function.update_of_ne hidx, Function.update_of_ne hidx]
    exact h.table k c' h₀
  · intro j hj hne
    rw [hmap j hj] at hne ⊢
    rw [hmalloc]
    split at hne
    next => exact (hne rfl).elim
    next hnot =>
      rw [if_neg hnot]
      obtain ⟨hj', k, c', hc', hidx⟩ := h.owned j hj hne
      have hk : k ≠ id := by
        rintro rfl
        rw [hc] at hc'
        exact hnot (by rw [← hidx, Option.some.inj hc'])
      exact ⟨hj', k, c', by rw [hheap, Function.update_of_ne hk, hc'], hidx⟩
  · intro k c' hc' j hj
    obtain ⟨-, h₀, -⟩ := hstay k c' hc'
    rw [h.sess k c' h₀ j hj]
    simp only [hother k c' hc' j hj]
  · intro k hk j hj
    unfold ownsSlab
    have hsame : d'.heap k = d.heap k := by rw [hheap, Function.update_of_ne hk]
    rw [hsame]
    cases hck : d.heap k with
    | none => rfl
    | some c' =>
      simp only [hother k c' (hsame.trans hck) j hj]

lemma DaemonMaps.sendSingleMr (h : DaemonMaps cfg d) (hc : d.heap id = some c)
    (mr : Nat → MemRegion) (chunk : Int) :
    ∃ d' msg, DisStore.sendSingleMr cfg mr d id chunk = some (d', [(id, msg)]) ∧
      DaemonMaps cfg d' ∧ msg.type = .infoSingle ∧ msg.sizeGb = chunk ∧
      ((∃ i < cfg.maxFreeMemGb, ownsSlab d id i = false ∧ Moves id [i] true c.stopSem d d' ∧
          msg.rkey = Function.update (fun _ => 0) i (htonl (mr i).rkey)) ∨
        (∀ i < cfg.maxFreeMemGb, d.freeSlab i = false) ∧ Moves id [] false c.stopSem d d' ∧
          msg.rkey = fun _ => 0) := by
  have hfirst := keepsOwners_updateConn d id (f := fun c =>
    { c with sendMsg := { c.sendMsg with sizeGb := chunk, rkey := fun _ => 0 } })
    (fun _ => rfl) (fun _ => rfl)
  have hmoves₁ := hfirst.moves (stopSemOf_updateConn hc fun c =>
    { c with sendMsg := { c.sendMsg with sizeGb := chunk, rkey := fun _ => 0 } })
  have hc₁ := updateConn_of_some id (fun c =>
    { c with sendMsg := { c.sendMsg with sizeGb := chunk, rkey := fun _ => 0 } }) hc
  rw [if_pos rfl] at hc₁
  set d₁ := d.updateConn id fun c =>
    { c with sendMsg := { c.sendMsg with sizeGb := chunk, rkey := fun _ => 0 } } with hd₁
  have hmaps₁ := h.keep hfirst
  -- the counters and the type of the message come after the loop in both cases
  have hlast : ∀ d₂ c₂, d₂.heap id = some c₂ → ∃ d',
      d' = { d₂ with mappedSize := d₂.mappedSize + 1 }.updateConn id (fun c =>
        { c with
          mappedChunkSize := c.mappedChunkSize + 1
          sendMsg := { c.sendMsg with type := .infoSingle } }) ∧
      KeepsOwners d₂ d' ∧ Moves id [] false c₂.stopSem d₂ d' ∧
      sendMessage d' id = [(id, { c₂.sendMsg with type := .infoSingle })] := by
    intro d₂ c₂ hc₂
    have hcount := keepsOwners_counters d₂ d₂.sizeGb (d₂.mappedSize + 1)
    set d₃ : DaemonState := { d₂ with mappedSize := d₂.mappedSize + 1 }
    have hc₃ : d₃.heap id = some c₂ := hc₂
    have hkeep := hcount.trans (keepsOwners_updateConn d₃ id (f := fun c =>
      { c with
        mappedChunkSize := c.mappedChunkSize + 1
        sendMsg := { c.sendMsg with type := .infoSingle } }) (fun _ => rfl) (fun _ => rfl))
    exact ⟨_, rfl, hkeep, hkeep.moves (stopSemOf_updateConn hc₃ _), sendMessage_updateConn hc₃ _⟩
  simp only [DisStore.sendSingleMr, hc, Option.bind_eq_bind, Option.bind_some, ← hd₁]
  cases hfind : (List.range cfg.maxFreeMemGb).find? d₁.freeSlab with
  | none =>
    obtain ⟨d', rfl, hkeep, hmoves', hout⟩ := hlast d₁ _ hc₁
    refine ⟨_, _, congrArg some (Prod.ext rfl hout), hmaps₁.keep hkeep, rfl, rfl,
      .inr ⟨fun i hi => ?_, hmoves₁.after hmoves', rfl⟩⟩
    have hnone := List.find?_eq_none.mp hfind i (List.mem_range.mpr hi)
    exact Bool.eq_false_of_not_eq_true hnone
  | some i =>
    have hfree : d₁.freeSlab i = true := List.find?_some hfind
    obtain ⟨hmaps₂, hmoves₂⟩ := hmaps₁.bindSlab mr hc₁ hfree
    have hc₂ := updateConn_of_some id (fun c => { c with
      sessChunkMap := Function.update c.sessChunkMap i i
      sendMsg := { c.sendMsg with
        buf := Function.update c.sendMsg.buf i (htonll (mr i).addr)
        rkey := Function.update c.sendMsg.rkey i (htonl (mr i).rkey) } }) hc₁
    rw [if_pos rfl] at hc₂
    obtain ⟨d', rfl, hkeep, hmoves', hout⟩ :=
      hlast (DisStore.bindSlab d₁ id c.connIndex mr i) _ hc₂
    refine ⟨_, _, congrArg some (Prod.ext rfl hout), hmaps₂.keep hkeep, rfl, rfl, .inl ⟨i, ?_, ?_,
      hmoves₁.before (hmoves₂.after hmoves'), rfl⟩⟩
    · exact List.mem_range.mp (List.mem_of_find?_eq_some hfind)
    · have hmap : d.connMap i = -1 := ((freeSlab_iff d₁ i).mp hfree).2
      have hpos := (h.table id c hc).2.1
      rw [ownsSlab_of_some hc]
      exact decide_eq_false (by omega)

lemma DaemonMaps.received (h : DaemonMaps cfg d) (hc : d.heap id = some c) (msg : Message) :
    DaemonMaps cfg (d.updateConn id fun c => { c with recvMsg := msg }) ∧
      Moves id [] false c.stopSem d (d.updateConn id fun c => { c with recvMsg := msg }) ∧
      (d.updateConn id fun c => { c with recvMsg := msg }).heap id =
        some { c with recvMsg := msg } := by
  refine ⟨h.keep (keepsOwners_updateConn d id (fun _ => rfl) (fun _ => rfl)),
    moves_message hc (fun _ => rfl) (fun _ => rfl) (fun _ => rfl), ?_⟩
  rw [updateConn_of_some id _ hc, if_pos rfl]

lemma DaemonMaps.onRecv_query (h : DaemonMaps cfg d) (hc : d.heap id = some c)
    (mr : Nat → MemRegion) {msg : Message} (htype : msg.type = .query) :
    ∃ d' reply, onRecv cfg mr d id msg = some (d', [(id, reply)]) ∧ DaemonMaps cfg d' ∧
      Moves id [] false c.stopSem d d' ∧ reply.type = .freeSize := by
  obtain ⟨hmaps, hmoves, hheap⟩ := h.received hc msg
  simp only [onRecv, hc, htype, Option.bind_eq_bind, Option.bind_some, sendFreeMemSize, hheap]
  refine ⟨_, _, congrArg some (Prod.ext rfl (sendMessage_updateConn hheap _)), ?_, ?_, rfl⟩
  · exact hmaps.keep (keepsOwners_updateConn _ id (fun _ => rfl) (fun _ => rfl))
  · exact hmoves.after (moves_message hheap (fun _ => rfl) (fun _ => rfl) (fun _ => rfl))

lemma DaemonMaps.onRecv_bindSingle (h : DaemonMaps cfg d) (hc : d.heap id = some c)
    (mr : Nat → MemRegion) {msg : Message} (htype : msg.type = .bindSingle) :
    ∃ d' reply, onRecv cfg mr d id msg = some (d', [(id, reply)]) ∧ DaemonMaps cfg d' ∧
      reply.type = .infoSingle ∧ reply.sizeGb = msg.sizeGb ∧
      ((∃ i < cfg.maxFreeMemGb, ownsSlab d id i = false ∧ Moves id [i] true c.stopSem d d' ∧
          reply.rkey = Function.update (fun _ => 0) i (htonl (mr i).rkey)) ∨
        (∀ i < cfg.maxFreeMemGb, d.freeSlab i = false) ∧ Moves id [] false c.stopSem d d' ∧
          reply.rkey = fun _ => 0) := by
  obtain ⟨hmaps, hmoves, hheap⟩ := h.received hc msg
  obtain ⟨d₁, reply, hsend, hmaps₁, hreply, hsize, hcase⟩ := hmaps.sendSingleMr hheap mr msg.sizeGb
  simp only [onRecv, hc, htype, Option.bind_eq_bind, Option.bind_some, hsend]
  refine ⟨_, reply, rfl, hmaps₁.keep (keepsOwners_setState d₁ c.connIndex (by decide)), hreply,
    hsize, ?_⟩
  rcases hcase with ⟨i, hi, hown, hbind, hkey⟩ | ⟨hnone, hbind, hkey⟩
  · have hall := hmoves.before hbind
    refine .inl ⟨i, hi, ?_, ⟨hall.owns, hall.live, hall.stopSem⟩, hkey⟩
    rw [hmoves.owns, if_neg (fun hk => List.not_mem_nil hk.2)] at hown
    exact hown
  · have hall := hmoves.before hbind
    exact .inr ⟨hnone, ⟨hall.owns, hall.live, hall.stopSem⟩, hkey⟩

lemma DaemonMaps.onRecv_activity (h : DaemonMaps cfg d) (hc : d.heap id = some c)
    (mr : Nat → MemRegion) {msg : Message} (htype : msg.type = .activity) :
    ∃ d', onRecv cfg mr d id msg = some (d', []) ∧ DaemonMaps cfg d' ∧
      Moves id [] false c.stopSem d d' := by
  obtain ⟨hmaps, hmoves, hheap⟩ := h.received hc msg
  simp only [onRecv, hc, htype, Option.bind_eq_bind, Option.bind_some]
  refine ⟨_, rfl, ?_, ?_⟩
  · exact hmaps.keep (keepsOwners_updateConn _ id (fun _ => rfl) (fun _ => rfl))
  · exact hmoves.after (moves_message hheap (fun _ => rfl) (fun _ => rfl) (fun _ => rfl))

lemma DaemonMaps.onRecv_done (h : DaemonMaps cfg d) (hc : d.heap id = some c)
    (mr : Nat → MemRegion) {msg : Message} (htype : msg.type = .done)
    (hown : ∀ i ∈ flaggedSlots cfg msg, ownsSlab d id i = true) :
    ∃ d', onRecv cfg mr d id msg = some (d', []) ∧ DaemonMaps cfg d' ∧
      Moves id (flaggedSlots cfg msg) false (c.stopSem + 1) d d' := by
  obtain ⟨hmaps, hmoves, hheap⟩ := h.received hc msg
  obtain ⟨d', hdone, hmaps', hmoves'⟩ := hmaps.recvDone hheap (by
    intro i hi
    rw [hmoves.owns, if_neg (fun hk => List.not_mem_nil hk.2)]
    exact hown i hi)
  simp only [onRecv, hc, htype, Option.bind_eq_bind, Option.bind_some, hdone, Option.map_some]
  exact ⟨d', rfl, hmaps', hmoves.before hmoves'⟩

end DisStore.Proofs
