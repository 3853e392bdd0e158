import DisStore.Evict
import DisStore.Lib.Count
import DisStore.Lib.Run

/-!
# The daemon's counters agree with its maps

`Books` says that the counters of the session and of each connection count the entries of
the maps next to them, up to a lag: while a handler walks through the maps its counters are
behind by the slabs it has given or taken so far.
-/

namespace DisStore.Proofs
open DisStore DisStore.Lib

/-- The counters are behind the maps by `m` mapped slabs, all of connection `id`, and by `z`
allocated slabs. A connection's own map repeats its part of `conn_map`, and every slab in use
belongs to a connection of the slot table. -/
structure Books (cfg : DaemonConfig) (id : ConnId) (m z : Int) (d : DaemonState) : Prop where
  size : (Nat.count (fun i => d.mallocMap i = true) cfg.maxFreeMemGb : Int) = d.sizeGb + z
  mapped : (Nat.count (fun i => d.connMap i ≠ -1) cfg.maxFreeMemGb : Int) = d.mappedSize + m
  chunk : ∀ k c, d.heap k = some c →
    (Nat.count (fun i => c.sessChunkMap i ≠ -1) cfg.maxFreeMemGb : Int) =
      c.mappedChunkSize + if k = id then m else 0
  owned : ∀ i < cfg.maxFreeMemGb, d.connMap i ≠ -1 → d.mallocMap i = true ∧
    ∃ k c, d.heap k = some c ∧ c.connIndex = d.connMap i
  sess : ∀ k c, d.heap k = some c → ∀ i < cfg.maxFreeMemGb,
    c.sessChunkMap i = if d.connMap i = c.connIndex then (i : Int) else -1
  table : ∀ k c, d.heap k = some c →
    d.conns c.connIndex = some k ∧ 0 ≤ c.connIndex ∧ d.connsState c.connIndex ≠ .idle

variable {cfg : DaemonConfig} {id : ConnId} {m z : Int} {d : DaemonState}

lemma updateConn_heap (d : DaemonState) (id k : ConnId) (f : Connection → Connection) :
    (d.updateConn id f).heap k = if k = id then (d.heap id).map f else d.heap k := by
  by_cases h : k = id
  · subst h
    simp [DaemonState.updateConn]
  · simp [DaemonState.updateConn, h]

lemma updateConn_of_some {d : DaemonState} {k : ConnId} {c : Connection} (id : ConnId)
    (f : Connection → Connection) (h : d.heap k = some c) :
    (d.updateConn id f).heap k = some (if k = id then f c else c) := by
  rw [updateConn_heap]
  by_cases hk : k = id
  · rw [if_pos hk, if_pos hk, ← hk, h]
    rfl
  · rw [if_neg hk, if_neg hk, h]

lemma updateConn_some {d : DaemonState} {id k : ConnId} {f : Connection → Connection}
    {c : Connection} (h : (d.updateConn id f).heap k = some c) :
    ∃ c₀, d.heap k = some c₀ ∧ c = if k = id then f c₀ else c₀ := by
  cases h₀ : d.heap k with
  | none =>
    rw [updateConn_heap] at h
    by_cases hk : k = id
    · subst hk
      simp [h₀] at h
    · simp [hk, h₀] at h
  | some c₀ =>
    rw [updateConn_of_some id f h₀] at h
    exact ⟨c₀, rfl, (Option.some.inj h).symm⟩

lemma updateConn_twice (d : DaemonState) (id : ConnId) (f g : Connection → Connection) :
    (d.updateConn id f).updateConn id g = d.updateConn id (g ∘ f) := by
  simp [DaemonState.updateConn, Option.map_map]

lemma sendMessage_updateConn {d : DaemonState} {id : ConnId} {c : Connection}
    (hc : d.heap id = some c) (f : Connection → Connection) :
    sendMessage (d.updateConn id f) id = [(id, (f c).sendMsg)] := by
  rw [sendMessage, updateConn_heap, if_pos rfl, hc, Option.map_some]

lemma Books.index_inj (h : Books cfg id m z d) {k k' : ConnId} {c c' : Connection}
    (hc : d.heap k = some c) (hc' : d.heap k' = some c') (he : c.connIndex = c'.connIndex) :
    k = k' := by
  have h1 := (h.table k c hc).1
  rw [he, (h.table k' c' hc').1] at h1
  exact (Option.some.inj h1).symm

lemma Books.message (h : Books cfg id m z d) (k : ConnId) {f : Connection → Connection}
    (hi : ∀ c, (f c).connIndex = c.connIndex) (hs : ∀ c, (f c).sessChunkMap = c.sessChunkMap)
    (hm : ∀ c, (f c).mappedChunkSize = c.mappedChunkSize) :
    Books cfg id m z (d.updateConn k f) := by
  have hback : ∀ k' c, (d.updateConn k f).heap k' = some c → ∃ c₀, d.heap k' = some c₀ ∧
      c.connIndex = c₀.connIndex ∧ c.sessChunkMap = c₀.sessChunkMap ∧
      c.mappedChunkSize = c₀.mappedChunkSize := by
    intro k' c hc
    obtain ⟨c₀, h₀, rfl⟩ := updateConn_some hc
    refine ⟨c₀, h₀, ?_⟩
    split
    · exact ⟨hi c₀, hs c₀, hm c₀⟩
    · exact ⟨rfl, rfl, rfl⟩
  constructor
  · exact h.size
  · exact h.mapped
  · intro k' c hc
    obtain ⟨c₀, h₀, -, h2, h3⟩ := hback k' c hc
    simp only [h2, h3]
    exact h.chunk k' c₀ h₀
  · intro i hi' hne
    obtain ⟨hmal, k', c, hheap, hidx⟩ := h.owned i hi' hne
    refine ⟨hmal, k', _, updateConn_of_some k f hheap, ?_⟩
    split
    · rw [hi c]; exact hidx
    · exact hidx
  · intro k' c hc i hi'
    obtain ⟨c₀, h₀, h1, h2, -⟩ := hback k' c hc
    rw [h1, h2]
    exact h.sess k' c₀ h₀ i hi'
  · intro k' c hc
    obtain ⟨c₀, h₀, h1, -, -⟩ := hback k' c hc
    rw [h1]
    exact h.table k' c₀ h₀

lemma Books.setState (h : Books cfg id m z d) (i : Int) {st : ConnState} (hst : st ≠ .idle) :
    Books cfg id m z { d with connsState := Function.update d.connsState i st } := by
  constructor
  · exact h.size
  · exact h.mapped
  · exact h.chunk
  · exact h.owned
  · exact h.sess
  · intro k c hc
    obtain ⟨h1, h2, h3⟩ := h.table k c hc
    refine ⟨h1, h2, ?_⟩
    by_cases he : c.connIndex = i
    · simp [he, hst]
    · simpa [he] using h3

lemma freeSlab_iff (d : DaemonState) (i : Nat) :
    d.freeSlab i = true ↔ d.mallocMap i = true ∧ d.connMap i = -1 := by
  simp [DaemonState.freeSlab]

/-- One entry of `conn_map` and of the owner's map changes together; `v` is what the owner's
map holds afterwards. -/
lemma Books.setOwner (h : Books cfg id m z d) {i : Nat} {c : Connection} {f : Connection → Connection}
    {owner v m' : Int} (hi : i < cfg.maxFreeMemGb) (hc : d.heap id = some c)
    (hidx : ∀ x, (f x).connIndex = x.connIndex)
    (hsize : ∀ x, (f x).mappedChunkSize = x.mappedChunkSize)
    (hmap : ∀ x, (f x).sessChunkMap = Function.update x.sessChunkMap i v)
    (hv : v = if owner = c.connIndex then (i : Int) else -1)
    (hold : d.connMap i = -1 ∨ d.connMap i = c.connIndex)
    (hnew : owner = -1 ∨ owner = c.connIndex ∧ d.mallocMap i = true)
    (hcount : (Nat.count (fun j => Function.update d.connMap i owner j ≠ -1)
      cfg.maxFreeMemGb : Int) = d.mappedSize + m')
    (hcount' : (Nat.count (fun j => Function.update c.sessChunkMap i v j ≠ -1)
      cfg.maxFreeMemGb : Int) = c.mappedChunkSize + m') :
    Books cfg id m' z
      { d.updateConn id f with connMap := Function.update d.connMap i owner } := by
  have hother : ∀ k c₀, d.heap k = some c₀ → k ≠ id → owner ≠ c₀.connIndex ∧
      d.connMap i ≠ c₀.connIndex := by
    intro k c₀ h₀ hk
    have hne : c₀.connIndex ≠ c.connIndex := fun he => hk (h.index_inj h₀ hc he)
    have hpos := (h.table k c₀ h₀).2.1
    omega
  constructor
  · exact h.size
  · exact hcount
  · intro k c' hk
    obtain ⟨c₀, h₀, rfl⟩ := updateConn_some hk
    by_cases hkid : k = id
    · subst hkid
      have hcc : c₀ = c := Option.some.inj (h₀.symm.trans hc)
      subst hcc
      simp only [if_true, hmap, hsize]
      exact hcount'
    · simpa [hkid] using h.chunk k c₀ h₀
  · intro j hj hne
    by_cases hji : j = i
    · subst hji
      simp only [Function.update_self] at hne ⊢
      rcases hnew with hn | ⟨hn, hmal⟩
      · exact (hne hn).elim
      · refine ⟨hmal, id, _, updateConn_of_some id f hc, ?_⟩
        rw [if_pos rfl, hidx, hn]
    · simp only [Function.update_of_ne hji] at hne ⊢
      obtain ⟨hmal, k, c₀, h₀, he⟩ := h.owned j hj hne
      refine ⟨hmal, k, _, updateConn_of_some id f h₀, ?_⟩
      split
      · rw [hidx]; exact he
      · exact he
  · intro k c' hk j hj
    obtain ⟨c₀, h₀, rfl⟩ := updateConn_some hk
    have hs := h.sess k c₀ h₀ j hj
    by_cases hkid : k = id
    · subst hkid
      have hcc : c₀ = c := Option.some.inj (h₀.symm.trans hc)
      subst hcc
      simp only [if_true, hmap, hidx]
      by_cases hji : j = i
      · subst hji
        simpa using hv
      · simpa [hji] using hs
    · simp only [hkid, if_false]
      by_cases hji : j = i
      · subst hji
        have hne := hother k c₀ h₀ hkid
        rw [if_neg hne.2] at hs
        rw [hs, Function.update_self, if_neg hne.1]
      · rw [Function.update_of_ne hji]
        exact hs
  · intro k c' hk
    obtain ⟨c₀, h₀, rfl⟩ := updateConn_some hk
    have ht := h.table k c₀ h₀
    split
    · rw [hidx]; exact ht
    · exact ht

lemma Books.bindSlab (h : Books cfg id m z d) (mr : Nat → MemRegion) {i : Nat} {c : Connection}
    (hi : i < cfg.maxFreeMemGb) (hc : d.heap id = some c) (hfree : d.freeSlab i = true) :
    Books cfg id (m + 1) z (bindSlab d id c.connIndex mr i) := by
  obtain ⟨hmal, hmap⟩ := (freeSlab_iff d i).mp hfree
  have hpos := (h.table id c hc).2.1
  have hsess : c.sessChunkMap i = -1 := by
    rw [h.sess id c hc i hi, if_neg (by omega)]
  have h1 := count_insert (p := fun j => d.connMap j ≠ -1)
    (q := fun j => Function.update d.connMap i c.connIndex j ≠ -1) hi (by simp [hmap])
    (by simp; omega) (fun j _ hne => by simp [hne])
  have h2 := count_insert (p := fun j => c.sessChunkMap j ≠ -1)
    (q := fun j => Function.update c.sessChunkMap i (i : Int) j ≠ -1) hi (by simp [hsess])
    (by simp) (fun j _ hne => by simp [hne])
  have hm1 := h.mapped
  have hm2 := h.chunk id c hc
  rw [if_pos rfl] at hm2
  refine h.setOwner (v := (i : Int)) hi hc (fun _ => rfl) (fun _ => rfl) (fun _ => rfl)
    (by rw [if_pos rfl]) (.inl hmap) (.inr ⟨rfl, hmal⟩) ?_ ?_
  · rw [h1]
    push_cast
    omega
  · rw [h2]
    push_cast
    omega

lemma Books.unbindSlab (h : Books cfg id m z d) {i : Nat} {c : Connection}
    (hi : i < cfg.maxFreeMemGb) (hc : d.heap id = some c) (hsess : c.sessChunkMap i ≠ -1) :
    Books cfg id (m - 1) z
      { d.updateConn id (fun c =>
          { c with sessChunkMap := Function.update c.sessChunkMap i (-1) }) with
        connMap := Function.update d.connMap i (-1) } := by
  have hpos := (h.table id c hc).2.1
  have hmap : d.connMap i = c.connIndex := by
    by_contra hne
    rw [h.sess id c hc i hi, if_neg hne] at hsess
    exact hsess rfl
  have h1 := count_insert (p := fun j => Function.update d.connMap i (-1) j ≠ -1)
    (q := fun j => d.connMap j ≠ -1) hi (by simp) (by omega) (fun j _ hne => by simp [hne])
  have h2 := count_insert (p := fun j => Function.update c.sessChunkMap i (-1) j ≠ -1)
    (q := fun j => c.sessChunkMap j ≠ -1) hi (by simp) hsess (fun j _ hne => by simp [hne])
  have hm1 := h.mapped
  have hm2 := h.chunk id c hc
  rw [if_pos rfl] at hm2
  refine h.setOwner (v := -1) hi hc (fun _ => rfl) (fun _ => rfl) (fun _ => rfl)
    (by rw [if_neg (by omega)]) (.inr hmap) (.inl rfl) ?_ ?_
  · omega
  · omega

lemma Books.release (h : Books cfg id m z d) {i : Nat} (hi : i < cfg.maxFreeMemGb)
    (hfree : d.freeSlab i = true) : Books cfg id m (z - 1) (releaseSlab d i) := by
  obtain ⟨hmal, hmap⟩ := (freeSlab_iff d i).mp hfree
  have h1 := count_insert (p := fun j => Function.update d.mallocMap i false j = true)
    (q := fun j => d.mallocMap j = true) hi (by simp) hmal (fun j _ hne => by simp [hne])
  have hs := h.size
  constructor
  · change (Nat.count (fun j => Function.update d.mallocMap i false j = true) _ : Int) = _
    simp only [releaseSlab]
    omega
  · exact h.mapped
  · exact h.chunk
  · intro j hj hne
    have hji : j ≠ i := fun he => hne (he ▸ hmap)
    obtain ⟨hj', hrest⟩ := h.owned j hj hne
    refine ⟨?_, hrest⟩
    simpa [releaseSlab, hji] using hj'
  · exact h.sess
  · exact h.table

lemma Books.allocate (h : Books cfg id m z d) {i : Nat} (hi : i < cfg.maxFreeMemGb)
    (hfree : d.mallocMap i = false) : Books cfg id m (z + 1) (allocateSlab d i) := by
  have h1 := count_insert (p := fun j => d.mallocMap j = true)
    (q := fun j => Function.update d.mallocMap i true j = true) hi (by simp [hfree]) (by simp)
    (fun j _ hne => by simp [hne])
  have hs := h.size
  constructor
  · change (Nat.count (fun j => Function.update d.mallocMap i true j = true) _ : Int) = _
    simp only [allocateSlab]
    omega
  · exact h.mapped
  · exact h.chunk
  · intro j hj hne
    obtain ⟨hj', hrest⟩ := h.owned j hj hne
    refine ⟨?_, hrest⟩
    by_cases hji : j = i
    · simp [allocateSlab, hji]
    · simpa [allocateSlab, hji] using hj'
  · exact h.sess
  · exact h.table

lemma Books.rename (h : Books cfg id 0 z d) (id' : ConnId) : Books cfg id' 0 z d := by
  constructor
  · exact h.size
  · exact h.mapped
  · intro k c hc
    have := h.chunk k c hc
    simpa using this
  · exact h.owned
  · exact h.sess
  · exact h.table

lemma Books.settleMapped (h : Books cfg id m z d) {a v : Int} {f : Connection → Connection}
    (hv : v = d.mappedSize + a) (hi : ∀ c, (f c).connIndex = c.connIndex)
    (hs : ∀ c, (f c).sessChunkMap = c.sessChunkMap)
    (hm : ∀ c, (f c).mappedChunkSize = c.mappedChunkSize + a) :
    Books cfg id (m - a) z ({ d with mappedSize := v }.updateConn id f) := by
  constructor
  · exact h.size
  · have := h.mapped
    change (Nat.count (fun i => d.connMap i ≠ -1) _ : Int) = v + (m - a)
    omega
  · intro k c hc
    obtain ⟨c₀, h₀, rfl⟩ := updateConn_some hc
    have := h.chunk k c₀ h₀
    by_cases hk : k = id
    · simp only [hk, if_true, hs, hm] at this ⊢
      omega
    · simpa [hk] using this
  · intro i hi' hne
    obtain ⟨hmal, k, c, hheap, hidx⟩ := h.owned i hi' hne
    refine ⟨hmal, k, _, updateConn_of_some id f hheap, ?_⟩
    split
    · rw [hi c]; exact hidx
    · exact hidx
  · intro k c hc
    obtain ⟨c₀, h₀, rfl⟩ := updateConn_some hc
    have := h.sess k c₀ h₀
    split
    · rw [hi, hs]; exact this
    · exact this
  · intro k c hc
    obtain ⟨c₀, h₀, rfl⟩ := updateConn_some hc
    have := h.table k c₀ h₀
    split
    · rw [hi]; exact this
    · exact this

lemma Books.settleSize (h : Books cfg id m z d) {b v : Int} (hv : v = d.sizeGb + b) :
    Books cfg id m (z - b) { d with sizeGb := v } := by
  constructor
  · have := h.size
    change (Nat.count (fun i => d.mallocMap i = true) _ : Int) = v + (z - b)
    omega
  · exact h.mapped
  · exact h.chunk
  · exact h.owned
  · exact h.sess
  · exact h.table

/-- The number of allocated slabs that no connection uses. -/
def freeSlabs (cfg : DaemonConfig) (d : DaemonState) : Nat :=
  (List.range cfg.maxFreeMemGb).countP d.freeSlab

/-- The first `n` free slabs, in the order of the loops over the table. -/
def firstFree (cfg : DaemonConfig) (d : DaemonState) (n : Nat) : List Nat :=
  ((List.range cfg.maxFreeMemGb).filter d.freeSlab).take n

lemma firstFree_nodup (cfg : DaemonConfig) (d : DaemonState) (n : Nat) :
    (firstFree cfg d n).Nodup :=
  (List.take_sublist _ _).nodup (List.nodup_range.filter _)

lemma mem_firstFree {n i : Nat} (h : i ∈ firstFree cfg d n) :
    i < cfg.maxFreeMemGb ∧ d.freeSlab i = true := by
  have hmem := List.mem_filter.mp (List.mem_of_mem_take h)
  exact ⟨List.mem_range.mp hmem.1, hmem.2⟩

lemma firstFree_length {n : Nat} (h : n ≤ freeSlabs cfg d) : (firstFree cfg d n).length = n := by
  rw [freeSlabs, List.countP_eq_length_filter] at h
  rw [firstFree, List.length_take]
  omega

lemma Books.sendMrLoop (h : Books cfg id 0 z d) {c : Connection} (hc : d.heap id = some c)
    (mr : Nat → MemRegion) (size : Int) :
    Books cfg id (takeCount size 0 (freeSlabs cfg d)) z
      (sendMrLoop id c.connIndex mr size (List.range cfg.maxFreeMemGb) d) := by
  have hloop := takeLoop_spec (p := DaemonState.freeSlab)
    (f := fun d i => DisStore.bindSlab d id c.connIndex mr i) (t := size)
    (I := fun j d => Books cfg id j z d ∧ ∃ c', d.heap id = some c' ∧ c'.connIndex = c.connIndex)
    (List.range cfg.maxFreeMemGb) 0 d List.nodup_range ⟨h, c, hc, rfl⟩ ?_ ?_
  · obtain ⟨⟨hb, -⟩, hcount⟩ := hloop
    rw [hcount] at hb
    exact hb
  · intro j d' i hi ⟨hb, c', hc', he⟩ hfree
    have hnext := hb.bindSlab mr (List.mem_range.mp hi) hc' hfree
    rw [he] at hnext
    refine ⟨hnext, _, updateConn_of_some id _ hc', ?_⟩
    rw [if_pos rfl, he]
  · intro d' i k hk
    simp [DaemonState.freeSlab, DisStore.bindSlab, DaemonState.updateConn, hk]

/-- A BIND of this size is answered with as many slabs as it asks for. -/
def bindFits (cfg : DaemonConfig) (d : DaemonState) (size : Int) : Prop :=
  size = freeSlabs cfg d ∨ 1 ≤ size ∧ size ≤ freeSlabs cfg d

lemma takeCount_of_bindFits {size : Int} (h : bindFits cfg d size) :
    takeCount size 0 (freeSlabs cfg d) = size := by
  unfold takeCount bindFits at *
  split <;> omega

lemma Books.sendMr (h : Books cfg id 0 0 d) {mr : Nat → MemRegion} {size : Int}
    {r : DaemonState × Outbox} (hfit : bindFits cfg d size)
    (hr : DisStore.sendMr cfg mr d id size = some r) : Books cfg id 0 0 r.1 := by
  simp only [DisStore.sendMr, Option.bind_eq_bind, Option.bind_eq_some_iff] at hr
  obtain ⟨c, hc, hr⟩ := hr
  rw [← Option.some.inj hr]
  have h1 := h.message id (f := fun c =>
    { c with sendMsg := { c.sendMsg with sizeGb := size, rkey := fun _ => 0 } })
    (fun _ => rfl) (fun _ => rfl) (fun _ => rfl)
  have hc1 := updateConn_of_some id (fun c =>
    { c with sendMsg := { c.sendMsg with sizeGb := size, rkey := fun _ => 0 } }) hc
  rw [if_pos rfl] at hc1
  have h2 := h1.sendMrLoop hc1 mr size
  have hcount : takeCount size 0 (freeSlabs cfg (d.updateConn id fun c =>
    { c with sendMsg := { c.sendMsg with sizeGb := size, rkey := fun _ => 0 } })) = size :=
    takeCount_of_bindFits hfit
  rw [hcount] at h2
  have h3 := h2.settleMapped (a := size) (v := _) (f := fun c =>
    { c with
      mappedChunkSize := c.mappedChunkSize + size
      sendMsg := { c.sendMsg with type := .info } }) rfl (fun _ => rfl) (fun _ => rfl)
    (fun _ => rfl)
  rw [sub_self] at h3
  exact h3

lemma exists_freeSlab (cfg : DaemonConfig) (d : DaemonState) (h : 0 < freeSlabs cfg d) :
    ∃ i, (List.range cfg.maxFreeMemGb).find? d.freeSlab = some i ∧ i < cfg.maxFreeMemGb ∧
      d.freeSlab i = true := by
  obtain ⟨i, hi, hp⟩ := List.countP_pos_iff.mp h
  cases hf : (List.range cfg.maxFreeMemGb).find? d.freeSlab with
  | none => exact absurd hp (List.find?_eq_none.mp hf i hi)
  | some j =>
    refine ⟨j, rfl, ?_, List.find?_some hf⟩
    exact List.mem_range.mp (List.mem_of_find?_eq_some hf)

lemma Books.sendSingleMr (h : Books cfg id 0 0 d) {mr : Nat → MemRegion} {chunk : Int}
    {r : DaemonState × Outbox} (hfree : 0 < freeSlabs cfg d)
    (hr : DisStore.sendSingleMr cfg mr d id chunk = some r) : Books cfg id 0 0 r.1 := by
  simp only [DisStore.sendSingleMr, Option.bind_eq_bind, Option.bind_eq_some_iff] at hr
  obtain ⟨c, hc, hr⟩ := hr
  rw [← Option.some.inj hr]
  have h1 := h.message id (f := fun c =>
    { c with sendMsg := { c.sendMsg with sizeGb := chunk, rkey := fun _ => 0 } })
    (fun _ => rfl) (fun _ => rfl) (fun _ => rfl)
  have hc1 := updateConn_of_some id (fun c =>
    { c with sendMsg := { c.sendMsg with sizeGb := chunk, rkey := fun _ => 0 } }) hc
  rw [if_pos rfl] at hc1
  obtain ⟨i, hfind, hi, hslab⟩ := exists_freeSlab cfg (d.updateConn id fun c =>
    { c with sendMsg := { c.sendMsg with sizeGb := chunk, rkey := fun _ => 0 } }) hfree
  have h2 := h1.bindSlab mr hi hc1 hslab
  have h3 := h2.settleMapped (a := 1) (v := _) (f := fun c =>
    { c with
      mappedChunkSize := c.mappedChunkSize + 1
      sendMsg := { c.sendMsg with type := .infoSingle } }) rfl (fun _ => rfl) (fun _ => rfl)
    (fun _ => rfl)
  rw [zero_add, sub_self] at h3
  simp only [hfind]
  exact h3

lemma Books.recvDoneSlot (h : Books cfg id m z d) {i : Nat} {c : Connection}
    (hi : i < cfg.maxFreeMemGb) (hc : d.heap id = some c) (hsess : c.sessChunkMap i ≠ -1) :
    ∃ d', DisStore.recvDoneSlot d id i = some d' ∧ Books cfg id (m - 1) (z - 1) d' ∧
      d'.heap id = some { c with sessChunkMap := Function.update c.sessChunkMap i (-1) } := by
  have hmap : d.connMap i = c.connIndex := by
    by_contra hne
    rw [h.sess id c hc i hi, if_neg hne] at hsess
    exact hsess rfl
  have hidx : c.sessChunkMap i = i := by rw [h.sess id c hc i hi, if_pos hmap]
  have hpos := (h.table id c hc).2.1
  have hmal := (h.owned i hi (by omega)).1
  have hbooks := (h.unbindSlab hi hc hsess).release (i := i) hi (by
    simpa [DaemonState.freeSlab, DaemonState.updateConn] using hmal)
  refine ⟨_, ?_, hbooks, ?_⟩
  · simp [DisStore.recvDoneSlot, hc, hidx, releaseSlab, DaemonState.updateConn]
  · have hheap := updateConn_of_some id
      (fun c => { c with sessChunkMap := Function.update c.sessChunkMap i (-1) }) hc
    rw [if_pos rfl] at hheap
    exact hheap

lemma Books.recvDoneSlots (is : List Nat) (h : Books cfg id m z d) {c : Connection}
    (hc : d.heap id = some c) (hnodup : is.Nodup)
    (his : ∀ i ∈ is, i < cfg.maxFreeMemGb ∧ c.sessChunkMap i ≠ -1) :
    ∃ d' sess, is.foldlM (fun d i => DisStore.recvDoneSlot d id i) d = some d' ∧
      Books cfg id (m - is.length) (z - is.length) d' ∧
      d'.heap id = some { c with sessChunkMap := sess } := by
  induction is generalizing m z d c with
  | nil =>
    refine ⟨d, c.sessChunkMap, rfl, ?_, hc⟩
    simpa using h
  | cons i is ih =>
    obtain ⟨hni, hnd⟩ := List.nodup_cons.mp hnodup
    obtain ⟨hi, hsess⟩ := his i List.mem_cons_self
    obtain ⟨d₁, hstep, hbooks, hheap⟩ := h.recvDoneSlot hi hc hsess
    have hrest : ∀ j ∈ is, j < cfg.maxFreeMemGb ∧
        Function.update c.sessChunkMap i (-1) j ≠ -1 := by
      intro j hj
      have hne : j ≠ i := fun he => hni (he ▸ hj)
      rw [Function.update_of_ne hne]
      exact his j (List.mem_cons_of_mem _ hj)
    obtain ⟨d', sess, hfold, hb', hh'⟩ := ih hbooks hheap hnd hrest
    refine ⟨d', sess, ?_, ?_, hh'⟩
    · simp only [List.foldlM_cons, hstep, Option.bind_eq_bind, Option.bind_some]
      exact hfold
    · convert hb' using 1 <;> push_cast [List.length_cons] <;> ring

/-- The received DONE flags exactly as many slabs as it says, all of them the sender's. -/
def doneFits (cfg : DaemonConfig) (conn : Connection) (msg : Message) : Prop :=
  msg.sizeGb = (flaggedSlots cfg msg).length ∧
    ∀ i ∈ flaggedSlots cfg msg, conn.sessChunkMap i ≠ -1

lemma Books.recvDone (h : Books cfg id 0 0 d) {c : Connection} (hc : d.heap id = some c)
    (hfits : doneFits cfg c c.recvMsg) :
    ∃ d', DisStore.recvDone cfg d id = some d' ∧ Books cfg id 0 0 d' := by
  obtain ⟨hsize, hown⟩ := hfits
  have hnodup : (flaggedSlots cfg c.recvMsg).Nodup := List.nodup_range.filter _
  have his : ∀ i ∈ flaggedSlots cfg c.recvMsg,
      i < cfg.maxFreeMemGb ∧ c.sessChunkMap i ≠ -1 := by
    intro i hi
    exact ⟨List.mem_range.mp (List.mem_of_mem_filter hi), hown i hi⟩
  obtain ⟨d₁, sess, hfold, hb, hh⟩ := h.recvDoneSlots _ hc hnodup his
  rw [← hsize, zero_sub] at hb
  have h1 := hb.settleSize (b := -c.recvMsg.sizeGb) (v := d₁.sizeGb - c.recvMsg.sizeGb) rfl
  have h2 := h1.settleMapped (a := -c.recvMsg.sizeGb) (v := d₁.mappedSize - c.recvMsg.sizeGb)
    (f := fun x => { x with
      mappedChunkSize := x.mappedChunkSize - c.recvMsg.sizeGb, stopSem := x.stopSem + 1 })
    rfl (fun _ => rfl) (fun _ => rfl) (fun _ => rfl)
  rw [sub_self] at h2
  simp only [DisStore.recvDone, hc, hfold, Option.bind_eq_bind, Option.bind_some]
  split
  · exact ⟨_, rfl, h2.setState c.connIndex (by decide)⟩
  · exact ⟨_, rfl, h2⟩

lemma Books.buildConnection (h : Books cfg id 0 0 d) {junkIndex : Int} {junkMsg : Message}
    {slot : Nat} (hid : d.heap id = none) (hslot : firstIdleSlot cfg d = some slot) :
    Books cfg id 0 0 (DisStore.buildConnection cfg d id junkIndex junkMsg) := by
  have hidle : d.connsState slot = .idle := by
    simpa using List.find?_some hslot
  have hnone : ∀ k c, d.heap k = some c → c.connIndex ≠ slot := by
    intro k c hc he
    exact (h.table k c hc).2.2 (he ▸ hidle)
  have hunused : ∀ j < cfg.maxFreeMemGb, d.connMap j ≠ slot := by
    intro j hj he
    obtain ⟨-, k, c, hc, hidx⟩ := h.owned j hj (by omega)
    exact hnone k c hc (hidx.trans he)
  have hold : ∀ k c, d.heap k = some c → k ≠ id := by
    intro k c hc he
    rw [he, hid] at hc
    cases hc
  unfold DisStore.buildConnection
  rw [hslot]
  constructor
  · exact h.size
  · exact h.mapped
  · intro k c hc
    by_cases hk : k = id
    · subst hk
      simp only [Function.update_self, Option.some.injEq] at hc
      subst hc
      simp
    · simp only [Function.update_of_ne hk] at hc
      exact h.chunk k c hc
  · intro j hj hne
    obtain ⟨hmal, k, c, hc, hidx⟩ := h.owned j hj hne
    refine ⟨hmal, k, c, ?_, hidx⟩
    simp only [Function.update_of_ne (hold k c hc)]
    exact hc
  · intro k c hc j hj
    by_cases hk : k = id
    · subst hk
      simp only [Function.update_self, Option.some.injEq] at hc
      subst hc
      simp [hunused j hj]
    · simp only [Function.update_of_ne hk] at hc
      exact h.sess k c hc j hj
  · intro k c hc
    by_cases hk : k = id
    · subst hk
      simp only [Function.update_self, Option.some.injEq] at hc
      subst hc
      simp
    · simp only [Function.update_of_ne hk] at hc
      have ht := h.table k c hc
      simp only [Function.update_of_ne (hnone k c hc)]
      exact ht

lemma destroyed_connMap {c : Connection}
    (hsess : ∀ i < cfg.maxFreeMemGb,
      c.sessChunkMap i = if d.connMap i = c.connIndex then (i : Int) else -1)
    {j : Nat} (hj : j < cfg.maxFreeMemGb) :
    ((List.range cfg.maxFreeMemGb).any fun k => decide (c.sessChunkMap k = j)) =
      decide (d.connMap j = c.connIndex) := by
  rw [Bool.eq_iff_iff]
  simp only [List.any_eq_true, List.mem_range, decide_eq_true_eq]
  constructor
  · rintro ⟨k, hk, he⟩
    have hs := hsess k hk
    split at hs
    · have hkj : k = j := by omega
      rw [← hkj]
      assumption
    · omega
  · intro he
    refine ⟨j, hj, ?_⟩
    rw [hsess j hj, if_pos he]

lemma Books.destroyConnection_eq (h : Books cfg id 0 0 d) {c : Connection} {d' : DaemonState}
    (hc : d.heap id = some c) (hd : destroyConnection cfg d id = some d') :
    d'.mallocMap = d.mallocMap ∧ d'.sizeGb = d.sizeGb ∧
      d'.mappedSize = d.mappedSize - c.mappedChunkSize ∧
      d'.heap = Function.update d.heap id none ∧
      d'.conns = Function.update d.conns c.connIndex none ∧
      d'.connsState = Function.update d.connsState c.connIndex .idle ∧
      ∀ j < cfg.maxFreeMemGb, d'.connMap j =
        if d.connMap j = c.connIndex then -1 else d.connMap j := by
  have hchunk := h.chunk id c hc
  simp only [if_true, add_zero] at hchunk
  simp only [destroyConnection, hc, Option.bind_eq_bind, Option.bind_some,
    Option.some.injEq] at hd
  subst hd
  by_cases hpos : c.mappedChunkSize > 0
  · rw [if_pos hpos]
    refine ⟨rfl, rfl, rfl, rfl, rfl, rfl, fun j hj => ?_⟩
    dsimp only
    rw [destroyed_connMap (h.sess id c hc) hj]
    simp
  · rw [if_neg hpos]
    have hzero : Nat.count (fun i => c.sessChunkMap i ≠ -1) cfg.maxFreeMemGb = 0 := by omega
    refine ⟨rfl, rfl, by dsimp only; omega, rfl, rfl, rfl, fun j hj => ?_⟩
    have hnot : d.connMap j ≠ c.connIndex := by
      intro he
      have hsess : c.sessChunkMap j ≠ -1 := by
        rw [h.sess id c hc j hj, if_pos he]
        omega
      exact (Nat.count_ne_iff_exists (p := fun i => c.sessChunkMap i ≠ -1)).mpr
        ⟨j, hj, hsess⟩ hzero
    rw [if_neg hnot]

lemma Books.destroyConnection (h : Books cfg id 0 0 d) {d' : DaemonState}
    (hd : DisStore.destroyConnection cfg d id = some d') : Books cfg id 0 0 d' := by
  cases hc : d.heap id with
  | none => simp [DisStore.destroyConnection, hc] at hd
  | some c =>
    obtain ⟨hmal, hsize, hmsize, hheap, hconns, hstate, hmap⟩ := h.destroyConnection_eq hc hd
    have hpos := (h.table id c hc).2.1
    -- the connections that stay are the ones of other slots
    have hstay : ∀ k c', d'.heap k = some c' →
        k ≠ id ∧ d.heap k = some c' ∧ c'.connIndex ≠ c.connIndex := by
      intro k c' hc'
      rw [hheap] at hc'
      have hk : k ≠ id := by
        intro he
        simp [he] at hc'
      rw [Function.update_of_ne hk] at hc'
      exact ⟨hk, hc', fun he => hk (h.index_inj hc' hc he)⟩
    constructor
    · rw [hmal, hsize]
      exact h.size
    · have hsplit := count_split (p := fun j => d.connMap j ≠ -1)
        (q := fun j => d'.connMap j ≠ -1) (r := fun j => c.sessChunkMap j ≠ -1)
        (n := cfg.maxFreeMemGb) ?_ ?_
      · have hm := h.mapped
        have hk := h.chunk id c hc
        rw [if_pos rfl] at hk
        omega
      · intro j hj
        rw [hmap j hj, h.sess id c hc j hj]
        split <;> omega
      · intro j hj
        rw [hmap j hj, h.sess id c hc j hj]
        split <;> omega
    · intro k c' hc'
      obtain ⟨hk, h₀, -⟩ := hstay k c' hc'
      exact h.chunk k c' h₀
    · intro j hj hne
      rw [hmap j hj] at hne ⊢
      rw [hmal]
      split at hne
      · exact (hne rfl).elim
      · rename_i hother
        rw [if_neg hother]
        obtain ⟨hj', k, c', hc', hidx⟩ := h.owned j hj hne
        refine ⟨hj', k, c', ?_, hidx⟩
        have hk : k ≠ id := by
          intro he
          rw [he, hc] at hc'
          exact hother (by rw [← hidx, Option.some.inj hc'])
        rw [hheap, Function.update_of_ne hk]
        exact hc'
    · intro k c' hc' j hj
      obtain ⟨-, h₀, hidx⟩ := hstay k c' hc'
      rw [h.sess k c' h₀ j hj, hmap j hj]
      have hpos' := (h.table k c' h₀).2.1
      by_cases hj' : d.connMap j = c.connIndex
      · rw [if_pos hj', if_neg (by omega), if_neg (by omega)]
      · rw [if_neg hj']
    · intro k c' hc'
      obtain ⟨-, h₀, hidx⟩ := hstay k c' hc'
      rw [hconns, hstate, Function.update_of_ne hidx, Function.update_of_ne hidx]
      exact h.table k c' h₀

lemma Books.freeUnmapped (h : Books cfg id 0 0 d) {stopG : Int} (hstop : 0 < stopG) :
    Books cfg id 0 0 (DisStore.freeUnmapped cfg d stopG).1 := by
  obtain ⟨hb, -⟩ := takeLoop_spec (p := DaemonState.freeSlab) (f := releaseSlab) (t := stopG)
    (I := fun j d' => Books cfg id 0 (-j) d' ∧ d'.sizeGb = d.sizeGb)
    (List.range cfg.maxFreeMemGb) 0 d List.nodup_range ⟨h, rfl⟩ (by
      intro j d' i hi ⟨hb, hs⟩ hfree
      refine ⟨?_, hs⟩
      have hnext := hb.release (List.mem_range.mp hi) hfree
      rwa [show -j - 1 = -(j + 1) by ring] at hnext) (by
      intro d' i k hk
      change (Function.update d'.mallocMap i false k && _) = _
      rw [Function.update_of_ne hk]
      rfl)
  have hearly := takeLoop_early (p := DaemonState.freeSlab) (f := releaseSlab)
    (List.range cfg.maxFreeMemGb) 0 d hstop
  revert hb hearly
  unfold DisStore.freeUnmapped
  rcases takeLoop DaemonState.freeSlab releaseSlab stopG (List.range cfg.maxFreeMemGb) 0 d with
    ⟨d', j, _ | _⟩
  · intro ⟨hb, hs⟩ _
    have := hb.settleSize (b := -j) (v := d'.sizeGb - j) rfl
    rwa [sub_self] at this
  · intro ⟨hb, hs⟩ hearly
    have hj : j = stopG := hearly.mp rfl
    subst hj
    have := hb.settleSize (b := -j) (v := d'.sizeGb - j) rfl
    rwa [sub_self] at this

lemma Books.count_empty (h : Books cfg id 0 0 d) :
    ((List.range cfg.maxFreeMemGb).countP fun i => !d.mallocMap i : Int) =
      cfg.maxFreeMemGb - d.sizeGb := by
  have hsize := h.size
  have hsplit := count_split (p := fun _ => True) (q := fun i => d.mallocMap i = true)
    (r := fun i => (!d.mallocMap i) = true) (n := cfg.maxFreeMemGb)
    (fun j _ => by cases d.mallocMap j <;> simp) (fun j _ => by cases d.mallocMap j <;> simp)
  rw [Nat.count_true, count_eq_countP fun i => !d.mallocMap i] at hsplit
  omega

/-- The expansion branch of `free_mem`: the clamp to `MAX_FREE_MEM_GB` makes sure that there
are enough empty slabs. -/
lemma Books.expandMem (h : Books cfg id 0 0 d) {lastFreeMemG : Int}
    (hlast : lastFreeMemG > cfg.freeMemExpandThreshold) :
    Books cfg id 0 0 (DisStore.expandMem cfg d lastFreeMemG) := by
  unfold DisStore.expandMem
  set e : Int := if lastFreeMemG - cfg.freeMemExpandThreshold + d.sizeGb > cfg.maxFreeMemGb then
    cfg.maxFreeMemGb - d.sizeGb else lastFreeMemG - cfg.freeMemExpandThreshold with he
  have hempty := h.count_empty
  obtain ⟨⟨hb, hs⟩, hcount⟩ := takeLoop_spec (p := fun d i => !d.mallocMap i) (f := allocateSlab)
    (t := e) (I := fun j d' => Books cfg id 0 j d' ∧ d'.sizeGb = d.sizeGb)
    (List.range cfg.maxFreeMemGb) 0 d List.nodup_range ⟨h, rfl⟩ (by
      intro j d' i hi ⟨hb, hs⟩ hfree
      exact ⟨hb.allocate (List.mem_range.mp hi) (by simpa using hfree), hs⟩) (by
      intro d' i k hk
      simp [allocateSlab, hk])
  have htake : takeCount e 0 ((List.range cfg.maxFreeMemGb).countP fun i => !d.mallocMap i) = e := by
    unfold takeCount
    split <;> split at he <;> omega
  rw [hcount, htake] at hb
  have hnext := hb.settleSize (b := e) rfl
  rwa [sub_self] at hnext

end DisStore.Proofs
