import DisStore.Proofs.ChunkMaps

/-!
# The stack of unmapped chunks

`unmapped_chunk_list` is pushed when chunks are evicted and popped whenever one is bound. The
stack names the unmapped chunks as long as every chunk that `IS_single_chunk_init` binds is
the one on top; it does not look at the list.
-/

namespace DisStore.Proofs
open DisStore DisStore.Lib

/-- The entries up to `free_chunk_index`. -/
def stackOf (s : Session) : List Int :=
  (List.range (s.freeChunkIndex + 1).toNat).map fun (k : Nat) => s.unmappedChunkList k

/-- The stack holds the unmapped chunks that are not pending, each of them once. -/
structure StackInv (capacityG : Nat) (owner : Owner) (pending : List Nat) (t : ChunkTables) :
    Prop where
  low : -1 ≤ t.sess.freeChunkIndex
  nodup : (stackOf t.sess).Nodup
  mem : ∀ x, x ∈ stackOf t.sess ↔
    ∃ s : Nat, x = s ∧ s < capacityG ∧ owner s = none ∧ s ∉ pending

lemma stackOf_forgetChunk {s : Session} (h : -1 ≤ s.freeChunkIndex) (i : Int) :
    stackOf (forgetChunk s i) = stackOf s ++ [i] := by
  have hlen : (s.freeChunkIndex + 1 + 1).toNat = (s.freeChunkIndex + 1).toNat + 1 := by omega
  have htop : ((s.freeChunkIndex + 1).toNat : Int) = s.freeChunkIndex + 1 := by omega
  simp only [stackOf, forgetChunk]
  rw [hlen, List.range_succ, List.map_append, List.map_singleton, htop, Function.update_self]
  congr 1
  apply List.map_congr_left
  intro k hk
  have hlt := List.mem_range.mp hk
  rw [Function.update_of_ne (by omega)]

lemma stackOf_pop {s s' : Session} (hfree : s'.freeChunkIndex = s.freeChunkIndex - 1)
    (hlist : s'.unmappedChunkList = s.unmappedChunkList) (h : 0 ≤ s.freeChunkIndex) :
    stackOf s = stackOf s' ++ [s.unmappedChunkList s.freeChunkIndex] := by
  have hlen : (s.freeChunkIndex + 1).toNat = s.freeChunkIndex.toNat + 1 := by omega
  have htop : (s.freeChunkIndex.toNat : Int) = s.freeChunkIndex := by omega
  simp only [stackOf, hfree, hlist]
  rw [hlen, List.range_succ, List.map_append, List.map_singleton, htop, sub_add_cancel]

lemma stackOf_init (capacityG : Nat) :
    stackOf (sessionCreate capacityG) =
      (List.range capacityG).map fun (k : Nat) => (capacityG : Int) - 1 - k := by
  simp only [stackOf, sessionCreate]
  congr 2
  omega

section StackInv

variable {maxMr capacityG : Nat} {owner : Owner} {pending : List Nat} {t t' : ChunkTables}

lemma stackInv_init (capacityG : Nat) :
    StackInv capacityG (fun _ => none) [] (chunkTablesInit capacityG) := by
  have hstack : stackOf (chunkTablesInit capacityG).sess =
      (List.range capacityG).map fun (k : Nat) => (capacityG : Int) - 1 - k :=
    stackOf_init capacityG
  constructor
  · simp only [chunkTablesInit, sessionCreate]
    omega
  · rw [hstack]
    apply List.Nodup.map _ List.nodup_range
    intro a b hab
    simp only at hab
    omega
  · intro x
    rw [hstack]
    simp only [List.mem_map, List.mem_range, List.not_mem_nil, not_false_eq_true, and_true]
    constructor
    · rintro ⟨k, hk, rfl⟩
      exact ⟨capacityG - 1 - k, by omega, by omega⟩
    · rintro ⟨s, rfl, hs⟩
      exact ⟨capacityG - 1 - s, by omega, by omega⟩

lemma StackInv.congr (h : StackInv capacityG owner pending t)
    (hfree : t'.sess.freeChunkIndex = t.sess.freeChunkIndex)
    (hlist : t'.sess.unmappedChunkList = t.sess.unmappedChunkList) :
    StackInv capacityG owner pending t' := by
  have hstack : stackOf t'.sess = stackOf t.sess := by
    unfold stackOf
    rw [hfree, hlist]
  constructor
  · rw [hfree]
    exact h.low
  · rw [hstack]
    exact h.nodup
  · rw [hstack]
    exact h.mem

lemma StackInv.nonneg (h : StackInv capacityG owner pending t) {s : Nat} (hs : s < capacityG)
    (hnone : owner s = none) (hpend : s ∉ pending) : 0 ≤ t.sess.freeChunkIndex := by
  have hmem := (h.mem s).mpr ⟨s, rfl, hs, hnone, hpend⟩
  by_contra hneg
  have hzero : (t.sess.freeChunkIndex + 1).toNat = 0 := by
    have hlow := h.low
    omega
  rw [stackOf, hzero] at hmem
  simp at hmem

lemma StackInv.bound_to {c i s : Nat} (h : StackInv capacityG owner pending t)
    (hb : BoundTo t t' c i s) (hs : s < capacityG) (hnone : owner s = none)
    (hpend : s ∉ pending) (htop : t.sess.unmappedChunkList t.sess.freeChunkIndex = s) :
    StackInv capacityG (Function.update owner s (some (c, i))) pending t' := by
  have hfree := h.nonneg hs hnone hpend
  have hpop := stackOf_pop hb.free hb.stack hfree
  rw [htop] at hpop
  have hnodup := h.nodup
  rw [hpop, List.nodup_append] at hnodup
  obtain ⟨hrest, -, hdisj⟩ := hnodup
  constructor
  · rw [hb.free]
    omega
  · exact hrest
  · intro x
    have hmem := h.mem x
    rw [hpop, List.mem_append, List.mem_singleton] at hmem
    constructor
    · intro hx
      obtain ⟨s', rfl, hs', hnone', hpend'⟩ := hmem.mp (.inl hx)
      have hne : s' ≠ s := by
        rintro rfl
        exact hdisj _ hx _ (List.mem_singleton.mpr rfl) rfl
      exact ⟨s', rfl, hs', by rw [Function.update_of_ne hne]; exact hnone', hpend'⟩
    · rintro ⟨s', rfl, hs', hnone', hpend'⟩
      have hne : s' ≠ s := by
        rintro rfl
        rw [Function.update_self] at hnone'
        cases hnone'
      rw [Function.update_of_ne hne] at hnone'
      exact (hmem.mpr ⟨s', rfl, hs', hnone', hpend'⟩).resolve_right (by exact_mod_cast hne)

lemma StackInv.forget {s : Nat} (h : StackInv capacityG owner pending t) (hs : s ∈ pending)
    (hlt : s < capacityG) (hnone : owner s = none) {pending' : List Nat}
    (hpend : ∀ x, x ∈ pending' ↔ x ∈ pending ∧ x ≠ s) :
    StackInv capacityG owner pending' { t with sess := forgetChunk t.sess s } := by
  have hpush := stackOf_forgetChunk h.low s
  have hnew : ((s : Nat) : Int) ∉ stackOf t.sess := by
    intro hmem
    obtain ⟨s', heq, -, -, hp⟩ := (h.mem s).mp hmem
    have hss : s' = s := by exact_mod_cast heq.symm
    exact hp (hss ▸ hs)
  constructor
  · have hlow := h.low
    simp only [forgetChunk]
    omega
  · rw [hpush, List.nodup_append]
    refine ⟨h.nodup, List.nodup_singleton _, ?_⟩
    intro a ha b hb hab
    rw [List.mem_singleton] at hb
    exact hnew (hb ▸ hab ▸ ha)
  · intro x
    rw [hpush, List.mem_append, List.mem_singleton, h.mem]
    constructor
    · rintro (⟨s', rfl, hlt', hnone', hp⟩ | rfl)
      · exact ⟨s', rfl, hlt', hnone', fun hm => hp ((hpend s').mp hm).1⟩
      · exact ⟨s, rfl, hlt, hnone, fun hm => ((hpend s).mp hm).2 rfl⟩
    · rintro ⟨s', rfl, hlt', hnone', hp⟩
      by_cases hss : s' = s
      · exact .inr (by rw [hss])
      · exact .inl ⟨s', rfl, hlt', hnone', fun hm => hp ((hpend s').mpr ⟨hm, hss⟩)⟩

/-- A slab is granted for the chunk on top of the stack only. -/
def grantsTop (maxMr capacityG : Nat) (t : ChunkTables) (c : Nat) (msg : Message) : Bool :=
  grantsFree maxMr capacityG t c msg && (decide (grantedSlab maxMr msg = none) ||
    decide (msg.sizeGb = t.sess.unmappedChunkList t.sess.freeChunkIndex))

lemma grantsTop_free {c : Nat} {msg : Message} (h : grantsTop maxMr capacityG t c msg = true) :
    grantsFree maxMr capacityG t c msg = true :=
  (Bool.and_eq_true _ _ ▸ h).1

lemma grantsTop_top {c i : Nat} {msg : Message} (h : grantsTop maxMr capacityG t c msg = true)
    (hg : grantedSlab maxMr msg = some i) :
    t.sess.unmappedChunkList t.sess.freeChunkIndex = msg.sizeGb := by
  simp only [grantsTop, hg, Bool.and_eq_true, Bool.or_eq_true, decide_eq_true_eq,
    reduceCtorEq, false_or] at h
  exact h.2.symm

/-- The tables hold `owner` and the stack its unmapped chunks. -/
def TablesInv (maxMr capacityG : Nat) (owner : Owner) (pending : List Nat) (t : ChunkTables) :
    Prop :=
  Represents maxMr capacityG owner pending t ∧ StackInv capacityG owner pending t

lemma TablesInv.recvInfoSingle {c : Nat} {msg : Message}
    (h : TablesInv maxMr capacityG owner [] t)
    (hallow : grantsTop maxMr capacityG t c msg = true) :
    ∃ owner', TablesInv maxMr capacityG owner' [] (recvInfoSingle maxMr t c msg) := by
  cases hg : grantedSlab maxMr msg with
  | none =>
    have hsame := recvInfoSingle_refused t c hg
    exact ⟨owner, h.1.same hsame, h.2.congr hsame.free hsame.stack⟩
  | some i =>
    have hunused := grantsFree_unused (grantsTop_free hallow) hg
    have htop := grantsTop_top hallow hg
    have hfree := grantsTop_free hallow
    simp only [grantsFree, Bool.and_eq_true, decide_eq_true_eq] at hfree
    obtain ⟨⟨hnonneg, hlt, hindex⟩, -⟩ := hfree
    obtain ⟨s, hs⟩ := Int.eq_ofNat_of_zero_le hnonneg
    have hb := recvInfoSingle_boundTo t c hg
    rw [hs] at hb hlt hindex htop
    have hs' : s < capacityG := by exact_mod_cast hlt
    rw [h.1.index s hs'] at hindex
    have hnone := serverOf_eq_neg_one.mp hindex
    exact ⟨_, h.1.bound_to hb hs' (grantedSlab_lt hg) hnone (by simp) hunused,
      h.2.bound_to hb hs' hnone (by simp) htop⟩

lemma unmapped_iff {c : Nat} {slabs : List Nat} (h : Represents maxMr capacityG owner [] t)
    (hslabs : ∀ i ∈ slabs, i < maxMr) (s : Nat) :
    owner s = none ↔ without owner c slabs s = none ∧ ¬onSlabs t c slabs s = true := by
  rw [h.without_eq hslabs]
  by_cases hon : onSlabs t c slabs s = true
  · obtain ⟨i, -, ho⟩ := (h.onSlabs_iff hslabs s).mp hon
    simp [hon, ho]
  · simp [hon]

/-- The evicted chunks are unmapped and pending, so that the stack is right as it is. -/
lemma StackInv.evictUnmap {c : Nat} {cb : ControlBlock}
    (h : StackInv capacityG owner [] t) (hr : Represents maxMr capacityG owner [] t)
    (hchunk : cb.chunkMap = (t.cbs c).chunkMap) :
    StackInv capacityG (without owner c (markedSlabs maxMr cb))
      (evictedChunks capacityG (markedChunks maxMr cb)) (evictUnmap maxMr c t cb) := by
  have hkeep : StackInv capacityG owner [] (DisStore.evictUnmap maxMr c t cb) := h.congr rfl rfl
  have hon : ∀ x, markedChunks maxMr cb x = onSlabs t c (markedSlabs maxMr cb) x := by
    intro x
    unfold markedChunks onSlabs
    rw [hchunk]
  refine ⟨hkeep.low, hkeep.nodup, fun x => ?_⟩
  rw [hkeep.mem x]
  apply exists_congr
  intro s
  rw [unmapped_iff hr (fun i hi => lt_of_mem_markedSlabs hi) s, mem_evictedChunks, hon]
  simp only [List.not_mem_nil, not_false_eq_true, and_true]
  tauto

lemma stackOf_foldl_forgetChunk (f : Nat → Int) (slabs : List Nat) {s : Session}
    (h : -1 ≤ s.freeChunkIndex) :
    -1 ≤ (slabs.foldl (fun s i => forgetChunk s (f i)) s).freeChunkIndex ∧
      stackOf (slabs.foldl (fun s i => forgetChunk s (f i)) s) = stackOf s ++ slabs.map f := by
  induction slabs generalizing s with
  | nil => simp [h]
  | cons i rest ih =>
    have hlow : -1 ≤ (forgetChunk s (f i)).freeChunkIndex := by
      simp only [forgetChunk]
      omega
    obtain ⟨hl, hs⟩ := ih hlow
    refine ⟨hl, ?_⟩
    rw [List.foldl_cons, hs, stackOf_forgetChunk h, List.append_assoc]
    rfl

lemma StackInv.disconnect {c : Nat} (h : StackInv capacityG owner [] t)
    (hr : Represents maxMr capacityG owner [] t) :
    StackInv capacityG (without owner c (mappedSlabs maxMr (t.cbs c))) []
      (forgetServer maxMr c (disallowChunks maxMr c t)) := by
  have hslabs : mappedSlabs maxMr ((disallowChunks maxMr c t).cbs c) =
      mappedSlabs maxMr (t.cbs c) := by
    simp only [disallowChunks, Function.update_self, mappedSlabs]
  have hmap : ((disallowChunks maxMr c t).cbs c).chunkMap = (t.cbs c).chunkMap := by
    simp only [disallowChunks, Function.update_self]
  obtain ⟨hlow, hstack⟩ := stackOf_foldl_forgetChunk (t.cbs c).chunkMap
    (mappedSlabs maxMr (t.cbs c)) (s := (disallowChunks maxMr c t).sess) h.low
  have hstack' : stackOf (forgetServer maxMr c (disallowChunks maxMr c t)).sess =
      stackOf t.sess ++ (mappedSlabs maxMr (t.cbs c)).map (t.cbs c).chunkMap := by
    rw [← hslabs, ← hmap] at hstack
    rw [← hslabs, ← hmap]
    exact hstack
  have hlt : ∀ i ∈ mappedSlabs maxMr (t.cbs c), i < maxMr := fun i hi => (mem_mappedSlabs.mp hi).1
  -- the chunk of every pushed entry
  have hpushed : ∀ x, x ∈ (mappedSlabs maxMr (t.cbs c)).map (t.cbs c).chunkMap ↔
      ∃ s : Nat, x = s ∧ onSlabs t c (mappedSlabs maxMr (t.cbs c)) s = true := by
    intro x
    simp only [List.mem_map, onSlabs, List.any_eq_true, decide_eq_true_eq]
    constructor
    · rintro ⟨i, hi, rfl⟩
      obtain ⟨s, hs, -⟩ := hr.chunk_ne (hlt i hi) (mem_mappedSlabs.mp hi).2
      exact ⟨s, hs, i, hi, hs⟩
    · rintro ⟨s, rfl, i, hi, hs⟩
      exact ⟨i, hi, hs⟩
  constructor
  · simp only [forgetServer, hslabs, hmap]
    exact hlow
  · rw [hstack', List.nodup_append]
    refine ⟨h.nodup, ?_, ?_⟩
    · apply List.Nodup.map_on _ (List.nodup_range.filter _)
      intro i hi j hj hij
      obtain ⟨s, hs, ho⟩ := hr.chunk_ne (hlt i hi) (mem_mappedSlabs.mp hi).2
      have ho' := hr.owner_of_chunk (hlt j hj) (hij.symm.trans hs)
      rw [ho] at ho'
      exact (Prod.mk.inj (Option.some.inj ho')).2
    · rintro x hx y hy rfl
      obtain ⟨s, rfl, -, hnone, -⟩ := (h.mem x).mp hx
      obtain ⟨s', hs', hon⟩ := (hpushed s).mp hy
      have heq : s' = s := by exact_mod_cast hs'.symm
      exact ((unmapped_iff hr hlt s).mp hnone).2 (heq ▸ hon)
  · intro x
    rw [hstack', List.mem_append, h.mem, hpushed]
    constructor
    · rintro (⟨s, rfl, hs, hnone, -⟩ | ⟨s, rfl, hon⟩)
      · exact ⟨s, rfl, hs, ((unmapped_iff hr hlt s).mp hnone).1, by simp⟩
      · obtain ⟨i, -, ho⟩ := (hr.onSlabs_iff hlt s).mp hon
        refine ⟨s, rfl, (hr.bound s c i ho).1, ?_, by simp⟩
        rw [hr.without_eq hlt, if_pos hon]
    · rintro ⟨s, rfl, hs, hnone, -⟩
      by_cases hon : onSlabs t c (mappedSlabs maxMr (t.cbs c)) s = true
      · exact .inr ⟨s, rfl, hon⟩
      · exact .inl ⟨s, rfl, hs, (unmapped_iff hr hlt s).mpr ⟨hnone, hon⟩, by simp⟩

lemma tablesInv_tableInvariant (maxMr capacityG : Nat) :
    TableInvariant (grantsTop maxMr capacityG) maxMr capacityG (TablesInv maxMr capacityG) where
  represents h := h.1
  same h hs := ⟨h.1.same hs, h.2.congr hs.free hs.stack⟩
  forget h hs hlt hnone hpend := ⟨h.1.forget hs hpend, h.2.forget hs hlt hnone hpend⟩
  mapChunk := by
    intro owner pending t t' s r h hlt hnone hpend hstep
    rcases mapChunk_cases hstep with hsame | ⟨c, i, msg, ha, hsize, hg, hb⟩
    · refine ⟨none, ?_⟩
      rw [← hnone, Function.update_eq_self]
      exact ⟨h.1.same hsame, h.2.congr hsame.free hsame.stack⟩
    · have hunused := grantsFree_unused (grantsTop_free ha) hg
      have htop := grantsTop_top ha hg
      rw [hsize] at htop
      exact ⟨some (c, i), h.1.bound_to hb hlt (grantedSlab_lt hg) hnone hpend hunused,
        h.2.bound_to hb hlt hnone hpend htop⟩
  evictUnmap h hchunk hmapped := ⟨h.1.evictUnmap hchunk hmapped, h.2.evictUnmap h.1 hchunk⟩
  disconnect h := ⟨h.1.disconnect, h.2.disconnect h.1⟩

/-- The chunks that no server has, by the session's own table. -/
def unmappedChunks (capacityG : Nat) (t : ChunkTables) : List Nat :=
  (List.range capacityG).filter fun (s : Nat) => decide (t.sess.cbIndexMap s = -1)

lemma TablesInv.mem_unmappedChunks (h : TablesInv maxMr capacityG owner pending t) {s : Nat} :
    s ∈ unmappedChunks capacityG t ↔ s < capacityG ∧ owner s = none := by
  simp only [unmappedChunks, List.mem_filter, List.mem_range, decide_eq_true_eq]
  constructor
  · rintro ⟨hs, hi⟩
    rw [h.1.index s hs] at hi
    exact ⟨hs, serverOf_eq_neg_one.mp hi⟩
  · rintro ⟨hs, ho⟩
    rw [h.1.index s hs]
    exact ⟨hs, serverOf_eq_neg_one.mpr ho⟩

lemma TablesInv.stack_length (h : TablesInv maxMr capacityG owner [] t) :
    (stackOf t.sess).length = (unmappedChunks capacityG t).length := by
  have hperm : (stackOf t.sess).Perm ((unmappedChunks capacityG t).map fun (s : Nat) => (s : Int)) := by
    rw [List.perm_ext_iff_of_nodup h.2.nodup]
    · intro x
      rw [h.2.mem, List.mem_map]
      constructor
      · rintro ⟨s, rfl, hs, hnone, -⟩
        exact ⟨s, h.mem_unmappedChunks.mpr ⟨hs, hnone⟩, rfl⟩
      · rintro ⟨s, hs, rfl⟩
        obtain ⟨hs, hnone⟩ := h.mem_unmappedChunks.mp hs
        exact ⟨s, rfl, hs, hnone, by simp⟩
    · apply List.Nodup.map _ (List.nodup_range.filter _)
      exact fun a b hab => Int.ofNat.inj hab
  rw [hperm.length_eq, List.length_map]

/-- The tables while `IS_chunk_list_init` runs for server `c`. -/
def tablesWith (t : ChunkTables) (c : Nat) (r : Session × ControlBlock) : ChunkTables :=
  { sess := r.1, cbs := Function.update t.cbs c r.2 }

lemma chunkListEntry_boundTo (t : ChunkTables) (c : Nat) (r : Session × ControlBlock) (i : Nat) :
    BoundTo (tablesWith t c r) (tablesWith t c (chunkListEntry c r i)) c i
      (r.1.unmappedChunkList r.1.freeChunkIndex) := by
  constructor
  · rfl
  · rfl
  · intro c' i'
    by_cases hc : c' = c
    · subst hc
      simp [tablesWith, chunkListEntry, Function.update_apply]
    · simp [tablesWith, hc]
  · intro c' i'
    by_cases hc : c' = c
    · subst hc
      simp [tablesWith, chunkListEntry, Function.update_apply]
    · simp [tablesWith, hc]
  · rfl
  · rfl

lemma TablesInv.chunkListLoop {c : Nat} (slabs : List Nat) {r : Session × ControlBlock}
    (h : TablesInv maxMr capacityG owner [] (tablesWith t c r)) (hnodup : slabs.Nodup)
    (hslabs : ∀ i ∈ slabs, i < maxMr ∧ r.2.chunkMap i = -1)
    (hlen : slabs.length ≤ (stackOf r.1).length) :
    ∃ owner', TablesInv maxMr capacityG owner' []
        (tablesWith t c (slabs.foldl (chunkListEntry c) r)) ∧
      ∀ s p, owner s = some p → owner' s = some p := by
  induction slabs generalizing owner r with
  | nil => exact ⟨owner, h, fun _ _ ho => ho⟩
  | cons i rest ih =>
    obtain ⟨hi, hrest⟩ := List.nodup_cons.mp hnodup
    obtain ⟨hlt, hunused⟩ := hslabs i List.mem_cons_self
    have hb := chunkListEntry_boundTo t c r i
    have hpos : 0 ≤ r.1.freeChunkIndex := by
      simp only [List.length_cons, stackOf, List.length_map, List.length_range] at hlen
      omega
    have hpop := stackOf_pop hb.free hb.stack hpos
    have hmem : r.1.unmappedChunkList r.1.freeChunkIndex ∈ stackOf r.1 := by
      change _ ∈ stackOf (tablesWith t c r).sess
      rw [hpop]
      exact List.mem_append_right _ (List.mem_singleton.mpr rfl)
    obtain ⟨s, hs, hslt, hnone, -⟩ := (h.2.mem _).mp hmem
    rw [hs] at hb
    have hcb : ((tablesWith t c r).cbs c).chunkMap i = -1 := by
      simp only [tablesWith, Function.update_self]
      exact hunused
    have hnext : TablesInv maxMr capacityG (Function.update owner s (some (c, i))) []
        (tablesWith t c (chunkListEntry c r i)) :=
      ⟨h.1.bound_to hb hslt hlt hnone (by simp) hcb, h.2.bound_to hb hslt hnone (by simp) hs⟩
    have hlen' : rest.length ≤ (stackOf (chunkListEntry c r i).1).length := by
      have hl := congrArg List.length hpop
      simp only [List.length_append, List.length_singleton] at hl
      simp only [List.length_cons] at hlen
      change _ = (stackOf (chunkListEntry c r i).1).length + 1 at hl
      change rest.length + 1 ≤ (stackOf (tablesWith t c r).sess).length at hlen
      omega
    have hslabs' : ∀ k ∈ rest, k < maxMr ∧ (chunkListEntry c r i).2.chunkMap k = -1 := by
      intro k hk
      obtain ⟨hklt, hkun⟩ := hslabs k (List.mem_cons_of_mem _ hk)
      have hne : k ≠ i := fun he => hi (he ▸ hk)
      refine ⟨hklt, ?_⟩
      simp only [chunkListEntry]
      rw [Function.update_of_ne hne]
      exact hkun
    obtain ⟨owner', hend, hext⟩ := ih hnext hrest hslabs' hlen'
    refine ⟨owner', hend, fun s' p ho => hext s' p ?_⟩
    have hne : s' ≠ s := by
      rintro rfl
      rw [hnone] at ho
      cases ho
    rw [Function.update_of_ne hne]
    exact ho

/-- The INFO message grants unused slabs, and no more than there are unmapped chunks. -/
def infoFits (maxMr capacityG : Nat) (t : ChunkTables) (c : Nat) (msg : Message) : Prop :=
  (∀ i ∈ grantedSlabs maxMr msg, (t.cbs c).chunkMap i = -1) ∧
    (grantedSlabs maxMr msg).length ≤ (unmappedChunks capacityG t).length

lemma TablesInv.recvInfo {c : Nat} {msg : Message} (h : TablesInv maxMr capacityG owner [] t)
    (hfits : infoFits maxMr capacityG t c msg) :
    ∃ owner', TablesInv maxMr capacityG owner' [] (recvInfo maxMr t c msg) ∧
      ∀ s p, owner s = some p → owner' s = some p := by
  have hinv := tablesInv_tableInvariant maxMr capacityG
  have hstart : TablesInv maxMr capacityG owner [] (tablesWith t c
      ({ t.sess with cbStateList := Function.update t.sess.cbStateList c .mapped },
        { t.cbs c with recvBuf := msg, state := .waitOps })) := by
    refine hinv.same h ⟨rfl, rfl, ?_, ?_, rfl, rfl⟩
    · exact update_field ControlBlock.chunkMap t.cbs rfl
    · exact update_field ControlBlock.remoteMapped t.cbs rfl
  obtain ⟨owner', hloop, hext⟩ := hstart.chunkListLoop (grantedSlabs maxMr msg)
    (List.nodup_range.filter _)
    (fun i hi => ⟨List.mem_range.mp (List.mem_filter.mp hi).1, hfits.1 i hi⟩)
    (hfits.2.trans_eq h.stack_length.symm)
  refine ⟨owner', hinv.same hloop ⟨rfl, rfl, ?_, ?_, rfl, rfl⟩, hext⟩
  · intro c'
    by_cases hc : c' = c
    · subst hc
      simp only [DisStore.recvInfo, tablesWith, Function.update_self]
      rfl
    · simp only [DisStore.recvInfo, tablesWith, Function.update_of_ne hc]
  · intro c'
    by_cases hc : c' = c
    · subst hc
      simp only [DisStore.recvInfo, tablesWith, Function.update_self]
      rfl
    · simp only [DisStore.recvInfo, tablesWith, Function.update_of_ne hc]

end StackInv

/-- The entries of `unmapped_chunk_list` up to `free_chunk_index` are the unmapped chunks. -/
structure StackNamesUnmapped (capacityG : Nat) (t : ChunkTables) : Prop where
  low : -1 ≤ t.sess.freeChunkIndex
  high : t.sess.freeChunkIndex ≤ capacityG - 1
  distinct : ∀ i j : Nat, (i : Int) ≤ t.sess.freeChunkIndex → (j : Int) ≤ t.sess.freeChunkIndex →
    t.sess.unmappedChunkList i = t.sess.unmappedChunkList j → i = j
  exact : ∀ x, (∃ i : Nat, (i : Int) ≤ t.sess.freeChunkIndex ∧ t.sess.unmappedChunkList i = x) ↔
    ∃ s : Nat, x = s ∧ s < capacityG ∧ t.sess.cbIndexMap s = -1

lemma TablesInv.namesUnmapped {maxMr capacityG : Nat} {owner : Owner} {t : ChunkTables}
    (h : TablesInv maxMr capacityG owner [] t) : StackNamesUnmapped capacityG t := by
  have hlow := h.2.low
  have hlen : (stackOf t.sess).length = (t.sess.freeChunkIndex + 1).toNat := by
    simp [stackOf]
  have hget : ∀ (k : Nat) (hk : k < (stackOf t.sess).length),
      (stackOf t.sess).get ⟨k, hk⟩ = t.sess.unmappedChunkList k := by
    intro k hk
    simp [stackOf]
  constructor
  · exact hlow
  · have hcap : (unmappedChunks capacityG t).length ≤ capacityG :=
      (List.length_filter_le _ _).trans_eq List.length_range
    have hstack := h.stack_length
    omega
  · intro i j hi hj hij
    have hil : i < (stackOf t.sess).length := by omega
    have hjl : j < (stackOf t.sess).length := by omega
    rw [← hget i hil, ← hget j hjl] at hij
    exact Fin.mk.inj (List.nodup_iff_injective_get.mp h.2.nodup hij)
  · intro x
    have hmem : x ∈ stackOf t.sess ↔
        ∃ i : Nat, (i : Int) ≤ t.sess.freeChunkIndex ∧ t.sess.unmappedChunkList i = x := by
      simp only [stackOf, List.mem_map, List.mem_range]
      apply exists_congr
      intro i
      rw [show i < (t.sess.freeChunkIndex + 1).toNat ↔ (i : Int) ≤ t.sess.freeChunkIndex by omega]
    rw [← hmem, h.2.mem]
    apply exists_congr
    intro s
    constructor
    · rintro ⟨hx, hs, hnone, -⟩
      rw [h.1.index s hs]
      exact ⟨hx, hs, serverOf_eq_neg_one.mpr hnone⟩
    · rintro ⟨hx, hs, hi⟩
      rw [h.1.index s hs] at hi
      exact ⟨hx, hs, serverOf_eq_neg_one.mp hi, by simp⟩

/-- INFO messages fit the unmapped chunks, and STOP messages flag mapped slabs. -/
def stackOpFits (maxMr capacityG : Nat) (t : ChunkTables) : ChunkOp → Prop
  | .info c msg => infoFits maxMr capacityG t c msg
  | .evict c stop _ => ∀ i ∈ grantedSlabs maxMr stop, (t.cbs c).chunkMap i ≠ -1
  | _ => True

instance (maxMr capacityG : Nat) (t : ChunkTables) (c : Nat) (msg : Message) :
    Decidable (infoFits maxMr capacityG t c msg) :=
  inferInstanceAs (Decidable (_ ∧ _))

instance (maxMr capacityG : Nat) (t : ChunkTables) : DecidablePred (stackOpFits maxMr capacityG t)
  | .bind _ _ => inferInstanceAs (Decidable True)
  | .info c msg => inferInstanceAs (Decidable (infoFits maxMr capacityG t c msg))
  | .evict c stop _ =>
    inferInstanceAs (Decidable (∀ i ∈ grantedSlabs maxMr stop, (t.cbs c).chunkMap i ≠ -1))
  | .disconnect _ _ => inferInstanceAs (Decidable True)

/-- In every run in which INFO_SINGLE messages grant slabs for the chunk on top of the stack,
the stack holds the unmapped chunks, and an INFO message leaves the mapped chunks where they
are. -/
theorem stack_names_unmapped_chunks (maxMr capacityG : Nat) {t : ChunkTables}
    (h : GuardedRun (chunkStep (grantsTop maxMr capacityG) maxMr capacityG)
      (stackOpFits maxMr capacityG) (chunkTablesInit capacityG) t) :
    StackNamesUnmapped capacityG t ∧
      ∀ c msg, infoFits maxMr capacityG t c msg → ∀ s : Nat, s < capacityG →
        t.sess.cbIndexMap s ≠ -1 →
        (recvInfo maxMr t c msg).sess.cbIndexMap s = t.sess.cbIndexMap s ∧
          (recvInfo maxMr t c msg).sess.chunkMapCbChunk s = t.sess.chunkMapCbChunk s := by
  have hinv := tablesInv_tableInvariant maxMr capacityG
  have hrep : ∃ owner, TablesInv maxMr capacityG owner [] t := by
    apply GuardedRun.invariant (P := fun t => ∃ owner, TablesInv maxMr capacityG owner [] t)
      ⟨_, represents_init maxMr capacityG, stackInv_init capacityG⟩ _ h
    rintro t op t' ⟨owner, ht⟩ hok hstep
    cases op with
    | bind c msg =>
      simp only [chunkStep, Option.ite_none_right_eq_some, Option.some.injEq] at hstep
      obtain ⟨hallow, rfl⟩ := hstep
      exact ht.recvInfoSingle hallow
    | info c msg =>
      rw [← Option.some.inj hstep]
      obtain ⟨owner', hinfo, -⟩ := ht.recvInfo hok
      exact ⟨owner', hinfo⟩
    | evict c stop rebind => exact hinv.evictServer ht hstep
    | disconnect c rebind => exact hinv.disconnectServer ht hstep
  obtain ⟨owner, ht⟩ := hrep
  refine ⟨ht.namesUnmapped, fun c msg hfits s hs hne => ?_⟩
  obtain ⟨owner', hinfo, hext⟩ := ht.recvInfo hfits
  rw [hinfo.1.index s hs, hinfo.1.slab s hs (by simp), ht.1.index s hs, ht.1.slab s hs (by simp)]
  rw [ht.1.index s hs] at hne
  cases ho : owner s with
  | none => exact absurd (serverOf_eq_neg_one.mpr ho) hne
  | some p => simp [hext s p ho]

/-- An INFO message that grants slabs 2 and 3. -/
def infoTwoSlabs : Message :=
  { kernelCbInit.recvBuf with rkey := fun k => if k = 2 ∨ k = 3 then 1 else 0, sizeGb := 2 }

/-- Chunk 0 is bound to server 0. Server 1 brings slabs for chunks 1 and 2 and takes the first
of them back, when no server has room for chunk 1. -/
def bindInfoEvict : List ChunkOp :=
  [.bind 0 (slabMessage 5 0), .info 1 infoTwoSlabs, .evict 1 (slabMessage 2 1) fun _ => none]

/-- Chunk 1 is on top of the stack again, and the next INFO message leaves chunk 2 where it is. -/
theorem stack_names_unmapped_chunks_evicted :
    ∃ t, runChecked (chunkStep (grantsTop 8 5) 8 5) (fun t op => decide (stackOpFits 8 5 t op))
        (chunkTablesInit 5) bindInfoEvict = some t ∧
      t.sess.freeChunkIndex = 2 ∧ t.sess.unmappedChunkList 2 = 1 ∧ StackNamesUnmapped 5 t ∧
      (recvInfo 8 t 0 (slabMessage 6 1)).sess.cbIndexMap 1 = 0 ∧
      (recvInfo 8 t 0 (slabMessage 6 1)).sess.cbIndexMap 2 = 1 := by
  obtain ⟨t, ht, hfree, htop, hinfo, hnext, hbound⟩ : ∃ t,
      runChecked (chunkStep (grantsTop 8 5) 8 5) (fun t op => decide (stackOpFits 8 5 t op))
        (chunkTablesInit 5) bindInfoEvict = some t ∧
      t.sess.freeChunkIndex = 2 ∧ t.sess.unmappedChunkList 2 = 1 ∧
      infoFits 8 5 t 0 (slabMessage 6 1) ∧
      (recvInfo 8 t 0 (slabMessage 6 1)).sess.cbIndexMap 1 = 0 ∧ t.sess.cbIndexMap 2 = 1 :=
    ⟨_, rfl, rfl, rfl, by decide, rfl, rfl⟩
  obtain ⟨hnames, hkept⟩ := stack_names_unmapped_chunks 8 5
    (runChecked_decide_reaches ht)
  have hsame := (hkept 0 (slabMessage 6 1) hinfo 2 (by norm_num) (by simp [hbound])).1
  exact ⟨t, ht, hfree, htop, hnames, hnext, hsame.trans hbound⟩

/-- Of two chunks, chunk 1 becomes hot first and is bound to slab 5: the stack names chunk 1
and not chunk 0. An INFO message with one slab then takes chunk 1 away from slab 5. -/
theorem stack_names_bound_chunk :
    ∃ t, GuardedRun (chunkStep (grantsFree 32 2) 32 2) (stackOpFits 32 2) (chunkTablesInit 2) t ∧
      t.sess.freeChunkIndex = 0 ∧ t.sess.unmappedChunkList 0 = 1 ∧ t.sess.cbIndexMap 1 = 0 ∧
      t.sess.cbIndexMap 0 = -1 ∧ infoFits 32 2 t 0 (slabMessage 6 1) ∧
      t.sess.chunkMapCbChunk 1 = 5 ∧
      (recvInfo 32 t 0 (slabMessage 6 1)).sess.chunkMapCbChunk 1 = 6 := by
  refine ⟨_, .next (.bind 0 (slabMessage 5 1)) .start trivial rfl, rfl, rfl, rfl, rfl, ?_, rfl, rfl⟩
  have hslabs : grantedSlabs 32 (slabMessage 6 1) = [6] := by decide
  unfold infoFits
  rw [hslabs]
  exact ⟨fun i hi => by rw [List.mem_singleton.mp hi]; rfl, by decide⟩

end DisStore.Proofs
