import DisStore.Chunks
import DisStore.Lib.Run

/-!
# The chunk tables are inverse to each other

Abstractly a session is a partial function `owner` from its chunks to slabs of servers, and
no slab has two chunks. `Represents` says that all tables hold that function. Binding,
eviction and disconnect each change the tables in several places; what they do to `owner` is
to add one chunk or to take some away.
-/

namespace DisStore.Proofs
open DisStore DisStore.Lib

/-- Where each chunk is: a server and one of its slabs. -/
abbrev Owner := Nat → Option (Nat × Nat)

/-- The entry of `cb_index_map`. -/
def serverOf : Option (Nat × Nat) → Int
  | none => -1
  | some p => p.1

/-- The entry of `chunk_map_cb_chunk`. -/
def slabOf : Option (Nat × Nat) → Int
  | none => -1
  | some p => p.2

/-- The tables hold `owner`; the chunks in `pending` are unmapped but their entries in
`chunk_map_cb_chunk` are not reset yet. -/
structure Represents (maxMr capacityG : Nat) (owner : Owner) (pending : List Nat)
    (t : ChunkTables) : Prop where
  bound : ∀ s c i, owner s = some (c, i) → s < capacityG ∧ i < maxMr
  index : ∀ s < capacityG, t.sess.cbIndexMap s = serverOf (owner s)
  slab : ∀ s < capacityG, s ∉ pending → t.sess.chunkMapCbChunk s = slabOf (owner s)
  chunk : ∀ s c i, owner s = some (c, i) → (t.cbs c).chunkMap i = s
  unused : ∀ c i, i < maxMr → (∀ s, owner s ≠ some (c, i)) → (t.cbs c).chunkMap i = -1
  mapped : ∀ c i, i < maxMr → ((t.cbs c).remoteMapped i = true ↔ ∃ s, owner s = some (c, i))
  unowned : ∀ s ∈ pending, owner s = none

/-- The forward tables of the session and the backward tables of the servers are inverse. -/
structure MapsInverse (maxMr capacityG : Nat) (t : ChunkTables) : Prop where
  chunk : ∀ s : Nat, s < capacityG →
    (t.sess.cbIndexMap s = -1 ∧ t.sess.chunkMapCbChunk s = -1 ∧
      ∀ c i, i < maxMr → (t.cbs c).chunkMap i ≠ s) ∨
    ∃ c i : Nat, t.sess.cbIndexMap s = c ∧ t.sess.chunkMapCbChunk s = i ∧ i < maxMr ∧
      (t.cbs c).chunkMap i = s ∧ (t.cbs c).remoteMapped i = true ∧
      ∀ c' i', i' < maxMr → (t.cbs c').chunkMap i' = s → c' = c ∧ i' = i
  unused : ∀ c i, i < maxMr → (t.cbs c).chunkMap i = -1 → (t.cbs c).remoteMapped i = false

section Represents

variable {maxMr capacityG : Nat} {owner : Owner} {pending : List Nat} {t : ChunkTables}

lemma serverOf_eq_neg_one {o : Option (Nat × Nat)} : serverOf o = -1 ↔ o = none := by
  cases o with
  | none => simp [serverOf]
  | some p =>
    simp only [serverOf, reduceCtorEq]

lemma Represents.owner_of_chunk (h : Represents maxMr capacityG owner pending t) {c i s : Nat}
    (hi : i < maxMr) (hs : (t.cbs c).chunkMap i = s) : owner s = some (c, i) := by
  by_cases hex : ∃ s', owner s' = some (c, i)
  · obtain ⟨s', hs'⟩ := hex
    have hchunk := h.chunk s' c i hs'
    rw [hs] at hchunk
    have heq : s = s' := by exact_mod_cast hchunk
    rw [heq]
    exact hs'
  · have hfree := h.unused c i hi fun s' hs' => hex ⟨s', hs'⟩
    rw [hs] at hfree
    omega

lemma Represents.chunk_ne {c i : Nat} (h : Represents maxMr capacityG owner pending t)
    (hi : i < maxMr) (hne : (t.cbs c).chunkMap i ≠ -1) :
    ∃ s : Nat, (t.cbs c).chunkMap i = s ∧ owner s = some (c, i) := by
  by_cases hex : ∃ s, owner s = some (c, i)
  · obtain ⟨s, hs⟩ := hex
    exact ⟨s, h.chunk s c i hs, hs⟩
  · exact absurd (h.unused c i hi fun s hs => hex ⟨s, hs⟩) hne

lemma Represents.mapsInverse (h : Represents maxMr capacityG owner [] t) :
    MapsInverse maxMr capacityG t := by
  constructor
  · intro s hs
    have hindex := h.index s hs
    have hslab := h.slab s hs (by simp)
    cases ho : owner s with
    | none =>
      left
      rw [ho] at hindex hslab
      refine ⟨hindex, hslab, ?_⟩
      intro c i hi hc
      rw [h.owner_of_chunk hi hc] at ho
      cases ho
    | some p =>
      right
      obtain ⟨c, i⟩ := p
      rw [ho] at hindex hslab
      refine ⟨c, i, hindex, hslab, (h.bound s c i ho).2, h.chunk s c i ho,
        (h.mapped c i (h.bound s c i ho).2).mpr ⟨s, ho⟩, ?_⟩
      intro c' i' hi' hc'
      have hown := h.owner_of_chunk hi' hc'
      rw [ho] at hown
      obtain ⟨rfl, rfl⟩ := Prod.mk.inj (Option.some.inj hown)
      exact ⟨rfl, rfl⟩
  · intro c i hi hc
    by_contra hne
    simp only [Bool.not_eq_false] at hne
    obtain ⟨s, hs⟩ := (h.mapped c i hi).mp hne
    rw [h.chunk s c i hs] at hc
    omega

lemma represents_init (maxMr capacityG : Nat) :
    Represents maxMr capacityG (fun _ => none) [] (chunkTablesInit capacityG) := by
  constructor <;> simp [chunkTablesInit, sessionCreate, kernelCbInit, serverOf, slabOf]

lemma Represents.congr {t' : ChunkTables} (h : Represents maxMr capacityG owner pending t)
    (hindex : t'.sess.cbIndexMap = t.sess.cbIndexMap)
    (hslab : t'.sess.chunkMapCbChunk = t.sess.chunkMapCbChunk)
    (hchunk : ∀ c, (t'.cbs c).chunkMap = (t.cbs c).chunkMap)
    (hmapped : ∀ c, (t'.cbs c).remoteMapped = (t.cbs c).remoteMapped) :
    Represents maxMr capacityG owner pending t' := by
  constructor
  · exact h.bound
  · rw [hindex]
    exact h.index
  · rw [hslab]
    exact h.slab
  · intro s c i hs
    rw [hchunk]
    exact h.chunk s c i hs
  · intro c i hi hne
    rw [hchunk]
    exact h.unused c i hi hne
  · intro c i hi
    rw [hmapped]
    exact h.mapped c i hi
  · exact h.unowned

/-- The tables of the chunks are the same. -/
structure SameTables (t t' : ChunkTables) : Prop where
  index : t'.sess.cbIndexMap = t.sess.cbIndexMap
  slab : t'.sess.chunkMapCbChunk = t.sess.chunkMapCbChunk
  chunk : ∀ c, (t'.cbs c).chunkMap = (t.cbs c).chunkMap
  mapped : ∀ c, (t'.cbs c).remoteMapped = (t.cbs c).remoteMapped
  free : t'.sess.freeChunkIndex = t.sess.freeChunkIndex
  stack : t'.sess.unmappedChunkList = t.sess.unmappedChunkList

lemma Represents.same {t' : ChunkTables} (h : Represents maxMr capacityG owner pending t)
    (hs : SameTables t t') : Represents maxMr capacityG owner pending t' :=
  h.congr hs.index hs.slab hs.chunk hs.mapped

lemma update_field {α : Type*} (f : ControlBlock → α) (cbs : Nat → ControlBlock)
    {cb : ControlBlock} {c : Nat} (h : f cb = f (cbs c)) (c' : Nat) :
    f (Function.update cbs c cb c') = f (cbs c') := by
  by_cases hc : c' = c
  · subst hc
    rw [Function.update_self]
    exact h
  · rw [Function.update_of_ne hc]

lemma recvInfoSingle_refused (t : ChunkTables) (c : Nat) {msg : Message}
    (hmsg : grantedSlab maxMr msg = none) : SameTables t (recvInfoSingle maxMr t c msg) := by
  have heq : recvInfoSingle maxMr t c msg =
      { sess := { t.sess with cbStateList := Function.update t.sess.cbStateList c .mapped }
        cbs := Function.update t.cbs c { t.cbs c with recvBuf := msg, state := .waitOps } } := by
    simp only [recvInfoSingle, singleChunkInit, hmsg]
  rw [heq]
  constructor
  · rfl
  · rfl
  · exact update_field ControlBlock.chunkMap t.cbs rfl
  · exact update_field ControlBlock.remoteMapped t.cbs rfl
  · rfl
  · rfl

/-- The tables after server `c` has granted slab `i` for chunk `s`. -/
structure BoundTo (t t' : ChunkTables) (c i : Nat) (s : Int) : Prop where
  index : t'.sess.cbIndexMap = Function.update t.sess.cbIndexMap s c
  slab : t'.sess.chunkMapCbChunk = Function.update t.sess.chunkMapCbChunk s i
  chunk : ∀ c' i', (t'.cbs c').chunkMap i' =
    if c' = c ∧ i' = i then s else (t.cbs c').chunkMap i'
  mapped : ∀ c' i', (t'.cbs c').remoteMapped i' =
    if c' = c ∧ i' = i then true else (t.cbs c').remoteMapped i'
  free : t'.sess.freeChunkIndex = t.sess.freeChunkIndex - 1
  stack : t'.sess.unmappedChunkList = t.sess.unmappedChunkList

lemma recvInfoSingle_boundTo (t : ChunkTables) (c : Nat) {msg : Message} {i : Nat}
    (hmsg : grantedSlab maxMr msg = some i) :
    BoundTo t (recvInfoSingle maxMr t c msg) c i msg.sizeGb := by
  constructor
  · simp only [recvInfoSingle, singleChunkInit, hmsg]
  · simp only [recvInfoSingle, singleChunkInit, hmsg]
  · intro c' i'
    simp only [recvInfoSingle, singleChunkInit, hmsg]
    by_cases hc : c' = c
    · subst hc
      simp [Function.update_apply]
    · simp [hc]
  · intro c' i'
    simp only [recvInfoSingle, singleChunkInit, hmsg]
    by_cases hc : c' = c
    · subst hc
      simp [Function.update_apply]
    · simp [hc]
  · simp only [recvInfoSingle, singleChunkInit, hmsg]
  · simp only [recvInfoSingle, singleChunkInit, hmsg]

lemma recvInfoSingle_session (maxMr : Nat) (t : ChunkTables) (c : Nat) (msg : Message) :
    (recvInfoSingle maxMr t c msg).sess.cbStateList =
        Function.update t.sess.cbStateList c .mapped ∧
      (recvInfoSingle maxMr t c msg).sess.mappedCbNum = t.sess.mappedCbNum := by
  simp only [recvInfoSingle, singleChunkInit]
  split <;> exact ⟨rfl, rfl⟩

lemma Represents.bound_to {t' : ChunkTables} {c i s : Nat}
    (h : Represents maxMr capacityG owner pending t) (hb : BoundTo t t' c i s)
    (hs : s < capacityG) (hi : i < maxMr) (hnone : owner s = none) (hpend : s ∉ pending)
    (hunused : (t.cbs c).chunkMap i = -1) :
    Represents maxMr capacityG (Function.update owner s (some (c, i))) pending t' := by
  have hfree : ∀ s', owner s' ≠ some (c, i) := by
    intro s' hs'
    rw [h.chunk s' c i hs'] at hunused
    omega
  constructor
  · intro s' c' i' ho
    by_cases hss : s' = s
    · subst hss
      rw [Function.update_self] at ho
      obtain ⟨rfl, rfl⟩ := Prod.mk.inj (Option.some.inj ho)
      exact ⟨hs, hi⟩
    · rw [Function.update_of_ne hss] at ho
      exact h.bound s' c' i' ho
  · intro s' hs'
    rw [hb.index]
    by_cases hss : s' = s
    · subst hss
      simp [serverOf]
    · rw [Function.update_of_ne (by exact_mod_cast hss), Function.update_of_ne hss]
      exact h.index s' hs'
  · intro s' hs' hp
    rw [hb.slab]
    by_cases hss : s' = s
    · subst hss
      simp [slabOf]
    · rw [Function.update_of_ne (by exact_mod_cast hss), Function.update_of_ne hss]
      exact h.slab s' hs' hp
  · intro s' c' i' ho
    rw [hb.chunk]
    by_cases hss : s' = s
    · subst hss
      rw [Function.update_self] at ho
      obtain ⟨rfl, rfl⟩ := Prod.mk.inj (Option.some.inj ho)
      rw [if_pos ⟨rfl, rfl⟩]
    · rw [Function.update_of_ne hss] at ho
      rw [if_neg]
      · exact h.chunk s' c' i' ho
      · rintro ⟨rfl, rfl⟩
        exact hfree s' ho
  · intro c' i' hi' hne
    rw [hb.chunk, if_neg]
    · apply h.unused c' i' hi'
      intro s' ho
      have hss : s' ≠ s := by
        rintro rfl
        rw [hnone] at ho
        cases ho
      exact hne s' (by rw [Function.update_of_ne hss]; exact ho)
    · rintro ⟨rfl, rfl⟩
      exact hne s (Function.update_self ..)
  · intro c' i' hi'
    rw [hb.mapped]
    by_cases hci : c' = c ∧ i' = i
    · rw [if_pos hci]
      obtain ⟨rfl, rfl⟩ := hci
      simp only [true_iff]
      exact ⟨s, Function.update_self ..⟩
    · rw [if_neg hci, h.mapped c' i' hi']
      constructor
      · rintro ⟨s', ho⟩
        have hss : s' ≠ s := by
          rintro rfl
          rw [hnone] at ho
          cases ho
        exact ⟨s', by rw [Function.update_of_ne hss]; exact ho⟩
      · rintro ⟨s', ho⟩
        by_cases hss : s' = s
        · subst hss
          rw [Function.update_self] at ho
          obtain ⟨rfl, rfl⟩ := Prod.mk.inj (Option.some.inj ho)
          exact absurd ⟨rfl, rfl⟩ hci
        · rw [Function.update_of_ne hss] at ho
          exact ⟨s', ho⟩
  · intro s' hp
    have hss : s' ≠ s := by
      rintro rfl
      exact hpend hp
    rw [Function.update_of_ne hss]
    exact h.unowned s' hp

/-- The function without the chunks that are on the listed slabs of server `c`. -/
def without (owner : Owner) (c : Nat) (slabs : List Nat) : Owner := fun s =>
  (owner s).filter fun p => decide (¬(p.1 = c ∧ p.2 ∈ slabs))

lemma without_eq_some {c : Nat} {slabs : List Nat} {s c' i' : Nat} :
    without owner c slabs s = some (c', i') ↔
      owner s = some (c', i') ∧ ¬(c' = c ∧ i' ∈ slabs) := by
  rw [without, Option.filter_eq_some_iff, decide_eq_true_eq]

/-- The chunks of the listed slabs. -/
def onSlabs (t : ChunkTables) (c : Nat) (slabs : List Nat) (x : Int) : Bool :=
  slabs.any fun i => decide ((t.cbs c).chunkMap i = x)

lemma Represents.onSlabs_iff (h : Represents maxMr capacityG owner pending t) {c : Nat}
    {slabs : List Nat} (hslabs : ∀ i ∈ slabs, i < maxMr) (s : Nat) :
    onSlabs t c slabs s = true ↔ ∃ i ∈ slabs, owner s = some (c, i) := by
  simp only [onSlabs, List.any_eq_true, decide_eq_true_eq]
  constructor
  · rintro ⟨i, hi, hc⟩
    exact ⟨i, hi, h.owner_of_chunk (hslabs i hi) hc⟩
  · rintro ⟨i, hi, ho⟩
    exact ⟨i, hi, h.chunk s c i ho⟩

lemma Represents.without_eq (h : Represents maxMr capacityG owner pending t) {c : Nat}
    {slabs : List Nat} (hslabs : ∀ i ∈ slabs, i < maxMr) (s : Nat) :
    without owner c slabs s = if onSlabs t c slabs s then none else owner s := by
  by_cases hon : onSlabs t c slabs s = true
  · obtain ⟨i, hi, ho⟩ := (h.onSlabs_iff hslabs s).mp hon
    rw [if_pos hon]
    simp [without, ho, hi]
  · rw [if_neg hon]
    cases ho : owner s with
    | none => simp [without, ho]
    | some p =>
      obtain ⟨c', i'⟩ := p
      rw [without_eq_some]
      refine ⟨ho, ?_⟩
      rintro ⟨rfl, hi⟩
      exact hon ((h.onSlabs_iff hslabs s).mpr ⟨i', hi, ho⟩)

lemma Represents.takeAway {c : Nat} {slabs pending' : List Nat} {t' : ChunkTables}
    (h : Represents maxMr capacityG owner [] t) (hslabs : ∀ i ∈ slabs, i < maxMr)
    (hindex : ∀ s : Nat, s < capacityG → t'.sess.cbIndexMap s =
      if onSlabs t c slabs s then -1 else t.sess.cbIndexMap s)
    (hslab : ∀ s : Nat, s < capacityG → s ∉ pending' → t'.sess.chunkMapCbChunk s =
      if onSlabs t c slabs s then -1 else t.sess.chunkMapCbChunk s)
    (hchunk : ∀ c' i', (t'.cbs c').chunkMap i' =
      if c' = c ∧ i' ∈ slabs then -1 else (t.cbs c').chunkMap i')
    (hmapped : ∀ c' i', (t'.cbs c').remoteMapped i' =
      if c' = c ∧ i' ∈ slabs then false else (t.cbs c').remoteMapped i')
    (hpend : ∀ s ∈ pending', onSlabs t c slabs s = true) :
    Represents maxMr capacityG (without owner c slabs) pending' t' := by
  constructor
  · intro s c' i' ho
    exact h.bound s c' i' (without_eq_some.mp ho).1
  · intro s hs
    rw [hindex s hs, h.without_eq hslabs, h.index s hs]
    split_ifs <;> rfl
  · intro s hs hp
    rw [hslab s hs hp, h.without_eq hslabs, h.slab s hs (by simp)]
    split_ifs <;> rfl
  · intro s c' i' ho
    obtain ⟨ho, hne⟩ := without_eq_some.mp ho
    rw [hchunk, if_neg hne]
    exact h.chunk s c' i' ho
  · intro c' i' hi' hno
    rw [hchunk]
    split_ifs with hci
    · rfl
    · exact h.unused c' i' hi' fun s ho => hno s (without_eq_some.mpr ⟨ho, hci⟩)
  · intro c' i' hi'
    rw [hmapped]
    simp only [without_eq_some]
    split_ifs with hci
    · simp [hci]
    · simp only [hci, not_false_eq_true, and_true]
      exact h.mapped c' i' hi'
  · intro s hs
    rw [h.without_eq hslabs, if_pos (hpend s hs)]

lemma Represents.forget {s : Nat} (h : Represents maxMr capacityG owner pending t)
    (hs : s ∈ pending) {pending' : List Nat} (hpend : ∀ x, x ∈ pending' ↔ x ∈ pending ∧ x ≠ s) :
    Represents maxMr capacityG owner pending' { t with sess := forgetChunk t.sess s } := by
  constructor
  · exact h.bound
  · exact h.index
  · intro s' hs' hp
    by_cases hss : s' = s
    · subst hss
      simp [forgetChunk, h.unowned s' hs, slabOf]
    · have hold := h.slab s' hs' fun hm => hp ((hpend s').mpr ⟨hm, hss⟩)
      simp only [forgetChunk]
      rw [Function.update_of_ne (by exact_mod_cast hss)]
      exact hold
  · exact h.chunk
  · exact h.unused
  · exact h.mapped
  · intro s' hs'
    exact h.unowned s' ((hpend s').mp hs').1

end Represents

/-- The reply is about an unmapped chunk, and a slab that it grants is unused: the thread asks
for unmapped chunks and the daemon grants free slabs. -/
def grantsFree (maxMr capacityG : Nat) (t : ChunkTables) (c : Nat) (msg : Message) : Bool :=
  decide (0 ≤ msg.sizeGb ∧ msg.sizeGb < capacityG ∧ t.sess.cbIndexMap msg.sizeGb = -1) &&
    match grantedSlab maxMr msg with
    | none => true
    | some i => decide ((t.cbs c).chunkMap i = -1)

section Steps

variable {maxMr capacityG : Nat} {owner : Owner} {pending : List Nat} {t t' : ChunkTables}
variable {allow : ChunkTables → Nat → Message → Bool}

lemma mapChunk_cases {s : Nat} {r : Reply} (h : mapChunk allow maxMr t s r = some t') :
    SameTables t t' ∨ ∃ c i msg, allow t c msg = true ∧ msg.sizeGb = s ∧
      grantedSlab maxMr msg = some i ∧ BoundTo t t' c i s := by
  cases r with
  | none =>
    rw [← Option.some.inj h]
    exact .inl ⟨rfl, rfl, fun _ => rfl, fun _ => rfl, rfl, rfl⟩
  | some p =>
    obtain ⟨c, msg⟩ := p
    simp only [mapChunk, Option.ite_none_right_eq_some, Option.some.injEq] at h
    obtain ⟨hallow, rfl⟩ := h
    cases hg : grantedSlab maxMr { msg with sizeGb := (s : Int) } with
    | none => exact .inl (recvInfoSingle_refused t c hg)
    | some i => exact .inr ⟨c, i, _, hallow, rfl, hg, recvInfoSingle_boundTo t c hg⟩

lemma grantedSlab_lt {msg : Message} {i : Nat} (h : grantedSlab maxMr msg = some i) : i < maxMr :=
  List.mem_range.mp (List.mem_of_find?_eq_some h)

lemma grantsFree_unused {c i : Nat} {msg : Message}
    (h : grantsFree maxMr capacityG t c msg = true) (hg : grantedSlab maxMr msg = some i) :
    (t.cbs c).chunkMap i = -1 := by
  simp only [grantsFree, hg, Bool.and_eq_true, decide_eq_true_eq] at h
  exact h.2

lemma Represents.mapChunk {s : Nat} {r : Reply}
    (h : Represents maxMr capacityG owner pending t)
    (hallow : ∀ t c msg, allow t c msg = true → grantsFree maxMr capacityG t c msg = true)
    (hs : s < capacityG) (hnone : owner s = none) (hpend : s ∉ pending)
    (hstep : mapChunk allow maxMr t s r = some t') :
    ∃ o, Represents maxMr capacityG (Function.update owner s o) pending t' := by
  rcases mapChunk_cases hstep with hsame | ⟨c, i, msg, ha, -, hg, hb⟩
  · refine ⟨none, ?_⟩
    rw [← hnone, Function.update_eq_self]
    exact h.same hsame
  · exact ⟨some (c, i), h.bound_to hb hs (grantedSlab_lt hg) hnone hpend
      (grantsFree_unused (hallow t c msg ha) hg)⟩

lemma Represents.recvInfoSingle {c : Nat} {msg : Message}
    (h : Represents maxMr capacityG owner [] t)
    (hallow : grantsFree maxMr capacityG t c msg = true) :
    ∃ owner', Represents maxMr capacityG owner' [] (recvInfoSingle maxMr t c msg) := by
  cases hg : grantedSlab maxMr msg with
  | none => exact ⟨owner, h.same (recvInfoSingle_refused t c hg)⟩
  | some i =>
    have hunused := grantsFree_unused hallow hg
    simp only [grantsFree, Bool.and_eq_true, decide_eq_true_eq] at hallow
    obtain ⟨⟨hnonneg, hlt, hindex⟩, -⟩ := hallow
    obtain ⟨s, hs⟩ := Int.eq_ofNat_of_zero_le hnonneg
    have hb := recvInfoSingle_boundTo t c hg
    rw [hs] at hb hlt hindex
    have hs' : s < capacityG := by exact_mod_cast hlt
    rw [h.index s hs'] at hindex
    exact ⟨_, h.bound_to hb hs' (grantedSlab_lt hg) (serverOf_eq_neg_one.mp hindex) (by simp)
      hunused⟩

lemma mem_evictedChunks {evictList : Int → Bool} {s : Nat} :
    s ∈ evictedChunks capacityG evictList ↔ s < capacityG ∧ evictList s = true := by
  simp [evictedChunks]

lemma nodup_evictedChunks (evictList : Int → Bool) :
    (evictedChunks capacityG evictList).Nodup :=
  List.nodup_range.filter _

lemma clientRecvStop_chunkMap (maxMr : Nat) (cb : ControlBlock) :
    (clientRecvStop maxMr cb).chunkMap = cb.chunkMap ∧
      (clientRecvStop maxMr cb).remoteMapped = cb.remoteMapped := by
  unfold clientRecvStop
  split <;> exact ⟨rfl, rfl⟩

lemma markedSlabs_stop {cb : ControlBlock} (hsize : cb.recvBuf.sizeGb ≠ 0) :
    markedSlabs maxMr (clientRecvStop maxMr cb) = grantedSlabs maxMr cb.recvBuf := by
  unfold markedSlabs grantedSlabs clientRecvStop
  rw [if_neg hsize]
  apply List.filter_congr
  intro i hi
  simp [List.mem_range.mp hi]

lemma lt_of_mem_markedSlabs {cb : ControlBlock} {i : Nat} (h : i ∈ markedSlabs maxMr cb) :
    i < maxMr :=
  List.mem_range.mp (List.mem_filter.mp h).1

lemma Represents.evictUnmap {c : Nat} {cb : ControlBlock}
    (h : Represents maxMr capacityG owner [] t) (hchunk : cb.chunkMap = (t.cbs c).chunkMap)
    (hmapped : cb.remoteMapped = (t.cbs c).remoteMapped) :
    Represents maxMr capacityG (without owner c (markedSlabs maxMr cb))
      (evictedChunks capacityG (markedChunks maxMr cb)) (evictUnmap maxMr c t cb) := by
  have hon : ∀ x, markedChunks maxMr cb x = onSlabs t c (markedSlabs maxMr cb) x := by
    intro x
    unfold markedChunks onSlabs
    rw [hchunk]
  apply h.takeAway
  · exact fun i hi => lt_of_mem_markedSlabs hi
  · intro s hs
    rw [← hon]
    rfl
  · intro s hs hp
    have hoff : ¬markedChunks maxMr cb s = true :=
      fun hm => hp (mem_evictedChunks.mpr ⟨hs, hm⟩)
    rw [← hon, if_neg hoff]
    rfl
  · intro c' i'
    by_cases hc : c' = c
    · subst hc
      simp only [DisStore.evictUnmap, Function.update_self, true_and, ← hchunk]
      rfl
    · simp only [DisStore.evictUnmap, Function.update_of_ne hc, hc, false_and, if_false]
  · intro c' i'
    by_cases hc : c' = c
    · subst hc
      simp only [DisStore.evictUnmap, Function.update_self, true_and, ← hmapped]
      rfl
    · simp only [DisStore.evictUnmap, Function.update_of_ne hc, hc, false_and, if_false]
  · intro s hs
    rw [← hon]
    exact (mem_evictedChunks.mp hs).2

lemma foldl_forgetChunk (f : Nat → Int) (slabs : List Nat) (s : Session) :
    (slabs.foldl (fun s i => forgetChunk s (f i)) s).cbIndexMap = s.cbIndexMap ∧
      ∀ x, (slabs.foldl (fun s i => forgetChunk s (f i)) s).chunkMapCbChunk x =
        if slabs.any (fun i => decide (f i = x)) then -1 else s.chunkMapCbChunk x := by
  induction slabs generalizing s with
  | nil => simp
  | cons i rest ih =>
    obtain ⟨hindex, hslab⟩ := ih (forgetChunk s (f i))
    refine ⟨hindex, fun x => ?_⟩
    rw [List.foldl_cons, hslab x, List.any_cons]
    by_cases hx : f i = x
    · subst hx
      simp [forgetChunk]
    · simp [forgetChunk, hx, Ne.symm hx]

lemma mem_mappedSlabs {cb : ControlBlock} {i : Nat} :
    i ∈ mappedSlabs maxMr cb ↔ i < maxMr ∧ cb.chunkMap i ≠ -1 := by
  simp [mappedSlabs]

/-- `IS_disconnect_handler` before its last loop: the server has no chunk left. -/
lemma Represents.disconnect {c : Nat} (h : Represents maxMr capacityG owner [] t) :
    Represents maxMr capacityG (without owner c (mappedSlabs maxMr (t.cbs c))) []
      (forgetServer maxMr c (disallowChunks maxMr c t)) := by
  have hslabs : mappedSlabs maxMr ((disallowChunks maxMr c t).cbs c) =
      mappedSlabs maxMr (t.cbs c) := by
    simp only [disallowChunks, Function.update_self, mappedSlabs]
  have hmap : ((disallowChunks maxMr c t).cbs c).chunkMap = (t.cbs c).chunkMap := by
    simp only [disallowChunks, Function.update_self]
  have hfold := foldl_forgetChunk (t.cbs c).chunkMap (mappedSlabs maxMr (t.cbs c))
    (disallowChunks maxMr c t).sess
  apply h.takeAway
  · exact fun i hi => (mem_mappedSlabs.mp hi).1
  · intro s hs
    simp only [forgetServer, hslabs, hmap, hfold.1]
    rfl
  · intro s hs _
    simp only [forgetServer, hslabs, hmap, hfold.2]
    rfl
  · intro c' i'
    by_cases hc : c' = c
    · subst hc
      simp only [forgetServer, hslabs, hmap, Function.update_self, true_and]
    · simp only [forgetServer, disallowChunks, Function.update_of_ne hc, hc, false_and, if_false]
  · intro c' i'
    by_cases hc : c' = c
    · subst hc
      simp only [forgetServer, disallowChunks, Function.update_self, true_and]
    · simp only [forgetServer, disallowChunks, Function.update_of_ne hc, hc, false_and, if_false]
  · simp

lemma Represents.evicted_gone {c : Nat} (h : Represents maxMr capacityG owner [] t) :
    ∀ s ∈ evictedChunks capacityG (mappedChunks maxMr (t.cbs c)),
      s < capacityG ∧ without owner c (mappedSlabs maxMr (t.cbs c)) s = none := by
  intro s hs
  obtain ⟨hlt, hon⟩ := mem_evictedChunks.mp hs
  refine ⟨hlt, ?_⟩
  rw [h.without_eq (fun i hi => (mem_mappedSlabs.mp hi).1)]
  exact if_pos hon

/-- An invariant of the tables that the parts of eviction and disconnect keep. -/
structure TableInvariant (allow : ChunkTables → Nat → Message → Bool) (maxMr capacityG : Nat)
    (Inv : Owner → List Nat → ChunkTables → Prop) : Prop where
  represents : ∀ {owner pending t}, Inv owner pending t →
    Represents maxMr capacityG owner pending t
  same : ∀ {owner pending t t'}, Inv owner pending t → SameTables t t' → Inv owner pending t'
  forget : ∀ {owner pending pending' t s}, Inv owner pending t → s ∈ pending → s < capacityG →
    owner s = none → (∀ x, x ∈ pending' ↔ x ∈ pending ∧ x ≠ s) →
    Inv owner pending' { t with sess := forgetChunk t.sess s }
  mapChunk : ∀ {owner pending t t' s r}, Inv owner pending t → s < capacityG → owner s = none →
    s ∉ pending → mapChunk allow maxMr t s r = some t' →
    ∃ o, Inv (Function.update owner s o) pending t'
  evictUnmap : ∀ {owner t c cb}, Inv owner [] t → cb.chunkMap = (t.cbs c).chunkMap →
    cb.remoteMapped = (t.cbs c).remoteMapped →
    Inv (without owner c (markedSlabs maxMr cb)) (evictedChunks capacityG (markedChunks maxMr cb))
      (evictUnmap maxMr c t cb)
  disconnect : ∀ {owner t c}, Inv owner [] t →
    Inv (without owner c (mappedSlabs maxMr (t.cbs c))) []
      (forgetServer maxMr c (disallowChunks maxMr c t))

section TableInvariant

variable {Inv : Owner → List Nat → ChunkTables → Prop}

lemma TableInvariant.remapLoop (hinv : TableInvariant allow maxMr capacityG Inv)
    {rebind : Nat → Reply} (chunks : List Nat)
    (h : Inv owner chunks t) (hnodup : chunks.Nodup)
    (hchunks : ∀ s ∈ chunks, s < capacityG ∧ owner s = none)
    (hloop : chunks.foldlM (fun t (s : Nat) => DisStore.mapChunk allow maxMr
      { t with sess := forgetChunk t.sess s } s (rebind s)) t = some t') :
    ∃ owner', Inv owner' [] t' := by
  induction chunks generalizing owner t with
  | nil =>
    rw [← Option.some.inj hloop]
    exact ⟨owner, h⟩
  | cons s rest ih =>
    obtain ⟨hs, hrest⟩ := List.nodup_cons.mp hnodup
    obtain ⟨hlt, hnone⟩ := hchunks s List.mem_cons_self
    simp only [List.foldlM_cons, Option.bind_eq_bind, Option.bind_eq_some_iff] at hloop
    obtain ⟨t₁, hstep, hloop⟩ := hloop
    have hpend : ∀ x, x ∈ rest ↔ x ∈ s :: rest ∧ x ≠ s := by
      intro x
      rw [List.mem_cons]
      constructor
      · intro hx
        exact ⟨.inr hx, fun he => hs (he ▸ hx)⟩
      · rintro ⟨hx, hne⟩
        exact hx.resolve_left hne
    have hforget := hinv.forget h List.mem_cons_self hlt hnone hpend
    obtain ⟨o, hmap⟩ := hinv.mapChunk hforget hlt hnone hs hstep
    apply ih hmap hrest _ hloop
    intro x hx
    have hne : x ≠ s := fun he => hs (he ▸ hx)
    rw [Function.update_of_ne hne]
    exact hchunks x (List.mem_cons_of_mem _ hx)

lemma TableInvariant.mapLoop (hinv : TableInvariant allow maxMr capacityG Inv)
    {rebind : Nat → Reply} (chunks : List Nat)
    (h : Inv owner [] t) (hnodup : chunks.Nodup)
    (hchunks : ∀ s ∈ chunks, s < capacityG ∧ owner s = none)
    (hloop : chunks.foldlM (fun t' s => DisStore.mapChunk allow maxMr t' s (rebind s)) t =
      some t') :
    ∃ owner', Inv owner' [] t' := by
  induction chunks generalizing owner t with
  | nil =>
    rw [← Option.some.inj hloop]
    exact ⟨owner, h⟩
  | cons s rest ih =>
    obtain ⟨hs, hrest⟩ := List.nodup_cons.mp hnodup
    obtain ⟨hlt, hnone⟩ := hchunks s List.mem_cons_self
    simp only [List.foldlM_cons, Option.bind_eq_bind, Option.bind_eq_some_iff] at hloop
    obtain ⟨t₁, hstep, hloop⟩ := hloop
    obtain ⟨o, hmap⟩ := hinv.mapChunk h hlt hnone (by simp) hstep
    apply ih hmap hrest _ hloop
    intro x hx
    have hne : x ≠ s := fun he => hs (he ▸ hx)
    rw [Function.update_of_ne hne]
    exact hchunks x (List.mem_cons_of_mem _ hx)

lemma TableInvariant.evictServer (hinv : TableInvariant allow maxMr capacityG Inv) {c : Nat}
    {stop : Message} {rebind : Nat → Reply} (h : Inv owner [] t)
    (hstep : evictServer (fun t s => DisStore.mapChunk allow maxMr t s (rebind s)) maxMr capacityG
      t c stop = some t') :
    ∃ owner', Inv owner' [] t' := by
  have hcb := clientRecvStop_chunkMap maxMr { t.cbs c with recvBuf := stop, state := .recvStop }
  simp only [DisStore.evictServer] at hstep
  split at hstep
  · rw [← Option.some.inj hstep]
    refine ⟨owner, hinv.same h ⟨rfl, rfl, ?_, ?_, rfl, rfl⟩⟩
    · exact update_field ControlBlock.chunkMap t.cbs hcb.1
    · exact update_field ControlBlock.remoteMapped t.cbs hcb.2
  · simp only [Option.bind_eq_bind, Option.bind_eq_some_iff, Option.some.injEq] at hstep
    obtain ⟨t₁, hloop, rfl⟩ := hstep
    have hunmap := hinv.evictUnmap h hcb.1 hcb.2
    have hgone := (hinv.represents hunmap).unowned
    obtain ⟨owner', hend⟩ := hinv.remapLoop _ hunmap (nodup_evictedChunks _)
      (fun s hs => ⟨(mem_evictedChunks.mp hs).1, hgone s hs⟩) hloop
    exact ⟨owner', hinv.same hend ⟨rfl, rfl, fun _ => rfl, fun _ => rfl, rfl, rfl⟩⟩

lemma TableInvariant.disconnectServer (hinv : TableInvariant allow maxMr capacityG Inv) {c : Nat}
    {rebind : Nat → Reply} (h : Inv owner [] t)
    (hstep : disconnectServer (fun t s => DisStore.mapChunk allow maxMr t s (rebind s)) maxMr
      capacityG t c = some t') :
    ∃ owner', Inv owner' [] t' := by
  simp only [DisStore.disconnectServer] at hstep
  split at hstep
  · rw [← Option.some.inj hstep]
    exact ⟨owner, hinv.same h ⟨rfl, rfl, fun _ => rfl, fun _ => rfl, rfl, rfl⟩⟩
  · simp only [Option.bind_eq_bind, Option.bind_eq_some_iff, Option.some.injEq] at hstep
    obtain ⟨t₁, hloop, rfl⟩ := hstep
    obtain ⟨owner', hend⟩ := hinv.mapLoop _ (hinv.disconnect h) (nodup_evictedChunks _)
      (hinv.represents h).evicted_gone hloop
    exact ⟨owner', hinv.same hend ⟨rfl, rfl, fun _ => rfl, fun _ => rfl, rfl, rfl⟩⟩

end TableInvariant

lemma represents_tableInvariant
    (hallow : ∀ t c msg, allow t c msg = true → grantsFree maxMr capacityG t c msg = true) :
    TableInvariant allow maxMr capacityG (Represents maxMr capacityG) where
  represents h := h
  same h hs := h.same hs
  forget h hs _ _ hpend := h.forget hs hpend
  mapChunk h hlt hnone hs hstep := h.mapChunk hallow hlt hnone hs hstep
  evictUnmap h hchunk hmapped := h.evictUnmap hchunk hmapped
  disconnect h := h.disconnect

end Steps

/-- Chunks are bound one by one, and STOP messages flag mapped slabs. -/
def bindsEvictsDisconnects (maxMr : Nat) (t : ChunkTables) : ChunkOp → Prop
  | .bind _ _ => True
  | .info _ _ => False
  | .evict c stop _ => ∀ i ∈ grantedSlabs maxMr stop, (t.cbs c).chunkMap i ≠ -1
  | .disconnect _ _ => True

/-- After every sequence of binds, eviction rounds and disconnects, handled one at a time, the
tables of the session and of its servers are inverse to each other. -/
theorem chunk_maps_inverse (maxMr capacityG : Nat) {t : ChunkTables}
    (h : GuardedRun (chunkStep (grantsFree maxMr capacityG) maxMr capacityG)
      (bindsEvictsDisconnects maxMr) (chunkTablesInit capacityG) t) :
    MapsInverse maxMr capacityG t := by
  have hinv := represents_tableInvariant (fun _ _ _ ha => ha :
    ∀ t c msg, grantsFree maxMr capacityG t c msg = true → grantsFree maxMr capacityG t c msg = true)
  have hrep : ∃ owner, Represents maxMr capacityG owner [] t := by
    apply GuardedRun.invariant (P := fun t => ∃ owner, Represents maxMr capacityG owner [] t)
      ⟨_, represents_init maxMr capacityG⟩ _ h
    rintro t op t' ⟨owner, ht⟩ hok hstep
    cases op with
    | bind c msg =>
      simp only [chunkStep, Option.ite_none_right_eq_some, Option.some.injEq] at hstep
      obtain ⟨hallow, rfl⟩ := hstep
      exact ht.recvInfoSingle hallow
    | info c msg => exact hok.elim
    | evict c stop rebind => exact hinv.evictServer ht hstep
    | disconnect c rebind => exact hinv.disconnectServer ht hstep
  obtain ⟨owner, ht⟩ := hrep
  exact ht.mapsInverse

/-- A message that grants slab `i`, or flags it. -/
def slabMessage (i : Nat) (sizeGb : Int) : Message :=
  { kernelCbInit.recvBuf with rkey := fun k => if k = i then 1 else 0, sizeGb := sizeGb }

/-- Chunk 3 is bound to server 0, evicted from there and bound to server 1. -/
theorem chunk_maps_inverse_rebound :
    ∃ t, runActions (chunkStep (grantsFree 32 12) 32 12) (chunkTablesInit 12)
        [.bind 0 (slabMessage 5 3),
          .evict 0 (slabMessage 5 1) fun _ => some (1, slabMessage 7 0)] = some t ∧
      t.sess.cbIndexMap 3 = 1 ∧ MapsInverse 32 12 t := by
  refine ⟨_, rfl, rfl, ?_⟩
  apply chunk_maps_inverse 32 12
  apply GuardedRun.next (.evict 0 (slabMessage 5 1) fun _ => some (1, slabMessage 7 0))
    (.next (.bind 0 (slabMessage 5 3)) .start trivial rfl) _ rfl
  intro i hi
  obtain ⟨hlt, hkey⟩ := List.mem_filter.mp hi
  have h5 : i = 5 := by
    by_contra hne
    simp [slabMessage, hne] at hkey
  subst h5
  decide

end DisStore.Proofs
