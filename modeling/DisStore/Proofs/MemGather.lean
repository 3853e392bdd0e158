import DisStore.Bio
import DisStore.Proofs.DiskFallback

/-!
# The remote copy and the disk copy of a write

`mem_gather` copies one page for each segment, from the address where the bio begins. The
bytes of the buffer and of the request are compared through their places, a place being a
bio of the chain and an address in its memory.
-/

namespace DisStore.Proofs
open DisStore

variable {β : Type}

/-- The pages that `mem_gather` reads for a bio. -/
def pagesFrom (pageSize : Nat) (b : Bio) : List Nat :=
  List.range' b.data (pageSize * b.physSegments)

def bytesAt (mem : Nat → Nat → β) (l : List (Nat × Nat)) : List β :=
  l.map fun p => mem p.1 p.2

/-- `mem_gather` returns, fills the buffer with the data of the request and does not write
beyond it, and as many bytes are mirrored to disk as are written by RDMA. -/
structure CopiesAgree (maxSglLen : Nat) (req : Request) : Prop where
  gather : ∀ mem rdmaBuf, ∃ buf, memGather mem req rdmaBuf = some buf ∧
    (List.range req.bytes).map buf = bytesAt mem (places Bio.addresses 0 req.bios) ∧
    ∀ x, isPageSize * maxSglLen ≤ x → buf x = rdmaBuf x
  mirror : bioGenerate req = req.bytes

variable {f g : Bio → List Nat}

lemma eq_of_forall_map_eq {α : Type*} [DecidableEq α] {l l' : List α}
    (h : ∀ label : α → UInt8, l.map label = l'.map label) : l = l' := by
  have hlen : l.length = l'.length := by
    simpa using congrArg List.length (h fun _ => 0)
  apply List.ext_getElem hlen
  intro i hi hi'
  by_contra hne
  have hat := congrArg (fun m => m[i]?) (h fun a => if a = l[i] then 1 else 0)
  simp [hi, hi', Ne.symm hne] at hat

lemma le_of_mem_places {k : Nat} {bios : List Bio} {p : Nat × Nat} (h : p ∈ places f k bios) :
    k ≤ p.1 := by
  induction bios generalizing k with
  | nil => cases h
  | cons b rest ih =>
    rcases List.mem_append.mp h with hmem | hmem
    · obtain ⟨a, -, rfl⟩ := List.mem_map.mp hmem
      exact le_refl k
    · have hle := ih hmem
      omega

lemma filter_places (k : Nat) (b : Bio) (rest : List Bio) :
    (places f k (b :: rest)).filter (fun p => decide (p.1 = k)) = (f b).map (k, ·) := by
  have hrest : (places f (k + 1) rest).filter (fun p => decide (p.1 = k)) = [] := by
    rw [List.filter_eq_nil_iff]
    intro p hp
    have hle := le_of_mem_places hp
    simp only [decide_eq_true_eq]
    omega
  have hown : ((f b).map (k, ·)).filter (fun p => decide (p.1 = k)) = (f b).map (k, ·) := by
    rw [List.filter_eq_self]
    intro p hp
    obtain ⟨a, -, rfl⟩ := List.mem_map.mp hp
    exact decide_eq_true rfl
  rw [places, List.filter_append, hrest, hown, List.append_nil]

lemma places_inj {k : Nat} {bios : List Bio} (h : places f k bios = places g k bios) :
    ∀ b ∈ bios, f b = g b := by
  induction bios generalizing k with
  | nil => simp
  | cons b rest ih =>
    have hmap : (f b).map (k, ·) = (g b).map (k, ·) := by
      rw [← filter_places k b rest, ← filter_places k b rest, h]
    have hown : f b = g b := List.map_injective_iff.mpr (fun _ _ he => (Prod.mk.inj he).2) hmap
    have hrest : places f (k + 1) rest = places g (k + 1) rest := by
      rw [places, places, hown] at h
      exact List.append_cancel_left h
    intro b' hb'
    rcases List.mem_cons.mp hb' with rfl | hb'
    · exact hown
    · exact ih hrest b' hb'

lemma places_congr {k : Nat} {bios : List Bio} (h : ∀ b ∈ bios, f b = g b) :
    places f k bios = places g k bios := by
  induction bios generalizing k with
  | nil => rfl
  | cons b rest ih =>
    rw [places, places, h b List.mem_cons_self, ih fun b' hb' => h b' (List.mem_cons_of_mem _ hb')]

lemma map_copyBytes {buf buf' : Nat → β} {dst n a : Nat} {src : Nat → β}
    (h : ∀ x, x < dst + n → buf' x = copyBytes buf dst n (fun x => src (a + x)) x) :
    (List.range' dst n).map buf' = (List.range' a n).map src := by
  rw [List.range'_eq_map_range, List.range'_eq_map_range, List.map_map, List.map_map]
  apply List.map_congr_left
  intro i hi
  have hi := List.mem_range.mp hi
  rw [Function.comp_apply, h _ (by omega), copyBytes, if_pos ⟨by omega, by omega⟩]
  simp

/-- The loop of `mem_gather` reads the pages of the rest of the chain into the rest of the
buffer and changes nothing else. -/
lemma gatherLoop_eq (pageSize : Nat) {nrSeg i : Nat} (mem : Nat → Nat → β) (k : Nat)
    (bios : List Bio) (buf : Nat → β)
    (hseg : nrSeg = i + (bios.map Bio.physSegments).sum) :
    ∃ buf', gatherLoop pageSize mem nrSeg i k bios buf = some buf' ∧
      (List.range' (i * pageSize) ((nrSeg - i) * pageSize)).map buf' =
        bytesAt mem (places (pagesFrom pageSize) k bios) ∧
      ∀ x, x < i * pageSize ∨ nrSeg * pageSize ≤ x → buf' x = buf x := by
  induction bios generalizing i k buf with
  | nil =>
    have hi : nrSeg = i := by simpa using hseg
    subst hi
    refine ⟨buf, by simp [gatherLoop], by simp [places, bytesAt], fun _ _ => rfl⟩
  | cons b rest ih =>
    have hpos := physSegments_pos b
    rw [List.map_cons, List.sum_cons] at hseg
    have hlt : i < nrSeg := by omega
    obtain ⟨buf', hloop, hrest, hframe⟩ := ih (k + 1)
      (copyBytes buf (i * pageSize) (pageSize * b.physSegments) fun x => mem k (b.data + x))
      (show nrSeg = i + b.physSegments + _ by omega)
    have hstart : (i + b.physSegments) * pageSize =
        i * pageSize + pageSize * b.physSegments := by ring
    have hlast : i * pageSize + pageSize * b.physSegments ≤ nrSeg * pageSize := by
      rw [← hstart]
      exact Nat.mul_le_mul_right _ (by omega)
    refine ⟨buf', ?_, ?_, ?_⟩
    · rw [gatherLoop, if_pos hlt]
      exact hloop
    · have hown : (List.range' (i * pageSize) (pageSize * b.physSegments)).map buf' =
          (pagesFrom pageSize b).map (mem k) := by
        apply map_copyBytes
        intro x hx
        apply hframe
        left
        omega
      have hsplit : (nrSeg - i) * pageSize = pageSize * b.physSegments +
          (nrSeg - (i + b.physSegments)) * pageSize := by
        have hdiff : nrSeg - i = b.physSegments + (nrSeg - (i + b.physSegments)) := by omega
        rw [hdiff, Nat.add_mul]
        ring
      have happ := @List.range'_append_1 (i * pageSize) (pageSize * b.physSegments)
        ((nrSeg - (i + b.physSegments)) * pageSize)
      rw [hsplit, ← happ, List.map_append, hown, ← hstart, hrest]
      simp [places, bytesAt]
    · intro x hx
      rw [hframe x (by omega), copyBytes, if_neg (by omega)]

lemma length_places (k : Nat) (bios : List Bio) :
    (places f k bios).length = (bios.map fun b => (f b).length).sum := by
  induction bios generalizing k with
  | nil => rfl
  | cons b rest ih => simp [places, ih]

lemma memGather_eq (mem : Nat → Nat → UInt8) (req : Request) (rdmaBuf : Nat → UInt8) :
    ∃ buf, memGather mem req rdmaBuf = some buf ∧
      (List.range (req.nrPhysSegments * isPageSize)).map buf =
        bytesAt mem (places (pagesFrom isPageSize) 0 req.bios) ∧
      ∀ x, req.nrPhysSegments * isPageSize ≤ x → buf x = rdmaBuf x := by
  obtain ⟨buf, hloop, hbytes, hframe⟩ :=
    gatherLoop_eq isPageSize mem 0 req.bios rdmaBuf
      (show req.nrPhysSegments = 0 + _ from (Nat.zero_add _).symm)
  refine ⟨buf, hloop, ?_, fun x hx => hframe x (.inr hx)⟩
  rw [List.range_eq_range']
  simpa using hbytes

/-- A request is copied right to both places exactly when each of its bios is one run of as
many pages as it has segments. -/
theorem copiesAgree_iff (maxSglLen : Nat) (req : Request)
    (hlen : req.bytes ≤ isPageSize * maxSglLen) :
    CopiesAgree maxSglLen req ↔ ∀ b ∈ req.bios,
      b.addresses = List.range' b.data (isPageSize * b.physSegments) := by
  constructor
  · intro h
    have hmirror : req.nrPhysSegments * isPageSize = req.bytes := h.mirror
    apply places_inj (f := Bio.addresses) (g := pagesFrom isPageSize) (k := 0)
    apply eq_of_forall_map_eq
    intro label
    obtain ⟨buf, hbuf, hdata, -⟩ := h.gather (fun k a => label (k, a)) fun _ => 0
    obtain ⟨buf', hbuf', hpages, -⟩ :=
      memGather_eq (fun k a => label (k, a)) req fun _ => 0
    rw [hbuf] at hbuf'
    cases hbuf'
    rw [hmirror, hdata] at hpages
    exact hpages
  · intro h
    have hplaces : places Bio.addresses 0 req.bios = places (pagesFrom isPageSize) 0 req.bios :=
      places_congr h
    have hmirror : req.nrPhysSegments * isPageSize = req.bytes := by
      have hlength := congrArg List.length hplaces
      rw [length_places, length_places] at hlength
      have hsum : (req.bios.map fun b => (pagesFrom isPageSize b).length).sum =
          req.nrPhysSegments * isPageSize := by
        rw [Request.nrPhysSegments, Nat.mul_comm, ← List.sum_map_mul_left]
        simp [pagesFrom]
      rw [← hsum, ← hlength]
      rfl
    refine ⟨fun mem rdmaBuf => ?_, hmirror⟩
    obtain ⟨buf, hbuf, hpages, hframe⟩ := memGather_eq mem req rdmaBuf
    refine ⟨buf, hbuf, ?_, fun x hx => hframe x (by omega)⟩
    rw [← hmirror, hpages, hplaces]

/-- A request of one segment. -/
def oneSegment (addr len : Nat) (h : 0 < len) : Request :=
  ⟨[⟨[⟨addr, len, h⟩], by simp⟩], by simp⟩

lemma oneSegment_bytes (addr len : Nat) (h : 0 < len) : (oneSegment addr len h).bytes = len := by
  simp [oneSegment, Request.bytes, Bio.addresses]

/-- Two bios of one page each. -/
theorem copiesAgree_two_pages :
    CopiesAgree 2 ⟨[⟨[pageAt 8192], by simp⟩, ⟨[pageAt 0], by simp⟩], by simp⟩ := by
  rw [copiesAgree_iff 2 _ (by simp [Request.bytes, Bio.addresses, pageAt, isPageSize])]
  simp [Bio.addresses, Bio.data, Bio.physSegments, pageAt]

/-- One segment of two pages: one page is gathered and mirrored, two are written by RDMA. One
segment of 512 bytes: a whole page is mirrored. -/
theorem copies_differ :
    ((oneSegment 0 8192 (by decide)).bytes = 8192 ∧
      bioGenerate (oneSegment 0 8192 (by decide)) = 4096 ∧
      ¬CopiesAgree 2 (oneSegment 0 8192 (by decide))) ∧
    (oneSegment 0 512 (by decide)).bytes = 512 ∧
      bioGenerate (oneSegment 0 512 (by decide)) = 4096 ∧
      ¬CopiesAgree 1 (oneSegment 0 512 (by decide)) := by
  refine ⟨⟨oneSegment_bytes .., rfl, fun h => ?_⟩, oneSegment_bytes .., rfl, fun h => ?_⟩
  · have hmirror := h.mirror
    rw [oneSegment_bytes] at hmirror
    exact absurd hmirror (by decide)
  · have hmirror := h.mirror
    rw [oneSegment_bytes] at hmirror
    exact absurd hmirror (by decide)

end DisStore.Proofs
