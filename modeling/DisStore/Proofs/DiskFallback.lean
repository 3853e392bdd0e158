import DisStore.Bio

/-!
# Requests that go to disk

`stackbd_make_request2` and `stackbd_make_request4` count segments but step over bios, give a
callback to the last clone only, and have no bio to end when the device is not ready. For any
order of completions the request is completed right only if it is one bio of one segment.
-/

namespace DisStore.Proofs
open DisStore

/-- However the disk completes the clones, the request is ended once, after the last of them,
and with an error if one failed. -/
def CompletesWhole (clones : List Clone) : Prop :=
  ∀ completions : List (Nat × Bool),
    (completions.map Prod.fst).Perm (List.range clones.length) →
    (∃ err, endCalls clones completions = [err] ∧
      ((∃ x ∈ completions, x.2 = true) → err = true)) ∧
    ∀ n < completions.length, endCalls clones (completions.take n) = []

/-- A clone of each bio is queued in the order of the chain and the request is completed as a
whole; a device that is not ready queues nothing and ends the request with an error. -/
def FallbackOk (make : Stackbd → Request → Option (Stackbd × List Bool)) (s : Stackbd)
    (req : Request) : Prop :=
  if s.bdevRaw = true ∧ s.isActive = true then
    ∃ s' clones, make s req = some (s', []) ∧ s'.bioList = s.bioList ++ clones ∧
      clones.map Clone.src = req.bios ∧ CompletesWhole clones
  else make s req = some (s, [true])

variable {s s' : Stackbd} {req : Request} {callback : EndIo}

lemma cloneLoop_eq (n : Nat) (chain : List Bio) (bioList : List Clone) :
    cloneLoop n chain bioList = if n ≤ chain.length then
      some (chain.drop n, bioList ++ (chain.take n).map fun b => ⟨b, none⟩) else none := by
  induction n generalizing chain bioList with
  | zero => simp [cloneLoop]
  | succ n ih =>
    cases chain with
    | nil => simp [cloneLoop]
    | cons b rest =>
      rw [cloneLoop, ih]
      simp

lemma physSegments_pos (b : Bio) : 0 < b.physSegments := List.length_pos_iff.mpr b.segments_ne

lemma length_le_sum_physSegments (bios : List Bio) :
    bios.length ≤ (bios.map Bio.physSegments).sum := by
  induction bios with
  | nil => simp
  | cons b rest ih =>
    have hpos := physSegments_pos b
    simp only [List.length_cons, List.map_cons, List.sum_cons]
    omega

lemma makeRequest_ready (hraw : s.bdevRaw = true) (hactive : s.isActive = true) :
    makeRequest callback s req = (cloneLoop (req.nrPhysSegments - 1) req.bios s.bioList).bind
      fun r => match r.1 with
        | [] => none
        | b :: _ => some ({ s with bioList := r.2 ++ [⟨b, some callback⟩] }, []) := by
  rw [makeRequest, if_neg (by simp [hraw, hactive])]
  rfl

lemma makeRequest_queues {ends : List Bool} (hraw : s.bdevRaw = true)
    (hactive : s.isActive = true) (h : makeRequest callback s req = some (s', ends)) :
    req.nrPhysSegments = req.bios.length ∧ ∃ front last, req.bios = front ++ [last] ∧
      s'.bioList = s.bioList ++ (front.map (fun b => ⟨b, none⟩) ++ [⟨last, some callback⟩]) := by
  rw [makeRequest_ready hraw hactive, cloneLoop_eq] at h
  have hle : req.bios.length ≤ req.nrPhysSegments := length_le_sum_physSegments req.bios
  have hpos := List.length_pos_iff.mpr req.bios_ne
  split at h
  · next hn =>
    simp only [Option.bind_some] at h
    split at h
    · cases h
    · next b rest hdrop =>
      have hlen := congrArg List.length hdrop
      rw [List.length_drop, List.length_cons] at hlen
      have hrest : rest = [] := List.length_eq_zero_iff.mp (by omega)
      subst hrest
      refine ⟨by omega, req.bios.take (req.nrPhysSegments - 1), b, ?_, ?_⟩
      · rw [← hdrop, List.take_append_drop]
      · obtain ⟨rfl, -⟩ := Prod.mk.inj (Option.some.inj h)
        simp
  · cases h

lemma not_completesWhole {front : List Clone} {last : Clone} (hfront : front ≠ [])
    (hlast : last.endIo = some callback) : ¬CompletesWhole (front ++ [last]) := by
  intro h
  have hpos := List.length_pos_iff.mpr hfront
  obtain ⟨-, hprefix⟩ := h ((front.length, false) :: (List.range front.length).map (·, false)) (by
    rw [List.map_cons, List.map_map, List.length_append, List.length_singleton, List.range_succ]
    change (front.length :: (List.range front.length).map id).Perm _
    rw [List.map_id]
    exact (List.perm_append_singleton _ _).symm)
  have hone := hprefix 1 (by simp; omega)
  simp [endCalls, hlast] at hone

lemma completesWhole_single {last : Clone} (hlast : last.endIo = some callback) :
    CompletesWhole [last] := by
  intro completions hperm
  have hmap : completions.map Prod.fst = [0] := List.perm_singleton.mp hperm
  obtain ⟨x, rest, rfl, hx, hrest⟩ := List.map_eq_cons_iff.mp hmap
  have hrest : rest = [] := List.map_eq_nil_iff.mp hrest
  subst hrest
  obtain ⟨i, err⟩ := x
  have hi : i = 0 := hx
  subst hi
  constructor
  · refine ⟨err, by simp [endCalls, hlast], ?_⟩
    rintro ⟨x, hx, herr⟩
    rw [List.mem_singleton] at hx
    subst hx
    exact herr
  · intro n hn
    have hn : n = 0 := by simpa using hn
    subst hn
    rfl

lemma fallbackOk_makeRequest_iff : FallbackOk (makeRequest callback) s req ↔
    s.bdevRaw = true ∧ s.isActive = true ∧ ∃ b, req.bios = [b] ∧ b.physSegments = 1 := by
  by_cases hready : s.bdevRaw = true ∧ s.isActive = true
  · obtain ⟨hraw, hactive⟩ := hready
    rw [FallbackOk, if_pos ⟨hraw, hactive⟩]
    constructor
    · rintro ⟨s', clones, hmake, hqueue, hsrc, hwhole⟩
      obtain ⟨hcount, front, last, hbios, hlist⟩ := makeRequest_queues hraw hactive hmake
      rw [hqueue] at hlist
      have hclones := List.append_cancel_left hlist
      subst hclones
      have hfront : front = [] := by
        by_contra hne
        exact not_completesWhole (by simpa using hne) rfl hwhole
      subst hfront
      refine ⟨hraw, hactive, last, hbios, ?_⟩
      simpa [Request.nrPhysSegments, hbios] using hcount
    · rintro ⟨-, -, b, hbios, hseg⟩
      refine ⟨{ s with bioList := s.bioList ++ [⟨b, some callback⟩] }, [⟨b, some callback⟩],
        ?_, rfl, by simp [hbios], completesWhole_single rfl⟩
      rw [makeRequest_ready hraw hactive, cloneLoop_eq]
      simp [Request.nrPhysSegments, hbios, hseg]
  · rw [FallbackOk, if_neg hready]
    have hnone : makeRequest callback s req = none := by
      rw [makeRequest, if_pos]
      simp only [not_and_or, Bool.not_eq_true] at hready
      exact hready
    rw [hnone]
    simp only [reduceCtorEq, false_iff]
    exact fun h => hready ⟨h.1, h.2.1⟩

theorem fallbackOk_iff (s : Stackbd) (req : Request) :
    FallbackOk makeRequest2 s req ∧ FallbackOk makeRequest4 s req ↔
      s.bdevRaw = true ∧ s.isActive = true ∧ ∃ b, req.bios = [b] ∧ b.physSegments = 1 := by
  have h2 : FallbackOk makeRequest2 s req ↔ _ := fallbackOk_makeRequest_iff
  have h4 : FallbackOk makeRequest4 s req ↔ _ := fallbackOk_makeRequest_iff
  rw [h2, h4, and_self]

/-- A segment of one page. -/
def pageAt (addr : Nat) : Segment := ⟨addr, isPageSize, by decide⟩

/-- One bio of two pages that are not adjacent: the chain is at its end when the second clone
is made. Two bios of one page: the request is ended while the first clone is still on its way,
and the error of that clone is lost. A device that is not active: a NULL bio is ended. -/
theorem fallback_loses_bios :
    makeRequest2 ⟨true, true, []⟩ ⟨[⟨[pageAt 0, pageAt 8192], by simp⟩], by simp⟩ = none ∧
      (∃ s', makeRequest2 ⟨true, true, []⟩
          ⟨[⟨[pageAt 0], by simp⟩, ⟨[pageAt 8192], by simp⟩], by simp⟩ = some (s', []) ∧
        endCalls s'.bioList [(1, false)] = [false] ∧
        endCalls s'.bioList [(1, false), (0, true)] = [false]) ∧
      makeRequest2 ⟨true, false, []⟩ ⟨[⟨[pageAt 0], by simp⟩], by simp⟩ = none ∧
      ¬(FallbackOk makeRequest2 ⟨true, true, []⟩
          ⟨[⟨[pageAt 0], by simp⟩, ⟨[pageAt 8192], by simp⟩], by simp⟩ ∧
        FallbackOk makeRequest4 ⟨true, true, []⟩
          ⟨[⟨[pageAt 0], by simp⟩, ⟨[pageAt 8192], by simp⟩], by simp⟩) := by
  refine ⟨rfl, ⟨_, rfl, rfl, rfl⟩, rfl, ?_⟩
  rintro ⟨h, -⟩
  obtain ⟨-, -, b, hbios, -⟩ := fallbackOk_makeRequest_iff.mp h
  simp at hbios

end DisStore.Proofs
