import Mathlib.Data.List.Nodup
import Mathlib.Logic.Function.Iterate

/-!
# Rings in a successor function

A singly linked ring is a list of distinct nodes that the successor function walks
through and closes. The two operations of a clock hand are moving to the successor,
which rotates the list, and splicing a new node in place of the head.
-/

namespace DisStore.Lib

variable {ι : Type*}

/-- Following `next` from `a` visits the nodes of the list and then arrives at `b`. -/
def RingPath (next : ι → ι) : ι → List ι → ι → Prop
  | a, [], b => next a = b
  | a, c :: rest, b => next a = c ∧ RingPath next c rest b

/-- The nonempty list is a ring of distinct nodes, read from its head. -/
def IsRing (next : ι → ι) : List ι → Prop
  | [] => False
  | a :: rest => RingPath next a rest a ∧ (a :: rest).Nodup

lemma RingPath.congr {f g : ι → ι} {a b : ι} {l : List ι}
    (hfg : ∀ x ∈ a :: l, f x = g x) (h : RingPath f a l b) : RingPath g a l b := by
  induction l generalizing a with
  | nil =>
    have ha := hfg a (by simp)
    exact ha.symm.trans h
  | cons c rest ih =>
    have ha := hfg a (by simp)
    refine ⟨ha ▸ h.1, ih (fun x hx => hfg x (List.mem_cons_of_mem _ hx)) h.2⟩

lemma RingPath.append {next : ι → ι} {a b c : ι} {l : List ι}
    (h : RingPath next a l b) (hc : next b = c) : RingPath next a (l ++ [b]) c := by
  induction l generalizing a with
  | nil => exact ⟨h, hc⟩
  | cons d rest ih => exact ⟨h.1, ih h.2⟩

lemma RingPath.map_iterate {next : ι → ι} {a b : ι} {l : List ι} (h : RingPath next a l b) :
    (List.range l.length).map (fun i => next^[i + 1] a) = l ∧ next^[l.length + 1] a = b := by
  induction l generalizing a with
  | nil => exact ⟨rfl, h⟩
  | cons c rest ih =>
    obtain ⟨hwalk, hend⟩ := ih h.2
    constructor
    · rw [List.length_cons, List.range_succ_eq_map, List.map_cons, List.map_map]
      have hc : next^[0 + 1] a = c := h.1
      rw [hc]
      congr 1
      apply Eq.trans _ hwalk
      apply List.map_congr_left
      intro i hi
      simp only [Function.comp_apply, Function.iterate_succ_apply, h.1]
    · rw [List.length_cons, Function.iterate_succ_apply, h.1]
      exact hend

lemma RingPath.redirect [DecidableEq ι] {next : ι → ι} {a b v : ι} {l : List ι}
    (hn : (a :: l).Nodup) (h : RingPath next a l b) :
    RingPath (Function.update next ((a :: l).getLast (by simp)) v) a l v := by
  induction l generalizing a with
  | nil => simp [RingPath]
  | cons c rest ih =>
    have hrest := ih (List.nodup_cons.mp hn).2 h.2
    have hlast : (a :: c :: rest).getLast (by simp) = (c :: rest).getLast (by simp) :=
      List.getLast_cons (by simp)
    rw [hlast]
    refine ⟨?_, hrest⟩
    have hne : a ≠ (c :: rest).getLast (by simp) := by
      intro he
      have hmem := List.getLast_mem (l := c :: rest) (by simp)
      exact (List.nodup_cons.mp hn).1 (he ▸ hmem)
    rw [Function.update_of_ne hne]
    exact h.1

lemma RingPath.range' {next : Nat → Nat} {b : Nat} (a n : Nat)
    (hstep : ∀ i, a ≤ i → i < a + n → next i = i + 1) (hend : next (a + n) = b) :
    RingPath next a (List.range' (a + 1) n) b := by
  induction n generalizing a with
  | zero => exact hend
  | succ n ih =>
    refine ⟨hstep a (by omega) (by omega), ih (a + 1) (fun i h1 h2 => ?_) ?_⟩
    · exact hstep i (by omega) (by omega)
    · rw [show a + 1 + n = a + (n + 1) by omega]
      exact hend

namespace IsRing

variable {next : ι → ι}

lemma ne_nil {l : List ι} (h : IsRing next l) : l ≠ [] := by
  intro hl
  subst hl
  exact h

lemma nodup {l : List ι} (h : IsRing next l) : l.Nodup := by
  cases l with
  | nil => exact h.elim
  | cons a rest => exact h.2

/-- The hand moves on: the ring is read from the successor of its head. -/
lemma rotate {a : ι} {rest : List ι} (h : IsRing next (a :: rest)) :
    IsRing next (rest ++ [a]) ∧ (rest ++ [a]).head? = some (next a) := by
  have hn : (rest ++ [a]).Nodup := List.nodup_append_comm.mpr h.2
  cases rest with
  | nil =>
    refine ⟨⟨h.1, hn⟩, ?_⟩
    have ha : next a = a := h.1
    simp [ha]
  | cons b rest =>
    refine ⟨⟨h.1.2.append h.1.1, hn⟩, ?_⟩
    simp [h.1.1]

/-- A node outside the ring takes the place of the head: the last node points to the
new one, which inherits the successor that the head has by then. -/
lemma replaceHead [DecidableEq ι] {a v : ι} {rest : List ι} (h : IsRing next (a :: rest))
    (hv : v ∉ a :: rest) :
    let spliced := Function.update next ((a :: rest).getLast (by simp)) v
    IsRing (Function.update spliced v (spliced a)) (v :: rest) := by
  have hvr : v ∉ rest := fun hm => hv (List.mem_cons_of_mem _ hm)
  have hn : (v :: rest).Nodup := List.nodup_cons.mpr ⟨hvr, (List.nodup_cons.mp h.2).2⟩
  have hp := h.1.redirect (v := v) h.2
  refine ⟨?_, hn⟩
  cases rest with
  | nil => simp [RingPath]
  | cons b rest =>
    refine ⟨by simpa using hp.1, ?_⟩
    refine RingPath.congr (fun x hx => ?_) hp.2
    have hxv : x ≠ v := fun he => hvr (he ▸ hx)
    rw [Function.update_of_ne hxv]

lemma map_iterate {a : ι} {rest : List ι} (h : IsRing next (a :: rest)) :
    (List.range (a :: rest).length).map (fun i => next^[i] a) = a :: rest ∧
      next^[(a :: rest).length] a = a := by
  have hpath := RingPath.map_iterate h.1
  refine ⟨?_, hpath.2⟩
  rw [List.length_cons, List.range_succ_eq_map, List.map_cons, List.map_map]
  exact congrArg (a :: ·) hpath.1

end IsRing

end DisStore.Lib
