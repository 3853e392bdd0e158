import Mathlib.Tactic

/-!
# Pages, writes of extents and histories of completed requests

A medium is a function from page numbers to contents. An extent is a run of pages with their
contents; writing a list of extents one after the other leaves in every page what the last
extent that covers it holds. A history of completed requests reads its own writes if every
read returns what the completed writes before it have left.
-/

namespace DisStore.Lib

variable {α : Type*}

/-- `pages` pages from page `first` on; `data` is indexed from 0. -/
structure Extent (α : Type*) where
  first : Nat
  pages : Nat
  data : Nat → α

def Extent.covers (e : Extent α) (p : Nat) : Prop := e.first ≤ p ∧ p < e.first + e.pages

instance (e : Extent α) (p : Nat) : Decidable (e.covers p) :=
  inferInstanceAs (Decidable (_ ∧ _))

/-- The medium after the extent has been written. -/
def Extent.write (e : Extent α) (m : Nat → α) : Nat → α := fun p =>
  if e.covers p then e.data (p - e.first) else m p

lemma Extent.write_of_covers {e : Extent α} {p : Nat} (h : e.covers p) (m : Nat → α) :
    e.write m p = e.data (p - e.first) := if_pos h

lemma Extent.write_of_not_covers {e : Extent α} {p : Nat} (h : ¬e.covers p) (m : Nat → α) :
    e.write m p = m p := if_neg h

/-- The medium after the extents have been written in order. -/
def writeAll (es : List (Extent α)) (m : Nat → α) : Nat → α := es.foldl (fun m e => e.write m) m

lemma writeAll_cons (e : Extent α) (es : List (Extent α)) (m : Nat → α) :
    writeAll (e :: es) m = writeAll es (e.write m) := rfl

lemma writeAll_snoc (es : List (Extent α)) (e : Extent α) (m : Nat → α) :
    writeAll (es ++ [e]) m = e.write (writeAll es m) := by
  rw [writeAll, List.foldl_append]
  rfl

lemma writeAll_of_not_covers {es : List (Extent α)} {p : Nat} (h : ∀ e ∈ es, ¬e.covers p)
    (m : Nat → α) : writeAll es m p = m p := by
  induction es generalizing m with
  | nil => rfl
  | cons e es ih =>
    rw [writeAll_cons, ih (fun e' he' => h e' (List.mem_cons_of_mem _ he')),
      Extent.write_of_not_covers (h e List.mem_cons_self)]

/-- A completed request: the pages that it has written or that it returns. -/
structure Completion (α : Type*) extends Extent α where
  write : Bool

/-- The writes of a history, in the order of their completion. -/
def writesOf (history : List (Completion α)) : List (Extent α) :=
  (history.filter Completion.write).map Completion.toExtent

/-- What the completed writes have left on a medium. -/
def lastWritten (m : Nat → α) (history : List (Completion α)) : Nat → α :=
  writeAll (writesOf history) m

lemma lastWritten_snoc (m : Nat → α) (history : List (Completion α)) (e : Completion α) :
    lastWritten m (history ++ [e]) =
      if e.write then e.toExtent.write (lastWritten m history) else lastWritten m history := by
  cases hw : e.write with
  | true =>
    simp only [lastWritten, writesOf, List.filter_append, List.filter_cons, hw, if_true,
      List.filter_nil, List.map_append, List.map_cons, List.map_nil, writeAll_snoc]
  | false =>
    simp [lastWritten, writesOf, hw]

/-- Every completed read returns what the writes completed before it have left on a medium that
held `m`. -/
def ReadsItsWrites (m : Nat → α) (history : List (Completion α)) : Prop :=
  ∀ l e l', history = l ++ e :: l' → e.write = false →
    ∀ p, e.toExtent.covers p → e.data (p - e.first) = lastWritten m l p

lemma ReadsItsWrites.get {m : Nat → α} {history : List (Completion α)} {e : Completion α} {k : Nat}
    (h : ReadsItsWrites m history) (hk : history[k]? = some e) (he : e.write = false) {p : Nat}
    (hp : e.toExtent.covers p) : e.data (p - e.first) = lastWritten m (history.take k) p := by
  obtain ⟨hlt, rfl⟩ := List.getElem?_eq_some_iff.mp hk
  refine h _ _ (history.drop (k + 1)) ?_ he p hp
  rw [List.cons_getElem_drop_succ, List.take_append_drop]

lemma ReadsItsWrites.snoc {m : Nat → α} {history : List (Completion α)} {e : Completion α}
    (h : ReadsItsWrites m history)
    (he : e.write = false → ∀ p, e.toExtent.covers p →
      e.data (p - e.first) = lastWritten m history p) :
    ReadsItsWrites m (history ++ [e]) := by
  intro l a l' heq
  rcases List.eq_nil_or_concat l' with rfl | ⟨l'', b, rfl⟩
  · obtain ⟨rfl, ha⟩ := List.append_inj' heq rfl
    rw [List.singleton_inj] at ha
    exact ha ▸ he
  · have hsplit : history ++ [e] = (l ++ a :: l'') ++ [b] := by simpa using heq
    obtain ⟨rfl, -⟩ := List.append_inj' hsplit rfl
    exact h l a l'' rfl

end DisStore.Lib
