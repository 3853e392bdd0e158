import Mathlib.Logic.Basic

/-!
# Resources with at most one holder

`Exclusive holds` says that no resource has two holders. A step of a system keeps it when
holders only let go, or when the resources that it moves have one holder afterwards.
-/

namespace DisStore.Lib

/-- No resource has two holders. -/
def Exclusive {ρ η : Type*} (holds : ρ → η → Prop) : Prop :=
  ∀ r k k', holds r k → holds r k' → k = k'

namespace Exclusive

variable {ρ η : Type*} {holds holds' : ρ → η → Prop}

theorem mono (h : Exclusive holds) (hsub : ∀ r k, holds' r k → holds r k) : Exclusive holds' :=
  fun r k k' hk hk' => h r k k' (hsub r k hk) (hsub r k' hk')

/-- The moved resources have `target` as their only holder, the others have no new one. -/
theorem transfer (h : Exclusive holds) (moved : ρ → Prop) (target : η)
    (hnew : ∀ r k, holds' r k → holds r k ∨ moved r)
    (hmoved : ∀ r, moved r → ∀ k, holds' r k → k = target) : Exclusive holds' := by
  intro r k k' hk hk'
  by_cases hr : moved r
  · rw [hmoved r hr k hk, hmoved r hr k' hk']
  · have hold := (hnew r k hk).resolve_right hr
    have hold' := (hnew r k' hk').resolve_right hr
    exact h r k k' hold hold'

end Exclusive

end DisStore.Lib
