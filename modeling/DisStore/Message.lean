import Mathlib.Tactic

/-!
# Messages between block devices and the daemon

`struct IS_rdma_info` of the block device and `struct message` of the daemon, with the byte
order functions of a little-endian host. Fixed-width fields are kept as naturals.
-/

namespace DisStore

inductive MsgType where
  | done | info | infoSingle | freeSize | evict | activity | stop | bind | bindSingle | query
  deriving DecidableEq

structure Message where
  buf : Nat → Nat
  rkey : Nat → Nat
  sizeGb : Int
  type : MsgType

/-- `htonl` and `ntohl`: the four bytes in opposite order. -/
def htonl (x : Nat) : Nat :=
  x % 256 * 2 ^ 24 + x / 256 % 256 * 2 ^ 16 + x / 2 ^ 16 % 256 * 256 + x / 2 ^ 24 % 256

/-- `htonll`, the function of the daemon. -/
def htonll (value : Nat) : Nat :=
  htonl (value % 2 ^ 32) * 2 ^ 32 + htonl (value / 2 ^ 32 % 2 ^ 32)

/-- `ntohll(x)`, the macro of both programs (and `htonll(x)` of the block device). -/
def ntohll (x : Nat) : Nat :=
  htonl (x * 2 ^ 32 % 2 ^ 64 / 2 ^ 32) * 2 ^ 32 + htonl (x / 2 ^ 32)

lemma htonl_eq_zero {x : Nat} (hx : x < 2 ^ 32) : htonl x = 0 ↔ x = 0 := by
  unfold htonl
  omega

lemma htonl_lt (x : Nat) : htonl x < 2 ^ 32 := by
  unfold htonl
  omega

/-- The bytes of a 32-bit number come out in opposite order. -/
lemma htonl_bytes {a b c d : Nat} (ha : a < 256) (hb : b < 256) (hc : c < 256) (hd : d < 256) :
    htonl (a * 2 ^ 24 + b * 2 ^ 16 + c * 256 + d) = d * 2 ^ 24 + c * 2 ^ 16 + b * 256 + a := by
  have h0 : (a * 2 ^ 24 + b * 2 ^ 16 + c * 256 + d) % 256 = d := by omega
  have h1 : (a * 2 ^ 24 + b * 2 ^ 16 + c * 256 + d) / 256 % 256 = c := by omega
  have h2 : (a * 2 ^ 24 + b * 2 ^ 16 + c * 256 + d) / 2 ^ 16 % 256 = b := by omega
  have h3 : (a * 2 ^ 24 + b * 2 ^ 16 + c * 256 + d) / 2 ^ 24 % 256 = a := by omega
  rw [htonl, h0, h1, h2, h3]

lemma htonl_htonl {x : Nat} (hx : x < 2 ^ 32) : htonl (htonl x) = x := by
  have hbyte : ∀ y, y % 256 < 256 := fun y => Nat.mod_lt y (by omega)
  rw [htonl.eq_def x, htonl_bytes (hbyte _) (hbyte _) (hbyte _) (hbyte _)]
  omega

lemma ntohll_eq (x : Nat) : ntohll x = htonl (x % 2 ^ 32) * 2 ^ 32 + htonl (x / 2 ^ 32) := by
  unfold ntohll
  congr 3
  omega

/-- The macro exchanges the two halves of a number and reverses each. -/
lemma ntohll_ntohll {x : Nat} (hx : x < 2 ^ 64) : ntohll (ntohll x) = x := by
  have hlow := htonl_lt (x / 2 ^ 32)
  have hmod : ntohll x % 2 ^ 32 = htonl (x / 2 ^ 32) := by
    rw [ntohll_eq]
    omega
  have hdiv : ntohll x / 2 ^ 32 = htonl (x % 2 ^ 32) := by
    rw [ntohll_eq]
    omega
  rw [ntohll_eq, hmod, hdiv, htonl_htonl (by omega), htonl_htonl (by omega)]
  omega

lemma ntohll_eq_zero {x : Nat} (hx : x < 2 ^ 64) : ntohll x = 0 ↔ x = 0 := by
  constructor
  · intro h
    rw [← ntohll_ntohll hx, h]
    rfl
  · rintro rfl
    rfl

/-- The function of the daemon and the macro agree on 64-bit numbers. -/
lemma htonll_eq_ntohll {x : Nat} (hx : x < 2 ^ 64) : htonll x = ntohll x := by
  rw [ntohll_eq, htonll, Nat.mod_eq_of_lt (a := x / 2 ^ 32) (by omega)]

end DisStore
