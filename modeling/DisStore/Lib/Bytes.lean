import Mathlib.Tactic

/-!
# Numbers of a fixed width, and as bytes in memory for both byte orders

A number as an `int`. The bytes of a `w`-byte number in the memory of a host, the number that
such bytes stand for, and the conversion to network order, which makes the bytes in memory the
same on every host.
-/

namespace DisStore.Lib

/-- The `int` that a number is converted to. -/
def toInt32 (n : Int) : Int :=
  let r := (n % 4294967296).toNat
  if r < 2147483648 then r else r - 4294967296

lemma toInt32_eq_bmod (n : Int) : toInt32 n = n.bmod (2 ^ 32) := by
  unfold toInt32
  simp only [Int.bmod_def]
  split <;> omega

lemma toInt32_of_small {n : Int} (h0 : 0 ≤ n) (h : n < 2 ^ 31) : toInt32 n = n := by
  rw [toInt32_eq_bmod]
  apply Int.bmod_eq_of_le <;> omega

lemma toInt32_natCast {x : Nat} (h : x < 2 ^ 31) : toInt32 x = x :=
  toInt32_of_small (Int.natCast_nonneg x) (by exact_mod_cast h)

inductive ByteOrder
  | little | big
  deriving DecidableEq

/-- The `w` low bytes of `x`, the lowest first. -/
def leBytes : Nat → Nat → List UInt8
  | 0, _ => []
  | w + 1, x => UInt8.ofNat x :: leBytes w (x / 256)

/-- The number with these bytes, the lowest first. -/
def leValue : List UInt8 → Nat
  | [] => 0
  | b :: bs => b.toNat + 256 * leValue bs

/-- A `w`-byte number in memory. -/
def bytesOf : ByteOrder → Nat → Nat → List UInt8
  | .little, w, x => leBytes w x
  | .big, w, x => (leBytes w x).reverse

/-- The number that the bytes in memory stand for. -/
def valueOf : ByteOrder → List UInt8 → Nat
  | .little, bs => leValue bs
  | .big, bs => leValue bs.reverse

/-- The number with the bytes in opposite order. -/
def bswap (w x : Nat) : Nat := leValue (leBytes w x).reverse

/-- Host to network order and back: network order is big-endian. -/
def hton : ByteOrder → Nat → Nat → Nat
  | .little, w, x => bswap w x
  | .big, _, x => x

@[simp] lemma leBytes_length (w x : Nat) : (leBytes w x).length = w := by
  induction w generalizing x with
  | zero => rfl
  | succ w ih => rw [leBytes, List.length_cons, ih]

@[simp] lemma bytesOf_length (o : ByteOrder) (w x : Nat) : (bytesOf o w x).length = w := by
  cases o <;> simp [bytesOf]

lemma leValue_leBytes (w x : Nat) : leValue (leBytes w x) = x % 256 ^ w := by
  induction w generalizing x with
  | zero => simp [leBytes, leValue, Nat.mod_one]
  | succ w ih =>
    rw [leBytes, leValue, ih, pow_succ', Nat.mod_mul]
    rfl

lemma leBytes_leValue (bs : List UInt8) : leBytes bs.length (leValue bs) = bs := by
  induction bs with
  | nil => rfl
  | cons b bs ih =>
    have hlow : UInt8.ofNat (b.toNat + 256 * leValue bs) = b := by
      apply UInt8.toNat_inj.mp
      have hb := b.toNat_lt
      rw [UInt8.toNat_ofNat']
      omega
    have hhigh : (b.toNat + 256 * leValue bs) / 256 = leValue bs := by
      have hb := b.toNat_lt
      omega
    rw [List.length_cons, leValue, leBytes, hlow, hhigh, ih]

lemma valueOf_bytesOf (o : ByteOrder) (w x : Nat) : valueOf o (bytesOf o w x) = x % 256 ^ w := by
  cases o with
  | little => exact leValue_leBytes w x
  | big =>
    rw [bytesOf, valueOf, List.reverse_reverse]
    exact leValue_leBytes w x

lemma bytesOf_hton (o : ByteOrder) (w x : Nat) : bytesOf o w (hton o w x) = bytesOf .big w x := by
  cases o with
  | little =>
    have hback := leBytes_leValue (leBytes w x).reverse
    rw [List.length_reverse, leBytes_length] at hback
    exact hback
  | big => rfl

lemma hton_valueOf (o : ByteOrder) {w : Nat} {bs : List UInt8} (h : bs.length = w) :
    hton o w (valueOf o bs) = valueOf .big bs := by
  subst h
  cases o with
  | little =>
    rw [valueOf, hton, bswap, leBytes_leValue]
    rfl
  | big => rfl

lemma hton_roundtrip (o o' : ByteOrder) {w x : Nat} (hx : x < 256 ^ w) :
    hton o' w (valueOf o' (bytesOf o w (hton o w x))) = x := by
  rw [bytesOf_hton, hton_valueOf o' (bytesOf_length .big w x), valueOf_bytesOf,
    Nat.mod_eq_of_lt hx]

end DisStore.Lib
