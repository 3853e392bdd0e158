import Mathlib.Tactic

/-!
# Items split evenly into consecutive buckets

`q` items go in order into `n` buckets; the first `q % n` buckets take one item more than the
others. Bucket `k` holds the items from `bucketStart q n k` on, `bucketSize q n k` of them.
-/

namespace DisStore.Lib

def bucketSize (q n k : Nat) : Nat := if k < q % n then q / n + 1 else q / n

def bucketStart (q n k : Nat) : Nat := k * (q / n) + min k (q % n)

variable {q n : Nat}

lemma bucketStart_zero (q n : Nat) : bucketStart q n 0 = 0 := by
  simp [bucketStart]

lemma bucketStart_succ (q n k : Nat) :
    bucketStart q n (k + 1) = bucketStart q n k + bucketSize q n k := by
  have hmul : (k + 1) * (q / n) = k * (q / n) + q / n := Nat.succ_mul ..
  unfold bucketStart bucketSize
  split <;> omega

lemma bucketStart_mono (q n : Nat) : Monotone (bucketStart q n) :=
  monotone_nat_of_le_succ fun k => (bucketStart_succ q n k).symm ▸ Nat.le_add_right ..

lemma bucketStart_last (hn : 0 < n) : bucketStart q n n = q := by
  have hmod := Nat.mod_lt q hn
  have hdiv := Nat.div_add_mod q n
  unfold bucketStart
  omega

lemma bucket_lt_of_start_lt (hn : 0 < n) {k : Nat} (h : bucketStart q n k < q) : k < n := by
  by_contra hk
  have hle := bucketStart_mono q n (Nat.le_of_not_lt hk)
  rw [bucketStart_last hn] at hle
  omega

lemma bucketSize_pos {k : Nat} (h : bucketStart q n k < q) :
    0 < bucketSize q n k := by
  unfold bucketSize
  split
  · exact Nat.succ_pos _
  · rename_i hk
    by_contra hzero
    -- with empty buckets after the first `q % n` all items lie before bucket `k`
    have hdiv := Nat.div_add_mod q n
    have hfloor : q / n = 0 := Nat.eq_zero_of_not_pos hzero
    rw [hfloor] at hdiv
    unfold bucketStart at h
    rw [hfloor] at h
    omega

lemma bucket_le {h h' k k' : Nat} (hh : h ≤ h') (hk : bucketStart q n k ≤ h)
    (hk' : h' < bucketStart q n k' + bucketSize q n k') : k ≤ k' := by
  by_contra hlt
  have hnext := bucketStart_mono q n (Nat.succ_le_of_lt (Nat.lt_of_not_le hlt))
  rw [Nat.succ_eq_add_one, bucketStart_succ] at hnext
  omega

lemma card_bucket (hn : 0 < n) {k : Nat} (hk : k < n) :
    ((Finset.range q).filter fun h =>
      bucketStart q n k ≤ h ∧ h < bucketStart q n k + bucketSize q n k).card =
      bucketSize q n k := by
  have hend : bucketStart q n k + bucketSize q n k ≤ q := by
    have hnext := bucketStart_mono q n (Nat.succ_le_of_lt hk)
    rw [Nat.succ_eq_add_one, bucketStart_succ, bucketStart_last hn] at hnext
    exact hnext
  have hset : (Finset.range q).filter (fun h =>
      bucketStart q n k ≤ h ∧ h < bucketStart q n k + bucketSize q n k) =
      Finset.Ico (bucketStart q n k) (bucketStart q n k + bucketSize q n k) := by
    ext h
    simp only [Finset.mem_filter, Finset.mem_range, Finset.mem_Ico]
    omega
  rw [hset, Nat.card_Ico]
  omega

lemma bucketSize_eq (hn : 0 < n) (k : Nat) :
    bucketSize q n k = if k < q % n then (q + n - 1) / n else q / n := by
  unfold bucketSize
  by_cases hk : k < q % n
  · have hmod := Nat.mod_lt q hn
    have hdiv := Nat.div_add_mod q n
    have hsum : q + n - 1 = (q % n - 1) + n * (q / n + 1) := by
      rw [Nat.mul_add, Nat.mul_one]
      omega
    have hsmall : (q % n - 1) / n = 0 := Nat.div_eq_of_lt (by omega)
    rw [if_pos hk, if_pos hk, hsum, Nat.add_mul_div_left _ _ hn, hsmall, Nat.zero_add]
  · rw [if_neg hk, if_neg hk]

lemma ceil_eq_bucketSize_zero (hn : 0 < n) : (q + n - 1) / n = bucketSize q n 0 := by
  by_cases hrem : 0 < q % n
  · rw [bucketSize_eq hn, if_pos hrem]
  · have hdvd : n * (q / n) = q := by
      have hdiv := Nat.div_add_mod q n
      omega
    have hsum : q + n - 1 = (n - 1) + n * (q / n) := by omega
    rw [bucketSize, if_neg hrem, hsum, Nat.add_mul_div_left _ _ hn,
      Nat.div_eq_of_lt (by omega), Nat.zero_add]

end DisStore.Lib
