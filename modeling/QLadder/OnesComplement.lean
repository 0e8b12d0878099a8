/-!
# Sums in one's complement

A sum of digits to a base `b` is brought back to one digit by adding the carries
in again, and its complement is what has to be added to make all digits full.
This file collects what can be said about such sums without knowing what they
are taken of:

* `fold_lt`, `fold_mod` — folding leaves one digit, and the remainder by `b - 1`;
* `fold_eq_top` — the full digit is what every positive multiple of `b - 1`
  is folded to;
* `fold_add_complement` — a sum with its complement is such a multiple.

The digits of a byte string are its pairs of bytes, the low byte first;
`wordSum` adds them up.
-/

namespace OnesComplement

/-- Add the carries in until one digit is left. -/
def fold (base n : Nat) : Nat :=
  if 2 ≤ base ∧ base ≤ n then fold base (n / base + n % base) else n
termination_by n
decreasing_by
  rename_i h
  have hdiv := Nat.div_add_mod n base
  have hpos : 0 < n / base := Nat.div_pos h.2 (by omega)
  have hdouble : 2 * (n / base) ≤ base * (n / base) := Nat.mul_le_mul_right _ h.1
  omega

variable {base : Nat}

theorem fold_of_lt {n : Nat} (h : n < base) : fold base n = n := by
  rw [fold, if_neg (by omega)]

theorem fold_of_le (hbase : 2 ≤ base) {n : Nat} (h : base ≤ n) :
    fold base n = fold base (n / base + n % base) := by
  rw [fold, if_pos ⟨hbase, h⟩]

/-- One digit is left. -/
theorem fold_lt (hbase : 2 ≤ base) (n : Nat) : fold base n < base := by
  fun_induction fold base n with
  | case1 n _ ih => exact ih
  | case2 n h => omega

/-- A carry is worth `base`, and one more than `base - 1`. -/
theorem carry_mod (n : Nat) :
    (n / base + n % base) % (base - 1) = n % (base - 1) := by
  cases base with
  | zero => simp
  | succ top =>
      have hdiv := Nat.div_add_mod n (top + 1)
      rw [Nat.add_sub_cancel]
      generalize n / (top + 1) = high at hdiv ⊢
      generalize n % (top + 1) = low at hdiv ⊢
      rw [← hdiv, Nat.succ_mul, Nat.add_assoc, Nat.mul_add_mod]

/-- Folding keeps the remainder. -/
theorem fold_mod (n : Nat) : fold base n % (base - 1) = n % (base - 1) := by
  fun_induction fold base n with
  | case1 n _ ih => exact ih.trans (carry_mod n)
  | case2 n _ => rfl

/-- Nothing but zero is folded to zero. -/
theorem fold_eq_zero (n : Nat) : fold base n = 0 ↔ n = 0 := by
  fun_induction fold base n with
  | case1 n h ih =>
      have hdiv := Nat.div_add_mod n base
      have hpos : 0 < n / base := Nat.div_pos h.2 (by omega)
      rw [ih]
      omega
  | case2 n _ => rfl

/-- **The full digit** stands for the positive multiples of `base - 1`. -/
theorem fold_eq_top (hbase : 2 ≤ base) (n : Nat) :
    fold base n = base - 1 ↔ 0 < n ∧ n % (base - 1) = 0 := by
  have hlt := fold_lt hbase n
  have hmod := @fold_mod base n
  have hzero := @fold_eq_zero base n
  constructor
  · intro htop
    rw [htop, Nat.mod_self] at hmod
    exact ⟨by omega, hmod.symm⟩
  · intro h
    rw [h.2] at hmod
    obtain ⟨k, hk⟩ := Nat.dvd_of_mod_eq_zero hmod
    cases k with
    | zero => omega
    | succ k =>
        have hle : (base - 1) * 1 ≤ (base - 1) * (k + 1) := Nat.mul_le_mul_left _ (by omega)
        omega

/-- What is missing to the full digit. -/
def complement (base n : Nat) : Nat :=
  base - 1 - fold base n

/-- **A sum and its complement** fill the digit. -/
theorem fold_add_complement (hbase : 2 ≤ base) (n : Nat) :
    fold base (n + complement base n) = base - 1 := by
  have hlt := fold_lt hbase n
  have hzero := @fold_eq_zero base n
  have hadd : (n + complement base n) % (base - 1) =
      (fold base n + complement base n) % (base - 1) := by
    rw [Nat.add_mod, ← fold_mod n, ← Nat.add_mod]
  rw [fold_eq_top hbase]
  constructor
  · rw [complement]
    omega
  · rw [hadd, complement, Nat.add_sub_cancel' (by omega), Nat.mod_self]

/-! ## Words of bytes -/

/-- The sum of the pairs of bytes, the low byte first; a last byte stands alone. -/
def wordSum : List UInt8 → Nat
  | [] => 0
  | [low] => low.toNat
  | low :: high :: rest => low.toNat + 256 * high.toNat + wordSum rest

/-- Cut between two words. -/
theorem wordSum_append {front : List UInt8} (back : List UInt8) (h : front.length % 2 = 0) :
    wordSum (front ++ back) = wordSum front + wordSum back := by
  fun_induction wordSum front with
  | case1 => simp
  | case2 low => simp at h
  | case3 low high rest ih =>
      have hrest : rest.length % 2 = 0 := by
        simp only [List.length_cons] at h
        omega
      simp only [List.cons_append, wordSum, ih hrest]
      omega

/-- No word is larger than `65535`. -/
theorem wordSum_le (bytes : List UInt8) : wordSum bytes ≤ 65535 * ((bytes.length + 1) / 2) := by
  fun_induction wordSum bytes with
  | case1 => simp
  | case2 low =>
      have hlow := low.toNat_lt
      simp only [List.length_cons, List.length_nil]
      omega
  | case3 low high rest ih =>
      have hlow := low.toNat_lt
      have hhigh := high.toNat_lt
      simp only [List.length_cons]
      have hcount : (rest.length + 1 + 1 + 1) / 2 = (rest.length + 1) / 2 + 1 := by omega
      rw [hcount]
      omega

end OnesComplement
