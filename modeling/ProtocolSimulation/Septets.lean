import Mathlib.Data.Nat.Bitwise

/-!
# Numbers in groups of seven bits

The least significant group comes first; the top bit of a byte says that more
follow.
-/
namespace ProtocolSimulation.Septets

/-! ## Bits -/

theorem toNat_and_7f (b : UInt8) : (b &&& 0x7f).toNat = b.toNat % 128 := by
  rw [UInt8.toNat_and]
  exact Nat.and_two_pow_sub_one_eq_mod b.toNat 7

theorem and_80_eq_zero_iff {b : UInt8} : b &&& 0x80 = 0 ↔ b.toNat < 128 := by
  have hb := b.toNat_lt
  have hand : (b &&& 0x80).toNat = (b.toNat.testBit 7).toNat * 2 ^ 7 := by
    rw [UInt8.toNat_and]
    exact Nat.and_two_pow b.toNat 7
  rw [← UInt8.toNat_inj, hand, Nat.testBit_eq_decide_div_mod_eq]
  by_cases h : b.toNat / 2 ^ 7 % 2 = 1
  · simp only [h, decide_true, Bool.toNat_true, UInt8.toNat_zero]
    omega
  · simp only [h, decide_false, Bool.toNat_false, UInt8.toNat_zero]
    omega

theorem toNat_80_or {b : UInt8} (h : b.toNat < 128) : (0x80 ||| b).toNat = 128 + b.toNat := by
  have hbit : (0x80 : UInt8).toNat = 2 ^ 7 * 1 := rfl
  rw [UInt8.toNat_or, hbit, ← Nat.two_pow_add_eq_or_of_lt h]

/-! ## Fields -/

/-- Bytes of which the last one only says that no more follow. -/
inductive IsField : List UInt8 → Prop where
  | last (b : UInt8) (h : b.toNat < 128) : IsField [b]
  | more (b : UInt8) (h : 128 ≤ b.toNat) {field : List UInt8} (hfield : IsField field) :
      IsField (b :: field)

def value : List UInt8 → ℕ
  | [] => 0
  | b :: field => b.toNat % 128 + 128 * value field

def encode (n : ℕ) : List UInt8 :=
  if n < 128 then [UInt8.ofNat n] else UInt8.ofNat (n % 128 + 128) :: encode (n / 128)
termination_by n
decreasing_by omega

theorem toNat_ofNat {n : ℕ} (h : n < 256) : (UInt8.ofNat n).toNat = n :=
  UInt8.toNat_ofNat_of_lt' (by rw [UInt8.size]; omega)

theorem value_encode (n : ℕ) : value (encode n) = n := by
  induction n using encode.induct with
  | case1 n h =>
    rw [encode, if_pos h, value, toNat_ofNat (by omega), Nat.mod_eq_of_lt h, value,
      Nat.mul_zero, Nat.add_zero]
  | case2 n h ih =>
    rw [encode, if_neg h, value, ih, toNat_ofNat (by omega)]
    omega

theorem isField_encode (n : ℕ) : IsField (encode n) := by
  induction n using encode.induct with
  | case1 n h =>
    rw [encode, if_pos h]
    apply IsField.last
    rw [toNat_ofNat (by omega)]
    exact h
  | case2 n h ih =>
    rw [encode, if_neg h]
    apply IsField.more _ _ ih
    rw [toNat_ofNat (by omega)]
    omega

theorem encode_length_le {n k : ℕ} (h : n < 128 ^ (k + 1)) : (encode n).length ≤ k + 1 := by
  induction k generalizing n with
  | zero =>
    have hlt : n < 128 := by simpa using h
    rw [encode, if_pos hlt]
    simp
  | succ k ih =>
    rw [encode]
    split_ifs with hlt
    · simp
    · have hrest : n / 128 < 128 ^ (k + 1) := by
        rw [Nat.div_lt_iff_lt_mul (by decide)]
        rwa [pow_succ] at h
      rw [List.length_cons]
      have := ih hrest
      omega

end ProtocolSimulation.Septets
