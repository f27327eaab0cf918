import Mathlib.Data.Int.ModEq
import Mathlib.Data.Nat.Digits.Defs
import Mathlib.Tactic.Ring

/-!
# Numbers in bytes, most significant first

Unsigned and two's complement readings of a byte string, the bytes of a fixed
width, and numbers in groups of seven bits whose top bit says that more follow.
-/
namespace ProtocolSimulation.BigEndian

/-! ## Digits -/

/-- The number with the given digits, the most significant first. -/
def horner (base : ℕ) (digits : List ℕ) : ℕ := digits.foldl (fun n d => base * n + d) 0

@[simp] theorem horner_nil (base : ℕ) : horner base [] = 0 := rfl

theorem foldl_eq_horner (base n : ℕ) (digits : List ℕ) :
    digits.foldl (fun n d => base * n + d) n = n * base ^ digits.length + horner base digits := by
  induction digits generalizing n with
  | nil => simp
  | cons d digits ih =>
    have htail := ih (base * n + d)
    have hhead := ih (base * 0 + d)
    simp only [horner, List.foldl_cons, List.length_cons, pow_succ] at htail hhead ⊢
    rw [htail, hhead]
    ring

theorem horner_cons (base d : ℕ) (digits : List ℕ) :
    horner base (d :: digits) = d * base ^ digits.length + horner base digits := by
  have h := foldl_eq_horner base (base * 0 + d) digits
  simpa [horner] using h

theorem horner_append (base : ℕ) (xs ys : List ℕ) :
    horner base (xs ++ ys) = horner base xs * base ^ ys.length + horner base ys := by
  rw [horner, List.foldl_append, foldl_eq_horner]
  rfl

theorem horner_concat (base d : ℕ) (digits : List ℕ) :
    horner base (digits ++ [d]) = base * horner base digits + d := by
  rw [horner_append]
  simp [horner, Nat.mul_comm]

theorem horner_lt {base : ℕ} {digits : List ℕ} (h : ∀ d ∈ digits, d < base) :
    horner base digits < base ^ digits.length := by
  induction digits with
  | nil => simp
  | cons d digits ih =>
    have hd := h d List.mem_cons_self
    have htail := ih fun e he => h e (List.mem_cons_of_mem d he)
    have hmul := Nat.mul_le_mul_right (base ^ digits.length) (Nat.succ_le_of_lt hd)
    rw [horner_cons, List.length_cons, pow_succ]
    simp only [Nat.succ_eq_add_one, Nat.add_mul, Nat.one_mul] at hmul
    rw [Nat.mul_comm (base ^ digits.length)]
    omega

/-! ## Bytes -/

/-- The number a byte string denotes. -/
def beValue (bytes : List UInt8) : ℕ := horner 256 (bytes.map UInt8.toNat)

/-- The last `width` bytes of a number. -/
def beBytes : ℕ → ℕ → List UInt8
  | 0, _ => []
  | width + 1, n => UInt8.ofNat (n / 256 ^ width) :: beBytes width n

@[simp] theorem beBytes_length (width n : ℕ) : (beBytes width n).length = width := by
  induction width with
  | zero => rfl
  | succ width ih => simp [beBytes, ih]

@[simp] theorem beValue_nil : beValue [] = 0 := rfl

theorem beValue_cons (b : UInt8) (bytes : List UInt8) :
    beValue (b :: bytes) = b.toNat * 256 ^ bytes.length + beValue bytes := by
  simp [beValue, horner_cons]

theorem beValue_lt (bytes : List UInt8) : beValue bytes < 256 ^ bytes.length := by
  have hdigits : ∀ d ∈ bytes.map UInt8.toNat, d < 256 := by
    intro d hd
    obtain ⟨b, _, rfl⟩ := List.mem_map.mp hd
    exact b.toNat_lt
  simpa [beValue] using horner_lt hdigits

theorem beValue_beBytes (width n : ℕ) : beValue (beBytes width n) = n % 256 ^ width := by
  induction width with
  | zero => simp [beBytes, Nat.mod_one]
  | succ width ih =>
    have hdigit : (UInt8.ofNat (n / 256 ^ width)).toNat = n / 256 ^ width % 256 := by simp
    rw [beBytes, beValue_cons, ih, hdigit, beBytes_length, pow_succ, Nat.mod_mul]
    ring

theorem beValue_beBytes_of_lt {width n : ℕ} (h : n < 256 ^ width) :
    beValue (beBytes width n) = n := by
  rw [beValue_beBytes, Nat.mod_eq_of_lt h]

/-- Leading zero bytes do not count. -/
theorem beValue_dropWhile (bytes : List UInt8) :
    beValue (bytes.dropWhile (· == 0)) = beValue bytes := by
  induction bytes with
  | nil => rfl
  | cons b bytes ih =>
    by_cases hb : b = 0
    · subst hb
      simp [ih, beValue_cons]
    · simp [hb]

theorem le_beValue_cons {b : UInt8} (bytes : List UInt8) (h : b ≠ 0) :
    256 ^ bytes.length ≤ beValue (b :: bytes) := by
  have hb : b.toNat ≠ 0 := fun hn => h (UInt8.toNat_inj.mp hn)
  rw [beValue_cons]
  exact (Nat.le_mul_of_pos_left _ (by omega)).trans (Nat.le_add_right _ _)

/-- Without leading zero bytes a number is no wider than it has to be. -/
theorem length_dropWhile_le {bytes : List UInt8} {width : ℕ} (h : beValue bytes < 256 ^ width) :
    (bytes.dropWhile (· == 0)).length ≤ width := by
  rw [← beValue_dropWhile] at h
  cases hdigits : bytes.dropWhile (· == 0) with
  | nil => simp
  | cons b digits =>
    have hb : b ≠ 0 := by
      have hne : bytes.dropWhile (· == 0) ≠ [] := by simp [hdigits]
      have hhead := List.head_dropWhile_not (· == 0) hne
      simpa [hdigits] using hhead
    rw [hdigits] at h
    have hlt := (le_beValue_cons digits hb).trans_lt h
    exact (Nat.pow_lt_pow_iff_right (by omega)).mp hlt

/-! ## Least significant first -/

/-- The number a byte string denotes, read from its end. -/
def leValue (bytes : List UInt8) : ℕ := beValue bytes.reverse

/-- The last `width` bytes of a number, the last one first. -/
def leBytes (width n : ℕ) : List UInt8 := (beBytes width n).reverse

@[simp] theorem leBytes_length (width n : ℕ) : (leBytes width n).length = width := by
  simp [leBytes]

theorem leValue_cons (b : UInt8) (bytes : List UInt8) :
    leValue (b :: bytes) = 256 * leValue bytes + b.toNat := by
  rw [leValue, leValue, List.reverse_cons, beValue, List.map_append, List.map_singleton,
    horner_concat]
  rfl

theorem leValue_leBytes (width n : ℕ) : leValue (leBytes width n) = n % 256 ^ width := by
  rw [leValue, leBytes, List.reverse_reverse, beValue_beBytes]

theorem leValue_leBytes_of_lt {width n : ℕ} (h : n < 256 ^ width) :
    leValue (leBytes width n) = n := by
  rw [leValue_leBytes, Nat.mod_eq_of_lt h]

theorem leValue_lt (bytes : List UInt8) : leValue bytes < 256 ^ bytes.length := by
  have h := beValue_lt bytes.reverse
  rwa [List.length_reverse] at h

/-! ## Two's complement -/

/-- Is the top bit of the first byte set? -/
def topBit : List UInt8 → Bool
  | [] => false
  | b :: _ => decide (128 ≤ b.toNat)

/-- The two's complement reading of a byte string. -/
def signedValue (bytes : List UInt8) : ℤ :=
  beValue bytes - if topBit bytes then 256 ^ bytes.length else 0

/-- A zero byte before a byte without its top bit is redundant. -/
theorem signedValue_zero_cons {b : UInt8} (bytes : List UInt8) (h : b.toNat < 128) :
    signedValue (0 :: b :: bytes) = signedValue (b :: bytes) := by
  have hb : ¬ 128 ≤ b.toNat := by omega
  simp [signedValue, topBit, hb, beValue_cons]

/-- A byte of ones before a byte with its top bit is redundant. -/
theorem signedValue_ones_cons {b : UInt8} (bytes : List UInt8) (h : 128 ≤ b.toNat) :
    signedValue (0xff :: b :: bytes) = signedValue (b :: bytes) := by
  have hones : (0xff : UInt8).toNat = 255 := rfl
  simp only [signedValue, topBit, h, hones, beValue_cons, List.length_cons, decide_true, if_true,
    pow_succ, show 128 ≤ 255 from by omega]
  push_cast
  ring

/-- A reading lies in the range of its width. -/
theorem signedValue_range (b : UInt8) (bytes : List UInt8) :
    -(128 * 256 ^ bytes.length) ≤ signedValue (b :: bytes) ∧
      signedValue (b :: bytes) < 128 * 256 ^ bytes.length := by
  have htail := beValue_lt bytes
  have hb := b.toNat_lt
  have hvalue : (beValue (b :: bytes) : ℤ) = b.toNat * 256 ^ bytes.length + beValue bytes := by
    rw [beValue_cons]
    push_cast
    rfl
  have htail' : (beValue bytes : ℤ) < 256 ^ bytes.length := by exact_mod_cast htail
  rw [signedValue, hvalue, topBit, List.length_cons, pow_succ]
  generalize (256 : ℤ) ^ bytes.length = m at htail' ⊢
  by_cases h : 128 ≤ b.toNat
  · have hlow : (128 : ℤ) ≤ b.toNat := by exact_mod_cast h
    have hhigh : (b.toNat : ℤ) ≤ 255 := by omega
    simp only [h, decide_true, if_true]
    constructor <;> nlinarith
  · have hhigh : (b.toNat : ℤ) ≤ 127 := by omega
    simp only [h, decide_false, Bool.false_eq_true, if_false, sub_zero]
    constructor <;> nlinarith

/-- The first of two bytes only repeats the sign that the second one has. -/
def RepeatsSign (a b : UInt8) : Prop := a = 0 ∧ b.toNat < 128 ∨ a = 0xff ∧ 128 ≤ b.toNat

/-- Without a redundant byte a reading does not fit into fewer bytes. -/
theorem signedValue_wide {a b : UInt8} (bytes : List UInt8) (h : ¬ RepeatsSign a b) :
    signedValue (a :: b :: bytes) < -(128 * 256 ^ bytes.length) ∨
      128 * 256 ^ bytes.length ≤ signedValue (a :: b :: bytes) := by
  have htail := beValue_lt bytes
  have ha := a.toNat_lt
  have hb := b.toNat_lt
  have hvalue : (beValue (a :: b :: bytes) : ℤ) =
      (256 * a.toNat + b.toNat) * 256 ^ bytes.length + beValue bytes := by
    rw [beValue_cons, beValue_cons, List.length_cons, pow_succ]
    push_cast
    ring
  have hpos : (0 : ℤ) < 256 ^ bytes.length := by positivity
  have htail' : (beValue bytes : ℤ) < 256 ^ bytes.length := by exact_mod_cast htail
  have hzero : a.toNat = 0 → 128 ≤ b.toNat := by
    intro hn
    by_contra hlt
    exact h (.inl ⟨UInt8.toNat_inj.mp hn, by omega⟩)
  have hones : a.toNat = 255 → b.toNat < 128 := by
    intro hn
    by_contra hle
    exact h (.inr ⟨UInt8.toNat_inj.mp hn, by omega⟩)
  rw [signedValue, hvalue, topBit, List.length_cons, List.length_cons, pow_succ, pow_succ]
  generalize (256 : ℤ) ^ bytes.length = m at htail' hpos ⊢
  by_cases htop : 128 ≤ a.toNat
  · left
    have hhigh : (256 * a.toNat + b.toNat : ℤ) ≤ 65407 := by omega
    simp only [htop, decide_true, if_true]
    nlinarith
  · right
    have hlow : (128 : ℤ) ≤ 256 * a.toNat + b.toNat := by omega
    simp only [htop, decide_false, Bool.false_eq_true, if_false, sub_zero]
    nlinarith

/-- No byte string that denotes the same number is shorter. -/
def Shortest (bytes : List UInt8) : Prop :=
  bytes ≠ [] ∧ ∀ other, other ≠ [] → signedValue other = signedValue bytes →
    bytes.length ≤ other.length

theorem shortest_singleton (b : UInt8) : Shortest [b] :=
  ⟨List.cons_ne_nil b [], fun _ hne _ => List.length_pos_iff.mpr hne⟩

theorem shortest_cons {a b : UInt8} (bytes : List UInt8) (h : ¬ RepeatsSign a b) :
    Shortest (a :: b :: bytes) := by
  refine ⟨List.cons_ne_nil a _, ?_⟩
  intro other hne hsame
  cases other with
  | nil => exact absurd rfl hne
  | cons c rest =>
    by_contra hlength
    have hle : rest.length ≤ bytes.length := by
      simp only [List.length_cons] at hlength
      omega
    have hpow : (256 : ℤ) ^ rest.length ≤ 256 ^ bytes.length := pow_le_pow_right₀ (by omega) hle
    have hrange := signedValue_range c rest
    rw [hsame] at hrange
    obtain hlow | hhigh := signedValue_wide bytes h
    · omega
    · omega

/-- Two numbers of one range of length `m` that agree modulo `m` are the same. -/
theorem eq_of_modEq_of_range {x y low m : ℤ} (h : x ≡ y [ZMOD m]) (hx : low ≤ x ∧ x < low + m)
    (hy : low ≤ y ∧ y < low + m) : x = y := by
  obtain ⟨k, hk⟩ := h.dvd
  have hlow : -1 < k := by
    by_contra hn
    have : k ≤ -1 := by omega
    nlinarith
  have hhigh : k < 1 := by
    by_contra hn
    have : 1 ≤ k := by omega
    nlinarith
  have hk0 : k = 0 := by omega
  subst hk0
  omega

/-- The bytes of a number that agrees with `v` denote `v`, if `v` is in the range of the width. -/
theorem signedValue_beBytes {width n : ℕ} {v : ℤ} (h : (n : ℤ) ≡ v [ZMOD 256 ^ (width + 1)])
    (hv : -(128 * 256 ^ width) ≤ v ∧ v < 128 * 256 ^ width) :
    signedValue (beBytes (width + 1) n) = v := by
  obtain ⟨hlow, hhigh⟩ := signedValue_range (UInt8.ofNat (n / 256 ^ width)) (beBytes width n)
  rw [beBytes_length] at hlow hhigh
  have hvalue : (beValue (beBytes (width + 1) n) : ℤ) ≡ n [ZMOD 256 ^ (width + 1)] := by
    rw [beValue_beBytes]
    push_cast
    exact Int.mod_modEq _ _
  have hmod : signedValue (beBytes (width + 1) n) ≡ v [ZMOD 256 ^ (width + 1)] := by
    refine Int.ModEq.trans ?_ (hvalue.trans h)
    unfold signedValue
    rw [beBytes_length]
    split
    · exact (Int.modEq_iff_dvd.mpr (by simp))
    · simp
  have hlength : (256 : ℤ) ^ (width + 1) = 256 * 256 ^ width := by rw [pow_succ, Int.mul_comm]
  apply eq_of_modEq_of_range hmod ⟨hlow, ?_⟩ ⟨hv.1, ?_⟩
  · rw [hlength]
    have : signedValue (beBytes (width + 1) n) < 128 * 256 ^ width := hhigh
    omega
  · rw [hlength]
    omega

/-! ## Groups of seven bits -/

/-- The number in the low seven bits of the bytes. -/
def septetValue (bytes : List UInt8) : ℕ := horner 128 (bytes.map fun b => b.toNat % 128)

@[simp] theorem septetValue_nil : septetValue [] = 0 := rfl

theorem septetValue_cons (b : UInt8) (bytes : List UInt8) :
    septetValue (b :: bytes) = b.toNat % 128 * 128 ^ bytes.length + septetValue bytes := by
  simp [septetValue, horner_cons]

theorem septetValue_concat (bytes : List UInt8) (b : UInt8) :
    septetValue (bytes ++ [b]) = 128 * septetValue bytes + b.toNat % 128 := by
  simp [septetValue, horner_concat]

theorem septetValue_lt (bytes : List UInt8) : septetValue bytes < 128 ^ bytes.length := by
  have hdigits : ∀ d ∈ bytes.map fun b => b.toNat % 128, d < 128 := by
    intro d hd
    obtain ⟨b, _, rfl⟩ := List.mem_map.mp hd
    exact Nat.mod_lt _ (by decide)
  simpa [septetValue] using horner_lt hdigits

end ProtocolSimulation.BigEndian
