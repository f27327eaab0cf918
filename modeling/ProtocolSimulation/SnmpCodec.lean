import ProtocolSimulation.Fallible
import ProtocolSimulation.Septets
import ProtocolSimulation.Snmp

/-!
# The SNMP codec: lengths, TLVs and integers

What the readers accept is described by the bytes they read. The writers produce
such bytes, so that what they write is read back.
-/
namespace ProtocolSimulation.Engine.Snmp

open ProtocolSimulation.Texts ProtocolSimulation.Fallible ProtocolSimulation.BigEndian
open ProtocolSimulation.Septets

/-! ## Bits -/

theorem toNat_ofNat_of_lt {n : ℕ} (h : n < 256) : (UInt8.ofNat n).toNat = n :=
  UInt8.toNat_ofNat_of_lt h

theorem add_ok {bits a b : ℕ} (h : a + b < 2 ^ bits) : add bits a b = .ok (a + b) := if_pos h

theorem add_ok_iff {bits a b c : ℕ} : add bits a b = .ok c ↔ a + b < 2 ^ bits ∧ c = a + b := by
  rw [add]
  split
  · simp [eq_comm, *]
  · simp [*]

theorem mul_ok_iff {bits a b c : ℕ} : mul bits a b = .ok c ↔ a * b < 2 ^ bits ∧ c = a * b := by
  rw [mul]
  split
  · simp [eq_comm, *]
  · simp [*]

theorem sub_ok_iff {a b c : ℕ} : sub a b = .ok c ↔ b ≤ a ∧ c = a - b := by
  rw [sub]
  split
  · simp [eq_comm, *]
  · simp [*]

theorem u8TryFrom_ok_iff {n : ℕ} {b : UInt8} :
    u8TryFrom n = .ok b ↔ n < 256 ∧ b = UInt8.ofNat n := by
  rw [u8TryFrom]
  split
  · simp [eq_comm, *]
  · simp [*]

theorem checkedAdd_eq_some_iff {bits a b c : ℕ} :
    checkedAdd bits a b = some c ↔ a + b < 2 ^ bits ∧ c = a + b := by
  rw [checkedAdd]
  split
  · simp [eq_comm, *]
  · simp [*]

theorem head_drop {α : Type} {input : List α} {cursor : ℕ} {b : α} {rest : List α}
    (h : input.drop cursor = b :: rest) :
    input[cursor]? = some b ∧ input.drop (cursor + 1) = rest ∧ cursor < input.length := by
  have hlt : cursor < input.length := by
    by_contra hn
    rw [List.drop_eq_nil_of_le (by omega)] at h
    cases h
  rw [List.drop_eq_getElem_cons hlt, List.cons.injEq] at h
  exact ⟨by rw [List.getElem?_eq_getElem hlt, h.1], h.2, hlt⟩

/-! ## Lengths -/

/-- The bytes denote a length: one byte, or a count of at most four and as many bytes. -/
inductive IsLength : Bytes → ℕ → Prop where
  | short {first : UInt8} (h : first.toNat < 128) : IsLength [first] first.toNat
  | long {first : UInt8} {digits : Bytes} (hfirst : first.toNat = 128 + digits.length)
      (hdigits : digits ≠ []) (hcount : digits.length ≤ 4) :
      IsLength (first :: digits) (beValue digits)

theorem lengthValue_eq {digits : Bytes} {length : ℕ}
    (h : length * 256 ^ digits.length + beValue digits < 2 ^ 64) :
    lengthValue digits length = .ok (length * 256 ^ digits.length + beValue digits) := by
  induction digits generalizing length with
  | nil => simp [lengthValue]
  | cons b digits ih =>
    have hpos : 0 < 256 ^ digits.length := Nat.pow_pos (by omega)
    have hnext : (length * 256 + b.toNat) * 256 ^ digits.length + beValue digits =
        length * 256 ^ (b :: digits).length + beValue (b :: digits) := by
      rw [beValue_cons, List.length_cons, pow_succ]
      ring
    have hle : length * 256 + b.toNat ≤ (length * 256 + b.toNat) * 256 ^ digits.length :=
      Nat.le_mul_of_pos_right _ hpos
    have hmul : checkedMul 64 length 256 = some (length * 256) := if_pos (by omega)
    have hadd : checkedAdd 64 (length * 256) b.toNat = some (length * 256 + b.toNat) :=
      if_pos (by omega)
    rw [lengthValue, hmul, Option.bind_some, hadd, ← hnext]
    exact ih (by omega)

theorem lengthValue_of_length {digits : Bytes} (h : digits.length ≤ 4) :
    lengthValue digits 0 = .ok (beValue digits) := by
  have hlt := beValue_lt digits
  have hpow : 256 ^ digits.length ≤ 256 ^ 4 := Nat.pow_le_pow_right (by omega) h
  have hzero : 0 * 256 ^ digits.length + beValue digits = beValue digits := by omega
  rw [lengthValue_eq (by omega), hzero]

theorem getRange_of_le {input : Bytes} {i n : ℕ} (h : i + n ≤ input.length) :
    getRange input i (i + n) = some ((input.drop i).take n) := by
  rw [getRange, if_pos ⟨by omega, h⟩, List.drop_take]
  congr 2
  omega

theorem drop_of_getRange {input value : Bytes} {i n : ℕ}
    (h : getRange input i (i + n) = some value) :
    input.drop i = value ++ input.drop (i + n) ∧ value.length = n := by
  by_cases hle : i + n ≤ input.length
  · rw [getRange_of_le hle, Option.some.injEq] at h
    subst h
    rw [← List.drop_drop, List.take_append_drop, List.length_take, List.length_drop]
    exact ⟨rfl, by omega⟩
  · rw [getRange, if_neg (by omega)] at h
    cases h

theorem getRange_of_drop {input code rest : Bytes} {cursor : ℕ}
    (h : input.drop cursor = code ++ rest) (hcursor : cursor ≤ input.length) :
    getRange input cursor (cursor + code.length) = some code := by
  have hlength := congrArg List.length h
  simp only [List.length_drop, List.length_append] at hlength
  rw [getRange_of_le (by omega), h]
  simp

/-- A length is read where its bytes are. -/
theorem readLength_of_drop {input code rest : Bytes} {cursor n : ℕ} (hcode : IsLength code n)
    (h : input.drop cursor = code ++ rest) (hcursor : cursor + code.length < 2 ^ 64) :
    readLength input cursor = .ok (n, cursor + code.length) := by
  cases hcode with
  | @short first hfirst =>
    obtain ⟨hget, _, _⟩ := head_drop h
    have hbit : first &&& 0x80 = 0 := and_80_eq_zero_iff.mpr hfirst
    have hadd : add 64 cursor 1 = .ok (cursor + 1) := add_ok hcursor
    rw [readLength, hget]
    simp [hadd, hbit, bind, Except.bind, pure, Except.pure]
  | @long first digits hfirst hdigits hcount =>
    rw [List.cons_append] at h
    obtain ⟨hget, hdrop, hlt⟩ := head_drop h
    have hpos := List.length_pos_iff.mpr hdigits
    have hlength := congrArg List.length hdrop
    have hvalue := lengthValue_of_length hcount
    have hbit : ¬ first &&& 0x80 = 0 := by
      rw [and_80_eq_zero_iff]
      omega
    have hlow : (first &&& 0x7f).toNat = digits.length := by
      rw [toNat_and_7f]
      omega
    simp only [List.length_drop, List.length_append, List.length_cons] at hlength hcursor
    have hadd : add 64 cursor 1 = .ok (cursor + 1) := add_ok (by omega)
    have hstop : add 64 (cursor + 1) digits.length = .ok (cursor + 1 + digits.length) :=
      add_ok (by omega)
    rw [readLength, hget]
    simp only [hadd, bind, Except.bind, hbit, if_false, hlow, hstop]
    rw [if_neg (by omega), if_neg (by omega), slice, getRange_of_drop hdrop (by omega)]
    simp only [hvalue, pure, Except.pure, List.length_cons]
    congr 2
    omega

/-- What is read is a length. -/
theorem drop_of_readLength {input : Bytes} {cursor n stop : ℕ}
    (h : readLength input cursor = .ok (n, stop)) :
    ∃ code, IsLength code n ∧ input.drop cursor = code ++ input.drop stop ∧
      stop = cursor + code.length ∧ stop < 2 ^ 64 := by
  rw [readLength] at h
  cases hdrop : input.drop cursor with
  | nil =>
    rw [← List.head?_drop, hdrop] at h
    cases h
  | cons first tail =>
    obtain ⟨hget, htail, hlt⟩ := head_drop hdrop
    simp only [hget, bind_ok_iff, add_ok_iff] at h
    obtain ⟨_, ⟨hcursor, rfl⟩, h⟩ := h
    split at h
    · rename_i hbit
      cases h
      exact ⟨[first], .short (and_80_eq_zero_iff.mp hbit), by rw [htail]; rfl, rfl, hcursor⟩
    · rename_i hbit
      rw [and_80_eq_zero_iff] at hbit
      split at h
      · cases h
      · rename_i hcount
        rw [toNat_and_7f] at hcount h
        simp only [bind_ok_iff, add_ok_iff] at h
        obtain ⟨_, ⟨hstop, rfl⟩, h⟩ := h
        split at h
        · cases h
        · rename_i hlength
          have hdigits : (tail.take (first.toNat % 128)).length = first.toNat % 128 := by
            rw [← htail, List.length_take, List.length_drop]
            omega
          have hdrop' : input.drop (cursor + 1 + first.toNat % 128) =
              tail.drop (first.toNat % 128) := by rw [← htail, List.drop_drop]
          have hrange : getRange input (cursor + 1) (cursor + 1 + first.toNat % 128) =
              some ((input.drop (cursor + 1)).take (first.toNat % 128)) :=
            getRange_of_le (by omega)
          have hvalue : lengthValue (tail.take (first.toNat % 128)) 0 = .ok _ :=
            lengthValue_of_length (by omega)
          rw [slice, hrange, htail] at h
          simp only [ok_bind, hvalue, pure_eq_ok] at h
          cases h
          refine ⟨first :: tail.take (first.toNat % 128), .long ?_ ?_ ?_, ?_, ?_, hstop⟩
          · have := first.toNat_lt
            omega
          · apply List.ne_nil_of_length_pos
            omega
          · omega
          · rw [hdrop', List.cons_append, List.take_append_drop]
          · rw [List.length_cons, hdigits]
            omega

/-! ## TLVs -/

/-- The bytes of a TLV: its tag, a length and the value. -/
def IsTlv (code : Bytes) (tlv : Tlv) : Prop :=
  ∃ lengthCode, IsLength lengthCode tlv.value.length ∧ code = tlv.tag :: (lengthCode ++ tlv.value)

/-- A TLV is read where its bytes are. -/
theorem readTlv_of_drop {input code rest : Bytes} {cursor : ℕ} {tlv : Tlv} (hcode : IsTlv code tlv)
    (h : input.drop cursor = code ++ rest) (hcursor : cursor + code.length < 2 ^ 64) :
    readTlv input cursor = .ok (tlv, cursor + code.length) := by
  obtain ⟨lengthCode, hlengthCode, rfl⟩ := hcode
  rw [List.cons_append, List.append_assoc] at h
  obtain ⟨hget, hdrop, hlt⟩ := head_drop h
  simp only [List.length_cons, List.length_append] at hcursor ⊢
  have hadd : add 64 cursor 1 = .ok (cursor + 1) := add_ok (by omega)
  have hread := readLength_of_drop hlengthCode hdrop (by omega)
  have hvalue : input.drop (cursor + 1 + lengthCode.length) = tlv.value ++ rest := by
    rw [← List.drop_drop, hdrop, List.drop_left]
  have hlength := congrArg List.length hdrop
  simp only [List.length_drop, List.length_append] at hlength
  have hstop : checkedAdd 64 (cursor + 1 + lengthCode.length) tlv.value.length =
      some (cursor + 1 + lengthCode.length + tlv.value.length) :=
    checkedAdd_eq_some_iff.mpr ⟨by omega, rfl⟩
  rw [readTlv, hget]
  simp only [hadd, ok_bind, hread, hstop, getRange_of_drop hvalue (by omega), pure_eq_ok]
  congr 2
  omega

/-- What is read is a TLV. -/
theorem drop_of_readTlv {input : Bytes} {cursor stop : ℕ} {tlv : Tlv}
    (h : readTlv input cursor = .ok (tlv, stop)) :
    ∃ code, IsTlv code tlv ∧ input.drop cursor = code ++ input.drop stop ∧
      stop = cursor + code.length ∧ stop < 2 ^ 64 := by
  rw [readTlv] at h
  cases hdrop : input.drop cursor with
  | nil =>
    rw [← List.head?_drop, hdrop] at h
    cases h
  | cons tag tail =>
    obtain ⟨hget, htail, hlt⟩ := head_drop hdrop
    simp only [hget, bind_ok_iff, add_ok_iff, Prod.exists] at h
    obtain ⟨_, ⟨_, rfl⟩, n, valueStart, hlength, h⟩ := h
    obtain ⟨lengthCode, hlengthCode, hrest, rfl, _⟩ := drop_of_readLength hlength
    split at h
    · cases h
    · rename_i _ hstop
      obtain ⟨hbound, rfl⟩ := checkedAdd_eq_some_iff.mp hstop
      split at h
      · cases h
      · rename_i value hvalue
        obtain ⟨hafter, rfl⟩ := drop_of_getRange hvalue
        cases h
        refine ⟨tag :: (lengthCode ++ value), ⟨lengthCode, hlengthCode, rfl⟩, ?_, ?_, hbound⟩
        · rw [← htail, hrest, hafter, List.cons_append, List.append_assoc]
        · simp only [List.length_cons, List.length_append]
          omega

theorem length_pos_of_isTlv {code : Bytes} {tlv : Tlv} (h : IsTlv code tlv) : 0 < code.length := by
  obtain ⟨_, _, rfl⟩ := h
  simp

/-- One TLV after the other. -/
theorem readTlv_step {input code rest : Bytes} {cursor : ℕ} {tlv : Tlv} (hcode : IsTlv code tlv)
    (h : input.drop cursor = code ++ rest) (hinput : input.length < 2 ^ 64) :
    readTlv input cursor = .ok (tlv, cursor + code.length) ∧
      input.drop (cursor + code.length) = rest := by
  have hpos := length_pos_of_isTlv hcode
  have hlength := congrArg List.length h
  simp only [List.length_drop, List.length_append] at hlength
  refine ⟨readTlv_of_drop hcode h (by omega), ?_⟩
  rw [← List.drop_drop, h, List.drop_left]

/-- A byte string that one TLV fills. -/
theorem readTlv_of_isTlv {code : Bytes} {tlv : Tlv} (hcode : IsTlv code tlv)
    (h : code.length < 2 ^ 64) : readTlv code 0 = .ok (tlv, code.length) := by
  have hdrop : code.drop 0 = code ++ [] := (List.append_nil code).symm
  have hread := readTlv_of_drop hcode hdrop (by omega)
  rwa [Nat.zero_add] at hread

theorem isTlv_of_readTlv {code : Bytes} {tlv : Tlv} (h : readTlv code 0 = .ok (tlv, code.length)) :
    IsTlv code tlv := by
  obtain ⟨code', hcode', hdrop, _, _⟩ := drop_of_readTlv h
  rw [List.drop_zero, List.drop_length, List.append_nil] at hdrop
  exact hdrop ▸ hcode'

/-! ## Writing lengths and TLVs -/

theorem drop_firstSignificant {bytes : Bytes} (h : beValue bytes ≠ 0) :
    bytes.drop (firstSignificant bytes) = bytes.dropWhile (· == 0) := by
  have hex : ∃ b ∈ bytes, (b != 0) = true := by
    by_contra hn
    apply h
    rw [← beValue_dropWhile, List.dropWhile_eq_nil_iff.mpr (by simpa using hn), beValue_nil]
  have hindex : bytes.findIdx? (· != 0) = some (bytes.findIdx (· != 0)) := by
    rw [List.findIdx?_eq_some_iff_findIdx_eq]
    exact ⟨List.findIdx_lt_length_of_exists hex, rfl⟩
  rw [firstSignificant, hindex, List.dropWhile_eq_drop_findIdx_not]
  rfl

theorem isLength_encodeLength {n : ℕ} (h : n < 2 ^ 32) : IsLength (encodeLength n) n := by
  rw [encodeLength]
  split
  · rename_i hshort
    have hn : (UInt8.ofNat n).toNat = n := toNat_ofNat_of_lt (by omega)
    have hcode : IsLength [UInt8.ofNat n] (UInt8.ofNat n).toNat := .short (by omega)
    rwa [hn] at hcode
  · rename_i hlong
    have hvalue : beValue (beBytes 8 n) = n := by
      rw [beValue_beBytes, Nat.mod_eq_of_lt (by omega)]
    have hdigits : beValue ((beBytes 8 n).dropWhile (· == 0)) = n := by
      rw [beValue_dropWhile, hvalue]
    have hcount : ((beBytes 8 n).dropWhile (· == 0)).length ≤ 4 :=
      length_dropWhile_le (by rw [hvalue]; omega)
    have hne : (beBytes 8 n).dropWhile (· == 0) ≠ [] := by
      intro hnil
      rw [hnil, beValue_nil] at hdigits
      omega
    have hdrop : (beBytes 8 n).drop (firstSignificant (beBytes 8 n)) = _ :=
      drop_firstSignificant (by omega)
    simp only [hdrop]
    generalize (beBytes 8 n).dropWhile (· == 0) = digits at hdigits hcount hne
    have hfirst : (UInt8.ofNat digits.length).toNat = digits.length :=
      toNat_ofNat_of_lt (by omega)
    have hcode : IsLength ((0x80 ||| UInt8.ofNat digits.length) :: digits) (beValue digits) :=
      .long (by rw [toNat_80_or (by omega), hfirst]) hne hcount
    rwa [hdigits] at hcode

/-- A length that can be read takes at most four bytes. -/
theorem IsLength.lt {code : Bytes} {n : ℕ} (h : IsLength code n) : n < 2 ^ 32 := by
  cases h with
  | short h => omega
  | @long first digits _ _ hcount =>
    have hvalue := beValue_lt digits
    have hpow : 256 ^ digits.length ≤ 256 ^ 4 := Nat.pow_le_pow_right (by omega) hcount
    omega

/-- The first byte of a length tells how many bytes there are. -/
theorem IsLength.length_eq {code rest rest' : Bytes} {n length : ℕ} (h : IsLength code n)
    (hsame : encodeLength length ++ rest = code ++ rest') :
    code.length = (encodeLength length).length := by
  have hcount : ((beBytes 8 length).drop (firstSignificant (beBytes 8 length))).length ≤ 8 := by
    rw [List.length_drop, beBytes_length]
    omega
  have hbyte (n : ℕ) (hn : n ≤ 8) : (0x80 ||| UInt8.ofNat n : UInt8).toNat = 128 + n := by
    have hsmall : (UInt8.ofNat n).toNat = n := toNat_ofNat_of_lt (by omega)
    rw [toNat_80_or (by omega), hsmall]
  have hfirst := hbyte _ hcount
  rw [encodeLength] at hsame ⊢
  cases h with
  | @short first hshort =>
    split at hsame
    · rename_i hlt
      rw [if_pos hlt, List.length_singleton, List.length_singleton]
    · obtain ⟨hhead, _⟩ := List.cons.inj hsame
      rw [hhead] at hfirst
      omega
  | @long first digits hlong hdigits hdigitsCount =>
    split at hsame
    · rename_i hlt
      obtain ⟨hhead, _⟩ := List.cons.inj hsame
      rw [← hhead, toNat_ofNat_of_lt (by omega)] at hlong
      omega
    · rename_i hlt
      obtain ⟨hhead, _⟩ := List.cons.inj hsame
      rw [hhead, hlong] at hfirst
      rw [if_neg hlt, List.length_cons, List.length_cons]
      omega

theorem isTlv_wrap {tag : UInt8} {content : Bytes} (h : content.length < 2 ^ 32) :
    IsTlv (wrap tag content) ⟨tag, content⟩ :=
  ⟨encodeLength content.length, isLength_encodeLength h, rfl⟩

/-- Of whatever length the content is, nothing else is read from it. -/
theorem value_of_isTlv_wrap {tag : UInt8} {content : Bytes} {tlv : Tlv}
    (h : IsTlv (wrap tag content) tlv) : tlv = ⟨tag, content⟩ := by
  obtain ⟨lengthCode, hlength, hwrap⟩ := h
  obtain ⟨htag, hrest⟩ := List.cons.inj hwrap
  have hvalue := (List.append_inj hrest (hlength.length_eq hrest).symm).2
  rw [htag, hvalue]

/-! ## Integers -/

theorem toInt_modEq (v : Int64) : v.toInt ≡ v.toUInt64.toNat [ZMOD 2 ^ 64] := by
  have hbmod : v.toInt = (v.toUInt64.toNat : ℤ).bmod (2 ^ 64) := BitVec.toInt_eq_toNat_bmod _
  rw [hbmod]
  exact Int.bmod_emod

theorem toInt_range (v : Int64) : -(128 * 256 ^ 7) ≤ v.toInt ∧ v.toInt < 128 * 256 ^ 7 := by
  have hlow := v.le_toInt
  have hhigh := v.toInt_lt
  omega

/-- The bits of a number with a byte shifted in. -/
theorem toNat_shiftIn (v : Int64) (b : UInt8) :
    (v <<< 8 ||| b.toUInt64.toInt64).toUInt64.toNat =
      256 * v.toUInt64.toNat % 2 ^ 64 + b.toNat := by
  have hshift : (v.toBitVec <<< 8).toNat = 2 ^ 8 * (v.toUInt64.toNat % 2 ^ 56) := by
    have hv : v.toBitVec.toNat = v.toUInt64.toNat := rfl
    rw [BitVec.toNat_shiftLeft, Nat.shiftLeft_eq, hv]
    omega
  have hbits : (v <<< 8 ||| b.toUInt64.toInt64).toUInt64.toNat =
      (v.toBitVec <<< 8).toNat ||| b.toNat := by
    have hb : b.toUInt64.toInt64.toBitVec.toNat = b.toNat := by simp
    rw [← hb]
    exact BitVec.toNat_or ..
  have hor := Nat.two_pow_add_eq_or_of_lt (i := 8) b.toNat_lt (v.toUInt64.toNat % 2 ^ 56)
  rw [hbits, hshift, ← hor]
  omega

theorem toInt_shiftIn (v : Int64) (b : UInt8) :
    (v <<< 8 ||| b.toUInt64.toInt64).toInt ≡ 256 * v.toInt + b.toNat [ZMOD 2 ^ 64] := by
  have hbits := toInt_modEq (v <<< 8 ||| b.toUInt64.toInt64)
  rw [toNat_shiftIn] at hbits
  have hmod : ((256 * v.toUInt64.toNat % 2 ^ 64 : ℕ) : ℤ) ≡ 256 * v.toInt [ZMOD 2 ^ 64] := by
    push_cast
    exact (Int.mod_modEq _ _).trans ((toInt_modEq v).symm.mul_left 256)
  push_cast at hbits hmod
  exact hbits.trans (hmod.add_right _)

theorem toInt_foldl (bytes : Bytes) (v : Int64) :
    (bytes.foldl (fun (value : Int64) byte => value <<< 8 ||| byte.toUInt64.toInt64) v).toInt ≡
      v.toInt * 256 ^ bytes.length + beValue bytes [ZMOD 2 ^ 64] := by
  induction bytes generalizing v with
  | nil => simp
  | cons b bytes ih =>
    have hstep := ((toInt_shiftIn v b).mul_right (256 ^ bytes.length)).add_right (beValue bytes)
    have hvalue : (256 * v.toInt + b.toNat) * 256 ^ bytes.length + (beValue bytes : ℤ) =
        v.toInt * 256 ^ (b :: bytes).length + beValue (b :: bytes) := by
      rw [beValue_cons, List.length_cons, pow_succ]
      push_cast
      ring
    rw [← hvalue, List.foldl_cons]
    exact (ih _).trans hstep

/-- An integer of one to eight bytes decodes to its two's complement reading. -/
theorem decodeInteger_ok {bytes : Bytes} (hne : bytes ≠ []) (hlength : bytes.length ≤ 8) :
    ∃ v, decodeInteger bytes = .ok v ∧ v.toInt = signedValue bytes := by
  cases bytes with
  | nil => exact absurd rfl hne
  | cons first rest =>
    refine ⟨_, if_neg (by omega), ?_⟩
    have hfold := toInt_foldl (first :: rest) (if first &&& 0x80 ≠ 0 then -1 else 0)
    have hsigned : (if first &&& 0x80 ≠ 0 then (-1 : Int64) else 0).toInt *
        256 ^ (first :: rest).length + (beValue (first :: rest) : ℤ) =
        signedValue (first :: rest) := by
      have hone : (-1 : Int64).toInt = -1 := rfl
      have hzero : (0 : Int64).toInt = 0 := rfl
      rw [signedValue, topBit]
      by_cases hbit : first.toNat < 128
      · rw [if_neg (not_not.mpr (and_80_eq_zero_iff.mpr hbit)), hzero,
          if_neg (by simpa using hbit)]
        ring
      · rw [if_pos (by rwa [ne_eq, and_80_eq_zero_iff]), hone, if_pos (by simpa using hbit)]
        ring
    rw [hsigned] at hfold
    obtain ⟨hlow, hhigh⟩ := signedValue_range first rest
    have hpow : (256 : ℤ) ^ rest.length ≤ 256 ^ 7 :=
      pow_le_pow_right₀ (by omega) (by simp only [List.length_cons] at hlength; omega)
    have hrange := toInt_range ((first :: rest).foldl
      (fun (value : Int64) byte => value <<< 8 ||| byte.toUInt64.toInt64)
      (if first &&& 0x80 ≠ 0 then -1 else 0))
    exact eq_of_modEq_of_range hfold ⟨hrange.1, by omega⟩ ⟨by omega, by omega⟩

theorem signedValue_stripSign (bytes : Bytes) :
    signedValue (stripSign bytes) = signedValue bytes := by
  induction bytes with
  | nil => rfl
  | cons a bytes ih =>
    cases bytes with
    | nil => rfl
    | cons b rest =>
      rw [stripSign]
      split
      · rename_i h
        rw [ih]
        rcases h with ⟨rfl, hb⟩ | ⟨rfl, hb⟩
        · exact (signedValue_zero_cons rest (and_80_eq_zero_iff.mp hb)).symm
        · rw [ne_eq, and_80_eq_zero_iff] at hb
          exact (signedValue_ones_cons rest (by omega)).symm
      · rfl

theorem stripSign_ne_nil {bytes : Bytes} (h : bytes ≠ []) : stripSign bytes ≠ [] := by
  induction bytes with
  | nil => exact h
  | cons a bytes ih =>
    cases bytes with
    | nil => exact h
    | cons b rest =>
      rw [stripSign]
      split
      · exact ih (List.cons_ne_nil b rest)
      · exact h

theorem length_stripSign_le (bytes : Bytes) : (stripSign bytes).length ≤ bytes.length := by
  induction bytes with
  | nil => rfl
  | cons a bytes ih =>
    cases bytes with
    | nil => rfl
    | cons b rest =>
      rw [stripSign]
      split
      · exact ih.trans (by simp)
      · rfl

/-- What a number is written as. -/
def integerContent (v : Int64) : Bytes := stripSign (beBytes 8 v.toUInt64.toNat)

theorem decodeInteger_integerContent (v : Int64) : decodeInteger (integerContent v) = .ok v := by
  have hne : integerContent v ≠ [] := stripSign_ne_nil (by simp [beBytes])
  have hlength : (integerContent v).length ≤ 8 := (length_stripSign_le _).trans_eq (by simp)
  have hsigned : signedValue (integerContent v) = v.toInt := by
    rw [integerContent, signedValue_stripSign]
    exact signedValue_beBytes (toInt_modEq v).symm (toInt_range v)
  obtain ⟨w, hw, hvalue⟩ := decodeInteger_ok hne hlength
  rw [hw, Int64.toInt_inj.mp (hvalue.trans hsigned)]

theorem isTlv_encodeInteger (v : Int64) : IsTlv (encodeInteger v) ⟨0x02, integerContent v⟩ := by
  have hlength : (integerContent v).length ≤ 8 := (length_stripSign_le _).trans_eq (by simp)
  have hcode : (integerContent v).length < 2 ^ 32 := by omega
  exact isTlv_wrap hcode

end ProtocolSimulation.Engine.Snmp
