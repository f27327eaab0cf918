import ProtocolSimulation.SnmpCodec

/-!
# The SNMP codec: integers are exact and minimal

What is written for a number denotes it, and nothing shorter does.
-/
namespace ProtocolSimulation.Engine.Snmp

open ProtocolSimulation.Texts ProtocolSimulation.BigEndian ProtocolSimulation.Septets

theorem repeatsSign_iff {a b : UInt8} :
    (a = 0 ∧ b &&& 0x80 = 0) ∨ (a = 0xff ∧ b &&& 0x80 ≠ 0) ↔ RepeatsSign a b := by
  rw [RepeatsSign, ne_eq, and_80_eq_zero_iff, not_lt]

/-- What is left of a number without the bytes that repeat its sign cannot be shorter. -/
theorem shortest_stripSign {bytes : Bytes} (h : bytes ≠ []) : Shortest (stripSign bytes) := by
  induction bytes with
  | nil => exact absurd rfl h
  | cons a bytes ih =>
    cases bytes with
    | nil => exact shortest_singleton a
    | cons b rest =>
      rw [stripSign]
      split
      next => exact ih (List.cons_ne_nil b rest)
      next hkept => exact shortest_cons rest (mt repeatsSign_iff.mpr hkept)

theorem signedValue_zero_cons_eq (bytes : Bytes) : signedValue (0 :: bytes) = beValue bytes := by
  simp [signedValue, topBit, beValue_cons]

theorem signedValue_of_lt {b : UInt8} (bytes : Bytes) (h : b.toNat < 128) :
    signedValue (b :: bytes) = beValue (b :: bytes) := by
  have hb : ¬ 128 ≤ b.toNat := not_le.mpr h
  simp [signedValue, topBit, hb]

/-- An unsigned number that starts with a byte other than zero. -/
theorem shortest_of_lt {b : UInt8} (bytes : Bytes) (hne : b ≠ 0) (h : b.toNat < 128) :
    Shortest (b :: bytes) := by
  cases bytes with
  | nil => exact shortest_singleton b
  | cons c rest =>
    apply shortest_cons
    intro hrepeats
    obtain ⟨hzero, _⟩ | ⟨rfl, _⟩ := hrepeats
    · exact hne hzero
    · exact absurd h (by decide)

theorem encodeUnsigned_ok (tag : UInt8) (value : UInt64) :
    ∃ content, encodeUnsigned tag value = wrap tag content ∧
      signedValue content = value.toNat ∧ Shortest content := by
  have hbytes : beValue (beBytes 8 value.toNat) = value.toNat :=
    beValue_beBytes_of_lt value.toNat_lt
  by_cases hzero : value = 0
  · subst hzero
    exact ⟨[0], rfl, rfl, shortest_singleton 0⟩
  · have hvalue : value.toNat ≠ 0 := fun hn => hzero (UInt64.toNat_inj.mp hn)
    have hdrop := drop_firstSignificant (hbytes ▸ hvalue)
    have hdigits := beValue_dropWhile (beBytes 8 value.toNat)
    rw [hbytes] at hdigits
    cases hdropped : (beBytes 8 value.toNat).dropWhile (· == 0) with
    | nil =>
      rw [hdropped] at hdigits
      exact absurd hdigits.symm hvalue
    | cons first rest =>
      have hfirst : first ≠ 0 := by
        have hhead := List.head?_dropWhile_not (· == 0) (beBytes 8 value.toNat)
        rw [hdropped] at hhead
        simpa using hhead
      rw [hdropped] at hdrop hdigits
      unfold encodeUnsigned
      simp only [hdrop]
      by_cases hbit : first.toNat < 128
      · have hand : ¬ first &&& 0x80 ≠ 0 := not_not.mpr (and_80_eq_zero_iff.mpr hbit)
        refine ⟨first :: rest, if_neg hand, ?_, shortest_of_lt rest hfirst hbit⟩
        rw [signedValue_of_lt rest hbit, hdigits]
      · have hand : first &&& 0x80 ≠ 0 := mt and_80_eq_zero_iff.mp hbit
        refine ⟨0 :: first :: rest, if_pos hand, ?_, ?_⟩
        · rw [signedValue_zero_cons_eq, hdigits]
        · apply shortest_cons
          intro hrepeats
          obtain ⟨_, hlt⟩ | ⟨hones, _⟩ := hrepeats
          · exact hbit hlt
          · exact absurd hones (by decide)

theorem readTlv_wrap {tag : UInt8} {content : Bytes} (h : content.length < 128) :
    readTlv (wrap tag content) 0 = .ok (⟨tag, content⟩, (wrap tag content).length) := by
  apply readTlv_of_isTlv (isTlv_wrap (by omega))
  rw [wrap, encodeLength, if_pos h]
  simp only [List.length_cons, List.length_append, List.length_nil]
  omega

/-- Numbers of 64 bits take at most nine bytes. -/
theorem length_le_of_shortest {content : Bytes} {value : UInt64} (h : Shortest content)
    (hvalue : signedValue content = value.toNat) : content.length ≤ 9 := by
  have hother : signedValue (0 :: beBytes 8 value.toNat) = value.toNat := by
    rw [signedValue_zero_cons_eq, beValue_beBytes_of_lt value.toNat_lt]
  have hle := h.2 _ (List.cons_ne_nil _ _) (hother.trans hvalue.symm)
  rwa [List.length_cons, beBytes_length] at hle

/-- Only contents of one to eight bytes are read. -/
theorem signedValue_of_decodeInteger {content : Bytes} {v : Int64}
    (h : decodeInteger content = .ok v) : content ≠ [] ∧ signedValue content = v.toInt := by
  cases content with
  | nil => cases h
  | cons first rest =>
    have hne := List.cons_ne_nil first rest
    by_cases hlength : (first :: rest).length ≤ 8
    · obtain ⟨w, hw, hvalue⟩ := decodeInteger_ok hne hlength
      rw [h] at hw
      cases hw
      exact ⟨hne, hvalue.symm⟩
    · rw [decodeInteger, if_pos (not_le.mp hlength)] at h
      cases h

/-- Signed and unsigned numbers are written in as few bytes as denote them, and every content of
one to eight bytes is read as the number it denotes. -/
theorem integers_exact_minimal :
    (∀ v : Int64, ∃ content,
      readTlv (encodeInteger v) 0 = .ok (⟨0x02, content⟩, (encodeInteger v).length) ∧
      decodeInteger content = .ok v ∧
      ∀ other, decodeInteger other = .ok v → content.length ≤ other.length) ∧
    (∀ (tag : UInt8) (n : UInt64), ∃ content,
      readTlv (encodeUnsigned tag n) 0 = .ok (⟨tag, content⟩, (encodeUnsigned tag n).length) ∧
      content ≠ [] ∧ signedValue content = n.toNat ∧
      ∀ other, other ≠ [] → signedValue other = n.toNat → content.length ≤ other.length) ∧
    ∀ content : Bytes, 1 ≤ content.length → content.length ≤ 8 →
      ∃ v, decodeInteger content = .ok v ∧ v.toInt = signedValue content := by
  refine ⟨?_, ?_, ?_⟩
  · intro v
    have hdecode := decodeInteger_integerContent v
    have hshortest : Shortest (integerContent v) := shortest_stripSign (by simp [beBytes])
    have hlength : (integerContent v).length ≤ 8 := (length_stripSign_le _).trans_eq (by simp)
    have hshort : (integerContent v).length < 128 := by omega
    refine ⟨integerContent v, readTlv_wrap hshort, hdecode, ?_⟩
    intro other hother
    obtain ⟨hne, hvalue⟩ := signedValue_of_decodeInteger hother
    obtain ⟨_, hsame⟩ := signedValue_of_decodeInteger hdecode
    exact hshortest.2 other hne (hvalue.trans hsame.symm)
  · intro tag n
    obtain ⟨content, hcontent, hvalue, hshortest⟩ := encodeUnsigned_ok tag n
    have hlength := length_le_of_shortest hshortest hvalue
    refine ⟨content, ?_, hshortest.1, hvalue, ?_⟩
    · rw [hcontent]
      exact readTlv_wrap (by omega)
    · intro other hne hother
      exact hshortest.2 other hne (hother.trans hvalue.symm)
  · intro content hne hlength
    exact decodeInteger_ok (List.length_pos_iff.mp hne) hlength

/-- No byte of 200, as a signed or an unsigned number, can be spared; and two bytes are read. -/
theorem integers_exact_minimal_sample :
    (∃ content, readTlv (encodeInteger 200) 0 = .ok (⟨0x02, content⟩, 4) ∧
      ∀ other, decodeInteger other = .ok 200 → content.length ≤ other.length) ∧
    (∃ content, readTlv (encodeUnsigned 0x43 200) 0 = .ok (⟨0x43, content⟩, 4) ∧
      content.length ≤ ([0x00, 0xc8] : Bytes).length) ∧
    ∃ v, decodeInteger [0xff, 0x7f] = .ok v ∧ v.toInt = -129 := by
  obtain ⟨hsigned, hunsigned, hread⟩ := integers_exact_minimal
  refine ⟨?_, ?_, ?_⟩
  · obtain ⟨content, htlv, _, hminimal⟩ := hsigned 200
    exact ⟨content, htlv, hminimal⟩
  · obtain ⟨content, htlv, _, _, hminimal⟩ := hunsigned 0x43 200
    exact ⟨content, htlv, hminimal [0x00, 0xc8] (by decide) rfl⟩
  · exact hread [0xff, 0x7f] (by decide) (by decide)

end ProtocolSimulation.Engine.Snmp
