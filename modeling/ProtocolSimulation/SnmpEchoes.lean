import ProtocolSimulation.SnmpOids

/-!
# The SNMP codec: OIDs that are sent back

An OID that was read is written in a form that is read as the same OID and is
no longer than the one it came in.
-/
namespace ProtocolSimulation.Engine.Snmp

open ProtocolSimulation.Texts ProtocolSimulation.Fallible ProtocolSimulation.BigEndian
open ProtocolSimulation.Septets

/-! ## What is read as an OID -/

/-- The bytes behind the first one are those of components, of which one may have begun. -/
theorem codes_of_decodeComponents {bytes flagged : Bytes} {value : ℕ} {pending : Bool}
    {oid oid' : Oid} (h : decodeComponents bytes value pending oid = .ok oid')
    (hflagged : ∀ b ∈ flagged, 128 ≤ b.toNat) (hvalue : septetValue flagged = value)
    (hpending : pending = false → flagged = []) :
    ∃ codes components, oid' = oid ++ components ∧ flagged ++ bytes = codes.flatten ∧
      List.Forall₂ IsComponent codes components := by
  induction bytes generalizing flagged value pending oid with
  | nil =>
    rw [decodeComponents] at h
    split at h
    next => cases h
    next hdone =>
      cases h
      have hnil := hpending (Bool.not_eq_true _ ▸ hdone)
      exact ⟨[], [], by simp, by rw [hnil]; rfl, .nil⟩
  | cons b rest ih =>
    rw [decodeComponents] at h
    split at h
    next => cases h
    next value' hvalue' =>
      obtain ⟨product, hproduct, hsum⟩ := Option.bind_eq_some_iff.mp hvalue'
      obtain ⟨_, rfl⟩ : value * 128 < 2 ^ 32 ∧ product = value * 128 := by
        rw [checkedMul] at hproduct
        split at hproduct
        next hlt => exact ⟨hlt, (Option.some.inj hproduct).symm⟩
        next => cases hproduct
      obtain ⟨hlt, rfl⟩ := checkedAdd_eq_some_iff.mp hsum
      rw [toNat_and_7f] at h hlt
      have hconcat : septetValue (flagged ++ [b]) = value * 128 + b.toNat % 128 := by
        rw [septetValue_concat, hvalue, Nat.mul_comm]
      by_cases hb : b.toNat < 128
      · rw [if_neg (not_not.mpr (and_80_eq_zero_iff.mpr hb))] at h
        obtain ⟨codes, components, rfl, hflatten, hcodes⟩ := @ih [] _ _ _ h (by simp) rfl (by simp)
        refine ⟨(flagged ++ [b]) :: codes, UInt32.ofNat (value * 128 + b.toNat % 128) :: components,
          by simp, ?_, .cons ⟨flagged, b, rfl, hflagged, hb, ?_⟩ hcodes⟩
        · rw [List.flatten_cons, ← hflatten]
          simp
        · rw [UInt32.toNat_ofNat_of_lt' hlt, hvalue]
          omega
      · rw [if_pos (mt and_80_eq_zero_iff.mp hb)] at h
        have hmore : ∀ c ∈ flagged ++ [b], 128 ≤ c.toNat := by
          intro c hc
          obtain hc | hc := List.mem_append.mp hc
          · exact hflagged c hc
          · rw [List.mem_singleton.mp hc]
            exact not_lt.mp hb
        obtain ⟨codes, components, hoid, hflatten, hcodes⟩ := ih h hmore hconcat (by simp)
        exact ⟨codes, components, hoid, by rw [← hflatten]; simp, hcodes⟩

/-! ## What is written for it -/

theorem length_packSeptets_le {index k : ℕ} {remaining : UInt32} {packed code : Bytes}
    (h : packSeptets index remaining packed = .ok code) (hk : remaining.toNat < 128 ^ k) :
    code.length ≤ k + packed.length := by
  induction index generalizing k remaining packed with
  | zero =>
    rw [packSeptets] at h
    split at h
    next =>
      cases h
      omega
    next => cases h
  | succ index ih =>
    rw [packSeptets] at h
    split at h
    next =>
      cases h
      omega
    next hrest =>
      have hne : remaining.toNat ≠ 0 := fun hn => hrest (UInt32.toNat_inj.mp hn)
      cases k with
      | zero => omega
      | succ k =>
        have hlt : (remaining >>> 7).toNat < 128 ^ k := by
          rw [toNat_shiftRight_7]
          rw [pow_succ] at hk
          omega
        have hlength := ih h hlt
        rw [List.length_cons] at hlength
        omega

/-- No bytes that are read as a component are fewer than those that are written for it. -/
theorem length_encodeComponent_le {component : UInt32} {code other : Bytes}
    (h : encodeComponent component = .ok code) (hother : IsComponent other component) :
    code.length ≤ other.length := by
  obtain ⟨flagged, last, rfl, _, hlast, hvalue⟩ := hother
  have hlt := septetValue_lt flagged
  have hshift : (component >>> 7).toNat < 128 ^ flagged.length := by
    rw [toNat_shiftRight_7]
    omega
  have hlength := length_packSeptets_le h hshift
  simpa using hlength

theorem length_flatten_codes_le {components : Oid} {codes others : List Bytes}
    (hcodes : List.Forall₂ (fun component code => encodeComponent component = .ok code)
      components codes)
    (hothers : List.Forall₂ IsComponent others components) :
    codes.flatten.length ≤ others.flatten.length := by
  induction hcodes generalizing others with
  | nil =>
    cases hothers
    exact le_refl _
  | cons hcode _ ih =>
    cases hothers with
    | cons hother hothers =>
      have hfirst := length_encodeComponent_le hcode hother
      have hrest := ih hothers
      rw [List.flatten_cons, List.flatten_cons, List.length_append, List.length_append]
      omega

/-- An OID that is read can be written; it is read back, and is no longer than it was. -/
theorem decodeOid_canonical {bytes : Bytes} {oid : Oid} (h : decodeOid bytes = .ok oid) :
    ∃ content, encodeOid oid = .ok (wrap 0x06 content) ∧ decodeOid content = .ok oid ∧
      content.length ≤ bytes.length := by
  have hencodable := encodable_of_decodeOid h
  cases bytes with
  | nil => cases h
  | cons head rest =>
    simp only [decodeOid, bind_ok_iff, mul_ok_iff, sub_ok_iff] at h
    obtain ⟨_, ⟨_, rfl⟩, _, ⟨_, rfl⟩, h⟩ := h
    obtain ⟨others, components, rfl, hrest, hothers⟩ :=
      @codes_of_decodeComponents _ [] _ _ _ _ h (by simp) rfl (by simp)
    obtain ⟨codes, hcodes, hcomponents⟩ := mapM_encodeComponent components
    refine ⟨_, encodeOid_eq hencodable hcodes, decodeOid_codes hencodable hcomponents, ?_⟩
    have hlength := length_flatten_codes_le (mapM_ok_iff.mp hcodes) hothers
    rw [← hrest, List.nil_append] at hlength
    exact Nat.succ_le_succ hlength

/-- A padded component behind a first byte that holds 2 and 47. -/
theorem decodeOid_canonical_padded : ∃ content, encodeOid [2, 47, 300] = .ok (wrap 0x06 content) ∧
    decodeOid content = .ok [2, 47, 300] ∧ content.length ≤ 4 :=
  @decodeOid_canonical [0x7f, 0x80, 0x82, 0x2c] _ rfl

end ProtocolSimulation.Engine.Snmp
