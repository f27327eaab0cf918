import ProtocolSimulation.SnmpCodec

/-!
# The SNMP codec: OIDs

An OID can be written if its first two components fit one byte as the format
packs them. What is written is read back, and every OID that is read can be
written.
-/
namespace ProtocolSimulation.Engine.Snmp

open ProtocolSimulation.Texts ProtocolSimulation.Fallible ProtocolSimulation.BigEndian
open ProtocolSimulation.Septets

/-- The OIDs that can be written. -/
def Encodable : Oid → Prop
  | first :: second :: _ =>
    first.toNat ≤ 2 ∧ (first.toNat < 2 → second.toNat < 40) ∧ 40 * first.toNat + second.toNat ≤ 255
  | _ => False

instance : DecidablePred Encodable := fun oid =>
  match oid with
  | [] => inferInstanceAs (Decidable False)
  | [_] => inferInstanceAs (Decidable False)
  | first :: second :: _ => inferInstanceAs (Decidable (first.toNat ≤ 2 ∧
      (first.toNat < 2 → second.toNat < 40) ∧ 40 * first.toNat + second.toNat ≤ 255))

/-- The bytes of a component: all but the last one say that more follow. -/
def IsComponent (code : Bytes) (component : UInt32) : Prop :=
  ∃ flagged last, code = flagged ++ [last] ∧ (∀ b ∈ flagged, 128 ≤ b.toNat) ∧ last.toNat < 128 ∧
    128 * septetValue flagged + last.toNat = component.toNat

theorem toNat_shiftRight_7 (n : UInt32) : (n >>> 7).toNat = n.toNat / 128 := by
  simp [UInt32.toNat_shiftRight, Nat.shiftRight_eq_div_pow]

theorem toNat_low_7 (n : UInt32) : (n &&& 0x7f).toUInt8.toNat = n.toNat % 128 := by
  have hand : (n &&& 0x7f).toNat = n.toNat % 128 := by
    rw [UInt32.toNat_and]
    exact Nat.and_two_pow_sub_one_eq_mod n.toNat 7
  rw [UInt32.toNat_toUInt8, hand]
  omega

theorem packSeptets_ok {index : ℕ} {remaining : UInt32} {packed : Bytes}
    (h : remaining.toNat < 128 ^ index) :
    ∃ flagged, packSeptets index remaining packed = .ok (flagged ++ packed) ∧
      (∀ b ∈ flagged, 128 ≤ b.toNat) ∧ septetValue flagged = remaining.toNat := by
  induction index generalizing remaining packed with
  | zero =>
    have hzero : remaining = 0 := UInt32.toNat_inj.mp (by simpa using h)
    exact ⟨[], by rw [packSeptets, if_pos hzero]; rfl, by simp, by simp [hzero]⟩
  | succ index ih =>
    by_cases hzero : remaining = 0
    · exact ⟨[], by rw [packSeptets, if_pos hzero]; rfl, by simp, by simp [hzero]⟩
    · have hshift := toNat_shiftRight_7 remaining
      have hlow := toNat_low_7 remaining
      have hbyte : ((remaining &&& 0x7f).toUInt8 ||| 0x80).toNat = 128 + remaining.toNat % 128 := by
        rw [UInt8.or_comm, toNat_80_or (by omega), hlow]
      have hlt : (remaining >>> 7).toNat < 128 ^ index := by
        rw [pow_succ] at h
        omega
      obtain ⟨flagged, hpack, hflagged, hvalue⟩ :=
        @ih _ (((remaining &&& 0x7f).toUInt8 ||| 0x80) :: packed) hlt
      refine ⟨flagged ++ [(remaining &&& 0x7f).toUInt8 ||| 0x80], ?_, ?_, ?_⟩
      · rw [packSeptets, if_neg hzero, List.append_assoc]
        exact hpack
      · intro b hb
        rcases List.mem_append.mp hb with hb | hb
        · exact hflagged b hb
        · rw [List.mem_singleton.mp hb, hbyte]
          omega
      · rw [septetValue_concat, hvalue, hshift, hbyte]
        omega

theorem encodeComponent_ok (component : UInt32) :
    ∃ code, encodeComponent component = .ok code ∧ IsComponent code component := by
  have hlt := component.toNat_lt
  have hshift := toNat_shiftRight_7 component
  have hlow := toNat_low_7 component
  obtain ⟨flagged, hpack, hflagged, hvalue⟩ :=
    @packSeptets_ok 4 (component >>> 7) [(component &&& 0x7f).toUInt8] (by omega)
  refine ⟨_, hpack, flagged, _, rfl, hflagged, by omega, ?_⟩
  rw [hvalue, hshift, hlow]
  omega

/-- One byte more of a component. -/
theorem decodeComponents_cons {b : UInt8} {rest : Bytes} {value : ℕ} {pending : Bool} {oid : Oid}
    (h : 128 * value + b.toNat % 128 < 2 ^ 32) :
    decodeComponents (b :: rest) value pending oid =
      if b.toNat < 128 then
        decodeComponents rest 0 false (oid ++ [UInt32.ofNat (128 * value + b.toNat % 128)])
      else decodeComponents rest (128 * value + b.toNat % 128) true oid := by
  have hmul : checkedMul 32 value 128 = some (value * 128) := if_pos (by omega)
  have hadd : checkedAdd 32 (value * 128) (b.toNat % 128) = some (128 * value + b.toNat % 128) :=
    checkedAdd_eq_some_iff.mpr ⟨by omega, by omega⟩
  rw [decodeComponents, hmul, Option.bind_some, toNat_and_7f, hadd]
  simp only [ne_eq, and_80_eq_zero_iff]
  by_cases hb : b.toNat < 128 <;> simp [hb]

theorem decodeComponents_flagged {flagged rest : Bytes} {value : ℕ} {pending : Bool} {oid : Oid}
    (hflagged : ∀ b ∈ flagged, 128 ≤ b.toNat) (hne : flagged ≠ [])
    (h : value * 128 ^ flagged.length + septetValue flagged < 2 ^ 32) :
    decodeComponents (flagged ++ rest) value pending oid =
      decodeComponents rest (value * 128 ^ flagged.length + septetValue flagged) true oid := by
  induction flagged generalizing value pending with
  | nil => exact absurd rfl hne
  | cons b flagged ih =>
    have hb := hflagged b List.mem_cons_self
    have hpos : 0 < 128 ^ flagged.length := Nat.pow_pos (by omega)
    have hvalue : value * 128 ^ (b :: flagged).length + septetValue (b :: flagged) =
        (128 * value + b.toNat % 128) * 128 ^ flagged.length + septetValue flagged := by
      rw [septetValue_cons, List.length_cons, pow_succ]
      ring
    have hle : 128 * value + b.toNat % 128 ≤
        (128 * value + b.toNat % 128) * 128 ^ flagged.length := Nat.le_mul_of_pos_right _ hpos
    rw [hvalue] at h ⊢
    rw [List.cons_append, decodeComponents_cons (by omega), if_neg (by omega)]
    by_cases hlast : flagged = []
    · subst hlast
      simp
    · exact ih (fun c hc => hflagged c (List.mem_cons_of_mem b hc)) hlast h

/-- A component is read back from its bytes. -/
theorem decodeComponents_component {code rest : Bytes} {component : UInt32} {pending : Bool}
    {oid : Oid} (h : IsComponent code component) :
    decodeComponents (code ++ rest) 0 pending oid =
      decodeComponents rest 0 false (oid ++ [component]) := by
  obtain ⟨flagged, last, rfl, hflagged, hlast, hvalue⟩ := h
  have hlt := component.toNat_lt
  have hmod : last.toNat % 128 = last.toNat := Nat.mod_eq_of_lt hlast
  have hcomponent : UInt32.ofNat (128 * septetValue flagged + last.toNat % 128) = component := by
    rw [hmod, hvalue, UInt32.ofNat_toNat]
  rw [List.append_assoc, List.singleton_append]
  by_cases hnil : flagged = []
  · subst hnil
    rw [septetValue_nil] at hcomponent hvalue
    rw [List.nil_append, decodeComponents_cons (by omega), if_pos hlast, hcomponent]
  · have hstart : 0 * 128 ^ flagged.length + septetValue flagged = septetValue flagged := by omega
    rw [decodeComponents_flagged hflagged hnil (by omega), hstart,
      decodeComponents_cons (by omega), if_pos hlast, hcomponent]

theorem decodeComponents_flatten {codes : List Bytes} {components oid : Oid}
    (h : List.Forall₂ IsComponent codes components) :
    decodeComponents codes.flatten 0 false oid = .ok (oid ++ components) := by
  induction h generalizing oid with
  | nil => simp [decodeComponents]
  | cons hcode _ ih =>
    rw [List.flatten_cons, decodeComponents_component hcode, ih, List.append_assoc]
    rfl

theorem mapM_encodeComponent (components : Oid) :
    ∃ codes, components.mapM encodeComponent = .ok codes ∧
      List.Forall₂ IsComponent codes components := by
  induction components with
  | nil => exact ⟨[], rfl, .nil⟩
  | cons component components ih =>
    obtain ⟨code, hcode, hcomponent⟩ := encodeComponent_ok component
    obtain ⟨codes, hcodes, hcomponents⟩ := ih
    exact ⟨code :: codes, by simp [hcode, hcodes], .cons hcomponent hcomponents⟩

/-- The first byte holds the first two components. -/
theorem decodeOid_cons {head : UInt8} {first second : UInt32} (rest : Bytes)
    (hhead : head.toNat = 40 * first.toNat + second.toNat) (hfirst : first.toNat ≤ 2)
    (hsecond : first.toNat < 2 → second.toNat < 40) :
    decodeOid (head :: rest) = decodeComponents rest 0 false [first, second] := by
  have hmin : min (head.toNat / 40) 2 = first.toNat := by omega
  have hmul : mul 32 first.toNat 40 = .ok (first.toNat * 40) := if_pos (by omega)
  have hsub : sub head.toNat (first.toNat * 40) = .ok second.toNat := by
    rw [sub, if_pos (by omega)]
    congr 1
    omega
  simp only [decodeOid, hmin, hmul, ok_bind, hsub, UInt32.ofNat_toNat]

theorem encodeOid_eq {first second : UInt32} {components : Oid} {codes : List Bytes}
    (h : Encodable (first :: second :: components))
    (hcodes : components.mapM encodeComponent = .ok codes) :
    encodeOid (first :: second :: components) =
      .ok (wrap 0x06 (UInt8.ofNat (first.toNat * 40 + second.toNat) :: codes.flatten)) := by
  obtain ⟨hfirst, hsecond, hhead⟩ := h
  have hbail : ¬ (2 < first ∨ (first < 2 ∧ 40 ≤ second)) := by
    simp only [UInt32.lt_iff_toNat_lt, UInt32.le_iff_toNat_le, UInt32.reduceToNat]
    omega
  have hmul : mul 32 first.toNat 40 = .ok (first.toNat * 40) := if_pos (by omega)
  have hadd : add 32 (first.toNat * 40) second.toNat = .ok (first.toNat * 40 + second.toNat) :=
    add_ok (by omega)
  have htry : u8TryFrom (first.toNat * 40 + second.toNat) =
      .ok (UInt8.ofNat (first.toNat * 40 + second.toNat)) := if_pos (by omega)
  simp only [encodeOid, if_neg hbail, hmul, ok_bind, hadd, htry, hcodes, pure_eq_ok]

theorem decodeOid_codes {first second : UInt32} {components : Oid} {codes : List Bytes}
    (h : Encodable (first :: second :: components))
    (hcodes : List.Forall₂ IsComponent codes components) :
    decodeOid (UInt8.ofNat (first.toNat * 40 + second.toNat) :: codes.flatten) =
      .ok (first :: second :: components) := by
  obtain ⟨hfirst, hsecond, hhead⟩ := h
  rw [decodeOid_cons _ (by rw [toNat_ofNat_of_lt (by omega)]; omega) hfirst hsecond,
    decodeComponents_flatten hcodes]
  rfl

/-- An OID that can be written is read back from what is written. -/
theorem encodeOid_ok {oid : Oid} (h : Encodable oid) :
    ∃ content, encodeOid oid = .ok (wrap 0x06 content) ∧ decodeOid content = .ok oid := by
  match oid, h with
  | first :: second :: components, h =>
    obtain ⟨codes, hcodes, hcomponents⟩ := mapM_encodeComponent components
    exact ⟨_, encodeOid_eq h hcodes, decodeOid_codes h hcomponents⟩

theorem encodable_of_encodeOid {oid : Oid} {code : Bytes} (h : encodeOid oid = .ok code) :
    Encodable oid := by
  match oid with
  | [] => cases h
  | [_] => cases h
  | first :: second :: components =>
    rw [encodeOid] at h
    split at h
    · cases h
    · rename_i hbail
      simp only [UInt32.lt_iff_toNat_lt, UInt32.le_iff_toNat_le, UInt32.reduceToNat] at hbail
      simp only [bind_ok_iff, add_ok_iff, mul_ok_iff, u8TryFrom_ok_iff] at h
      obtain ⟨_, ⟨_, rfl⟩, _, ⟨_, rfl⟩, _, ⟨hhead, _⟩, _⟩ := h
      exact ⟨by omega, by omega, by omega⟩

/-- What is written for an OID, and that reading it gives the OID back. -/
theorem content_of_encodeOid {oid : Oid} {code : Bytes} (h : encodeOid oid = .ok code) :
    ∃ content, code = wrap 0x06 content ∧ decodeOid content = .ok oid := by
  obtain ⟨content, hcontent, hdecode⟩ := encodeOid_ok (encodable_of_encodeOid h)
  rw [h] at hcontent
  cases hcontent
  exact ⟨content, rfl, hdecode⟩

theorem exists_encodeOid_iff {oid : Oid} : (∃ code, encodeOid oid = .ok code) ↔ Encodable oid := by
  constructor
  · intro h
    obtain ⟨code, hcode⟩ := h
    exact encodable_of_encodeOid hcode
  · intro h
    obtain ⟨content, hcontent, _⟩ := encodeOid_ok h
    exact ⟨_, hcontent⟩

theorem decodeComponents_prefix {bytes : Bytes} {value : ℕ} {pending : Bool} {oid oid' : Oid}
    (h : decodeComponents bytes value pending oid = .ok oid') : oid <+: oid' := by
  induction bytes generalizing value pending oid with
  | nil =>
    rw [decodeComponents] at h
    split at h
    · cases h
    · cases h
      exact List.prefix_rfl
  | cons b bytes ih =>
    rw [decodeComponents] at h
    split at h
    · cases h
    · split at h
      · exact ih h
      · exact (List.prefix_append _ _).trans (ih h)

/-- Every OID that is read can be written. -/
theorem encodable_of_decodeOid {bytes : Bytes} {oid : Oid} (h : decodeOid bytes = .ok oid) :
    Encodable oid := by
  cases bytes with
  | nil => cases h
  | cons head rest =>
    have hlt := head.toNat_lt
    simp only [decodeOid, bind_ok_iff, mul_ok_iff, sub_ok_iff] at h
    obtain ⟨_, ⟨_, rfl⟩, _, ⟨_, rfl⟩, h⟩ := h
    obtain ⟨more, rfl⟩ := decodeComponents_prefix h
    have hfirst : (UInt32.ofNat (min (head.toNat / 40) 2)).toNat = min (head.toNat / 40) 2 := by
      simp only [UInt32.toNat_ofNat']
      omega
    have hsecond : (UInt32.ofNat (head.toNat - min (head.toNat / 40) 2 * 40)).toNat =
        head.toNat - min (head.toNat / 40) 2 * 40 := by
      simp only [UInt32.toNat_ofNat']
      omega
    refine ⟨?_, ?_, ?_⟩
    · rw [hfirst]
      omega
    · rw [hfirst, hsecond]
      omega
    · rw [hfirst, hsecond]
      omega

end ProtocolSimulation.Engine.Snmp
