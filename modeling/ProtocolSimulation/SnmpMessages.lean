import ProtocolSimulation.SnmpOids

/-!
# The layout of SNMP messages

Requests and responses share one layout: a version, a community and a PDU of
three integers and a list of varbinds. Its parts are read where they stand.
-/
namespace ProtocolSimulation.Engine.Snmp

open ProtocolSimulation.Texts ProtocolSimulation.Fallible

theorem length_wrap (tag : UInt8) (content : Bytes) :
    (wrap tag content).length = 1 + (encodeLength content.length).length + content.length := by
  simp only [wrap, List.length_cons, List.length_append]
  omega

/-- Three TLVs at the start of a byte string. -/
theorem readTlv_three {a b c rest : Bytes} {ta tb tc : Tlv} (ha : IsTlv a ta) (hb : IsTlv b tb)
    (hc : IsTlv c tc) (hlength : (a ++ (b ++ (c ++ rest))).length < 2 ^ 64) :
    readTlv (a ++ (b ++ (c ++ rest))) 0 = .ok (ta, a.length) ∧
      readTlv (a ++ (b ++ (c ++ rest))) a.length = .ok (tb, a.length + b.length) ∧
      readTlv (a ++ (b ++ (c ++ rest))) (a.length + b.length) =
        .ok (tc, a.length + b.length + c.length) ∧
      (a ++ (b ++ (c ++ rest))).drop (a.length + b.length + c.length) = rest := by
  obtain ⟨hreada, hdropa⟩ := @readTlv_step _ a _ 0 ta ha List.drop_zero hlength
  rw [Nat.zero_add] at hreada hdropa
  obtain ⟨hreadb, hdropb⟩ := readTlv_step hb hdropa hlength
  obtain ⟨hreadc, hdropc⟩ := readTlv_step hc hdropb hlength
  exact ⟨hreada, hreadb, hreadc, hdropc⟩

def snmpPdu (requestId second third : Int64) (list : Bytes) : Bytes :=
  encodeInteger requestId ++ (encodeInteger second ++ (encodeInteger third ++ wrap 0x30 list))

def snmpContent (version : Int64) (community : Bytes) (pduTag : UInt8) (pdu : Bytes) : Bytes :=
  encodeInteger version ++ (wrap 0x04 community ++ wrap pduTag pdu)

def snmpMessage (version : Int64) (community : Bytes) (pduTag : UInt8) (pdu : Bytes) : Bytes :=
  wrap 0x30 (snmpContent version community pduTag pdu)

/-- The lengths of the parts, down from the whole message. -/
theorem length_snmpMessage (version : Int64) (community : Bytes) (pduTag : UInt8) (pdu : Bytes) :
    (snmpContent version community pduTag pdu).length <
        (snmpMessage version community pduTag pdu).length ∧
      community.length < (snmpContent version community pduTag pdu).length ∧
      pdu.length < (snmpContent version community pduTag pdu).length := by
  simp only [snmpMessage, snmpContent, length_wrap, List.length_append]
  omega

theorem length_snmpPdu (requestId second third : Int64) (list : Bytes) :
    list.length < (snmpPdu requestId second third list).length := by
  simp only [snmpPdu, length_wrap, List.length_append]
  omega

theorem isTlv_snmpMessage {version : Int64} {community : Bytes} {pduTag : UInt8} {pdu : Bytes}
    (h : (snmpMessage version community pduTag pdu).length < 2 ^ 32) :
    IsTlv (snmpMessage version community pduTag pdu)
      ⟨0x30, snmpContent version community pduTag pdu⟩ := by
  obtain ⟨hcontent, _, _⟩ := length_snmpMessage version community pduTag pdu
  exact isTlv_wrap (by omega)

theorem readTlv_snmpMessage {version : Int64} {community : Bytes} {pduTag : UInt8} {pdu : Bytes}
    (h : (snmpMessage version community pduTag pdu).length < 2 ^ 32) :
    readTlv (snmpMessage version community pduTag pdu) 0 =
      .ok (⟨0x30, snmpContent version community pduTag pdu⟩,
        (snmpMessage version community pduTag pdu).length) :=
  readTlv_of_isTlv (isTlv_snmpMessage h) (by omega)

/-- The three parts of a message. -/
theorem readTlv_snmpContent {version : Int64} {community : Bytes} {pduTag : UInt8} {pdu : Bytes}
    (h : (snmpContent version community pduTag pdu).length < 2 ^ 32) :
    ∃ i j, readTlv (snmpContent version community pduTag pdu) 0 =
        .ok (⟨0x02, integerContent version⟩, i) ∧
      readTlv (snmpContent version community pduTag pdu) i = .ok (⟨0x04, community⟩, j) ∧
      readTlv (snmpContent version community pduTag pdu) j =
        .ok (⟨pduTag, pdu⟩, (snmpContent version community pduTag pdu).length) := by
  obtain ⟨_, hcommunity, hpdu⟩ := length_snmpMessage version community pduTag pdu
  have hcommunityTlv : IsTlv (wrap 0x04 community) ⟨0x04, community⟩ := isTlv_wrap (by omega)
  have hpduTlv : IsTlv (wrap pduTag pdu) ⟨pduTag, pdu⟩ := isTlv_wrap (by omega)
  have hparts : snmpContent version community pduTag pdu =
      encodeInteger version ++ (wrap 0x04 community ++ (wrap pduTag pdu ++ [])) := by
    rw [List.append_nil]
    rfl
  obtain ⟨hread, hread', hread'', _⟩ := readTlv_three (isTlv_encodeInteger version) hcommunityTlv
    hpduTlv (by rw [← hparts]; omega)
  have hstop : (encodeInteger version).length + (wrap 0x04 community).length +
      (wrap pduTag pdu).length = (snmpContent version community pduTag pdu).length := by
    simp only [snmpContent, List.length_append]
    omega
  rw [← hparts] at hread hread' hread''
  rw [hstop] at hread''
  exact ⟨_, _, hread, hread', hread''⟩

/-- The four parts of a PDU. -/
theorem readTlv_snmpPdu {requestId second third : Int64} {list : Bytes}
    (h : (snmpPdu requestId second third list).length < 2 ^ 32) :
    ∃ i j k, readTlv (snmpPdu requestId second third list) 0 =
        .ok (⟨0x02, integerContent requestId⟩, i) ∧
      readTlv (snmpPdu requestId second third list) i = .ok (⟨0x02, integerContent second⟩, j) ∧
      readTlv (snmpPdu requestId second third list) j = .ok (⟨0x02, integerContent third⟩, k) ∧
      readTlv (snmpPdu requestId second third list) k =
        .ok (⟨0x30, list⟩, (snmpPdu requestId second third list).length) := by
  have hlist := length_snmpPdu requestId second third list
  have hlistTlv : IsTlv (wrap 0x30 list) ⟨0x30, list⟩ := isTlv_wrap (by omega)
  have hpdu : (snmpPdu requestId second third list).length < 2 ^ 64 := by omega
  obtain ⟨hread, hread', hread'', hrest⟩ := readTlv_three (isTlv_encodeInteger requestId)
    (isTlv_encodeInteger second) (isTlv_encodeInteger third) hpdu
  obtain ⟨hreadList, _⟩ := readTlv_step hlistTlv (hrest.trans (List.append_nil _).symm) hpdu
  have hstop : (encodeInteger requestId).length + (encodeInteger second).length +
      (encodeInteger third).length + (wrap 0x30 list).length =
      (snmpPdu requestId second third list).length := by
    simp only [snmpPdu, List.length_append]
    omega
  rw [hstop] at hreadList
  exact ⟨_, _, _, hread, hread', hread'', hreadList⟩

def snmpVarbind (content value : Bytes) : Bytes := wrap 0x30 (wrap 0x06 content ++ value)

/-- A varbind in a list, its OID and its value. -/
theorem readTlv_snmpVarbind {content code rest list : Bytes} {cursor : ℕ} {value : Tlv}
    (hvalue : IsTlv code value) (hdrop : list.drop cursor = snmpVarbind content code ++ rest)
    (hlist : list.length < 2 ^ 32) :
    cursor < list.length ∧
      readTlv list cursor =
        .ok (⟨0x30, wrap 0x06 content ++ code⟩, cursor + (snmpVarbind content code).length) ∧
      readTlv (wrap 0x06 content ++ code) 0 =
        .ok (⟨0x06, content⟩, (wrap 0x06 content).length) ∧
      readTlv (wrap 0x06 content ++ code) (wrap 0x06 content).length =
        .ok (value, (wrap 0x06 content ++ code).length) ∧
      list.drop (cursor + (snmpVarbind content code).length) = rest := by
  have hlength := congrArg List.length hdrop
  simp only [snmpVarbind, List.length_drop, List.length_append, length_wrap] at hlength
  have hparts : (wrap 0x06 content ++ code).length < 2 ^ 32 := by
    simp only [List.length_append, length_wrap]
    omega
  have hvarbindTlv : IsTlv (snmpVarbind content code) ⟨0x30, wrap 0x06 content ++ code⟩ :=
    isTlv_wrap hparts
  have hoidTlv : IsTlv (wrap 0x06 content) ⟨0x06, content⟩ := isTlv_wrap (by omega)
  obtain ⟨hread, hnext⟩ := readTlv_step hvarbindTlv hdrop (by omega)
  obtain ⟨hreadOid, hdropValue⟩ := @readTlv_step _ _ code 0 _ hoidTlv List.drop_zero (by omega)
  rw [Nat.zero_add] at hreadOid hdropValue
  obtain ⟨hreadValue, _⟩ :=
    readTlv_step hvalue (hdropValue.trans (List.append_nil _).symm) (by omega)
  rw [← List.length_append] at hreadValue
  exact ⟨by omega, hread, hreadOid, hreadValue, hnext⟩

end ProtocolSimulation.Engine.Snmp
