import ProtocolSimulation.SnmpMessages

/-!
# Reading SNMP requests

A request that is written with the writers of the simulation is read back field
by field, whatever its community, its controls and the values next to its OIDs
are. Without an OID, with too many of them or with a byte behind it, it is
rejected.
-/
namespace ProtocolSimulation.Engine.Snmp

open ProtocolSimulation.Texts ProtocolSimulation.Fallible

@[simp] theorem ensure_of_true {c : Prop} [Decidable c] (h : c) (message : Text) :
    ensure c message = .ok () := if_pos h

theorem ensure_of_false {c : Prop} [Decidable c] (h : ¬ c) (message : Text) :
    ensure c message = .error (.bail message) := if_neg h

theorem ensure_ok_iff {c : Prop} [Decidable c] {message : Text} {u : Unit} :
    ensure c message = .ok u ↔ c := by
  rw [ensure]
  split <;> simp [*]

/-! ## What is accepted -/

/-- One round of reading varbinds. -/
theorem readVarbinds_cases {list : Bytes} {room cursor : ℕ} {oids : List Oid}
    (h : readVarbinds list room cursor = .ok oids) :
    oids = [] ∨ ∃ room' cursor' oid rest, room = room' + 1 ∧ oids = oid :: rest ∧ Encodable oid ∧
      readVarbinds list room' cursor' = .ok rest := by
  cases room with
  | zero =>
    rw [readVarbinds] at h
    split at h
    · cases h
      exact .inl rfl
    · cases h
  | succ room =>
    rw [readVarbinds] at h
    split at h
    · cases h
      exact .inl rfl
    · simp only [bind_ok_iff, Prod.exists, pure_eq_ok] at h
      obtain ⟨_, _, _, _, _, _, _, _, _, _, _, _, _, oid, hoid, rest, hrest, h⟩ := h
      cases h
      exact .inr ⟨room, _, oid, rest, rfl, rfl, encodable_of_decodeOid hoid, hrest⟩

theorem encodable_of_readVarbinds {list : Bytes} {room cursor : ℕ} {oids : List Oid}
    (h : readVarbinds list room cursor = .ok oids) : ∀ oid ∈ oids, Encodable oid := by
  induction oids generalizing room cursor with
  | nil => simp
  | cons oid rest ih =>
    obtain hnil | ⟨room', cursor', oid', rest', _, hoids, hoid, hrest⟩ := readVarbinds_cases h
    · cases hnil
    · cases hoids
      exact List.forall_mem_cons.mpr ⟨hoid, ih hrest⟩

/-- There are no more varbinds than there is room for. -/
theorem length_le_of_readVarbinds {list : Bytes} {room cursor : ℕ} {oids : List Oid}
    (h : readVarbinds list room cursor = .ok oids) : oids.length ≤ room := by
  induction oids generalizing room cursor with
  | nil => simp
  | cons oid rest ih =>
    obtain hnil | ⟨room', cursor', oid', rest', hroom, hoids, _, hrest⟩ := readVarbinds_cases h
    · cases hnil
    · cases hoids
      rw [hroom]
      exact Nat.succ_le_succ (ih hrest)

/-- The parts of a message that a request is read from. -/
theorem parts_of_parseRequest {message : Bytes} {request : SnmpRequest}
    (h : parseRequest message = .ok request) :
    ∃ envelope version community pdu i j k list,
      readTlv message 0 = .ok (envelope, message.length) ∧
      readTlv envelope.value 0 = .ok (version, i) ∧
      readTlv envelope.value i = .ok (community, j) ∧
      readTlv envelope.value j = .ok (pdu, k) ∧
      readVarbinds list MAX_VARBINDS 0 = .ok request.oids ∧
      request.pduTag ∈ [0xa0, 0xa1, 0xa5] ∧ request.oids ≠ [] ∧
      request.community = community.value ∧ request.pduTag = pdu.tag := by
  simp only [parseRequest, bind_ok_iff, Prod.exists, pure_eq_ok, ensure_ok_iff] at h
  obtain ⟨envelope, cursor, henvelope, _, ⟨_, hcursor⟩, version, i, hversion, community, j,
    hcommunity, pdu, k, hpdu, _, ⟨_, _, htag⟩, _, _, _, _, _, _, _, _, _, _, _, _, _, list, _, _, _,
    _, _, _, oids, hoids, _, hne, _, _, hrequest⟩ := h
  cases hrequest
  rw [hcursor] at henvelope
  exact ⟨envelope, version, community, pdu, i, j, k, list.value, henvelope, hversion, hcommunity,
    hpdu, hoids, htag, hne, rfl, rfl⟩

theorem oids_length_le_of_parseRequest {message : Bytes} {request : SnmpRequest}
    (h : parseRequest message = .ok request) : request.oids.length ≤ MAX_VARBINDS := by
  obtain ⟨_, _, _, _, _, _, _, _, _, _, _, _, hoids, _⟩ := parts_of_parseRequest h
  exact length_le_of_readVarbinds hoids

/-- An accepted request has a known tag and at least one OID, and its OIDs can be written. -/
theorem request_of_parseRequest {message : Bytes} {request : SnmpRequest}
    (h : parseRequest message = .ok request) :
    request.pduTag ∈ [0xa0, 0xa1, 0xa5] ∧ request.oids ≠ [] ∧
      ∀ oid ∈ request.oids, Encodable oid := by
  obtain ⟨_, _, _, _, _, _, _, _, _, _, _, _, hoids, htag, hne, _⟩ := parts_of_parseRequest h
  exact ⟨htag, hne, encodable_of_readVarbinds hoids⟩

/-- The community of a request was read behind a length. -/
theorem community_of_parseRequest {message : Bytes} {request : SnmpRequest}
    (h : parseRequest message = .ok request) : request.community.length < 2 ^ 32 := by
  obtain ⟨_, _, _, _, _, _, _, _, _, _, hread, _, _, _, _, hcommunity, _⟩ :=
    parts_of_parseRequest h
  obtain ⟨_, ⟨_, hlength, _⟩, _⟩ := drop_of_readTlv hread
  rw [hcommunity]
  exact hlength.lt

/-- A message that is read has the tag it was written with. -/
theorem pduTag_of_parseRequest {version : Int64} {community pdu : Bytes} {pduTag : UInt8}
    {request : SnmpRequest} (hcommunity : community.length < 2 ^ 32)
    (h : parseRequest (snmpMessage version community pduTag pdu) = .ok request) :
    request.pduTag = pduTag := by
  obtain ⟨envelope, _, _, tlv, i, j, k, _, henvelope, hversion, hsecond, hpdu, _, _, _, _, htag⟩ :=
    parts_of_parseRequest h
  obtain ⟨_, _, _, _, hbound⟩ := drop_of_readTlv henvelope
  obtain rfl := value_of_isTlv_wrap (isTlv_of_readTlv henvelope)
  obtain ⟨hcontent, _, _⟩ := length_snmpMessage version community pduTag pdu
  have hlength : (snmpContent version community pduTag pdu).length < 2 ^ 64 := by omega
  obtain ⟨hreadVersion, hdropVersion⟩ :=
    @readTlv_step _ _ _ 0 _ (isTlv_encodeInteger version) List.drop_zero hlength
  obtain ⟨_, hi⟩ := Prod.mk.inj (Except.ok.inj (hreadVersion.symm.trans hversion))
  rw [hi] at hdropVersion
  obtain ⟨hreadCommunity, hdropCommunity⟩ :=
    readTlv_step (isTlv_wrap hcommunity) hdropVersion hlength
  obtain ⟨_, hj⟩ := Prod.mk.inj (Except.ok.inj (hreadCommunity.symm.trans hsecond))
  rw [hj] at hdropCommunity
  obtain ⟨_, ⟨_, _, rfl⟩, hdropPdu, _⟩ := drop_of_readTlv hpdu
  rw [htag]
  exact (List.cons.inj (hdropCommunity.symm.trans hdropPdu)).1.symm

/-! ## What is written is read back -/

/-- A varbind of a request: an OID and the bytes of a value. -/
def encodeRequestVarbind (varbind : Oid × Bytes) : Except SnmpError Bytes := do
  let oid ← encodeOid varbind.1
  return wrap 0x30 (oid ++ varbind.2)

/-- A request as the tests of the simulation write one, with any fields. -/
def encodeRequest (version : Int64) (community : Bytes) (pduTag : UInt8)
    (requestId firstControl secondControl : Int64) (varbinds : List (Oid × Bytes)) :
    Except SnmpError Bytes := do
  let encoded ← varbinds.mapM encodeRequestVarbind
  return snmpMessage version community pduTag
    (snmpPdu requestId firstControl secondControl encoded.flatten)

/-- The repetitions a request asks for, from its second control. -/
def clampedRepetitions (pduTag : UInt8) (secondControl : Int64) : ℕ :=
  if pduTag = 0xa5 then (max 0 (min secondControl.toInt 32)).toNat else 1

theorem readMaxRepetitions_integerContent (pduTag : UInt8) (secondControl : Int64) :
    readMaxRepetitions pduTag (integerContent secondControl) =
      .ok (clampedRepetitions pduTag secondControl) := by
  rw [readMaxRepetitions, clampedRepetitions]
  split
  · rw [decodeInteger_integerContent, ok_bind, pure_eq_ok, MAX_VARBINDS]
    congr 1
    omega
  · rfl

/-- The fields of a request are read one after the other; its list of varbinds comes next. -/
theorem parseRequest_snmpMessage {version : Int64} {community : Bytes} {pduTag : UInt8}
    {requestId firstControl secondControl : Int64} {list : Bytes}
    (hversion : version = 0 ∨ version = 1) (htag : pduTag ∈ [0xa0, 0xa1, 0xa5])
    (hlength : (snmpMessage version community pduTag
      (snmpPdu requestId firstControl secondControl list)).length < 2 ^ 32) :
    parseRequest (snmpMessage version community pduTag
      (snmpPdu requestId firstControl secondControl list)) = do
        let oids ← readVarbinds list MAX_VARBINDS 0
        ensure (oids ≠ []) "SNMP request does not contain a varbind"
        return ⟨version, community, pduTag, requestId,
          clampedRepetitions pduTag secondControl, oids⟩ := by
  obtain ⟨hcontent, _, hpdu⟩ := length_snmpMessage version community pduTag
    (snmpPdu requestId firstControl secondControl list)
  have hmessage := readTlv_snmpMessage hlength
  obtain ⟨_, _, hversionRead, hcommunity, hpduRead⟩ := readTlv_snmpContent (hcontent.trans hlength)
  obtain ⟨_, _, _, hrequestId, hfirst, hsecond, hlist⟩ :=
    readTlv_snmpPdu ((hpdu.trans hcontent).trans hlength)
  rw [parseRequest]
  simp only [hmessage, ok_bind, hversionRead, hcommunity, hpduRead, htag, and_self, ensure_of_true,
    decodeInteger_integerContent, hversion, hrequestId, hfirst, hsecond, hlist,
    readMaxRepetitions_integerContent, pure_eq_ok]

theorem readVarbinds_end {list : Bytes} {room cursor : ℕ} (h : list.length ≤ cursor) :
    readVarbinds list room cursor = .ok [] := by
  cases room <;> rw [readVarbinds, if_pos h]

/-- The OID of a varbind is read where the varbind stands, whatever its value is. -/
theorem readVarbinds_cons {varbind : Oid × Bytes} {code rest list : Bytes} {cursor : ℕ} {tlv : Tlv}
    (hcode : encodeRequestVarbind varbind = .ok code) (hvalue : IsTlv varbind.2 tlv)
    (hdrop : list.drop cursor = code ++ rest) (hlist : list.length < 2 ^ 32) :
    (readVarbinds list 0 cursor =
      .error (.bail "SNMP request contains too many varbinds")) ∧
    (∀ room, readVarbinds list (room + 1) cursor = do
      let oids ← readVarbinds list room (cursor + code.length)
      return varbind.1 :: oids) ∧
    list.drop (cursor + code.length) = rest := by
  obtain ⟨oidCode, hoid, hcode⟩ := bind_ok_iff.mp hcode
  obtain ⟨content, rfl, hdecode⟩ := content_of_encodeOid hoid
  cases hcode
  obtain ⟨hcursor, hread, hreadOid, hreadValue, hnext⟩ := readTlv_snmpVarbind hvalue hdrop hlist
  refine ⟨?_, ?_, hnext⟩
  · rw [readVarbinds, if_neg (by omega)]
  · intro room
    rw [readVarbinds, if_neg (by omega)]
    simp only [hread, ok_bind, ensure_of_true, hreadOid, hreadValue, hdecode, snmpVarbind]

/-- The OIDs of varbinds are read one after the other, if there is room for them. -/
theorem readVarbinds_of_drop {varbinds : List (Oid × Bytes)} {codes : List Bytes} {list : Bytes}
    {room cursor : ℕ} (hcodes : varbinds.mapM encodeRequestVarbind = .ok codes)
    (hvalues : ∀ varbind ∈ varbinds, ∃ tlv, IsTlv varbind.2 tlv)
    (hdrop : list.drop cursor = codes.flatten) (hlist : list.length < 2 ^ 32) :
    readVarbinds list room cursor =
      if varbinds.length ≤ room then .ok (varbinds.map Prod.fst)
      else .error (.bail "SNMP request contains too many varbinds") := by
  have hall := mapM_ok_iff.mp hcodes
  clear hcodes
  induction hall generalizing room cursor with
  | nil =>
    rw [readVarbinds_end (List.drop_eq_nil_iff.mp hdrop), if_pos (by simp)]
    rfl
  | @cons varbind code varbinds codes hcode _ ih =>
    obtain ⟨tlv, hvalue⟩ := hvalues varbind List.mem_cons_self
    obtain ⟨hzero, hsucc, hnext⟩ := readVarbinds_cons hcode hvalue hdrop hlist
    cases room with
    | zero => rw [hzero, if_neg (by simp)]
    | succ room =>
      rw [hsucc, ih (fun v hv => hvalues v (List.mem_cons_of_mem varbind hv)) hnext]
      by_cases hroom : varbinds.length ≤ room
      · rw [if_pos hroom, if_pos (by simpa using hroom)]
        rfl
      · rw [if_neg hroom, if_neg (by simpa using hroom)]
        rfl

/-- A request can be written exactly for OIDs that can be. -/
theorem exists_encodeRequest_iff {version : Int64} {community : Bytes} {pduTag : UInt8}
    {requestId firstControl secondControl : Int64} {varbinds : List (Oid × Bytes)} :
    (∃ message, encodeRequest version community pduTag requestId firstControl
      secondControl varbinds = .ok message) ↔ ∀ varbind ∈ varbinds, Encodable varbind.1 := by
  have hvarbind : ∀ varbind : Oid × Bytes,
      (∃ code, encodeRequestVarbind varbind = .ok code) ↔ Encodable varbind.1 := by
    intro varbind
    rw [← exists_encodeOid_iff]
    simp [encodeRequestVarbind, bind_ok_iff]
  simp only [← hvarbind, ← exists_mapM_ok_iff]
  simp [encodeRequest, bind_ok_iff]

/-- Bytes behind the sequence of a message make it no message. -/
theorem parseRequest_append {message trailing : Bytes} {tlv : Tlv} (hmessage : IsTlv message tlv)
    (hlength : message.length < 2 ^ 64) (htrailing : trailing ≠ []) :
    parseRequest (message ++ trailing) =
      .error (.bail "SNMP message must contain one BER sequence") := by
  have hread := @readTlv_of_drop _ _ trailing 0 _ hmessage List.drop_zero (by omega)
  have hpos := List.length_pos_iff.mpr htrailing
  have hlengths : ¬ (tlv.tag = 0x30 ∧ 0 + message.length = (message ++ trailing).length) := by
    rw [List.length_append]
    omega
  rw [parseRequest, hread, ok_bind]
  simp only [ensure_of_false hlengths, error_bind]

/-- What is written as a request is read back as that request. Without an OID, with more than 32
or with bytes behind it, it is rejected. -/
theorem parseRequest_encodeRequest {version : Int64} {community : Bytes} {pduTag : UInt8}
    {requestId firstControl secondControl : Int64} {varbinds : List (Oid × Bytes)} {message : Bytes}
    (hversion : version = 0 ∨ version = 1) (htag : pduTag ∈ [0xa0, 0xa1, 0xa5])
    (hvalues : ∀ varbind ∈ varbinds, ∃ tlv, readTlv varbind.2 0 = .ok (tlv, varbind.2.length))
    (hmessage : encodeRequest version community pduTag requestId firstControl
      secondControl varbinds = .ok message)
    (hlength : message.length < 2 ^ 32) :
    (varbinds ≠ [] → varbinds.length ≤ 32 → parseRequest message = .ok
      { version := version, community := community, pduTag := pduTag, requestId := requestId,
        maxRepetitions := if pduTag = 0xa5 then (max 0 (min secondControl.toInt 32)).toNat else 1,
        oids := varbinds.map Prod.fst }) ∧
    (varbinds = [] → parseRequest message =
      .error (.bail "SNMP request does not contain a varbind")) ∧
    (32 < varbinds.length → parseRequest message =
      .error (.bail "SNMP request contains too many varbinds")) ∧
    (∀ trailing, trailing ≠ [] → parseRequest (message ++ trailing) =
      .error (.bail "SNMP message must contain one BER sequence")) := by
  obtain ⟨codes, hcodes, hmessage⟩ := bind_ok_iff.mp hmessage
  cases hmessage
  have hlist : codes.flatten.length < 2 ^ 32 := by
    have hpdu := length_snmpPdu requestId firstControl secondControl codes.flatten
    have hparts := length_snmpMessage version community pduTag
      (snmpPdu requestId firstControl secondControl codes.flatten)
    omega
  have htlvs : ∀ varbind ∈ varbinds, ∃ tlv, IsTlv varbind.2 tlv := by
    intro varbind hvarbind
    obtain ⟨tlv, htlv⟩ := hvalues varbind hvarbind
    exact ⟨tlv, isTlv_of_readTlv htlv⟩
  have hparse := parseRequest_snmpMessage hversion htag hlength
  rw [readVarbinds_of_drop hcodes htlvs List.drop_zero hlist, MAX_VARBINDS] at hparse
  refine ⟨?_, ?_, ?_, ?_⟩
  · intro hne hle
    rw [hparse, if_pos hle, ok_bind, ensure_of_true (by simpa using hne)]
    rfl
  · intro hnil
    subst hnil
    rw [hparse]
    rfl
  · intro hgt
    rw [hparse, if_neg (by omega)]
    rfl
  · intro trailing htrailing
    exact parseRequest_append (isTlv_snmpMessage hlength) (by omega) htrailing

/-- The request of the tests. -/
theorem parseRequest_getRequest :
    parseRequest [0x30, 0x27, 0x02, 0x01, 0x00, 0x04, 0x06, 0x70, 0x75, 0x62, 0x6c, 0x69, 0x63,
      0xa0, 0x1a, 0x02, 0x02, 0x04, 0xd2, 0x02, 0x01, 0x00, 0x02, 0x01, 0x00, 0x30, 0x0e,
      0x30, 0x0c, 0x06, 0x08, 0x2b, 0x06, 0x01, 0x02, 0x01, 0x01, 0x05, 0x00, 0x05, 0x00] =
      .ok { version := 0, community := utf8Encode "public", pduTag := 0xa0, requestId := 1234,
            maxRepetitions := 1, oids := [[1, 3, 6, 1, 2, 1, 1, 5, 0]] } :=
  (@parseRequest_encodeRequest 0 (utf8Encode "public") 0xa0 1234 0 0
    [([1, 3, 6, 1, 2, 1, 1, 5, 0], wrap 0x05 [])] _ (.inl rfl) (by decide)
    (by simpa using ⟨_, rfl⟩) (by decide) (by decide)).1 (by decide) (by decide)

end ProtocolSimulation.Engine.Snmp
