import ProtocolSimulation.SnmpRequests

/-!
# What SNMP responses say

A request is answered with OIDs and the texts of their values: those it asks
for, the least keys above them, or a chain of such keys. The response can be
written exactly if the keys it reaches can, and it is read back as these answers.
-/
namespace ProtocolSimulation.Engine.Snmp

open ProtocolSimulation.Texts ProtocolSimulation.Fallible ProtocolSimulation.SortedMaps

/-! ## Answers -/

/-- The least key above an OID with its text, else the OID without one. -/
def nextAnswer (values : SnmpValues) (oid : Oid) : Oid × Option Text :=
  match values.next oid with
  | some (key, text) => (key, some text)
  | none => (oid, none)

/-- An entry of the map as an answer. -/
def entryAnswer (entry : Oid × Text) : Oid × Option Text := (entry.1, some entry.2)

/-- What a request is answered with. -/
def answers (request : SnmpRequest) (values : SnmpValues) : List (Oid × Option Text) :=
  if request.pduTag = 0xa0 then request.oids.map fun oid => (oid, values.get oid)
  else if request.pduTag = 0xa1 then request.oids.map (nextAnswer values)
  else ((values.above (request.oids.headD [])).take (max request.maxRepetitions 1)).map entryAnswer

def encodeAnswer (answer : Oid × Option Text) : Except SnmpError Bytes :=
  encodeVarbind answer.1 answer.2

theorem encodeNextVarbind_eq (values : SnmpValues) (oid : Oid) :
    encodeNextVarbind values oid = encodeAnswer (nextAnswer values oid) := by
  rw [encodeNextVarbind, nextAnswer, nextValue]
  cases values.next oid <;> rfl

theorem encodeBulkVarbinds_eq (values : SnmpValues) (count : ℕ) (cursor : Oid) :
    encodeBulkVarbinds values count cursor = do
      let varbinds ← ((values.follow count cursor).map entryAnswer).mapM encodeAnswer
      return varbinds.flatten := by
  induction count generalizing cursor with
  | zero => rfl
  | succ count ih =>
    rw [encodeBulkVarbinds, nextValue, SortedMap.follow]
    cases values.next cursor with
    | none => rfl
    | some entry =>
      simp only [ih, List.map_cons, List.mapM_cons, entryAnswer, encodeAnswer]
      cases encodeVarbind entry.1 (some entry.2) with
      | error e => rfl
      | ok varbind =>
        simp only [ok_bind]
        cases ((values.follow count entry.1).map entryAnswer).mapM encodeAnswer <;> rfl

/-- The varbinds of a response are those of the answers. -/
theorem encodeVarbinds_eq {request : SnmpRequest} {values : SnmpValues}
    (htag : request.pduTag ∈ [0xa0, 0xa1, 0xa5]) (hne : request.oids ≠ []) :
    encodeVarbinds request values = do
      let varbinds ← (answers request values).mapM encodeAnswer
      return varbinds.flatten := by
  rw [encodeVarbinds, answers]
  by_cases hget : request.pduTag = 0xa0
  · rw [if_pos hget, if_pos hget, List.mapM_map]
    rfl
  by_cases hnext : request.pduTag = 0xa1
  · have hstep : encodeAnswer ∘ nextAnswer values = encodeNextVarbind values := by
      funext oid
      exact (encodeNextVarbind_eq values oid).symm
    rw [if_neg hget, if_pos hnext, if_neg hget, if_pos hnext, List.mapM_map, hstep]
  · have hbulk : request.pduTag = 0xa5 := by simpa [hget, hnext] using htag
    rw [if_neg hget, if_neg hnext, if_pos hbulk, if_neg hget, if_neg hnext]
    cases hoids : request.oids with
    | nil => exact absurd hoids hne
    | cons first rest =>
      simp only [encodeBulkVarbinds_eq, SortedMap.follow_eq_take, List.headD_cons]

/-! ## What the answers are -/

/-- The answer to an OID in a GETNEXT request. -/
inductive NextAnswer (values : SnmpValues) (oid : Oid) : Oid × Option Text → Prop where
  | next {key : Oid} {text : Text} (hkey : values.IsNext oid key)
    (htext : values.get key = some text) :
      NextAnswer values oid (key, some text)
  | last (h : ∀ key ∈ values.keys, key ≤ oid) : NextAnswer values oid (oid, none)

/-- The answers to a request: to GET the OIDs it asks for, to GETNEXT the least keys above them,
to GETBULK a chain of least keys above each other. -/
inductive Answers (values : SnmpValues) (request : SnmpRequest) :
    List (Oid × Option Text) → Prop where
  | get (htag : request.pduTag = 0xa0) :
      Answers values request (request.oids.map fun oid => (oid, values.get oid))
  | getNext {given : List (Oid × Option Text)} (htag : request.pduTag = 0xa1)
      (hgiven : List.Forall₂ (NextAnswer values) request.oids given) : Answers values request given
  | getBulk {first : Oid} {rest : List Oid} {given : List (Oid × Option Text)}
      (htag : request.pduTag = 0xa5) (hoids : request.oids = first :: rest)
      (hchain : List.IsChain values.IsNext (first :: given.map Prod.fst))
      (htexts : ∀ answer ∈ given, ∃ text, answer.2 = some text ∧ values.get answer.1 = some text)
      (hlength : given.length =
        min (max request.maxRepetitions 1) (values.keysAbove first).length) :
      Answers values request given

theorem nextAnswer_spec (values : SnmpValues) (oid : Oid) :
    NextAnswer values oid (nextAnswer values oid) := by
  rw [nextAnswer]
  cases hnext : values.next oid with
  | none => exact .last (SortedMap.next_eq_none_iff.mp hnext)
  | some entry =>
    exact .next (SortedMap.isNext_of_next hnext)
      (SortedMap.get_eq_some_iff.mpr (SortedMap.mem_entries_of_next hnext))

theorem answers_spec {request : SnmpRequest} (values : SnmpValues)
    (htag : request.pduTag ∈ [0xa0, 0xa1, 0xa5]) (hne : request.oids ≠ []) :
    Answers values request (answers request values) := by
  rw [answers]
  by_cases hget : request.pduTag = 0xa0
  · rw [if_pos hget]
    exact .get hget
  by_cases hnext : request.pduTag = 0xa1
  · rw [if_neg hget, if_pos hnext]
    apply Answers.getNext hnext
    rw [List.forall₂_map_right_iff, List.forall₂_same]
    intro oid _
    exact nextAnswer_spec values oid
  · have hbulk : request.pduTag = 0xa5 := by simpa [hget, hnext] using htag
    rw [if_neg hget, if_neg hnext]
    cases hoids : request.oids with
    | nil => exact absurd hoids hne
    | cons first rest =>
      rw [List.headD_cons]
      apply Answers.getBulk hbulk hoids
      · have hfst : Prod.fst ∘ entryAnswer = Prod.fst := rfl
        rw [List.map_map, hfst, List.map_take, SortedMap.map_fst_above]
        exact (values.isChain_keysAbove first).take (max request.maxRepetitions 1 + 1)
      · intro answer hanswer
        obtain ⟨entry, hentry, rfl⟩ := List.mem_map.mp hanswer
        have habove := SortedMap.mem_above.mp (List.mem_of_mem_take hentry)
        exact ⟨entry.2, rfl, SortedMap.get_eq_some_iff.mpr habove.1⟩
      · rw [List.length_map, List.length_take, ← SortedMap.map_fst_above, List.length_map]

/-- The keys that the answers to a request lead to beyond the OIDs it asks for. -/
def Reaches (request : SnmpRequest) (values : SnmpValues) (key : Oid) : Prop :=
  (request.pduTag = 0xa1 ∧ ∃ oid ∈ request.oids, values.IsNext oid key) ∨
  (request.pduTag = 0xa5 ∧ ∃ first rest, request.oids = first :: rest ∧
    key ∈ (values.keysAbove first).take (max request.maxRepetitions 1))

theorem encodable_nextAnswer_iff {values : SnmpValues} {oid : Oid} (h : Encodable oid) :
    Encodable (nextAnswer values oid).1 ↔ ∀ key, values.IsNext oid key → Encodable key := by
  constructor
  · intro hanswer key hkey
    obtain ⟨text, hnext⟩ := SortedMap.next_of_isNext hkey
    rwa [nextAnswer, hnext] at hanswer
  · intro hkeys
    rw [nextAnswer]
    cases hnext : values.next oid with
    | none => exact h
    | some entry => exact hkeys entry.1 (SortedMap.isNext_of_next hnext)

/-- All OIDs answered with can be written exactly if all keys reached can. -/
theorem encodable_answers_iff {request : SnmpRequest} {values : SnmpValues}
    (htag : request.pduTag ∈ [0xa0, 0xa1, 0xa5]) (hne : request.oids ≠ [])
    (hoids : ∀ oid ∈ request.oids, Encodable oid) :
    (∀ answer ∈ answers request values, Encodable answer.1) ↔
      ∀ key, Reaches request values key → Encodable key := by
  rw [answers]
  by_cases hget : request.pduTag = 0xa0
  · have hnot : ∀ key, ¬ Reaches request values key := by
      intro key h
      simp [Reaches, hget] at h
    rw [if_pos hget, List.forall_mem_map]
    exact ⟨fun _ key h => absurd h (hnot key), fun _ => hoids⟩
  by_cases hnext : request.pduTag = 0xa1
  · have hreaches : ∀ key, Reaches request values key ↔
        ∃ oid ∈ request.oids, values.IsNext oid key := by
      intro key
      simp [Reaches, hnext]
    rw [if_neg hget, if_pos hnext, List.forall_mem_map]
    simp only [hreaches]
    constructor
    · intro h key hkey
      obtain ⟨oid, hoid, hkey⟩ := hkey
      exact (encodable_nextAnswer_iff (hoids oid hoid)).mp (h oid hoid) key hkey
    · intro h oid hoid
      exact (encodable_nextAnswer_iff (hoids oid hoid)).mpr fun key hkey => h key ⟨oid, hoid, hkey⟩
  · have hbulk : request.pduTag = 0xa5 := by simpa [hget, hnext] using htag
    cases hfirst : request.oids with
    | nil => exact absurd hfirst hne
    | cons first rest =>
      have hreaches : ∀ key, Reaches request values key ↔
          key ∈ (values.keysAbove first).take (max request.maxRepetitions 1) := by
        intro key
        simp [Reaches, hbulk, hfirst]
      have hfst : Prod.fst ∘ entryAnswer = Prod.fst := rfl
      rw [if_neg hget, if_neg hnext, List.headD_cons, List.forall_mem_map]
      simp only [hreaches, ← SortedMap.map_fst_above, ← List.map_take,
        List.forall_mem_map, entryAnswer]

/-! ## Varbinds -/

/-- What a client reads of a value. -/
inductive SnmpValue where
  | timeTicks (ticks : Int64)
  | octetString (bytes : Bytes)
  | null
  deriving DecidableEq

def readValue (tlv : Tlv) : Except SnmpError SnmpValue :=
  if tlv.tag = 0x43 then do
    let ticks ← decodeInteger tlv.value
    return .timeTicks ticks
  else if tlv.tag = 0x04 then .ok (.octetString tlv.value)
  else if tlv.tag = 0x05 ∧ tlv.value = [] then .ok .null
  else .error (.bail "unknown value")

/-- The value of an answer: that of the time since the start is fixed. -/
def servedValue (answer : Oid × Option Text) : SnmpValue :=
  if answer.1 = sysUpTimeOid then .timeTicks 360000
  else
    match answer.2 with
    | some text => .octetString (utf8Encode text)
    | none => .null

/-- An answer as a client reads it. -/
def said (answer : Oid × Option Text) : Oid × SnmpValue := (answer.1, servedValue answer)

theorem encodeUnsigned_sysUpTime : encodeUnsigned 0x43 360000 = wrap 0x43 [0x05, 0x7e, 0x40] := by
  decide

/-- The OID and the value of an answer in its varbind. -/
theorem varbind_of_encodeAnswer {answer : Oid × Option Text} {code : Bytes}
    (h : encodeAnswer answer = .ok code) :
    ∃ content tlv, code = wrap 0x30 (wrap 0x06 content ++ wrap tlv.tag tlv.value) ∧
      decodeOid content = .ok answer.1 ∧ readValue tlv = .ok (servedValue answer) := by
  obtain ⟨oidCode, hoid, h⟩ := bind_ok_iff.mp h
  obtain ⟨content, rfl, hdecode⟩ := content_of_encodeOid hoid
  rw [servedValue]
  split at h
  · rename_i htime
    cases h
    refine ⟨content, ⟨0x43, [0x05, 0x7e, 0x40]⟩, ?_, hdecode, ?_⟩
    · rw [encodeUnsigned_sysUpTime]
    · rw [if_pos htime]
      rfl
  · rename_i htime
    rw [if_neg htime]
    cases htext : answer.2 with
    | some text =>
      rw [htext] at h
      cases h
      exact ⟨content, ⟨0x04, utf8Encode text⟩, rfl, hdecode, rfl⟩
    | none =>
      rw [htext] at h
      cases h
      exact ⟨content, ⟨0x05, []⟩, rfl, hdecode, rfl⟩

theorem exists_encodeAnswer_iff {answer : Oid × Option Text} :
    (∃ code, encodeAnswer answer = .ok code) ↔ Encodable answer.1 := by
  rw [← exists_encodeOid_iff]
  constructor
  · intro h
    obtain ⟨_, h⟩ := h
    obtain ⟨oidCode, hoid, _⟩ := bind_ok_iff.mp h
    exact ⟨oidCode, hoid⟩
  · intro h
    obtain ⟨oidCode, hoid⟩ := h
    rw [encodeAnswer, encodeVarbind, hoid, ok_bind]
    split
    · exact ⟨_, rfl⟩
    · cases answer.2 <;> exact ⟨_, rfl⟩

/-- A response is written if all its answers can be. -/
theorem buildResponse_eq {request : SnmpRequest} {values : SnmpValues}
    (htag : request.pduTag ∈ [0xa0, 0xa1, 0xa5]) (hne : request.oids ≠ []) :
    buildResponse request values = do
      let varbinds ← (answers request values).mapM encodeAnswer
      return snmpMessage request.version request.community 0xa2
        (snmpPdu request.requestId 0 0 varbinds.flatten) := by
  rw [buildResponse, encodeVarbinds_eq htag hne]
  cases (answers request values).mapM encodeAnswer with
  | error e => rfl
  | ok varbinds =>
    simp only [ok_bind, pure_eq_ok, snmpMessage, snmpContent, snmpPdu, List.append_assoc]

/-- The varbinds of a response hold these OIDs and values. -/
def Carries (request : SnmpRequest) (response : Bytes) (held : List (Oid × SnmpValue)) : Prop :=
  ∃ varbinds : List (Bytes × Tlv),
    List.Forall₂ (fun varbind h => decodeOid varbind.1 = .ok h.1 ∧ readValue varbind.2 = .ok h.2)
      varbinds held ∧
    response = snmpMessage request.version request.community 0xa2 (snmpPdu request.requestId 0 0
      (varbinds.map fun varbind =>
        wrap 0x30 (wrap 0x06 varbind.1 ++ wrap varbind.2.tag varbind.2.value)).flatten)

theorem varbinds_of_mapM {given : List (Oid × Option Text)} {codes : List Bytes}
    (h : given.mapM encodeAnswer = .ok codes) :
    ∃ varbinds : List (Bytes × Tlv),
      List.Forall₂ (fun varbind h => decodeOid varbind.1 = .ok h.1 ∧ readValue varbind.2 = .ok h.2)
        varbinds (given.map said) ∧
      codes = varbinds.map fun varbind =>
        wrap 0x30 (wrap 0x06 varbind.1 ++ wrap varbind.2.tag varbind.2.value) := by
  have hall := mapM_ok_iff.mp h
  clear h
  induction hall with
  | nil => exact ⟨[], .nil, rfl⟩
  | cons hcode _ ih =>
    obtain ⟨content, value, rfl, hdecode, hvalue⟩ := varbind_of_encodeAnswer hcode
    obtain ⟨varbinds, hvarbinds, rfl⟩ := ih
    exact ⟨(content, value) :: varbinds, .cons ⟨hdecode, hvalue⟩ hvarbinds, rfl⟩

/-- The request is answered with these OIDs and values. -/
def Answered (values : SnmpValues) (request : SnmpRequest) (held : List (Oid × SnmpValue)) : Prop :=
  ∃ response, buildResponse request values = .ok response ∧ Carries request response held

theorem answered_of_encodable {request : SnmpRequest} {values : SnmpValues}
    (htag : request.pduTag ∈ [0xa0, 0xa1, 0xa5]) (hne : request.oids ≠ [])
    (h : ∀ answer ∈ answers request values, Encodable answer.1) :
    Answered values request ((answers request values).map said) := by
  have hcodes : ∃ codes, (answers request values).mapM encodeAnswer = .ok codes := by
    rw [exists_mapM_ok_iff]
    exact fun answer hanswer => exists_encodeAnswer_iff.mpr (h answer hanswer)
  obtain ⟨codes, hcodes⟩ := hcodes
  obtain ⟨varbinds, hvarbinds, hwraps⟩ := varbinds_of_mapM hcodes
  refine ⟨_, ?_, varbinds, hvarbinds, rfl⟩
  rw [buildResponse_eq htag hne, hcodes, hwraps]
  rfl

/-! ## Reading a response -/

/-- What a client reads of a response. -/
structure SnmpResponse where
  version : Int64
  community : Bytes
  requestId : Int64
  errorStatus : Int64
  errorIndex : Int64
  varbinds : List (Oid × SnmpValue)
  deriving DecidableEq

/-- The varbinds from the cursor on, at most `room` of them. -/
def readResponseVarbinds (list : Bytes) :
    (room : ℕ) → (cursor : ℕ) → Except SnmpError (List (Oid × SnmpValue))
  | room, cursor =>
    if list.length ≤ cursor then .ok []
    else
      match room with
      | 0 => .error (.bail "too many varbinds")
      | room + 1 => do
        let (varbind, cursor) ← readTlv list cursor
        let (oid, valueCursor) ← readTlv varbind.value 0
        let (value, stop) ← readTlv varbind.value valueCursor
        ensure (varbind.tag = 0x30 ∧ oid.tag = 0x06 ∧ stop = varbind.value.length)
          "a varbind is an OID and a value"
        let oid ← decodeOid oid.value
        let value ← readValue value
        return (oid, value) :: (← readResponseVarbinds list room cursor)

/-- The response a message holds, if it holds nothing else. -/
def readResponse (message : Bytes) : Except SnmpError SnmpResponse := do
  let (envelope, stop) ← readTlv message 0
  ensure (envelope.tag = 0x30 ∧ stop = message.length) "a message is one sequence"
  let (version, cursor) ← readTlv envelope.value 0
  let (community, cursor) ← readTlv envelope.value cursor
  let (pdu, stop) ← readTlv envelope.value cursor
  ensure (version.tag = 0x02 ∧ community.tag = 0x04 ∧ pdu.tag = 0xa2 ∧
    stop = envelope.value.length) "a response is a version, a community and a PDU"
  let (requestId, cursor) ← readTlv pdu.value 0
  let (errorStatus, cursor) ← readTlv pdu.value cursor
  let (errorIndex, cursor) ← readTlv pdu.value cursor
  let (list, stop) ← readTlv pdu.value cursor
  ensure (requestId.tag = 0x02 ∧ errorStatus.tag = 0x02 ∧ errorIndex.tag = 0x02 ∧
    list.tag = 0x30 ∧ stop = pdu.value.length) "a PDU is three integers and a list of varbinds"
  let version ← decodeInteger version.value
  let requestId ← decodeInteger requestId.value
  let errorStatus ← decodeInteger errorStatus.value
  let errorIndex ← decodeInteger errorIndex.value
  let varbinds ← readResponseVarbinds list.value list.value.length 0
  return ⟨version, community.value, requestId, errorStatus, errorIndex, varbinds⟩

theorem readResponseVarbinds_end {list : Bytes} {room cursor : ℕ} (h : list.length ≤ cursor) :
    readResponseVarbinds list room cursor = .ok [] := by
  cases room <;> rw [readResponseVarbinds, if_pos h]

theorem readResponseVarbinds_cons {answer : Oid × Option Text} {code rest list : Bytes}
    {cursor room : ℕ} (hcode : encodeAnswer answer = .ok code)
    (hdrop : list.drop cursor = code ++ rest) (hlist : list.length < 2 ^ 32) :
    (readResponseVarbinds list (room + 1) cursor = do
      let varbinds ← readResponseVarbinds list room (cursor + code.length)
      return said answer :: varbinds) ∧
    list.drop (cursor + code.length) = rest := by
  obtain ⟨content, value, rfl, hdecode, hvalue⟩ := varbind_of_encodeAnswer hcode
  have hlength := congrArg List.length hdrop
  simp only [List.length_drop, List.length_append, length_wrap] at hlength
  have hvalueTlv : IsTlv (wrap value.tag value.value) value := isTlv_wrap (by omega)
  obtain ⟨hcursor, hread, hreadOid, hreadValue, hnext⟩ := readTlv_snmpVarbind hvalueTlv hdrop hlist
  refine ⟨?_, hnext⟩
  rw [readResponseVarbinds, if_neg (by omega)]
  simp only [hread, ok_bind, hreadOid, hreadValue, and_self, ensure_of_true, hdecode, hvalue, said,
    snmpVarbind]

/-- The answers are read one after the other. -/
theorem readResponseVarbinds_of_drop {given : List (Oid × Option Text)} {codes : List Bytes}
    {list : Bytes} {room cursor : ℕ} (hcodes : given.mapM encodeAnswer = .ok codes)
    (hdrop : list.drop cursor = codes.flatten) (hlist : list.length < 2 ^ 32)
    (hroom : codes.flatten.length ≤ room) :
    readResponseVarbinds list room cursor =
      .ok (given.map said) := by
  have hall := mapM_ok_iff.mp hcodes
  clear hcodes
  induction hall generalizing room cursor with
  | nil =>
    rw [readResponseVarbinds_end (List.drop_eq_nil_iff.mp hdrop)]
    rfl
  | @cons answer code given codes hcode _ ih =>
    obtain ⟨content, value, hwrap, _⟩ := varbind_of_encodeAnswer hcode
    have hpos : 0 < code.length := by
      rw [hwrap, length_wrap]
      omega
    rw [List.flatten_cons, List.length_append] at hroom
    obtain ⟨room, rfl⟩ : ∃ n, room = n + 1 := ⟨room - 1, by omega⟩
    obtain ⟨hstep, hnext⟩ := readResponseVarbinds_cons hcode hdrop hlist
    rw [hstep, ih hnext (by omega)]
    rfl

/-- A response is read back as what was written. -/
theorem readResponse_snmpMessage {version requestId : Int64} {community : Bytes}
    {given : List (Oid × Option Text)} {codes : List Bytes}
    (hcodes : given.mapM encodeAnswer = .ok codes)
    (hlength : (snmpMessage version community 0xa2 (snmpPdu requestId 0 0 codes.flatten)).length <
      2 ^ 32) :
    readResponse (snmpMessage version community 0xa2 (snmpPdu requestId 0 0 codes.flatten)) =
      .ok { version := version, community := community, requestId := requestId, errorStatus := 0,
            errorIndex := 0, varbinds := given.map said } := by
  obtain ⟨hcontent, _, hpdu⟩ := length_snmpMessage version community 0xa2
    (snmpPdu requestId 0 0 codes.flatten)
  have hlist := length_snmpPdu requestId 0 0 codes.flatten
  have hmessage := readTlv_snmpMessage hlength
  obtain ⟨_, _, hversionRead, hcommunity, hpduRead⟩ := readTlv_snmpContent (hcontent.trans hlength)
  obtain ⟨_, _, _, hrequestId, hstatus, hindex, hlistRead⟩ :=
    readTlv_snmpPdu ((hpdu.trans hcontent).trans hlength)
  have hvarbinds : readResponseVarbinds codes.flatten codes.flatten.length 0 = .ok _ :=
    readResponseVarbinds_of_drop hcodes List.drop_zero (by omega) le_rfl
  rw [readResponse]
  simp only [hmessage, ok_bind, hversionRead, hcommunity, hpduRead, and_self, ensure_of_true,
    hrequestId, hstatus, hindex, hlistRead, decodeInteger_integerContent, hvarbinds, pure_eq_ok]

theorem mem_keys_of_reaches {request : SnmpRequest} {values : SnmpValues} {key : Oid}
    (h : Reaches request values key) : key ∈ values.keys := by
  rcases h with ⟨_, oid, _, hkey⟩ | ⟨_, first, rest, _, hkey⟩
  · exact hkey.1.1
  · exact List.mem_of_mem_filter (List.mem_of_mem_take hkey)

/-- A response can be written exactly if the keys it reaches can. -/
theorem exists_mapM_encodeAnswer_iff {request : SnmpRequest} {values : SnmpValues}
    (htag : request.pduTag ∈ [0xa0, 0xa1, 0xa5]) (hne : request.oids ≠ [])
    (hoids : ∀ oid ∈ request.oids, Encodable oid) :
    (∃ varbinds, (answers request values).mapM encodeAnswer = .ok varbinds) ↔
      ∀ key, Reaches request values key → Encodable key := by
  rw [exists_mapM_ok_iff, ← encodable_answers_iff htag hne hoids]
  simp only [exists_encodeAnswer_iff]

/-- If all keys can be written, a request is answered, and the response is read back as its fields
and its answers, with nothing left over. -/
theorem readResponse_buildResponse {message : Bytes} {request : SnmpRequest} {values : SnmpValues}
    (hparse : parseRequest message = .ok request) (hkeys : ∀ key ∈ values.keys, Encodable key) :
    ∃ response, buildResponse request values = .ok response ∧
      (response.length < 2 ^ 32 → ∃ given, Answers values request given ∧
        readResponse response = .ok
          { version := request.version, community := request.community,
            requestId := request.requestId, errorStatus := 0, errorIndex := 0,
            varbinds := given.map said }) := by
  obtain ⟨htag, hne, hoids⟩ := request_of_parseRequest hparse
  obtain ⟨varbinds, hvarbinds⟩ := (exists_mapM_encodeAnswer_iff htag hne hoids).mpr
    fun key hkey => hkeys key (mem_keys_of_reaches hkey)
  refine ⟨_, by rw [buildResponse_eq htag hne, hvarbinds]; rfl, ?_⟩
  intro hlength
  exact ⟨answers request values, answers_spec values htag hne,
    readResponse_snmpMessage hvarbinds hlength⟩

def sampleValues : SnmpValues :=
  ⟨[(sysUpTimeOid, ("360000" : Text)),
    ([1, 3, 6, 1, 2, 1, 1, 5, 0], ("snmp-seclab" : Text))], by decide⟩

/-- A GETBULK request for ten answers behind 1.3.6.1.2.1.1.1.0. -/
def sampleBulk : Bytes :=
  [0x30, 0x26, 0x02, 0x01, 0x01, 0x04, 0x06, 0x70, 0x75, 0x62, 0x6c, 0x69, 0x63, 0xa5, 0x19, 0x02,
    0x01, 0x07, 0x02, 0x01, 0x00, 0x02, 0x01, 0x0a, 0x30, 0x0e, 0x30, 0x0c, 0x06, 0x08, 0x2b, 0x06,
    0x01, 0x02, 0x01, 0x01, 0x01, 0x00, 0x05, 0x00]

def sampleBulkRequest : SnmpRequest where
  version := 1
  community := utf8Encode "public"
  pduTag := 0xa5
  requestId := 7
  maxRepetitions := 10
  oids := [[1, 3, 6, 1, 2, 1, 1, 1, 0]]

theorem readResponse_sampleBulk :
    ∃ response, buildResponse sampleBulkRequest sampleValues = .ok response ∧
      (response.length < 2 ^ 32 → ∃ given, Answers sampleValues sampleBulkRequest given ∧
        readResponse response = .ok
          { version := 1, community := utf8Encode "public", requestId := 7, errorStatus := 0,
            errorIndex := 0, varbinds := given.map said }) :=
  @readResponse_buildResponse sampleBulk sampleBulkRequest sampleValues (by decide) (by decide)

end ProtocolSimulation.Engine.Snmp
