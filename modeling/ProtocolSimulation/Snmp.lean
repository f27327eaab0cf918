import ProtocolSimulation.LineSessions
import ProtocolSimulation.BigEndian
import ProtocolSimulation.SortedMaps

/-!
# The SNMP simulation

It answers GET, GETNEXT and GETBULK requests in datagrams from a map of values.
Reads out of bounds and results out of the range of an unsigned type are errors
of their own, as the code would panic.
-/
namespace ProtocolSimulation.Engine.Snmp

open ProtocolSimulation.Texts ProtocolSimulation.RuntimeEvents ProtocolSimulation.BigEndian
  ProtocolSimulation.SortedMaps

def MAX_SNMP_MESSAGE_SIZE : ℕ := 8192

def MAX_VARBINDS : ℕ := 32

instance instLinearOrderComponent : LinearOrder UInt32 where
  le_refl _ := UInt32.le_refl _
  le_trans _ _ _ := UInt32.le_trans
  le_antisymm _ _ := UInt32.le_antisymm
  le_total _ _ := UInt32.le_total _ _
  lt_iff_le_not_ge a b := by simp only [UInt32.lt_iff_toNat_lt, UInt32.le_iff_toNat_le]; omega
  toDecidableLE := inferInstance
  toDecidableLT := inferInstance
  toDecidableEq := inferInstance

abbrev Oid := List UInt32

inductive SnmpError where
  | bail (message : Text)
  | outOfRange
  | overflow
  | unreachable
  deriving DecidableEq

def ensure (c : Prop) [Decidable c] (message : Text) : Except SnmpError Unit :=
  if c then .ok () else .error (.bail message)

/-! ## Unsigned arithmetic -/

/-- `checked_add` of an unsigned type with the given number of bits. -/
def checkedAdd (bits a b : ℕ) : Option ℕ := if a + b < 2 ^ bits then some (a + b) else none

def checkedMul (bits a b : ℕ) : Option ℕ := if a * b < 2 ^ bits then some (a * b) else none

def add (bits a b : ℕ) : Except SnmpError ℕ :=
  if a + b < 2 ^ bits then .ok (a + b) else .error .overflow

def mul (bits a b : ℕ) : Except SnmpError ℕ :=
  if a * b < 2 ^ bits then .ok (a * b) else .error .overflow

def sub (a b : ℕ) : Except SnmpError ℕ := if b ≤ a then .ok (a - b) else .error .overflow

/-! ## Reading -/

structure Tlv where
  tag : UInt8
  value : Bytes
  deriving DecidableEq

/-- `input.get(i..j)`. -/
def getRange (input : Bytes) (i j : ℕ) : Option Bytes :=
  if i ≤ j ∧ j ≤ input.length then some ((input.take j).drop i) else none

/-- `&input[i..j]`. -/
def slice (input : Bytes) (i j : ℕ) : Except SnmpError Bytes :=
  match getRange input i j with
  | some bytes => .ok bytes
  | none => .error .outOfRange

/-- The length in the bytes behind a count, after what was read so far. -/
def lengthValue : Bytes → ℕ → Except SnmpError ℕ
  | [], length => .ok length
  | byte :: rest, length =>
    match (checkedMul 64 length 256).bind (checkedAdd 64 · byte.toNat) with
    | none => .error (.bail "BER length overflows usize")
    | some length => lengthValue rest length

/-- The length at the cursor, and the cursor behind it. -/
def readLength (input : Bytes) (cursor : ℕ) : Except SnmpError (ℕ × ℕ) :=
  match input[cursor]? with
  | none => .error (.bail "BER length is truncated")
  | some first => do
    let cursor ← add 64 cursor 1
    if first &&& 0x80 = 0 then return (first.toNat, cursor)
    else
      let count := (first &&& 0x7f).toNat
      if count = 0 ∨ 4 < count then .error (.bail "unsupported BER length encoding")
      else
        let stop ← add 64 cursor count
        if input.length < stop then .error (.bail "unsupported BER length encoding")
        else
          let length ← lengthValue (← slice input cursor stop) 0
          return (length, stop)

def readTlv (input : Bytes) (cursor : ℕ) : Except SnmpError (Tlv × ℕ) :=
  match input[cursor]? with
  | none => .error (.bail "BER tag is truncated")
  | some tag => do
    let cursor ← add 64 cursor 1
    let (length, cursor) ← readLength input cursor
    match checkedAdd 64 cursor length with
    | none => .error (.bail "BER length overflow")
    | some stop =>
      match getRange input cursor stop with
      | none => .error (.bail "BER value is truncated")
      | some value => return (⟨tag, value⟩, stop)

def decodeInteger (bytes : Bytes) : Except SnmpError Int64 :=
  match bytes with
  | [] => .error (.bail "unsupported BER integer length")
  | first :: rest =>
    if 8 < (first :: rest).length then .error (.bail "unsupported BER integer length")
    else
      .ok ((first :: rest).foldl (fun value byte => value <<< 8 ||| byte.toUInt64.toInt64)
        (if first &&& 0x80 ≠ 0 then -1 else 0))

/-- The components in the bytes, after those of `oid` and what was read of the next one. -/
def decodeComponents : Bytes → ℕ → Bool → Oid → Except SnmpError Oid
  | [], _, pending, oid =>
    if pending then .error (.bail "OID component is truncated") else .ok oid
  | byte :: rest, value, _, oid =>
    match (checkedMul 32 value 128).bind (checkedAdd 32 · (byte &&& 0x7f).toNat) with
    | none => .error (.bail "OID component overflows u32")
    | some value =>
      if byte &&& 0x80 ≠ 0 then decodeComponents rest value true oid
      else decodeComponents rest 0 false (oid ++ [UInt32.ofNat value])

def decodeOid (bytes : Bytes) : Except SnmpError Oid :=
  match bytes with
  | [] => .error (.bail "OID is empty")
  | first :: rest => do
    let firstComponent := min (first.toNat / 40) 2
    let second ← sub first.toNat (← mul 32 firstComponent 40)
    decodeComponents rest 0 false [UInt32.ofNat firstComponent, UInt32.ofNat second]

/-! ## Requests -/

structure SnmpRequest where
  version : Int64
  community : Bytes
  pduTag : UInt8
  requestId : Int64
  maxRepetitions : ℕ
  oids : List Oid
  deriving DecidableEq

/-- How many answers a GETBULK request asks for. -/
def readMaxRepetitions (pduTag : UInt8) (control : Bytes) : Except SnmpError ℕ :=
  if pduTag = 0xa5 then do
    let repetitions ← decodeInteger control
    return min (max repetitions.toInt 0).toNat MAX_VARBINDS
  else .ok 1

/-- The OIDs of the varbinds from the cursor on, for which there is `room` left. -/
def readVarbinds (list : Bytes) : (room : ℕ) → (cursor : ℕ) → Except SnmpError (List Oid)
  | room, cursor =>
    if list.length ≤ cursor then .ok []
    else
      match room with
      | 0 => .error (.bail "SNMP request contains too many varbinds")
      | room + 1 => do
        let (varbind, cursor) ← readTlv list cursor
        ensure (varbind.tag = 0x30) "SNMP varbind must be a sequence"
        let (oid, varbindCursor) ← readTlv varbind.value 0
        let _ ← readTlv varbind.value varbindCursor
        ensure (oid.tag = 0x06) "SNMP varbind does not contain an OID"
        let oid ← decodeOid oid.value
        return oid :: (← readVarbinds list room cursor)

def parseRequest (message : Bytes) : Except SnmpError SnmpRequest := do
  let (envelope, cursor) ← readTlv message 0
  ensure (envelope.tag = 0x30 ∧ cursor = message.length)
    "SNMP message must contain one BER sequence"
  let (version, cursor) ← readTlv envelope.value 0
  let (community, cursor) ← readTlv envelope.value cursor
  let (pdu, _) ← readTlv envelope.value cursor
  ensure (version.tag = 0x02 ∧ community.tag = 0x04 ∧ pdu.tag ∈ [0xa0, 0xa1, 0xa5])
    "unsupported SNMP message structure"
  let version ← decodeInteger version.value
  ensure (version = 0 ∨ version = 1) "only SNMP v1 and v2c are supported"
  let (requestId, cursor) ← readTlv pdu.value 0
  let (firstControl, cursor) ← readTlv pdu.value cursor
  let (secondControl, cursor) ← readTlv pdu.value cursor
  let (varbindList, _) ← readTlv pdu.value cursor
  ensure (requestId.tag = 0x02 ∧ firstControl.tag = 0x02 ∧ secondControl.tag = 0x02 ∧
    varbindList.tag = 0x30) "invalid SNMP request PDU"
  let maxRepetitions ← readMaxRepetitions pdu.tag secondControl.value
  let oids ← readVarbinds varbindList.value MAX_VARBINDS 0
  ensure (oids ≠ []) "SNMP request does not contain a varbind"
  let requestId ← decodeInteger requestId.value
  return {
    version, community := community.value, pduTag := pdu.tag, requestId, maxRepetitions, oids }

/-! ## Writing -/

/-- The position of the first byte that is not zero, else of the last one. -/
def firstSignificant (bytes : Bytes) : ℕ := (bytes.findIdx? (· != 0)).getD (bytes.length - 1)

def encodeLength (length : ℕ) : Bytes :=
  if length < 128 then [UInt8.ofNat length]
  else
    let bytes := beBytes 8 length
    let significant := bytes.drop (firstSignificant bytes)
    (0x80 ||| UInt8.ofNat significant.length) :: significant

def wrap (tag : UInt8) (content : Bytes) : Bytes := tag :: (encodeLength content.length ++ content)

/-- Leave out bytes that only repeat the sign of what follows. -/
def stripSign : Bytes → Bytes
  | a :: b :: rest =>
    if (a = 0 ∧ b &&& 0x80 = 0) ∨ (a = 0xff ∧ b &&& 0x80 ≠ 0) then stripSign (b :: rest)
    else a :: b :: rest
  | bytes => bytes

def encodeInteger (value : Int64) : Bytes := wrap 0x02 (stripSign (beBytes 8 value.toUInt64.toNat))

def encodeUnsigned (tag : UInt8) (value : UInt64) : Bytes :=
  let bytes := beBytes 8 value.toNat
  match bytes.drop (firstSignificant bytes) with
  | [] => wrap tag []
  | first :: rest =>
    if first &&& 0x80 ≠ 0 then wrap tag (0 :: first :: rest) else wrap tag (first :: rest)

/-- The bytes of `remaining` in front of `packed`, down from the given index of the buffer. -/
def packSeptets : ℕ → UInt32 → Bytes → Except SnmpError Bytes
  | index, remaining, packed =>
    if remaining = 0 then .ok packed
    else
      match index with
      | 0 => .error .overflow
      | index + 1 =>
        packSeptets index (remaining >>> 7) (((remaining &&& 0x7f).toUInt8 ||| 0x80) :: packed)

/-- The bytes of one component, packed into a buffer of five from its end. -/
def encodeComponent (component : UInt32) : Except SnmpError Bytes :=
  packSeptets 4 (component >>> 7) [(component &&& 0x7f).toUInt8]

/-- `u8::try_from`. -/
def u8TryFrom (n : ℕ) : Except SnmpError UInt8 :=
  if n < 256 then .ok (UInt8.ofNat n)
  else .error (.bail "out of range integral type conversion attempted")

def encodeOid (oid : Oid) : Except SnmpError Bytes :=
  match oid with
  | first :: second :: components =>
    if 2 < first ∨ (first < 2 ∧ 40 ≤ second) then .error (.bail "invalid OID prefix")
    else do
      let head ← u8TryFrom (← add 32 (← mul 32 first.toNat 40) second.toNat)
      let rest ← components.mapM encodeComponent
      return wrap 0x06 (head :: rest.flatten)
  | _ => .error (.bail "invalid OID prefix")

/-! ## Values -/

/-- `str::parse::<u32>`. -/
def parseU32 (t : Text) : Option UInt32 :=
  ((parseUsize t).filter fun n => decide (n < 2 ^ 32)).map UInt32.ofNat

def parseComponent (part : Text) : Except SnmpError UInt32 :=
  match parseU32 part with
  | some component => .ok component
  | none => .error (.bail "OID contains a non-numeric component")

def parseOidText (value : Text) : Except SnmpError Oid :=
  (((trim value).dropWhile (· == '.')).splitOn '.').mapM parseComponent

abbrev SnmpValues := SortedMap Oid Text

def insertCustom : SnmpValues → List (Text × Text) → Except SnmpError SnmpValues
  | values, [] => .ok values
  | values, (oid, value) :: rest => do
    let oid ← parseOidText oid
    insertCustom (values.insert oid value) rest

def buildValues (config : SimSnmpConfig) : Except SnmpError SnmpValues := do
  let sysDescr ← parseOidText "1.3.6.1.2.1.1.1.0"
  let values := SortedMap.empty.insert sysDescr
    (config.systemDescription.getD "Linux seclab-snmp 6.8.0")
  let sysUpTime ← parseOidText "1.3.6.1.2.1.1.3.0"
  let values := values.insert sysUpTime "360000"
  let sysName ← parseOidText "1.3.6.1.2.1.1.5.0"
  let values := values.insert sysName (config.systemName.getD "snmp-seclab")
  let sysLocation ← parseOidText "1.3.6.1.2.1.1.6.0"
  let values := values.insert sysLocation (config.systemLocation.getD "SecLab")
  match config.oids with
  | some custom => insertCustom values custom.entries
  | none => return values

def nextValue (values : SnmpValues) (oid : Oid) : Option (Oid × Text) := values.next oid

/-! ## Responses -/

def sysUpTimeOid : Oid := [1, 3, 6, 1, 2, 1, 1, 3, 0]

def encodeVarbind (oid : Oid) (value : Option Text) : Except SnmpError Bytes := do
  let content ← encodeOid oid
  if oid = sysUpTimeOid then return wrap 0x30 (content ++ encodeUnsigned 0x43 360000)
  else
    match value with
    | some value => return wrap 0x30 (content ++ wrap 0x04 (utf8Encode value))
    | none => return wrap 0x30 (content ++ wrap 0x05 [])

/-- The varbind with the least key above an OID, else with the OID itself. -/
def encodeNextVarbind (values : SnmpValues) (oid : Oid) : Except SnmpError Bytes :=
  match nextValue values oid with
  | some (nextOid, value) => encodeVarbind nextOid (some value)
  | none => encodeVarbind oid none

/-- At most `count` varbinds, each with the least key above the one before. -/
def encodeBulkVarbinds (values : SnmpValues) : ℕ → Oid → Except SnmpError Bytes
  | 0, _ => .ok []
  | count + 1, cursor =>
    match nextValue values cursor with
    | none => .ok []
    | some (nextOid, value) => do
      let varbind ← encodeVarbind nextOid (some value)
      return varbind ++ (← encodeBulkVarbinds values count nextOid)

def encodeVarbinds (request : SnmpRequest) (values : SnmpValues) : Except SnmpError Bytes :=
  if request.pduTag = 0xa0 then do
    let varbinds ← request.oids.mapM fun oid => encodeVarbind oid (values.get oid)
    return varbinds.flatten
  else if request.pduTag = 0xa1 then do
    let varbinds ← request.oids.mapM (encodeNextVarbind values)
    return varbinds.flatten
  else if request.pduTag = 0xa5 then
    match request.oids with
    | [] => .error .outOfRange
    | first :: _ => encodeBulkVarbinds values (max request.maxRepetitions 1) first
  else .error .unreachable

def buildResponse (request : SnmpRequest) (values : SnmpValues) : Except SnmpError Bytes := do
  let encodedVarbinds ← encodeVarbinds request values
  let pdu := encodeInteger request.requestId ++ encodeInteger 0 ++ encodeInteger 0 ++
    wrap 0x30 encodedVarbinds
  return wrap 0x30 (encodeInteger request.version ++ wrap 0x04 request.community ++ wrap 0xa2 pdu)

/-! ## The socket -/

/-- A running simulation: its values were built when it started. -/
structure Runtime extends SimulationContext SimSnmpConfig where
  endpointId : Text
  values : SnmpValues
  built : buildValues config = .ok values

def Runtime.community (runtime : Runtime) : Text := runtime.config.community.getD "public"

def operation (pduTag : UInt8) : Text :=
  if pduTag = 0xa0 then "GET"
  else if pduTag = 0xa1 then "GETNEXT"
  else if pduTag = 0xa5 then "GETBULK"
  else "UNKNOWN"

def reportRequest (runtime : Runtime) (peer : SocketAddr) (request : SnmpRequest) (allowed : Bool) :
    QueuedLog where
  draft :=
    { ruleId := runtime.ruleId, nodeId := runtime.nodeId, clientIp := peer.ip,
      clientPort := peer.port, serverPort := runtime.port, eventType := "snmp_query",
      detailSummary := ("SNMPv" : Text) ++ showNat (request.version.toInt + 1).toNat ++
        (" " : Text) ++ operation request.pduTag ++ (" probe " : Text) ++
        (if allowed then ("accepted" : Text) else "rejected"),
      payloadHex := none }
  endpointId := some runtime.endpointId

/-- What one datagram leads to; what does not fit the buffer is cut off. Malformed requests
are ignored, but an error of the response ends the simulation. -/
def handleDatagram (runtime : Runtime) (peer : SocketAddr) (datagram : Bytes) :
    Except SnmpError (List (Output Bytes)) :=
  match parseRequest (datagram.take MAX_SNMP_MESSAGE_SIZE) with
  | .error (.bail _) => .ok []
  | .error e => .error e
  | .ok request =>
    if request.community = utf8Encode runtime.community then do
      let response ← buildResponse request runtime.values
      return [.wrote response, .reported (reportRequest runtime peer request true)]
    else .ok [.reported (reportRequest runtime peer request false)]

/-- What the simulation does with the datagrams it receives, and whether an error ended it. -/
def serve (runtime : Runtime) :
    List (SocketAddr × Bytes) → List (Output Bytes) × Except SnmpError Unit
  | [] => ([], .ok ())
  | (peer, datagram) :: rest =>
    match handleDatagram runtime peer datagram with
    | .error e => ([], .error e)
    | .ok outs => (outs ++ (serve runtime rest).1, (serve runtime rest).2)

end ProtocolSimulation.Engine.Snmp
