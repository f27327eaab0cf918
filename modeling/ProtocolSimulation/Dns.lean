import ProtocolSimulation.LineSessions
import ProtocolSimulation.Panics

/-!
# The DNS simulation

It answers questions about A records, over UDP and TCP. An index or a slice out
of the bounds of a message, or a sum out of range, is a panic.
-/
namespace ProtocolSimulation.Engine

open ProtocolSimulation.Texts ProtocolSimulation.Conversations ProtocolSimulation.RuntimeEvents
  ProtocolSimulation.Fallible ProtocolSimulation.Panics

def MAX_DNS_MESSAGE_SIZE : ℕ := 4096

inductive DnsError where
  | bail (message : Text)
  | notUtf8

/-! ## Messages as bytes -/

def u16FromBeBytes (high low : UInt8) : ℕ := 256 * high.toNat + low.toNat

def u16ToBeBytes (n : ℕ) : Bytes := [UInt8.ofNat (n / 256), UInt8.ofNat n]

def u32ToBeBytes (n : UInt32) : Bytes :=
  u16ToBeBytes (n.toNat / 2 ^ 16) ++ u16ToBeBytes (n.toNat % 2 ^ 16)

/-- The label at `offset`, unless it is the empty one, and the offset behind it. -/
def decodeLabel (message : Bytes) (offset : ℕ) : Checked DnsError (Option Text × ℕ) := do
  let length ← orFail (.bail "DNS name is truncated") message[offset]?
  let offset ← add offset 1
  if length = 0 then return (none, offset)
  else if 63 < length.toNat then fail (.bail "DNS name contains an invalid label")
  else
    let stop ← add offset length.toNat
    if message.length < stop then fail (.bail "DNS name contains an invalid label")
    else
      let label ← orFail .notUtf8 (utf8Decode (← slice message offset stop))
      return (some label, stop)

theorem safe_decodeLabel {message : Bytes} {offset : ℕ} (h : message.length < 2 ^ 63) :
    Safe (fun read => offset < read.2 ∧ read.2 ≤ message.length) (decodeLabel message offset) := by
  rw [decodeLabel]
  apply (safe_orFail _ _).bind
  intro length hlength
  obtain ⟨hoffset, _⟩ := List.getElem?_eq_some_iff.mp hlength
  apply (safe_add (by omega)).bind
  rintro start rfl
  apply safe_ite
  · intro _
    exact safe_ok (by omega)
  · intro _
    apply safe_ite
    · intro _
      exact safe_fail _
    · intro _
      have hbyte := length.toNat_lt
      apply (safe_add (by omega)).bind
      rintro stop rfl
      apply safe_ite
      · intro _
        exact safe_fail _
      · intro hstop
        apply (safe_slice (by omega) (by omega)).bind
        intro bytes _
        apply (safe_orFail _ _).bind
        intro label _
        exact safe_ok (by omega)

/-- A label that is read takes up bytes of the message. -/
theorem lt_of_decodeLabel {message : Bytes} {offset : ℕ} {read : Option Text × ℕ}
    (h : decodeLabel message offset = .ok read) : offset < message.length ∧ offset < read.2 := by
  simp only [decodeLabel, bind_ok_iff, orFail_ok_iff, add_ok_iff] at h
  obtain ⟨length, hlength, start, ⟨_, rfl⟩, h⟩ := h
  obtain ⟨hoffset, _⟩ := List.getElem?_eq_some_iff.mp hlength
  refine ⟨hoffset, ?_⟩
  split_ifs at h with hroot hlong
  · cases h
    exact Nat.lt_succ_self offset
  · exact absurd h (fail_ne_ok _ _)
  · simp only [bind_ok_iff, add_ok_iff] at h
    obtain ⟨stop, ⟨_, rfl⟩, h⟩ := h
    split_ifs at h
    · exact absurd h (fail_ne_ok _ _)
    · obtain ⟨bytes, _, label, _, h⟩ := by simpa only [bind_ok_iff] using h
      cases h
      show offset < offset + 1 + length.toNat
      omega

/-- The labels from `offset` up to the empty one, after those already read, and the offset
behind them. -/
def decodeLabels (message : Bytes) (offset : ℕ) (labels : List Text) :
    Checked DnsError (List Text × ℕ) :=
  match _hlabel : decodeLabel message offset with
  | .error fault => .error fault
  | .ok (none, stop) => .ok (labels, stop)
  | .ok (some label, stop) => decodeLabels message stop (labels ++ [label])
termination_by message.length - offset
decreasing_by
  have hlt := lt_of_decodeLabel _hlabel
  dsimp only at hlt
  omega

def decodeName (message : Bytes) (offset : ℕ) : Checked DnsError (Text × ℕ) := do
  let (labels, offset) ← decodeLabels message offset []
  return (joinWith "." labels, offset)

/-! ## Addresses -/

abbrev Ipv4Addr := Vector UInt8 4

/-- One number of an address: no leading zero, at most 255. -/
def parseOctet (t : Text) : Option UInt8 :=
  if t.isEmpty || 3 < t.length || !t.all isDigit then none
  else if 1 < t.length && t.head? = some '0' then none
  else if decimalValue t ≤ 255 then some (UInt8.ofNat (decimalValue t))
  else none

/-- `str::parse::<Ipv4Addr>`. -/
def parseIpv4Addr (t : Text) : Option Ipv4Addr :=
  match t.splitOn '.' with
  | [a, b, c, d] => do
    let a ← parseOctet a
    let b ← parseOctet b
    let c ← parseOctet c
    let d ← parseOctet d
    return #v[a, b, c, d]
  | _ => none

def checkRecords : List (Text × Text) → Except Text Unit
  | [] => .ok ()
  | (name, address) :: rest =>
    if (trim name).isEmpty then .error "DNS record name cannot be empty"
    else if (parseIpv4Addr address).isNone then
      .error (("DNS record " : Text) ++ name ++ (" must contain a valid IPv4 address" : Text))
    else checkRecords rest

/-- The check of a configuration before the simulation starts. -/
def validateDnsConfig (config : SimDnsConfig) : Except Text Unit := do
  checkRecords config.records.entries
  match config.defaultIpv4 with
  | some address =>
    if (parseIpv4Addr address).isNone then .error "DNS default_ipv4 must be a valid IPv4 address"
    else .ok ()
  | none => .ok ()

/-! ## Answers -/

def isDot (c : Char) : Bool := c == '.'

/-- The address of the first record with the name, else the default one. -/
def dnsAddress (config : SimDnsConfig) (normalized : Text) : Option Ipv4Addr :=
  let found := config.records.entries.find? fun (record, _) =>
    eqIgnoreAsciiCase (trimEndMatches isDot record) normalized
  ((found.map Prod.snd).or config.defaultIpv4).bind parseIpv4Addr

/-- The one question of a query, and where it ends. -/
structure DnsQuestion where
  name : Text
  queryType : ℕ
  queryClass : ℕ
  questionEnd : ℕ

def readQuestion (query : Bytes) : Checked DnsError DnsQuestion := do
  ensure (12 ≤ query.length) (.bail "DNS query is shorter than its header")
  let questionCount := u16FromBeBytes (← index query 4) (← index query 5)
  ensure (questionCount = 1) (.bail "DNS simulation accepts exactly one question")
  let (name, nameEnd) ← decodeName query 12
  ensure ((← add nameEnd 4) ≤ query.length) (.bail "DNS question is truncated")
  let questionEnd ← add nameEnd 4
  let queryType := u16FromBeBytes (← index query nameEnd) (← index query (← add nameEnd 1))
  let queryClass :=
    u16FromBeBytes (← index query (← add nameEnd 2)) (← index query (← add nameEnd 3))
  return ⟨name, queryType, queryClass, questionEnd⟩

/-- The answer section: one A record that points at the name of the question. -/
def answerRecord (config : SimDnsConfig) : Option Ipv4Addr → Bytes
  | some address =>
    [0xc0, 0x0c] ++ u16ToBeBytes 1 ++ u16ToBeBytes 1 ++ u32ToBeBytes (config.ttl.getD 60) ++
      u16ToBeBytes 4 ++ address.toList
  | none => []

/-- The response to a query and the name it asks for. -/
def buildResponse (query : Bytes) (config : SimDnsConfig) : Checked DnsError (Bytes × Text) := do
  let question ← readQuestion query
  let normalized := toAsciiLowercase (trimEndMatches isDot question.name)
  let address := dnsAddress config normalized
  let hasAnswer := question.queryType = 1 && question.queryClass = 1 && address.isSome
  let flags : Bytes := if address.isSome then [0x81, 0x80] else [0x81, 0x83]
  let _capacity ← add question.questionEnd 16
  let id ← slice query 0 2
  let questionBytes ← slice query 12 question.questionEnd
  return (id ++ flags ++ u16ToBeBytes 1 ++ u16ToBeBytes (if hasAnswer then 1 else 0) ++
    u16ToBeBytes 0 ++ u16ToBeBytes 0 ++ questionBytes ++
    answerRecord config (address.filter fun _ => hasAnswer), normalized)

theorem readQuestion_name {query : Bytes} {question : DnsQuestion}
    (h : readQuestion query = .ok question) :
    ∃ nameEnd, decodeName query 12 = .ok (question.name, nameEnd) := by
  simp only [readQuestion, bind_ok_iff] at h
  obtain ⟨_, _, _, _, _, _, _, _, ⟨name, nameEnd⟩, hname, _, _, _, _, _, _, _, _, _, _, _, _, _, _,
    _, _, _, _, _, _, hquestion⟩ := h
  cases hquestion
  exact ⟨nameEnd, hname⟩

/-- The name that is reported is the name of the question, without trailing dots and in
lower case. -/
theorem buildResponse_name {query : Bytes} {config : SimDnsConfig} {response : Bytes} {name : Text}
    (h : buildResponse query config = .ok (response, name)) :
    ∃ decoded nameEnd, decodeName query 12 = .ok (decoded, nameEnd) ∧
      name = toAsciiLowercase (trimEndMatches isDot decoded) := by
  simp only [buildResponse, bind_ok_iff] at h
  obtain ⟨question, hquestion, _, _, _, _, _, _, hr⟩ := h
  obtain ⟨nameEnd, hname⟩ := readQuestion_name hquestion
  cases hr
  exact ⟨question.name, nameEnd, hname, rfl⟩

/-! ## Connections -/

inductive DnsTransport where
  | tcp
  | udp

def DnsTransport.asStr : DnsTransport → Text
  | tcp => "TCP"
  | udp => "UDP"

/-- A running simulation: its configuration was checked when it started. -/
structure DnsRuntime extends SimulationContext SimDnsConfig where
  endpointId : Text
  transport : DnsTransport
  checked : validateDnsConfig config = .ok ()

/-- A message no longer than what either transport reads. -/
abbrev DnsMessage := { query : Bytes // query.length ≤ MAX_DNS_MESSAGE_SIZE }

def reportQuery (runtime : DnsRuntime) (peer : SocketAddr) (payload : DnsMessage) (name : Text) :
    QueuedLog where
  draft :=
    { ruleId := runtime.ruleId, nodeId := runtime.nodeId, clientIp := peer.ip,
      clientPort := peer.port, serverPort := runtime.port, eventType := "query",
      detailSummary := ("DNS " : Text) ++ runtime.transport.asStr ++
        (" A query for " : Text) ++ name,
      payloadHex := some (encodeHex payload) }
  endpointId := some runtime.endpointId

/-- The response to a query and the report about it. -/
def answerQuery (runtime : DnsRuntime) (peer : SocketAddr) (query : DnsMessage) :
    Checked DnsError (Bytes × QueuedLog) := do
  let (response, name) ← buildResponse query runtime.config
  return (response, reportQuery runtime peer query name)

/-- A datagram is answered unless it is malformed; what does not fit the buffer is cut off. -/
def handleDatagram (runtime : DnsRuntime) (peer : SocketAddr) (datagram : Bytes) :
    List (Output Bytes) :=
  let query : DnsMessage := ⟨datagram.take MAX_DNS_MESSAGE_SIZE, List.length_take_le _ _⟩
  match answerQuery runtime peer query with
  | .ok (response, queued) => [.wrote response, .reported queued]
  | .error _ => []

/-- One message of a TCP connection, after the first byte of its length. -/
def handleTcpMessage (runtime : DnsRuntime) (peer : SocketAddr) (high : UInt8) :
    Talk UInt8 (Output Bytes) (Unit ⊕ Unit) := do
  match ← Talk.take with
  | none => return .inr ()
  | some low =>
    let size := u16FromBeBytes high low
    if h : size = 0 ∨ MAX_DNS_MESSAGE_SIZE < size then Talk.breakOff
    else
      match ← Talk.takeExactly size with
      | none => Talk.breakOff
      | some bytes =>
        let query : DnsMessage := ⟨bytes, by rw [bytes.property]; omega⟩
        match answerQuery runtime peer query with
        | .error _ => Talk.breakOff
        | .ok (response, queued) =>
          if 2 ^ 16 ≤ response.length then Talk.breakOff
          else
            Talk.emit (.wrote (u16ToBeBytes response.length))
            Talk.emit (.wrote response)
            Talk.emit (.reported queued)
            return .inl ()

def handleTcpConnection (runtime : DnsRuntime) (peer : SocketAddr) :
    Talk UInt8 (Output Bytes) Unit :=
  Talk.forEach (fun _ high => handleTcpMessage runtime peer high) id ()

end ProtocolSimulation.Engine
