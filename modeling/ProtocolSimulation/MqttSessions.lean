import Mathlib.Data.List.TakeWhile
import ProtocolSimulation.FramedTalks
import ProtocolSimulation.MqttPackets

/-!
# What an MQTT client reads

A client sends packets and takes the bytes of the server apart into replies: one to
each of its CONNECT packets and its pings, in their order. A client that is refused
or leaves, and a packet that is malformed, end the session.
-/
namespace ProtocolSimulation.Engine.Mqtt

open ProtocolSimulation.Texts ProtocolSimulation.Conversations ProtocolSimulation.BigEndian
open ProtocolSimulation.Framing ProtocolSimulation.Panics ProtocolSimulation.Fallible
open ProtocolSimulation.RuntimeEvents (QueuedLog)
open ProtocolSimulation.Septets (encode isField_encode value_encode)

/-! ## CONNECT packets -/

inductive ProtocolName where
  | mqtt
  | mqisdp

def ProtocolName.bytes : ProtocolName → Bytes
  | .mqtt => utf8Encode "MQTT"
  | .mqisdp => utf8Encode "MQIsdp"

/-- The name behind its length. -/
def ProtocolName.field (name : ProtocolName) : Bytes := beBytes 2 name.bytes.length ++ name.bytes

theorem field_mqtt : ProtocolName.mqtt.field = [0, 4, 0x4d, 0x51, 0x54, 0x54] := by decide

theorem field_mqisdp :
    ProtocolName.mqisdp.field = [0, 6, 0x4d, 0x51, 0x49, 0x73, 0x64, 0x70] := by decide

/-- What a CONNECT packet says, as far as the simulation looks at it. -/
structure Connect where
  name : ProtocolName
  level : UInt8
  flags : UInt8
  tail : Bytes

def Connect.encode (c : Connect) : Bytes := c.name.field ++ c.level :: c.flags :: c.tail

/-- A user name or a password comes with it. -/
def Connect.credentials (c : Connect) : Bool := c.flags &&& 0xc0 != 0

def readConnectAs (payload : Bytes) (name : ProtocolName) : Option Connect :=
  match payload.dropPrefix? name.field with
  | some (level :: flags :: tail) => some ⟨name, level, flags, tail⟩
  | _ => none

def readConnect (payload : Bytes) : Option Connect :=
  (readConnectAs payload .mqtt).or (readConnectAs payload .mqisdp)

theorem readConnectAs_eq_some_iff {payload : Bytes} {name : ProtocolName} {c : Connect} :
    readConnectAs payload name = some c ↔ c.name = name ∧ payload = c.encode := by
  have hdrop (rest : Bytes) : payload.dropPrefix? name.field = some rest ↔
      payload = name.field ++ rest := by
    rw [List.dropPrefix?_eq_some_iff]
    constructor
    · intro h
      obtain ⟨head, hpayload, hhead⟩ := h
      rw [hpayload, eq_of_beq hhead]
    · intro h
      exact ⟨name.field, h, beq_self_eq_true _⟩
  constructor
  · intro h
    rw [readConnectAs] at h
    split at h
    next level flags tail hrest =>
      cases h
      exact ⟨rfl, (hdrop _).mp hrest⟩
    next => cases h
  · intro h
    obtain ⟨rfl, hpayload⟩ := h
    rw [readConnectAs, (hdrop _).mpr hpayload]

theorem readConnect_eq_some_iff {payload : Bytes} {c : Connect} :
    readConnect payload = some c ↔ payload = c.encode := by
  have hdisjoint (c' : Connect) (hname : c.name = .mqisdp) (hname' : c'.name = .mqtt) :
      c.encode ≠ c'.encode := by
    intro h
    simp [Connect.encode, hname, hname', field_mqtt, field_mqisdp] at h
  rw [readConnect, Option.or_eq_some_iff, readConnectAs_eq_some_iff, readConnectAs_eq_some_iff]
  constructor
  · intro h
    obtain h | h := h
    · exact h.2
    · exact h.2.2
  · intro h
    cases hname : c.name with
    | mqtt => exact Or.inl ⟨rfl, h⟩
    | mqisdp =>
      refine Or.inr ⟨?_, rfl, h⟩
      cases hfirst : readConnectAs payload .mqtt with
      | none => rfl
      | some c' =>
        obtain ⟨hname', hpayload⟩ := readConnectAs_eq_some_iff.mp hfirst
        exact absurd (h.symm.trans hpayload) (hdisjoint c' hname hname')

/-- The name is one of the two that are spelled out, behind its length. -/
theorem name_iff {name : Bytes} : name = utf8Encode "MQTT" ∨ name = utf8Encode "MQIsdp" ↔
    ∃ known : ProtocolName, name = known.bytes := by
  constructor
  · intro h
    obtain h | h := h
    · exact ⟨.mqtt, h⟩
    · exact ⟨.mqisdp, h⟩
  · intro h
    obtain ⟨known, h⟩ := h
    cases known with
    | mqtt => exact Or.inl h
    | mqisdp => exact Or.inr h

theorem beBytes_beValue_two (high low : UInt8) : beBytes 2 (beValue [high, low]) = [high, low] := by
  have hvalue : beValue [high, low] = 256 * high.toNat + low.toNat := by
    rw [beValue_cons, beValue_cons]
    simp
    omega
  have hhigh : UInt8.ofNat (beValue [high, low] / 256) = high := by
    apply UInt8.toNat_inj.mp
    have hlow := low.toNat_lt
    have hbound := high.toNat_lt
    rw [UInt8.toNat_ofNat', hvalue]
    omega
  have hlow : UInt8.ofNat (beValue [high, low]) = low := by
    apply UInt8.toNat_inj.mp
    have hbound := low.toNat_lt
    rw [UInt8.toNat_ofNat', hvalue]
    omega
  simp [beBytes, hhigh, hlow]

/-- The checks of the parser, in the bytes of the payload. -/
theorem parseConnect_ok_iff_parts {payload : Bytes} {level : UInt8} {credentials : Bool} :
    parseConnect payload = .ok (level, credentials) ↔
      ∃ (name : ProtocolName) (high low flags : UInt8), 7 ≤ payload.length ∧
        payload[0]? = some high ∧ payload[1]? = some low ∧
        4 + beValue [high, low] ≤ payload.length ∧
        getRange payload 2 (2 + beValue [high, low]) = some name.bytes ∧
        payload[2 + beValue [high, low]]? = some level ∧
        payload[3 + beValue [high, low]]? = some flags ∧ credentials = (flags &&& 0xc0 != 0) := by
  simp only [parseConnect, bind_ok_iff, ensure_ok_iff, index_ok_iff, slice_ok_iff, add_ok_iff,
    name_iff, pure_eq_ok, Except.ok.injEq, Prod.mk.injEq]
  constructor
  · intro h
    obtain ⟨_, hseven, high, hhigh, low, hlow, _, ⟨_, rfl⟩, _, ⟨_, rfl⟩, _, hfits, _, ⟨_, rfl⟩,
      _, hname, _, ⟨name, rfl⟩, _, ⟨_, rfl⟩, _, hlevel, _, ⟨_, rfl⟩, flags, hflags, rfl, rfl⟩ := h
    exact ⟨name, high, low, flags, hseven, hhigh, hlow, by omega, hname, hlevel, hflags, rfl⟩
  · intro h
    obtain ⟨name, high, low, flags, hseven, hhigh, hlow, hfits, hname, hlevel, hflags, rfl⟩ := h
    have hlt : beValue [high, low] < 65536 := by simpa using beValue_lt [high, low]
    exact ⟨(), hseven, high, hhigh, low, hlow, _, ⟨by omega, rfl⟩, _, ⟨by omega, rfl⟩, (),
      by omega, _, ⟨by omega, rfl⟩, _, hname, (), ⟨name, rfl⟩, _, ⟨by omega, rfl⟩, level, hlevel,
      _, ⟨by omega, rfl⟩, flags, hflags, rfl, rfl⟩

/-- A payload is accepted exactly if it is that of a CONNECT packet, and read as such. -/
theorem parseConnect_ok_iff {payload : Bytes} {level : UInt8} {credentials : Bool} :
    parseConnect payload = .ok (level, credentials) ↔
      ∃ c : Connect, payload = c.encode ∧ level = c.level ∧ credentials = c.credentials := by
  rw [parseConnect_ok_iff_parts]
  constructor
  · intro h
    obtain ⟨name, high, low, flags, _, hhigh, hlow, hfits, hname, hlevel, hflags, hcredentials⟩ := h
    refine ⟨⟨name, level, flags, payload.drop (4 + beValue [high, low])⟩, ?_, rfl, hcredentials⟩
    have hlength : name.bytes.length = beValue [high, low] := by
      obtain ⟨_, _, hlength⟩ := length_of_getRange hname
      omega
    have hrest : payload.drop (2 + beValue [high, low]) =
        level :: flags :: payload.drop (4 + beValue [high, low]) := by
      have hthree : 2 + beValue [high, low] + 1 = 3 + beValue [high, low] := by omega
      have hfour : 3 + beValue [high, low] + 1 = 4 + beValue [high, low] := by omega
      rw [drop_of_getElem? hlevel, hthree, drop_of_getElem? hflags, hfour]
    have hhead : payload = high :: low :: payload.drop 2 := by
      rw [← drop_of_getElem? hlow, ← drop_of_getElem? hhigh, List.drop_zero]
    rw [drop_of_getRange hname, hrest] at hhead
    rw [Connect.encode, ProtocolName.field, hlength, beBytes_beValue_two]
    exact hhead
  · intro h
    obtain ⟨c, rfl, rfl, rfl⟩ := h
    obtain ⟨name, level, flags, tail⟩ := c
    have hfour : beValue [0, 4] = 4 := by decide
    have hsix : beValue [0, 6] = 6 := by decide
    cases name with
    | mqtt =>
      refine ⟨.mqtt, 0, 4, flags, ?_⟩
      rw [hfour, Connect.encode, field_mqtt]
      refine ⟨?_, rfl, rfl, ?_, ?_, rfl, rfl, rfl⟩
      · simp
      · simp
      · exact getRange_append [0, 4] _ _
    | mqisdp =>
      refine ⟨.mqisdp, 0, 6, flags, ?_⟩
      rw [hsix, Connect.encode, field_mqisdp]
      refine ⟨?_, rfl, rfl, ?_, ?_, rfl, rfl, rfl⟩
      · simp
      · simp
      · exact getRange_append [0, 6] _ _

theorem parseConnect_of_readConnect {payload : Bytes} {c : Connect}
    (h : readConnect payload = some c) : parseConnect payload = .ok (c.level, c.credentials) :=
  parseConnect_ok_iff.mpr ⟨c, readConnect_eq_some_iff.mp h, rfl, rfl⟩

theorem parseConnect_of_readConnect_none {payload : Bytes} (h : readConnect payload = none) :
    ∃ fault, parseConnect payload = .error fault := by
  cases hparse : parseConnect payload with
  | error fault => exact ⟨fault, rfl⟩
  | ok found =>
    obtain ⟨level, credentials⟩ := found
    obtain ⟨c, hpayload, _⟩ := parseConnect_ok_iff.mp hparse
    rw [readConnect_eq_some_iff.mpr hpayload] at h
    cases h

/-! ## What a packet asks for, and what it gets -/

/-- What a client wants with a packet. -/
inductive Request where
  | connect (c : Connect)
  | ping (header : UInt8)
  | leave (header : UInt8)
  | other (packetType : UInt8)
  | malformed

def requestOf (packet : UInt8 × Bytes) : Request :=
  let packetType := packet.1 >>> 4
  if packetType = 1 then (readConnect packet.2).elim .malformed .connect
  else if packetType = 12 then if packet.2.isEmpty then .ping packet.1 else .malformed
  else if packetType = 14 then .leave packet.1
  else .other packetType

/-- A client is let in with one of two protocol levels, whatever it calls the protocol, and with
credentials, whatever these are, unless anybody is let in. -/
def Admits (config : SimMqttConfig) (c : Connect) : Bool :=
  (c.level = 4 || c.level = 5) && (config.allowAnonymous.getD true || c.credentials)

/-- The session goes on behind the request. -/
def Request.goesOn (config : SimMqttConfig) : Request → Bool
  | .connect c => Admits config c
  | .ping _ => true
  | .leave _ => false
  | .other _ => true
  | .malformed => false

/-- What a client reads: an answer to a CONNECT, with properties or without, or to a ping. -/
inductive Reply where
  | connack (properties : Bool) (code : UInt8)
  | pingresp
deriving DecidableEq

def Request.reply (config : SimMqttConfig) : Request → Option Reply
  | .connect c =>
    some (.connack (c.level = 5) (if Admits config c then 0 else if c.level = 5 then 0x87 else 5))
  | .ping _ => some .pingresp
  | .leave _ => none
  | .other _ => none
  | .malformed => none

/-- What is reported of a request: the level of a CONNECT and whether the client is let in, the
header of a ping or a DISCONNECT, the type of any other packet. -/
def Request.report (ctx : Context) (peer : SocketAddr) : Request → Option QueuedLog
  | .connect c =>
    some (mqttLog ctx peer "mqtt_connect" (("MQTT protocol level " : Text) ++
      showNat c.level.toNat ++ (" CONNECT " : Text) ++
      (if Admits ctx.config c then ("accepted" : Text) else "rejected")) none)
  | .ping header => some (mqttLog ctx peer "mqtt_control" "MQTT PINGREQ received" (some [header]))
  | .leave header =>
    some (mqttLog ctx peer "mqtt_control" "MQTT DISCONNECT received" (some [header]))
  | .other packetType =>
    some (mqttLog ctx peer "mqtt_control"
      (("MQTT packet type " : Text) ++ showNat packetType.toNat ++ (" received" : Text)) none)
  | .malformed => none

/-! ## Replies -/

def Reply.packet : Reply → UInt8 × Bytes
  | .connack true code => (0x20, [0, code, 0])
  | .connack false code => (0x20, [0, code])
  | .pingresp => (0xd0, [])

def Reply.ofPacket (packet : UInt8 × Bytes) : Option Reply :=
  if packet.1 = 0x20 then
    match packet.2 with
    | [_, code] => some (.connack false code)
    | [_, code, _] => some (.connack true code)
    | _ => none
  else if packet.1 = 0xd0 then some .pingresp
  else none

/-- The next reply of the server. -/
def readReply : Reader UInt8 Reply := fun input =>
  (packetReader input).bind fun found => (Reply.ofPacket found.1).map fun reply => (reply, found.2)

def Reply.bytes (reply : Reply) : Bytes := encodePacket reply.packet

theorem readsBack_reply (reply : Reply) : ReadsBack readReply Reply.bytes reply := by
  have hsmall : reply.packet.2.length ≤ MAX_PACKET_SIZE := by
    cases reply with
    | connack properties code => cases properties <;> simp [Reply.packet, MAX_PACKET_SIZE]
    | pingresp => simp [Reply.packet]
  have hpacket : Reply.ofPacket reply.packet = some reply := by
    cases reply with
    | connack properties code => cases properties <;> rfl
    | pingresp => rfl
  refine ⟨(readsBack_packet hsmall).nonempty, ?_⟩
  intro rest
  rw [readReply, Reply.bytes, (readsBack_packet hsmall).read_append]
  simp [hpacket]

theorem connack_eq (level : UInt8) (accepted : Bool) : connack level accepted =
    Reply.bytes (.connack (level = 5) (if accepted then 0 else if level = 5 then 0x87 else 5)) := by
  rw [connack]
  by_cases hfive : level = 5
  · simp [hfive, Reply.bytes, Reply.packet, encodePacket, encode]
  · simp [hfive, Reply.bytes, Reply.packet, encodePacket, encode]

theorem bytes_pingresp : Reply.pingresp.bytes = [0xd0, 0x00] := by
  simp [Reply.bytes, Reply.packet, encodePacket, encode]

/-! ## One packet -/

/-- What is put out for a packet, whatever follows it. -/
def packetOutputs (ctx : Context) (peer : SocketAddr) (packet : UInt8 × Bytes) :
    List (Output Bytes) :=
  ((handlePacket ctx peer packet.1 packet.2).run []).1

/-- A packet is answered as its request asks for, and reported. -/
structure PacketRight (ctx : Context) (peer : SocketAddr) (packet : UInt8 × Bytes) : Prop where
  round : ∀ rest, ∃ result, (handlePacket ctx peer packet.1 packet.2).run rest =
    (packetOutputs ctx peer packet, result) ∧
    if (requestOf packet).goesOn ctx.config then result = some (.inl (), rest)
    else ∀ left, result ≠ some (.inl (), left)
  reply : written (packetOutputs ctx peer packet) =
    ((requestOf packet).reply ctx.config).toList.map Reply.bytes
  reported : reports (packetOutputs ctx peer packet) =
    ((requestOf packet).report ctx peer).toList

/-- What is put out for a packet that does not read on. -/
theorem packetRight_of_run {ctx : Context} {peer : SocketAddr} {packet : UInt8 × Bytes}
    {outs : List (Output Bytes)} {result : Option (Unit ⊕ Unit)}
    (hrun : ∀ rest, (handlePacket ctx peer packet.1 packet.2).run rest =
      (outs, result.map fun next => (next, rest)))
    (hnext : result = some (.inl ()) ↔ (requestOf packet).goesOn ctx.config = true)
    (hreply : written outs = ((requestOf packet).reply ctx.config).toList.map Reply.bytes)
    (hreported : reports outs = ((requestOf packet).report ctx peer).toList) :
    PacketRight ctx peer packet := by
  have houts : packetOutputs ctx peer packet = outs := by rw [packetOutputs, hrun]
  refine ⟨?_, by rw [houts, hreply], by rw [houts, hreported]⟩
  intro rest
  refine ⟨_, by rw [houts, hrun], ?_⟩
  cases hgoes : (requestOf packet).goesOn ctx.config with
  | true => simp [hnext.mpr hgoes]
  | false =>
    simp only [Bool.false_eq_true, if_false]
    intro left hleft
    obtain ⟨next, hresult, hfound⟩ := Option.map_eq_some_iff.mp hleft
    rw [Prod.mk.injEq] at hfound
    rw [hfound.1] at hresult
    rw [hnext.mp hresult] at hgoes
    cases hgoes

theorem packetRight_connect (ctx : Context) (peer : SocketAddr) {packet : UInt8 × Bytes}
    (htype : packet.1 >>> 4 = 1) : PacketRight ctx peer packet := by
  cases hread : readConnect packet.2 with
  | none =>
    obtain ⟨fault, hparse⟩ := parseConnect_of_readConnect_none hread
    have hrequest : requestOf packet = .malformed := by simp [requestOf, htype, hread]
    refine @packetRight_of_run _ _ _ [] none ?_ ?_ ?_ ?_
    · intro rest
      simp [handlePacket, htype, hparse, Talk.breakOff]
    · simp [hrequest, Request.goesOn]
    · simp [hrequest, Request.reply]
    · simp [hrequest, Request.report, reports]
  | some c =>
    have hparse := parseConnect_of_readConnect hread
    have hrequest : requestOf packet = .connect c := by simp [requestOf, htype, hread]
    have hrun (rest : Bytes) : (handlePacket ctx peer packet.1 packet.2).run rest =
        ([.wrote (connack c.level (Admits ctx.config c)),
          .reported (mqttLog ctx peer "mqtt_connect" (("MQTT protocol level " : Text) ++
            showNat c.level.toNat ++ (" CONNECT " : Text) ++
            (if Admits ctx.config c then ("accepted" : Text) else "rejected")) none)],
          (some (if Admits ctx.config c then .inl () else .inr ())).map
            fun next => (next, rest)) := by
      simp only [handlePacket, htype, hparse]
      rfl
    refine packetRight_of_run hrun ?_ ?_ ?_
    · rw [hrequest, Request.goesOn]
      cases Admits ctx.config c <;> simp
    · rw [hrequest, Request.reply, written_wrote, connack_eq]
      rfl
    · rw [hrequest]
      rfl

theorem packetRight_ping (ctx : Context) (peer : SocketAddr) {packet : UInt8 × Bytes}
    (htype : packet.1 >>> 4 = 12) : PacketRight ctx peer packet := by
  cases hempty : packet.2.isEmpty with
  | false =>
    have hrequest : requestOf packet = .malformed := by simp [requestOf, htype, hempty]
    refine @packetRight_of_run _ _ _ [] none ?_ ?_ ?_ ?_
    · intro rest
      simp [handlePacket, htype, hempty, Talk.breakOff]
    · simp [hrequest, Request.goesOn]
    · simp [hrequest, Request.reply]
    · simp [hrequest, Request.report, reports]
  | true =>
    have hrequest : requestOf packet = .ping packet.1 := by simp [requestOf, htype, hempty]
    have hrun (rest : Bytes) : (handlePacket ctx peer packet.1 packet.2).run rest =
        ([.wrote [0xd0, 0x00], .reported (mqttLog ctx peer "mqtt_control"
          (("MQTT " : Text) ++ "PINGREQ" ++ (" received" : Text)) (some [packet.1]))],
          (some (.inl ())).map fun next => (next, rest)) := by
      simp only [handlePacket, htype, hempty]
      rfl
    refine packetRight_of_run hrun ?_ ?_ ?_
    · simp [hrequest, Request.goesOn]
    · rw [hrequest, Request.reply, written_wrote, ← bytes_pingresp]
      rfl
    · rw [hrequest]
      rfl

theorem packetRight (ctx : Context) (peer : SocketAddr) (packet : UInt8 × Bytes) :
    PacketRight ctx peer packet := by
  by_cases hconnect : packet.1 >>> 4 = 1
  · exact packetRight_connect ctx peer hconnect
  by_cases hping : packet.1 >>> 4 = 12
  · exact packetRight_ping ctx peer hping
  by_cases hleave : packet.1 >>> 4 = 14
  · have hrequest : requestOf packet = .leave packet.1 := by simp [requestOf, hleave]
    have hrun (rest : Bytes) : (handlePacket ctx peer packet.1 packet.2).run rest =
        ([.reported (mqttLog ctx peer "mqtt_control"
          (("MQTT " : Text) ++ "DISCONNECT" ++ (" received" : Text)) (some [packet.1]))],
          (some (.inr ())).map fun next => (next, rest)) := by
      simp only [handlePacket, hleave]
      rfl
    refine packetRight_of_run hrun ?_ ?_ ?_
    · simp [hrequest, Request.goesOn]
    · rw [hrequest]
      rfl
    · rw [hrequest]
      rfl
  · have hrequest : requestOf packet = .other (packet.1 >>> 4) := by
      simp [requestOf, hconnect, hping, hleave]
    have hrun (rest : Bytes) : (handlePacket ctx peer packet.1 packet.2).run rest =
        ([.reported (mqttLog ctx peer "mqtt_control"
          (("MQTT " : Text) ++ (("packet type " : Text) ++ showNat (packet.1 >>> 4).toNat) ++
            (" received" : Text)) none)],
          (some (.inl ())).map fun next => (next, rest)) := by
      simp only [handlePacket, hconnect, hping, hleave]
      rfl
    refine packetRight_of_run hrun ?_ ?_ ?_
    · simp [hrequest, Request.goesOn]
    · rw [hrequest]
      rfl
    · rw [hrequest]
      rfl

/-! ## Whole sessions -/

theorem takesFrame_packet (ctx : Context) (peer : SocketAddr) {packet : UInt8 × Bytes}
    (h : packet.2.length ≤ MAX_PACKET_SIZE) :
    Talk.TakesFrame (fun (_ : Unit) header => do
      let payload ← readPacketRest
      handlePacket ctx peer header payload) () (encodePacket packet) (packetOutputs ctx peer packet)
      ((requestOf packet).goesOn ctx.config) := by
  constructor
  intro rest
  obtain ⟨result, hrun, hresult⟩ := (packetRight ctx peer packet).round rest
  have hread : readPacketRest.run (encode packet.2.length ++ packet.2 ++ rest) =
      ([], some (packet.2, rest)) := by
    apply run_readPacketRest_iff.mpr
    exact ⟨encode packet.2.length, isField_encode _, encode_length_le_four h,
      List.append_assoc _ _ _, value_encode _, h⟩
  refine ⟨packet.1, encode packet.2.length ++ packet.2 ++ rest, result, rfl, ?_, ?_⟩
  · rw [Talk.run_bind, hread]
    dsimp only
    rw [hrun, List.nil_append]
  · split at hresult
    next hgoes => rwa [if_pos hgoes]
    next hover =>
      rw [if_neg hover]
      exact fun _ => hresult

/-- What the session serves: the packets up to the first that ends it. -/
def served (config : SimMqttConfig) (packets : List (UInt8 × Bytes)) : List (UInt8 × Bytes) :=
  Talk.throughFirst (fun packet => (requestOf packet).goesOn config) packets

/-- What a session owes to its client, and to the audit log. -/
structure ConversationRight (ctx : Context) (peer : SocketAddr) (packets : List (UInt8 × Bytes))
    (outs : List (Output Bytes)) : Prop where
  /-- The client reads one reply after the other, to the requests that get one. -/
  replies : readAll readReply (written outs).flatten = some ((served ctx.config packets).filterMap
    fun packet => (requestOf packet).reply ctx.config)
  /-- There is one report for each request that is served, in their order. -/
  reported : reports outs =
    (served ctx.config packets).filterMap fun packet => (requestOf packet).report ctx peer

theorem outputs_right (ctx : Context) (peer : SocketAddr) (packets : List (UInt8 × Bytes)) :
    written (packets.flatMap (packetOutputs ctx peer)) =
        (packets.filterMap fun packet => (requestOf packet).reply ctx.config).map Reply.bytes ∧
      reports (packets.flatMap (packetOutputs ctx peer)) =
        packets.filterMap fun packet => (requestOf packet).report ctx peer := by
  induction packets with
  | nil => exact ⟨rfl, rfl⟩
  | cons packet packets ih =>
    obtain ⟨hwritten, hreports⟩ := ih
    have hright := packetRight ctx peer packet
    rw [List.flatMap_cons, List.filterMap_cons, List.filterMap_cons]
    refine ⟨?_, ?_⟩
    · rw [written_append, hwritten, hright.reply]
      cases (requestOf packet).reply ctx.config <;> rfl
    · rw [reports, List.filterMap_append, ← reports, ← reports, hreports, hright.reported]
      cases (requestOf packet).report ctx peer <;> rfl

/-- Whatever a client sends, as long as the packets are not too long: it reads its replies one
after the other, a report is made of each packet, and nothing follows the packet that ends the
session. -/
theorem handle_conversationRight (ctx : Context) (peer : SocketAddr)
    {packets : List (UInt8 × Bytes)} (h : ∀ packet ∈ packets, packet.2.length ≤ MAX_PACKET_SIZE) :
    ConversationRight ctx peer packets
      ((handle ctx peer).run (packets.flatMap encodePacket)).1 := by
  have houts : ((handle ctx peer).run (packets.flatMap encodePacket)).1 =
      (served ctx.config packets).flatMap (packetOutputs ctx peer) :=
    Talk.run_forEach_frames fun packet hpacket => takesFrame_packet ctx peer (h packet hpacket)
  obtain ⟨hwritten, hreports⟩ := outputs_right ctx peer (served ctx.config packets)
  rw [houts]
  refine ⟨?_, hreports⟩
  rw [hwritten, ← List.flatMap_def]
  exact readAll_flatMap fun reply _ => readsBack_reply reply

/-- The simulation with its default configuration. -/
def plainContext : Context := ⟨"rule", "node", 1883, ⟨none⟩⟩

/-- A client of the old protocol, which is refused, and a ping that comes too late. -/
def refusedClient : List (UInt8 × Bytes) :=
  [(0xc0, []), (0x10, (⟨.mqisdp, 3, 0, [0, 0x1e]⟩ : Connect).encode), (0xc0, [])]

theorem refusedClient_conversationRight :
    ConversationRight plainContext ⟨"192.0.2.1", 40000⟩ refusedClient ((handle plainContext
      ⟨"192.0.2.1", 40000⟩).run (refusedClient.flatMap encodePacket)).1 := by
  have hsmall : ∀ packet ∈ refusedClient, packet.2.length ≤ MAX_PACKET_SIZE := by decide
  exact handle_conversationRight plainContext ⟨"192.0.2.1", 40000⟩ hsmall

end ProtocolSimulation.Engine.Mqtt
