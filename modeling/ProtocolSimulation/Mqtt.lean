import ProtocolSimulation.Databases
import ProtocolSimulation.Panics

/-!
# The MQTT simulation

It answers the packets by which a client connects, pings and leaves.
-/
namespace ProtocolSimulation.Engine.Mqtt

open ProtocolSimulation.Texts ProtocolSimulation.Conversations ProtocolSimulation.RuntimeEvents
open ProtocolSimulation.BigEndian ProtocolSimulation.Panics

def MAX_PACKET_SIZE : ℕ := 64 * 1024

abbrev Context := SimulationContext SimMqttConfig

/-! ## Packets -/

/-- The remaining length, in at most `rounds` bytes, the least significant one first. -/
def readRemaining : (rounds multiplier remaining : ℕ) → ByteSession ℕ
  | 0, _, _ => Talk.breakOff
  | rounds + 1, multiplier, remaining => do
    let encoded ← readU8
    let remaining := remaining + (encoded &&& 0x7f).toNat * multiplier
    if encoded &&& 0x80 = 0 then return remaining
    else readRemaining rounds (multiplier * 128) remaining

/-- The rest of a packet, after its first byte. -/
def readPacketRest : ByteSession Bytes := do
  let remaining ← readRemaining 4 1 0
  if MAX_PACKET_SIZE < remaining then Talk.breakOff else readExact remaining

/-- The protocol level of a CONNECT packet, and whether it comes with credentials. -/
def parseConnect (payload : Bytes) : Checked Text (UInt8 × Bool) := do
  ensure (7 ≤ payload.length) "MQTT CONNECT packet is truncated"
  let nameLen := beValue [← index payload 0, ← index payload 1]
  ensure ((← add (← add 2 nameLen) 2) ≤ payload.length) "MQTT protocol name is truncated"
  let name ← slice payload 2 (← add 2 nameLen)
  ensure (name = utf8Encode "MQTT" ∨ name = utf8Encode "MQIsdp")
    "MQTT CONNECT contains an unsupported protocol name"
  let level ← index payload (← add 2 nameLen)
  let flags ← index payload (← add 3 nameLen)
  return (level, flags &&& 0xc0 != 0)

def connack (level : UInt8) (accepted : Bool) : Bytes :=
  if level = 5 then [0x20, 0x03, 0x00, if accepted then 0x00 else 0x87, 0x00]
  else [0x20, 0x02, 0x00, if accepted then 0x00 else 0x05]

/-! ## Connections -/

def mqttLog (ctx : Context) (peer : SocketAddr) (eventType summary : Text)
    (payload : Option Bytes) : QueuedLog where
  draft :=
    { ruleId := ctx.ruleId, nodeId := ctx.nodeId, clientIp := peer.ip, clientPort := peer.port,
      serverPort := ctx.port, eventType := eventType, detailSummary := summary,
      payloadHex := payload.map encodeHex }
  endpointId := none

def reportConnect (ctx : Context) (peer : SocketAddr) (level : UInt8) (accepted : Bool) :
    ByteSession Unit :=
  observed (mqttLog ctx peer "mqtt_connect" (("MQTT protocol level " : Text) ++
    showNat level.toNat ++ (" CONNECT " : Text) ++
    (if accepted then ("accepted" : Text) else "rejected")) none)

def reportControl (ctx : Context) (peer : SocketAddr) (name : Text) (payload : Option Bytes) :
    ByteSession Unit :=
  observed (mqttLog ctx peer "mqtt_control" (("MQTT " : Text) ++ name ++ (" received" : Text))
    payload)

/-- Answer a packet; a client that is refused or leaves ends the session. -/
def handlePacket (ctx : Context) (peer : SocketAddr) (header : UInt8) (payload : Bytes) :
    ByteSession (Unit ⊕ Unit) :=
  let packetType := header >>> 4
  if packetType = 1 then
    match parseConnect payload with
    | .error _ => Talk.breakOff
    | .ok (level, hasCredentials) => do
      let accepted := (level = 4 || level = 5) &&
        (ctx.config.allowAnonymous.getD true || hasCredentials)
      writeAll (connack level accepted)
      reportConnect ctx peer level accepted
      return if accepted then .inl () else .inr ()
  else if packetType = 12 then
    if !payload.isEmpty then Talk.breakOff
    else do
      writeAll [0xd0, 0x00]
      reportControl ctx peer "PINGREQ" (some [header])
      return .inl ()
  else if packetType = 14 then do
    reportControl ctx peer "DISCONNECT" (some [header])
    return .inr ()
  else do
    reportControl ctx peer (("packet type " : Text) ++ showNat packetType.toNat) none
    return .inl ()

def handle (ctx : Context) (peer : SocketAddr) : ByteSession Unit :=
  Talk.forEach (fun _ header => do
    let payload ← readPacketRest
    handlePacket ctx peer header payload) id ()

end ProtocolSimulation.Engine.Mqtt
