import ProtocolSimulation.BigEndian
import ProtocolSimulation.LineSessions
import ProtocolSimulation.Windows

/-!
# The RDP simulation

It reads a connection request for the user it names and the protocols it asks for,
confirms the connection, and reports what else comes.
-/
namespace ProtocolSimulation.Engine.Rdp

open ProtocolSimulation.Texts ProtocolSimulation.Conversations ProtocolSimulation.RuntimeEvents
open ProtocolSimulation.BigEndian ProtocolSimulation.Windows

/-- No configured value is read. -/
abbrev Context := SimulationContext Unit

/-- What one read of a connection returns. -/
abbrev Read := { chunk : Bytes // 0 < chunk.length ∧ chunk.length ≤ 4096 }

def TPKT_VERSION : UInt8 := 3

def X224_CC_PDU_TYPE : UInt8 := 0xd0

def RDP_NEG_RSP_TYPE : UInt8 := 0x02

def RDP_NEG_RSP_LENGTH : ℕ := 8

/-! ## Connection requests -/

/-- The user named by a line with a cookie, if the payload is a text. -/
def cookieUser (payload : Bytes) : Option Text := do
  let text ← utf8Decode payload
  let line ← (lines text).find? fun line => (stripPrefix "Cookie: mstshash=" line).isSome
  let user ← stripPrefix "Cookie: mstshash=" line
  return trim user

/-- The protocols in a window that looks like a negotiation request. -/
def windowProtocols : Bytes → Option UInt32
  | [kind, _, low, high, a, b, c, d] =>
    if kind = 0x01 ∧ low = 0x08 ∧ high = 0x00 then some (UInt32.ofNat (leValue [a, b, c, d]))
    else none
  | _ => none

def requestedProtocols (payload : Bytes) : Option UInt32 :=
  (windows 8 payload).findSome? windowProtocols

def parseConnectionRequest (data : Bytes) : Option Text × Option UInt32 :=
  if data.length < 11 then (none, none)
  else if data[0]? ≠ some TPKT_VERSION then (none, none)
  else if data[5]? ≠ some 0xe0 then (none, none)
  else
    let payload := data.drop 11
    (cookieUser payload, requestedProtocols payload)

/-! ## Answers -/

def buildConnectionConfirm (selectedProtocol : UInt32) : Bytes :=
  [TPKT_VERSION, 0] ++ beBytes 2 19 ++ [14, X224_CC_PDU_TYPE, 0x00, 0x00, 0x00, 0x00, 0x00] ++
    [RDP_NEG_RSP_TYPE, 0x00] ++ leBytes 2 RDP_NEG_RSP_LENGTH ++ leBytes 4 selectedProtocol.toNat

def protocolFlagsToString (flags : UInt32) : Text :=
  let protocols : List Text :=
    (if flags = 0 then ["Standard RDP Security"] else []) ++
    (if flags &&& 0x01 ≠ 0 then ["TLS"] else []) ++
    (if flags &&& 0x02 ≠ 0 then ["CredSSP (NLA)"] else []) ++
    (if flags &&& 0x08 ≠ 0 then ["RDSTLS"] else [])
  if protocols.isEmpty then
    ("Unknown (0x" : Text) ++ toAsciiUppercase (encodeHex (beBytes 4 flags.toNat)) ++ (")" : Text)
  else joinWith " + " protocols

def rdpLog (ctx : Context) (peer : SocketAddr) (eventType summary : Text)
    (payload : Option Bytes) : QueuedLog where
  draft :=
    { ruleId := ctx.ruleId, nodeId := ctx.nodeId, clientIp := peer.ip, clientPort := peer.port,
      serverPort := ctx.port, eventType := eventType, detailSummary := summary,
      payloadHex := payload.map fun bytes => encodeHex (bytes.take 512) }
  endpointId := none

/-- The summary of a connection request. -/
def negotiationSummary (data : Bytes) : Text :=
  let (cookie, requested) := parseConnectionRequest data
  ("RDP Connection Request: user_hint=" : Text) ++ cookie.getD "(none)" ++
    (", protocols=" : Text) ++ (requested.map protocolFlagsToString).getD "(not specified)"

def receivedSummary (chunk : Bytes) : Text :=
  ("RDP data received (" : Text) ++ showNat chunk.length ++ (" bytes)" : Text)

/-- A read that times out ends the connection, as the end of the stream does. -/
def handleRdpConnection (ctx : Context) (peer : SocketAddr) : Talk Read (Output Bytes) Unit := do
  Talk.emit (.reported (rdpLog ctx peer "connection" "RDP client connected" none))
  match ← Talk.take with
  | none => return ()
  | some request => do
    Talk.emit (.reported (rdpLog ctx peer "rdp_negotiation" (negotiationSummary request.val)
      (some request.val)))
    Talk.emit (.wrote (buildConnectionConfirm 0))
    Talk.forEach (fun _ chunk => do
      Talk.emit (.reported (rdpLog ctx peer "exploit_attempt" (receivedSummary chunk.val)
        (some chunk.val)))
      return .inl ()) id ()

end ProtocolSimulation.Engine.Rdp
