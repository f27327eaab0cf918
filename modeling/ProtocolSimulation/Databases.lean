import ProtocolSimulation.BigEndian
import ProtocolSimulation.LineSessions

/-!
# The database simulations

What the MySQL and the PostgreSQL simulation share: their reports, how they read
from a connection, and which response a query is configured to get.
-/
namespace ProtocolSimulation.Engine

open ProtocolSimulation.Texts ProtocolSimulation.Conversations ProtocolSimulation.RuntimeEvents

abbrev DatabaseContext := SimulationContext SimDatabaseConfig

/-- The report of an event; of its payload only the first 512 bytes are kept. -/
def reportDatabase (context : DatabaseContext) (peer : SocketAddr) (eventType summary : Text)
    (payload : Bytes) : QueuedLog where
  draft :=
    { ruleId := context.ruleId, nodeId := context.nodeId, clientIp := peer.ip,
      clientPort := peer.port, serverPort := context.port, eventType := eventType,
      detailSummary := summary,
      payloadHex := if payload.isEmpty then none else some (encodeHex (payload.take 512)) }
  endpointId := none

/-- What a session makes of an event it observes: its type, a summary and the payload. -/
abbrev Observer := Text → Text → Bytes → QueuedLog

/-! ## Connections -/

abbrev ByteSession := Talk UInt8 (Output Bytes)

def writeAll (bytes : Bytes) : ByteSession Unit := Talk.emit (.wrote bytes)

def observed (queued : QueuedLog) : ByteSession Unit := Talk.emit (.reported queued)

/-- `read_exact`, which fails at the end of the stream. -/
def readExact (n : ℕ) : ByteSession Bytes := do
  match ← Talk.takeExactly n with
  | none => Talk.breakOff
  | some bytes => return bytes.val

theorem run_readExact {n : ℕ} {bytes : Bytes} (h : bytes.length = n) (rest : Bytes) :
    (readExact n).run (bytes ++ rest) = ([], some (bytes, rest)) := by
  rw [readExact, Talk.run_bind, Talk.run_takeExactly_append h]
  rfl

theorem run_readExact_of_lt {n : ℕ} {input : Bytes} (h : input.length < n) :
    (readExact n).run input = ([], none) := by
  rw [readExact, Talk.run_bind, Talk.run_takeExactly_of_lt h]
  rfl

/-- `read_u8`. -/
def readU8 : ByteSession UInt8 := do
  match ← Talk.take with
  | none => Talk.breakOff
  | some byte => return byte

@[simp] theorem run_readU8_cons (byte : UInt8) (rest : Bytes) :
    readU8.run (byte :: rest) = ([], some (byte, rest)) := rfl

/-! ## Queries -/

def isSemicolon (c : Char) : Bool := c == ';'

/-- The same function in both simulations. -/
def normalizeQuery (query : Text) : Text :=
  toAsciiLowercase (joinWith " " (splitWhitespace (trimEndMatches isSemicolon (trim query))))

/-- The same function in both simulations. -/
def configuredQueryResponse (config : SimDatabaseConfig) (query : Text) : Option Text :=
  config.queryResponses.bind fun responses =>
    (responses.entries.find? fun entry => normalizeQuery entry.1 = normalizeQuery query).map
      Prod.snd

end ProtocolSimulation.Engine
