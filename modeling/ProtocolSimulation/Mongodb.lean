import ProtocolSimulation.Databases
import ProtocolSimulation.Windows

/-!
# The MongoDB simulation

It answers the commands by which a server is probed, in the envelope of the
request. Where a length does not fit in 32 bits the code panics.
-/
namespace ProtocolSimulation.Engine.Mongodb

open ProtocolSimulation.Texts ProtocolSimulation.Conversations ProtocolSimulation.RuntimeEvents
open ProtocolSimulation.BigEndian ProtocolSimulation.Windows

def OP_REPLY : Int32 := 1

def OP_QUERY : Int32 := 2004

def OP_MSG : Int32 := 2013

def MAX_MESSAGE_SIZE : ℕ := 1024 * 1024

def MAX_REQUESTS_PER_CONNECTION : ℕ := 16

abbrev Context := SimulationContext SimMongodbConfig

structure Request where
  requestId : Int32
  opcode : Int32
  command : Text

/-! ## Requests -/

/-- `i32::from_le_bytes`, of bytes that are there. -/
def readI32Le (bytes : Bytes) (offset : ℕ) : Option Int32 :=
  if offset + 4 ≤ bytes.length then
    some (UInt32.ofNat (leValue ((bytes.drop offset).take 4))).toInt32
  else none

def toAsciiLowercaseByte (b : UInt8) : UInt8 := if 65 ≤ b && b ≤ 90 then b + 32 else b

def detectCommand (payload : Bytes) : Text :=
  let lowered := payload.map toAsciiLowercaseByte
  let commands : List Text := ["serverstatus", "buildinfo", "ismaster", "hello"]
  (commands.find? fun command =>
    (windows (byteLen command) lowered).any fun window => window == utf8Encode command).getD
      "unknown"

/-- The next request; none if the stream ends before its header is complete. -/
def readRequest : ByteSession (Option Request) := do
  match ← Talk.takeExactly 16 with
  | none => return none
  | some header =>
    let length := ((readI32Le header.val 0).getD 0).toInt
    if length < 16 ∨ (MAX_MESSAGE_SIZE : ℤ) < length then Talk.breakOff
    else do
      let body ← readExact (length.toNat - 16)
      let opcode := (readI32Le header.val 12).getD 0
      if opcode = OP_QUERY ∨ opcode = OP_MSG then
        return some
          { requestId := (readI32Le header.val 4).getD 0, opcode := opcode,
            command := detectCommand body }
      else Talk.breakOff

/-! ## Documents -/

def i32Bytes (n : Int32) : Bytes := leBytes 4 n.toUInt32.toNat

def i64Bytes (n : Int64) : Bytes := leBytes 8 n.toUInt64.toNat

/-- `i32::try_from(length).expect(..)`, as the bytes of the number. -/
def lengthBytes (length : ℕ) : Option Bytes :=
  if length < 2147483648 then some (leBytes 4 length) else none

def bsonDocument (build : Bytes → Option Bytes) : Option Bytes := do
  let bytes := (← build [0, 0, 0, 0]) ++ [0]
  let length ← lengthBytes bytes.length
  return length ++ bytes.drop 4

def bsonKey (output : Bytes) (kind : UInt8) (key : Text) : Bytes :=
  output ++ [kind] ++ utf8Encode key ++ [0]

def bsonString (output : Bytes) (key value : Text) : Option Bytes := do
  let output := bsonKey output 0x02 key
  let length ← lengthBytes (byteLen value + 1)
  return output ++ length ++ utf8Encode value ++ [0]

def bsonBool (output : Bytes) (key : Text) (value : Bool) : Bytes :=
  bsonKey output 0x08 key ++ [if value then 1 else 0]

def bsonI32 (output : Bytes) (key : Text) (value : Int32) : Bytes :=
  bsonKey output 0x10 key ++ i32Bytes value

def bsonI64 (output : Bytes) (key : Text) (value : Int64) : Bytes :=
  bsonKey output 0x12 key ++ i64Bytes value

/-- A floating-point number, given by its bits. -/
def bsonDouble (output : Bytes) (key : Text) (bits : UInt64) : Bytes :=
  bsonKey output 0x01 key ++ leBytes 8 bits.toNat

def bsonNested (output : Bytes) (key : Text) (document : Bytes) : Bytes :=
  bsonKey output 0x03 key ++ document

/-- The bits of `1.0` and of `0.0`. -/
def ONE : UInt64 := 0x3ff0000000000000

def ZERO : UInt64 := 0

/-! ## Responses -/

def version (config : SimMongodbConfig) : Text := config.serverVersion.getD "7.0.14-seclab"

def hostname (config : SimMongodbConfig) : Text := config.hostname.getD "mongodb-seclab"

def helloDocument (config : SimMongodbConfig) : Option Bytes :=
  bsonDocument fun doc => do
    let doc := bsonBool doc "isWritablePrimary" true
    let doc := bsonBool doc "ismaster" true
    let doc ← bsonString doc "me" (hostname config ++ (":27017" : Text))
    let doc := bsonI32 doc "minWireVersion" 0
    let doc := bsonI32 doc "maxWireVersion" (config.maxWireVersion.getD 21)
    let doc := bsonI32 doc "maxBsonObjectSize" 16777216
    return bsonDouble doc "ok" ONE

def buildinfoDocument (config : SimMongodbConfig) : Option Bytes :=
  bsonDocument fun doc => do
    let doc ← bsonString doc "version" (version config)
    let doc ← bsonString doc "gitVersion" "seclab-protocol-simulation"
    let doc := bsonI32 doc "bits" 64
    return bsonDouble doc "ok" ONE

def connectionsDocument : Option Bytes :=
  bsonDocument fun nested =>
    let nested := bsonI32 nested "current" 1
    let nested := bsonI32 nested "available" 1023
    return bsonI64 nested "totalCreated" 1

def serverstatusDocument (config : SimMongodbConfig) : Option Bytes :=
  bsonDocument fun doc => do
    let doc ← bsonString doc "host" (hostname config)
    let doc ← bsonString doc "version" (version config)
    let doc ← bsonString doc "process" "mongod"
    let doc := bsonI64 doc "pid" 1
    let doc := bsonI64 doc "uptime" 3600
    let doc := bsonI64 doc "uptimeMillis" 3600000
    let connections ← connectionsDocument
    let doc := bsonNested doc "connections" connections
    return bsonDouble doc "ok" ONE

def unknownDocument : Option Bytes :=
  bsonDocument fun doc => do
    let doc := bsonDouble doc "ok" ZERO
    let doc ← bsonString doc "errmsg" "no such command in protocol simulation"
    return bsonI32 doc "code" 59

def responseDocument (command : Text) (config : SimMongodbConfig) : Option Bytes :=
  if command = "hello" ∨ command = "ismaster" then helloDocument config
  else if command = "buildinfo" then buildinfoDocument config
  else if command = "serverstatus" then serverstatusDocument config
  else unknownDocument

def buildResponse (request : Request) (config : SimMongodbConfig) : Option Bytes := do
  let document ← responseDocument request.command config
  let (envelope, responseOpcode) :=
    if request.opcode = OP_QUERY then
      (i32Bytes 0 ++ i64Bytes 0 ++ i32Bytes 0 ++ i32Bytes 1, OP_REPLY)
    else (leBytes 4 0 ++ [0], OP_MSG)
  let body := envelope ++ document
  let length ← lengthBytes (16 + body.length)
  return length ++ i32Bytes 1 ++ i32Bytes request.requestId ++ i32Bytes responseOpcode ++ body

/-! ## Connections -/

def mongodbLog (ctx : Context) (peer : SocketAddr) (request : Request) : QueuedLog where
  draft :=
    { ruleId := ctx.ruleId, nodeId := ctx.nodeId, clientIp := peer.ip, clientPort := peer.port,
      serverPort := ctx.port, eventType := "mongodb_command",
      detailSummary := ("MongoDB " : Text) ++ request.command ++ (" probe" : Text),
      payloadHex := none }
  endpointId := none

/-- Answer so many requests at most. -/
def serveRequests (ctx : Context) (peer : SocketAddr) : ℕ → ByteSession Unit
  | 0 => return ()
  | requests + 1 => do
    match ← readRequest with
    | none => return ()
    | some request =>
      match buildResponse request ctx.config with
      | none => Talk.breakOff
      | some response => do
        writeAll response
        observed (mongodbLog ctx peer request)
        serveRequests ctx peer requests

def handle (ctx : Context) (peer : SocketAddr) : ByteSession Unit :=
  serveRequests ctx peer MAX_REQUESTS_PER_CONNECTION

end ProtocolSimulation.Engine.Mongodb
