import ProtocolSimulation.Databases
import ProtocolSimulation.Panics

/-!
# The MySQL simulation

The server greets a client with a seed, and the client answers with its user and
a response to the seed. After that it sends commands. The hash function comes
from a package; it is a parameter.
-/
namespace ProtocolSimulation.Engine.Mysql

open ProtocolSimulation.Texts ProtocolSimulation.Conversations ProtocolSimulation.BigEndian
open ProtocolSimulation.Panics

def AUTH_SEED : Bytes := utf8Encode "seclab01simulation12"

def CLIENT_CONNECT_WITH_DB : UInt32 := 0x00000008

def CLIENT_PROTOCOL_41 : UInt32 := 0x00000200

def CLIENT_SECURE_CONNECTION : UInt32 := 0x00008000

def CLIENT_PLUGIN_AUTH : UInt32 := 0x00080000

def CLIENT_PLUGIN_AUTH_LENENC_CLIENT_DATA : UInt32 := 0x00200000

def SERVER_CAPABILITIES : UInt32 :=
  0x00000001 ||| CLIENT_CONNECT_WITH_DB ||| CLIENT_PROTOCOL_41 ||| CLIENT_SECURE_CONNECTION |||
    CLIENT_PLUGIN_AUTH

def MAX_PACKET_SIZE : ℕ := 64 * 1024

def DEFAULT_SERVER_VERSION : Text := "8.0.36-seclab"

/-! ## Packets -/

/-- The length is cut off to three bytes. -/
def packet (sequence : UInt8) (payload : Bytes) : Bytes :=
  leBytes 3 payload.length ++ [sequence] ++ payload

/-- The rest of a packet, after its first byte. -/
def readPacketRest (first : UInt8) : ByteSession (UInt8 × Bytes) := do
  let second ← readU8
  let third ← readU8
  let length := leValue [first, second, third]
  if MAX_PACKET_SIZE < length then Talk.breakOff
  else
    let sequence ← readU8
    let payload ← readExact length
    return (sequence, payload)

def readPacket : ByteSession (Option (UInt8 × Bytes)) := do
  match ← Talk.take with
  | none => return none
  | some first =>
    let found ← readPacketRest first
    return some found

/-! ## The handshake -/

def handshakePayload (version : Text) : Bytes :=
  List.flatten [[0x0a], utf8Encode version, [0], leBytes 4 1, AUTH_SEED.take 8, [0],
    leBytes 2 SERVER_CAPABILITIES.toNat, [0x21], leBytes 2 0x0002,
    leBytes 2 (SERVER_CAPABILITIES >>> 16).toNat, [21], List.replicate 10 0, AUTH_SEED.drop 8,
    [0], utf8Encode "mysql_native_password\x00"]

def handshake (version : Text) : Bytes := packet 0 (handshakePayload version)

structure HandshakeResponse where
  username : Text
  authResponse : Bytes
  database : Option Text

/-- The text at the offset up to a zero byte, and the offset behind it. -/
def takeCstring (input : Bytes) (offset : ℕ) : Checked Text (Text × ℕ) := do
  let remaining ← orFail "MySQL handshake response is truncated"
    (getRange input offset input.length)
  let length ← orFail "MySQL handshake response contains an unterminated string"
    (remaining.findIdx? (· == 0))
  let value ← orFail "MySQL handshake response contains invalid UTF-8"
    (utf8Decode (← slice remaining 0 length))
  return (value, ← add offset (← add length 1))

/-- The number at the offset, and the offset behind it. -/
def readLenencInteger (input : Bytes) (offset : ℕ) : Checked Text (ℕ × ℕ) := do
  let first ← orFail "MySQL length-encoded integer is missing" input[offset]?
  let offset ← add offset 1
  if first.toNat ≤ 250 then return (first.toNat, offset)
  else if first = 0xfc then
    let bytes ← orFail "MySQL length-encoded integer is truncated"
      (getRange input offset (← add offset 2))
    return (leValue bytes, ← add offset 2)
  else fail "unsupported MySQL length-encoded integer"

/-- How long the authentication response is, and where it starts. -/
def readAuthLength (capabilities : UInt32) (payload : Bytes) (offset : ℕ) :
    Checked Text (ℕ × ℕ) :=
  if capabilities &&& CLIENT_PLUGIN_AUTH_LENENC_CLIENT_DATA ≠ 0 then
    readLenencInteger payload offset
  else if capabilities &&& CLIENT_SECURE_CONNECTION ≠ 0 then do
    let length ← orFail "MySQL authentication response length is missing" payload[offset]?
    return (length.toNat, ← add offset 1)
  else do
    let remaining ← slice payload offset payload.length
    let length ← orFail "MySQL authentication response is unterminated"
      (remaining.findIdx? (· == 0))
    return (length, offset)

def parseHandshakeResponse (payload : Bytes) : Checked Text HandshakeResponse := do
  ensure (32 ≤ payload.length) "MySQL handshake response is too short"
  let capabilities := UInt32.ofNat (leValue (← slice payload 0 4))
  ensure (capabilities &&& CLIENT_PROTOCOL_41 ≠ 0) "MySQL client does not support protocol 4.1"
  let (username, offset) ← takeCstring payload 32
  let (authLength, offset) ← readAuthLength capabilities payload offset
  let authResponse ← orFail "MySQL authentication response is truncated"
    (getRange payload offset (← add offset authLength))
  let offset ← add offset authLength
  if capabilities &&& CLIENT_CONNECT_WITH_DB ≠ 0 then
    let (database, _) ← takeCstring payload offset
    return ⟨username, authResponse, some database⟩
  else return ⟨username, authResponse, none⟩

/-! ## Credentials -/

/-- A hash of 20 bytes. -/
abbrev Digest := Bytes → Vector UInt8 20

def nativePasswordResponse (sha1 : Digest) (password : Text) : Vector UInt8 20 :=
  let first := sha1 (utf8Encode password)
  let second := sha1 first.toList
  let challenge := sha1 (AUTH_SEED ++ second.toList)
  Vector.zipWith (· ^^^ ·) first challenge

def credentialsMatch (sha1 : Digest) (config : SimDatabaseConfig) (username : Text)
    (authResponse : Bytes) : Bool :=
  (config.credentials.map fun credentials =>
    credentials.any fun credential => credential.username == username &&
      (nativePasswordResponse sha1 credential.password).toList == authResponse).getD false

def databaseExists (config : SimDatabaseConfig) (database : Option Text) : Bool :=
  (database.map fun database =>
    (config.databases.map fun databases => databases.any fun item => item == database).getD
      true).getD true

/-! ## Replies -/

def okPacket (sequence : UInt8) : Bytes :=
  packet sequence [0x00, 0x00, 0x00, 0x02, 0x00, 0x00, 0x00]

def errorPacket (sequence : UInt8) (code : ℕ) (sqlState message : Text) : Bytes :=
  packet sequence ([0xff] ++ leBytes 2 code ++ utf8Encode "#" ++ utf8Encode sqlState ++
    utf8Encode message)

/-- The length is cut off to one byte. -/
def pushLenencString (payload : Bytes) (value : Text) : Bytes :=
  payload ++ [UInt8.ofNat (byteLen value)] ++ utf8Encode value

def columnDefinition (name : Text) : Bytes :=
  (["def", "", "", "", name, ""] : List Text).foldl pushLenencString [] ++ [0x0c] ++
    leBytes 2 0x0021 ++ leBytes 4 1024 ++ [0xfd] ++ leBytes 2 0 ++ [0] ++ [0, 0]

/-- The packets of `write_text_result`. -/
def textResult (column value : Text) : List Bytes :=
  [packet 1 [1], packet 2 (columnDefinition column), packet 3 [0xfe, 0, 0, 2, 0],
    packet 4 (pushLenencString [] value), packet 5 [0xfe, 0, 0, 2, 0]]

/-! ## Sessions -/

def serverVersion (config : SimDatabaseConfig) : Text :=
  config.serverVersion.getD DEFAULT_SERVER_VERSION

def writeEach : List Bytes → ByteSession Unit
  | [] => return ()
  | bytes :: rest => do
    writeAll bytes
    writeEach rest

/-- The first part of a session, up to the point where the client is let in or not. -/
def authenticate (sha1 : Digest) (config : SimDatabaseConfig) (observe : Observer) :
    ByteSession Bool := do
  writeAll (handshake (serverVersion config))
  match ← readPacket with
  | none => return false
  | some (_, responsePayload) =>
    observed (observe "auth_attempt" "MySQL authentication packet received" responsePayload)
    match parseHandshakeResponse responsePayload with
    | .error _ => Talk.breakOff
    | .ok response =>
      if !credentialsMatch sha1 config response.username response.authResponse then
        writeAll (errorPacket 2 1045 "28000" "Access denied by SecLab simulation")
        return false
      else if !databaseExists config response.database then
        writeAll (errorPacket 2 1049 "42000" "Unknown database")
        return false
      else
        writeAll (okPacket 2)
        return true

/-- The packets that answer a query. -/
def queryReply (config : SimDatabaseConfig) (query : Text) : List Bytes :=
  if normalizeQuery query = "select version()" then textResult "VERSION()" (serverVersion config)
  else
    match configuredQueryResponse config query with
    | some response => textResult "result" response
    | none => [errorPacket 1 1235 "42000" "Query is not supported by SecLab simulation"]

/-- Answer a command; a Quit ends the session. -/
def handleCommand (config : SimDatabaseConfig) (observe : Observer) :
    Bytes → ByteSession (Unit ⊕ Unit)
  | [] => return .inl ()
  | commandCode :: body =>
    if commandCode = 0x01 then return .inr ()
    else if commandCode = 0x0e then do
      writeAll (okPacket 1)
      return .inl ()
    else if commandCode = 0x03 then
      match utf8Decode body with
      | none => Talk.breakOff
      | some query => do
        observed (observe "query" (("MySQL query received: " : Text) ++ query) body)
        writeEach (queryReply config query)
        return .inl ()
    else do
      writeAll (errorPacket 1 1047 "08S01" "Command is not supported by SecLab simulation")
      return .inl ()

/-- The commands of a client that was let in. -/
def serveCommands (config : SimDatabaseConfig) (observe : Observer) : ByteSession Unit :=
  Talk.forEach (fun _ first => do
    let (_, command) ← readPacketRest first
    handleCommand config observe command) id ()

def serveSession (sha1 : Digest) (config : SimDatabaseConfig) (observe : Observer) :
    ByteSession Unit := do
  if ← authenticate sha1 config observe then serveCommands config observe
  else return ()

/-- `handle`: every event of a connection is reported. -/
def handleMysql (sha1 : Digest) (context : DatabaseContext) (peer : SocketAddr) :
    ByteSession Unit := do
  observed (reportDatabase context peer "connection" "MySQL client connected" [])
  serveSession sha1 context.config (reportDatabase context peer)

end ProtocolSimulation.Engine.Mysql
