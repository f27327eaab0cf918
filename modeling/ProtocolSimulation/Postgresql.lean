import ProtocolSimulation.Databases

/-!
# The PostgreSQL simulation

A client connects, authenticates with a password and sends messages. Only simple
queries are answered, some of them with a row.
-/
namespace ProtocolSimulation.Engine.Postgresql

open ProtocolSimulation.Texts ProtocolSimulation.Conversations ProtocolSimulation.BigEndian

def SSL_REQUEST_CODE : Bytes := [4, 210, 22, 47]

def PROTOCOL_VERSION_3 : Bytes := [0, 3, 0, 0]

def MAX_PACKET_SIZE : ℕ := 64 * 1024

def DEFAULT_SERVER_VERSION : Text := "16.2-seclab"

/-- A byte that is written as a character. -/
def ascii (c : Char) : UInt8 := UInt8.ofNat c.toNat

/-! ## Messages of the server -/

/-- The length counts itself, and is cut off to 32 bits. -/
def backendMessage (kind : UInt8) (body : Bytes) : Bytes :=
  [kind] ++ beBytes 4 (body.length + 4) ++ body

def authenticationRequest (code : ℕ) : Bytes := backendMessage (ascii 'R') (beBytes 4 code)

def parameterStatus (key value : Text) : Bytes :=
  backendMessage (ascii 'S') (utf8Encode key ++ [0] ++ utf8Encode value ++ [0])

def errorBody (code message : Text) : Bytes :=
  utf8Encode "SERROR\x00VERROR\x00C" ++ utf8Encode code ++ utf8Encode "\x00M" ++
    utf8Encode message ++ [0, 0]

def errorResponse (code message : Text) : Bytes :=
  backendMessage (ascii 'E') (errorBody code message)

/-- One column of type `text`, of no table, of variable width, without a modifier, as text. -/
def descriptionBody (columnName : Text) : Bytes :=
  beBytes 2 1 ++ utf8Encode columnName ++ [0] ++ beBytes 4 0 ++ beBytes 2 0 ++ beBytes 4 25 ++
    [0xff, 0xff] ++ [0xff, 0xff, 0xff, 0xff] ++ beBytes 2 0

def rowDescription (columnName : Text) : Bytes :=
  backendMessage (ascii 'T') (descriptionBody columnName)

def rowBody (value : Text) : Bytes := beBytes 2 1 ++ beBytes 4 (byteLen value) ++ utf8Encode value

def dataRow (value : Text) : Bytes := backendMessage (ascii 'D') (rowBody value)

def commandComplete (tag : Text) : Bytes := backendMessage (ascii 'C') (utf8Encode tag ++ [0])

def readyForQuery : Bytes := backendMessage (ascii 'Z') (utf8Encode "I")

/-! ## Messages of the client -/

/-- `read_u32`. -/
def readU32 : ByteSession ℕ := do
  let bytes ← readExact 4
  return beValue bytes

def readStartupPacket : ByteSession Bytes := do
  let length ← readU32
  if 8 ≤ length ∧ length ≤ MAX_PACKET_SIZE then readExact (length - 4) else Talk.breakOff

/-- The rest of a message, after its kind. -/
def readFrontendBody : ByteSession Bytes := do
  let length ← readU32
  if 4 ≤ length ∧ length ≤ MAX_PACKET_SIZE then readExact (length - 4) else Talk.breakOff

def readFrontendMessage : ByteSession (Option (UInt8 × Bytes)) := do
  match ← Talk.take with
  | none => return none
  | some kind =>
    let body ← readFrontendBody
    return some (kind, body)

/-- `chunks_exact(2)`. -/
def pairs : List Bytes → List (Bytes × Bytes)
  | key :: value :: rest => (key, value) :: pairs rest
  | _ => []

def startupParameter (packet : Bytes) (name : Text) : Option Text :=
  if packet.take 4 = PROTOCOL_VERSION_3 then
    (pairs (((packet.drop 4).splitOn 0).takeWhile fun value =>
      !value.isEmpty)).findSome? fun pair =>
      if pair.1 = utf8Encode name then utf8Decode pair.2 else none
  else none

/-- The text of a message, without a zero byte at its end. -/
def cstring (body : Bytes) : Option Text :=
  utf8Decode (if body.getLast? = some 0 then body.dropLast else body)

/-! ## Login -/

def credentialsMatch (config : SimDatabaseConfig) (username password : Text) : Bool :=
  (config.credentials.map fun credentials =>
    credentials.any fun item => item.username == username && item.password == password).getD false

def databaseExists (config : SimDatabaseConfig) (database : Text) : Bool :=
  (config.databases.map fun databases => databases.any fun item => item == database).getD true

/-- The startup packet of a client; a request for SSL is declined first. -/
def readStartup : ByteSession Bytes := do
  let startup ← readStartupPacket
  if startup = SSL_REQUEST_CODE then
    writeAll (utf8Encode "N")
    readStartupPacket
  else return startup

/-- Does the password that follows let the user in? -/
def checkPassword (config : SimDatabaseConfig) (observe : Observer) (username database : Text) :
    ByteSession Bool := do
  match ← readFrontendMessage with
  | none => return false
  | some (kind, passwordBody) =>
    if kind ≠ ascii 'p' then
      writeAll (errorResponse "08P01" "password message expected")
      return false
    else
      observed (observe "auth_attempt"
        (("PostgreSQL password received for user " : Text) ++ username) passwordBody)
      match cstring passwordBody with
      | none => Talk.breakOff
      | some password =>
        if !credentialsMatch config username password then
          writeAll (errorResponse "28P01" "password authentication failed")
          return false
        else if !databaseExists config database then
          writeAll (errorResponse "3D000"
            (("database \"" : Text) ++ database ++ ("\" does not exist" : Text)))
          return false
        else return true

/-- The first part of a session, up to the point where the client is let in or not. -/
def authenticate (config : SimDatabaseConfig) (observe : Observer) : ByteSession Bool := do
  let startup ← readStartup
  if startup.take 4 ≠ PROTOCOL_VERSION_3 then
    writeAll (errorResponse "0A000" "unsupported protocol version")
    return false
  else
    observed (observe "auth_attempt" "PostgreSQL startup packet received" startup)
    let username := (startupParameter startup "user").getD []
    let database := (startupParameter startup "database").getD username
    writeAll (authenticationRequest 3)
    checkPassword config observe username database

/-! ## Queries -/

def serverVersion (config : SimDatabaseConfig) : Text :=
  config.serverVersion.getD DEFAULT_SERVER_VERSION

/-- What a client is told when it is let in. -/
def authentication (config : SimDatabaseConfig) : Bytes :=
  authenticationRequest 0 ++ parameterStatus "server_version" (serverVersion config) ++
    parameterStatus "server_encoding" "UTF8" ++ parameterStatus "client_encoding" "UTF8" ++
    parameterStatus "DateStyle" "ISO, MDY" ++
    backendMessage (ascii 'K') (beBytes 4 1 ++ beBytes 4 0x5345434c) ++ readyForQuery

/-- A result of one row with one column. -/
structure QueryResult where
  columnName : Text
  value : Text
  commandTag : Text

/-- The result of a query that is built in, or else configured. -/
def queryResult (config : SimDatabaseConfig) (query : Text) : Option QueryResult :=
  if normalizeQuery query = "show server_version" then
    some ⟨"server_version", serverVersion config, "SHOW"⟩
  else if normalizeQuery query = "select version()" then
    some ⟨"version", ("PostgreSQL " : Text) ++ serverVersion config ++
      (" on x86_64-pc-linux-gnu, compiled by SecLab simulation" : Text), "SELECT 1"⟩
  else (configuredQueryResponse config query).map fun response => ⟨"result", response, "SELECT 1"⟩

/-- `write_query_result`. -/
def resultReply (result : QueryResult) : Bytes :=
  rowDescription result.columnName ++ dataRow result.value ++ commandComplete result.commandTag ++
    readyForQuery

def queryReply (config : SimDatabaseConfig) (query : Text) : Bytes :=
  match queryResult config query with
  | some result => resultReply result
  | none =>
    if (trim query).isEmpty then backendMessage (ascii 'I') [] ++ readyForQuery
    else errorResponse "0A000" "query is not supported by SecLab simulation" ++ readyForQuery

/-- Answer a message; a Terminate ends the session. -/
def handleMessage (config : SimDatabaseConfig) (observe : Observer) (kind : UInt8) (body : Bytes) :
    ByteSession (Unit ⊕ Unit) :=
  if kind = ascii 'X' then return .inr ()
  else if kind = ascii 'Q' then
    match cstring body with
    | none => Talk.breakOff
    | some query => do
      observed (observe "query" (("PostgreSQL query received: " : Text) ++ query) body)
      writeAll (queryReply config query)
      return .inl ()
  else do
    writeAll (errorResponse "0A000"
      "extended query protocol is not supported by SecLab simulation" ++ readyForQuery)
    return .inl ()

/-- The messages of a client that was let in. -/
def serveMessages (config : SimDatabaseConfig) (observe : Observer) : ByteSession Unit :=
  Talk.forEach (fun _ kind => do
    let body ← readFrontendBody
    handleMessage config observe kind body) id ()

def serveSession (config : SimDatabaseConfig) (observe : Observer) : ByteSession Unit := do
  if ← authenticate config observe then
    writeAll (authentication config)
    serveMessages config observe
  else return ()

/-- `handle`: every event of a connection is reported. -/
def handlePostgresql (context : DatabaseContext) (peer : SocketAddr) : ByteSession Unit := do
  observed (reportDatabase context peer "connection" "PostgreSQL client connected" [])
  serveSession context.config (reportDatabase context peer)

end ProtocolSimulation.Engine.Postgresql
