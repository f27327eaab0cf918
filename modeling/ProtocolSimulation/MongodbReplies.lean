import ProtocolSimulation.Bson
import ProtocolSimulation.Mongodb

/-!
# MongoDB messages and what they carry

The fields of each reply, and a reader of messages: the header, which has the
length of the whole message, the envelope that belongs to the opcode, and one
document up to the end.
-/
namespace ProtocolSimulation.Engine.Mongodb

open ProtocolSimulation.Texts ProtocolSimulation.BigEndian ProtocolSimulation.Framing
open ProtocolSimulation.Bson

/-! ## The fields of the replies -/

def helloFields (config : SimMongodbConfig) : List Field :=
  [("isWritablePrimary", .boolean true), ("ismaster", .boolean true),
    ("me", .string (hostname config ++ (":27017" : Text))), ("minWireVersion", .int32 0),
    ("maxWireVersion", .int32 (config.maxWireVersion.getD 21)),
    ("maxBsonObjectSize", .int32 16777216), ("ok", .double ONE)]

def buildinfoFields (config : SimMongodbConfig) : List Field :=
  [("version", .string (version config)), ("gitVersion", .string "seclab-protocol-simulation"),
    ("bits", .int32 64), ("ok", .double ONE)]

def connectionsFields : List Field :=
  [("current", .int32 1), ("available", .int32 1023), ("totalCreated", .int64 1)]

def serverstatusFields (config : SimMongodbConfig) : List Field :=
  [("host", .string (hostname config)), ("version", .string (version config)),
    ("process", .string "mongod"), ("pid", .int64 1), ("uptime", .int64 3600),
    ("uptimeMillis", .int64 3600000), ("connections", .document connectionsFields),
    ("ok", .double ONE)]

def unknownFields : List Field :=
  [("ok", .double ZERO), ("errmsg", .string "no such command in protocol simulation"),
    ("code", .int32 59)]

def responseFields (command : Text) (config : SimMongodbConfig) : List Field :=
  if command = "hello" ∨ command = "ismaster" then helloFields config
  else if command = "buildinfo" then buildinfoFields config
  else if command = "serverstatus" then serverstatusFields config
  else unknownFields

/-! ## Messages -/

inductive Envelope where
  | reply (flags : Int32) (cursor : Int64) (startingFrom numberReturned : Int32)
  | msg (flags : Int32) (sectionKind : UInt8)

structure Message where
  requestId : Int32
  responseTo : Int32
  opcode : Int32
  envelope : Envelope
  document : List Field

def readEnvelope (opcode : Int32) : Reader UInt8 Envelope := fun input =>
  if opcode = OP_REPLY then do
    let (flags, rest) ← readInt32 input
    let (cursor, rest) ← readInt64 rest
    let (startingFrom, rest) ← readInt32 rest
    let (numberReturned, rest) ← readInt32 rest
    return (.reply flags cursor startingFrom numberReturned, rest)
  else if opcode = OP_MSG then do
    let (flags, rest) ← readInt32 input
    let (kind, rest) ← readBytes 1 rest
    return (.msg flags (kind.head?.getD 0), rest)
  else none

/-- The message that the input is, if its length is that of the input and its document ends with
it. -/
def readMessage (input : Bytes) : Option Message := do
  let (length, rest) ← readInt32 input
  if length.toInt = input.length then do
    let (requestId, rest) ← readInt32 rest
    let (responseTo, rest) ← readInt32 rest
    let (opcode, rest) ← readInt32 rest
    let (envelope, rest) ← readEnvelope opcode rest
    let document ← decode rest
    return { requestId, responseTo, opcode, envelope, document }
  else none

/-! ## What is built is what is written of the fields -/

theorem i32Bytes_eq (n : Int32) : i32Bytes n = writeInt32 n := rfl

theorem lengthBytes_of_lt {length : ℕ} (h : length < 2147483648) :
    lengthBytes length = some (leBytes 4 length) := if_pos h

/-- Appending an element is writing a field. -/
theorem bsonKey_append (doc : Bytes) (key : Text) (value : Value) :
    bsonKey doc value.kind key ++ writeValue value = doc ++ writeField (key, value) := by
  simp [bsonKey, writeField]

section Elements

variable (doc : Bytes) (key : Text)

theorem bsonBool_eq (b : Bool) : bsonBool doc key b = doc ++ writeField (key, .boolean b) :=
  bsonKey_append doc key (.boolean b)

theorem bsonI32_eq (n : Int32) : bsonI32 doc key n = doc ++ writeField (key, .int32 n) :=
  bsonKey_append doc key (.int32 n)

theorem bsonI64_eq (n : Int64) : bsonI64 doc key n = doc ++ writeField (key, .int64 n) :=
  bsonKey_append doc key (.int64 n)

theorem bsonDouble_eq (bits : UInt64) :
    bsonDouble doc key bits = doc ++ writeField (key, .double bits) :=
  bsonKey_append doc key (.double bits)

theorem bsonNested_eq (fields : List Field) :
    bsonNested doc key (writeDocument fields) = doc ++ writeField (key, .document fields) :=
  bsonKey_append doc key (.document fields)

theorem bsonString_eq {text : Text} (h : byteLen text + 1 < 2147483648) :
    bsonString doc key text = some (doc ++ writeField (key, .string text)) := by
  rw [bsonString, lengthBytes_of_lt h, ← bsonKey_append]
  simp [writeValue, Value.kind]

end Elements

/-- A document is written if what is built in it is. -/
theorem bsonDocument_eq {build : Bytes → Option Bytes} {fields : List Field}
    (hbuild : build [0, 0, 0, 0] = some ([0, 0, 0, 0] ++ writeFields fields))
    (hlength : (writeDocument fields).length < 2147483648) :
    bsonDocument build = some (writeDocument fields) := by
  rw [writeDocument, enclose_length] at hlength
  have hsize : ([0, 0, 0, 0] ++ writeFields fields ++ [0] : Bytes).length =
      (writeFields fields).length + 5 := by
    simp
  rw [bsonDocument, hbuild, Option.bind_eq_bind, Option.bind_some]
  dsimp only
  rw [hsize, lengthBytes_of_lt hlength]
  simp [writeDocument, enclose]

/-- A text in a document is shorter than it. -/
theorem string_lt_of_mem {fields : List Field} (key : Text) {text : Text}
    (hlength : (writeDocument fields).length < 2147483648)
    (h : (key, Value.string text) ∈ fields) : byteLen text + 1 < 2147483648 := by
  obtain ⟨before, after, rfl⟩ := List.append_of_mem h
  have htext : byteLen text + 1 ≤ (writeField (key, .string text)).length := by
    simp [writeField, writeValue, byteLen]
    omega
  rw [writeDocument, enclose_length, writeFields_eq, List.flatMap_append, List.flatMap_cons,
    List.length_append, List.length_append] at hlength
  omega

/-- A document fits if its keys are keys and the documents in it fit. -/
theorem fits_document {depth : ℕ} {fields : List Field}
    (hlength : (writeDocument fields).length < 2147483648)
    (hkeys : (fields.map Prod.fst).all (fun key => !(utf8Encode key).contains 0) = true)
    (hnested : ∀ key nested, (key, Value.document nested) ∈ fields →
      Fits depth (.document nested)) : Fits (depth + 1) (.document fields) := by
  use hlength
  rintro ⟨key, value⟩ hfield
  constructor
  · have hkey := List.all_eq_true.mp hkeys key (List.mem_map_of_mem hfield)
    simpa using hkey
  · cases value with
    | string text =>
      have htext := string_lt_of_mem key hlength hfield
      cases depth <;> exact htext
    | document nested => exact hnested key nested hfield
    | _ => cases depth <;> trivial

section Documents

variable {config : SimMongodbConfig}

theorem helloDocument_eq (h : (writeDocument (helloFields config)).length < 2147483648) :
    helloDocument config = some (writeDocument (helloFields config)) := by
  have hme : byteLen (hostname config ++ (":27017" : Text)) + 1 < 2147483648 :=
    string_lt_of_mem "me" h (by simp [helloFields])
  apply bsonDocument_eq ?_ h
  simp only [bsonBool_eq, bsonI32_eq, bsonDouble_eq, bsonString_eq _ _ hme]
  simp [helloFields, writeFields]

theorem buildinfoDocument_eq (h : (writeDocument (buildinfoFields config)).length < 2147483648) :
    buildinfoDocument config = some (writeDocument (buildinfoFields config)) := by
  have hversion : byteLen (version config) + 1 < 2147483648 :=
    string_lt_of_mem "version" h (by simp [buildinfoFields])
  have hgit : byteLen "seclab-protocol-simulation" + 1 < 2147483648 := by decide +kernel
  apply bsonDocument_eq ?_ h
  simp only [bsonI32_eq, bsonDouble_eq, bsonString_eq _ _ hversion, bsonString_eq _ _ hgit]
  simp [buildinfoFields, writeFields]

theorem connections_length : (writeDocument connectionsFields).length < 2147483648 := by
  decide +kernel

theorem connectionsDocument_eq :
    connectionsDocument = some (writeDocument connectionsFields) := by
  apply bsonDocument_eq ?_ connections_length
  simp only [bsonI32_eq, bsonI64_eq]
  simp [connectionsFields, writeFields]

theorem serverstatusDocument_eq
    (h : (writeDocument (serverstatusFields config)).length < 2147483648) :
    serverstatusDocument config = some (writeDocument (serverstatusFields config)) := by
  have hhost : byteLen (hostname config) + 1 < 2147483648 :=
    string_lt_of_mem "host" h (by simp [serverstatusFields])
  have hversion : byteLen (version config) + 1 < 2147483648 :=
    string_lt_of_mem "version" h (by simp [serverstatusFields])
  have hprocess : byteLen "mongod" + 1 < 2147483648 := by decide +kernel
  apply bsonDocument_eq ?_ h
  simp only [bsonI64_eq, bsonDouble_eq, connectionsDocument_eq, bsonString_eq _ _ hhost,
    bsonString_eq _ _ hversion, bsonString_eq _ _ hprocess, Option.bind_eq_bind, Option.bind_some,
    bsonNested_eq]
  simp [serverstatusFields, writeFields]

theorem unknown_length : (writeDocument unknownFields).length < 2147483648 := by
  decide +kernel

theorem unknownDocument_eq : unknownDocument = some (writeDocument unknownFields) := by
  have hmessage : byteLen "no such command in protocol simulation" + 1 < 2147483648 := by
    decide +kernel
  apply bsonDocument_eq ?_ unknown_length
  simp only [bsonI32_eq, bsonDouble_eq, bsonString_eq _ _ hmessage]
  simp [unknownFields, writeFields]

end Documents

theorem responseDocument_eq {command : Text} {config : SimMongodbConfig}
    (h : (writeDocument (responseFields command config)).length < 2147483648) :
    responseDocument command config = some (writeDocument (responseFields command config)) := by
  unfold responseDocument
  unfold responseFields at h ⊢
  split_ifs at h ⊢
  · exact helloDocument_eq h
  · exact buildinfoDocument_eq h
  · exact serverstatusDocument_eq h
  · exact unknownDocument_eq

/-- What is written of the fields of a reply is decoded. -/
theorem decode_responseFields {command : Text} {config : SimMongodbConfig}
    (h : (writeDocument (responseFields command config)).length < 2147483648) :
    decode (writeDocument (responseFields command config)) =
      some (responseFields command config) := by
  apply decode_writeDocument
  obtain ⟨depth, hdepth⟩ : ∃ depth,
      (writeDocument (responseFields command config)).length = depth + 2 := by
    rw [writeDocument, enclose_length]
    exact ⟨_, rfl⟩
  rw [hdepth]
  clear hdepth
  unfold responseFields at h ⊢
  split_ifs at h ⊢
  · exact fits_document h rfl (by simp [helloFields])
  · exact fits_document h rfl (by simp [buildinfoFields])
  · apply fits_document h rfl
    intro key nested hmem
    obtain ⟨-, rfl⟩ : key = "connections" ∧ nested = connectionsFields := by
      simpa [serverstatusFields] using hmem
    exact fits_document connections_length rfl (by simp [connectionsFields])
  · exact fits_document h rfl (by simp [unknownFields])

/-! ## What a client reads -/

/-- The number of bytes of the response. -/
def messageSize (request : Request) (config : SimMongodbConfig) : ℕ :=
  16 + (if request.opcode = OP_QUERY then 20 else 5) +
    (writeDocument (responseFields request.command config)).length

/-- A message that answers a request: the header, the envelope and the document. -/
def messageBytes (responseTo opcode : Int32) (head document : Bytes) : Bytes :=
  leBytes 4 (16 + (head.length + document.length)) ++ i32Bytes 1 ++ i32Bytes responseTo ++
    i32Bytes opcode ++ (head ++ document)

/-- The envelope of a reply to OP_QUERY. -/
def replyHead : Bytes := i32Bytes 0 ++ i64Bytes 0 ++ i32Bytes 0 ++ i32Bytes 1

/-- The envelope of a reply to OP_MSG. -/
def msgHead : Bytes := leBytes 4 0 ++ [0]

section Message

variable {responseTo opcode : Int32} {head document : Bytes}

theorem messageBytes_length : (messageBytes responseTo opcode head document).length =
    16 + (head.length + document.length) := by
  simp only [messageBytes, List.length_append, leBytes_length, i32Bytes]

theorem readMessage_messageBytes {envelope : Envelope} {fields : List Field}
    (hlength : 16 + (head.length + document.length) < 2147483648)
    (henvelope : readEnvelope opcode (head ++ document) = some (envelope, document))
    (hdocument : decode document = some fields) :
    readMessage (messageBytes responseTo opcode head document) =
      some { requestId := 1, responseTo, opcode, envelope, document := fields } := by
  have hint : (Int32.ofNat (16 + (head.length + document.length))).toInt =
      (16 + (head.length + document.length) : ℕ) := Int32.toInt_ofNat_of_lt hlength
  rw [readMessage, messageBytes_length, messageBytes, (writeInt32_ofNat hlength).1, i32Bytes_eq,
    i32Bytes_eq, i32Bytes_eq]
  simp only [List.append_assoc]
  apply (read_bind (readInt32_append _ _)).trans
  dsimp only
  rw [if_pos hint]
  apply (read_bind (readInt32_append _ _)).trans
  apply (read_bind (readInt32_append _ _)).trans
  apply (read_bind (readInt32_append _ _)).trans
  apply (read_bind henvelope).trans
  exact read_bind hdocument

variable {request : Request} {config : SimMongodbConfig}

theorem buildResponse_query (hquery : request.opcode = OP_QUERY)
    (hdocument : responseDocument request.command config = some document)
    (hlength : 16 + (replyHead.length + document.length) < 2147483648) :
    buildResponse request config =
      some (messageBytes request.requestId OP_REPLY replyHead document) := by
  have hbody : (replyHead ++ document).length = replyHead.length + document.length :=
    List.length_append
  rw [← hbody] at hlength
  rw [buildResponse, hdocument, Option.bind_eq_bind, Option.bind_some, if_pos hquery]
  rw [messageBytes, ← hbody]
  exact read_bind (lengthBytes_of_lt hlength)

theorem buildResponse_msg (hquery : request.opcode ≠ OP_QUERY)
    (hdocument : responseDocument request.command config = some document)
    (hlength : 16 + (msgHead.length + document.length) < 2147483648) :
    buildResponse request config =
      some (messageBytes request.requestId OP_MSG msgHead document) := by
  have hbody : (msgHead ++ document).length = msgHead.length + document.length :=
    List.length_append
  rw [← hbody] at hlength
  rw [buildResponse, hdocument, Option.bind_eq_bind, Option.bind_some, if_neg hquery]
  rw [messageBytes, ← hbody]
  exact read_bind (lengthBytes_of_lt hlength)

end Message

/-- The response is one message: it answers the request in the envelope that belongs to its
opcode, with the fields of the reply. -/
theorem buildResponse_read (request : Request) (config : SimMongodbConfig)
    (hopcode : request.opcode = OP_QUERY ∨ request.opcode = OP_MSG)
    (hsize : messageSize request config < 2147483648) :
    ∃ response, buildResponse request config = some response ∧
      response.length = messageSize request config ∧
      (request.opcode = OP_QUERY → readMessage response = some
        { requestId := 1, responseTo := request.requestId, opcode := OP_REPLY,
          envelope := .reply 0 0 0 1, document := responseFields request.command config }) ∧
      (request.opcode = OP_MSG → readMessage response = some
        { requestId := 1, responseTo := request.requestId, opcode := OP_MSG,
          envelope := .msg 0 0, document := responseFields request.command config }) := by
  have hlength : (writeDocument (responseFields request.command config)).length < 2147483648 := by
    unfold messageSize at hsize
    omega
  have hdocument := responseDocument_eq hlength
  have hdecoded := decode_responseFields hlength
  rw [messageSize] at hsize ⊢
  generalize writeDocument (responseFields request.command config) = document at *
  have hne : OP_QUERY ≠ OP_MSG := by decide
  have hreply : replyHead.length = 20 := rfl
  have hmsg : msgHead.length = 5 := rfl
  obtain hquery | hother := hopcode
  · have hother : request.opcode ≠ OP_MSG := by
      rw [hquery]
      exact hne
    rw [if_pos hquery] at hsize ⊢
    have hfits : 16 + (replyHead.length + document.length) < 2147483648 := by omega
    have hread : readEnvelope OP_REPLY (replyHead ++ document) =
        some (.reply 0 0 0 1, document) := rfl
    refine ⟨_, buildResponse_query hquery hdocument hfits, ?_, ?_, fun h => absurd h hother⟩
    · rw [messageBytes_length]
      omega
    · intro _
      exact readMessage_messageBytes hfits hread hdecoded
  · have hquery : request.opcode ≠ OP_QUERY := by
      rw [hother]
      exact hne.symm
    rw [if_neg hquery] at hsize ⊢
    have hfits : 16 + (msgHead.length + document.length) < 2147483648 := by omega
    have hread : readEnvelope OP_MSG (msgHead ++ document) = some (.msg 0 0, document) := rfl
    refine ⟨_, buildResponse_msg hquery hdocument hfits, ?_, fun h => absurd h hquery, ?_⟩
    · rw [messageBytes_length]
      omega
    · intro _
      exact readMessage_messageBytes hfits hread hdecoded

/-- A request for the state of the server. -/
def statusRequest : Request := ⟨42, OP_MSG, "serverstatus"⟩

theorem statusRequest_read :
    ∃ response, buildResponse statusRequest ⟨none, none, none⟩ = some response ∧
      readMessage response = some
        { requestId := 1, responseTo := 42, opcode := OP_MSG, envelope := .msg 0 0,
          document := serverstatusFields ⟨none, none, none⟩ } := by
  obtain ⟨response, hbuilt, -, -, hread⟩ := buildResponse_read statusRequest ⟨none, none, none⟩
    (.inr rfl) (by decide +kernel)
  exact ⟨response, hbuilt, hread rfl⟩

end ProtocolSimulation.Engine.Mongodb
