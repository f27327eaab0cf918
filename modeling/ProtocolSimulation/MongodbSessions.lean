import ProtocolSimulation.MongodbReplies

/-!
# What a MongoDB client reads

A client sends messages one after the other and takes the bytes that come back apart
by their lengths. Each of its first sixteen messages has one reply, up to the first
message that the simulation does not take.
-/
namespace ProtocolSimulation.Engine.Mongodb

open ProtocolSimulation.Texts ProtocolSimulation.Conversations ProtocolSimulation.BigEndian
open ProtocolSimulation.Framing ProtocolSimulation.Bson

/-! ## Requests -/

/-- A message of a client. -/
structure ClientMessage where
  requestId : Int32
  responseTo : Int32
  opcode : Int32
  body : Bytes
  fits : 16 + body.length < 2147483648

def ClientMessage.header (m : ClientMessage) : Bytes :=
  leBytes 4 (16 + m.body.length) ++ i32Bytes m.requestId ++ i32Bytes m.responseTo ++
    i32Bytes m.opcode

def ClientMessage.bytes (m : ClientMessage) : Bytes := m.header ++ m.body

def ClientMessage.request (m : ClientMessage) : Request :=
  ⟨m.requestId, m.opcode, detectCommand m.body⟩

/-- The simulation takes the message: it is not too long, and of a kind it knows. -/
def ClientMessage.taken (m : ClientMessage) : Bool :=
  16 + m.body.length ≤ MAX_MESSAGE_SIZE && (m.opcode == OP_QUERY || m.opcode == OP_MSG)

/-- The messages that are answered. -/
def served (messages : List ClientMessage) : List ClientMessage :=
  (messages.takeWhile ClientMessage.taken).take MAX_REQUESTS_PER_CONNECTION

theorem readI32Le_append {before : Bytes} {offset : ℕ} (hbefore : before.length = offset)
    (n : Int32) (after : Bytes) : readI32Le (before ++ (i32Bytes n ++ after)) offset = some n := by
  have hfour : (i32Bytes n).length = 4 := leBytes_length _ _
  have hvalue : (UInt32.ofNat (leValue (i32Bytes n))).toInt32 = n := by
    rw [i32Bytes, leValue_leBytes_of_lt n.toUInt32.toNat_lt, UInt32.ofNat_toNat,
      Int32.toInt32_toUInt32]
  rw [readI32Le, List.drop_left' hbefore, List.take_left' hfour, hvalue, if_pos]
  simp only [List.length_append, hfour]
  omega

theorem header_length (m : ClientMessage) : m.header.length = 16 := by
  simp [ClientMessage.header, i32Bytes]

theorem readI32Le_header (m : ClientMessage) :
    readI32Le m.header 0 = some (Int32.ofNat (16 + m.body.length)) ∧
    readI32Le m.header 4 = some m.requestId ∧ readI32Le m.header 12 = some m.opcode := by
  have hlength := (writeInt32_ofNat m.fits).1
  have hfour : ∀ n : Int32, (i32Bytes n).length = 4 := fun n => leBytes_length _ _
  rw [← i32Bytes_eq] at hlength
  rw [ClientMessage.header, hlength]
  refine ⟨?_, ?_, ?_⟩
  · have hread := @readI32Le_append [] 0 rfl (Int32.ofNat (16 + m.body.length))
      (i32Bytes m.requestId ++ i32Bytes m.responseTo ++ i32Bytes m.opcode)
    simpa using hread
  · have hread := @readI32Le_append (i32Bytes (Int32.ofNat (16 + m.body.length))) 4 (hfour _)
      m.requestId (i32Bytes m.responseTo ++ i32Bytes m.opcode)
    simpa using hread
  · have hread := @readI32Le_append (i32Bytes (Int32.ofNat (16 + m.body.length)) ++
      i32Bytes m.requestId ++ i32Bytes m.responseTo) 12 (by simp [hfour]) m.opcode []
    simpa using hread

/-- A message is read as its request, or the session breaks off. -/
theorem run_readRequest (m : ClientMessage) (rest : Bytes) :
    readRequest.run (m.bytes ++ rest) =
      ([], if m.taken then some (some m.request, rest) else none) := by
  obtain ⟨hlength, hid, hopcode⟩ := readI32Le_header m
  have hint : (Int32.ofNat (16 + m.body.length)).toInt = (16 + m.body.length : ℕ) :=
    Int32.toInt_ofNat_of_lt m.fits
  have hbody : ((16 + m.body.length : ℕ) : ℤ).toNat - 16 = m.body.length := by omega
  rw [ClientMessage.bytes, List.append_assoc, readRequest, Talk.run_bind,
    Talk.run_takeExactly_append (header_length m)]
  simp only [hlength, hid, hopcode, Option.getD_some, hint, hbody]
  by_cases hlong : 16 + m.body.length ≤ MAX_MESSAGE_SIZE
  · have hin : ¬(((16 + m.body.length : ℕ) : ℤ) < 16 ∨
        (MAX_MESSAGE_SIZE : ℤ) < ((16 + m.body.length : ℕ) : ℤ)) := by omega
    rw [if_neg hin, Talk.run_bind, run_readExact rfl]
    dsimp only
    by_cases hkind : m.opcode = OP_QUERY ∨ m.opcode = OP_MSG
    · have htaken : m.taken = true := by simp [ClientMessage.taken, hlong, hkind]
      rw [if_pos hkind, htaken]
      rfl
    · have htaken : m.taken = false := by simpa [ClientMessage.taken, hlong] using hkind
      rw [if_neg hkind, htaken]
      rfl
  · have hout : ((16 + m.body.length : ℕ) : ℤ) < 16 ∨
        (MAX_MESSAGE_SIZE : ℤ) < ((16 + m.body.length : ℕ) : ℤ) := by omega
    have htaken : m.taken = false := by simp [ClientMessage.taken, hlong]
    rw [if_pos hout, htaken]
    rfl

/-! ## Replies -/

/-- A message of the server: it is as long as its first number says. -/
def readFrame : Reader UInt8 Message := fun input =>
  let length := leValue (input.take 4)
  if length < 4 ∨ input.length < length then none
  else do
    let message ← readMessage (input.take length)
    return (message, input.drop length)

/-- The message that answers a request. -/
def replyMessage (config : SimMongodbConfig) (request : Request) : Message where
  requestId := 1
  responseTo := request.requestId
  opcode := if request.opcode = OP_QUERY then OP_REPLY else OP_MSG
  envelope := if request.opcode = OP_QUERY then .reply 0 0 0 1 else .msg 0 0
  document := responseFields request.command config

/-- What was written of a message is read back from the front of a stream. -/
theorem readFrame_messageBytes {responseTo opcode : Int32} {head document : Bytes}
    {message : Message} (hlength : 16 + (head.length + document.length) < 2147483648)
    (hread : readMessage (messageBytes responseTo opcode head document) = some message)
    (rest : Bytes) :
    readFrame (messageBytes responseTo opcode head document ++ rest) = some (message, rest) := by
  have hsize : (messageBytes responseTo opcode head document).length =
    16 + (head.length + document.length) := messageBytes_length
  have hvalue : leValue ((messageBytes responseTo opcode head document ++ rest).take 4) =
      16 + (head.length + document.length) := by
    rw [messageBytes]
    simp only [List.append_assoc]
    rw [List.take_left' (leBytes_length 4 _)]
    exact leValue_leBytes_of_lt (by omega)
  rw [readFrame, hvalue, if_neg (by rw [List.length_append]; omega),
    List.take_left' hsize, List.drop_left' hsize, hread]
  rfl

/-- A request whose response is not too long gets one message, which answers it. -/
theorem buildResponse_reply {request : Request} {config : SimMongodbConfig}
    (hsize : messageSize request config < 2147483648) :
    ∃ response, buildResponse request config = some response ∧ response ≠ [] ∧
      ∀ rest, readFrame (response ++ rest) = some (replyMessage config request, rest) := by
  have hlength : (writeDocument (responseFields request.command config)).length < 2147483648 := by
    unfold messageSize at hsize
    omega
  have hdocument := responseDocument_eq hlength
  have hdecoded := decode_responseFields hlength
  rw [messageSize] at hsize
  rw [replyMessage]
  generalize writeDocument (responseFields request.command config) = document at *
  have hnonempty : ∀ responseTo opcode head, messageBytes responseTo opcode head document ≠ [] := by
    intro responseTo opcode head hnil
    have hzero := congrArg List.length hnil
    rw [messageBytes_length, List.length_nil] at hzero
    omega
  by_cases hquery : request.opcode = OP_QUERY
  · rw [if_pos hquery] at hsize
    have hfits : 16 + (replyHead.length + document.length) < 2147483648 := by
      have hreply : replyHead.length = 20 := rfl
      omega
    have hread : readEnvelope OP_REPLY (replyHead ++ document) =
        some (.reply 0 0 0 1, document) := rfl
    refine ⟨_, buildResponse_query hquery hdocument hfits, hnonempty _ _ _, ?_⟩
    rw [if_pos hquery, if_pos hquery]
    exact readFrame_messageBytes hfits (readMessage_messageBytes hfits hread hdecoded)
  · rw [if_neg hquery] at hsize
    have hfits : 16 + (msgHead.length + document.length) < 2147483648 := by
      have hmsg : msgHead.length = 5 := rfl
      omega
    have hread : readEnvelope OP_MSG (msgHead ++ document) = some (.msg 0 0, document) := rfl
    refine ⟨_, buildResponse_msg hquery hdocument hfits, hnonempty _ _ _, ?_⟩
    rw [if_neg hquery, if_neg hquery]
    exact readFrame_messageBytes hfits (readMessage_messageBytes hfits hread hdecoded)

/-! ## Sessions -/

/-- Every response of the simulation can be written. -/
def ResponsesFit (config : SimMongodbConfig) : Prop :=
  ∀ request, messageSize request config < 2147483648

/-- The bytes that answer a message. -/
def response (config : SimMongodbConfig) (m : ClientMessage) : Bytes :=
  (buildResponse m.request config).getD []

/-- What is written for a message is read back as the message that answers it. -/
theorem readsBack_response {config : SimMongodbConfig} (hfits : ResponsesFit config)
    (m : ClientMessage) : response config m ≠ [] ∧ ∀ rest, readFrame (response config m ++ rest) =
      some (replyMessage config m.request, rest) := by
  obtain ⟨bytes, hbuilt, hne, hread⟩ := buildResponse_reply (hfits m.request)
  rw [response, hbuilt, Option.getD_some]
  exact ⟨hne, hread⟩

/-- The next messages are answered one after the other, each before it is reported. -/
theorem run_serveRequests {ctx : Context} (peer : SocketAddr) (hfits : ResponsesFit ctx.config)
    (n : ℕ) (messages : List ClientMessage) :
    ((serveRequests ctx peer n).run (messages.flatMap ClientMessage.bytes)).1 =
      ((messages.takeWhile ClientMessage.taken).take n).flatMap fun m =>
        [.wrote (response ctx.config m), .reported (mongodbLog ctx peer m.request)] := by
  induction n generalizing messages with
  | zero => simp [serveRequests]
  | succ n ih =>
    cases messages with
    | nil => rfl
    | cons m messages =>
      rw [List.flatMap_cons, serveRequests, Talk.run_bind, run_readRequest, List.takeWhile_cons]
      cases htaken : m.taken with
      | false => rfl
      | true =>
        obtain ⟨bytes, hbuilt, _, _⟩ := buildResponse_reply (hfits m.request)
        have hresponse : response ctx.config m = bytes := by
          rw [response, hbuilt, Option.getD_some]
        simp only [if_pos, hbuilt]
        rw [writeAll, Talk.run_bind, Talk.run_emit]
        dsimp only
        rw [observed, Talk.run_bind, Talk.run_emit]
        dsimp only
        rw [ih, List.take_succ_cons, List.flatMap_cons, hresponse]
        rfl

/-- Whatever messages a client sends, it reads one whole message after the other, and these answer
its first sixteen in order, up to one that is not taken. Each of these is reported. -/
theorem handle_answers {ctx : Context} (peer : SocketAddr) (hfits : ResponsesFit ctx.config)
    (messages : List ClientMessage) :
    readAll readFrame (written ((handle ctx peer).run
      (messages.flatMap ClientMessage.bytes)).1).flatten =
        some ((served messages).map fun m => replyMessage ctx.config m.request) ∧
    reports ((handle ctx peer).run (messages.flatMap ClientMessage.bytes)).1 =
      (served messages).map fun m => mongodbLog ctx peer m.request := by
  rw [handle, run_serveRequests peer hfits, ← served]
  have hwritten : (written ((served messages).flatMap fun m =>
      [.wrote (response ctx.config m), .reported (mongodbLog ctx peer m.request)])).flatten =
      (served messages).flatMap (response ctx.config) := by
    induction served messages with
    | nil => rfl
    | cons m rest ih =>
      rw [List.flatMap_cons, List.flatMap_cons, written_append, List.flatten_append, ih]
      simp
  refine ⟨?_, ?_⟩
  · rw [hwritten]
    exact readAll_flatMap_map fun m _ => readsBack_response hfits m
  · induction served messages with
    | nil => rfl
    | cons m rest ih => rw [List.flatMap_cons, List.map_cons, ← ih]; rfl

theorem responsesFit_default : ResponsesFit ⟨none, none, none⟩ := by
  intro request
  have hdocument : (writeDocument (responseFields request.command ⟨none, none, none⟩)).length <
      2147480000 := by
    rw [responseFields]
    split
    next => decide +kernel
    next =>
      split
      next => decide +kernel
      next =>
        split
        next => decide +kernel
        next => decide +kernel
  rw [messageSize]
  split
  next => omega
  next => omega

def isMaster : ClientMessage := ⟨7, 0, OP_QUERY, utf8Encode "isMaster", by decide⟩

/-- A message of a kind that ends the session. -/
def legacyReply : ClientMessage := ⟨8, 0, OP_REPLY, [], by decide⟩

/-- The context of a rule without a behaviour of its own. -/
def plainRule : Context := ⟨"rule", "node", 27017, ⟨none, none, none⟩⟩

theorem isMaster_answered :
    readAll readFrame (written ((handle plainRule ⟨"192.0.2.1", 40000⟩).run
      ([isMaster, legacyReply, isMaster].flatMap ClientMessage.bytes)).1).flatten =
        some [replyMessage plainRule.config ⟨7, OP_QUERY, "ismaster"⟩] := by
  have hserved : served [isMaster, legacyReply, isMaster] = [isMaster] := by
    have hfirst : isMaster.taken = true := by decide
    have hsecond : legacyReply.taken = false := by decide
    simp [served, hfirst, hsecond, MAX_REQUESTS_PER_CONNECTION]
  have hcommand : detectCommand (utf8Encode "isMaster") = "ismaster" := by decide +kernel
  rw [(@handle_answers plainRule ⟨"192.0.2.1", 40000⟩ responsesFit_default
    [isMaster, legacyReply, isMaster]).1, hserved, List.map_singleton, ClientMessage.request,
    isMaster, hcommand]

end ProtocolSimulation.Engine.Mongodb
