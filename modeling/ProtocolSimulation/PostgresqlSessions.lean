import ProtocolSimulation.Framing
import ProtocolSimulation.Postgresql

/-!
# What a PostgreSQL client reads

A client takes the bytes of the server apart into messages. After its login it
gets a block of messages for each message it sends, and a block ends with the
one `ReadyForQuery` in it.
-/
namespace ProtocolSimulation.Engine.Postgresql

open ProtocolSimulation.Texts ProtocolSimulation.Conversations ProtocolSimulation.BigEndian
open ProtocolSimulation.Framing

/-! ## Reading messages -/

structure BackendMessage where
  kind : UInt8
  body : Bytes

def BackendMessage.bytes (message : BackendMessage) : Bytes :=
  backendMessage message.kind message.body

/-- A message of the server: its kind, a length and as many bytes. -/
def readMessage : Reader UInt8 BackendMessage
  | [] => none
  | kind :: input =>
    let length := beValue (input.take 4)
    if input.length < 4 ∨ length < 4 ∨ input.length < length then none
    else some (⟨kind, (input.take length).drop 4⟩, input.drop length)

/-- The length of the message can be written. -/
def BackendMessage.Fits (message : BackendMessage) : Prop := message.body.length + 4 < 2 ^ 32

instance BackendMessage.decidableFits (message : BackendMessage) : Decidable message.Fits :=
  inferInstanceAs (Decidable (_ < _))

theorem readsBack_bytes {message : BackendMessage} (h : message.Fits) :
    ReadsBack readMessage BackendMessage.bytes message := by
  obtain ⟨kind, body⟩ := message
  have hlength : body.length + 4 < 2 ^ 32 := h
  constructor
  · simp [BackendMessage.bytes, backendMessage]
  · intro rest
    have hinput : BackendMessage.bytes ⟨kind, body⟩ ++ rest =
        kind :: (beBytes 4 (body.length + 4) ++ (body ++ rest)) := by
      simp [BackendMessage.bytes, backendMessage]
    have hfour : (beBytes 4 (body.length + 4)).length = 4 := beBytes_length _ _
    have htake : (beBytes 4 (body.length + 4) ++ (body ++ rest)).take 4 =
        beBytes 4 (body.length + 4) := List.take_left' hfour
    have hvalue : beValue (beBytes 4 (body.length + 4)) = body.length + 4 := by
      rw [beValue_beBytes]
      exact Nat.mod_eq_of_lt hlength
    have hbody : ((beBytes 4 (body.length + 4) ++ (body ++ rest)).take (body.length + 4)).drop 4 =
        body := by
      rw [← List.append_assoc, List.take_left' (by simp; omega), List.drop_left' hfour]
    have hrest : (beBytes 4 (body.length + 4) ++ (body ++ rest)).drop (body.length + 4) = rest := by
      rw [← List.append_assoc, List.drop_left' (by simp; omega)]
    rw [hinput, readMessage]
    simp only [htake, hvalue, hbody, hrest]
    apply if_neg
    simp only [List.length_append, hfour]
    omega

/-- A value of a row: its length and as many bytes, or a null with the length -1. -/
def readValue : Reader UInt8 (Option Bytes)
  | input =>
    let length := beValue (input.take 4)
    if input.length < 4 then none
    else if length = 2 ^ 32 - 1 then some (none, input.drop 4)
    else if input.length < 4 + length then none
    else some (some ((input.drop 4).take length), input.drop (4 + length))

/-- The values of a row: how many there are, and one after the other. -/
def readRow (body : Bytes) : Option (List (Option Bytes)) :=
  (readAll readValue (body.drop 2)).filter fun values =>
    2 ≤ body.length ∧ values.length = beValue (body.take 2)

theorem readRow_rowBody {value : Text} (h : byteLen value < 2 ^ 32 - 1) :
    readRow (rowBody value) = some [some (utf8Encode value)] := by
  have hreads : ReadsBack readValue
      (fun v : Option Bytes => beBytes 4 (v.getD []).length ++ v.getD [])
        (some (utf8Encode value)) := by
    have hfour : (beBytes 4 (utf8Encode value).length).length = 4 := beBytes_length _ _
    have hlength : (utf8Encode value).length = byteLen value := rfl
    constructor
    · simp [beBytes]
    · intro rest
      have hvalue : beValue (beBytes 4 (utf8Encode value).length) = (utf8Encode value).length := by
        rw [beValue_beBytes]
        exact Nat.mod_eq_of_lt (by omega)
      simp only [readValue, Option.getD_some, List.append_assoc, List.take_left' hfour, hvalue,
        List.drop_left' hfour, List.take_left, List.length_append, hfour]
      rw [if_neg (by omega), if_neg (by omega), if_neg (by omega)]
      rw [← List.append_assoc, List.drop_left' (by simp)]
  have hall := readAll_flatMap fun v (hv : v ∈ [some (utf8Encode value)]) => by
    rw [List.mem_singleton.mp hv]
    exact hreads
  have hbody : (rowBody value).drop 2 = beBytes 4 (byteLen value) ++ utf8Encode value := rfl
  simp only [List.flatMap_cons, List.flatMap_nil, List.append_nil, Option.getD_some] at hall
  rw [readRow, hbody, byteLen, hall, Option.filter_some_pos]
  simp [rowBody, beBytes, beValue_cons]

/-! ## Replies as messages -/

def ready : BackendMessage := ⟨ascii 'Z', utf8Encode "I"⟩

def errorMessage (code message : Text) : BackendMessage := ⟨ascii 'E', errorBody code message⟩

def resultMessages (result : QueryResult) : List BackendMessage :=
  [⟨ascii 'T', descriptionBody result.columnName⟩, ⟨ascii 'D', rowBody result.value⟩,
    ⟨ascii 'C', utf8Encode result.commandTag ++ [0]⟩, ready]

def queryMessages (config : SimDatabaseConfig) (query : Text) : List BackendMessage :=
  match queryResult config query with
  | some result => resultMessages result
  | none =>
    if (trim query).isEmpty then [⟨ascii 'I', []⟩, ready]
    else [errorMessage "0A000" "query is not supported by SecLab simulation", ready]

theorem queryReply_eq (config : SimDatabaseConfig) (query : Text) :
    queryReply config query = (queryMessages config query).flatMap BackendMessage.bytes := by
  rw [queryReply, queryMessages]
  cases queryResult config query with
  | some result =>
    simp only [resultReply, resultMessages, List.flatMap_cons, List.flatMap_nil, List.append_nil,
      List.append_assoc]
    rfl
  | none =>
    simp only [apply_ite (List.flatMap BackendMessage.bytes), List.flatMap_cons, List.flatMap_nil,
      List.append_nil]
    rfl

/-- A message of the client. -/
structure FrontendMessage where
  kind : UInt8
  body : Bytes
  fits : body.length + 4 < 2 ^ 32

def FrontendMessage.bytes (message : FrontendMessage) : Bytes :=
  backendMessage message.kind message.body

/-- What answers a message. -/
def replyMessages (config : SimDatabaseConfig) (message : FrontendMessage) : List BackendMessage :=
  if message.kind = ascii 'Q' then queryMessages config ((cstring message.body).getD [])
  else [errorMessage "0A000" "extended query protocol is not supported by SecLab simulation", ready]

/-- The message does not end the session: it is no Terminate, and not too long. -/
def FrontendMessage.goesOn (message : FrontendMessage) : Bool :=
  message.kind != ascii 'X' && message.body.length + 4 ≤ MAX_PACKET_SIZE

/-- The messages before the one that ends the session. -/
def served (messages : List FrontendMessage) : List FrontendMessage :=
  messages.takeWhile FrontendMessage.goesOn

/-! ## The session -/

theorem run_readU32 {n : ℕ} (h : n < 2 ^ 32) (rest : Bytes) :
    readU32.run (beBytes 4 n ++ rest) = ([], some (n, rest)) := by
  have hvalue : beValue (beBytes 4 n) = n := by
    rw [beValue_beBytes]
    exact Nat.mod_eq_of_lt h
  rw [readU32, Talk.run_bind, run_readExact (beBytes_length 4 n)]
  simp [hvalue]

theorem run_readFrontendBody (message : FrontendMessage) (rest : Bytes) :
    readFrontendBody.run (beBytes 4 (message.body.length + 4) ++ message.body ++ rest) =
      if message.body.length + 4 ≤ MAX_PACKET_SIZE then ([], some (message.body, rest))
      else ([], none) := by
  rw [readFrontendBody, Talk.run_bind, List.append_assoc, run_readU32 message.fits]
  dsimp only
  by_cases h : message.body.length + 4 ≤ MAX_PACKET_SIZE
  · rw [if_pos ⟨by omega, h⟩, if_pos h, run_readExact (by omega)]
    rfl
  · rw [if_neg fun hlength => h hlength.2, if_neg h]
    rfl

/-- A query that is UTF-8 has a text. -/
theorem exists_cstring {body : Bytes} {text : Text} (h : utf8Decode body = some text) :
    ∃ query, cstring body = some query := by
  unfold cstring
  split_ifs with hlast
  · obtain ⟨front, rfl⟩ := List.getLast?_eq_some_iff.mp hlast
    rw [List.dropLast_concat]
    exact exists_utf8Decode_of_concat_zero h
  · exact ⟨text, h⟩

section Serving

variable (config : SimDatabaseConfig) (observe : Observer)

/-- One message: it is answered, unless it ends the session. -/
theorem written_serveMessages_cons {message : FrontendMessage}
    (hquery : message.kind = ascii 'Q' → ∃ text, utf8Decode message.body = some text)
    (rest : Bytes) :
    written ((serveMessages config observe).run (message.bytes ++ rest)).1 =
      if message.goesOn then
        (replyMessages config message).flatMap BackendMessage.bytes ::
          written ((serveMessages config observe).run rest).1
      else [] := by
  have hinput : message.bytes ++ rest = message.kind ::
      (beBytes 4 (message.body.length + 4) ++ message.body ++ rest) := by
    simp [FrontendMessage.bytes, backendMessage]
  rw [hinput, serveMessages, Talk.run_forEach_cons, Talk.run_bind, run_readFrontendBody]
  by_cases hlong : message.body.length + 4 ≤ MAX_PACKET_SIZE
  · rw [if_pos hlong]
    dsimp only
    by_cases hterminate : message.kind = ascii 'X'
    · have hover : message.goesOn = false := by simp [FrontendMessage.goesOn, hterminate]
      rw [hover, handleMessage, if_pos hterminate]
      rfl
    have hgoes : message.goesOn = true := by simp [FrontendMessage.goesOn, hterminate, hlong]
    rw [if_pos hgoes, handleMessage, if_neg hterminate]
    by_cases hkind : message.kind = ascii 'Q'
    · obtain ⟨text, htext⟩ := hquery hkind
      obtain ⟨query, hq⟩ := exists_cstring htext
      rw [if_pos hkind, hq, replyMessages, if_pos hkind, hq, Option.getD_some, ← queryReply_eq]
      rfl
    · have hreply : (replyMessages config message).flatMap BackendMessage.bytes =
          errorResponse "0A000" "extended query protocol is not supported by SecLab simulation" ++
            readyForQuery := by
        rw [replyMessages, if_neg hkind, List.flatMap_cons, List.flatMap_cons, List.flatMap_nil,
          List.append_nil]
        rfl
      rw [if_neg hkind, hreply]
      rfl
  · have hover : message.goesOn = false := by simp [FrontendMessage.goesOn, hlong]
    rw [if_neg hlong, hover]
    rfl

theorem written_serveMessages {messages : List FrontendMessage}
    (hqueries : ∀ message ∈ messages, message.kind = ascii 'Q' →
      ∃ text, utf8Decode message.body = some text) :
    written ((serveMessages config observe).run (messages.flatMap FrontendMessage.bytes)).1 =
      (served messages).map fun message =>
        (replyMessages config message).flatMap BackendMessage.bytes := by
  induction messages with
  | nil => rfl
  | cons message messages ih =>
    have hrest := ih fun m hm => hqueries m (List.mem_cons_of_mem message hm)
    rw [List.flatMap_cons, written_serveMessages_cons config observe
      (hqueries message List.mem_cons_self), hrest, served, served, List.takeWhile_cons]
    cases message.goesOn <;> rfl

end Serving

/-! ## Blocks -/

/-- A block ends with the one `ReadyForQuery` in it. -/
def Block (messages : List BackendMessage) : Prop :=
  ∃ front, messages = front ++ [ready] ∧ ∀ message ∈ front, message.kind ≠ ascii 'Z'

/-- If the message is a query with a result, the length of its row can be written. -/
def FrontendMessage.ShortResult (config : SimDatabaseConfig) (message : FrontendMessage) : Prop :=
  ∀ query result, message.kind = ascii 'Q' → cstring message.body = some query →
    queryResult config query = some result → byteLen result.value < 2 ^ 32 - 16

/-- The messages answer the message of the client: they are a block, and if the message is a query
with a result, they are a row with the text of the result. -/
structure Answers (config : SimDatabaseConfig) (message : FrontendMessage)
    (messages : List BackendMessage) : Prop where
  block : Block messages
  result : ∀ query result, message.kind = ascii 'Q' → cstring message.body = some query →
    queryResult config query = some result → ∃ row,
      messages = [⟨ascii 'T', descriptionBody result.columnName⟩, ⟨ascii 'D', row⟩,
        ⟨ascii 'C', utf8Encode result.commandTag ++ [0]⟩, ready] ∧
      readRow row = some [some (utf8Encode result.value)]

theorem block_pair {message : BackendMessage} (h : message.kind ≠ ascii 'Z') :
    Block [message, ready] := by
  use [message]
  simpa using h

theorem block_resultMessages (result : QueryResult) : Block (resultMessages result) := by
  use [⟨ascii 'T', descriptionBody result.columnName⟩, ⟨ascii 'D', rowBody result.value⟩,
    ⟨ascii 'C', utf8Encode result.commandTag ++ [0]⟩]
  constructor
  · rfl
  · simp only [List.mem_cons, List.not_mem_nil, or_false, forall_eq_or_imp, forall_eq]
    decide

theorem block_queryMessages (config : SimDatabaseConfig) (query : Text) :
    Block (queryMessages config query) := by
  rw [queryMessages]
  cases queryResult config query with
  | some result => exact block_resultMessages result
  | none =>
    dsimp only
    split_ifs
    · exact block_pair (show ascii 'I' ≠ ascii 'Z' by decide)
    · exact block_pair (show ascii 'E' ≠ ascii 'Z' by decide)

theorem answers_replyMessages {config : SimDatabaseConfig} {message : FrontendMessage}
    (hshort : message.ShortResult config) :
    Answers config message (replyMessages config message) := by
  constructor
  · rw [replyMessages]
    split_ifs
    · exact block_queryMessages _ _
    · exact block_pair (show ascii 'E' ≠ ascii 'Z' by decide)
  · intro query result hkind hquery hresult
    have hvalue := hshort query result hkind hquery hresult
    use rowBody result.value
    rw [replyMessages, if_pos hkind, hquery, Option.getD_some, queryMessages, hresult]
    exact ⟨rfl, readRow_rowBody (by omega)⟩

/-! ## Lengths -/

theorem queryResult_names {config : SimDatabaseConfig} {query : Text} {result : QueryResult}
    (h : queryResult config query = some result) :
    byteLen result.columnName ≤ 14 ∧ byteLen result.commandTag ≤ 8 := by
  unfold queryResult at h
  split_ifs at h
  · cases h
    exact ⟨show byteLen "server_version" ≤ 14 by decide, show byteLen "SHOW" ≤ 8 by decide⟩
  · cases h
    exact ⟨show byteLen "version" ≤ 14 by decide, show byteLen "SELECT 1" ≤ 8 by decide⟩
  · obtain ⟨response, -, rfl⟩ := Option.map_eq_some_iff.mp h
    exact ⟨show byteLen "result" ≤ 14 by decide, show byteLen "SELECT 1" ≤ 8 by decide⟩

theorem fits_ready : ready.Fits := by decide

theorem fits_pair {message : BackendMessage} (h : message.Fits) :
    ∀ m ∈ [message, ready], m.Fits := by
  simpa using ⟨h, fits_ready⟩

theorem fits_of_mem_replyMessages {config : SimDatabaseConfig} {message : FrontendMessage}
    (hshort : message.ShortResult config)
    (hquery : message.kind = ascii 'Q' → ∃ query, cstring message.body = some query) :
    ∀ m ∈ replyMessages config message, m.Fits := by
  rw [replyMessages]
  split_ifs with hkind
  · obtain ⟨query, hquery⟩ := hquery hkind
    rw [hquery, Option.getD_some, queryMessages]
    cases hresult : queryResult config query with
    | some result =>
      have hvalue := hshort query result hkind hquery hresult
      obtain ⟨hcolumn, htag⟩ := queryResult_names hresult
      rw [byteLen] at hvalue hcolumn htag
      simp only [resultMessages, List.mem_cons, List.not_mem_nil, or_false, forall_eq_or_imp,
        forall_eq, BackendMessage.Fits, descriptionBody, rowBody, List.length_append,
        beBytes_length, List.length_cons, List.length_nil]
      exact ⟨by omega, by omega, by omega, fits_ready⟩
    | none =>
      dsimp only
      split_ifs
      · exact fits_pair (by decide)
      · exact fits_pair (by decide)
  · exact fits_pair (by decide)

/-! ## After the login -/

def statusMessage (key value : Text) : BackendMessage :=
  ⟨ascii 'S', utf8Encode key ++ [0] ++ utf8Encode value ++ [0]⟩

/-- What a client is told when it is let in, message by message. -/
def authenticationMessages (config : SimDatabaseConfig) : List BackendMessage :=
  [⟨ascii 'R', beBytes 4 0⟩, statusMessage "server_version" (serverVersion config),
    statusMessage "server_encoding" "UTF8", statusMessage "client_encoding" "UTF8",
    statusMessage "DateStyle" "ISO, MDY", ⟨ascii 'K', beBytes 4 1 ++ beBytes 4 0x5345434c⟩, ready]

theorem authentication_eq (config : SimDatabaseConfig) :
    authentication config = (authenticationMessages config).flatMap BackendMessage.bytes := by
  simp only [authentication, authenticationMessages, List.flatMap_cons, List.flatMap_nil,
    List.append_nil, List.append_assoc]
  rfl

theorem block_authenticationMessages (config : SimDatabaseConfig) :
    Block (authenticationMessages config) := by
  use (authenticationMessages config).dropLast
  constructor
  · rfl
  · simp only [authenticationMessages, List.dropLast_cons_cons, List.dropLast_singleton,
      List.mem_cons, List.not_mem_nil, or_false, forall_eq_or_imp, forall_eq, statusMessage]
    decide

theorem readAll_authentication {config : SimDatabaseConfig}
    (hversion : byteLen (serverVersion config) + 20 < 2 ^ 32) :
    readAll readMessage (authentication config) = some (authenticationMessages config) := by
  have hlength : (utf8Encode "server_version").length = 14 := by decide
  have hstatus : (statusMessage "server_version" (serverVersion config)).Fits := by
    rw [byteLen] at hversion
    simp only [BackendMessage.Fits, statusMessage, List.length_append, hlength, List.length_cons,
      List.length_nil]
    omega
  rw [authentication_eq]
  apply readAll_flatMap
  intro message hmessage
  apply readsBack_bytes
  simp only [authenticationMessages, List.mem_cons, List.not_mem_nil, or_false] at hmessage
  obtain rfl | rfl | rfl | rfl | rfl | rfl | rfl := hmessage
  · decide
  · exact hstatus
  all_goals decide

theorem written_serveSession {config : SimDatabaseConfig} {observe : Observer} {input rest : Bytes}
    {outs : List (Output Bytes)}
    (hlogin : (authenticate config observe).run input = (outs, some (true, rest))) :
    written ((serveSession config observe).run input).1 = written outs ++
      authentication config :: written ((serveMessages config observe).run rest).1 := by
  rw [serveSession, Talk.run_bind, hlogin, written_append]
  rfl

/-- After a login, what is written are whole messages: for the login, if the version of the server
is not too long, and for each message that is served, in the order they were sent, a block. -/
theorem serveSession_framed {config : SimDatabaseConfig} {observe : Observer} {input : Bytes}
    {outs : List (Output Bytes)} {messages : List FrontendMessage}
    (hlogin : (authenticate config observe).run input =
      (outs, some (true, messages.flatMap FrontendMessage.bytes)))
    (hqueries : ∀ message ∈ messages, message.kind = ascii 'Q' →
      ∃ text, utf8Decode message.body = some text)
    (hshort : ∀ message ∈ messages, message.ShortResult config) :
    ∃ welcome replies blocks,
      written ((serveSession config observe).run input).1 = written outs ++ welcome :: replies ∧
      (byteLen (serverVersion config) + 20 < 2 ^ 32 →
        ∃ block, readAll readMessage welcome = some block ∧ Block block) ∧
      readAll readMessage replies.flatten = some blocks.flatten ∧
      List.Forall₂ (Answers config) (served messages) blocks := by
  have hserved : ∀ message ∈ served messages, message ∈ messages := fun message hmessage =>
    (List.takeWhile_prefix _).subset hmessage
  have hfits : ∀ m ∈ ((served messages).map (replyMessages config)).flatten, m.Fits := by
    intro m hm
    obtain ⟨message, hmessage, hm⟩ := List.mem_flatMap.mp hm
    apply fits_of_mem_replyMessages (hshort message (hserved message hmessage)) _ m hm
    intro hkind
    obtain ⟨text, htext⟩ := hqueries message (hserved message hmessage) hkind
    exact exists_cstring htext
  have hreplies : ((served messages).map fun message =>
      (replyMessages config message).flatMap BackendMessage.bytes).flatten =
      ((served messages).map (replyMessages config)).flatten.flatMap BackendMessage.bytes := by
    induction served messages with
    | nil => rfl
    | cons message rest ih => rw [List.map_cons, List.flatten_cons, ih, List.map_cons,
        List.flatten_cons, List.flatMap_append]
  refine ⟨authentication config, (served messages).map fun message =>
    (replyMessages config message).flatMap BackendMessage.bytes,
    (served messages).map (replyMessages config), ?_, ?_, ?_, ?_⟩
  · rw [written_serveSession hlogin, written_serveMessages config observe hqueries]
  · intro hversion
    exact ⟨_, readAll_authentication hversion, block_authenticationMessages config⟩
  · rw [hreplies]
    exact readAll_flatMap fun m hm => readsBack_bytes (hfits m hm)
  · rw [List.forall₂_map_right_iff, List.forall₂_same]
    exact fun message hmessage => answers_replyMessages (hshort message (hserved message hmessage))

/-! ## Logging in -/

/-- What a client sends to log in: its startup packet and its password. -/
def loginBytes (startup : Bytes) (password : Text) : Bytes :=
  beBytes 4 (startup.length + 4) ++ startup ++
    backendMessage (ascii 'p') (utf8Encode password ++ [0])

theorem run_readStartup {startup : Bytes} (hversion : startup.take 4 = PROTOCOL_VERSION_3)
    (hlength : startup.length + 4 ≤ MAX_PACKET_SIZE) (rest : Bytes) :
    readStartup.run (beBytes 4 (startup.length + 4) ++ startup ++ rest) =
      ([], some (startup, rest)) := by
  have hmax : MAX_PACKET_SIZE = 65536 := rfl
  have hfour : 4 ≤ startup.length := by
    have htake := congrArg List.length hversion
    rw [List.length_take, show PROTOCOL_VERSION_3.length = 4 from rfl] at htake
    omega
  have hssl : startup ≠ SSL_REQUEST_CODE := by
    rintro rfl
    exact absurd hversion (by decide)
  rw [List.append_assoc, readStartup, Talk.run_bind, readStartupPacket, Talk.run_bind,
    run_readU32 (by omega)]
  dsimp only
  rw [if_pos ⟨by omega, hlength⟩, run_readExact (by omega)]
  dsimp only
  rw [if_neg hssl]
  rfl

theorem run_readFrontendMessage (message : FrontendMessage)
    (h : message.body.length + 4 ≤ MAX_PACKET_SIZE) (rest : Bytes) :
    readFrontendMessage.run (message.bytes ++ rest) =
      ([], some (some (message.kind, message.body), rest)) := by
  have hinput : message.bytes ++ rest = message.kind ::
      (beBytes 4 (message.body.length + 4) ++ message.body ++ rest) := by
    simp [FrontendMessage.bytes, backendMessage]
  have hread := run_readFrontendBody message rest
  rw [if_pos h] at hread
  rw [hinput, readFrontendMessage, Talk.run_bind, Talk.run_take_cons]
  dsimp only
  rw [Talk.run_bind, hread]
  rfl

theorem run_checkPassword {config : SimDatabaseConfig} {username database password : Text}
    (hpassword : byteLen password + 5 ≤ MAX_PACKET_SIZE)
    (hcredentials : credentialsMatch config username password = true)
    (hdatabase : databaseExists config database = true) (observe : Observer) (rest : Bytes) :
    (checkPassword config observe username database).run
        (backendMessage (ascii 'p') (utf8Encode password ++ [0]) ++ rest) =
      ([.reported (observe "auth_attempt"
        (("PostgreSQL password received for user " : Text) ++ username)
        (utf8Encode password ++ [0]))], some (true, rest)) := by
  have hmax : MAX_PACKET_SIZE = 65536 := rfl
  have hbody : (utf8Encode password ++ [0]).length + 4 ≤ MAX_PACKET_SIZE := by
    rw [List.length_append, List.length_singleton, ← byteLen]
    omega
  have hcstring : cstring (utf8Encode password ++ [0]) = some password := by
    rw [cstring, List.getLast?_concat, if_pos rfl, List.dropLast_concat, utf8Decode_utf8Encode]
  have hmessage := run_readFrontendMessage ⟨ascii 'p', utf8Encode password ++ [0], by omega⟩
    hbody rest
  rw [FrontendMessage.bytes] at hmessage
  rw [checkPassword, Talk.run_bind, hmessage]
  dsimp only
  rw [if_neg (not_not.mpr rfl), hcstring]
  simp only [hcredentials, hdatabase]
  rfl

/-- A configured user with its password is let in. -/
theorem run_authenticate {config : SimDatabaseConfig} {observe : Observer} {startup : Bytes}
    {username password : Text} (hversion : startup.take 4 = PROTOCOL_VERSION_3)
    (hstartup : startup.length + 4 ≤ MAX_PACKET_SIZE)
    (hpassword : byteLen password + 5 ≤ MAX_PACKET_SIZE)
    (huser : startupParameter startup "user" = some username)
    (hcredentials : credentialsMatch config username password = true)
    (hdatabase : databaseExists config ((startupParameter startup "database").getD username) = true)
    (rest : Bytes) :
    ∃ outs, (authenticate config observe).run (loginBytes startup password ++ rest) =
      (outs, some (true, rest)) := by
  have hcheck := run_checkPassword hpassword hcredentials hdatabase observe rest
  rw [loginBytes, List.append_assoc, authenticate, Talk.run_bind, run_readStartup hversion hstartup]
  dsimp only
  rw [if_neg (not_not.mpr hversion), huser, Option.getD_some]
  simp only [Talk.run_bind, observed, writeAll, Talk.run_emit, hcheck]
  exact ⟨_, rfl⟩

/-! ## Two sessions -/

/-- A rule with one user. -/
def oneUser : DatabaseContext where
  ruleId := "rule"
  nodeId := "node"
  port := 5432
  config :=
    { serverVersion := none, credentials := some [⟨"postgres", "secret"⟩], databases := none,
      queryResponses := none }

def someClient : SocketAddr where
  ip := "192.0.2.1"
  port := 40000

def oneUserLogin : Bytes :=
  loginBytes (PROTOCOL_VERSION_3 ++ utf8Encode "user\x00postgres\x00\x00") "secret"

theorem run_oneUserLogin (rest : Bytes) :
    ∃ outs, (authenticate oneUser.config (reportDatabase oneUser someClient)).run
      (oneUserLogin ++ rest) = (outs, some (true, rest)) := by
  have huser : startupParameter
      (PROTOCOL_VERSION_3 ++ utf8Encode "user\x00postgres\x00\x00") "user" =
      some ("postgres" : Text) := by
    have hpairs : pairs (((PROTOCOL_VERSION_3 ++ utf8Encode "user\x00postgres\x00\x00").drop 4
        |>.splitOn 0).takeWhile fun value => !value.isEmpty) =
        [(utf8Encode "user", utf8Encode "postgres")] := by
      decide +kernel
    rw [startupParameter, if_pos (by decide), hpairs, List.findSome?_cons, if_pos rfl,
      utf8Decode_utf8Encode]
  exact run_authenticate (by decide) (by decide) (by decide) huser (by decide) (by decide) rest

theorem shortResult_oneUser (message : FrontendMessage) : message.ShortResult oneUser.config := by
  intro query result _ _ hresult
  unfold queryResult at hresult
  split_ifs at hresult
  · cases hresult
    decide
  · cases hresult
    decide
  · obtain ⟨response, hresponse, -⟩ := Option.map_eq_some_iff.mp hresult
    exact absurd hresponse (by simp [configuredQueryResponse, oneUser])

/-- A query for the version of the server. -/
def showVersion : FrontendMessage where
  kind := ascii 'Q'
  body := utf8Encode "SHOW server_version;\x00"
  fits := by decide

theorem serveSession_framed_showVersion :
    ∃ outs welcome replies blocks,
      (authenticate oneUser.config (reportDatabase oneUser someClient)).run
        (oneUserLogin ++ showVersion.bytes) = (outs, some (true, showVersion.bytes)) ∧
      written ((serveSession oneUser.config (reportDatabase oneUser someClient)).run
        (oneUserLogin ++ showVersion.bytes)).1 = written outs ++ welcome :: replies ∧
      readAll readMessage replies.flatten = some blocks.flatten ∧
      List.Forall₂ (Answers oneUser.config) (served [showVersion]) blocks := by
  obtain ⟨outs, houts⟩ := run_oneUserLogin showVersion.bytes
  have hmessages : [showVersion].flatMap FrontendMessage.bytes = showVersion.bytes := by simp
  have hqueries : ∀ message ∈ [showVersion], message.kind = ascii 'Q' →
      ∃ text, utf8Decode message.body = some text := by
    intro message hmessage _
    rw [List.mem_singleton.mp hmessage]
    exact ⟨_, utf8Decode_utf8Encode _⟩
  obtain ⟨welcome, replies, blocks, hwritten, _, hblocks, hanswers⟩ := serveSession_framed
    (by rw [hmessages, houts]) hqueries fun message _ => shortResult_oneUser message
  exact ⟨outs, welcome, replies, blocks, houts, hwritten, hblocks, hanswers⟩

theorem fits_replicate {n : ℕ} (h : n + 4 < 2 ^ 32) :
    (utf8Encode (List.replicate n 'a')).length + 4 < 2 ^ 32 := by
  rw [← byteLen, byteLen_replicate]
  exact h

/-- A query of more bytes than the server reads. -/
def overlong : FrontendMessage where
  kind := ascii 'Q'
  body := utf8Encode (List.replicate 65533 'a')
  fits := fits_replicate (by decide)

theorem overlong_unanswered :
    ∃ input outs, (authenticate oneUser.config (reportDatabase oneUser someClient)).run input =
        (outs, some (true, [overlong].flatMap FrontendMessage.bytes)) ∧
      (∃ text, utf8Decode overlong.body = some text) ∧ overlong.ShortResult oneUser.config ∧
      ¬∃ welcome replies blocks,
        written ((serveSession oneUser.config (reportDatabase oneUser someClient)).run input).1 =
          written outs ++ welcome :: replies ∧
        readAll readMessage replies.flatten = some blocks.flatten ∧
        List.Forall₂ (Answers oneUser.config)
          ([overlong].filter fun message => message.kind != ascii 'X') blocks := by
  have hutf8 : utf8Decode overlong.body = some (List.replicate 65533 'a') := utf8Decode_utf8Encode _
  have hlength : overlong.body.length = 65533 := byteLen_replicate 65533
  have hover : overlong.goesOn = false := by simp [FrontendMessage.goesOn, hlength, MAX_PACKET_SIZE]
  obtain ⟨outs, houts⟩ := run_oneUserLogin ([overlong].flatMap FrontendMessage.bytes)
  refine ⟨_, outs, houts, ⟨_, hutf8⟩, shortResult_oneUser overlong, ?_⟩
  rintro ⟨welcome, replies, blocks, hwritten, hblocks, hanswers⟩
  have hserved : served [overlong] = [] := by rw [served, List.takeWhile_cons, hover]; rfl
  have hreplies : replies = [] := by
    rw [written_serveSession houts, written_serveMessages _ _ (by
      intro message hmessage _
      rw [List.mem_singleton.mp hmessage]
      exact ⟨_, hutf8⟩), hserved] at hwritten
    exact (List.cons.inj (List.append_cancel_left hwritten)).2.symm
  subst hreplies
  have hkept : ([overlong].filter fun message => message.kind != ascii 'X') = [overlong] := by
    rw [List.filter_cons_of_pos (by decide), List.filter_nil]
  rw [hkept] at hanswers
  cases hanswers with
  | cons hanswer hrest =>
    cases hrest
    obtain ⟨front, rfl, -⟩ := hanswer.block
    have hnone : some [] = some ((front ++ [ready]) ++ []) := hblocks
    simp at hnone

end ProtocolSimulation.Engine.Postgresql
