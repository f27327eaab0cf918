import ProtocolSimulation.MysqlHandshakes

/-!
# Logins of MySQL clients

A client reads the seed in the greeting of the server and answers with what its
user and its password make of it. It is let in with a configured password that
is not empty.
-/
namespace ProtocolSimulation.Engine.Mysql

open ProtocolSimulation.Texts ProtocolSimulation.Conversations ProtocolSimulation.BigEndian
open ProtocolSimulation.Panics

/-! ## Clients -/

/-- The payload of the first packet. One of 2^24 - 1 bytes goes on in the next packet. -/
def firstPayload (bytes : Bytes) : Option Bytes :=
  let length := leValue (bytes.take 3)
  if length = 2 ^ 24 - 1 then none else getRange bytes 4 (4 + length)

/-- The seed in a greeting: the first part is behind the version, the second one has the length
that is given before it, with a zero byte. -/
def readSeed (payload : Bytes) : Option Bytes := do
  if payload.head? = some 0x0a then
    let versionLength ← (payload.drop 1).findIdx? (· == 0)
    let fields := payload.drop (versionLength + 2)
    let length ← fields[20]?
    let first ← getRange fields 4 12
    let second ← getRange fields 31 (31 + max 13 (length.toNat - 8) - 1)
    return first ++ second
  else none

/-- The response to a seed that the method `mysql_native_password` asks for. -/
def standardResponse (sha1 : Digest) (seed : Bytes) (password : Text) : Bytes :=
  if password = [] then []
  else
    let first := sha1 (utf8Encode password)
    let second := sha1 first.toList
    (Vector.zipWith (· ^^^ ·) first (sha1 (seed ++ second.toList))).toList

/-- A payload in packets, of which only the last one has less than 2^24 - 1 bytes. -/
def writePackets (sequence : UInt8) (payload : Bytes) : Bytes :=
  if payload.length < 2 ^ 24 - 1 then packet sequence payload
  else
    packet sequence (payload.take (2 ^ 24 - 1)) ++
      writePackets (sequence + 1) (payload.drop (2 ^ 24 - 1))
termination_by payload.length
decreasing_by
  rw [List.length_drop]
  omega

/-- A client that logs in with a credential, and without a database. -/
structure LoginClient (sha1 : Digest) (credential : Credential) where
  sequence : UInt8
  answer : Bytes → HandshakeResponse41
  username : ∀ seed, (answer seed).username = credential.username
  authResponse : ∀ seed, (answer seed).authResponse = standardResponse sha1 seed credential.password
  database : ∀ seed, (answer seed).database = none

/-- What the client sends when it has read the greeting. -/
def LoginClient.reply {sha1 : Digest} {credential : Credential}
    (client : LoginClient sha1 credential) (greeting : Bytes) : Option Bytes := do
  let payload ← firstPayload greeting
  let seed ← readSeed payload
  return writePackets client.sequence (client.answer seed).encode

/-- The client answers the greeting, and the server answers with the OK packet. -/
def LetIn {sha1 : Digest} {credential : Credential} (config : SimDatabaseConfig)
    (observe : Observer) (client : LoginClient sha1 credential) (rest : Bytes) : Prop :=
  ∃ input, client.reply (handshake (serverVersion config)) = some input ∧
    ∃ queued outs, ((serveSession sha1 config observe).run (input ++ rest)).1 =
      .wrote (handshake (serverVersion config)) :: .reported queued :: .wrote (okPacket 2) :: outs

/-! ## The greeting -/

/-- What follows the version in a greeting. -/
def greetingFields : Bytes :=
  List.flatten [leBytes 4 1, AUTH_SEED.take 8, [0], leBytes 2 SERVER_CAPABILITIES.toNat, [0x21],
    leBytes 2 0x0002, leBytes 2 (SERVER_CAPABILITIES >>> 16).toNat, [21], List.replicate 10 0,
    AUTH_SEED.drop 8, [0], utf8Encode "mysql_native_password\x00"]

theorem handshakePayload_eq (version : Text) :
    handshakePayload version = [0x0a] ++ utf8Encode version ++ 0 :: greetingFields := by
  simp [handshakePayload, greetingFields]

theorem drop_handshakePayload (version : Text) :
    (handshakePayload version).drop 1 = utf8Encode version ++ 0 :: greetingFields := by
  rw [handshakePayload_eq]
  rfl

theorem length_handshakePayload (version : Text) :
    (handshakePayload version).length = byteLen version + 68 := by
  have hfields : greetingFields.length = 66 := by decide
  rw [handshakePayload_eq]
  simp only [List.length_append, List.length_cons, List.length_nil, hfields]
  rw [← byteLen]
  omega

theorem readSeed_handshakePayload {version : Text} (h : '\x00' ∉ version) :
    readSeed (handshakePayload version) = some AUTH_SEED := by
  have hfound := findIdx?_zero (zero_notMem_utf8Encode h) greetingFields
  have hfields : (handshakePayload version).drop ((utf8Encode version).length + 2) =
      greetingFields := by
    rw [handshakePayload_eq]
    simp
  have hhead : (handshakePayload version).head? = some 0x0a := rfl
  rw [readSeed, if_pos hhead, drop_handshakePayload, hfound]
  simp only [Option.bind_eq_bind, Option.bind_some, hfields]
  decide

theorem take_packet (sequence : UInt8) (payload : Bytes) :
    (packet sequence payload).take 3 = leBytes 3 payload.length := by
  rw [packet, List.append_assoc, List.take_left' (leBytes_length _ _)]

theorem getRange_packet {sequence : UInt8} {payload : Bytes} {n : ℕ} (h : n ≤ payload.length) :
    getRange (packet sequence payload) 4 (4 + n) = some (payload.take n) := by
  have hfront : (leBytes 3 payload.length ++ [sequence]).length = 4 := by simp
  rw [packet, getRange_of_le (by omega) (by simp only [List.length_append, hfront]; omega),
    List.take_append, hfront, Nat.add_sub_cancel_left, List.take_of_length_le (by omega),
    List.drop_left' hfront]

/-- A client reads a greeting that fits a packet. -/
theorem firstPayload_handshake {version : Text} (h : byteLen version + 68 < 2 ^ 24 - 1) :
    firstPayload (handshake version) = some (handshakePayload version) := by
  have hlength : leValue (leBytes 3 (handshakePayload version).length) = byteLen version + 68 := by
    rw [length_handshakePayload]
    exact leValue_leBytes_of_lt (by omega)
  rw [firstPayload, handshake, take_packet, hlength, if_neg (by omega),
    getRange_packet (length_handshakePayload version).ge, ← length_handshakePayload,
    List.take_length]

/-- The version has no zero byte. -/
theorem readSeed_take {version : Text} {n : ℕ} (h : '\x00' ∉ version) (hn : n ≤ byteLen version) :
    readSeed ((handshakePayload version).take n) = none := by
  have hrest : ((handshakePayload version).take n).drop 1 = (utf8Encode version).take (n - 1) := by
    rw [byteLen] at hn
    rw [List.drop_take, drop_handshakePayload, List.take_append_of_le_length (by omega)]
  have hfound : ((utf8Encode version).take (n - 1)).findIdx? (· == 0) = none := by
    rw [List.findIdx?_eq_none_iff]
    intro byte hbyte
    have hne : byte ≠ 0 := by
      rintro rfl
      exact zero_notMem_utf8Encode h (List.mem_of_mem_take hbyte)
    simpa using hne
  rw [readSeed, hrest, hfound]
  split_ifs <;> rfl

/-- In a longer greeting, the length is cut off before the version ends. -/
theorem readSeed_firstPayload_of_long {version : Text} (h : '\x00' ∉ version)
    (hlong : 2 ^ 24 - 1 ≤ byteLen version + 68) :
    (firstPayload (handshake version)).bind readSeed = none := by
  have hlength : leValue (leBytes 3 (handshakePayload version).length) =
      (byteLen version + 68) % 256 ^ 3 := by
    rw [length_handshakePayload, leValue_leBytes]
  have hpayload := length_handshakePayload version
  rw [firstPayload, handshake, take_packet, hlength]
  split_ifs with hfull
  · rfl
  · have hcut : (byteLen version + 68) % 256 ^ 3 ≤ byteLen version := by omega
    rw [getRange_packet (by omega), Option.bind_some]
    exact readSeed_take h hcut

/-! ## Packets of a client -/

/-- A packet is read, unless its payload is over the limit. -/
theorem run_readPacket {sequence : UInt8} {payload : Bytes} (h : payload.length < 256 ^ 3)
    (rest : Bytes) :
    readPacket.run (packet sequence payload ++ rest) =
      ([], if MAX_PACKET_SIZE < payload.length then none
        else some (some (sequence, payload), rest)) := by
  obtain ⟨a, b, c, hbytes⟩ := List.length_eq_three.mp (leBytes_length 3 payload.length)
  have hlength : leValue [a, b, c] = payload.length := by
    rw [← hbytes]
    exact leValue_leBytes_of_lt h
  have hinput : packet sequence payload ++ rest = a :: b :: c :: sequence :: (payload ++ rest) := by
    rw [packet, hbytes]
    simp
  rw [hinput, readPacket, Talk.run_bind, Talk.run_take_cons]
  dsimp only
  rw [Talk.run_bind, readPacketRest, Talk.run_bind, run_readU8_cons]
  dsimp only
  rw [Talk.run_bind, run_readU8_cons]
  dsimp only
  rw [hlength]
  split_ifs
  · rfl
  · rw [Talk.run_bind, run_readU8_cons]
    dsimp only
    rw [Talk.run_bind, run_readExact rfl]
    rfl

theorem run_readPacket_writePackets {sequence : UInt8} {payload : Bytes}
    (h : payload.length ≤ MAX_PACKET_SIZE) (rest : Bytes) :
    readPacket.run (writePackets sequence payload ++ rest) =
      ([], some (some (sequence, payload), rest)) := by
  have hmax : MAX_PACKET_SIZE = 65536 := rfl
  rw [writePackets, if_pos (by omega), run_readPacket (by omega), if_neg (by omega)]

theorem run_readPacket_of_long {sequence : UInt8} {payload : Bytes}
    (h : MAX_PACKET_SIZE < payload.length) (rest : Bytes) :
    readPacket.run (writePackets sequence payload ++ rest) = ([], none) := by
  have hmax : MAX_PACKET_SIZE = 65536 := rfl
  rw [writePackets]
  split_ifs with hone
  · rw [run_readPacket (by omega), if_pos h]
  · have htake : (payload.take (2 ^ 24 - 1)).length = 2 ^ 24 - 1 :=
      List.length_take_of_le (by omega)
    rw [List.append_assoc, run_readPacket (by omega), if_pos (by omega)]

/-! ## Sessions -/

def deniedPacket : Bytes := errorPacket 2 1045 "28000" "Access denied by SecLab simulation"

variable {sha1 : Digest} {config : SimDatabaseConfig} {observe : Observer}

/-- How a session starts if no database is asked for. -/
theorem run_serveSession {sequence : UInt8} {input payload rest : Bytes}
    {response : HandshakeResponse}
    (hread : readPacket.run input = ([], some (some (sequence, payload), rest)))
    (hparse : parseHandshakeResponse payload = .ok response)
    (hdatabase : response.database = none) :
    ∃ queued outs, ((serveSession sha1 config observe).run input).1 =
      .wrote (handshake (serverVersion config)) :: .reported queued ::
        .wrote (if credentialsMatch sha1 config response.username response.authResponse then
          okPacket 2 else deniedPacket) :: outs := by
  have hexists : databaseExists config response.database = true := by
    rw [hdatabase]
    rfl
  rw [serveSession, Talk.run_bind, authenticate, writeAll, Talk.run_bind, Talk.run_emit]
  dsimp only
  rw [Talk.run_bind, hread]
  dsimp only
  rw [observed, Talk.run_bind, Talk.run_emit]
  dsimp only
  rw [hparse]
  cases hmatch : credentialsMatch sha1 config response.username response.authResponse with
  | true =>
    simp only [hmatch, hexists, writeAll]
    exact ⟨_, _, rfl⟩
  | false =>
    simp only [hmatch, writeAll]
    exact ⟨_, _, rfl⟩

theorem run_serveSession_of_unread {input : Bytes} (hread : readPacket.run input = ([], none)) :
    ((serveSession sha1 config observe).run input).1 =
      [.wrote (handshake (serverVersion config))] := by
  rw [serveSession, Talk.run_bind, authenticate, writeAll, Talk.run_bind, Talk.run_emit]
  dsimp only
  rw [Talk.run_bind, hread]
  rfl

theorem credentialsMatch_standardResponse {credentials : List Credential} {credential : Credential}
    (hcredentials : config.credentials = some credentials) (hmem : credential ∈ credentials)
    (hpassword : credential.password ≠ []) :
    credentialsMatch sha1 config credential.username
      (standardResponse sha1 AUTH_SEED credential.password) = true := by
  rw [credentialsMatch, hcredentials, Option.map_some, Option.getD_some, List.any_eq_true]
  use credential, hmem
  rw [standardResponse, if_neg hpassword, nativePasswordResponse]
  simp

/-- The response to any seed has 20 bytes. -/
theorem credentialsMatch_nil (username : Text) :
    credentialsMatch sha1 config username [] = false := by
  have hmatch (credential : Credential) :
      ((nativePasswordResponse sha1 credential.password).toList == []) = false := by
    rw [beq_eq_false_iff_ne]
    intro hnil
    have hlength := congrArg List.length hnil
    simp at hlength
  rw [credentialsMatch]
  cases config.credentials with
  | none => rfl
  | some credentials => simp [hmatch]

variable {credential : Credential}

theorem LoginClient.parse_answer (client : LoginClient sha1 credential) {seed : Bytes}
    (h : (client.answer seed).encode.length ≤ MAX_PACKET_SIZE) :
    parseHandshakeResponse (client.answer seed).encode =
      .ok ⟨credential.username, standardResponse sha1 seed credential.password, none⟩ := by
  have hmax : MAX_PACKET_SIZE = 65536 := rfl
  have hfound : (client.answer seed).foundDatabase = none := by
    rw [HandshakeResponse41.foundDatabase, client.database]
    rfl
  rw [HandshakeResponse41.parse_encode _ (HandshakeResponse41.shortEnough_of_fits _ h) (by omega),
    client.username, client.authResponse, hfound]

theorem LoginClient.reply_handshake (client : LoginClient sha1 credential) {version : Text}
    (h : '\x00' ∉ version) (hfits : byteLen version + 68 < 2 ^ 24 - 1) :
    client.reply (handshake version) =
      some (writePackets client.sequence (client.answer AUTH_SEED).encode) := by
  rw [reply, firstPayload_handshake hfits]
  simp only [Option.bind_eq_bind, Option.bind_some, readSeed_handshakePayload h]
  rfl

theorem LoginClient.reply_of_long (client : LoginClient sha1 credential) {version : Text}
    (h : '\x00' ∉ version) (hlong : 2 ^ 24 - 1 ≤ byteLen version + 68) :
    client.reply (handshake version) = none := by
  have hseed := readSeed_firstPayload_of_long h hlong
  rw [reply]
  simp only [Option.bind_eq_bind]
  rw [← Option.bind_assoc, hseed, Option.bind_none]

theorem okPacket_ne_deniedPacket : okPacket 2 ≠ deniedPacket := by
  intro h
  have hget := congrArg (·[4]?) h
  exact absurd hget (by decide)

/-- A client is only let in if the greeting and its answer fit a packet. -/
theorem LetIn.run {client : LoginClient sha1 credential} {rest : Bytes}
    (h : LetIn config observe client rest) (hversion : '\x00' ∉ serverVersion config) :
    byteLen (serverVersion config) + 68 < 2 ^ 24 - 1 ∧
      (client.answer AUTH_SEED).encode.length ≤ MAX_PACKET_SIZE ∧
      ∃ queued outs, ((serveSession sha1 config observe).run
        (writePackets client.sequence (client.answer AUTH_SEED).encode ++ rest)).1 =
          .wrote (handshake (serverVersion config)) :: .reported queued :: .wrote (okPacket 2) ::
            outs := by
  obtain ⟨input, hreply, queued, outs, hrun⟩ := h
  have hfits : byteLen (serverVersion config) + 68 < 2 ^ 24 - 1 := by
    by_contra hlong
    rw [client.reply_of_long hversion (by omega)] at hreply
    cases hreply
  rw [client.reply_handshake hversion hfits, Option.some.injEq] at hreply
  subst hreply
  refine ⟨hfits, ?_, queued, outs, hrun⟩
  by_contra hlength
  rw [run_serveSession_of_unread (run_readPacket_of_long (by omega) rest)] at hrun
  simp at hrun

/-- A client with an empty password is turned away. -/
theorem LetIn.password_ne_nil {client : LoginClient sha1 credential} {rest : Bytes}
    (h : LetIn config observe client rest) (hversion : '\x00' ∉ serverVersion config) :
    credential.password ≠ [] := by
  intro hpassword
  obtain ⟨_, hlength, queued, outs, hrun⟩ := h.run hversion
  obtain ⟨queued', outs', hstart⟩ := @run_serveSession sha1 config observe _ _ _ _ _
    (run_readPacket_writePackets hlength rest) (client.parse_answer hlength) rfl
  have hempty : standardResponse sha1 AUTH_SEED credential.password = [] := if_pos hpassword
  rw [hstart, hempty, credentialsMatch_nil] at hrun
  simp only [List.cons.injEq] at hrun
  exact okPacket_ne_deniedPacket (Output.wrote.inj hrun.2.2.1).symm

/-- A client with a configured credential is let in exactly if its password is not empty, and the
greeting and its answer fit a packet. -/
theorem letIn_iff {credentials : List Credential}
    (hcredentials : config.credentials = some credentials) (hmem : credential ∈ credentials)
    (hversion : '\x00' ∉ serverVersion config)
    (client : LoginClient sha1 credential) (rest : Bytes) :
    LetIn config observe client rest ↔
      credential.password ≠ [] ∧ byteLen (serverVersion config) + 68 < 2 ^ 24 - 1 ∧
        (client.answer AUTH_SEED).encode.length ≤ MAX_PACKET_SIZE := by
  constructor
  · intro h
    obtain ⟨hfits, hlength, _⟩ := h.run hversion
    exact ⟨h.password_ne_nil hversion, hfits, hlength⟩
  · intro h
    obtain ⟨hpassword, hfits, hlength⟩ := h
    obtain ⟨queued, outs, hstart⟩ := @run_serveSession sha1 config observe _ _ _ _ _
      (run_readPacket_writePackets hlength rest) (client.parse_answer hlength) rfl
    rw [credentialsMatch_standardResponse hcredentials hmem hpassword, if_pos rfl] at hstart
    exact ⟨_, client.reply_handshake hversion hfits, queued, outs, hstart⟩

/-! ## Two logins -/

theorem length_standardResponse_lt (sha1 : Digest) (seed : Bytes) (password : Text) :
    (standardResponse sha1 seed password).length < 256 := by
  rw [standardResponse]
  split_ifs <;> simp

/-- A client that writes its response behind its length. -/
def secureClient (sha1 : Digest) (credential : Credential)
    (husername : '\x00' ∉ credential.username) : LoginClient sha1 credential where
  sequence := 1
  answer seed :=
    { capabilities := CLIENT_PROTOCOL_41 ||| CLIENT_SECURE_CONNECTION ||| CLIENT_PLUGIN_AUTH
      protocol41 := by decide
      settings := Vector.replicate 28 0
      username := credential.username
      username_nul := husername
      authResponse := standardResponse sha1 seed credential.password
      auth_holds := holds_oneByteLength (by decide) (length_standardResponse_lt _ _ _)
      database := none
      database_given := by decide
      database_nul := by decide
      pluginName := cstring "mysql_native_password" }
  username _ := rfl
  authResponse _ := rfl
  database _ := rfl

theorem length_encode_secureClient {username password : Text} (h : '\x00' ∉ username)
    (seed : Bytes) : ((secureClient sha1 ⟨username, password⟩ h).answer seed).encode.length ≤
      byteLen username + 311 := by
  have hauth := length_standardResponse_lt sha1 seed password
  have hencoding : authEncoding (CLIENT_PROTOCOL_41 ||| CLIENT_SECURE_CONNECTION |||
      CLIENT_PLUGIN_AUTH) = .oneByteLength := by decide
  have hplugin : (utf8Encode "mysql_native_password").length = 21 := by decide
  simp only [secureClient, HandshakeResponse41.encode, hencoding, AuthEncoding.encode,
    List.length_append, hplugin, cstring, leBytes_length, Vector.length_toList, List.length_cons,
    List.length_nil, Option.map_none, Option.getD_none]
  rw [← byteLen]
  omega

def rootFirst : Vector UInt8 20 :=
  #v[0xdc, 0x76, 0xe9, 0xf0, 0xc0, 0x00, 0x6e, 0x8f, 0x91, 0x9e, 0x0c, 0x51, 0x5c, 0x66,
    0xdb, 0xba, 0x39, 0x82, 0xf7, 0x85]

def rootSecond : Vector UInt8 20 :=
  #v[0x81, 0xf5, 0xe2, 0x1e, 0x35, 0x40, 0x7d, 0x88, 0x4a, 0x6c, 0xd4, 0xa7, 0x31, 0xae,
    0xbf, 0xb6, 0xaf, 0x20, 0x9e, 0x1b]

def rootChallenge : Vector UInt8 20 :=
  #v[0x0a, 0xb7, 0xfa, 0x1a, 0x36, 0x53, 0xf3, 0x68, 0x98, 0xea, 0xf7, 0x77, 0xa7, 0xd6,
    0xc5, 0x28, 0x1a, 0x21, 0xbd, 0x5e]

def emptyFirst : Vector UInt8 20 :=
  #v[0xda, 0x39, 0xa3, 0xee, 0x5e, 0x6b, 0x4b, 0x0d, 0x32, 0x55, 0xbf, 0xef, 0x95, 0x60,
    0x18, 0x90, 0xaf, 0xd8, 0x07, 0x09]

def emptySecond : Vector UInt8 20 :=
  #v[0xbe, 0x1b, 0xde, 0xc0, 0xaa, 0x74, 0xb4, 0xdc, 0xb0, 0x79, 0x94, 0x3e, 0x70, 0x52,
    0x80, 0x96, 0xcc, 0xa9, 0x85, 0xf8]

def emptyChallenge : Vector UInt8 20 :=
  #v[0x31, 0x93, 0xd0, 0x32, 0x47, 0x85, 0x9d, 0x86, 0xe8, 0x87, 0xdd, 0xd4, 0xa9, 0xae,
    0x0c, 0x2c, 0xe4, 0x32, 0x9f, 0x98]

/-- The hash function on what two passwords ask for. -/
def sampleSha1 : Digest
  | bytes =>
    (List.lookup bytes
      [(utf8Encode "root", rootFirst), (rootFirst.toList, rootSecond),
        (AUTH_SEED ++ rootSecond.toList, rootChallenge), (utf8Encode "", emptyFirst),
        (emptyFirst.toList, emptySecond),
        (AUTH_SEED ++ emptySecond.toList, emptyChallenge)]).getD (Vector.replicate 20 0)

/-- A rule with two users, one of them without a password. -/
def twoUsers : DatabaseContext where
  ruleId := "rule"
  nodeId := "node"
  port := 3306
  config :=
    { serverVersion := none, credentials := some [⟨"root", "root"⟩, ⟨"guest", ""⟩],
      databases := none, queryResponses := none }

def localClient : SocketAddr where
  ip := "192.0.2.1"
  port := 40000

theorem letIn_iff_root :
    LetIn twoUsers.config (reportDatabase twoUsers localClient)
      (secureClient sampleSha1 ⟨"root", "root"⟩ (by decide)) [] := by
  have hcredentials : twoUsers.config.credentials = some [⟨"root", "root"⟩, ⟨"guest", ""⟩] := rfl
  apply (letIn_iff hcredentials List.mem_cons_self (by decide) _ []).mpr
  have hlength := @length_encode_secureClient sampleSha1 "root" "root" (by decide) AUTH_SEED
  have husername : byteLen "root" = 4 := by decide
  rw [husername] at hlength
  have hversion : byteLen (serverVersion twoUsers.config) = 13 := by decide
  exact ⟨by simp, by omega, hlength.trans (by decide)⟩

/-- The user without a password is turned away. -/
theorem guest_not_letIn :
    ⟨"guest", ""⟩ ∈ twoUsers.config.credentials.getD [] ∧
      ¬ LetIn twoUsers.config (reportDatabase twoUsers localClient)
        (secureClient sampleSha1 ⟨"guest", ""⟩ (by decide)) [] := by
  constructor
  · simp [twoUsers]
  · intro h
    exact h.password_ne_nil (by decide) rfl

end ProtocolSimulation.Engine.Mysql
