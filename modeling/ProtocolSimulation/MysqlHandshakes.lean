import ProtocolSimulation.Mysql

/-!
# The answers of MySQL clients

A client answers the greeting with its capabilities, its user, a response to
the seed and maybe a database. The capabilities say how the response is written.
-/
namespace ProtocolSimulation.Engine.Mysql

open ProtocolSimulation.Texts ProtocolSimulation.BigEndian ProtocolSimulation.Fallible
open ProtocolSimulation.Panics

/-! ## Authentication responses -/

/-- The length-encoded integers of the protocol. -/
def lenencInteger (n : ℕ) : Bytes :=
  if n ≤ 250 then [UInt8.ofNat n]
  else if n < 256 ^ 2 then [0xfc] ++ leBytes 2 n
  else if n < 256 ^ 3 then [0xfd] ++ leBytes 3 n
  else [0xfe] ++ leBytes 8 n

/-- How an authentication response is written. -/
inductive AuthEncoding where
  | lengthEncoded
  | oneByteLength
  | nulTerminated
  deriving DecidableEq

def authEncoding (capabilities : UInt32) : AuthEncoding :=
  if capabilities &&& CLIENT_PLUGIN_AUTH_LENENC_CLIENT_DATA ≠ 0 then .lengthEncoded
  else if capabilities &&& CLIENT_SECURE_CONNECTION ≠ 0 then .oneByteLength
  else .nulTerminated

namespace AuthEncoding

/-- The responses that can be written in this way. -/
def Holds : AuthEncoding → Bytes → Prop
  | lengthEncoded, _ => True
  | oneByteLength, authResponse => authResponse.length < 256
  | nulTerminated, authResponse => 0 ∉ authResponse

def encode : AuthEncoding → Bytes → Bytes
  | lengthEncoded, authResponse => lenencInteger authResponse.length ++ authResponse
  | oneByteLength, authResponse => [UInt8.ofNat authResponse.length] ++ authResponse
  | nulTerminated, authResponse => authResponse ++ [0]

end AuthEncoding

/-! ## Handshake responses -/

/-- A text and a zero byte. -/
def cstring (t : Text) : Bytes := utf8Encode t ++ [0]

/-- The answer of a client, with the name of its authentication plugin last. -/
structure HandshakeResponse41 where
  capabilities : UInt32
  protocol41 : capabilities &&& CLIENT_PROTOCOL_41 ≠ 0
  settings : Vector UInt8 28
  username : Text
  username_nul : '\x00' ∉ username
  authResponse : Bytes
  auth_holds : (authEncoding capabilities).Holds authResponse
  database : Option Text
  database_given : database.isSome ↔ capabilities &&& CLIENT_CONNECT_WITH_DB ≠ 0
  database_nul : ∀ name ∈ database, '\x00' ∉ name
  pluginName : Bytes

def HandshakeResponse41.encode (response : HandshakeResponse41) : Bytes :=
  leBytes 4 response.capabilities.toNat ++ response.settings.toList ++ cstring response.username ++
    (authEncoding response.capabilities).encode response.authResponse ++
    (response.database.map cstring).getD [] ++ response.pluginName

/-! ## Fields -/

theorem findIdx?_zero {xs : Bytes} (h : 0 ∉ xs) (ys : Bytes) :
    (xs ++ 0 :: ys).findIdx? (· == 0) = some xs.length := by
  induction xs with
  | nil => simp [List.findIdx?_cons]
  | cons x xs ih =>
    rw [List.mem_cons, not_or] at h
    have hne : (x == 0) = false := by simpa using Ne.symm h.1
    simp [List.findIdx?_cons, hne, ih h.2]

theorem getRange_to_end (before after : Bytes) :
    getRange (before ++ after) before.length (before ++ after).length = some after := by
  rw [getRange_of_le (by simp) le_rfl, List.take_length, List.drop_left]

theorem takeCstring_cstring {before after : Bytes} {t : Text} (ht : '\x00' ∉ t)
    (h : (before ++ cstring t ++ after).length < 2 ^ 63) :
    takeCstring (before ++ cstring t ++ after) before.length =
      .ok (t, (before ++ cstring t).length) := by
  have hinput : before ++ cstring t ++ after = before ++ (utf8Encode t ++ 0 :: after) := by
    simp [cstring]
  have hlength : (before ++ cstring t).length = before.length + ((utf8Encode t).length + 1) := by
    simp [cstring]
  have hslice : getRange (utf8Encode t ++ 0 :: after) 0 (utf8Encode t).length =
      some (utf8Encode t) := by
    rw [getRange_of_le (by omega) (by simp), List.take_left, List.drop_zero]
  rw [List.length_append, hlength] at h
  rw [hlength, hinput]
  simp only [takeCstring, bind_ok_iff, orFail_ok_iff, slice_ok_iff, add_ok_iff]
  refine ⟨_, getRange_to_end _ _, _, findIdx?_zero (zero_notMem_utf8Encode ht) _, _, hslice, t,
    utf8Decode_utf8Encode t, _, ⟨by omega, rfl⟩, _, ⟨by omega, rfl⟩, rfl⟩

/-- Lengths of up to two bytes are read. -/
theorem readLenencInteger_lenencInteger {before after : Bytes} {n : ℕ} (hn : n < 256 ^ 2)
    (h : before.length < 2 ^ 63) :
    readLenencInteger (before ++ lenencInteger n ++ after) before.length =
      .ok (n, (before ++ lenencInteger n).length) := by
  rw [lenencInteger]
  split_ifs with hshort
  · have hfirst : (UInt8.ofNat n).toNat = n := by
      simp
      omega
    have hget : (before ++ [UInt8.ofNat n] ++ after)[before.length]? = some (UInt8.ofNat n) := by
      simp
    rw [List.length_append, List.length_singleton]
    simp only [readLenencInteger, bind_ok_iff, orFail_ok_iff, add_ok_iff]
    refine ⟨_, hget, _, ⟨by omega, rfl⟩, ?_⟩
    rw [hfirst, if_pos hshort]
    rfl
  · have hget : (before ++ ([0xfc] ++ leBytes 2 n) ++ after)[before.length]? = some 0xfc := by simp
    have hmiddle := getRange_append (before ++ [0xfc]) (leBytes 2 n) after
    have hstart : (before ++ [(0xfc : UInt8)]).length = before.length + 1 := by simp
    have hstop : (before ++ ([0xfc] ++ leBytes 2 n)).length = before.length + 1 + 2 := by simp
    rw [hstart, leBytes_length, List.append_assoc before] at hmiddle
    have hvalue : leValue (leBytes 2 n) = n := leValue_leBytes_of_lt hn
    simp only [readLenencInteger, bind_ok_iff, orFail_ok_iff, add_ok_iff]
    refine ⟨_, hget, _, ⟨by omega, rfl⟩, ?_⟩
    rw [if_neg (by decide), if_pos rfl, hstop]
    simp only [bind_ok_iff, orFail_ok_iff, add_ok_iff]
    refine ⟨_, ⟨by omega, rfl⟩, _, hmiddle, _, ⟨by omega, rfl⟩, ?_⟩
    rw [hvalue]
    rfl

theorem readLenencInteger_of_long {before after : Bytes} {n : ℕ} (hn : 256 ^ 2 ≤ n)
    (read : ℕ × ℕ) :
    readLenencInteger (before ++ lenencInteger n ++ after) before.length ≠ .ok read := by
  have hfirst : ∃ first, (before ++ lenencInteger n ++ after)[before.length]? = some first ∧
      ¬ first.toNat ≤ 250 ∧ first ≠ 0xfc := by
    rw [lenencInteger, if_neg (by omega), if_neg (by omega)]
    split_ifs
    · exact ⟨0xfd, by simp, by decide, by decide⟩
    · exact ⟨0xfe, by simp, by decide, by decide⟩
  obtain ⟨first, hget, hlong, hmarker⟩ := hfirst
  intro h
  simp only [readLenencInteger, bind_ok_iff, orFail_ok_iff, add_ok_iff, hget] at h
  obtain ⟨_, hsome, _, _, h⟩ := h
  obtain rfl := Option.some.inj hsome
  rw [if_neg hlong, if_neg hmarker] at h
  exact fail_ne_ok _ _ h

/-! ## The authentication response -/

/-- Behind the response: at its zero byte, if that is how it ends. -/
def AuthEncoding.stop : AuthEncoding → Bytes → ℕ
  | lengthEncoded, authResponse => (lenencInteger authResponse.length ++ authResponse).length
  | oneByteLength, authResponse => authResponse.length + 1
  | nulTerminated, authResponse => authResponse.length

/-- The server reads how long the response is, and where it starts. -/
def FoundAt (capabilities : UInt32) (encoding : AuthEncoding) (before authResponse after : Bytes) :
    Prop :=
  ∃ start, readAuthLength capabilities (before ++ encoding.encode authResponse ++ after)
      before.length = .ok (authResponse.length, start) ∧
    getRange (before ++ encoding.encode authResponse ++ after) start
      (start + authResponse.length) = some authResponse ∧
    start + authResponse.length = before.length + encoding.stop authResponse

variable {capabilities : UInt32} {before after authResponse : Bytes}

theorem foundAt_lengthEncoded
    (hlenenc : capabilities &&& CLIENT_PLUGIN_AUTH_LENENC_CLIENT_DATA ≠ 0)
    (hshort : authResponse.length < 256 ^ 2) (h : before.length < 2 ^ 63) :
    FoundAt capabilities .lengthEncoded before authResponse after := by
  have hinput : before ++ AuthEncoding.lengthEncoded.encode authResponse ++ after =
      before ++ lenencInteger authResponse.length ++ (authResponse ++ after) := by
    simp [AuthEncoding.encode]
  have hrange := getRange_append (before ++ lenencInteger authResponse.length) authResponse after
  rw [List.append_assoc _ authResponse after] at hrange
  rw [FoundAt, hinput, readAuthLength, if_pos hlenenc]
  refine ⟨_, readLenencInteger_lenencInteger hshort h, hrange, ?_⟩
  simp only [AuthEncoding.stop, List.length_append, Nat.add_assoc]

theorem foundAt_oneByteLength
    (hlenenc : ¬ capabilities &&& CLIENT_PLUGIN_AUTH_LENENC_CLIENT_DATA ≠ 0)
    (hsecure : capabilities &&& CLIENT_SECURE_CONNECTION ≠ 0)
    (hshort : authResponse.length < 256) (h : before.length < 2 ^ 63) :
    FoundAt capabilities .oneByteLength before authResponse after := by
  have hget :
      (before ++ AuthEncoding.oneByteLength.encode authResponse ++ after)[before.length]? =
        some (UInt8.ofNat authResponse.length) := by
    simp [AuthEncoding.encode]
  have hlength : (UInt8.ofNat authResponse.length).toNat = authResponse.length := by
    simp
    omega
  have hrange := getRange_append (before ++ [UInt8.ofNat authResponse.length]) authResponse after
  rw [List.length_append, List.length_singleton, List.append_assoc before] at hrange
  rw [FoundAt, readAuthLength, if_neg hlenenc, if_pos hsecure]
  refine ⟨before.length + 1, ?_, hrange, ?_⟩
  · simp only [bind_ok_iff, orFail_ok_iff, add_ok_iff]
    refine ⟨_, hget, _, ⟨by omega, rfl⟩, ?_⟩
    rw [hlength]
    rfl
  · rw [AuthEncoding.stop]
    omega

theorem foundAt_nulTerminated
    (hlenenc : ¬ capabilities &&& CLIENT_PLUGIN_AUTH_LENENC_CLIENT_DATA ≠ 0)
    (hsecure : ¬ capabilities &&& CLIENT_SECURE_CONNECTION ≠ 0) (hnul : 0 ∉ authResponse) :
    FoundAt capabilities .nulTerminated before authResponse after := by
  have hinput : before ++ AuthEncoding.nulTerminated.encode authResponse ++ after =
      before ++ (authResponse ++ 0 :: after) := by
    simp [AuthEncoding.encode]
  have hrange := getRange_append before authResponse (0 :: after)
  rw [List.append_assoc] at hrange
  rw [FoundAt, hinput, readAuthLength, if_neg hlenenc, if_neg hsecure]
  refine ⟨before.length, ?_, hrange, rfl⟩
  simp only [bind_ok_iff, orFail_ok_iff, slice_ok_iff]
  exact ⟨_, getRange_to_end _ _, _, findIdx?_zero hnul _, rfl⟩

theorem foundAt_authEncoding (hholds : (authEncoding capabilities).Holds authResponse)
    (hshort : authEncoding capabilities = .lengthEncoded → authResponse.length < 256 ^ 2)
    (h : before.length < 2 ^ 63) :
    FoundAt capabilities (authEncoding capabilities) before authResponse after := by
  unfold authEncoding at *
  split_ifs at * with hlenenc hsecure
  · exact foundAt_lengthEncoded hlenenc (hshort rfl) h
  · exact foundAt_oneByteLength hlenenc hsecure hholds h
  · exact foundAt_nulTerminated hlenenc hsecure hholds

/-- The text that is found behind the response: an empty one at its zero byte. -/
theorem takeCstring_stop {encoding : AuthEncoding} {name : Text}
    (hname : '\x00' ∉ name)
    (h : (before ++ encoding.encode authResponse ++ cstring name ++ after).length < 2 ^ 63) :
    ∃ stop, takeCstring (before ++ encoding.encode authResponse ++ cstring name ++ after)
      (before.length + encoding.stop authResponse) =
        .ok (if encoding = .nulTerminated then [] else name, stop) := by
  cases encoding with
  | lengthEncoded =>
    have hstop : before.length + AuthEncoding.lengthEncoded.stop authResponse =
        (before ++ AuthEncoding.lengthEncoded.encode authResponse).length := by
      rw [List.length_append]
      rfl
    rw [hstop]
    exact ⟨_, takeCstring_cstring hname h⟩
  | oneByteLength =>
    have hstop : before.length + AuthEncoding.oneByteLength.stop authResponse =
        (before ++ AuthEncoding.oneByteLength.encode authResponse).length := by
      simp [AuthEncoding.stop, AuthEncoding.encode]
    rw [hstop]
    exact ⟨_, takeCstring_cstring hname h⟩
  | nulTerminated =>
    have hinput :
        before ++ AuthEncoding.nulTerminated.encode authResponse ++ cstring name ++ after =
          before ++ authResponse ++ cstring [] ++ (cstring name ++ after) := by
      simp [AuthEncoding.encode, cstring]
    have hstop : before.length + AuthEncoding.nulTerminated.stop authResponse =
        (before ++ authResponse).length := by
      rw [List.length_append]
      rfl
    rw [hinput] at h ⊢
    rw [hstop]
    exact ⟨_, takeCstring_cstring List.not_mem_nil h⟩

/-! ## Whole responses -/

namespace HandshakeResponse41

variable (response : HandshakeResponse41)

def encoding : AuthEncoding := authEncoding response.capabilities

/-- The database that the server finds. -/
def foundDatabase : Option Text :=
  response.database.map fun name => if response.encoding = .nulTerminated then [] else name

/-- The server reads the whole length of the response. -/
def ShortEnough : Prop :=
  response.encoding = .lengthEncoded → response.authResponse.length < 256 ^ 2

/-- What is in front of the authentication response. -/
def front : Bytes :=
  leBytes 4 response.capabilities.toNat ++ response.settings.toList ++ cstring response.username

/-- What is behind the authentication response. -/
def back : Bytes := (response.database.map cstring).getD [] ++ response.pluginName

theorem encode_eq :
    response.encode = response.front ++ (authEncoding response.capabilities).encode
      response.authResponse ++ response.back := by
  simp only [encode, front, back, List.append_assoc]

theorem length_front : response.front.length = 32 + (cstring response.username).length := by
  simp [front]
  omega

theorem capabilities_encode :
    ∃ word, getRange response.encode 0 4 = some word ∧
      UInt32.ofNat (leValue word) = response.capabilities := by
  use leBytes 4 response.capabilities.toNat
  constructor
  · have hmiddle := getRange_append [] (leBytes 4 response.capabilities.toNat)
      (response.settings.toList ++ cstring response.username ++
        ((authEncoding response.capabilities).encode response.authResponse ++ response.back))
    rw [leBytes_length] at hmiddle
    rw [encode_eq, front]
    simpa only [List.append_assoc, List.nil_append, List.length_nil, Nat.zero_add] using hmiddle
  · rw [leValue_leBytes_of_lt response.capabilities.toNat_lt, UInt32.ofNat_toNat]

theorem username_encode (h : response.encode.length < 2 ^ 63) :
    takeCstring response.encode 32 = .ok (response.username, response.front.length) := by
  have hencode : response.encode =
      leBytes 4 response.capabilities.toNat ++ response.settings.toList ++
        cstring response.username ++
        ((authEncoding response.capabilities).encode response.authResponse ++ response.back) := by
    rw [encode_eq, List.append_assoc, front]
  have hstart :
      (leBytes 4 response.capabilities.toNat ++ response.settings.toList).length = 32 := by simp
  rw [hencode] at h ⊢
  rw [← hstart, front]
  exact takeCstring_cstring response.username_nul h

/-- What the server reads of a database. -/
theorem database_encode (h : response.encode.length < 2 ^ 63) :
    (if response.capabilities &&& CLIENT_CONNECT_WITH_DB ≠ 0 then do
      let (database, _) ← takeCstring response.encode
        (response.front.length + response.encoding.stop response.authResponse)
      return ⟨response.username, response.authResponse, some database⟩
    else return ⟨response.username, response.authResponse, none⟩ : Checked Text HandshakeResponse) =
      .ok ⟨response.username, response.authResponse, response.foundDatabase⟩ := by
  cases hdatabase : response.database with
  | none =>
    have hgiven : ¬ response.capabilities &&& CLIENT_CONNECT_WITH_DB ≠ 0 := by
      rw [← response.database_given, hdatabase]
      simp
    rw [if_neg hgiven, foundDatabase, hdatabase]
    rfl
  | some name =>
    have hgiven : response.capabilities &&& CLIENT_CONNECT_WITH_DB ≠ 0 := by
      rw [← response.database_given, hdatabase]
      rfl
    have hback : response.back = cstring name ++ response.pluginName := by simp [back, hdatabase]
    have hencode : response.encode = response.front ++ response.encoding.encode
        response.authResponse ++ cstring name ++ response.pluginName := by
      rw [encode_eq, hback, ← List.append_assoc, encoding]
    rw [hencode] at h ⊢
    obtain ⟨stop, hfound⟩ := takeCstring_stop (response.database_nul name hdatabase) h
    rw [if_pos hgiven, hfound, foundDatabase, hdatabase]
    rfl

theorem parse_encode (hshort : response.ShortEnough) (h : response.encode.length < 2 ^ 63) :
    parseHandshakeResponse response.encode =
      .ok ⟨response.username, response.authResponse, response.foundDatabase⟩ := by
  have hlength := response.length_front
  have hfront : response.front.length ≤ response.encode.length := by
    rw [encode_eq, List.length_append, List.length_append]
    omega
  obtain ⟨start, hauth, hrange, hstop⟩ := @foundAt_authEncoding response.capabilities
    response.front response.back response.authResponse response.auth_holds hshort (by omega)
  rw [← encode_eq] at hauth hrange
  have hbound := (length_of_getRange hrange).2.1
  obtain ⟨word, hword, hcapabilities⟩ := response.capabilities_encode
  simp only [parseHandshakeResponse, bind_ok_iff, ensure_ok_iff, slice_ok_iff]
  refine ⟨(), by omega, word, hword, (), ?_, _, response.username_encode h, ?_⟩
  · rw [hcapabilities]
    exact response.protocol41
  · rw [hcapabilities]
    dsimp only
    simp only [orFail_ok_iff, add_ok_iff]
    refine ⟨_, hauth, _, ⟨by dsimp only; omega, rfl⟩, _, hrange, _, ⟨by dsimp only; omega, rfl⟩, ?_⟩
    dsimp only
    rw [hstop]
    exact response.database_encode h

/-- A longer response than the server reads is refused. -/
theorem shortEnough_of_parse {found : HandshakeResponse} (h : response.encode.length < 2 ^ 63)
    (hparse : parseHandshakeResponse response.encode = .ok found) : response.ShortEnough := by
  intro hencoding
  by_contra hlong
  have hencode : response.encode = response.front ++
      lenencInteger response.authResponse.length ++ (response.authResponse ++ response.back) := by
    rw [encode_eq, ← encoding, hencoding, AuthEncoding.encode]
    simp only [List.append_assoc]
  have hlenenc : response.capabilities &&& CLIENT_PLUGIN_AUTH_LENENC_CLIENT_DATA ≠ 0 := by
    rw [encoding, authEncoding] at hencoding
    split_ifs at hencoding with hbit
    exact hbit
  obtain ⟨word, hword, hcapabilities⟩ := response.capabilities_encode
  simp only [parseHandshakeResponse, bind_ok_iff, slice_ok_iff, hword,
    response.username_encode h] at hparse
  obtain ⟨_, _, _, hsome, _, _, _, huser, _, hauth, _⟩ := hparse
  obtain rfl := Option.some.inj hsome
  obtain rfl := Except.ok.inj huser
  rw [hcapabilities, readAuthLength, if_pos hlenenc, hencode] at hauth
  exact readLenencInteger_of_long (Nat.le_of_not_lt hlong) _ hauth

/-- Where the response ends with a zero byte, a database behind it is empty. -/
def DatabaseInPlace : Prop :=
  response.encoding = .nulTerminated → ∀ name ∈ response.database, name = []

theorem foundDatabase_eq_iff :
    response.foundDatabase = response.database ↔ response.DatabaseInPlace := by
  rw [foundDatabase, DatabaseInPlace]
  cases response.database with
  | none => simp
  | some name => simp [eq_comm]

theorem shortEnough_of_fits (h : response.encode.length ≤ MAX_PACKET_SIZE) :
    response.ShortEnough := by
  intro hencoding
  rw [encode_eq, ← encoding, hencoding, AuthEncoding.encode] at h
  have hlength := response.length_front
  simp only [List.length_append, MAX_PACKET_SIZE] at h
  omega

/-- A response is read back exactly if its length has at most two bytes and its database is not
behind a zero byte; in a packet that the server reads, the length is no condition. -/
theorem parse_encode_iff (h : response.encode.length < 2 ^ 63) :
    (parseHandshakeResponse response.encode =
        .ok ⟨response.username, response.authResponse, response.database⟩ ↔
      response.ShortEnough ∧ response.DatabaseInPlace) ∧
    (response.encode.length ≤ MAX_PACKET_SIZE →
      (parseHandshakeResponse response.encode =
          .ok ⟨response.username, response.authResponse, response.database⟩ ↔
        response.DatabaseInPlace)) := by
  have hiff : parseHandshakeResponse response.encode =
      .ok ⟨response.username, response.authResponse, response.database⟩ ↔
        response.ShortEnough ∧ response.DatabaseInPlace := by
    constructor
    · intro hparse
      have hshort := response.shortEnough_of_parse h hparse
      rw [response.parse_encode hshort h, Except.ok.injEq, HandshakeResponse.mk.injEq] at hparse
      exact ⟨hshort, response.foundDatabase_eq_iff.mp hparse.2.2⟩
    · intro hcondition
      rw [response.parse_encode hcondition.1 h,
        response.foundDatabase_eq_iff.mpr hcondition.2]
  constructor
  · exact hiff
  · intro hfits
    rw [hiff]
    exact and_iff_right (response.shortEnough_of_fits hfits)

end HandshakeResponse41

theorem holds_nulTerminated {capabilities : UInt32} {authResponse : Bytes}
    (hencoding : authEncoding capabilities = .nulTerminated) (h : 0 ∉ authResponse) :
    (authEncoding capabilities).Holds authResponse := by
  rw [hencoding]
  exact h

theorem holds_oneByteLength {capabilities : UInt32} {authResponse : Bytes}
    (hencoding : authEncoding capabilities = .oneByteLength) (h : authResponse.length < 256) :
    (authEncoding capabilities).Holds authResponse := by
  rw [hencoding]
  exact h

/-- The capabilities say nothing about the authentication response. -/
def oldLogin : HandshakeResponse41 where
  capabilities := CLIENT_PROTOCOL_41 ||| CLIENT_CONNECT_WITH_DB
  protocol41 := by decide
  settings := Vector.replicate 28 0
  username := "root"
  username_nul := by decide
  authResponse := [0x61]
  auth_holds := holds_nulTerminated (by decide) (by decide)
  database := some "mysql"
  database_given := by decide
  database_nul := by decide
  pluginName := []

/-- The zero byte of the authentication response is read as an empty database. -/
theorem oldLogin_not_parsed :
    oldLogin.encode.length ≤ MAX_PACKET_SIZE ∧
      parseHandshakeResponse oldLogin.encode = .ok ⟨"root", [0x61], some []⟩ ∧
      parseHandshakeResponse oldLogin.encode ≠
        .ok ⟨oldLogin.username, oldLogin.authResponse, oldLogin.database⟩ := by
  have hfits : oldLogin.encode.length ≤ MAX_PACKET_SIZE := by decide
  have hparse := oldLogin.parse_encode (oldLogin.shortEnough_of_fits hfits) (by decide)
  refine ⟨hfits, hparse, ?_⟩
  rw [hparse]
  intro h
  have hdatabase := congrArg HandshakeResponse.database (Except.ok.inj h)
  exact absurd hdatabase (by decide)

/-- The response starts with its length. -/
def secureLogin : HandshakeResponse41 where
  capabilities := CLIENT_PROTOCOL_41 ||| CLIENT_CONNECT_WITH_DB ||| CLIENT_SECURE_CONNECTION
  protocol41 := by decide
  settings := Vector.replicate 28 0
  username := "root"
  username_nul := by decide
  authResponse := [0x00, 0x61]
  auth_holds := holds_oneByteLength (by decide) (by decide)
  database := some "mysql"
  database_given := by decide
  database_nul := by decide
  pluginName := cstring "mysql_native_password"

theorem parse_encode_iff_secureLogin :
    secureLogin.encode.length ≤ MAX_PACKET_SIZE ∧
      parseHandshakeResponse secureLogin.encode =
        .ok ⟨"root", [0x00, 0x61], some "mysql"⟩ := by
  have hfits : secureLogin.encode.length ≤ MAX_PACKET_SIZE := by decide
  have hplace : secureLogin.DatabaseInPlace := by
    intro hencoding
    exact absurd hencoding (by decide)
  have hiff := (secureLogin.parse_encode_iff (by decide)).2 hfits
  exact ⟨hfits, hiff.mpr hplace⟩

end ProtocolSimulation.Engine.Mysql
