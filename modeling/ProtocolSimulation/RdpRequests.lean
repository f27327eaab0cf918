import ProtocolSimulation.Rdp

/-!
# What the RDP simulation reads of a connection request

A request names a user on a line of text and asks for protocols behind it. The
protocols are always read; the user only if everything behind the header is text.
-/
namespace ProtocolSimulation.Engine.Rdp

open ProtocolSimulation.Texts ProtocolSimulation.BigEndian ProtocolSimulation.Windows

/-- A printable name without blanks around it. -/
structure IsUser (user : Text) : Prop where
  printable : ∀ c ∈ user, 32 ≤ c.toNat ∧ c.toNat < 127
  trimmed : trim user = user

structure Request where
  header : Bytes
  user : Text
  flags : UInt8
  protocols : UInt32
  /-- What follows the negotiation request. -/
  more : Bytes

namespace Request

variable (request : Request)

/-- The line that names the user, without its end. -/
def cookie : Text := ("Cookie: mstshash=" : Text) ++ request.user

def cookieLine : Text := request.cookie ++ ("\r\n" : Text)

/-- The negotiation request and what follows it. -/
def negotiation : Bytes :=
  [0x01, request.flags, 0x08, 0x00] ++ leBytes 4 request.protocols.toNat ++ request.more

def encode : Bytes := request.header ++ utf8Encode request.cookieLine ++ request.negotiation

structure Valid : Prop where
  length : request.header.length = 11
  version : request.header[0]? = some TPKT_VERSION
  code : request.header[5]? = some 0xe0
  user : IsUser request.user

/-- Are the protocols and what follows them text, after flags that are ASCII? -/
def IsText : Prop :=
  request.flags.toNat < 128 ∧
    (utf8Decode (leBytes 4 request.protocols.toNat ++ request.more)).isSome = true

end Request

section Read

variable {request : Request}

/-- The line is ASCII, without the byte that opens a negotiation request. -/
theorem cookieLine_ascii (h : IsUser request.user) :
    ∀ c ∈ request.cookieLine, c.toNat < 128 ∧ c.toNat ≠ 1 := by
  intro c hc
  have hline : request.cookieLine =
      ("Cookie: mstshash=" : Text) ++ request.user ++ ("\r\n" : Text) := rfl
  rw [hline, List.mem_append, List.mem_append] at hc
  obtain (hlabel | huser) | hend := hc
  · have hlabels : ("Cookie: mstshash=" : Text).all (fun d => d.toNat < 128 && d.toNat != 1) =
        true := rfl
    simpa using List.all_eq_true.mp hlabels c hlabel
  · have := h.printable c huser
    omega
  · have hends : ("\r\n" : Text).all (fun d => d.toNat < 128 && d.toNat != 1) = true := rfl
    simpa using List.all_eq_true.mp hends c hend

theorem parseConnectionRequest_encode (h : request.Valid) :
    parseConnectionRequest request.encode =
      (cookieUser (utf8Encode request.cookieLine ++ request.negotiation),
        requestedProtocols (utf8Encode request.cookieLine ++ request.negotiation)) := by
  have hencode : request.encode =
      request.header ++ (utf8Encode request.cookieLine ++ request.negotiation) :=
    List.append_assoc _ _ _
  have hlength : ¬ request.encode.length < 11 := by
    rw [hencode, List.length_append, h.length]
    omega
  have hget {i : ℕ} (hi : i < 11) : request.encode[i]? = request.header[i]? := by
    rw [hencode]
    exact List.getElem?_append_left (by rw [h.length]; exact hi)
  have hdrop : request.encode.drop 11 =
      utf8Encode request.cookieLine ++ request.negotiation := by
    rw [hencode, ← h.length, List.drop_left]
  rw [parseConnectionRequest, if_neg hlength, hget (by decide), hget (by decide), h.version,
    h.code, if_neg (not_not.mpr rfl), if_neg (not_not.mpr rfl), hdrop]

/-! ## The protocols -/

theorem windowProtocols_of_ne {b : UInt8} (h : b ≠ 1) (rest : Bytes) :
    windowProtocols (b :: rest) = none := by
  unfold windowProtocols
  split
  · next heq =>
    obtain ⟨rfl, -⟩ := List.cons.inj heq
    rw [if_neg fun hwindow => h hwindow.1]
  · rfl

theorem requestedProtocols_negotiation (request : Request) :
    requestedProtocols request.negotiation = some request.protocols := by
  have hvalue : UInt32.ofNat (leValue (leBytes 4 request.protocols.toNat)) = request.protocols := by
    rw [leValue_leBytes_of_lt request.protocols.toNat_lt, UInt32.ofNat_toNat]
  have hlength := leBytes_length 4 request.protocols.toNat
  unfold Request.negotiation
  generalize leBytes 4 request.protocols.toNat = bytes at hvalue hlength
  obtain ⟨a, b, c, d, rfl⟩ := List.length_eq_four.mp hlength
  have hwindow : windowProtocols [0x01, request.flags, 0x08, 0x00, a, b, c, d] =
      some request.protocols := by
    rw [← hvalue]
    rfl
  have htake : (0x01 :: ([request.flags, 0x08, 0x00] ++ [a, b, c, d] ++ request.more)).take 8 =
      [0x01, request.flags, 0x08, 0x00, a, b, c, d] := rfl
  rw [requestedProtocols, List.cons_append, List.cons_append, windows_cons (by simp),
    List.findSome?_cons, htake, hwindow]

/-- The protocols are read where they are: no window before them looks like them. -/
theorem requestedProtocols_eq (h : IsUser request.user) :
    requestedProtocols (utf8Encode request.cookieLine ++ request.negotiation) =
      some request.protocols := by
  have hlong : 8 ≤ request.negotiation.length := by simp [Request.negotiation]
  rw [requestedProtocols, findSome?_windows_append ?_ hlong]
  · exact requestedProtocols_negotiation request
  · intro rest hrest hne
    obtain ⟨b, rest, rfl⟩ := List.exists_cons_of_ne_nil hne
    have hb : b ≠ 1 := by
      rintro rfl
      have hmem : (1 : UInt8) ∈ utf8Encode request.cookieLine := hrest.subset List.mem_cons_self
      have hchar := mem_of_mem_utf8Encode (by decide) hmem
      exact (cookieLine_ascii h _ hchar).2 rfl
    exact windowProtocols_of_ne hb _

/-! ## The user -/

/-- Behind the line, only text is decoded. -/
theorem utf8Decode_payload (h : IsUser request.user) :
    utf8Decode (utf8Encode request.cookieLine ++ request.negotiation) =
      (utf8Decode request.negotiation).map fun t => request.cookieLine ++ t :=
  utf8Decode_append (fun c hc => (cookieLine_ascii h c hc).1) _

theorem isSome_utf8Decode_negotiation_iff :
    (utf8Decode request.negotiation).isSome = true ↔ request.IsText := by
  have hone (rest : Bytes) : (utf8Decode (0x01 :: rest)).isSome = (utf8Decode rest).isSome := by
    rw [utf8Decode_cons (by decide), Option.isSome_map]
  have htail (rest : Bytes) :
      (utf8Decode (0x08 :: 0x00 :: rest)).isSome = (utf8Decode rest).isSome := by
    rw [utf8Decode_cons (by decide), Option.isSome_map, utf8Decode_cons (by decide),
      Option.isSome_map]
  have hsplit : request.negotiation = 0x01 :: request.flags :: 0x08 :: 0x00 ::
      (leBytes 4 request.protocols.toNat ++ request.more) := rfl
  rw [hsplit, hone, Request.IsText]
  by_cases hflags : request.flags.toNat < 128
  · rw [utf8Decode_cons hflags, Option.isSome_map, htail]
    simp [hflags]
  · rw [utf8Decode_broken (not_lt.mp hflags) (by decide)]
    simp [hflags]

theorem cookieUser_eq (h : IsUser request.user) :
    cookieUser (utf8Encode request.cookieLine ++ request.negotiation) =
      if (utf8Decode request.negotiation).isSome then some request.user else none := by
  rw [cookieUser, utf8Decode_payload h]
  cases utf8Decode request.negotiation with
  | none => rfl
  | some t =>
    have hline : '\n' ∉ request.cookie := by
      intro hnewline
      obtain hlabel | huser := List.mem_append.mp hnewline
      · exact absurd hlabel (by decide)
      · exact absurd (h.printable _ huser).1 (by decide)
    have hlines : lines (request.cookieLine ++ t) = request.cookie :: lines t :=
      (congrArg lines (List.append_assoc request.cookie _ t)).trans (lines_append_crlf hline t)
    have hprefixed : stripPrefix "Cookie: mstshash=" request.cookie = some request.user :=
      stripPrefix_eq_some_iff.mpr rfl
    have hfind : (lines (request.cookieLine ++ t)).find?
        (fun line => (stripPrefix "Cookie: mstshash=" line).isSome) = some request.cookie := by
      rw [hlines]
      exact List.find?_cons_of_pos (by rw [hprefixed]; rfl)
    rw [Option.map_some, Option.bind_eq_bind, Option.bind_some, hfind]
    simp only [Option.bind_some, hprefixed]
    exact congrArg some h.trimmed

end Read

/-- The protocols are read. The user is if what follows the cookie is text. -/
theorem parseConnectionRequest_iff (request : Request) (h : request.Valid) :
    (parseConnectionRequest request.encode).2 = some request.protocols ∧
      (parseConnectionRequest request.encode = (some request.user, some request.protocols) ↔
        request.IsText) := by
  rw [parseConnectionRequest_encode h, requestedProtocols_eq h.user, cookieUser_eq h.user,
    ← isSome_utf8Decode_negotiation_iff]
  use rfl
  split_ifs with htext
  · exact iff_of_true rfl htext
  · exact iff_of_false (by simp) htext

/-- The header of a request, of which the lengths are not looked at. -/
def requestHeader : Bytes := [3, 0, 0, 0, 0, 0xe0, 0, 0, 0, 0, 0]

theorem isUser_alice : IsUser "alice" where
  printable := by simp
  trimmed := by decide

/-- A request for TLS or CredSSP, without anything behind it. -/
def plainRequest : Request := ⟨requestHeader, "alice", 0, 3, []⟩

theorem valid_plainRequest : plainRequest.Valid := ⟨rfl, rfl, rfl, isUser_alice⟩

theorem plainRequest_read :
    parseConnectionRequest plainRequest.encode = (some ("alice" : Text), some 3) := by
  have htext : plainRequest.IsText := ⟨by decide, by decide +kernel⟩
  exact (parseConnectionRequest_iff plainRequest valid_plainRequest).2.mpr htext

/-- The same request with a correlation id, whose bytes are not text. -/
def correlatedRequest : Request :=
  ⟨requestHeader, "alice", 0x08, 3,
    [0x06, 0x00, 0x24, 0x00] ++ List.replicate 16 0x9f ++ List.replicate 16 0x00⟩

theorem correlatedRequest_read :
    correlatedRequest.Valid ∧
      parseConnectionRequest correlatedRequest.encode = (none, some 3) ∧
      parseConnectionRequest correlatedRequest.encode ≠ (some ("alice" : Text), some 3) := by
  have hread : parseConnectionRequest correlatedRequest.encode = (none, some 3) := by
    decide +kernel
  refine ⟨⟨rfl, rfl, rfl, isUser_alice⟩, hread, ?_⟩
  rw [hread]
  simp

end ProtocolSimulation.Engine.Rdp
