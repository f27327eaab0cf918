import ProtocolSimulation.BigEndian
import ProtocolSimulation.Ldap

/-!
# LDAP messages and their answers

A message is a sequence of its id and an operation. A response answers it if it
carries the same id, and is a bind response for a bind request only.
-/
namespace ProtocolSimulation.Engine.Ldap

open ProtocolSimulation.Texts ProtocolSimulation.Conversations ProtocolSimulation.BigEndian

/-! ## Messages -/

/-- The length of a value, in the short or in the long form. -/
inductive IsLength : Bytes → ℕ → Prop where
  | short (b : UInt8) (h : b.toNat < 128) : IsLength [b] b.toNat
  | long (digits : Bytes) (hne : digits ≠ []) (h : digits.length < 127) :
      IsLength (UInt8.ofNat (128 + digits.length) :: digits) (beValue digits)

/-- The shortest signed encoding of a number below 2147483648. -/
def integerOctets (n : ℕ) : Bytes :=
  if n < 128 then beBytes 1 n
  else if n < 32768 then beBytes 2 n
  else if n < 8388608 then beBytes 3 n
  else beBytes 4 n

structure Message where
  lengthOctets : Bytes
  messageId : ℕ
  opTag : UInt8
  opLengthOctets : Bytes
  opContent : Bytes
  /-- The controls, if there are any. -/
  controls : Bytes

namespace Message

variable (message : Message)

/-- The tag and the length of the id, and the id. -/
def idElement : Bytes :=
  0x02 :: UInt8.ofNat (integerOctets message.messageId).length :: integerOctets message.messageId

def content : Bytes :=
  message.idElement ++
    message.opTag :: (message.opLengthOctets ++ message.opContent ++ message.controls)

def encode : Bytes := 0x30 :: (message.lengthOctets ++ message.content)

structure Valid : Prop where
  length : IsLength message.lengthOctets message.content.length
  messageId : message.messageId < 2147483648
  opLength : IsLength message.opLengthOctets message.opContent.length

end Message

/-- The tags of BindRequest and BindResponse. -/
def BIND_REQUEST : UInt8 := 0x60

def BIND_RESPONSE : UInt8 := 0x61

/-- The reply is a message without controls that answers the request. -/
def Answers (message : Message) (reply : Bytes) : Prop :=
  ∃ answer : Message, answer.Valid ∧ answer.controls = [] ∧ reply = answer.encode ∧
    answer.messageId = message.messageId ∧
    (answer.opTag = BIND_RESPONSE ↔ message.opTag = BIND_REQUEST)

/-! ## What the scan finds -/

/-- Behind length octets, the id is found, or the tag of the id in its place if the length is
0x0201. -/
theorem ldapMessageId_digits {digits : Bytes} (h : beValue digits < 65536) (id : UInt8)
    (rest : Bytes) :
    ldapMessageId (digits ++ 0x02 :: 0x01 :: id :: rest) =
      if beValue digits = 513 then 2 else id := by
  induction digits with
  | nil => simp
  | cons d digits ih =>
    rw [beValue_cons] at h ⊢
    by_cases hd : d = 0
    · subst hd
      have hzero : (0 : UInt8).toNat = 0 := rfl
      rw [hzero, Nat.zero_mul, Nat.zero_add] at h ⊢
      rw [← ih h]
      cases digits with
      | nil => simp
      | cons e digits =>
        cases digits with
        | nil => simp
        | cons f digits => simp
    · have hpos : 0 < d.toNat := by
        by_contra hzero
        exact hd (UInt8.toNat_inj.mp (by simpa using hzero))
      cases digits with
      | nil =>
        have hlt := d.toNat_lt
        have hne : ¬ (d.toNat * 256 ^ ([] : Bytes).length + beValue [] = 513) := by
          simp only [List.length_nil, pow_zero, beValue_nil]
          omega
        rw [if_neg hne]
        simp
      | cons e digits =>
        cases digits with
        | nil =>
          have hiff : d.toNat * 256 ^ [e].length + beValue [e] = 513 ↔ d = 2 ∧ e = 1 := by
            have hd' := d.toNat_lt
            have he' := e.toNat_lt
            rw [← UInt8.toNat_inj, ← UInt8.toNat_inj]
            simp only [List.length_singleton, pow_one, beValue_cons, List.length_nil, pow_zero,
              beValue_nil]
            have h2 : (2 : UInt8).toNat = 2 := rfl
            have h1 : (1 : UInt8).toNat = 1 := rfl
            rw [h2, h1]
            omega
          simp only [hiff]
          simp
        | cons f digits =>
          exfalso
          have hpow : 65536 ≤ 256 ^ (e :: f :: digits).length := by
            simp only [List.length_cons, pow_succ]
            have := Nat.one_le_pow digits.length 256 (by decide)
            omega
          have hmul := Nat.mul_le_mul hpos hpow
          omega

section Message

variable {message : Message}

theorem integerOctets_of_lt {n : ℕ} (h : n < 128) : integerOctets n = [UInt8.ofNat n] := by
  rw [integerOctets, if_pos h]
  simp [beBytes]

/-- Only an id below 128 takes a single byte. -/
theorem lt_of_integerOctets_length {n : ℕ}
    (h : UInt8.ofNat (integerOctets n).length = 0x01) : n < 128 := by
  by_contra hlt
  unfold integerOctets at h
  rw [if_neg hlt] at h
  split_ifs at h
  · rw [beBytes_length] at h
    exact absurd h (by decide)
  · rw [beBytes_length] at h
    exact absurd h (by decide)
  · rw [beBytes_length] at h
    exact absurd h (by decide)

theorem ldapMessageId_encode (h : message.Valid) (hid : message.messageId < 128)
    (hsize : message.encode.length ≤ 8192) :
    ldapMessageId message.encode =
      if message.content.length = 513 then 2 else UInt8.ofNat message.messageId := by
  have hcontent : message.content.length ≤ 8192 := by
    simp only [Message.encode, List.length_cons, List.length_append] at hsize
    omega
  obtain ⟨rest, hrest⟩ : ∃ rest, message.content =
      0x02 :: 0x01 :: UInt8.ofNat message.messageId :: rest := by
    rw [Message.content, Message.idElement, integerOctets_of_lt hid]
    exact ⟨_, rfl⟩
  have hlength := h.length
  rw [Message.encode]
  generalize message.lengthOctets = octets at hlength ⊢
  generalize hn : message.content.length = n at hlength hcontent ⊢
  rw [hrest]
  cases hlength with
  | short b hb =>
    have hne : b.toNat ≠ 513 := by omega
    rw [if_neg hne]
    simp
  | long digits hdigits hfew =>
    have hlt : beValue digits < 65536 := by omega
    have hfirst : UInt8.ofNat (128 + digits.length) ≠ 2 := by
      intro heq
      have hval := congrArg UInt8.toNat heq
      rw [UInt8.toNat_ofNat_of_lt' (by rw [UInt8.size]; omega)] at hval
      have h2 : (2 : UInt8).toNat = 2 := rfl
      omega
    generalize UInt8.ofNat (128 + digits.length) = count at hfirst ⊢
    rw [← ldapMessageId_digits hlt _ rest]
    cases digits with
    | nil => exact absurd rfl hdigits
    | cons d digits =>
      cases digits with
      | nil => simp [hfirst]
      | cons e digits => simp [hfirst]

/-! ## When the response answers the message -/

theorem answers_response_iff (payload : Bytes) :
    Answers message (response payload) ↔
      (ldapMessageId payload).toNat < 128 ∧ (ldapMessageId payload).toNat = message.messageId ∧
        ((classify payload).2.2 = BIND_RESPONSE ↔ message.opTag = BIND_REQUEST) := by
  rw [response]
  generalize ldapMessageId payload = id
  generalize (classify payload).2.2 = tag
  constructor
  · rintro ⟨answer, hvalid, hcontrols, hreply, hid, htag⟩
    have hlength := hvalid.length
    rw [Message.encode] at hreply
    generalize answer.lengthOctets = octets at hlength hreply
    generalize answer.content.length = n at hlength
    cases hlength with
    | long digits hdigits hfew =>
      exfalso
      have hsecond : (0x0c : UInt8) = UInt8.ofNat (128 + digits.length) := by
        simp only [List.cons_append, List.cons.injEq] at hreply
        exact hreply.2.1
      have hval := congrArg UInt8.toNat hsecond
      rw [UInt8.toNat_ofNat_of_lt' (by rw [UInt8.size]; omega)] at hval
      have h12 : (0x0c : UInt8).toNat = 12 := rfl
      omega
    | short b hb =>
      rw [Message.content, Message.idElement] at hreply
      simp only [List.cons_append, List.nil_append, List.cons.injEq, true_and] at hreply
      obtain ⟨-, hone, hrest⟩ := hreply
      have hlt := lt_of_integerOctets_length hone.symm
      rw [integerOctets_of_lt hlt] at hrest
      simp only [List.cons_append, List.nil_append, List.cons.injEq] at hrest
      obtain ⟨rfl, rfl, -⟩ := hrest
      rw [UInt8.toNat_ofNat_of_lt' (by rw [UInt8.size]; omega)]
      exact ⟨hlt, hid, htag⟩
  · rintro ⟨hlt, hid, htag⟩
    have hoctets : integerOctets id.toNat = [id] := by
      rw [integerOctets_of_lt hlt, UInt8.ofNat_toNat]
    use ⟨[0x0c], id.toNat, tag, [0x07], [0x0a, 0x01, 0x00, 0x04, 0x00, 0x04, 0x00], []⟩
    have hcontent (octets : Bytes) : Message.content
        ⟨octets, id.toNat, tag, [0x07], [0x0a, 0x01, 0x00, 0x04, 0x00, 0x04, 0x00], []⟩ =
          [0x02, 0x01, id, tag, 0x07, 0x0a, 0x01, 0x00, 0x04, 0x00, 0x04, 0x00] := by
      rw [Message.content, Message.idElement, hoctets]
      rfl
    refine ⟨⟨?_, ?_, IsLength.short 0x07 (by decide)⟩, rfl, ?_, hid, htag⟩
    · rw [hcontent]
      exact IsLength.short 0x0c (by decide)
    · show id.toNat < 2147483648
      omega
    · rw [Message.encode, hcontent]
      rfl

theorem classify_tag_iff (payload : Bytes) :
    (classify payload).2.2 = BIND_RESPONSE ↔ BIND_REQUEST ∈ payload := by
  rw [classify]
  split_ifs with hbind hsearch
  · exact iff_of_true rfl (List.contains_iff_mem.mp hbind)
  · exact iff_of_false (by decide) fun h => hbind (List.contains_iff_mem.mpr h)
  · exact iff_of_false (by decide) fun h => hbind (List.contains_iff_mem.mpr h)

theorem opTag_mem_encode (message : Message) : message.opTag ∈ message.encode := by
  simp [Message.encode, Message.content]

end Message

/-- Each read is answered on its own. A message is answered if its id is below 128, and 2 if the
message takes 513 bytes, and no byte of it looks like the tag of a bind request unless it is one. -/
theorem handle_answers_iff (ctx : Context) (peer : SocketAddr) (reads : List Read) :
    written ((handle ctx peer).run reads).1 = reads.map (fun chunk => response chunk.val) ∧
    ∀ chunk ∈ reads, ∀ message : Message, message.Valid → chunk.val = message.encode →
      (Answers message (response chunk.val) ↔
        message.messageId < 128 ∧
          (message.content.length = 513 → message.messageId = 2) ∧
          (message.opTag = BIND_REQUEST ∨ BIND_REQUEST ∉ message.encode)) := by
  use written_handle ctx peer reads
  intro chunk _ message hvalid hchunk
  have hsize : message.encode.length ≤ 8192 := by
    rw [← hchunk]
    exact chunk.property.2
  have htags : (BIND_REQUEST ∈ message.encode ↔ message.opTag = BIND_REQUEST) ↔
      message.opTag = BIND_REQUEST ∨ BIND_REQUEST ∉ message.encode := by
    have hmem := opTag_mem_encode message
    constructor
    · intro h
      by_cases hbind : message.opTag = BIND_REQUEST
      · exact .inl hbind
      · exact .inr fun hin => hbind (h.mp hin)
    · rintro (hbind | hnone)
      · rw [hbind] at hmem
        exact iff_of_true hmem hbind
      · refine iff_of_false hnone ?_
        intro hbind
        rw [hbind] at hmem
        exact hnone hmem
  rw [hchunk, answers_response_iff, classify_tag_iff, htags]
  by_cases hid : message.messageId < 128
  · rw [ldapMessageId_encode hvalid hid hsize]
    by_cases hlength : message.content.length = 513
    · have h2 : (2 : UInt8).toNat = 2 := rfl
      rw [if_pos hlength, h2]
      constructor
      · rintro ⟨-, heq, htag⟩
        exact ⟨hid, fun _ => heq.symm, htag⟩
      · rintro ⟨-, heq, htag⟩
        exact ⟨by decide, (heq hlength).symm, htag⟩
    · rw [if_neg hlength, UInt8.toNat_ofNat_of_lt' (by rw [UInt8.size]; omega)]
      constructor
      · rintro ⟨-, -, htag⟩
        exact ⟨hid, fun h => absurd h hlength, htag⟩
      · rintro ⟨-, -, htag⟩
        exact ⟨hid, rfl, htag⟩
  · constructor
    · rintro ⟨hlt, heq, -⟩
      exact absurd (heq ▸ hlt) hid
    · rintro ⟨hlt, -⟩
      exact absurd hlt hid

/-- An anonymous bind request. -/
def bindRequest : Message :=
  ⟨[0x0c], 1, 0x60, [0x07], [0x02, 0x01, 0x03, 0x04, 0x00, 0x80, 0x00], []⟩

theorem valid_bindRequest : bindRequest.Valid where
  length := IsLength.short 0x0c (by decide)
  messageId := by decide
  opLength := IsLength.short 0x07 (by decide)

theorem bindRequest_answered : Answers bindRequest (response bindRequest.encode) := by
  have hanswers := (handle_answers_iff ⟨"rule-1", "local", 389, ⟨"dc=seclab"⟩⟩
    ⟨"203.0.113.9", 40000⟩ [⟨bindRequest.encode, by decide +kernel⟩]).2 _ List.mem_cons_self
    bindRequest valid_bindRequest rfl
  exact hanswers.mpr ⟨by decide, fun h => absurd h (by decide +kernel), .inl rfl⟩

/-- A request to delete an entry, with an id of two bytes. -/
def deleteRequest : Message := ⟨[0x07], 200, 0x4a, [0x01], [0x78], []⟩

theorem valid_deleteRequest : deleteRequest.Valid where
  length := IsLength.short 0x07 (by decide)
  messageId := by decide
  opLength := IsLength.short 0x01 (by decide)

/-- The response has the id 1. -/
theorem deleteRequest_not_answered :
    deleteRequest.Valid ∧ deleteRequest.encode.length ≤ 8192 ∧
      response deleteRequest.encode =
        [0x30, 0x0c, 0x02, 0x01, 0x01, 0x65, 0x07, 0x0a, 0x01, 0x00, 0x04, 0x00, 0x04, 0x00] ∧
      ¬ Answers deleteRequest (response deleteRequest.encode) := by
  have hid : ldapMessageId deleteRequest.encode = 1 := by decide +kernel
  refine ⟨valid_deleteRequest, by decide +kernel, by decide +kernel, ?_⟩
  rw [answers_response_iff, hid]
  rintro ⟨-, heq, -⟩
  exact absurd heq (by decide)

end ProtocolSimulation.Engine.Ldap
