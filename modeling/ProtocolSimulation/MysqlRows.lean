import ProtocolSimulation.Mysql

/-!
# The rows of a query result

A length-encoded text is its length and its bytes. The reader in the server
knows lengths of one byte up to 250, and lengths of two bytes after a prefix.
-/
namespace ProtocolSimulation.Engine.Mysql

open ProtocolSimulation.Texts ProtocolSimulation.BigEndian ProtocolSimulation.Fallible
open ProtocolSimulation.Panics

/-! ## Length-encoded texts -/

/-- The bytes that `push_lenenc_string` adds. -/
def lenencString (value : Text) : Bytes := UInt8.ofNat (byteLen value) :: utf8Encode value

theorem foldl_pushLenencString (values : List Text) (payload : Bytes) :
    values.foldl pushLenencString payload = payload ++ values.flatMap lenencString := by
  induction values generalizing payload with
  | nil => simp
  | cons value values ih => simp [ih, pushLenencString, lenencString]

/-- From the offset on there is the length of a text, then the bytes of the text up to `stop`. -/
def LenencAt (input : Bytes) (offset : ℕ) (value : Text) (stop : ℕ) : Prop :=
  ∃ start, readLenencInteger input offset = .ok (byteLen value, start) ∧
    getRange input start stop = some (utf8Encode value)

/-- From the offset on there are the texts, one after the other. -/
def LenencsAt (input : Bytes) : ℕ → List Text → ℕ → Prop
  | offset, [], stop => stop = offset
  | offset, value :: values, stop =>
    ∃ next, LenencAt input offset value next ∧ LenencsAt input next values stop

theorem getElem?_lenencString (before after : Bytes) (value : Text) :
    (before ++ lenencString value ++ after)[before.length]? =
      some (UInt8.ofNat (byteLen value)) := by
  simp [lenencString]

theorem drop_lenencString (before after : Bytes) (value : Text) :
    (before ++ lenencString value ++ after).drop (before.length + 1) =
      utf8Encode value ++ after := by
  simp [lenencString]

/-- A length up to 250 is read. -/
theorem lenencAt_lenencString {before : Bytes} {value : Text} (h : byteLen value ≤ 250)
    (hbefore : before.length < 2 ^ 63) (after : Bytes) :
    LenencAt (before ++ lenencString value ++ after) before.length value
      (before ++ lenencString value).length := by
  have hfirst : (UInt8.ofNat (byteLen value)).toNat = byteLen value := by
    simp
    omega
  use before.length + 1
  constructor
  · simp only [readLenencInteger, bind_ok_iff, orFail_ok_iff, add_ok_iff]
    refine ⟨_, getElem?_lenencString before after value, _, ⟨by omega, rfl⟩, ?_⟩
    rw [hfirst, if_pos h]
    rfl
  · have hmiddle := getRange_append (before ++ [UInt8.ofNat (byteLen value)]) (utf8Encode value)
      after
    have hstart : (before ++ [UInt8.ofNat (byteLen value)]).length = before.length + 1 := by simp
    have hstop : (before ++ lenencString value).length =
        before.length + 1 + (utf8Encode value).length := by
      simp [lenencString, Nat.add_assoc, Nat.add_comm]
    rw [hstart] at hmiddle
    rw [hstop, lenencString, ← List.singleton_append, ← List.append_assoc before]
    exact hmiddle

/-- Only a length up to 250 is read: after the prefix of a longer one there would have to be its
two bytes, and no text starts with the prefix. -/
theorem of_lenencAt_lenencString {before after : Bytes} {value : Text} {stop : ℕ}
    (h : LenencAt (before ++ lenencString value ++ after) before.length value stop) :
    byteLen value ≤ 250 ∧ stop = (before ++ lenencString value).length := by
  obtain ⟨start, hread, hrange⟩ := h
  simp only [readLenencInteger, bind_ok_iff, orFail_ok_iff, add_ok_iff] at hread
  obtain ⟨first, hfirst, _, ⟨_, rfl⟩, hread⟩ := hread
  rw [getElem?_lenencString, Option.some.injEq] at hfirst
  have hmod : first.toNat = byteLen value % 256 := by simp [← hfirst]
  split_ifs at hread with hshort hmarker
  · obtain ⟨hlength, rfl⟩ := Prod.mk.inj (Except.ok.inj hread)
    obtain ⟨hle, _, hcount⟩ := length_of_getRange hrange
    rw [← byteLen] at hcount
    refine ⟨by omega, ?_⟩
    simp only [lenencString, List.length_append, List.length_cons]
    rw [← byteLen]
    omega
  · simp only [bind_ok_iff, orFail_ok_iff, add_ok_iff] at hread
    obtain ⟨_, ⟨_, rfl⟩, bytes, hbytes, _, ⟨_, rfl⟩, hread⟩ := hread
    have hlength : leValue bytes = byteLen value := (Prod.mk.inj (Except.ok.inj hread)).1
    rw [hmarker] at hmod
    have hfc : (0xfc : UInt8).toNat = 252 := rfl
    have hne : utf8Encode value ≠ [] := by
      intro hnil
      rw [byteLen, hnil, List.length_nil] at hmod
      omega
    obtain ⟨byte, rest, hvalue⟩ := List.exists_cons_of_ne_nil hne
    have hdrop := drop_of_getRange hbytes
    obtain ⟨_, _, hcount⟩ := length_of_getRange hbytes
    obtain ⟨b, b', rfl⟩ := List.length_eq_two.mp (show bytes.length = 2 by omega)
    rw [drop_lenencString, hvalue, List.cons_append, List.cons_append] at hdrop
    obtain rfl : byte = b := (List.cons.inj hdrop).1
    have hbyte : byte = 0xfc := by
      rw [leValue_cons] at hlength
      have hlt := byte.toNat_lt
      exact UInt8.toNat_inj.mp (by omega)
    have hutf8 := isUTF8FirstByte_of_utf8Encode_cons hvalue
    rw [hbyte] at hutf8
    exact absurd hutf8 (by decide)
  · exact absurd hread (fail_ne_ok _ _)

theorem lenencsAt_iff {values : List Text} {before : Bytes}
    (h : before.length + 251 * values.length < 2 ^ 63) (after : Bytes) :
    LenencsAt (before ++ values.flatMap lenencString ++ after) before.length values
        (before ++ values.flatMap lenencString).length ↔
      ∀ value ∈ values, byteLen value ≤ 250 := by
  induction values generalizing before with
  | nil => simp [LenencsAt]
  | cons value values ih =>
    have hlength : (before ++ lenencString value).length = before.length + (byteLen value + 1) := by
      simp [lenencString, byteLen]
    have hassoc : before ++ (value :: values).flatMap lenencString =
        before ++ lenencString value ++ values.flatMap lenencString := by simp
    rw [List.length_cons] at h
    rw [hassoc, List.append_assoc (before ++ lenencString value)]
    constructor
    · intro hat
      obtain ⟨next, hvalue, hvalues⟩ := hat
      obtain ⟨hle, rfl⟩ := of_lenencAt_lenencString hvalue
      rw [← List.append_assoc, ih (by omega)] at hvalues
      exact List.forall_mem_cons.mpr ⟨hle, hvalues⟩
    · intro hall
      obtain ⟨hle, hrest⟩ := List.forall_mem_cons.mp hall
      refine ⟨_, lenencAt_lenencString hle (by omega) _, ?_⟩
      rw [← List.append_assoc, ih (by omega)]
      exact hrest

/-! ## Results -/

def eofPacket (sequence : UInt8) : Bytes := packet sequence [0xfe, 0, 0, 2, 0]

/-- The texts of a column definition. -/
def definitionTexts (column : Text) : List Text := ["def", "", "", "", column, ""]

/-- The payloads of the column definition and of the row decode: the one to six texts in front of
13 bytes, the other to the value. -/
def ResultDecodes (column value : Text) : Prop :=
  ∃ definition row, textResult column value =
      [packet 1 [1], packet 2 definition, eofPacket 3, packet 4 row, eofPacket 5] ∧
    LenencsAt definition 0 (definitionTexts column) (definition.length - 13) ∧
    LenencAt row 0 value row.length

theorem packet_injective {sequence : UInt8} : Function.Injective (packet sequence) := by
  intro payload payload' h
  have hdrop := congrArg (List.drop 4) h
  simp only [packet] at hdrop
  rwa [List.drop_left' (by simp), List.drop_left' (by simp)] at hdrop

theorem lenencAt_row_iff (value : Text) :
    LenencAt (pushLenencString [] value) 0 value (pushLenencString [] value).length ↔
      byteLen value ≤ 250 := by
  have hrow : pushLenencString [] value = [] ++ lenencString value ++ [] := by
    simp [pushLenencString, lenencString]
  rw [hrow]
  constructor
  · intro h
    exact (of_lenencAt_lenencString h).1
  · intro h
    have hat := lenencAt_lenencString h (show ([] : Bytes).length < 2 ^ 63 by decide) []
    rw [List.append_nil] at hat ⊢
    exact hat

theorem lenencsAt_columnDefinition_iff (column : Text) :
    LenencsAt (columnDefinition column) 0 (definitionTexts column)
        ((columnDefinition column).length - 13) ↔ byteLen column ≤ 250 := by
  have hdefinition : columnDefinition column =
      [] ++ (definitionTexts column).flatMap lenencString ++ ([0x0c] ++ leBytes 2 0x0021 ++
        leBytes 4 1024 ++ [0xfd] ++ leBytes 2 0 ++ [0] ++ [0, 0]) := by
    rw [columnDefinition, foldl_pushLenencString]
    simp only [List.append_assoc, definitionTexts]
  have hlength : (columnDefinition column).length - 13 =
      ([] ++ (definitionTexts column).flatMap lenencString).length := by
    rw [hdefinition, List.length_append]
    simp only [List.length_append, leBytes_length, List.length_cons, List.length_nil]
    omega
  rw [hlength, hdefinition]
  have hiff := @lenencsAt_iff (definitionTexts column) [] (by simp [definitionTexts])
  have hdef : byteLen "def" ≤ 250 := by decide
  apply (hiff _).trans
  simpa [definitionTexts] using fun _ => hdef

theorem resultDecodes_iff_parts (column value : Text) :
    ResultDecodes column value ↔
      LenencsAt (columnDefinition column) 0 (definitionTexts column)
        ((columnDefinition column).length - 13) ∧
      LenencAt (pushLenencString [] value) 0 value (pushLenencString [] value).length := by
  constructor
  · intro h
    obtain ⟨definition, row, hpackets, hdefinition, hrow⟩ := h
    simp only [textResult, List.cons.injEq, and_true, true_and] at hpackets
    obtain ⟨hcolumn, _, hvalue, _⟩ := hpackets
    obtain rfl := packet_injective hcolumn
    obtain rfl := packet_injective hvalue
    exact ⟨hdefinition, hrow⟩
  · intro h
    exact ⟨_, _, rfl, h.1, h.2⟩

/-- A result decodes exactly if neither its column name nor its value has more than 250 bytes. -/
theorem resultDecodes_iff (column value : Text) :
    ResultDecodes column value ↔ byteLen column ≤ 250 ∧ byteLen value ≤ 250 := by
  rw [resultDecodes_iff_parts, lenencsAt_columnDefinition_iff, lenencAt_row_iff]

def longResponse : Text := List.replicate 251 'a'

def longResponseConfig : SimDatabaseConfig where
  serverVersion := none
  credentials := none
  databases := none
  queryResponses := some ⟨[("select 1", longResponse)], List.pairwise_singleton _ _⟩

/-- The reply to a query whose response has 251 bytes. -/
theorem longResponse_not_decoded :
    queryReply longResponseConfig "SELECT 1;" = textResult "result" longResponse ∧
      ¬ ResultDecodes "result" longResponse := by
  constructor
  · have hquery : normalizeQuery "SELECT 1;" ≠ "select version()" := by decide
    have hresponse : configuredQueryResponse longResponseConfig "SELECT 1;" =
        some longResponse := rfl
    rw [queryReply, if_neg hquery, hresponse]
  · intro h
    have hlength : byteLen longResponse = 251 := byteLen_replicate 251
    have hshort := (lenencAt_row_iff longResponse).mp ((resultDecodes_iff_parts _ _).mp h).2
    omega

end ProtocolSimulation.Engine.Mysql
