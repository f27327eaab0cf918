import ProtocolSimulation.BigEndian
import ProtocolSimulation.Framing
import ProtocolSimulation.Texts

/-!
# Binary JSON

Documents are lists of fields between their length and a zero byte; a field is the
kind of its value, its key up to a zero byte, and the value. Numbers are little
endian. What is written of a document is read back.
-/
namespace ProtocolSimulation.Bson

open ProtocolSimulation.Texts ProtocolSimulation.Framing ProtocolSimulation.BigEndian

inductive Value where
  /-- A floating-point number, as its bits. -/
  | double (bits : UInt64)
  | string (text : Text)
  | document (fields : List (Text × Value))
  | boolean (b : Bool)
  | int32 (n : Int32)
  | int64 (n : Int64)

abbrev Field := Text × Value

def Value.kind : Value → UInt8
  | double _ => 0x01
  | string _ => 0x02
  | document _ => 0x03
  | boolean _ => 0x08
  | int32 _ => 0x10
  | int64 _ => 0x12

/-! ## Writing -/

def writeInt32 (n : Int32) : Bytes := leBytes 4 n.toUInt32.toNat

def writeInt64 (n : Int64) : Bytes := leBytes 8 n.toUInt64.toNat

/-- The bytes of a document: their number, the fields and a zero byte. -/
def enclose (fields : Bytes) : Bytes := leBytes 4 (fields.length + 5) ++ fields ++ [0]

mutual

def writeValue : Value → Bytes
  | .double bits => leBytes 8 bits.toNat
  | .string text => leBytes 4 (byteLen text + 1) ++ utf8Encode text ++ [0]
  | .document fields => enclose (writeFields fields)
  | .boolean b => [if b then 1 else 0]
  | .int32 n => writeInt32 n
  | .int64 n => writeInt64 n

def writeFields : List (Text × Value) → Bytes
  | [] => []
  | field :: fields => writeField field ++ writeFields fields

def writeField : Text × Value → Bytes
  | (key, value) => value.kind :: utf8Encode key ++ 0 :: writeValue value

end

def writeDocument (fields : List Field) : Bytes := enclose (writeFields fields)

theorem writeFields_eq (fields : List Field) : writeFields fields = fields.flatMap writeField := by
  induction fields with
  | nil => rfl
  | cons field fields ih => rw [writeFields, ih, List.flatMap_cons]

/-! ## Reading -/

def readBytes (n : ℕ) : Reader UInt8 Bytes := fun input =>
  if n ≤ input.length then some (input.take n, input.drop n) else none

def readInt32 : Reader UInt8 Int32 := fun input => do
  let (bytes, rest) ← readBytes 4 input
  return ((UInt32.ofNat (leValue bytes)).toInt32, rest)

def readInt64 : Reader UInt8 Int64 := fun input => do
  let (bytes, rest) ← readBytes 8 input
  return ((UInt64.ofNat (leValue bytes)).toInt64, rest)

/-- The text up to a zero byte. -/
def readKey : Reader UInt8 Text := fun input => do
  let key := input.takeWhile (· != 0)
  let (_, rest) ← readBytes (key.length + 1) input
  return (← utf8Decode key, rest)

/-- What a length of 32 bits announces, of which the last byte is zero. -/
def readTerminated (extra : ℕ) : Reader UInt8 Bytes := fun input => do
  let (length, rest) ← readInt32 input
  let size := length.toInt.toNat - extra
  let (bytes, rest) ← readBytes size rest
  if bytes.getLast? = some 0 then return (bytes.dropLast, rest) else none

def readString : Reader UInt8 Text := fun input => do
  let (bytes, rest) ← readTerminated 0 input
  return (← utf8Decode bytes, rest)

/-- The value of a kind; documents in it are read as given. -/
def readValue (nested : Reader UInt8 (List Field)) (kind : UInt8) : Reader UInt8 Value :=
  fun input =>
    if kind = 0x01 then do
      let (bytes, rest) ← readBytes 8 input
      return (.double (UInt64.ofNat (leValue bytes)), rest)
    else if kind = 0x02 then do
      let (text, rest) ← readString input
      return (.string text, rest)
    else if kind = 0x03 then do
      let (fields, rest) ← nested input
      return (.document fields, rest)
    else if kind = 0x08 then do
      let (bytes, rest) ← readBytes 1 input
      if bytes = [0] then return (.boolean false, rest)
      else if bytes = [1] then return (.boolean true, rest)
      else none
    else if kind = 0x10 then do
      let (n, rest) ← readInt32 input
      return (.int32 n, rest)
    else if kind = 0x12 then do
      let (n, rest) ← readInt64 input
      return (.int64 n, rest)
    else none

def readField (nested : Reader UInt8 (List Field)) : Reader UInt8 Field
  | [] => none
  | kind :: input => do
    let (key, rest) ← readKey input
    let (value, rest) ← readValue nested kind rest
    return ((key, value), rest)

/-- A document with others in it, no deeper than given. -/
def readDocument : ℕ → Reader UInt8 (List Field)
  | 0, _ => none
  | depth + 1, input => do
    let (bytes, rest) ← readTerminated 4 input
    return (← readAll (readField (readDocument depth)) bytes, rest)

/-- Input that is one document, which cannot be nested deeper than it is long. -/
def decode (input : Bytes) : Option (List Field) :=
  match readDocument input.length input with
  | some (fields, []) => some fields
  | _ => none

/-! ## What is written is read back -/

theorem readBytes_append (bytes rest : Bytes) :
    readBytes bytes.length (bytes ++ rest) = some (bytes, rest) := by
  rw [readBytes, if_pos (by simp), List.take_left, List.drop_left]

theorem readBytes_append_of_length {n : ℕ} {bytes : Bytes} (h : bytes.length = n) (rest : Bytes) :
    readBytes n (bytes ++ rest) = some (bytes, rest) := by
  rw [← h]
  exact readBytes_append bytes rest

theorem readInt32_append (n : Int32) (rest : Bytes) :
    readInt32 (writeInt32 n ++ rest) = some (n, rest) := by
  have hvalue : (UInt32.ofNat (leValue (writeInt32 n))).toInt32 = n := by
    rw [writeInt32, leValue_leBytes_of_lt n.toUInt32.toNat_lt, UInt32.ofNat_toNat,
      Int32.toInt32_toUInt32]
  apply (read_bind (readBytes_append_of_length (leBytes_length 4 _) rest)).trans
  exact congrArg (fun n => some (n, rest)) hvalue

theorem readInt64_append (n : Int64) (rest : Bytes) :
    readInt64 (writeInt64 n ++ rest) = some (n, rest) := by
  have hvalue : (UInt64.ofNat (leValue (writeInt64 n))).toInt64 = n := by
    rw [writeInt64, leValue_leBytes_of_lt n.toUInt64.toNat_lt, UInt64.ofNat_toNat,
      Int64.toInt64_toUInt64]
  apply (read_bind (readBytes_append_of_length (leBytes_length 8 _) rest)).trans
  exact congrArg (fun n => some (n, rest)) hvalue

/-- A length of 32 bits as a number. -/
theorem writeInt32_ofNat {n : ℕ} (h : n < 2147483648) :
    leBytes 4 n = writeInt32 (Int32.ofNat n) ∧ (Int32.ofNat n).toInt.toNat = n := by
  constructor
  · rw [writeInt32, Int32.toUInt32_ofNat', UInt32.toNat_ofNat_of_lt' (by rw [UInt32.size]; omega)]
  · rw [Int32.toInt_ofNat_of_lt h, Int.toNat_natCast]

theorem readTerminated_append {extra : ℕ} {bytes : Bytes}
    (h : bytes.length + 1 + extra < 2147483648) (rest : Bytes) :
    readTerminated extra (leBytes 4 (bytes.length + 1 + extra) ++ bytes ++ [0] ++ rest) =
      some (bytes, rest) := by
  obtain ⟨hwrite, hsize⟩ := writeInt32_ofNat h
  rw [hwrite, List.append_assoc, List.append_assoc, ← List.append_assoc bytes]
  apply (read_bind (readInt32_append _ _)).trans
  have hlength : (bytes ++ [0]).length = bytes.length + 1 + extra - extra := by simp
  dsimp only
  rw [hsize]
  apply (read_bind (readBytes_append_of_length hlength rest)).trans
  simp

theorem readKey_append {key : Text} (h : 0 ∉ utf8Encode key) (rest : Bytes) :
    readKey (utf8Encode key ++ 0 :: rest) = some (key, rest) := by
  have htake : (utf8Encode key ++ 0 :: rest).takeWhile (· != 0) = utf8Encode key := by
    rw [List.takeWhile_append_of_pos]
    · simp
    · intro byte hbyte
      rw [bne_iff_ne]
      rintro rfl
      exact h hbyte
  have hbytes : readBytes ((utf8Encode key).length + 1) (utf8Encode key ++ 0 :: rest) =
      some (utf8Encode key ++ [0], rest) := by
    rw [← List.singleton_append, ← List.append_assoc]
    exact readBytes_append_of_length (by simp) rest
  rw [readKey, htake]
  apply (read_bind hbytes).trans
  exact read_bind (utf8Decode_utf8Encode key)

theorem readString_append {text : Text} (h : byteLen text + 1 < 2147483648) (rest : Bytes) :
    readString (leBytes 4 (byteLen text + 1) ++ utf8Encode text ++ [0] ++ rest) =
      some (text, rest) := by
  have hbytes : readTerminated 0 (leBytes 4 (byteLen text + 1) ++ utf8Encode text ++ [0] ++ rest) =
      some (utf8Encode text, rest) := readTerminated_append h rest
  apply (read_bind hbytes).trans
  exact read_bind (utf8Decode_utf8Encode text)

/-- The value is nested no deeper than given, its lengths have 32 bits and its keys are keys. -/
def Fits : ℕ → Value → Prop
  | _, .string text => byteLen text + 1 < 2147483648
  | 0, .document _ => False
  | depth + 1, .document fields =>
    (writeDocument fields).length < 2147483648 ∧
      ∀ field ∈ fields, 0 ∉ utf8Encode field.1 ∧ Fits depth field.2
  | _, _ => True

theorem enclose_length (fields : Bytes) : (enclose fields).length = fields.length + 5 := by
  simp [enclose]
  omega

theorem readsBack_field {depth : ℕ} {field : Field}
    (hnested : ∀ fields rest, Fits depth (.document fields) →
      readDocument depth (writeDocument fields ++ rest) = some (fields, rest))
    (hkey : 0 ∉ utf8Encode field.1) (hvalue : Fits depth field.2) :
    ReadsBack (readField (readDocument depth)) writeField field := by
  obtain ⟨key, value⟩ := field
  constructor
  · exact List.cons_ne_nil _ _
  · intro rest
    have hread : readValue (readDocument depth) value.kind (writeValue value ++ rest) =
        some (value, rest) := by
      cases value with
      | double bits =>
        have hbits : UInt64.ofNat (leValue (leBytes 8 bits.toNat)) = bits := by
          rw [leValue_leBytes_of_lt bits.toNat_lt, UInt64.ofNat_toNat]
        apply (read_bind (readBytes_append_of_length (leBytes_length 8 _) rest)).trans
        exact congrArg (fun bits => some (Value.double bits, rest)) hbits
      | string text =>
        have hfits : byteLen text + 1 < 2147483648 := by
          cases depth <;> exact hvalue
        exact read_bind (readString_append hfits rest)
      | document fields => exact read_bind (hnested fields rest hvalue)
      | boolean b => cases b <;> rfl
      | int32 n => exact read_bind (readInt32_append n rest)
      | int64 n => exact read_bind (readInt64_append n rest)
    have hfield : writeField (key, value) ++ rest =
        value.kind :: (utf8Encode key ++ 0 :: (writeValue value ++ rest)) := by
      simp [writeField]
    rw [hfield, readField]
    apply (read_bind (readKey_append hkey _)).trans
    exact read_bind hread

/-- What is written of a document is read back, whatever follows. -/
theorem readDocument_append {depth : ℕ} {fields : List Field} (h : Fits depth (.document fields))
    (rest : Bytes) : readDocument depth (writeDocument fields ++ rest) = some (fields, rest) := by
  induction depth generalizing fields rest with
  | zero => exact absurd h id
  | succ depth ih =>
    obtain ⟨hlength, hfields⟩ := h
    have hback : ∀ field ∈ fields, ReadsBack (readField (readDocument depth)) writeField field := by
      intro field hfield
      obtain ⟨hkey, hfits⟩ := hfields field hfield
      exact readsBack_field (fun _ rest hfits => ih hfits rest) hkey hfits
    rw [writeDocument, enclose_length] at hlength
    have hbytes : readTerminated 4 (writeDocument fields ++ rest) =
        some (writeFields fields, rest) := readTerminated_append (by omega) rest
    apply (read_bind hbytes).trans
    apply read_bind
    rw [writeFields_eq]
    exact readAll_flatMap hback

theorem decode_writeDocument {fields : List Field}
    (h : Fits (writeDocument fields).length (.document fields)) :
    decode (writeDocument fields) = some fields := by
  have hread := readDocument_append h []
  rw [List.append_nil] at hread
  rw [decode, hread]

end ProtocolSimulation.Bson
