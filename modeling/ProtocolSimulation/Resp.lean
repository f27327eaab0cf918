import ProtocolSimulation.Framing
import ProtocolSimulation.Texts

/-!
# The serialization protocol of Redis

The values that a server replies with, and how a client reads them back: lines up
to the first line end, strings by their length and arrays by their count.
-/
namespace ProtocolSimulation.Resp

open ProtocolSimulation.Texts ProtocolSimulation.Framing

inductive Value where
  | simple (text : Bytes)
  | error (text : Bytes)
  | bulk (payload : Bytes)
  | nil
  | array (items : List Bytes)

/-- The values whose lines have an end where it is meant. -/
def Value.Valid : Value → Prop
  | simple text => 10 ∉ text
  | error text => 10 ∉ text
  | _ => True

/-! ## Writing -/

def crlf : Bytes := [13, 10]

def writeCount (n : ℕ) : Bytes := utf8Encode (showNat n) ++ crlf

def writeBulk (payload : Bytes) : Bytes := 36 :: writeCount payload.length ++ payload ++ crlf

def write : Value → Bytes
  | .simple text => 43 :: text ++ crlf
  | .error text => 45 :: text ++ crlf
  | .bulk payload => writeBulk payload
  | .nil => [36, 45, 49] ++ crlf
  | .array items => 42 :: writeCount items.length ++ items.flatMap writeBulk

/-! ## Reading -/

/-- The line up to the first line end. -/
def readLine : Reader UInt8 Bytes
  | [] => none
  | byte :: input =>
    if byte = 13 ∧ input.head? = some 10 then some ([], input.tail)
    else do
      let (line, rest) ← readLine input
      return (byte :: line, rest)

def parseCount (line : Bytes) : Option ℕ := do
  let digits ← utf8Decode line
  if digits.isEmpty || !digits.all isDigit then none else some (decimalValue digits)

def readCount : Reader UInt8 ℕ := fun input => do
  let (line, rest) ← readLine input
  return (← parseCount line, rest)

/-- The given number of bytes, and a line end. -/
def readPayload (n : ℕ) : Reader UInt8 Bytes := fun input =>
  if (input.drop n).take 2 = crlf then some (input.take n, input.drop (n + 2)) else none

/-- A string, after its mark. -/
def readString : Reader UInt8 Bytes := fun input => do
  let (n, rest) ← readCount input
  readPayload n rest

def readBulk : Reader UInt8 Bytes
  | [] => none
  | mark :: input => if mark = 36 then readString input else none

def read : Reader UInt8 Value
  | [] => none
  | mark :: input =>
    if mark = 43 then do
      let (text, rest) ← readLine input
      return (.simple text, rest)
    else if mark = 45 then do
      let (text, rest) ← readLine input
      return (.error text, rest)
    else if mark = 36 then
      if input.take 4 = [45, 49] ++ crlf then some (.nil, input.drop 4)
      else do
        let (payload, rest) ← readString input
        return (.bulk payload, rest)
    else if mark = 42 then do
      let (n, rest) ← readCount input
      let (items, rest) ← readTimes readBulk n rest
      return (.array items, rest)
    else none

/-! ## What is written is read back -/

theorem readLine_append {line : Bytes} (h : 10 ∉ line) (rest : Bytes) :
    readLine (line ++ crlf ++ rest) = some (line, rest) := by
  induction line with
  | nil => rfl
  | cons byte line ih =>
    rw [List.mem_cons, not_or] at h
    have hopen : ¬ (byte = 13 ∧ (line ++ crlf ++ rest).head? = some 10) := by
      rintro ⟨-, hhead⟩
      cases line with
      | nil => exact absurd (Option.some.inj hhead) (by decide)
      | cons next line => exact h.2 (by simpa using Or.inl (Option.some.inj hhead).symm)
    rw [List.cons_append, List.cons_append, readLine, if_neg hopen, ih h.2]
    rfl

theorem newline_notMem_showNat (n : ℕ) : 10 ∉ utf8Encode (showNat n) := by
  apply newline_notMem_utf8Encode
  intro hmem
  exact absurd (showNat_isDigit hmem) (by decide)

theorem parseCount_showNat (n : ℕ) : parseCount (utf8Encode (showNat n)) = some n := by
  have hdigits : (showNat n).all isDigit = true := List.all_eq_true.mpr fun _ => showNat_isDigit
  have hne : (showNat n).isEmpty = false := by simpa using showNat_ne_nil n
  rw [parseCount, utf8Decode_utf8Encode, Option.bind_eq_bind, Option.bind_some, hdigits, hne,
    decimalValue_showNat]
  rfl

theorem readCount_append (n : ℕ) (rest : Bytes) :
    readCount (writeCount n ++ rest) = some (n, rest) := by
  apply (read_bind (readLine_append (newline_notMem_showNat n) rest)).trans
  exact read_bind (parseCount_showNat n)

theorem readPayload_append (payload rest : Bytes) :
    readPayload payload.length (payload ++ crlf ++ rest) = some (payload, rest) := by
  have hlength : (payload ++ crlf).length = payload.length + 2 := by
    rw [List.length_append]
    rfl
  rw [readPayload, ← hlength, List.drop_left, List.append_assoc, List.drop_left, List.take_left]
  rfl

theorem readString_append (payload rest : Bytes) :
    readString (writeCount payload.length ++ payload ++ crlf ++ rest) = some (payload, rest) := by
  have hcount := readCount_append payload.length (payload ++ crlf ++ rest)
  rw [List.append_assoc, List.append_assoc, ← List.append_assoc payload]
  exact (read_bind hcount).trans (readPayload_append payload rest)

theorem readsBack_bulk (payload : Bytes) : ReadsBack readBulk writeBulk payload := by
  constructor
  · exact List.cons_ne_nil _ _
  · exact readString_append payload

/-- No string has a negative length. -/
theorem count_ne_nil (n : ℕ) (rest : Bytes) :
    (writeCount n ++ rest).take 4 ≠ [45, 49] ++ crlf := by
  intro hminus
  have hlength : 0 < byteLen (showNat n) := byteLen_pos_iff.mpr (showNat_ne_nil n)
  obtain ⟨byte, bytes, hbytes⟩ := List.exists_cons_of_ne_nil (List.ne_nil_of_length_pos hlength)
  rw [writeCount, hbytes] at hminus
  obtain rfl : byte = 45 := (List.cons.inj hminus).1
  have hmem : (45 : UInt8) ∈ utf8Encode (showNat n) := by
    rw [hbytes]
    exact List.mem_cons_self
  exact absurd (showNat_isDigit (mem_of_mem_utf8Encode (by decide) hmem)) (by decide)

/-- What is written of a value is read back, whatever follows. -/
theorem readsBack {value : Value} (h : value.Valid) : ReadsBack read write value := by
  cases value with
  | simple text =>
    constructor
    · exact List.cons_ne_nil _ _
    · intro rest
      exact read_bind (readLine_append h rest)
  | error text =>
    constructor
    · exact List.cons_ne_nil _ _
    · intro rest
      exact read_bind (readLine_append h rest)
  | bulk payload =>
    constructor
    · exact List.cons_ne_nil _ _
    · intro rest
      have hstart : (writeCount payload.length ++ payload ++ crlf ++ rest).take 4 ≠
          [45, 49] ++ crlf := by
        rw [List.append_assoc, List.append_assoc]
        exact count_ne_nil payload.length _
      exact (if_neg hstart).trans (read_bind (readString_append payload rest))
  | nil =>
    constructor
    · exact List.cons_ne_nil _ _
    · exact fun _ => rfl
  | array items =>
    constructor
    · exact List.cons_ne_nil _ _
    · intro rest
      have hitems := readTimes_flatMap (fun item (_ : item ∈ items) => readsBack_bulk item) rest
      have hcount := readCount_append items.length (items.flatMap writeBulk ++ rest)
      rw [← List.append_assoc] at hcount
      exact (read_bind hcount).trans (read_bind hitems)

end ProtocolSimulation.Resp
