import ProtocolSimulation.BigEndian
import ProtocolSimulation.Framing

/-!
# DNS messages on the wire

Names are labels one after the other, up to an empty label or a pointer to an
earlier name. A message is a header that counts what follows: questions, and
records in three sections.
-/
namespace ProtocolSimulation.DnsWire

open ProtocolSimulation.BigEndian ProtocolSimulation.Framing

/-! ## Numbers -/

/-- A number of the given width. -/
def readWord (width : ℕ) : Reader UInt8 ℕ
  | input =>
    if width ≤ input.length then some (beValue (input.take width), input.drop width)
    else none

theorem readWord_append {bytes : List UInt8} {width : ℕ} (h : bytes.length = width)
    (rest : List UInt8) : readWord width (bytes ++ rest) = some (beValue bytes, rest) := by
  subst h
  simp [readWord]

theorem readWord_beBytes {width n : ℕ} (h : n < 256 ^ width) (rest : List UInt8) :
    readWord width (beBytes width n ++ rest) = some (n, rest) := by
  rw [readWord_append (beBytes_length width n), beValue_beBytes_of_lt h]

/-! ## Names -/

/-- A label has from 1 to 63 bytes. -/
structure Label where
  bytes : List UInt8
  nonempty : 1 ≤ bytes.length
  short : bytes.length ≤ 63

/-- The label in the next `n` bytes. -/
def Label.ofTake {n : ℕ} {input : List UInt8} (h : 1 ≤ n ∧ n ≤ 63 ∧ n ≤ input.length) : Label where
  bytes := input.take n
  nonempty := (List.length_take_of_le h.2.2).symm ▸ h.1
  short := (List.length_take_of_le h.2.2).symm ▸ h.2.1

def Label.encode (label : Label) : List UInt8 := UInt8.ofNat label.bytes.length :: label.bytes

/-- A name without a pointer. -/
def encodeName (labels : List Label) : List UInt8 := labels.flatMap Label.encode ++ [0]

/-- A pointer to an offset, which has 14 bits. -/
def encodePointer (offset : ℕ) : List UInt8 :=
  [UInt8.ofNat (192 + offset / 256), UInt8.ofNat offset]

/-- A name: its labels, and where the rest of it is found if it ends with a pointer. -/
structure Name where
  labels : List Label
  pointer : Option ℕ

/-- Read a name that has fewer labels than `n`. -/
def readNameUpTo : ℕ → Reader UInt8 Name
  | n + 1, byte :: input =>
    if byte = 0 then some (⟨[], none⟩, input)
    else if 192 ≤ byte.toNat then
      (readWord 1 input).map fun (low, rest) => (⟨[], some (256 * (byte.toNat - 192) + low)⟩, rest)
    else if h : 1 ≤ byte.toNat ∧ byte.toNat ≤ 63 ∧ byte.toNat ≤ input.length then
      (readNameUpTo n (input.drop byte.toNat)).map fun (name, rest) =>
        (⟨Label.ofTake h :: name.labels, name.pointer⟩, rest)
    else none
  | _, _ => none

def readName : Reader UInt8 Name
  | input => readNameUpTo input.length input

theorem Label.toNat_length (label : Label) :
    (UInt8.ofNat label.bytes.length).toNat = label.bytes.length := by
  have hshort := label.short
  simp
  omega

theorem readNameUpTo_encode {label : Label} {name : Name} {n : ℕ} {input rest : List UInt8}
    (h : readNameUpTo n input = some (name, rest)) :
    readNameUpTo (n + 1) (label.encode ++ input) =
      some (⟨label :: name.labels, name.pointer⟩, rest) := by
  have hlength := label.toNat_length
  have hnonempty := label.nonempty
  have hshort := label.short
  have hzero : UInt8.ofNat label.bytes.length ≠ 0 := by
    intro hzero
    rw [hzero, UInt8.toNat_zero] at hlength
    omega
  rw [Label.encode, List.cons_append, readNameUpTo, if_neg hzero, if_neg (by omega),
    dif_pos ⟨by omega, by omega, by rw [List.length_append]; omega⟩]
  simp only [Label.ofTake, hlength, List.drop_left, List.take_left, h, Option.map_some]

theorem readName_encodeName (labels : List Label) (rest : List UInt8) :
    readName (encodeName labels ++ rest) = some (⟨labels, none⟩, rest) := by
  have hread : ∀ n, (encodeName labels ++ rest).length ≤ n →
      readNameUpTo n (encodeName labels ++ rest) = some (⟨labels, none⟩, rest) := by
    induction labels with
    | nil =>
      intro n hn
      obtain ⟨n, rfl⟩ : ∃ m, n = m + 1 := ⟨n - 1, by simp [encodeName] at hn; omega⟩
      simp [encodeName, readNameUpTo]
    | cons label labels ih =>
      intro n hn
      have hencode : encodeName (label :: labels) ++ rest =
          label.encode ++ (encodeName labels ++ rest) := by
        simp [encodeName]
      rw [hencode] at hn ⊢
      have hlabel : 1 ≤ label.encode.length := by simp [Label.encode]
      rw [List.length_append] at hn
      obtain ⟨n, rfl⟩ : ∃ m, n = m + 1 := ⟨n - 1, by omega⟩
      exact readNameUpTo_encode (ih n (by omega))
  exact hread _ le_rfl

theorem readName_encodePointer {offset : ℕ} (h : offset < 2 ^ 14) (rest : List UInt8) :
    readName (encodePointer offset ++ rest) = some (⟨[], some offset⟩, rest) := by
  have hhigh : (UInt8.ofNat (192 + offset / 256)).toNat = 192 + offset / 256 := by
    simp
    omega
  have hlow : (UInt8.ofNat offset).toNat = offset % 256 := by simp
  have hzero : UInt8.ofNat (192 + offset / 256) ≠ 0 := by
    intro hzero
    rw [hzero, UInt8.toNat_zero] at hhigh
    omega
  have hread : readWord 1 (UInt8.ofNat offset :: rest) = some (offset % 256, rest) := by
    have hword := @readWord_append [UInt8.ofNat offset] 1 rfl rest
    rwa [beValue_cons, hlow, beValue_nil, List.length_nil, pow_zero, Nat.mul_one, Nat.add_zero]
      at hword
  have hinput : encodePointer offset ++ rest =
      UInt8.ofNat (192 + offset / 256) :: UInt8.ofNat offset :: rest := rfl
  have hvalue : 256 * (192 + offset / 256 - 192) + offset % 256 = offset := by omega
  rw [hinput, readName, List.length_cons, readNameUpTo, if_neg hzero, if_pos (by omega), hread,
    Option.map_some, hhigh]
  dsimp only
  rw [hvalue]

/-! ## Questions and records -/

/-- A question, with the bytes that it was read from. -/
structure Question where
  name : Name
  queryType : ℕ
  queryClass : ℕ
  bytes : List UInt8

def readQuestion : Reader UInt8 Question
  | input => do
    let (name, rest) ← readName input
    let (queryType, rest) ← readWord 2 rest
    let (queryClass, rest) ← readWord 2 rest
    return (⟨name, queryType, queryClass, input.take (input.length - rest.length)⟩, rest)

theorem readQuestion_encode (labels : List Label) {queryType queryClass : List UInt8}
    (htype : queryType.length = 2) (hclass : queryClass.length = 2) (rest : List UInt8) :
    readQuestion (encodeName labels ++ queryType ++ queryClass ++ rest) =
      some (⟨⟨labels, none⟩, beValue queryType, beValue queryClass,
        encodeName labels ++ queryType ++ queryClass⟩, rest) := by
  have hbytes : (encodeName labels ++ queryType ++ queryClass ++ rest).take
      ((encodeName labels ++ queryType ++ queryClass ++ rest).length - rest.length) =
      encodeName labels ++ queryType ++ queryClass := by
    rw [List.length_append, Nat.add_sub_cancel, List.take_left]
  have hname : readName (encodeName labels ++ queryType ++ queryClass ++ rest) =
      some (⟨labels, none⟩, queryType ++ (queryClass ++ rest)) := by
    rw [List.append_assoc, List.append_assoc, readName_encodeName]
  apply (read_bind hname).trans
  apply (read_bind (readWord_append htype _)).trans
  apply (read_bind (readWord_append hclass _)).trans
  dsimp only
  rw [hbytes]
  rfl

structure Record where
  name : Name
  recordType : ℕ
  recordClass : ℕ
  ttl : ℕ
  data : List UInt8

def readRecord : Reader UInt8 Record
  | input => do
    let (name, input) ← readName input
    let (recordType, input) ← readWord 2 input
    let (recordClass, input) ← readWord 2 input
    let (ttl, input) ← readWord 4 input
    let (length, input) ← readWord 2 input
    if length ≤ input.length then
      return (⟨name, recordType, recordClass, ttl, input.take length⟩, input.drop length)
    else none

/-- A record whose name is found at an offset. -/
def encodeRecord (offset recordType recordClass ttl : ℕ) (data : List UInt8) : List UInt8 :=
  encodePointer offset ++ beBytes 2 recordType ++ beBytes 2 recordClass ++ beBytes 4 ttl ++
    beBytes 2 data.length ++ data

theorem readRecord_encodeRecord {offset recordType recordClass ttl : ℕ} {data : List UInt8}
    (hoffset : offset < 2 ^ 14) (htype : recordType < 256 ^ 2) (hclass : recordClass < 256 ^ 2)
    (httl : ttl < 256 ^ 4) (hdata : data.length < 256 ^ 2) (rest : List UInt8) :
    readRecord (encodeRecord offset recordType recordClass ttl data ++ rest) =
      some (⟨⟨[], some offset⟩, recordType, recordClass, ttl, data⟩, rest) := by
  have hlength : data.length ≤ (data ++ rest).length := by simp
  rw [readRecord, encodeRecord]
  simp only [List.append_assoc]
  apply (read_bind (readName_encodePointer hoffset _)).trans
  apply (read_bind (readWord_beBytes htype _)).trans
  apply (read_bind (readWord_beBytes hclass _)).trans
  apply (read_bind (readWord_beBytes httl _)).trans
  apply (read_bind (readWord_beBytes hdata _)).trans
  dsimp only
  rw [if_pos hlength, List.take_left, List.drop_left]
  rfl

/-! ## Messages -/

structure Message where
  id : ℕ
  flags : ℕ
  questions : List Question
  answers : List Record
  authorities : List Record
  additionals : List Record

/-- The response code. -/
def Message.rcode (message : Message) : ℕ := message.flags % 16

/-- A message that takes up the whole input. -/
def readMessage (input : List UInt8) : Option Message := do
  let (id, input) ← readWord 2 input
  let (flags, input) ← readWord 2 input
  let (questionCount, input) ← readWord 2 input
  let (answerCount, input) ← readWord 2 input
  let (authorityCount, input) ← readWord 2 input
  let (additionalCount, input) ← readWord 2 input
  let (questions, input) ← readTimes readQuestion questionCount input
  let (answers, input) ← readTimes readRecord answerCount input
  let (authorities, input) ← readTimes readRecord authorityCount input
  let (additionals, input) ← readTimes readRecord additionalCount input
  if input.isEmpty then return ⟨id, flags, questions, answers, authorities, additionals⟩ else none

theorem readMessage_append {id flags : List UInt8} {questions : List Question}
    {answers : List Record} {writeAnswer : Record → List UInt8} (hid : id.length = 2)
    (hflags : flags.length = 2) (hquestionCount : questions.length < 256 ^ 2)
    (hanswerCount : answers.length < 256 ^ 2)
    (hquestions : ∀ question ∈ questions, ReadsBack readQuestion Question.bytes question)
    (hanswers : ∀ answer ∈ answers, ReadsBack readRecord writeAnswer answer) :
    readMessage (id ++ flags ++ beBytes 2 questions.length ++ beBytes 2 answers.length ++
      beBytes 2 0 ++ beBytes 2 0 ++ questions.flatMap Question.bytes ++
      answers.flatMap writeAnswer) =
      some ⟨beValue id, beValue flags, questions, answers, [], []⟩ := by
  have hread := readTimes_flatMap hanswers []
  rw [List.append_nil] at hread
  have hzero : 0 < 256 ^ 2 := by decide
  rw [readMessage]
  simp only [List.append_assoc]
  apply (read_bind (readWord_append hid _)).trans
  apply (read_bind (readWord_append hflags _)).trans
  apply (read_bind (readWord_beBytes hquestionCount _)).trans
  apply (read_bind (readWord_beBytes hanswerCount _)).trans
  apply (read_bind (readWord_beBytes hzero _)).trans
  apply (read_bind (readWord_beBytes hzero _)).trans
  apply (read_bind (readTimes_flatMap hquestions _)).trans
  exact (read_bind hread).trans rfl

end ProtocolSimulation.DnsWire
