import ProtocolSimulation.DnsWire
import ProtocolSimulation.StartChecks

/-!
# What a DNS client reads

A query that is answered is a header and a question, and maybe more. The
response is a message about this question, with the address that is configured
for its name.
-/
namespace ProtocolSimulation.Engine

open ProtocolSimulation.Texts ProtocolSimulation.BigEndian ProtocolSimulation.Fallible
open ProtocolSimulation.Panics ProtocolSimulation.Framing
open ProtocolSimulation.DnsWire (Label encodeName)

/-! ## Names -/

/-- The labels are texts in UTF-8. -/
def Spells (labels : List Label) (texts : List Text) : Prop :=
  labels.map Label.bytes = texts.map utf8Encode

theorem drop_of_decodeLabel_none {message : Bytes} {offset stop : ℕ}
    (h : decodeLabel message offset = .ok (none, stop)) :
    message.drop offset = 0 :: message.drop stop := by
  simp only [decodeLabel, bind_ok_iff, orFail_ok_iff, add_ok_iff] at h
  obtain ⟨length, hlength, start, ⟨_, rfl⟩, h⟩ := h
  rw [drop_of_getElem? hlength]
  split_ifs at h with hroot
  · cases h
    rw [hroot]
  · exact absurd h (fail_ne_ok _ _)
  · simp only [bind_ok_iff, add_ok_iff] at h
    obtain ⟨_, _, h⟩ := h
    split_ifs at h
    · exact absurd h (fail_ne_ok _ _)
    · obtain ⟨_, _, _, _, h⟩ := by simpa only [bind_ok_iff] using h
      cases h

theorem drop_of_decodeLabel_some {message : Bytes} {offset stop : ℕ} {text : Text}
    (h : decodeLabel message offset = .ok (some text, stop)) :
    ∃ label : Label, label.bytes = utf8Encode text ∧
      message.drop offset = label.encode ++ message.drop stop := by
  simp only [decodeLabel, bind_ok_iff, orFail_ok_iff, add_ok_iff] at h
  obtain ⟨length, hlength, start, ⟨_, rfl⟩, h⟩ := h
  rw [drop_of_getElem? hlength]
  split_ifs at h with hroot hlong
  · cases h
  · exact absurd h (fail_ne_ok _ _)
  · simp only [bind_ok_iff, add_ok_iff] at h
    obtain ⟨_, ⟨_, rfl⟩, h⟩ := h
    split_ifs at h with hshort
    · exact absurd h (fail_ne_ok _ _)
    · simp only [bind_ok_iff, slice_ok_iff, orFail_ok_iff] at h
      obtain ⟨bytes, hbytes, found, hfound, h⟩ := h
      cases h
      obtain ⟨_, _, hcount⟩ := length_of_getRange hbytes
      have hnonzero : length.toNat ≠ 0 := fun hzero => hroot (UInt8.toNat_inj.mp hzero)
      have hcount : bytes.length = length.toNat := by omega
      have hhead : UInt8.ofNat bytes.length = length := by rw [hcount, UInt8.ofNat_toNat]
      use ⟨bytes, by omega, by omega⟩
      constructor
      · exact (utf8Encode_of_utf8Decode hfound).symm
      · rw [drop_of_getRange hbytes, Label.encode, List.cons_append, hhead]

/-- The labels that are read are those in front of the rest of the message. -/
theorem drop_of_decodeLabels {message : Bytes} {offset stop : ℕ} {found texts : List Text}
    (h : decodeLabels message offset found = .ok (texts, stop)) :
    ∃ labels new, texts = found ++ new ∧ Spells labels new ∧
      message.drop offset = encodeName labels ++ message.drop stop := by
  induction offset, found using decodeLabels.induct message with
  | case1 offset found fault hlabel =>
    rw [decodeLabels, hlabel] at h
    cases h
  | case2 offset found next hlabel =>
    rw [decodeLabels, hlabel] at h
    cases h
    exact ⟨[], [], (List.append_nil texts).symm, rfl, drop_of_decodeLabel_none hlabel⟩
  | case3 offset found text next hlabel ih =>
    rw [decodeLabels, hlabel] at h
    obtain ⟨labels, new, rfl, hspells, hrest⟩ := ih h
    obtain ⟨label, hbytes, hdrop⟩ := drop_of_decodeLabel_some hlabel
    refine ⟨label :: labels, text :: new, ?_, ?_, ?_⟩
    · rw [List.append_assoc, List.singleton_append]
    · rw [Spells, List.map_cons, List.map_cons, hbytes, hspells]
    · rw [hdrop, hrest, encodeName, encodeName, List.flatMap_cons, List.append_assoc,
        List.append_assoc, List.append_assoc]

/-- A label in the message is read. -/
theorem decodeLabel_append {before after : Bytes} {label : Label} {text : Text}
    (hbytes : label.bytes = utf8Encode text)
    (h : (before ++ label.encode ++ after).length < 2 ^ 64) :
    decodeLabel (before ++ label.encode ++ after) before.length =
      .ok (some text, (before ++ label.encode).length) := by
  have hlength := label.toNat_length
  have hnonempty := label.nonempty
  have hshort := label.short
  have hencode : label.encode.length = label.bytes.length + 1 := rfl
  have hget : (before ++ label.encode ++ after)[before.length]? =
      some (UInt8.ofNat label.bytes.length) := by
    simp [Label.encode]
  have hzero : UInt8.ofNat label.bytes.length ≠ 0 := by
    intro hzero
    rw [hzero, UInt8.toNat_zero] at hlength
    omega
  have hrange : getRange (before ++ label.encode ++ after) (before.length + 1)
      (before.length + 1 + label.bytes.length) = some label.bytes := by
    have hmiddle := getRange_append (before ++ [UInt8.ofNat label.bytes.length]) label.bytes after
    rwa [List.length_append, List.length_singleton, List.append_assoc before,
      List.singleton_append] at hmiddle
  simp only [List.length_append] at h ⊢
  rw [decodeLabel]
  simp only [bind_ok_iff, orFail_ok_iff, add_ok_iff]
  refine ⟨_, hget, _, ⟨by omega, rfl⟩, ?_⟩
  rw [if_neg hzero, if_neg (by omega)]
  simp only [bind_ok_iff, add_ok_iff, hlength]
  refine ⟨_, ⟨by omega, rfl⟩, ?_⟩
  rw [if_neg (by simp only [List.length_append]; omega)]
  simp only [bind_ok_iff, slice_ok_iff, orFail_ok_iff]
  refine ⟨_, hrange, text, by rw [hbytes, utf8Decode_utf8Encode], ?_⟩
  rw [hencode, Nat.add_assoc, Nat.add_comm 1]
  rfl

theorem decodeLabel_append_zero {before after : Bytes}
    (h : (before ++ 0 :: after).length < 2 ^ 64) :
    decodeLabel (before ++ 0 :: after) before.length = .ok (none, before.length + 1) := by
  have hget : (before ++ 0 :: after)[before.length]? = some 0 := by simp
  rw [List.length_append, List.length_cons] at h
  rw [decodeLabel]
  simp only [bind_ok_iff, orFail_ok_iff, add_ok_iff]
  exact ⟨0, hget, _, ⟨by omega, rfl⟩, rfl⟩

theorem decodeLabels_append {before after : Bytes} {labels : List Label} {texts : List Text}
    (hspells : Spells labels texts) (found : List Text)
    (h : (before ++ encodeName labels ++ after).length < 2 ^ 64) :
    decodeLabels (before ++ encodeName labels ++ after) before.length found =
      .ok (found ++ texts, (before ++ encodeName labels).length) := by
  induction labels generalizing before texts found with
  | nil =>
    obtain rfl : texts = [] := by simpa [Spells, eq_comm] using hspells
    have hroot : before ++ encodeName [] ++ after = before ++ 0 :: after := by simp [encodeName]
    rw [hroot] at h ⊢
    rw [decodeLabels, decodeLabel_append_zero h, List.append_nil]
    simp [encodeName]
  | cons label labels ih =>
    cases texts with
    | nil => simp [Spells] at hspells
    | cons text texts =>
      obtain ⟨hbytes, hrest⟩ := List.cons.inj hspells
      have hencode : before ++ encodeName (label :: labels) =
          before ++ label.encode ++ encodeName labels := by
        simp [encodeName]
      rw [hencode] at h ⊢
      have hlabel := @decodeLabel_append before (encodeName labels ++ after) label text hbytes
      rw [← List.append_assoc] at hlabel
      have htail := ih hrest (found ++ [text]) h
      rw [List.append_assoc found, List.singleton_append] at htail
      rw [decodeLabels, hlabel h]
      exact htail

/-- The name in a message is read, and the rest starts right after its empty label. -/
theorem decodeName_append {before after : Bytes} {labels : List Label} {texts : List Text}
    (hspells : Spells labels texts) (h : (before ++ encodeName labels ++ after).length < 2 ^ 64) :
    decodeName (before ++ encodeName labels ++ after) before.length =
      .ok (joinWith "." texts, (before ++ encodeName labels).length) := by
  rw [decodeName, decodeLabels_append hspells [] h]
  rfl

/-! ## Questions -/

theorem u16FromBeBytes_eq (high low : UInt8) : u16FromBeBytes high low = beValue [high, low] := by
  rw [u16FromBeBytes, beValue_cons, beValue_cons]
  simp [Nat.mul_comm]

/-- A query asks a question: behind a header there are the labels of a name, a type and a class. -/
structure Asks (query : Bytes) (labels : List Label) (texts : List Text)
    (queryType queryClass : Bytes) : Prop where
  spells : Spells labels texts
  typeLength : queryType.length = 2
  classLength : queryClass.length = 2
  header : 12 ≤ query.length
  drop : ∃ rest, query.drop 12 = encodeName labels ++ queryType ++ queryClass ++ rest

/-- What is asked, and where the question ends. -/
theorem asks_of_readQuestion {query : Bytes} {question : DnsQuestion}
    (h : readQuestion query = .ok question) :
    ∃ labels texts queryType queryClass, Asks query labels texts queryType queryClass ∧
      question = ⟨joinWith "." texts, beValue queryType, beValue queryClass,
        12 + (encodeName labels ++ queryType ++ queryClass).length⟩ := by
  simp only [readQuestion, bind_ok_iff, ensure_ok_iff, index_ok_iff, add_ok_iff] at h
  obtain ⟨_, hheader, _, _, _, _, _, _, ⟨name, nameEnd⟩, hname, _, ⟨_, rfl⟩, _, hend, _, ⟨_, rfl⟩,
    t, ht, _, ⟨_, rfl⟩, t', ht', _, ⟨_, rfl⟩, c, hc, _, ⟨_, rfl⟩, c', hc', hquestion⟩ := h
  dsimp only at ht ht' hc hc' hend
  obtain ⟨⟨texts, stop⟩, hlabels, hname⟩ := bind_ok_iff.mp hname
  cases hname
  obtain ⟨labels, new, rfl, hspells, hdrop⟩ := drop_of_decodeLabels hlabels
  have hrest : query.drop nameEnd = [t, t'] ++ [c, c'] ++ query.drop (nameEnd + 4) := by
    rw [drop_of_getElem? ht, drop_of_getElem? ht', drop_of_getElem? hc, drop_of_getElem? hc']
    rfl
  have hstop : nameEnd = 12 + (encodeName labels).length := by
    have hlength := congrArg List.length hdrop
    rw [List.length_append, List.length_drop, List.length_drop] at hlength
    omega
  refine ⟨labels, texts, [t, t'], [c, c'],
    ⟨hspells, rfl, rfl, hheader, query.drop (nameEnd + 4), ?_⟩, ?_⟩
  · rw [hdrop, hrest, List.append_assoc, List.append_assoc, List.append_assoc]
  · rw [pure_eq_ok, Except.ok.injEq] at hquestion
    rw [← hquestion, u16FromBeBytes_eq, u16FromBeBytes_eq, hstop]
    simp [Nat.add_assoc]

/-- A query asks one question. -/
theorem Asks.unique {query queryType queryClass queryType' queryClass' : Bytes}
    {labels labels' : List Label} {texts texts' : List Text}
    (h : Asks query labels texts queryType queryClass)
    (h' : Asks query labels' texts' queryType' queryClass') :
    texts' = texts ∧ labels' = labels ∧ queryType' = queryType ∧ queryClass' = queryClass := by
  obtain ⟨rest, hdrop⟩ := h.drop
  obtain ⟨rest', hdrop'⟩ := h'.drop
  have hread := DnsWire.readQuestion_encode labels h.typeLength h.classLength rest
  have hread' := DnsWire.readQuestion_encode labels' h'.typeLength h'.classLength rest'
  rw [← hdrop] at hread
  rw [← hdrop', hread, Option.some.injEq, Prod.mk.injEq, DnsWire.Question.mk.injEq,
    DnsWire.Name.mk.injEq] at hread'
  obtain ⟨⟨⟨rfl, _⟩, _, _, hbytes⟩, rfl⟩ := hread'
  rw [List.append_assoc, List.append_assoc] at hbytes
  have hwords := List.append_cancel_left hbytes
  obtain ⟨htype, hclass⟩ := List.append_inj hwords (h.typeLength.trans h'.typeLength.symm)
  have htexts : texts.map utf8Encode = texts'.map utf8Encode := h.spells.symm.trans h'.spells
  exact ⟨(List.map_injective_iff.mpr utf8Encode_injective htexts).symm, rfl, htype.symm,
    hclass.symm⟩

/-! ## Addresses -/

/-- The names are the same up to trailing dots and ASCII case. -/
def SameName (s t : Text) : Prop :=
  toAsciiLowercase (trimEndMatches isDot s) = toAsciiLowercase (trimEndMatches isDot t)

/-- The address of a name: that of the first record with the name, else the default one. -/
inductive Resolves (config : SimDnsConfig) (name : Text) : Option Ipv4Addr → Prop where
  | record (before after : List (Text × Text)) (record : Text × Text) (address : Ipv4Addr)
      (hentries : config.records.entries = before ++ record :: after)
      (hbefore : ∀ other ∈ before, ¬ SameName other.1 name) (hname : SameName record.1 name)
      (haddress : parseIpv4Addr record.2 = some address) : Resolves config name (some address)
  | default (text : Text) (address : Ipv4Addr)
      (hrecords : ∀ other ∈ config.records.entries, ¬ SameName other.1 name)
      (hdefault : config.defaultIpv4 = some text) (haddress : parseIpv4Addr text = some address) :
      Resolves config name (some address)
  | unknown (hrecords : ∀ other ∈ config.records.entries, ¬ SameName other.1 name)
      (hdefault : config.defaultIpv4 = none) : Resolves config name none

def normalizedName (name : Text) : Text := toAsciiLowercase (trimEndMatches isDot name)

theorem resolves_dnsAddress {config : SimDnsConfig} (h : config.Startable) (name : Text) :
    Resolves config name (dnsAddress config (normalizedName name)) := by
  have hsame (record : Text × Text) :
      eqIgnoreAsciiCase (trimEndMatches isDot record.1) (normalizedName name) = true ↔
        SameName record.1 name := by
    rw [eqIgnoreAsciiCase, normalizedName, toAsciiLowercase_toAsciiLowercase, beq_iff_eq]
    rfl
  have haddress : dnsAddress config (normalizedName name) =
      (((config.records.entries.find? fun record => eqIgnoreAsciiCase
        (trimEndMatches isDot record.1) (normalizedName name)).map Prod.snd).or
        config.defaultIpv4).bind parseIpv4Addr := rfl
  rw [haddress]
  cases hfind : config.records.entries.find? fun record =>
    eqIgnoreAsciiCase (trimEndMatches isDot record.1) (normalizedName name) with
  | some record =>
    obtain ⟨hname, before, after, hentries, hbefore⟩ := List.find?_eq_some_iff_append.mp hfind
    have hmem : record ∈ config.records.entries := by simp [hentries]
    obtain ⟨_, address, haddress⟩ := h.records record hmem
    rw [Option.map_some, Option.some_or, Option.bind_some, haddress]
    refine .record before after record address hentries ?_ ((hsame record).mp hname) haddress
    intro other hother hothers
    have hnot := hbefore other hother
    rw [(hsame other).mpr hothers] at hnot
    simp at hnot
  | none =>
    have hrecords : ∀ other ∈ config.records.entries, ¬ SameName other.1 name := by
      intro other hother hothers
      exact List.find?_eq_none.mp hfind other hother ((hsame other).mpr hothers)
    rw [Option.map_none, Option.none_or]
    cases hdefault : config.defaultIpv4 with
    | none => exact .unknown hrecords hdefault
    | some text =>
      obtain ⟨address, haddress⟩ := h.default text hdefault
      rw [Option.bind_some, haddress]
      exact .default text address hrecords hdefault haddress

/-! ## Responses -/

theorem u16ToBeBytes_eq (n : ℕ) : u16ToBeBytes n = beBytes 2 n := by
  simp [u16ToBeBytes, beBytes]

theorem u32ToBeBytes_eq (n : UInt32) : u32ToBeBytes n = beBytes 4 n.toNat := by
  have hbyte {x y : ℕ} (h : x % 256 = y % 256) : UInt8.ofNat x = UInt8.ofNat y := by
    rw [← UInt8.toNat_inj]
    simpa using h
  have hn := n.toNat_lt
  simp only [u32ToBeBytes, u16ToBeBytes, beBytes, List.cons_append, List.nil_append,
    List.cons.injEq, and_true]
  exact ⟨hbyte (by omega), hbyte (by omega), hbyte (by omega), hbyte (by omega)⟩

/-- An address in an answer, whose name is the one of the question. -/
def answerOf (config : SimDnsConfig) (address : Ipv4Addr) : DnsWire.Record where
  name := ⟨[], some 12⟩
  recordType := 1
  recordClass := 1
  ttl := (config.ttl.getD 60).toNat
  data := address.toList

/-- What is answered: the address, to a question of type A and class IN. -/
def answersTo (config : SimDnsConfig) (queryType queryClass : Bytes) (address : Option Ipv4Addr) :
    List DnsWire.Record :=
  if beValue queryType = 1 ∧ beValue queryClass = 1 then (address.map (answerOf config)).toList
  else []

def writeAnswer (record : DnsWire.Record) : Bytes :=
  DnsWire.encodeRecord 12 record.recordType record.recordClass record.ttl record.data

theorem readsBack_answerOf (config : SimDnsConfig) (address : Ipv4Addr) :
    ReadsBack DnsWire.readRecord writeAnswer (answerOf config address) := by
  constructor
  · simp [writeAnswer, DnsWire.encodeRecord, DnsWire.encodePointer]
  · intro rest
    have hdata : address.toList.length < 256 ^ 2 := by simp
    have hone : 1 < 256 ^ 2 := by decide
    exact DnsWire.readRecord_encodeRecord (by decide) hone hone (config.ttl.getD 60).toNat_lt
      hdata rest

theorem answerRecord_eq (config : SimDnsConfig) (address : Ipv4Addr) :
    answerRecord config (some address) = writeAnswer (answerOf config address) := by
  have hlength : (answerOf config address).data.length = 4 := by simp [answerOf]
  simp only [answerRecord, u16ToBeBytes_eq, u32ToBeBytes_eq]
  rw [writeAnswer, DnsWire.encodeRecord, hlength]
  rfl

def flagsOf (address : Option Ipv4Addr) : Bytes :=
  if address.isSome then [0x81, 0x80] else [0x81, 0x83]

/-- The answer section and its count, as the code puts them together. -/
theorem answerRecord_filter (config : SimDnsConfig) (queryType queryClass : Bytes)
    (address : Option Ipv4Addr) :
    let hasAnswer := beValue queryType = 1 && beValue queryClass = 1 && address.isSome
    (if hasAnswer then 1 else 0) = (answersTo config queryType queryClass address).length ∧
      answerRecord config (address.filter fun _ => hasAnswer) =
        (answersTo config queryType queryClass address).flatMap writeAnswer := by
  rw [answersTo]
  by_cases hin : beValue queryType = 1 ∧ beValue queryClass = 1
  · rw [if_pos hin]
    cases address with
    | none => simp [hin, answerRecord]
    | some address =>
      have hfilter : (some address).filter (fun _ => true) = some address := rfl
      simp [hin, hfilter, answerRecord_eq]
  · have hcount : (decide (beValue queryType = 1) && decide (beValue queryClass = 1)) = false := by
      simpa using hin
    rw [if_neg hin, hcount]
    simp [answerRecord]

/-- The response to a question. -/
theorem response_of_buildResponse {query response : Bytes} {config : SimDnsConfig} {name : Text}
    (h : buildResponse query config = .ok (response, name)) :
    ∃ labels texts queryType queryClass address answers,
      Asks query labels texts queryType queryClass ∧
      address = dnsAddress config (normalizedName (joinWith "." texts)) ∧
      answers = answersTo config queryType queryClass address ∧
      response = query.take 2 ++ flagsOf address ++ beBytes 2 1 ++ beBytes 2 answers.length ++
        beBytes 2 0 ++ beBytes 2 0 ++ (encodeName labels ++ queryType ++ queryClass) ++
        answers.flatMap writeAnswer := by
  simp only [buildResponse, bind_ok_iff, slice_ok_iff] at h
  obtain ⟨question, hquestion, _, _, id, hid, bytes, hbytes, hresponse⟩ := h
  obtain ⟨labels, texts, queryType, queryClass, hasks, rfl⟩ := asks_of_readQuestion hquestion
  refine ⟨labels, texts, queryType, queryClass, _, _, hasks, rfl, rfl, ?_⟩
  have hbytes : bytes = encodeName labels ++ queryType ++ queryClass := by
    obtain ⟨_, _, hlength⟩ := length_of_getRange hbytes
    obtain ⟨rest, hdrop⟩ := hasks.drop
    rw [drop_of_getRange hbytes] at hdrop
    exact (List.append_inj hdrop (by dsimp only at hlength; omega)).1
  have hid : id = query.take 2 := by
    have hheader := hasks.header
    rw [getRange_of_le (by omega) (by omega), List.drop_zero] at hid
    exact (Option.some.inj hid).symm
  subst hbytes hid
  obtain ⟨rfl, _⟩ := Prod.mk.inj (Except.ok.inj hresponse)
  obtain ⟨hcount, hanswer⟩ := answerRecord_filter config queryType queryClass
    (dnsAddress config (normalizedName (joinWith "." texts)))
  rw [← hcount, ← hanswer, ← u16ToBeBytes_eq, ← u16ToBeBytes_eq, ← u16ToBeBytes_eq]
  rfl

/-- The capacity that is reserved for a response is a number of the machine. -/
theorem capacity_of_buildResponse {query queryType queryClass : Bytes} {labels : List Label}
    {texts : List Text} {config : SimDnsConfig} {answer : Bytes × Text}
    (h : buildResponse query config = .ok answer)
    (hasks : Asks query labels texts queryType queryClass) :
    12 + (encodeName labels ++ queryType ++ queryClass).length + 16 < 2 ^ 64 := by
  simp only [buildResponse, bind_ok_iff, add_ok_iff] at h
  obtain ⟨question, hquestion, _, ⟨hcapacity, _⟩, _⟩ := h
  obtain ⟨_, _, _, _, hfound, rfl⟩ := asks_of_readQuestion hquestion
  obtain ⟨rfl, rfl, rfl, rfl⟩ := hasks.unique hfound
  exact hcapacity

/-- A query that asks and counts one question is answered. -/
theorem Asks.answered {query queryType queryClass : Bytes} {labels : List Label}
    {texts : List Text} (h : Asks query labels texts queryType queryClass)
    (hhigh : query[4]? = some 0) (hlow : query[5]? = some 1) (hlength : query.length < 2 ^ 64)
    (hcapacity : 12 + (encodeName labels ++ queryType ++ queryClass).length + 16 < 2 ^ 64)
    (config : SimDnsConfig) : ∃ answer, buildResponse query config = .ok answer := by
  obtain ⟨rest, hdrop⟩ := h.drop
  have hheader : (query.take 12).length = 12 := List.length_take_of_le h.header
  have hquery : query =
      query.take 12 ++ encodeName labels ++ (queryType ++ queryClass ++ rest) := by
    conv_lhs => rw [← List.take_append_drop 12 query, hdrop]
    simp only [List.append_assoc]
  have hcount := congrArg List.length hquery
  have htype := h.typeLength
  have hclass := h.classLength
  simp only [List.length_append] at hcount hcapacity
  have hname : decodeName query 12 =
      .ok (joinWith "." texts, 12 + (encodeName labels).length) := by
    have hdecode := @decodeName_append (query.take 12) (queryType ++ queryClass ++ rest) labels
      texts h.spells (by rw [← hquery]; omega)
    rwa [← hquery, hheader, List.length_append, hheader] at hdecode
  have hget {i : ℕ} (hi : i < query.length) : ∃ byte, query[i]? = some byte :=
    ⟨query[i], List.getElem?_eq_getElem hi⟩
  obtain ⟨t, ht⟩ := @hget (12 + (encodeName labels).length) (by omega)
  obtain ⟨t', ht'⟩ := @hget (12 + (encodeName labels).length + 1) (by omega)
  obtain ⟨c, hc⟩ := @hget (12 + (encodeName labels).length + 2) (by omega)
  obtain ⟨c', hc'⟩ := @hget (12 + (encodeName labels).length + 3) (by omega)
  have hquestion : readQuestion query = .ok ⟨joinWith "." texts, u16FromBeBytes t t',
      u16FromBeBytes c c', 12 + (encodeName labels).length + 4⟩ := by
    simp only [readQuestion, bind_ok_iff, ensure_ok_iff, index_ok_iff, add_ok_iff]
    refine ⟨(), h.header, _, hhigh, _, hlow, (), rfl, _, hname, _, ⟨by omega, rfl⟩, (), by omega,
      _, ⟨by omega, rfl⟩, t, ht, _, ⟨by omega, rfl⟩, t', ht', _, ⟨by omega, rfl⟩, c, hc, _,
      ⟨by omega, rfl⟩, c', hc', rfl⟩
  have hcapacity : (add (12 + (encodeName labels).length + 4) 16 : Checked DnsError ℕ) =
      .ok (12 + (encodeName labels).length + 4 + 16) := add_ok_iff.mpr ⟨by omega, rfl⟩
  have hid : (slice query 0 2 : Checked DnsError Bytes) = .ok ((query.take 2).drop 0) :=
    slice_ok_iff.mpr (getRange_of_le (by omega) (by omega))
  have hbytes : (slice query 12 (12 + (encodeName labels).length + 4) : Checked DnsError Bytes) =
      .ok ((query.take (12 + (encodeName labels).length + 4)).drop 12) :=
    slice_ok_iff.mpr (getRange_of_le (by omega) (by omega))
  rw [buildResponse, hquestion]
  dsimp only [ok_bind]
  rw [hcapacity, hid, hbytes]
  exact ⟨_, rfl⟩

/-! ## Messages -/

def questionOf (labels : List Label) (queryType queryClass : Bytes) : DnsWire.Question where
  name := ⟨labels, none⟩
  queryType := beValue queryType
  queryClass := beValue queryClass
  bytes := encodeName labels ++ queryType ++ queryClass

/-- The message answers the question of the query with the address. -/
structure Faithful (config : SimDnsConfig) (query : Bytes) (labels : List Label)
    (queryType queryClass : Bytes) (address : Option Ipv4Addr) (message : DnsWire.Message) :
    Prop where
  id : message.id = beValue (query.take 2)
  questions : message.questions = [questionOf labels queryType queryClass]
  rcode : message.rcode = if address.isSome then 0 else 3
  answers : message.answers = answersTo config queryType queryClass address
  authorities : message.authorities = []
  additionals : message.additionals = []

theorem Asks.readsBack {query queryType queryClass : Bytes} {labels : List Label}
    {texts : List Text} (h : Asks query labels texts queryType queryClass) :
    ReadsBack DnsWire.readQuestion DnsWire.Question.bytes
      (questionOf labels queryType queryClass) := by
  constructor
  · simp [questionOf, encodeName]
  · exact DnsWire.readQuestion_encode labels h.typeLength h.classLength

theorem answersTo_length (config : SimDnsConfig) (queryType queryClass : Bytes)
    (address : Option Ipv4Addr) : (answersTo config queryType queryClass address).length ≤ 1 := by
  rw [answersTo]
  split_ifs
  · cases address <;> simp
  · simp

theorem flagsOf_length (address : Option Ipv4Addr) : (flagsOf address).length = 2 := by
  cases address <;> rfl

theorem rcode_flagsOf (address : Option Ipv4Addr) :
    beValue (flagsOf address) % 16 = if address.isSome then 0 else 3 := by
  cases address with
  | none => decide
  | some address =>
    show beValue [0x81, 0x80] % 16 = 0
    decide

theorem faithful_response {query queryType queryClass : Bytes} {labels : List Label}
    {texts : List Text} (hasks : Asks query labels texts queryType queryClass)
    (config : SimDnsConfig) (address : Option Ipv4Addr) :
    ∃ message, DnsWire.readMessage (query.take 2 ++ flagsOf address ++ beBytes 2 1 ++
        beBytes 2 (answersTo config queryType queryClass address).length ++ beBytes 2 0 ++
        beBytes 2 0 ++ (encodeName labels ++ queryType ++ queryClass) ++
        (answersTo config queryType queryClass address).flatMap writeAnswer) = some message ∧
      Faithful config query labels queryType queryClass address message := by
  have hheader := hasks.header
  have hid : (query.take 2).length = 2 := List.length_take_of_le (by omega)
  have hcount := answersTo_length config queryType queryClass address
  have hquestions : ∀ question ∈ [questionOf labels queryType queryClass],
      ReadsBack DnsWire.readQuestion DnsWire.Question.bytes question := by
    intro question hquestion
    rw [List.mem_singleton.mp hquestion]
    exact hasks.readsBack
  have hanswers : ∀ answer ∈ answersTo config queryType queryClass address,
      ReadsBack DnsWire.readRecord writeAnswer answer := by
    intro answer hanswer
    rw [answersTo] at hanswer
    split_ifs at hanswer
    · cases address with
      | none => simp at hanswer
      | some address =>
        obtain rfl : answer = answerOf config address := by simpa using hanswer
        exact readsBack_answerOf config address
    · simp at hanswer
  have hone : [questionOf labels queryType queryClass].length < 256 ^ 2 := by
    rw [List.length_singleton]
    decide
  have hread := DnsWire.readMessage_append hid (flagsOf_length address) hone (by omega)
    hquestions hanswers
  rw [List.flatMap_cons, List.flatMap_nil, List.append_nil] at hread
  exact ⟨_, hread, rfl, rfl, rcode_flagsOf address, rfl, rfl, rfl⟩

theorem normalizedName_congr {name name' : Text}
    (h : toAsciiLowercase name = toAsciiLowercase name') :
    normalizedName name = normalizedName name' := by
  have hdot (c : Char) : isDot c.toLower = isDot c := by
    induction c using char_of_ascii with
    | hascii n hn =>
      revert n
      decide +kernel
    | hother c hc => rw [toLower_of_not_ascii hc]
  rw [normalizedName, normalizedName, toAsciiLowercase_trimEndMatches hdot,
    toAsciiLowercase_trimEndMatches hdot, h]

/-- What follows the question of a response. -/
theorem drop_response {start labels queryType queryClass : Bytes} {address : Option Ipv4Addr}
    {count : ℕ} {answers : Bytes} (h : 2 ≤ start.length) :
    (start.take 2 ++ flagsOf address ++ beBytes 2 1 ++ beBytes 2 count ++ beBytes 2 0 ++
      beBytes 2 0 ++ (labels ++ queryType ++ queryClass) ++ answers).drop
        (12 + (labels ++ queryType ++ queryClass).length) = answers := by
  have hid : (start.take 2).length = 2 := List.length_take_of_le h
  apply List.drop_left'
  simp only [List.length_append, hid, flagsOf_length, beBytes_length]

/-- The answers to two questions for names that only differ in ASCII case. -/
theorem answers_congr {config : SimDnsConfig} {query query' : Bytes} {labels labels' : List Label}
    {texts texts' : List Text} {queryType queryClass response response' : Bytes} {name name' : Text}
    (hasks : Asks query labels texts queryType queryClass)
    (hasks' : Asks query' labels' texts' queryType queryClass)
    (hcase : toAsciiLowercase (joinWith "." texts) = toAsciiLowercase (joinWith "." texts'))
    (h : buildResponse query config = .ok (response, name))
    (h' : buildResponse query' config = .ok (response', name')) :
    (∃ message message', DnsWire.readMessage response = some message ∧
      DnsWire.readMessage response' = some message' ∧ message.rcode = message'.rcode) ∧
    response.drop (12 + (encodeName labels ++ queryType ++ queryClass).length) =
      response'.drop (12 + (encodeName labels' ++ queryType ++ queryClass).length) := by
  obtain ⟨_, _, _, _, address, _, hfound, haddress, rfl, rfl⟩ := response_of_buildResponse h
  obtain ⟨_, _, _, _, address', _, hfound', haddress', rfl, rfl⟩ := response_of_buildResponse h'
  obtain ⟨rfl, rfl, rfl, rfl⟩ := hasks.unique hfound
  obtain ⟨rfl, rfl, rfl, rfl⟩ := hasks'.unique hfound'
  obtain rfl : address = address' := by rw [haddress, haddress', normalizedName_congr hcase]
  have hheader := hasks.header
  have hheader' := hasks'.header
  obtain ⟨message, hmessage, hfaithful⟩ := faithful_response hasks config address
  obtain ⟨message', hmessage', hfaithful'⟩ := faithful_response hasks' config address
  refine ⟨⟨message, message', hmessage, hmessage', ?_⟩, ?_⟩
  · rw [hfaithful.rcode, hfaithful'.rcode]
  · rw [drop_response (by omega), drop_response (by omega)]

/-- Responses are faithful to the configuration and the query, names that differ in ASCII case get
the same answer, and a name is read as it was written. -/
theorem dns_faithful :
    (∀ config query response name, validateDnsConfig config = .ok () →
      buildResponse query config = .ok (response, name) →
      ∃ labels texts queryType queryClass address message,
        Asks query labels texts queryType queryClass ∧
        Resolves config (joinWith "." texts) address ∧
        DnsWire.readMessage response = some message ∧
        Faithful config query labels queryType queryClass address message) ∧
    (∀ config query query' labels labels' texts texts' queryType queryClass response response' name
        name', Asks query labels texts queryType queryClass →
      Asks query' labels' texts' queryType queryClass →
      toAsciiLowercase (joinWith "." texts) = toAsciiLowercase (joinWith "." texts') →
      buildResponse query config = .ok (response, name) →
      buildResponse query' config = .ok (response', name') →
      (∃ message message', DnsWire.readMessage response = some message ∧
        DnsWire.readMessage response' = some message' ∧ message.rcode = message'.rcode) ∧
      response.drop (12 + (encodeName labels ++ queryType ++ queryClass).length) =
        response'.drop (12 + (encodeName labels' ++ queryType ++ queryClass).length)) ∧
    ∀ before labels after texts, Spells labels texts →
      (before ++ encodeName labels ++ after).length < 2 ^ 64 →
      decodeName (before ++ encodeName labels ++ after) before.length =
        .ok (joinWith "." texts, (before ++ encodeName labels).length) := by
  refine ⟨?_, ?_, ?_⟩
  · intro config query response name hvalid h
    obtain ⟨labels, texts, queryType, queryClass, address, answers, hasks, rfl, rfl, rfl⟩ :=
      response_of_buildResponse h
    obtain ⟨message, hmessage, hfaithful⟩ := faithful_response hasks config
      (dnsAddress config (normalizedName (joinWith "." texts)))
    exact ⟨labels, texts, queryType, queryClass, _, message, hasks,
      resolves_dnsAddress (validateDnsConfig_ok_iff.mp hvalid) _, hmessage, hfaithful⟩
  · intro config query query' labels labels' texts texts' queryType queryClass response response'
      name name' hasks hasks' hcase h h'
    exact answers_congr hasks hasks' hcase h h'
  · intro before labels after texts hspells h
    exact decodeName_append hspells h

def sampleHeader : Bytes := [0x12, 0x34, 0x01, 0x00, 0, 1, 0, 0, 0, 0, 0, 0]

def sampleQuery (labels : List Label) : Bytes :=
  sampleHeader ++ (encodeName labels ++ [0, 1] ++ [0, 1])

theorem asks_sampleQuery {labels : List Label} {texts : List Text} (h : Spells labels texts) :
    Asks (sampleQuery labels) labels texts [0, 1] [0, 1] where
  spells := h
  typeLength := rfl
  classLength := rfl
  header := by simp [sampleQuery, sampleHeader]
  drop := ⟨[], by simp [sampleQuery, sampleHeader]⟩

def sampleDnsConfig : SimDnsConfig where
  records := ⟨[("a.", "192.0.2.53")], List.pairwise_singleton _ _⟩
  defaultIpv4 := none
  ttl := some 120

/-- The name of the record, asked for in lower and in upper case. -/
theorem dns_faithful_sample :
    let lower : Label := ⟨[0x61], by decide, by decide⟩
    let upper : Label := ⟨[0x41], by decide, by decide⟩
    ∃ answer answer',
      buildResponse (sampleQuery [lower]) sampleDnsConfig = .ok answer ∧
      buildResponse (sampleQuery [upper]) sampleDnsConfig = .ok answer' ∧
      (∃ labels texts queryType queryClass address message,
        Asks (sampleQuery [lower]) labels texts queryType queryClass ∧
        Resolves sampleDnsConfig (joinWith "." texts) address ∧
        DnsWire.readMessage answer.1 = some message ∧
        Faithful sampleDnsConfig (sampleQuery [lower]) labels queryType queryClass address
          message) ∧
      (∃ message message', DnsWire.readMessage answer.1 = some message ∧
        DnsWire.readMessage answer'.1 = some message' ∧ message.rcode = message'.rcode) ∧
      answer.1.drop 19 = answer'.1.drop 19 ∧
      decodeName (sampleQuery [lower]) 12 = .ok ("a", 15) := by
  intro lower upper
  have hlower : Spells [lower] ["a"] := by
    rw [Spells]
    decide
  have hupper : Spells [upper] ["A"] := by
    rw [Spells]
    decide
  have hasks := asks_sampleQuery hlower
  have hasks' := asks_sampleQuery hupper
  obtain ⟨⟨response, name⟩, h⟩ := hasks.answered rfl rfl (by decide) (by decide) sampleDnsConfig
  obtain ⟨⟨response', name'⟩, h'⟩ := hasks'.answered rfl rfl (by decide) (by decide) sampleDnsConfig
  obtain ⟨hfaithful, hcase, hdecode⟩ := dns_faithful
  obtain ⟨hrcode, hanswers⟩ := hcase _ _ _ _ _ _ _ _ _ _ _ _ _ hasks hasks' (by decide) h h'
  refine ⟨(response, name), (response', name'), h, h', ?_, hrcode, hanswers, ?_⟩
  · exact hfaithful _ _ _ _ (by decide) h
  · exact hdecode sampleHeader [lower] ([0, 1] ++ [0, 1]) ["a"] hlower (by decide)

end ProtocolSimulation.Engine
