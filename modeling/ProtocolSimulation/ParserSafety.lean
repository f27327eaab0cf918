import ProtocolSimulation.Dns
import ProtocolSimulation.Mqtt
import ProtocolSimulation.Mysql
import ProtocolSimulation.SnmpSafety

/-!
# Bytes from the network

Whatever bytes a client sends, the parsers of the binary protocols return a value
or an error. An offset never leaves the message it points into.
-/
namespace ProtocolSimulation.Engine

open ProtocolSimulation.Texts ProtocolSimulation.BigEndian ProtocolSimulation.Panics

/-! ## DNS -/

theorem safe_decodeLabels {message : Bytes} {offset : ℕ} {labels : List Text}
    (h : message.length < 2 ^ 63) :
    Safe (fun read => offset < read.2 ∧ read.2 ≤ message.length)
      (decodeLabels message offset labels) := by
  induction offset, labels using decodeLabels.induct message with
  | case1 offset labels fault hlabel =>
    obtain ⟨e, rfl⟩ := (safe_decodeLabel h).2 fault hlabel
    rw [decodeLabels, hlabel]
    exact safe_fail e
  | case2 offset labels stop hlabel =>
    rw [decodeLabels, hlabel]
    exact safe_ok ((safe_decodeLabel h).1 _ hlabel)
  | case3 offset labels label stop hlabel ih =>
    obtain ⟨hlt, _⟩ := (safe_decodeLabel h).1 _ hlabel
    rw [decodeLabels, hlabel]
    exact ih.mono fun read hread => ⟨hlt.trans hread.1, hread.2⟩

theorem safe_decodeName {message : Bytes} {offset : ℕ} (h : message.length < 2 ^ 63) :
    Safe (fun read => offset < read.2 ∧ read.2 ≤ message.length) (decodeName message offset) := by
  apply (safe_decodeLabels h).bind
  intro read hread
  exact safe_ok hread

theorem safe_readQuestion {query : Bytes} (h : query.length < 2 ^ 63) :
    Safe (fun question => 12 ≤ question.questionEnd ∧ question.questionEnd ≤ query.length)
      (readQuestion query) := by
  apply (safe_ensure _ _).bind
  intro _ hheader
  apply (safe_index (by omega)).bind
  intro _ _
  apply (safe_index (by omega)).bind
  intro _ _
  apply (safe_ensure _ _).bind
  intro _ _
  apply (safe_decodeName h).bind
  rintro ⟨name, nameEnd⟩ hname
  dsimp only at hname ⊢
  apply (safe_add (by omega)).bind
  rintro _ rfl
  apply (safe_ensure _ _).bind
  intro _ hend
  apply (safe_add (by omega)).bind
  rintro _ rfl
  apply (safe_index (by omega)).bind
  intro _ _
  apply (safe_add (by omega)).bind
  rintro _ rfl
  apply (safe_index (by omega)).bind
  intro _ _
  apply (safe_add (by omega)).bind
  rintro _ rfl
  apply (safe_index (by omega)).bind
  intro _ _
  apply (safe_add (by omega)).bind
  rintro _ rfl
  apply (safe_index (by omega)).bind
  intro _ _
  exact safe_ok ⟨by dsimp only; omega, hend⟩

theorem safe_buildResponse {query : Bytes} (h : query.length < 2 ^ 63) (config : SimDnsConfig) :
    Safe (fun _ => True) (buildResponse query config) := by
  apply (safe_readQuestion h).bind
  rintro question ⟨hstart, hend⟩
  apply (safe_add (by omega)).bind
  intro _ _
  apply (safe_slice (by omega) (by omega)).bind
  intro _ _
  apply (safe_slice hstart hend).bind
  intro _ _
  exact safe_ok trivial

/-! ## MySQL -/

theorem lt_length_of_findIdx? {xs : Bytes} {p : UInt8 → Bool} {i : ℕ} (h : xs.findIdx? p = some i) :
    i < xs.length := by
  obtain ⟨hlt, _⟩ := List.findIdx?_eq_some_iff_getElem.mp h
  exact hlt

theorem safe_takeCstring {input : Bytes} {offset : ℕ} (h : input.length < 2 ^ 63) :
    Safe (fun read => read.2 ≤ input.length) (Mysql.takeCstring input offset) := by
  apply (safe_orFail _ _).bind
  intro remaining hremaining
  obtain ⟨hoffset, _, hlength⟩ := length_of_getRange hremaining
  apply (safe_orFail _ _).bind
  intro length hfound
  have hlt := lt_length_of_findIdx? hfound
  apply (safe_slice (by omega) (by omega)).bind
  intro bytes _
  apply (safe_orFail _ _).bind
  intro value _
  apply (safe_add (by omega)).bind
  rintro _ rfl
  apply (safe_add (by omega)).bind
  rintro _ rfl
  apply safe_ok
  show offset + (length + 1) ≤ input.length
  omega

theorem safe_readLenencInteger {input : Bytes} {offset : ℕ} (h : input.length < 2 ^ 63) :
    Safe (fun read => read.1 < 2 ^ 63 ∧ read.2 ≤ input.length)
      (Mysql.readLenencInteger input offset) := by
  apply (safe_orFail _ _).bind
  intro first hfirst
  obtain ⟨hoffset, _⟩ := List.getElem?_eq_some_iff.mp hfirst
  have hbyte := first.toNat_lt
  apply (safe_add (by omega)).bind
  rintro _ rfl
  apply safe_ite
  · intro _
    exact safe_ok ⟨by omega, hoffset⟩
  · intro _
    apply safe_ite
    · intro _
      apply (safe_add (by omega)).bind
      rintro _ rfl
      apply (safe_orFail _ _).bind
      intro bytes hbytes
      obtain ⟨_, hstop, hlength⟩ := length_of_getRange hbytes
      apply (safe_add (by omega)).bind
      rintro _ rfl
      apply safe_ok
      have hvalue := leValue_lt bytes
      have htwo : bytes.length = 2 := by omega
      rw [htwo] at hvalue
      exact ⟨by dsimp only; omega, hstop⟩
    · intro _
      exact safe_fail _

theorem safe_readAuthLength {capabilities : UInt32} {payload : Bytes} {offset : ℕ}
    (h : payload.length < 2 ^ 63) (hoffset : offset ≤ payload.length) :
    Safe (fun read => read.1 < 2 ^ 63 ∧ read.2 ≤ payload.length)
      (Mysql.readAuthLength capabilities payload offset) := by
  apply safe_ite
  · intro _
    exact safe_readLenencInteger h
  · intro _
    apply safe_ite
    · intro _
      apply (safe_orFail _ _).bind
      intro length hlength
      obtain ⟨hlt, _⟩ := List.getElem?_eq_some_iff.mp hlength
      have hbyte := length.toNat_lt
      apply (safe_add (by omega)).bind
      rintro _ rfl
      exact safe_ok ⟨by dsimp only; omega, hlt⟩
    · intro _
      apply (safe_slice hoffset le_rfl).bind
      intro remaining hremaining
      apply (safe_orFail _ _).bind
      intro length hfound
      have hlt := lt_length_of_findIdx? hfound
      exact safe_ok ⟨by dsimp only; omega, hoffset⟩

theorem safe_parseHandshakeResponse {payload : Bytes} (h : payload.length < 2 ^ 63) :
    Safe (fun _ => True) (Mysql.parseHandshakeResponse payload) := by
  apply (safe_ensure _ _).bind
  intro _ hheader
  apply (safe_slice (by omega) (by omega)).bind
  intro word _
  apply (safe_ensure _ _).bind
  intro _ _
  apply (safe_takeCstring h).bind
  rintro ⟨username, offset⟩ hoffset
  apply (safe_readAuthLength h hoffset).bind
  rintro ⟨authLength, start⟩ ⟨hauth, hstart⟩
  dsimp only at hauth hstart ⊢
  apply (safe_add (by omega)).bind
  rintro _ rfl
  apply (safe_orFail _ _).bind
  intro authResponse _
  apply (safe_add (by omega)).bind
  rintro _ rfl
  apply safe_ite
  · intro _
    apply (safe_takeCstring h).bind
    intro _ _
    exact safe_ok trivial
  · intro _
    exact safe_ok trivial

/-! ## MQTT -/

theorem safe_parseConnect {payload : Bytes} (h : payload.length < 2 ^ 63) :
    Safe (fun _ => True) (Mqtt.parseConnect payload) := by
  apply (safe_ensure _ _).bind
  intro _ hheader
  apply (safe_index (by omega)).bind
  intro high _
  apply (safe_index (by omega)).bind
  intro low _
  have hname : beValue [high, low] < 65536 := by simpa using beValue_lt [high, low]
  apply (safe_add (by omega)).bind
  rintro _ rfl
  apply (safe_add (by omega)).bind
  rintro _ rfl
  apply (safe_ensure _ _).bind
  intro _ hfits
  apply (safe_add (by omega)).bind
  rintro _ rfl
  apply (safe_slice (by omega) (by omega)).bind
  intro name _
  apply (safe_ensure _ _).bind
  intro _ _
  apply (safe_add (by omega)).bind
  rintro _ rfl
  apply (safe_index (by omega)).bind
  intro level _
  apply (safe_add (by omega)).bind
  rintro _ rfl
  apply (safe_index (by omega)).bind
  intro flags _
  exact safe_ok trivial

/-! ## All of them -/

/-- No message of the size that is read makes a parser panic, and a request that is accepted has
between 1 and 32 OIDs that can be written. -/
theorem parsers_safe :
    (∀ message : Bytes, message.length ≤ Snmp.MAX_SNMP_MESSAGE_SIZE →
      Snmp.NoPanic (Snmp.parseRequest message) ∧
      ∀ request, Snmp.parseRequest message = .ok request →
        1 ≤ request.oids.length ∧ request.oids.length ≤ 32 ∧
        ∀ oid ∈ request.oids, ∃ code, Snmp.encodeOid oid = .ok code) ∧
    (∀ (query : Bytes) (config : SimDnsConfig), query.length ≤ MAX_DNS_MESSAGE_SIZE →
      Safe (fun _ => True) (buildResponse query config)) ∧
    (∀ payload : Bytes, payload.length ≤ Mysql.MAX_PACKET_SIZE →
      Safe (fun _ => True) (Mysql.parseHandshakeResponse payload)) ∧
    ∀ payload : Bytes, payload.length ≤ Mqtt.MAX_PACKET_SIZE →
      Safe (fun _ => True) (Mqtt.parseConnect payload) := by
  refine ⟨?_, ?_, ?_, ?_⟩
  · intro message hmessage
    rw [Snmp.MAX_SNMP_MESSAGE_SIZE] at hmessage
    refine ⟨Snmp.noPanic_parseRequest (by omega), ?_⟩
    intro request hrequest
    obtain ⟨_, hne, hoids⟩ := Snmp.request_of_parseRequest hrequest
    refine ⟨List.length_pos_iff.mpr hne, Snmp.oids_length_le_of_parseRequest hrequest, ?_⟩
    exact fun oid hoid => Snmp.exists_encodeOid_iff.mpr (hoids oid hoid)
  · intro query config hquery
    rw [MAX_DNS_MESSAGE_SIZE] at hquery
    exact safe_buildResponse (by omega) config
  · intro payload hpayload
    rw [Mysql.MAX_PACKET_SIZE] at hpayload
    exact safe_parseHandshakeResponse (by omega)
  · intro payload hpayload
    rw [Mqtt.MAX_PACKET_SIZE] at hpayload
    exact safe_parseConnect (by omega)

theorem parsers_safe_samples :
    (∃ request, Snmp.parseRequest Snmp.sampleBulk = .ok request ∧ 1 ≤ request.oids.length ∧
      request.oids.length ≤ 32 ∧ ∀ oid ∈ request.oids, ∃ code, Snmp.encodeOid oid = .ok code) ∧
    Safe (fun _ => True) (buildResponse [0x12, 0x34] ⟨⟨[], .nil⟩, none, none⟩) ∧
    Safe (fun _ => True) (Mysql.parseHandshakeResponse (List.replicate 33 0xff)) ∧
    Safe (fun _ => True) (Mqtt.parseConnect [0, 4, 0x4d, 0x51, 0x54, 0x54, 4]) := by
  obtain ⟨hsnmp, hdns, hmysql, hmqtt⟩ := parsers_safe
  have hparse : Snmp.parseRequest Snmp.sampleBulk = .ok Snmp.sampleBulkRequest := by decide
  exact ⟨⟨_, hparse, (hsnmp Snmp.sampleBulk (by decide)).2 _ hparse⟩, hdns _ _ (by decide),
    hmysql _ (by decide), hmqtt _ (by decide)⟩

end ProtocolSimulation.Engine
