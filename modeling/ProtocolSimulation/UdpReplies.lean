import ProtocolSimulation.DnsAnswers
import ProtocolSimulation.SnmpResponses

/-!
# Replies that are sent back as requests

Two simulations of one kind answer each other when a datagram with the address
of the one reaches the other. An SNMP reply has a tag that no request has, but a
DNS reply is a query again.
-/
namespace ProtocolSimulation.Engine

open ProtocolSimulation.Texts ProtocolSimulation.BigEndian ProtocolSimulation.Fallible
open ProtocolSimulation.DnsWire (Label encodeName)

inductive UdpKind where
  | dns
  | snmp
  deriving DecidableEq

/-- What a simulation was configured with. -/
inductive UdpSimulation : UdpKind → Type where
  | dns (config : SimDnsConfig) : UdpSimulation .dns
  | snmp (values : Snmp.SnmpValues) : UdpSimulation .snmp

namespace UdpSimulation

/-- The reply to a datagram, if it is a request that can be answered. -/
def reply : {kind : UdpKind} → UdpSimulation kind → Bytes → Option Bytes
  | _, .dns config, datagram => ((buildResponse datagram config).toOption).map Prod.fst
  | _, .snmp values, datagram =>
    (do Snmp.buildResponse (← Snmp.parseRequest datagram) values).toOption

/-- The datagram is not taken for a request. -/
def Rejects : {kind : UdpKind} → UdpSimulation kind → Bytes → Prop
  | _, .dns config, datagram => ∀ answer, buildResponse datagram config ≠ .ok answer
  | _, .snmp _, datagram => ∀ request, Snmp.parseRequest datagram ≠ .ok request

/-- The datagrams that two simulations send each other, from one that the first receives. -/
def volley {kind : UdpKind} : (turns : ℕ) → (first second : UdpSimulation kind) → Bytes →
    Option Bytes
  | 0, _, _, datagram => some datagram
  | turns + 1, first, second, datagram => (first.reply datagram).bind (volley turns second first)

end UdpSimulation

/-! ## DNS -/

theorem length_writeAnswer (config : SimDnsConfig) (queryType queryClass : Bytes)
    (address : Option Ipv4Addr) :
    ((answersTo config queryType queryClass address).flatMap writeAnswer).length ≤ 16 := by
  rw [answersTo]
  split_ifs
  · cases address with
    | none => simp
    | some address =>
      simp [writeAnswer, DnsWire.encodeRecord, DnsWire.encodePointer, answerOf]
  · simp

/-- A reply asks the question that it answers, as the only one. -/
theorem asks_response {query response : Bytes} {config : SimDnsConfig} {name : Text}
    (h : buildResponse query config = .ok (response, name)) :
    ∃ labels texts queryType queryClass, Asks query labels texts queryType queryClass ∧
      Asks response labels texts queryType queryClass ∧
      response[4]? = some 0 ∧ response[5]? = some 1 ∧
      response.length ≤ 12 + (encodeName labels ++ queryType ++ queryClass).length + 16 := by
  obtain ⟨labels, texts, queryType, queryClass, address, answers, hasks, _, hanswers, rfl⟩ :=
    response_of_buildResponse h
  have hheader := hasks.header
  obtain ⟨high, low, hid⟩ := List.length_eq_two.mp (List.length_take_of_le (i := 2) (l := query)
    (by omega))
  obtain ⟨flag, rcode, hflags⟩ := List.length_eq_two.mp (flagsOf_length address)
  have hlength := length_writeAnswer config queryType queryClass address
  rw [← hanswers] at hlength
  rw [hid, hflags]
  refine ⟨labels, texts, queryType, queryClass, hasks, ?_, rfl, rfl, ?_⟩
  · refine ⟨hasks.spells, hasks.typeLength, hasks.classLength, ?_, answers.flatMap writeAnswer, ?_⟩
    · simp [beBytes]
    · simp [beBytes]
  · simp only [List.length_append, beBytes_length, List.length_cons, List.length_nil] at hlength ⊢
    omega

/-- What was answered is answered again by any simulation. -/
theorem response_answered {query response : Bytes} {config : SimDnsConfig} {name : Text}
    (h : buildResponse query config = .ok (response, name)) (other : SimDnsConfig) :
    ∃ answer, buildResponse response other = .ok answer := by
  obtain ⟨_, _, _, _, hasks, hresponse, hhigh, hlow, hlength⟩ := asks_response h
  have hcapacity := capacity_of_buildResponse h hasks
  exact hresponse.answered hhigh hlow (by omega) hcapacity other

/-! ## SNMP -/

/-- A reply is no request. -/
theorem Snmp.parseRequest_response {message response : Bytes} {request other : Snmp.SnmpRequest}
    {values : Snmp.SnmpValues} (hrequest : Snmp.parseRequest message = .ok request)
    (h : Snmp.buildResponse request values = .ok response) :
    Snmp.parseRequest response ≠ .ok other := by
  intro hother
  obtain ⟨htag, hne, _⟩ := Snmp.request_of_parseRequest hrequest
  rw [Snmp.buildResponse_eq htag hne] at h
  obtain ⟨varbinds, _, hresponse⟩ := bind_ok_iff.mp h
  cases hresponse
  have hkept := Snmp.pduTag_of_parseRequest (Snmp.community_of_parseRequest hrequest) hother
  obtain ⟨hknown, _, _⟩ := Snmp.request_of_parseRequest hother
  rw [hkept] at hknown
  simp at hknown

/-! ## Volleys -/

namespace UdpSimulation

variable {kind : UdpKind}

theorem reply_dns {config : SimDnsConfig} {datagram reply : Bytes}
    (h : (UdpSimulation.dns config).reply datagram = some reply) :
    ∃ name, buildResponse datagram config = .ok (reply, name) := by
  rw [UdpSimulation.reply] at h
  cases hbuilt : buildResponse datagram config with
  | error fault =>
    rw [hbuilt] at h
    cases h
  | ok answer =>
    rw [hbuilt] at h
    cases h
    exact ⟨answer.2, rfl⟩

theorem reply_snmp {values : Snmp.SnmpValues} {datagram reply : Bytes}
    (h : (UdpSimulation.snmp values).reply datagram = some reply) :
    ∃ request, Snmp.parseRequest datagram = .ok request ∧
      Snmp.buildResponse request values = .ok reply := by
  rw [UdpSimulation.reply] at h
  cases hbuilt : (do Snmp.buildResponse (← Snmp.parseRequest datagram) values) with
  | error fault =>
    rw [hbuilt] at h
    cases h
  | ok answer =>
    rw [hbuilt] at h
    cases h
    exact bind_ok_iff.mp hbuilt

theorem reply_eq_none_of_rejects {simulation : UdpSimulation kind} {datagram : Bytes}
    (h : simulation.Rejects datagram) : simulation.reply datagram = none := by
  cases hreply : simulation.reply datagram with
  | none => rfl
  | some reply =>
    cases simulation with
    | dns config =>
      obtain ⟨_, hbuilt⟩ := reply_dns hreply
      exact absurd hbuilt (h _)
    | snmp values =>
      obtain ⟨_, hparsed, _⟩ := reply_snmp hreply
      exact absurd hparsed (h _)

/-- One turn between two DNS simulations leads to the next. -/
theorem reply_reply_dns {first second : UdpSimulation .dns} {datagram reply : Bytes}
    (h : first.reply datagram = some reply) : ∃ next, second.reply reply = some next := by
  cases first with
  | dns config =>
    cases second with
    | dns other =>
      obtain ⟨_, hbuilt⟩ := reply_dns h
      obtain ⟨answer, hanswer⟩ := response_answered hbuilt other
      use answer.1
      rw [UdpSimulation.reply, hanswer]
      rfl

theorem volley_dns {first second : UdpSimulation .dns} {datagram reply : Bytes}
    (h : first.reply datagram = some reply) (turns : ℕ) :
    ∃ last, volley turns first second datagram = some last := by
  induction turns generalizing first second datagram reply with
  | zero => exact ⟨datagram, rfl⟩
  | succ turns ih =>
    obtain ⟨next, hnext⟩ := @reply_reply_dns first second _ _ h
    obtain ⟨last, hlast⟩ := ih hnext
    use last
    rw [volley, h, Option.bind_some, hlast]

theorem rejects_snmp {first second : UdpSimulation .snmp} {datagram reply : Bytes}
    (h : first.reply datagram = some reply) : second.Rejects reply := by
  cases first with
  | snmp values =>
    cases second with
    | snmp other =>
      obtain ⟨request, hrequest, hbuilt⟩ := reply_snmp h
      intro next
      exact Snmp.parseRequest_response hrequest hbuilt

/-- A reply is rejected by the simulations of its kind, and a volley ends, for SNMP only. -/
theorem reply_rejected_iff {first second : UdpSimulation kind} {datagram reply : Bytes}
    (h : first.reply datagram = some reply) :
    (second.Rejects reply ↔ kind = .snmp) ∧
      ((∃ turns, volley turns first second datagram = none) ↔ kind = .snmp) := by
  cases kind with
  | dns =>
    constructor
    · obtain ⟨next, hnext⟩ := @reply_reply_dns first second _ _ h
      have hanswered : ¬ second.Rejects reply := by
        intro hrejects
        rw [reply_eq_none_of_rejects hrejects] at hnext
        cases hnext
      simp [hanswered]
    · have hvolley : ¬ ∃ turns, volley turns first second datagram = none := by
        rintro ⟨turns, hturns⟩
        obtain ⟨last, hlast⟩ := @volley_dns first second _ _ h turns
        rw [hlast] at hturns
        cases hturns
      simp [hvolley]
  | snmp =>
    have hrejects : second.Rejects reply := rejects_snmp h
    have hvolley : volley 2 first second datagram = none := by
      rw [volley, h, Option.bind_some, volley, reply_eq_none_of_rejects hrejects]
      rfl
    simp only [hrejects, iff_true, true_and]
    exact ⟨2, hvolley⟩

def silentDnsConfig : SimDnsConfig where
  records := ⟨[], List.Pairwise.nil⟩
  defaultIpv4 := none
  ttl := none

theorem reply_sampleQuery : ∃ reply,
    (UdpSimulation.dns sampleDnsConfig).reply (sampleQuery [⟨[0x61], by decide, by decide⟩]) =
      some reply := by
  have hspells : Spells [⟨[0x61], by decide, by decide⟩] ["a"] := by
    rw [Spells]
    decide
  obtain ⟨⟨reply, name⟩, hbuilt⟩ := (asks_sampleQuery hspells).answered rfl rfl (by decide)
    (by decide) sampleDnsConfig
  use reply
  rw [UdpSimulation.reply, hbuilt]
  rfl

/-- A query for a name, and the reply sent to a simulation without any record. -/
theorem reply_rejected_sampleQuery : ∃ reply,
    (UdpSimulation.dns sampleDnsConfig).reply (sampleQuery [⟨[0x61], by decide, by decide⟩]) =
      some reply ∧
    ((UdpSimulation.dns silentDnsConfig).Rejects reply ↔ UdpKind.dns = .snmp) ∧
    ((∃ turns, volley turns (.dns sampleDnsConfig) (.dns silentDnsConfig)
      (sampleQuery [⟨[0x61], by decide, by decide⟩]) = none) ↔ UdpKind.dns = .snmp) := by
  obtain ⟨reply, hreply⟩ := reply_sampleQuery
  exact ⟨reply, hreply, reply_rejected_iff hreply⟩

/-- The reply to this query is answered once more. -/
theorem reply_not_rejected : ∃ reply,
    (UdpSimulation.dns sampleDnsConfig).reply (sampleQuery [⟨[0x61], by decide, by decide⟩]) =
      some reply ∧ ¬ (UdpSimulation.dns silentDnsConfig).Rejects reply := by
  obtain ⟨reply, hreply⟩ := reply_sampleQuery
  refine ⟨reply, hreply, ?_⟩
  intro hrejects
  obtain ⟨next, hnext⟩ := @reply_reply_dns _ (.dns silentDnsConfig) _ _ hreply
  rw [reply_eq_none_of_rejects hrejects] at hnext
  cases hnext

end UdpSimulation

end ProtocolSimulation.Engine
