import ProtocolSimulation.DnsAnswers
import ProtocolSimulation.FramedTalks

/-!
# DNS over TCP and over UDP

A connection answers framed queries one after the other, up to the first that it does
not take. A client that reads the frames of the server gets what datagrams with the
same queries are answered with.
-/
namespace ProtocolSimulation.Engine

open ProtocolSimulation.Texts ProtocolSimulation.Conversations ProtocolSimulation.BigEndian
open ProtocolSimulation.Framing ProtocolSimulation.Panics ProtocolSimulation.RuntimeEvents

/-! ## Frames -/

/-- A message behind its length, as it is sent over TCP. -/
def tcpFrame (message : Bytes) : Bytes := u16ToBeBytes message.length ++ message

def readTcpFrame : Reader UInt8 Bytes
  | high :: low :: input =>
    let size := u16FromBeBytes high low
    if input.length < size then none else some (input.take size, input.drop size)
  | _ => none

theorem readsBack_tcpFrame {message : Bytes} (h : message.length < 2 ^ 16) :
    ReadsBack readTcpFrame tcpFrame message := by
  constructor
  · simp [tcpFrame, u16ToBeBytes]
  · intro rest
    have hsize : u16FromBeBytes (UInt8.ofNat (message.length / 256)) (UInt8.ofNat message.length) =
        message.length := by
      simp only [u16FromBeBytes, UInt8.toNat_ofNat']
      omega
    simp [tcpFrame, u16ToBeBytes, readTcpFrame, hsize]

/-- A query that a frame can hold. -/
structure FramedQuery where
  bytes : Bytes
  nonempty : bytes ≠ []
  fits : bytes.length < 2 ^ 16

def FramedQuery.frame (q : FramedQuery) : Bytes := tcpFrame q.bytes

/-! ## Responses -/

/-- What the simulation takes: not too long, and a query that it can answer. -/
def FramedQuery.taken (config : SimDnsConfig) (q : FramedQuery) : Bool :=
  q.bytes.length ≤ MAX_DNS_MESSAGE_SIZE && (buildResponse q.bytes config).toOption.isSome

/-- The queries before the first that is not taken. -/
def servedQueries (config : SimDnsConfig) (queries : List FramedQuery) : List FramedQuery :=
  queries.takeWhile (FramedQuery.taken config)

theorem writeAnswer_answerOf_length (config : SimDnsConfig) (address : Ipv4Addr) :
    (writeAnswer (answerOf config address)).length = 16 := by
  simp [writeAnswer, answerOf, DnsWire.encodeRecord, DnsWire.encodePointer]

/-- A response is at most 16 bytes longer than its query. -/
theorem buildResponse_length_le {query response : Bytes} {config : SimDnsConfig} {name : Text}
    (h : buildResponse query config = .ok (response, name)) :
    response.length ≤ query.length + 16 := by
  obtain ⟨labels, texts, queryType, queryClass, address, answers, hasks, _, hanswers, rfl⟩ :=
    response_of_buildResponse h
  obtain ⟨rest, hdrop⟩ := hasks.drop
  have hheader := hasks.header
  have hquestion := congrArg List.length hdrop
  have hanswer : (answers.flatMap writeAnswer).length ≤ 16 := by
    rw [hanswers, answersTo]
    split
    next =>
      cases address with
      | none => simp
      | some address => simp [writeAnswer_answerOf_length]
    next => simp
  simp only [List.length_append, List.length_drop, List.length_take, beBytes_length,
    flagsOf_length] at hquestion hanswer ⊢
  omega

/-! ## Connections -/

/-- The response to a query that is taken, with the name that is reported. -/
def FramedQuery.answer (config : SimDnsConfig) (q : FramedQuery) : Bytes × Text :=
  (buildResponse q.bytes config).toOption.getD ([], [])

/-- The report about a query that is taken. -/
def FramedQuery.report (runtime : DnsRuntime) (peer : SocketAddr) (q : FramedQuery)
    (h : q.bytes.length ≤ MAX_DNS_MESSAGE_SIZE) : QueuedLog :=
  reportQuery runtime peer ⟨q.bytes, h⟩ (q.answer runtime.config).2

theorem taken_iff {config : SimDnsConfig} {q : FramedQuery} : q.taken config = true ↔
    q.bytes.length ≤ MAX_DNS_MESSAGE_SIZE ∧
      buildResponse q.bytes config = .ok (q.answer config) := by
  rw [FramedQuery.taken, FramedQuery.answer, Bool.and_eq_true, decide_eq_true_eq]
  cases buildResponse q.bytes config with
  | ok answer => simp [Except.toOption]
  | error fault => simp [Except.toOption]

theorem answer_length_le {config : SimDnsConfig} {q : FramedQuery} (h : q.taken config = true) :
    (q.answer config).1.length ≤ q.bytes.length + 16 :=
  buildResponse_length_le (taken_iff.mp h).2

theorem answerQuery_of_taken (runtime : DnsRuntime) (peer : SocketAddr) {q : FramedQuery}
    (h : q.taken runtime.config = true) (hlength : q.bytes.length ≤ MAX_DNS_MESSAGE_SIZE) :
    answerQuery runtime peer ⟨q.bytes, hlength⟩ =
      .ok ((q.answer runtime.config).1, q.report runtime peer hlength) := by
  rw [answerQuery, FramedQuery.report]
  dsimp only
  rw [(taken_iff.mp h).2]
  rfl

theorem answerQuery_of_not_taken (runtime : DnsRuntime) (peer : SocketAddr) {q : FramedQuery}
    (h : q.taken runtime.config = false) (hlength : q.bytes.length ≤ MAX_DNS_MESSAGE_SIZE) :
    ∃ fault, answerQuery runtime peer ⟨q.bytes, hlength⟩ = .error fault := by
  cases hbuilt : buildResponse q.bytes runtime.config with
  | ok answer => simp [FramedQuery.taken, hlength, hbuilt, Except.toOption] at h
  | error fault =>
    refine ⟨fault, ?_⟩
    rw [answerQuery]
    dsimp only
    rw [hbuilt]
    rfl

/-- What a connection puts out for a query that is taken. -/
def tcpOutputs (runtime : DnsRuntime) (peer : SocketAddr) (q : FramedQuery) :
    List (Output Bytes) :=
  if h : q.bytes.length ≤ MAX_DNS_MESSAGE_SIZE then
    [.wrote (u16ToBeBytes (q.answer runtime.config).1.length), .wrote (q.answer runtime.config).1,
      .reported (q.report runtime peer h)]
  else []

/-- A frame is read, and answered if its query is taken. -/
theorem run_handleTcpMessage (runtime : DnsRuntime) (peer : SocketAddr) (q : FramedQuery)
    (rest : Bytes) : ∃ high tail, q.frame ++ rest = high :: tail ∧
      (handleTcpMessage runtime peer high).run tail =
        if q.taken runtime.config then (tcpOutputs runtime peer q, some (.inl (), rest))
        else ([], none) := by
  have hpositive : 0 < q.bytes.length := List.length_pos_iff.mpr q.nonempty
  have hfits := q.fits
  have hsize : u16FromBeBytes (UInt8.ofNat (q.bytes.length / 256)) (UInt8.ofNat q.bytes.length) =
      q.bytes.length := by
    simp only [u16FromBeBytes, UInt8.toNat_ofNat']
    omega
  refine ⟨UInt8.ofNat (q.bytes.length / 256), UInt8.ofNat q.bytes.length :: (q.bytes ++ rest),
    by simp [FramedQuery.frame, tcpFrame, u16ToBeBytes], ?_⟩
  rw [handleTcpMessage, Talk.run_bind, Talk.run_take_cons]
  dsimp only
  by_cases hlong : q.bytes.length ≤ MAX_DNS_MESSAGE_SIZE
  · have hin : ¬(u16FromBeBytes (UInt8.ofNat (q.bytes.length / 256))
        (UInt8.ofNat q.bytes.length) = 0 ∨ MAX_DNS_MESSAGE_SIZE <
        u16FromBeBytes (UInt8.ofNat (q.bytes.length / 256)) (UInt8.ofNat q.bytes.length)) := by
      rw [hsize]
      omega
    rw [dif_neg hin, Talk.run_bind, Talk.run_takeExactly_append hsize.symm]
    dsimp only
    cases htaken : q.taken runtime.config with
    | false =>
      obtain ⟨fault, hanswer⟩ := answerQuery_of_not_taken runtime peer htaken hlong
      rw [hanswer]
      rfl
    | true =>
      have hresponse : ¬2 ^ 16 ≤ (q.answer runtime.config).1.length := by
        have hle := answer_length_le htaken
        have hmax : MAX_DNS_MESSAGE_SIZE = 4096 := rfl
        omega
      rw [answerQuery_of_taken runtime peer htaken hlong, tcpOutputs, dif_pos hlong]
      dsimp only
      rw [if_neg hresponse]
      rfl
  · have hout : u16FromBeBytes (UInt8.ofNat (q.bytes.length / 256))
        (UInt8.ofNat q.bytes.length) = 0 ∨ MAX_DNS_MESSAGE_SIZE <
        u16FromBeBytes (UInt8.ofNat (q.bytes.length / 256)) (UInt8.ofNat q.bytes.length) := by
      rw [hsize]
      omega
    have htaken : q.taken runtime.config = false := by simp [FramedQuery.taken, hlong]
    rw [dif_pos hout, htaken]
    rfl

theorem takesFrame_query (runtime : DnsRuntime) (peer : SocketAddr) (q : FramedQuery) :
    Talk.TakesFrame (fun (_ : Unit) high => handleTcpMessage runtime peer high) () q.frame
      (if q.taken runtime.config then tcpOutputs runtime peer q else [])
      (q.taken runtime.config) := by
  constructor
  intro rest
  obtain ⟨high, tail, hinput, hrun⟩ := run_handleTcpMessage runtime peer q rest
  cases htaken : q.taken runtime.config with
  | true =>
    rw [htaken, if_pos rfl] at hrun
    exact ⟨high, tail, _, hinput, hrun, rfl⟩
  | false =>
    rw [htaken, if_neg Bool.false_ne_true] at hrun
    exact ⟨high, tail, none, hinput, hrun, fun _ _ => by simp⟩

/-- A connection answers the queries that it serves, and nothing after them. -/
theorem run_handleTcpConnection (runtime : DnsRuntime) (peer : SocketAddr)
    (queries : List FramedQuery) :
    ((handleTcpConnection runtime peer).run (queries.flatMap FramedQuery.frame)).1 =
      (servedQueries runtime.config queries).flatMap (tcpOutputs runtime peer) := by
  refine (Talk.run_forEach_frames fun q _ => takesFrame_query runtime peer q).trans ?_
  rw [Talk.throughFirst_flatMap, servedQueries]
  · apply List.flatMap_congr
    intro q hq
    exact if_pos (List.mem_takeWhile_imp hq)
  · intro q _ htaken
    rw [htaken]
    rfl

/-- A datagram with a query that is taken is answered with its response. -/
theorem handleDatagram_of_taken (runtime : DnsRuntime) (peer : SocketAddr) {q : FramedQuery}
    (h : q.taken runtime.config = true) :
    written (handleDatagram runtime peer q.bytes) = [(q.answer runtime.config).1] := by
  have hlength := (taken_iff.mp h).1
  have hquery : (⟨q.bytes.take MAX_DNS_MESSAGE_SIZE, List.length_take_le _ _⟩ : DnsMessage) =
      ⟨q.bytes, hlength⟩ := Subtype.ext (List.take_of_length_le hlength)
  rw [handleDatagram, hquery, answerQuery_of_taken runtime peer h hlength]
  rfl

/-- What a connection owes its client. -/
structure ConnectionRight (tcp udp : DnsRuntime) (peer : SocketAddr) (queries : List FramedQuery)
    (outs : List (Output Bytes)) : Prop where
  /-- The frames of the server hold what datagrams with the same queries are answered with. -/
  responses : readAll readTcpFrame (written outs).flatten =
    some ((servedQueries tcp.config queries).flatMap fun q =>
      written (handleDatagram udp peer q.bytes))
  /-- There is one frame for each of them, at most 16 bytes longer than the query. -/
  lengths : List.Forall₂ (fun q response => response.length ≤ q.bytes.length + 16)
    (servedQueries tcp.config queries) ((servedQueries tcp.config queries).flatMap fun q =>
      written (handleDatagram udp peer q.bytes))
  /-- Each of the queries is reported, in the order they came. -/
  reported : (reports outs).map (fun queued => queued.draft.payloadHex) =
    (servedQueries tcp.config queries).map fun q => some (encodeHex q.bytes)

theorem written_flatMap_tcpOutputs {runtime : DnsRuntime} {peer : SocketAddr}
    {queries : List FramedQuery} (h : ∀ q ∈ queries, q.taken runtime.config = true) :
    (written (queries.flatMap (tcpOutputs runtime peer))).flatten =
        (queries.map fun q => (q.answer runtime.config).1).flatMap tcpFrame ∧
      (reports (queries.flatMap (tcpOutputs runtime peer))).map
          (fun queued => queued.draft.payloadHex) =
        queries.map fun q => some (encodeHex q.bytes) := by
  induction queries with
  | nil => exact ⟨rfl, rfl⟩
  | cons q queries ih =>
    obtain ⟨hwritten, hreports⟩ := ih fun other hother => h other (List.mem_cons_of_mem q hother)
    have hlength := (taken_iff.mp (h q List.mem_cons_self)).1
    have houts : tcpOutputs runtime peer q =
        [.wrote (u16ToBeBytes (q.answer runtime.config).1.length),
          .wrote (q.answer runtime.config).1, .reported (q.report runtime peer hlength)] :=
      dif_pos hlength
    rw [List.flatMap_cons, houts]
    refine ⟨?_, ?_⟩
    · rw [written_append, List.flatten_append, hwritten]
      simp [tcpFrame]
    · rw [List.map_cons, ← hreports]
      rfl

/-- The two transports of a rule agree: over TCP a client gets the responses to its queries that
datagrams would get, up to the first that is not taken, and each of these is reported. -/
theorem handleTcpConnection_right {tcp udp : DnsRuntime} (hconfig : udp.config = tcp.config)
    (peer : SocketAddr) (queries : List FramedQuery) : ConnectionRight tcp udp peer queries
      ((handleTcpConnection tcp peer).run (queries.flatMap FramedQuery.frame)).1 := by
  have htaken : ∀ q ∈ servedQueries tcp.config queries, q.taken tcp.config = true := by
    intro q hq
    exact List.mem_takeWhile_imp hq
  have hdatagrams : ((servedQueries tcp.config queries).flatMap fun q =>
      written (handleDatagram udp peer q.bytes)) =
      (servedQueries tcp.config queries).map fun q => (q.answer tcp.config).1 := by
    rw [List.map_eq_flatMap]
    apply List.flatMap_congr
    intro q hq
    rw [handleDatagram_of_taken udp peer (hconfig ▸ htaken q hq), hconfig]
  obtain ⟨hwritten, hreports⟩ := @written_flatMap_tcpOutputs tcp peer _ htaken
  have hle : ∀ q ∈ servedQueries tcp.config queries,
      (q.answer tcp.config).1.length ≤ q.bytes.length + 16 := by
    intro q hq
    exact answer_length_le (htaken q hq)
  rw [run_handleTcpConnection]
  refine ⟨?_, ?_, hreports⟩
  · rw [hwritten, hdatagrams]
    apply readAll_flatMap
    intro response hresponse
    obtain ⟨q, hq, rfl⟩ := List.mem_map.mp hresponse
    have hlength := (taken_iff.mp (htaken q hq)).1
    have hmax : MAX_DNS_MESSAGE_SIZE = 4096 := rfl
    have hbound := hle q hq
    exact readsBack_tcpFrame (by omega)
  · rw [hdatagrams, List.forall₂_map_right_iff, List.forall₂_same]
    exact hle

/-- The sample rule, served over a transport. -/
def sampleRuntime (transport : DnsTransport) : DnsRuntime where
  ruleId := "rule"
  nodeId := "node"
  port := 53
  config := sampleDnsConfig
  endpointId := "dns"
  transport := transport
  checked := by decide

/-- A query for the name of the record, and one that is cut off in its header. -/
def sampleQueries : List FramedQuery :=
  [⟨sampleQuery [⟨[0x61], by decide, by decide⟩], by decide, by decide⟩,
    ⟨sampleHeader.take 4, by decide, by decide⟩]

theorem sampleConnection_right :
    ConnectionRight (sampleRuntime .tcp) (sampleRuntime .udp) ⟨"192.0.2.1", 40000⟩ sampleQueries
      ((handleTcpConnection (sampleRuntime .tcp) ⟨"192.0.2.1", 40000⟩).run
        (sampleQueries.flatMap FramedQuery.frame)).1 := by
  have hconfig : (sampleRuntime .udp).config = (sampleRuntime .tcp).config := rfl
  exact handleTcpConnection_right hconfig ⟨"192.0.2.1", 40000⟩ sampleQueries

end ProtocolSimulation.Engine
