import ProtocolSimulation.SnmpValues

/-!
# What keeps the SNMP simulation running

Reading a message only fails with an error that is ignored. A response fails if
it reaches a key that no OID on the wire denotes, and this ends the simulation.
-/
namespace ProtocolSimulation.Engine.Snmp

open ProtocolSimulation.Texts ProtocolSimulation.Fallible ProtocolSimulation.SortedMaps

/-! ## Reading does not panic -/

/-- A result that is no panic. -/
def NoPanic {α : Type} (r : Except SnmpError α) : Prop :=
  ∀ e, r = .error e → ∃ message, e = .bail message

theorem noPanic_ok {α : Type} (a : α) : NoPanic (.ok a) := by
  intro e h
  cases h

theorem noPanic_bail {α : Type} (message : Text) :
    NoPanic (.error (.bail message) : Except SnmpError α) := by
  intro e h
  cases h
  exact ⟨message, rfl⟩

theorem noPanic_ensure (c : Prop) [Decidable c] (message : Text) : NoPanic (ensure c message) := by
  rw [ensure]
  split
  · exact noPanic_ok ()
  · exact noPanic_bail message

theorem NoPanic.bind {α β : Type} {r : Except SnmpError α} {next : α → Except SnmpError β}
    (h : NoPanic r) (hnext : ∀ a, r = .ok a → NoPanic (next a)) : NoPanic (r >>= next) := by
  cases r with
  | error e =>
    obtain ⟨message, rfl⟩ := h e rfl
    exact noPanic_bail message
  | ok a => exact hnext a rfl

theorem noPanic_lengthValue (digits : Bytes) (length : ℕ) :
    NoPanic (lengthValue digits length) := by
  induction digits generalizing length with
  | nil => exact noPanic_ok length
  | cons byte digits ih =>
    rw [lengthValue]
    split
    · exact noPanic_bail _
    · exact ih _

theorem noPanic_readLength {input : Bytes} {cursor : ℕ} (h : input.length < 2 ^ 63) :
    NoPanic (readLength input cursor) := by
  rw [readLength]
  split
  · exact noPanic_bail _
  · rename_i first hget
    obtain ⟨hcursor, _⟩ := List.getElem?_eq_some_iff.mp hget
    have hadd : add 64 cursor 1 = .ok (cursor + 1) := add_ok (by omega)
    rw [hadd, ok_bind]
    split
    · exact noPanic_ok _
    · dsimp only
      split
      · exact noPanic_bail _
      · have hstop : add 64 (cursor + 1) (first &&& 0x7f).toNat =
            .ok (cursor + 1 + (first &&& 0x7f).toNat) := add_ok (by omega)
        rw [hstop, ok_bind]
        split
        · exact noPanic_bail _
        · rw [slice, getRange_of_le (by omega), ok_bind]
          exact (noPanic_lengthValue _ _).bind fun length _ => noPanic_ok _

theorem noPanic_readTlv {input : Bytes} {cursor : ℕ} (h : input.length < 2 ^ 63) :
    NoPanic (readTlv input cursor) := by
  rw [readTlv]
  split
  · exact noPanic_bail _
  · rename_i tag hget
    obtain ⟨hcursor, _⟩ := List.getElem?_eq_some_iff.mp hget
    have hadd : add 64 cursor 1 = .ok (cursor + 1) := add_ok (by omega)
    rw [hadd, ok_bind]
    apply (noPanic_readLength h).bind
    intro read _
    dsimp only
    split
    · exact noPanic_bail _
    · split
      · exact noPanic_bail _
      · exact noPanic_ok _

theorem length_value_le {input : Bytes} {cursor stop : ℕ} {tlv : Tlv}
    (h : readTlv input cursor = .ok (tlv, stop)) : tlv.value.length ≤ input.length := by
  obtain ⟨code, ⟨lengthCode, _, rfl⟩, hdrop, _, _⟩ := drop_of_readTlv h
  have hlength := congrArg List.length hdrop
  simp only [List.length_drop, List.length_append, List.length_cons] at hlength
  omega

theorem noPanic_decodeInteger (bytes : Bytes) : NoPanic (decodeInteger bytes) := by
  rw [decodeInteger.eq_def]
  split
  · exact noPanic_bail _
  · split
    · exact noPanic_bail _
    · exact noPanic_ok _

theorem noPanic_decodeComponents (bytes : Bytes) (value : ℕ) (pending : Bool) (oid : Oid) :
    NoPanic (decodeComponents bytes value pending oid) := by
  induction bytes generalizing value pending oid with
  | nil =>
    rw [decodeComponents]
    split
    · exact noPanic_bail _
    · exact noPanic_ok _
  | cons byte bytes ih =>
    rw [decodeComponents]
    split
    · exact noPanic_bail _
    · split
      · exact ih _ _ _
      · exact ih _ _ _

theorem noPanic_decodeOid (bytes : Bytes) : NoPanic (decodeOid bytes) := by
  cases bytes with
  | nil => exact noPanic_bail _
  | cons head rest =>
    have hmul : mul 32 (min (head.toNat / 40) 2) 40 = .ok (min (head.toNat / 40) 2 * 40) :=
      if_pos (by omega)
    have hsub : sub head.toNat (min (head.toNat / 40) 2 * 40) =
        .ok (head.toNat - min (head.toNat / 40) 2 * 40) := if_pos (by omega)
    simp only [decodeOid, hmul, ok_bind, hsub]
    exact noPanic_decodeComponents _ _ _ _

theorem noPanic_readVarbinds {list : Bytes} {room cursor : ℕ} (h : list.length < 2 ^ 63) :
    NoPanic (readVarbinds list room cursor) := by
  induction room generalizing cursor with
  | zero =>
    rw [readVarbinds]
    split
    · exact noPanic_ok _
    · exact noPanic_bail _
  | succ room ih =>
    rw [readVarbinds]
    split
    · exact noPanic_ok _
    · apply (noPanic_readTlv h).bind
      intro varbind hvarbind
      have hvalue := length_value_le hvarbind
      apply (noPanic_ensure _ _).bind
      intro _ _
      apply (noPanic_readTlv (by omega)).bind
      intro oid _
      apply (noPanic_readTlv (by omega)).bind
      intro _ _
      apply (noPanic_ensure _ _).bind
      intro _ _
      apply (noPanic_decodeOid _).bind
      intro _ _
      exact ih.bind fun _ _ => noPanic_ok _

/-- A message of any size a datagram can have is read or rejected. -/
theorem noPanic_parseRequest {message : Bytes} (h : message.length < 2 ^ 63) :
    NoPanic (parseRequest message) := by
  rw [parseRequest]
  apply (noPanic_readTlv h).bind
  intro envelope henvelope
  have hcontent := length_value_le henvelope
  apply (noPanic_ensure _ _).bind
  intro _ _
  apply (noPanic_readTlv (by omega)).bind
  intro version _
  apply (noPanic_readTlv (by omega)).bind
  intro community _
  apply (noPanic_readTlv (by omega)).bind
  intro pdu hpdu
  have hpduLength := length_value_le hpdu
  apply (noPanic_ensure _ _).bind
  intro _ _
  apply (noPanic_decodeInteger _).bind
  intro _ _
  apply (noPanic_ensure _ _).bind
  intro _ _
  apply (noPanic_readTlv (by omega)).bind
  intro requestId _
  apply (noPanic_readTlv (by omega)).bind
  intro firstControl _
  apply (noPanic_readTlv (by omega)).bind
  intro secondControl _
  apply (noPanic_readTlv (by omega)).bind
  intro varbindList hlist
  have hlistLength := length_value_le hlist
  apply (noPanic_ensure _ _).bind
  intro _ _
  have hrepetitions : NoPanic (readMaxRepetitions pdu.1.tag secondControl.1.value) := by
    rw [readMaxRepetitions]
    split
    · exact (noPanic_decodeInteger _).bind fun _ _ => noPanic_ok _
    · exact noPanic_ok _
  apply hrepetitions.bind
  intro _ _
  apply (noPanic_readVarbinds (by omega)).bind
  intro _ _
  apply (noPanic_ensure _ _).bind
  intro _ _
  exact (noPanic_decodeInteger _).bind fun _ _ => noPanic_ok _

/-! ## When a response can be written -/

theorem exists_buildResponse_iff {message : Bytes} {request : SnmpRequest} {values : SnmpValues}
    (hparse : parseRequest message = .ok request) :
    (∃ response, buildResponse request values = .ok response) ↔
      ∀ key, Reaches request values key → Encodable key := by
  obtain ⟨htag, hne, hoids⟩ := request_of_parseRequest hparse
  rw [buildResponse_eq htag hne, ← exists_mapM_encodeAnswer_iff htag hne hoids]
  cases (answers request values).mapM encodeAnswer <;> simp

/-- A request is answered, with the OIDs it is to be answered with, exactly if all keys it reaches
can be written. -/
theorem buildResponse_ok_iff {message : Bytes} {request : SnmpRequest} {values : SnmpValues}
    (hparse : parseRequest message = .ok request) :
    (∃ response given, buildResponse request values = .ok response ∧ Answers values request given ∧
      Carries request response (given.map said)) ↔
      ∀ key, Reaches request values key → Encodable key := by
  obtain ⟨htag, hne, hoids⟩ := request_of_parseRequest hparse
  constructor
  · intro h
    obtain ⟨response, _, hresponse, _⟩ := h
    exact (exists_buildResponse_iff hparse).mp ⟨response, hresponse⟩
  · intro h
    obtain ⟨response, hresponse, hcarries⟩ :=
      answered_of_encodable htag hne ((encodable_answers_iff htag hne hoids).mpr h)
    exact ⟨response, answers request values, hresponse, answers_spec values htag hne, hcarries⟩

theorem buildResponse_sampleBulk :
    ∃ response given, buildResponse sampleBulkRequest sampleValues = .ok response ∧
      Answers sampleValues sampleBulkRequest given ∧
      Carries sampleBulkRequest response (given.map said) := by
  have hkeys : ∀ key ∈ sampleValues.keys, Encodable key := by decide
  have hparse : parseRequest sampleBulk = .ok sampleBulkRequest := by decide
  exact (buildResponse_ok_iff hparse).mpr fun key hkey => hkeys key (mem_keys_of_reaches hkey)

/-- A GETNEXT request for 1.3.6.1.2.1.1.6.0. -/
def strayMessage : Bytes :=
  [0x30, 0x26, 0x02, 0x01, 0x01, 0x04, 0x06, 0x70, 0x75, 0x62, 0x6c, 0x69, 0x63, 0xa1, 0x19, 0x02,
    0x01, 0x07, 0x02, 0x01, 0x00, 0x02, 0x01, 0x00, 0x30, 0x0e, 0x30, 0x0c, 0x06, 0x08, 0x2b, 0x06,
    0x01, 0x02, 0x01, 0x01, 0x06, 0x00, 0x05, 0x00]

/-- The walk from there reaches a configured OID that no bytes denote. -/
theorem buildResponse_stray :
    ∃ values request, buildValues (oneOidConfig "3.0" "stray") = .ok values ∧
      strayMessage.length ≤ MAX_SNMP_MESSAGE_SIZE ∧ parseRequest strayMessage = .ok request ∧
      buildResponse request values = .error (.bail "invalid OID prefix") :=
  ⟨_, _, rfl, by decide, rfl, by decide⟩

/-! ## The simulation over many datagrams -/

/-- The datagram does not make the simulation reach a key that cannot be written. -/
def Harmless (runtime : Runtime) (datagram : Bytes) : Prop :=
  ∀ request, parseRequest (datagram.take MAX_SNMP_MESSAGE_SIZE) = .ok request →
    request.community = utf8Encode runtime.community →
    ∀ key, Reaches request runtime.values key → Encodable key

theorem handleDatagram_ok_iff {runtime : Runtime} {peer : SocketAddr} {datagram : Bytes} :
    (∃ outs, handleDatagram runtime peer datagram = .ok outs) ↔ Harmless runtime datagram := by
  have hsize : (datagram.take MAX_SNMP_MESSAGE_SIZE).length < 2 ^ 63 := by
    rw [List.length_take, MAX_SNMP_MESSAGE_SIZE]
    omega
  rw [handleDatagram, Harmless]
  cases hparse : parseRequest (datagram.take MAX_SNMP_MESSAGE_SIZE) with
  | error e =>
    obtain ⟨message, rfl⟩ := noPanic_parseRequest hsize e hparse
    simp
  | ok request =>
    by_cases hcommunity : request.community = utf8Encode runtime.community
    · have hbuild := @exists_buildResponse_iff _ _ runtime.values hparse
      simp only [Except.ok.injEq, forall_eq', hcommunity, if_true, forall_const, ← hbuild]
      cases buildResponse request runtime.values <;> simp
    · simp [hcommunity]

/-- The simulation goes on through all datagrams exactly if none of them makes it reach a key that
cannot be written. -/
theorem serve_ok_iff (runtime : Runtime) (datagrams : List (SocketAddr × Bytes)) :
    (serve runtime datagrams).2 = .ok () ↔
      ∀ received ∈ datagrams, Harmless runtime received.2 := by
  induction datagrams with
  | nil => simp [serve]
  | cons received datagrams ih =>
    obtain ⟨peer, datagram⟩ := received
    have hfirst := @handleDatagram_ok_iff runtime peer datagram
    rw [serve, List.forall_mem_cons, ← ih, ← hfirst]
    cases handleDatagram runtime peer datagram <;> simp

/-! ## Keys that every build writes alike -/

/-- The sum that packs the first two components fits 32 bits. -/
def Plain (oid : Oid) : Prop :=
  ∀ second components, oid = 2 :: second :: components → second.toNat + 80 < 2 ^ 32

end ProtocolSimulation.Engine.Snmp
