import ProtocolSimulation.Framing
import ProtocolSimulation.Mqtt
import ProtocolSimulation.Septets

/-!
# The packets of an MQTT stream

A packet is a header byte, the length of its payload and the payload. The reader
takes one packet from the stream and leaves the rest, so that a stream of packets
is read as the packets it is made of.
-/
namespace ProtocolSimulation.Engine.Mqtt

open ProtocolSimulation.Texts ProtocolSimulation.Conversations ProtocolSimulation.Framing
open ProtocolSimulation.Septets

/-- The next packet; none at the end of the stream. -/
def readPacket : ByteSession (Option (UInt8 × Bytes)) := do
  match ← Talk.take with
  | none => return none
  | some header => do
    let payload ← readPacketRest
    return some (header, payload)

/-- Answer a packet and go on, unless the session is over. -/
def servePacket (ctx : Context) (peer : SocketAddr) (packet : UInt8 × Bytes) :
    ByteSession Unit := do
  match ← handlePacket ctx peer packet.1 packet.2 with
  | .inl _ => handle ctx peer
  | .inr _ => return ()

/-- A connection is one packet after the other. -/
theorem handle_eq (ctx : Context) (peer : SocketAddr) :
    handle ctx peer = (do
      match ← readPacket with
      | none => return ()
      | some packet => servePacket ctx peer packet) := by
  have hround := Talk.forEach_eq (fun _ header => do
    let payload ← readPacketRest
    handlePacket ctx peer header payload) id ()
  refine hround.trans ?_
  rw [readPacket, Talk.bind_assoc]
  congr 1
  funext header
  cases header with
  | none => rfl
  | some header =>
    simp only [Talk.bind_assoc, Talk.pure_eq, Talk.ret_bind]
    congr 1
    funext payload
    congr 1
    funext next
    cases next <;> rfl

/-! ## The remaining length -/

theorem run_readRemaining_cons (rounds multiplier remaining : ℕ) (b : UInt8) (input : Bytes) :
    (readRemaining (rounds + 1) multiplier remaining).run (b :: input) =
      if b.toNat < 128 then ([], some (remaining + b.toNat % 128 * multiplier, input))
      else (readRemaining rounds (multiplier * 128)
        (remaining + b.toNat % 128 * multiplier)).run input := by
  have hround : (readRemaining (rounds + 1) multiplier remaining).run (b :: input) =
      (if b &&& 0x80 = 0 then return remaining + (b &&& 0x7f).toNat * multiplier
        else readRemaining rounds (multiplier * 128)
          (remaining + (b &&& 0x7f).toNat * multiplier) : ByteSession ℕ).run input := by
    rw [readRemaining, Talk.run_bind, run_readU8_cons]
    simp
  rw [hround, toNat_and_7f]
  simp only [and_80_eq_zero_iff]
  split_ifs <;> rfl

/-- What is read is a field of no more bytes than there are rounds, and what follows it is left. -/
theorem run_readRemaining_iff {rounds multiplier remaining n : ℕ} {input rest : Bytes} :
    (readRemaining rounds multiplier remaining).run input = ([], some (n, rest)) ↔
      ∃ field, IsField field ∧ field.length ≤ rounds ∧ input = field ++ rest ∧
        n = remaining + value field * multiplier := by
  induction rounds generalizing multiplier remaining input with
  | zero =>
    constructor
    · intro h
      cases h
    · rintro ⟨field, hfield, hlength, -⟩
      cases hfield <;> simp at hlength
  | succ rounds ih =>
    cases input with
    | nil =>
      constructor
      · intro h
        cases h
      · rintro ⟨field, hfield, -, hnil, -⟩
        cases hfield <;> simp at hnil
    | cons b input =>
      rw [run_readRemaining_cons]
      split_ifs with hlast
      · constructor
        · intro h
          cases h
          exact ⟨[b], .last b hlast, by simp, rfl, by simp [value]⟩
        · rintro ⟨field, hfield, -, hinput, hn⟩
          cases hfield with
          | last b' _ =>
            obtain ⟨rfl, rfl⟩ := List.cons.inj hinput
            rw [hn]
            simp [value]
          | more b' hmore _ =>
            obtain ⟨rfl, -⟩ := List.cons.inj hinput
            omega
      · rw [ih]
        constructor
        · rintro ⟨field, hfield, hlength, rfl, hn⟩
          refine ⟨b :: field, .more b (not_lt.mp hlast) hfield, ?_, rfl, ?_⟩
          · rw [List.length_cons]
            omega
          · rw [hn, value]
            ring
        · rintro ⟨field, hfield, hlength, hinput, hn⟩
          cases hfield with
          | last b' hb =>
            obtain ⟨rfl, -⟩ := List.cons.inj hinput
            exact absurd hb hlast
          | more b' _ hrest =>
            obtain ⟨rfl, rfl⟩ := List.cons.inj hinput
            refine ⟨_, hrest, Nat.le_of_succ_le_succ hlength, rfl, ?_⟩
            rw [hn, value]
            ring

theorem run_readRemaining_four_iff {n : ℕ} {input rest : Bytes} :
    (readRemaining 4 1 0).run input = ([], some (n, rest)) ↔
      ∃ field, IsField field ∧ field.length ≤ 4 ∧ input = field ++ rest ∧ n = value field := by
  rw [run_readRemaining_iff]
  simp only [Nat.mul_one, Nat.zero_add]

theorem run_readRemaining_silent (rounds multiplier remaining : ℕ) (input : Bytes) :
    ((readRemaining rounds multiplier remaining).run input).1 = [] := by
  induction rounds generalizing multiplier remaining input with
  | zero => rfl
  | succ rounds ih =>
    cases input with
    | nil => rfl
    | cons b input =>
      rw [run_readRemaining_cons]
      split_ifs
      · rfl
      · exact ih _ _ _

/-- Four bytes of which each says that more follow are rejected. -/
theorem run_readRemaining_long {a b c d : UInt8} (h : ∀ byte ∈ [a, b, c, d], 128 ≤ byte.toNat)
    (rest : Bytes) : (readRemaining 4 1 0).run (a :: b :: c :: d :: rest) = ([], none) := by
  have hmore {byte : UInt8} (hbyte : byte ∈ [a, b, c, d]) : ¬ byte.toNat < 128 :=
    not_lt.mpr (h byte hbyte)
  rw [run_readRemaining_cons, if_neg (hmore (by simp)), run_readRemaining_cons,
    if_neg (hmore (by simp)), run_readRemaining_cons, if_neg (hmore (by simp)),
    run_readRemaining_cons, if_neg (hmore (by simp))]
  rfl

/-- The same loop where a product or a sum that is not below the limit breaks off. -/
def readRemainingBelow (limit : ℕ) : (rounds multiplier remaining : ℕ) → ByteSession ℕ
  | 0, _, _ => Talk.breakOff
  | rounds + 1, multiplier, remaining => do
    let encoded ← readU8
    let product := (encoded &&& 0x7f).toNat * multiplier
    if limit ≤ product ∨ limit ≤ remaining + product then Talk.breakOff
    else if encoded &&& 0x80 = 0 then return remaining + product
    else if rounds = 0 then Talk.breakOff
    else if limit ≤ multiplier * 128 then Talk.breakOff
    else readRemainingBelow limit rounds (multiplier * 128) (remaining + product)

/-- Within four rounds nothing comes near 32 bits. -/
theorem readRemainingBelow_eq {rounds multiplier remaining : ℕ}
    (hmultiplier : multiplier * 128 ^ rounds ≤ 268435456) (hremaining : remaining < multiplier) :
    readRemainingBelow 4294967296 rounds multiplier remaining =
      readRemaining rounds multiplier remaining := by
  induction rounds generalizing multiplier remaining with
  | zero => rfl
  | succ rounds ih =>
    rw [readRemainingBelow, readRemaining]
    congr 1
    funext encoded
    have hseptet : (encoded &&& 0x7f).toNat < 128 := by
      rw [toNat_and_7f]
      exact Nat.mod_lt _ (by decide)
    have hproduct : (encoded &&& 0x7f).toNat * multiplier ≤ 127 * multiplier :=
      Nat.mul_le_mul_right multiplier (by omega)
    rw [pow_succ, Nat.mul_comm (128 ^ rounds), ← Nat.mul_assoc] at hmultiplier
    have hnext : multiplier * 128 ≤ 268435456 :=
      (Nat.le_mul_of_pos_right _ (Nat.pow_pos (by decide))).trans hmultiplier
    have hbelow : ¬ (4294967296 ≤ (encoded &&& 0x7f).toNat * multiplier ∨
        4294967296 ≤ remaining + (encoded &&& 0x7f).toNat * multiplier) := by omega
    have hlimit : ¬ 4294967296 ≤ multiplier * 128 := by omega
    dsimp only
    rw [if_neg hbelow, if_neg hlimit]
    split_ifs with hlast hrounds
    · rfl
    · rw [hrounds]
      rfl
    · exact ih hmultiplier (by omega)

/-! ## Packets -/

/-- The bytes of a packet. -/
def encodePacket (packet : UInt8 × Bytes) : Bytes :=
  packet.1 :: (encode packet.2.length ++ packet.2)

theorem run_readExact_iff {n : ℕ} {input bytes rest : Bytes} :
    (readExact n).run input = ([], some (bytes, rest)) ↔
      bytes.length = n ∧ input = bytes ++ rest := by
  constructor
  · intro h
    obtain hlt | hle := Nat.lt_or_ge input.length n
    · rw [run_readExact_of_lt hlt] at h
      cases h
    · have hlength : (input.take n).length = n := List.length_take_of_le hle
      have hrun := run_readExact hlength (input.drop n)
      rw [List.take_append_drop, h] at hrun
      cases hrun
      exact ⟨hlength, (List.take_append_drop n input).symm⟩
  · rintro ⟨hlength, rfl⟩
    exact run_readExact hlength rest

theorem run_readExact_silent (n : ℕ) (input : Bytes) : ((readExact n).run input).1 = [] := by
  obtain hlt | hle := Nat.lt_or_ge input.length n
  · rw [run_readExact_of_lt hlt]
  · have hrun := run_readExact (List.length_take_of_le hle) (input.drop n)
    rw [List.take_append_drop] at hrun
    rw [hrun]

theorem run_readPacketRest (input : Bytes) :
    readPacketRest.run input = ([], ((readRemaining 4 1 0).run input).2.bind fun found =>
      ((if MAX_PACKET_SIZE < found.1 then Talk.breakOff else readExact found.1).run
        found.2).2) := by
  apply Talk.run_bind_of_silent (run_readRemaining_silent 4 1 0 input)
  intro remaining rest
  split
  · rfl
  · exact run_readExact_silent remaining rest

/-- The rest of a packet is read if its length is not too large and the payload is there. -/
theorem run_readPacketRest_iff {input payload rest : Bytes} :
    readPacketRest.run input = ([], some (payload, rest)) ↔
      ∃ field, IsField field ∧ field.length ≤ 4 ∧ input = field ++ (payload ++ rest) ∧
        value field = payload.length ∧ payload.length ≤ MAX_PACKET_SIZE := by
  rw [run_readPacketRest]
  constructor
  · intro h
    obtain ⟨⟨n, tail⟩, hread, hpayload⟩ := Option.bind_eq_some_iff.mp (Prod.ext_iff.mp h).2
    obtain ⟨field, hfield, hlength, hinput, hn⟩ :=
      run_readRemaining_four_iff.mp (Prod.ext (run_readRemaining_silent 4 1 0 input) hread)
    dsimp only at hpayload
    split at hpayload
    next => cases hpayload
    next hlarge =>
      obtain ⟨rfl, rfl⟩ := run_readExact_iff.mp (Prod.ext (run_readExact_silent n tail) hpayload)
      exact ⟨field, hfield, hlength, hinput, hn.symm, not_lt.mp hlarge⟩
  · intro h
    obtain ⟨field, hfield, hlength, hinput, hvalue, hsmall⟩ := h
    have hread := run_readRemaining_four_iff.mpr ⟨field, hfield, hlength, hinput, rfl⟩
    rw [hread, Option.bind_some]
    dsimp only
    rw [hvalue, if_neg (not_lt.mpr hsmall), run_readExact_iff.mpr ⟨rfl, rfl⟩]

theorem run_readPacketRest_silent (input : Bytes) : (readPacketRest.run input).1 = [] := by
  rw [run_readPacketRest]

/-- A packet is what follows its header, if the rest of it is read. -/
theorem run_readPacket_cons (header : UInt8) (input : Bytes) :
    readPacket.run (header :: input) =
      ([], (readPacketRest.run input).2.map fun found => (some (header, found.1), found.2)) := by
  have hround : readPacket.run (header :: input) =
      (readPacketRest >>= fun payload => (return some (header, payload) :
        ByteSession (Option (UInt8 × Bytes)))).run input := by
    rw [readPacket, Talk.run_bind]
    simp
  rw [hround, Talk.run_bind_of_silent (run_readPacketRest_silent input) fun _ _ => rfl,
    Option.map_eq_bind]
  rfl

theorem run_readPacket_iff {input payload rest : Bytes} {header : UInt8} :
    readPacket.run input = ([], some (some (header, payload), rest)) ↔
      ∃ field, IsField field ∧ field.length ≤ 4 ∧
        input = header :: (field ++ (payload ++ rest)) ∧
        value field = payload.length ∧ payload.length ≤ MAX_PACKET_SIZE := by
  cases input with
  | nil =>
    constructor
    · intro h
      cases h
    · rintro ⟨field, -, -, hinput, -⟩
      cases hinput
  | cons first input =>
    have hsilent := run_readPacketRest_silent input
    rw [run_readPacket_cons]
    constructor
    · intro h
      obtain ⟨⟨payload', rest'⟩, hread, hfound⟩ := Option.map_eq_some_iff.mp (Prod.ext_iff.mp h).2
      cases hfound
      obtain ⟨field, hfield, hlength, hinput, hvalue⟩ :=
        run_readPacketRest_iff.mp (Prod.ext hsilent hread)
      exact ⟨field, hfield, hlength, congrArg (List.cons header) hinput, hvalue⟩
    · rintro ⟨field, hfield, hlength, hcons, hvalue⟩
      obtain ⟨rfl, hinput⟩ := List.cons.inj hcons
      rw [run_readPacketRest_iff.mpr ⟨field, hfield, hlength, hinput, hvalue⟩]
      rfl

/-- At the end of the stream there is no packet; else there is one or the reader breaks off. -/
theorem run_readPacket_cases (input : Bytes) :
    (input = [] ∧ readPacket.run input = ([], some (none, []))) ∨
      (∃ header payload rest, readPacket.run input = ([], some (some (header, payload), rest))) ∨
      input ≠ [] ∧ readPacket.run input = ([], none) := by
  cases input with
  | nil => exact .inl ⟨rfl, rfl⟩
  | cons header input =>
    rw [run_readPacket_cons]
    cases (readPacketRest.run input).2 with
    | none => exact .inr (.inr ⟨List.cons_ne_nil _ _, rfl⟩)
    | some found => exact .inr (.inl ⟨header, found.1, found.2, rfl⟩)

/-- The reader, as a function of its input; none at the end of the stream as well. -/
def packetReader : Reader UInt8 (UInt8 × Bytes) := fun input =>
  (readPacket.run input).2.bind fun found => found.1.map fun packet => (packet, found.2)

/-! ## Streams of packets -/

theorem encode_length_le_four {n : ℕ} (h : n ≤ MAX_PACKET_SIZE) : (encode n).length ≤ 4 := by
  apply encode_length_le
  rw [MAX_PACKET_SIZE] at h
  omega

theorem run_readPacket_encodePacket {packet : UInt8 × Bytes}
    (h : packet.2.length ≤ MAX_PACKET_SIZE) (rest : Bytes) :
    readPacket.run (encodePacket packet ++ rest) = ([], some (some packet, rest)) := by
  apply run_readPacket_iff.mpr
  refine ⟨encode packet.2.length, isField_encode _, encode_length_le_four h, ?_, value_encode _, h⟩
  rw [encodePacket, List.cons_append, List.append_assoc]

theorem readsBack_packet {packet : UInt8 × Bytes} (h : packet.2.length ≤ MAX_PACKET_SIZE) :
    ReadsBack packetReader encodePacket packet where
  nonempty := List.cons_ne_nil _ _
  read_append rest := by
    rw [packetReader, run_readPacket_encodePacket h]
    rfl

/-- A connection deals with the packet at the front of its stream, and goes on behind it. -/
theorem run_handle_packet (ctx : Context) (peer : SocketAddr) {packet : UInt8 × Bytes}
    (h : packet.2.length ≤ MAX_PACKET_SIZE) (rest : Bytes) :
    (handle ctx peer).run (encodePacket packet ++ rest) =
      (servePacket ctx peer packet).run rest := by
  rw [handle_eq, Talk.run_bind, run_readPacket_encodePacket h]
  rfl

/-- A packet is accepted exactly if its length is one of at most four bytes and of at most 65536,
and the payload is there; what follows is left. A stream of packets is read as these packets. -/
theorem readPacket_frames :
    (∀ input header payload rest,
      readPacket.run input = ([], some (some (header, payload), rest)) ↔
        ∃ field, IsField field ∧ field.length ≤ 4 ∧
          input = header :: (field ++ (payload ++ rest)) ∧
          value field = payload.length ∧ payload.length ≤ MAX_PACKET_SIZE) ∧
    (∀ input, (input = [] ∧ readPacket.run input = ([], some (none, []))) ∨
      (∃ header payload rest, readPacket.run input = ([], some (some (header, payload), rest))) ∨
      input ≠ [] ∧ readPacket.run input = ([], none)) ∧
    (∀ header a b c d rest, (∀ byte ∈ [a, b, c, d], 128 ≤ byte.toNat) →
      readPacket.run (header :: a :: b :: c :: d :: rest) = ([], none)) ∧
    readRemainingBelow 4294967296 4 1 0 = readRemaining 4 1 0 ∧
    (∀ n ≤ MAX_PACKET_SIZE, ∀ rest,
      (readRemaining 4 1 0).run (encode n ++ rest) = ([], some (n, rest))) ∧
    (∀ packets : List (UInt8 × Bytes), (∀ packet ∈ packets, packet.2.length ≤ MAX_PACKET_SIZE) →
      readAll packetReader (packets.flatMap encodePacket) = some packets) ∧
    ∀ ctx peer, ∀ packet : UInt8 × Bytes, packet.2.length ≤ MAX_PACKET_SIZE → ∀ rest,
      (handle ctx peer).run (encodePacket packet ++ rest) =
        (servePacket ctx peer packet).run rest := by
  refine ⟨?accepts, run_readPacket_cases, ?long, ?below, ?field, ?stream, ?connection⟩
  case accepts =>
    intro input header payload rest
    exact run_readPacket_iff
  case long =>
    intro header a b c d rest h
    rw [run_readPacket_cons, readPacketRest, Talk.run_bind, run_readRemaining_long h]
    rfl
  case below => exact readRemainingBelow_eq (by decide) (by decide)
  case field =>
    intro n hn rest
    apply run_readRemaining_four_iff.mpr
    exact ⟨encode n, isField_encode n, encode_length_le_four hn, rfl, (value_encode n).symm⟩
  case stream =>
    intro packets h
    exact readAll_flatMap fun packet hpacket => readsBack_packet (h packet hpacket)
  case connection =>
    intro ctx peer packet h rest
    exact run_handle_packet ctx peer h rest

/-- A ping and a packet with a payload of two bytes. -/
def pingAndPublish : List (UInt8 × Bytes) := [(0xc0, []), (0x30, [0x01, 0x02])]

theorem readPacket_frames_pingAndPublish :
    readAll packetReader (pingAndPublish.flatMap encodePacket) = some pingAndPublish := by
  have hsmall : ∀ packet ∈ pingAndPublish, packet.2.length ≤ MAX_PACKET_SIZE := by decide
  obtain ⟨-, -, -, -, -, hstream, -⟩ := readPacket_frames
  exact hstream pingAndPublish hsmall

end ProtocolSimulation.Engine.Mqtt
