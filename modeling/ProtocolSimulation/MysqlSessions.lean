import ProtocolSimulation.Framing
import ProtocolSimulation.MysqlLogins
import ProtocolSimulation.MysqlRows

/-!
# What a MySQL client reads

A client takes the bytes of the server apart into packets, and these into replies:
an OK or an error, or the columns and the rows of a result, each up to an EOF. After
its login it gets one reply to each command, with its packets numbered from one.
-/
namespace ProtocolSimulation.Engine.Mysql

open ProtocolSimulation.Texts ProtocolSimulation.Conversations ProtocolSimulation.BigEndian
open ProtocolSimulation.Framing

/-! ## Packets -/

structure Packet where
  sequence : UInt8
  payload : Bytes

def Packet.bytes (p : Packet) : Bytes := packet p.sequence p.payload

/-- The length of the payload can be written. -/
def Packet.Fits (p : Packet) : Prop := p.payload.length < 2 ^ 24

instance Packet.decidableFits (p : Packet) : Decidable p.Fits := inferInstanceAs (Decidable (_ < _))

/-- A packet: a length, a number and as many bytes. -/
def readServerPacket : Reader UInt8 Packet
  | input =>
    let length := leValue (input.take 3)
    let payload := (input.drop 4).take length
    if input.length < 4 + length then none
    else some (⟨(input.drop 3).head?.getD 0, payload⟩, input.drop (4 + length))

theorem readsBack_packet {p : Packet} (h : p.Fits) :
    ReadsBack readServerPacket Packet.bytes p := by
  obtain ⟨sequence, payload⟩ := p
  have hlength : payload.length < 256 ^ 3 := h
  have hthree : (leBytes 3 payload.length).length = 3 := leBytes_length _ _
  constructor
  · simp [Packet.bytes, packet]
  · intro rest
    have hinput : Packet.bytes ⟨sequence, payload⟩ ++ rest =
        leBytes 3 payload.length ++ sequence :: (payload ++ rest) := by
      simp [Packet.bytes, packet]
    have hfour : (leBytes 3 payload.length ++ sequence :: (payload ++ rest)).drop 4 =
        payload ++ rest := by
      rw [show 4 = (leBytes 3 payload.length).length + 1 by rw [hthree], List.drop_append]
      simp
    rw [hinput, readServerPacket, List.take_left' hthree, leValue_leBytes_of_lt hlength,
      List.drop_left' hthree, hfour, ← List.drop_drop, hfour, List.take_left, List.drop_left]
    rw [if_neg]
    · rfl
    · simp only [List.length_append, List.length_cons, hthree]
      omega

/-! ## Replies -/

def Packet.isOk (p : Packet) : Bool := p.payload.head? == some 0x00

def Packet.isError (p : Packet) : Bool := p.payload.head? == some 0xff

/-- An EOF is short; a row may begin with the same byte. -/
def Packet.isEof (p : Packet) : Bool := p.payload.head? == some 0xfe && p.payload.length < 9

/-- The packets up to the EOF that ends them, or up to an error. -/
def readRows : Reader Packet (List Packet)
  | [] => none
  | p :: input =>
    if p.isEof || p.isError then some ([p], input)
    else do
      let (rows, rest) ← readRows input
      return (p :: rows, rest)

/-- One reply as a client reads it. -/
def readReply : Reader Packet (List Packet)
  | [] => none
  | p :: input =>
    if p.isOk || p.isError then some ([p], input)
    else do
      let (columns, input) ← readRows input
      let (rows, rest) ← readRows input
      return (p :: columns ++ rows, rest)

/-! ## What answers a command -/

/-- The column and the text of the result of a query. -/
def queryText (config : SimDatabaseConfig) (query : Text) : Option (Text × Text) :=
  if normalizeQuery query = "select version()" then some ("VERSION()", serverVersion config)
  else (configuredQueryResponse config query).map fun response => ("result", response)

def rowsEnd (sequence : UInt8) : Packet := ⟨sequence, [0xfe, 0, 0, 2, 0]⟩

def resultPackets (column value : Text) : List Packet :=
  [⟨1, [1]⟩, ⟨2, columnDefinition column⟩, rowsEnd 3, ⟨4, pushLenencString [] value⟩, rowsEnd 5]

def okReply : List Packet := [⟨1, [0x00, 0x00, 0x00, 0x02, 0x00, 0x00, 0x00]⟩]

def errorReply (code : ℕ) (sqlState message : Text) : List Packet :=
  [⟨1, [0xff] ++ leBytes 2 code ++ utf8Encode "#" ++ utf8Encode sqlState ++ utf8Encode message⟩]

def unsupportedQuery : List Packet :=
  errorReply 1235 "42000" "Query is not supported by SecLab simulation"

def unsupportedCommand : List Packet :=
  errorReply 1047 "08S01" "Command is not supported by SecLab simulation"

def queryPackets (config : SimDatabaseConfig) (query : Text) : List Packet :=
  ((queryText config query).map fun result => resultPackets result.1 result.2).getD
    unsupportedQuery

theorem queryReply_eq (config : SimDatabaseConfig) (query : Text) :
    queryReply config query = (queryPackets config query).map Packet.bytes := by
  rw [queryReply, queryPackets, queryText]
  split
  next => rfl
  next =>
    cases configuredQueryResponse config query with
    | some response => rfl
    | none => rfl

/-- What answers the payload of a command that does not end the session. -/
def replyPackets (config : SimDatabaseConfig) : Bytes → List Packet
  | [] => []
  | commandCode :: body =>
    if commandCode = 0x0e then okReply
    else if commandCode = 0x03 then queryPackets config ((utf8Decode body).getD [])
    else unsupportedCommand

/-- A packet of the client. -/
structure ClientPacket extends Packet where
  fits : payload.length < 256 ^ 3

/-- The command does not end the session: it is no Quit, not too long, and text if it is a query. -/
def ClientPacket.goesOn (p : ClientPacket) : Bool :=
  p.payload.length ≤ MAX_PACKET_SIZE && p.payload.head? != some 0x01 &&
    (p.payload.head? != some 0x03 || (utf8Decode p.payload.tail).isSome)

/-- The commands before the one that ends the session. -/
def served (packets : List ClientPacket) : List ClientPacket :=
  packets.takeWhile ClientPacket.goesOn

/-! ## The session -/

theorem written_writeEach (bytes : List Bytes) (rest : Bytes) :
    ∃ outs, (writeEach bytes).run rest = (outs, some ((), rest)) ∧ written outs = bytes := by
  induction bytes with
  | nil => exact ⟨[], rfl, rfl⟩
  | cons first bytes ih =>
    obtain ⟨outs, hrun, hwritten⟩ := ih
    refine ⟨.wrote first :: outs, ?_, ?_⟩
    · rw [writeEach, writeAll, Talk.run_bind, Talk.run_emit]
      dsimp only
      rw [hrun]
      rfl
    · rw [written_wrote, hwritten]

section Serving

variable (config : SimDatabaseConfig) (observe : Observer)

/-- A command that goes on is answered by its reply. -/
theorem run_handleCommand {p : ClientPacket} (h : p.goesOn = true) (rest : Bytes) :
    ∃ outs, (handleCommand config observe p.payload).run rest = (outs, some (.inl (), rest)) ∧
      written outs = (replyPackets config p.payload).map Packet.bytes := by
  obtain ⟨⟨sequence, payload⟩, hfits⟩ := p
  cases payload with
  | nil => exact ⟨[], rfl, rfl⟩
  | cons commandCode body =>
    simp only [ClientPacket.goesOn, List.head?_cons, List.tail_cons, Bool.and_eq_true,
      Bool.or_eq_true, bne_iff_ne, ne_eq, Option.some.injEq, decide_eq_true_eq] at h
    obtain ⟨⟨_, hquit⟩, hquery⟩ := h
    rw [handleCommand, if_neg hquit, replyPackets]
    by_cases hping : commandCode = 0x0e
    · rw [if_pos hping, if_pos hping]
      exact ⟨_, rfl, rfl⟩
    · rw [if_neg hping, if_neg hping]
      by_cases hcode : commandCode = 0x03
      · have hsome := hquery.resolve_left fun h => h hcode
        obtain ⟨query, hdecoded⟩ := Option.isSome_iff_exists.mp hsome
        obtain ⟨outs, hrun, hwritten⟩ := written_writeEach (queryReply config query) rest
        rw [if_pos hcode, if_pos hcode, hdecoded, Option.getD_some, ← queryReply_eq, ← hwritten]
        refine ⟨.reported (observe "query" (("MySQL query received: " : Text) ++ query) body) ::
          outs, ?_, written_reported _ _⟩
        dsimp only
        rw [observed, Talk.run_bind, Talk.run_emit]
        dsimp only
        rw [Talk.run_bind, hrun]
        simp
      · rw [if_neg hcode, if_neg hcode]
        exact ⟨_, rfl, rfl⟩

/-- Any other command that is not too long ends the session without an answer. -/
theorem run_handleCommand_over {p : ClientPacket} (h : p.goesOn = false)
    (hlength : p.payload.length ≤ MAX_PACKET_SIZE) (rest : Bytes) :
    (handleCommand config observe p.payload).run rest = ([], some (.inr (), rest)) ∨
    (handleCommand config observe p.payload).run rest = ([], none) := by
  obtain ⟨⟨sequence, payload⟩, hfits⟩ := p
  cases payload with
  | nil => simp [ClientPacket.goesOn] at h
  | cons commandCode body =>
    rw [List.length_cons] at hlength
    rw [handleCommand]
    by_cases hquit : commandCode = 0x01
    · rw [if_pos hquit]
      exact Or.inl rfl
    · have hcode : commandCode = 0x03 := by
        by_contra hother
        simp [ClientPacket.goesOn, hquit, hother] at h
        omega
      have hdecoded : utf8Decode body = none := by
        cases hbody : utf8Decode body with
        | none => rfl
        | some query =>
          simp [ClientPacket.goesOn, hcode, hbody] at h
          omega
      rw [if_neg hquit, if_neg (by rw [hcode]; decide), if_pos hcode, hdecoded]
      exact Or.inr rfl

/-- The first byte of a packet is taken, and the rest of it read. -/
theorem run_readPacketRest (p : ClientPacket) (rest : Bytes) :
    ∃ first tail, p.bytes ++ rest = first :: tail ∧ (readPacketRest first).run tail =
      ([], if MAX_PACKET_SIZE < p.payload.length then none
        else some ((p.sequence, p.payload), rest)) := by
  obtain ⟨first, tail, hinput⟩ : ∃ first tail, p.bytes ++ rest = first :: tail :=
    List.exists_cons_of_ne_nil (by simp [Packet.bytes, packet])
  have hread := @run_readPacket p.sequence p.payload p.fits rest
  rw [← Packet.bytes, hinput, readPacket, Talk.run_bind, Talk.run_take_cons] at hread
  dsimp only at hread
  rw [Talk.run_bind] at hread
  refine ⟨first, tail, hinput, ?_⟩
  cases hrun : (readPacketRest first).run tail with
  | mk outs result =>
    rw [hrun] at hread
    cases result with
    | none =>
      split_ifs at hread ⊢ with hlong
      · simpa using hread
      · simp at hread
    | some found =>
      split_ifs at hread ⊢ with hlong
      · simp at hread
      · simpa [Prod.ext_iff] using hread

theorem written_serveCommands_cons (p : ClientPacket) (rest : Bytes) :
    written ((serveCommands config observe).run (p.bytes ++ rest)).1 =
      if p.goesOn then (replyPackets config p.payload).map Packet.bytes ++
        written ((serveCommands config observe).run rest).1
      else [] := by
  obtain ⟨first, tail, hinput, hread⟩ := run_readPacketRest p rest
  rw [hinput, serveCommands, Talk.run_forEach_cons, Talk.run_bind, hread]
  cases hgoes : p.goesOn with
  | true =>
    have hshort : ¬MAX_PACKET_SIZE < p.payload.length := by
      simp only [ClientPacket.goesOn, Bool.and_eq_true, decide_eq_true_eq] at hgoes
      omega
    obtain ⟨outs, hrun, hwritten⟩ := run_handleCommand config observe hgoes rest
    rw [if_neg hshort]
    dsimp only
    rw [hrun]
    simp only [List.nil_append, written_append, hwritten, if_pos]
  | false =>
    by_cases hlong : MAX_PACKET_SIZE < p.payload.length
    · rw [if_pos hlong]
      rfl
    · rw [if_neg hlong]
      dsimp only
      obtain hrun | hrun :=
        run_handleCommand_over config observe hgoes (Nat.le_of_not_lt hlong) rest
      · rw [hrun]
        rfl
      · rw [hrun]
        rfl

/-- The commands that are served are answered one after the other. -/
theorem written_serveCommands (packets : List ClientPacket) :
    written ((serveCommands config observe).run (packets.flatMap fun p => p.bytes)).1 =
      (served packets).flatMap fun p => (replyPackets config p.payload).map Packet.bytes := by
  induction packets with
  | nil => rfl
  | cons p packets ih =>
    rw [List.flatMap_cons, written_serveCommands_cons, ih, served, served, List.takeWhile_cons]
    cases p.goesOn with
    | true => rfl
    | false => rfl

end Serving

/-! ## Replies as a client reads them -/

/-- The result of the query, if there is one, does not begin like an error, and its length can be
written. -/
def ClientPacket.Readable (config : SimDatabaseConfig) (p : ClientPacket) : Prop :=
  ∀ query column value, p.payload.head? = some 0x03 → utf8Decode p.payload.tail = some query →
    queryText config query = some (column, value) →
    byteLen value % 256 ≠ 255 ∧ byteLen value + 1 < 2 ^ 24

theorem queryText_column {config : SimDatabaseConfig} {query column value : Text}
    (h : queryText config query = some (column, value)) :
    column = "VERSION()" ∨ column = "result" := by
  rw [queryText] at h
  split at h
  next =>
    cases h
    exact Or.inl rfl
  next =>
    obtain ⟨response, _, hresult⟩ := Option.map_eq_some_iff.mp h
    cases hresult
    exact Or.inr rfl

/-- A result is read as one reply. -/
theorem readReply_resultPackets {column value : Text}
    (hcolumn : column = "VERSION()" ∨ column = "result") (hvalue : byteLen value % 256 ≠ 255)
    (rest : List Packet) :
    readReply (resultPackets column value ++ rest) = some (resultPackets column value, rest) := by
  have hcol : (⟨2, columnDefinition column⟩ : Packet).isEof = false ∧
      (⟨2, columnDefinition column⟩ : Packet).isError = false := by
    obtain rfl | rfl := hcolumn
    · decide
    · decide
  have hfirst : (pushLenencString [] value).head? = some (UInt8.ofNat (byteLen value)) := rfl
  have hlength : (pushLenencString [] value).length = byteLen value + 1 := by
    simp [pushLenencString, byteLen]
  have herror : (⟨4, pushLenencString [] value⟩ : Packet).isError = false := by
    simp only [Packet.isError, hfirst, beq_eq_false_iff_ne, ne_eq, Option.some.injEq,
      ← UInt8.toNat_inj, UInt8.toNat_ofNat']
    exact hvalue
  have heof : (⟨4, pushLenencString [] value⟩ : Packet).isEof = false := by
    simp only [Packet.isEof, hfirst, hlength, Bool.and_eq_false_iff, beq_eq_false_iff_ne, ne_eq,
      Option.some.injEq, ← UInt8.toNat_inj, UInt8.toNat_ofNat', decide_eq_false_iff_not]
    have hmod : (0xfe : UInt8).toNat = 254 := rfl
    omega
  have hcount : (⟨1, [1]⟩ : Packet).isOk = false ∧ (⟨1, [1]⟩ : Packet).isError = false := by
    decide
  have hend : (rowsEnd 3).isEof = true ∧ (rowsEnd 5).isEof = true := by decide
  simp [resultPackets, readReply, readRows, hcol, herror, heof, hcount, hend]

/-- The reply answers the command: its packets are numbered from one, and it is the result of the
query, the OK for a ping, or an error. -/
structure Answers (config : SimDatabaseConfig) (p : ClientPacket) (reply : List Packet) : Prop where
  numbered : reply.map Packet.sequence =
    (List.range reply.length).map fun i => UInt8.ofNat (i + 1)
  result : ∀ query column value, p.payload.head? = some 0x03 →
    utf8Decode p.payload.tail = some query → queryText config query = some (column, value) →
    reply = resultPackets column value
  ping : p.payload.head? = some 0x0e → reply = okReply
  refused : p.payload.head? ≠ some 0x0e →
    (∀ query, p.payload.head? = some 0x03 → utf8Decode p.payload.tail = some query →
      queryText config query = none) → ∃ refusal, reply = [refusal] ∧ refusal.isError = true

/-- A reply of one packet is read as such. -/
theorem readReply_single {p : Packet} (h : p.isOk = true ∨ p.isError = true) (rest : List Packet) :
    readReply ([p] ++ rest) = some ([p], rest) := by
  have hsingle : (p.isOk || p.isError) = true := by simpa using h
  simp [readReply, hsingle]

/-- A reply that a client reads as one, of packets whose lengths can be written. -/
structure Transmits (reply : List Packet) : Prop where
  reads : ReadsBack readReply id reply
  fits : ∀ q ∈ reply, q.Fits

theorem transmits_single {q : Packet} (h : q.isOk = true ∨ q.isError = true) (hfits : q.Fits) :
    Transmits [q] := by
  refine ⟨⟨by simp, readReply_single h⟩, ?_⟩
  intro other hother
  rwa [List.mem_singleton.mp hother]

theorem transmits_resultPackets {column value : Text}
    (hcolumn : column = "VERSION()" ∨ column = "result") (hvalue : byteLen value % 256 ≠ 255)
    (hlength : byteLen value + 1 < 2 ^ 24) : Transmits (resultPackets column value) := by
  have hcol : (⟨2, columnDefinition column⟩ : Packet).Fits := by
    obtain rfl | rfl := hcolumn
    · decide
    · decide
  have hrow : (⟨4, pushLenencString [] value⟩ : Packet).Fits := by
    have hlen : (pushLenencString [] value).length = byteLen value + 1 := by
      simp [pushLenencString, byteLen]
    rw [Packet.Fits, hlen]
    exact hlength
  refine ⟨⟨by simp [resultPackets], readReply_resultPackets hcolumn hvalue⟩, ?_⟩
  simp only [resultPackets, List.forall_mem_cons]
  exact ⟨by decide, hcol, by decide, hrow, by decide, by simp⟩

section Commands

variable {config : SimDatabaseConfig} {p : ClientPacket}

theorem answers_ping (hping : p.payload.head? = some 0x0e) :
    Answers config p okReply := by
  refine ⟨by decide, ?_, fun _ => rfl, fun hother => absurd hping hother⟩
  intro query column value hquery
  rw [hping] at hquery
  cases hquery

theorem answers_refusal {q : Packet} (hsequence : q.sequence = 1) (herror : q.isError = true)
    (hping : p.payload.head? ≠ some 0x0e)
    (hnone : ∀ query, p.payload.head? = some 0x03 → utf8Decode p.payload.tail = some query →
      queryText config query = none) : Answers config p [q] := by
  refine ⟨by simp [hsequence], ?_, fun h => absurd h hping, fun _ _ => ⟨q, rfl, herror⟩⟩
  intro query column value hquery hdecoded hresult
  rw [hnone query hquery hdecoded] at hresult
  cases hresult

theorem answers_result {query column value : Text} (hquery : p.payload.head? = some 0x03)
    (hdecoded : utf8Decode p.payload.tail = some query)
    (hresult : queryText config query = some (column, value)) :
    Answers config p (resultPackets column value) := by
  refine ⟨by simp [resultPackets, rowsEnd, List.range_succ], ?_, ?_, ?_⟩
  · intro query' column' value' _ hdecoded' hresult'
    obtain rfl : query = query' := Option.some.inj (hdecoded.symm.trans hdecoded')
    rw [hresult] at hresult'
    cases hresult'
    rfl
  · intro hping
    rw [hquery] at hping
    cases hping
  · intro _ hnone
    rw [hnone query hquery hdecoded] at hresult
    cases hresult

/-- A command that is not empty has a reply that answers it and is read as one. -/
theorem replyPackets_right (hgoes : p.goesOn = true) (hreadable : p.Readable config)
    (hne : p.payload ≠ []) : Answers config p (replyPackets config p.payload) ∧
      Transmits (replyPackets config p.payload) := by
  obtain ⟨commandCode, body, hpayload⟩ := List.exists_cons_of_ne_nil hne
  have hhead : p.payload.head? = some commandCode := by rw [hpayload]; rfl
  have htail : p.payload.tail = body := by rw [hpayload]; rfl
  by_cases hping : commandCode = 0x0e
  · rw [hpayload, replyPackets, if_pos hping]
    exact ⟨answers_ping (hping ▸ hhead), transmits_single (Or.inl rfl) (by decide)⟩
  have hother : p.payload.head? ≠ some 0x0e := by simpa [hhead] using hping
  by_cases hcode : commandCode = 0x03
  · have hquery : p.payload.head? = some 0x03 := hcode ▸ hhead
    obtain ⟨query, hdecoded⟩ : ∃ query, utf8Decode body = some query := by
      simp only [ClientPacket.goesOn, hhead, htail, hcode, Bool.and_eq_true] at hgoes
      exact Option.isSome_iff_exists.mp (by simpa using hgoes.2)
    have hdecoded' : utf8Decode p.payload.tail = some query := htail ▸ hdecoded
    rw [hpayload, replyPackets, if_neg hping, if_pos hcode, hdecoded, Option.getD_some,
      queryPackets]
    cases hresult : queryText config query with
    | none =>
      refine ⟨answers_refusal rfl rfl hother ?_, transmits_single (Or.inr rfl) (by decide)⟩
      intro query' _ hquery'
      obtain rfl : query = query' := Option.some.inj (hdecoded'.symm.trans hquery')
      exact hresult
    | some result =>
      obtain ⟨column, value⟩ := result
      obtain ⟨hvalue, hlength⟩ := hreadable query column value hquery hdecoded' hresult
      exact ⟨answers_result hquery hdecoded' hresult,
        transmits_resultPackets (queryText_column hresult) hvalue hlength⟩
  · rw [hpayload, replyPackets, if_neg hping, if_neg hcode]
    refine ⟨answers_refusal rfl rfl hother ?_, transmits_single (Or.inr rfl) (by decide)⟩
    intro query hquery
    rw [hhead] at hquery
    exact absurd (Option.some.inj hquery) hcode

end Commands

/-! ## Whole sessions -/

/-- Whatever comes in, nothing is put out. -/
def Mute {α : Type} (m : ByteSession α) : Prop := ∀ input, (m.run input).1 = []

theorem mute_ret {α : Type} (a : α) : Mute (return a) := fun _ => rfl

theorem mute_breakOff {α : Type} : Mute (Talk.breakOff : ByteSession α) := fun _ => rfl

theorem mute_take : Mute Talk.take := by
  intro input
  cases input with
  | nil => rfl
  | cons first rest => rfl

theorem Mute.bind {α β : Type} {m : ByteSession α} {f : α → ByteSession β} (hm : Mute m)
    (hf : ∀ a, Mute (f a)) : Mute (m >>= f) := by
  intro input
  rw [Talk.run_bind_of_silent (hm input) fun a rest => hf a rest]

theorem mute_readU8 : Mute readU8 := by
  refine mute_take.bind ?_
  intro first
  cases first with
  | none => exact mute_breakOff
  | some byte => exact mute_ret byte

theorem mute_readExact (n : ℕ) : Mute (readExact n) := by
  intro input
  by_cases h : input.length < n
  · rw [run_readExact_of_lt h]
  · have hlength : (input.take n).length = n := List.length_take_of_le (by omega)
    rw [← List.take_append_drop n input, run_readExact hlength]

theorem mute_readPacketRest (first : UInt8) : Mute (readPacketRest first) := by
  refine mute_readU8.bind fun second => mute_readU8.bind fun third => ?_
  dsimp only
  split
  next => exact mute_breakOff
  next =>
    exact mute_readU8.bind fun sequence => (mute_readExact _).bind fun payload => mute_ret _

theorem mute_readPacket : Mute readPacket := by
  refine mute_take.bind ?_
  intro first
  cases first with
  | none => exact mute_ret none
  | some first => exact (mute_readPacketRest first).bind fun found => mute_ret _

/-- A client that is let in has been greeted and told so, and nothing else. -/
theorem written_authenticate {sha1 : Digest} {config : SimDatabaseConfig} {observe : Observer}
    {input rest : Bytes} {outs : List (Output Bytes)}
    (h : (authenticate sha1 config observe).run input = (outs, some (true, rest))) :
    written outs = [handshake (serverVersion config), okPacket 2] := by
  rw [authenticate, Talk.run_bind, writeAll, Talk.run_emit] at h
  dsimp only at h
  rw [Talk.run_bind] at h
  have hmute := mute_readPacket input
  cases hread : readPacket.run input with
  | mk read result =>
    rw [hread] at h hmute
    obtain rfl : read = [] := hmute
    cases result with
    | none => simp at h
    | some found =>
      obtain ⟨packet, left⟩ := found
      cases packet with
      | none => simp at h
      | some packet =>
        obtain ⟨sequence, payload⟩ := packet
        dsimp only at h
        rw [observed, Talk.run_bind, Talk.run_emit] at h
        dsimp only at h
        cases hparse : parseHandshakeResponse payload with
        | error e => simp [hparse, Talk.breakOff] at h
        | ok response =>
          simp only [hparse, writeAll] at h
          split at h
          next => simp [Talk.run_bind] at h
          next =>
            split at h
            next => simp [Talk.run_bind] at h
            next =>
              simp only [Talk.run_bind, Talk.run_emit, Talk.pure_eq, Talk.run_ret,
                Prod.mk.injEq] at h
              rw [← h.1]
              rfl

theorem written_serveSession {sha1 : Digest} {config : SimDatabaseConfig} {observe : Observer}
    {input rest : Bytes} {outs : List (Output Bytes)}
    (hlogin : (authenticate sha1 config observe).run input = (outs, some (true, rest))) :
    written ((serveSession sha1 config observe).run input).1 =
      handshake (serverVersion config) :: okPacket 2 ::
        written ((serveCommands config observe).run rest).1 := by
  rw [serveSession, Talk.run_bind, hlogin, written_append, written_authenticate hlogin]
  rfl

/-- The commands that get a reply. -/
def answered (packets : List ClientPacket) : List ClientPacket :=
  (served packets).filter fun p => !p.payload.isEmpty

theorem mem_answered {packets : List ClientPacket} {p : ClientPacket} (h : p ∈ answered packets) :
    p.goesOn = true ∧ p ∈ served packets ∧ p.payload ≠ [] := by
  obtain ⟨hserved, hne⟩ := List.mem_filter.mp h
  exact ⟨List.mem_takeWhile_imp hserved, hserved, by simpa using hne⟩

theorem flatMap_replyPackets (config : SimDatabaseConfig) (packets : List ClientPacket) :
    (served packets).flatMap (fun p => (replyPackets config p.payload).map Packet.bytes) =
      ((answered packets).map fun p => replyPackets config p.payload).flatten.map Packet.bytes := by
  rw [answered]
  induction served packets with
  | nil => rfl
  | cons p rest ih =>
    rw [List.flatMap_cons, ih, List.filter_cons]
    split
    next => simp
    next hempty =>
      have hpayload : p.payload = [] := by simpa using hempty
      simp [hpayload, replyPackets]

/-- After a login the server writes whole packets, and these are one reply after the other, each to
the next of the commands that the session serves, as long as no result begins like an error. -/
theorem serveSession_inStep {sha1 : Digest} {config : SimDatabaseConfig} {observe : Observer}
    {input : Bytes} {outs : List (Output Bytes)} {packets : List ClientPacket}
    (hlogin : (authenticate sha1 config observe).run input =
      (outs, some (true, packets.flatMap fun p => p.bytes)))
    (hreadable : ∀ p ∈ served packets, p.Readable config) :
    ∃ stream replies, written ((serveSession sha1 config observe).run input).1 =
        handshake (serverVersion config) :: okPacket 2 :: stream ∧
      readAll readServerPacket stream.flatten = some replies.flatten ∧
      readAll readReply replies.flatten = some replies ∧
      List.Forall₂ (Answers config) (answered packets) replies := by
  have hright : ∀ p ∈ answered packets, Answers config p (replyPackets config p.payload) ∧
      Transmits (replyPackets config p.payload) := by
    intro p hp
    obtain ⟨hgoes, hserved, hne⟩ := mem_answered hp
    exact replyPackets_right hgoes (hreadable p hserved) hne
  refine ⟨_, (answered packets).map fun p => replyPackets config p.payload,
    (written_serveSession hlogin).trans
      (by rw [written_serveCommands, flatMap_replyPackets]), ?_, ?_, ?_⟩
  · rw [← List.flatMap_def]
    apply readAll_flatMap
    intro q hq
    obtain ⟨reply, hreply, hq⟩ := List.mem_flatten.mp hq
    obtain ⟨p, hp, rfl⟩ := List.mem_map.mp hreply
    exact readsBack_packet ((hright p hp).2.fits q hq)
  · rw [← List.flatMap_id]
    apply readAll_flatMap
    intro reply hreply
    obtain ⟨p, hp, rfl⟩ := List.mem_map.mp hreply
    exact (hright p hp).2.reads
  · rw [List.forall₂_map_right_iff, List.forall₂_same]
    intro p hp
    exact (hright p hp).1

/-- A user with its response is let in, with a database that is there. -/
theorem run_authenticate {sha1 : Digest} {config : SimDatabaseConfig} {observe : Observer}
    {sequence : UInt8} {input payload rest : Bytes} {response : HandshakeResponse}
    (hread : readPacket.run input = ([], some (some (sequence, payload), rest)))
    (hparse : parseHandshakeResponse payload = .ok response)
    (hmatch : credentialsMatch sha1 config response.username response.authResponse = true)
    (hexists : databaseExists config response.database = true) :
    ∃ outs, (authenticate sha1 config observe).run input = (outs, some (true, rest)) := by
  rw [authenticate, Talk.run_bind, writeAll, Talk.run_emit]
  dsimp only
  rw [Talk.run_bind, hread]
  dsimp only
  rw [observed, Talk.run_bind, Talk.run_emit]
  dsimp only
  rw [hparse]
  simp only [hmatch, hexists, writeAll]
  exact ⟨_, rfl⟩

/-- A ping, a query, a Quit and a ping that comes too late. -/
def versionCommands : List ClientPacket :=
  [⟨⟨0, [0x0e]⟩, by decide⟩, ⟨⟨0, 0x03 :: utf8Encode "SELECT VERSION();"⟩, by decide⟩,
    ⟨⟨0, [0x01]⟩, by decide⟩, ⟨⟨0, [0x0e]⟩, by decide⟩]

theorem run_rootLogin (rest : Bytes) :
    ∃ outs, (authenticate sampleSha1 twoUsers.config (reportDatabase twoUsers localClient)).run
      (writePackets 1 ((secureClient sampleSha1 ⟨"root", "root"⟩ (by decide)).answer
        AUTH_SEED).encode ++ rest) = (outs, some (true, rest)) := by
  have hshort : ((secureClient sampleSha1 ⟨"root", "root"⟩ (by decide)).answer
      AUTH_SEED).encode.length ≤ MAX_PACKET_SIZE :=
    (length_encode_secureClient (by decide) AUTH_SEED).trans (by decide)
  refine run_authenticate (run_readPacket_writePackets hshort rest)
    (LoginClient.parse_answer _ hshort) ?_ rfl
  exact @credentialsMatch_standardResponse sampleSha1 twoUsers.config _ ⟨"root", "root"⟩ rfl
    List.mem_cons_self (by decide)

theorem readable_twoUsers (p : ClientPacket) : p.Readable twoUsers.config := by
  intro query column value _ _ hresult
  rw [queryText] at hresult
  split at hresult
  next =>
    cases hresult
    decide
  next => simp [configuredQueryResponse, twoUsers] at hresult

theorem versionCommands_inStep :
    ∃ input outs stream replies,
      (authenticate sampleSha1 twoUsers.config (reportDatabase twoUsers localClient)).run input =
        (outs, some (true, versionCommands.flatMap fun p => p.bytes)) ∧
      written ((serveSession sampleSha1 twoUsers.config
        (reportDatabase twoUsers localClient)).run input).1 =
        handshake (serverVersion twoUsers.config) :: okPacket 2 :: stream ∧
      readAll readServerPacket stream.flatten = some replies.flatten ∧
      readAll readReply replies.flatten = some replies ∧
      List.Forall₂ (Answers twoUsers.config) (answered versionCommands) replies := by
  obtain ⟨outs, houts⟩ := run_rootLogin (versionCommands.flatMap fun p => p.bytes)
  obtain ⟨stream, replies, hright⟩ :=
    serveSession_inStep houts fun p _ => readable_twoUsers p
  exact ⟨_, outs, stream, replies, houts, hright⟩

end ProtocolSimulation.Engine.Mysql
