import ProtocolSimulation.Conversations
import ProtocolSimulation.EngineConfigs
import ProtocolSimulation.RuntimeEvents

/-!
# Sessions over a line protocol

A connection of a line-oriented simulation: it reads lines, writes text and
reports drafts to the audit reporter. A line whose bytes are not UTF-8 makes the
read fail, which ends the connection.
-/
namespace ProtocolSimulation.Engine

open ProtocolSimulation.Texts ProtocolSimulation.Conversations ProtocolSimulation.RuntimeEvents

/-- What a connection does: it writes to its client, or hands a draft to the reporter. -/
inductive Output (W : Type) where
  | wrote (w : W)
  | reported (queued : QueuedLog)

/-- The drafts among the outputs. -/
def reports {W : Type} (outs : List (Output W)) : List QueuedLog :=
  outs.filterMap fun
    | .wrote _ => none
    | .reported queued => some queued

theorem mem_reports_iff {W : Type} {outs : List (Output W)} {queued : QueuedLog} :
    queued ∈ reports outs ↔ .reported queued ∈ outs := by
  rw [reports, List.mem_filterMap]
  constructor
  · rintro ⟨o, ho, hq⟩
    cases o with
    | wrote w => simp at hq
    | reported q =>
      obtain rfl : q = queued := by simpa using hq
      exact ho
  · intro h
    exact ⟨.reported queued, h, rfl⟩

/-- What is written among the outputs. -/
def written {W : Type} (outs : List (Output W)) : List W :=
  outs.filterMap fun
    | .wrote w => some w
    | .reported _ => none

section Written

variable {W : Type} (w : W) (queued : QueuedLog) (outs outs' : List (Output W))

@[simp] theorem written_nil : written ([] : List (Output W)) = [] := rfl

@[simp] theorem written_wrote : written (.wrote w :: outs) = w :: written outs := rfl

@[simp] theorem written_reported : written (.reported queued :: outs) = written outs := rfl

@[simp] theorem written_append : written (outs ++ outs') = written outs ++ written outs' :=
  List.filterMap_append

end Written

/-- A line as it comes in, with its line ending; `none` when it is no UTF-8. -/
abbrev ReceivedLine := Option Text

/-- The lines of a client's bytes, as `AsyncBufReadExt::read_line` finds them. -/
def receivedLines (stream : Bytes) : List ReceivedLine :=
  (splitInclusive (· == 10) stream).map utf8Decode

abbrev Session := Talk ReceivedLine (Output Text)

def isLineEnd (c : Char) : Bool := c == '\r' || c == '\n'

/-- The line without its line ending, unless the read fails. -/
def received : ReceivedLine → Session Text
  | none => Talk.breakOff
  | some raw => return trimEndMatches isLineEnd raw

def readLine : Session (Option Text) := do
  match ← Talk.take with
  | none => return none
  | some raw => return some (← received raw)

def writeRaw (value : Text) : Session Unit := Talk.emit (.wrote value)

def writeLine (line : Text) : Session Unit := do
  writeRaw line
  writeRaw "\r\n"

def writeLines : List Text → Session Unit
  | [] => return ()
  | line :: rest => do
    writeLine line
    writeLines rest

/-- `report_sim_log_async`. -/
def reportSimLogAsync (draft : SimLogDraft) : Session Unit := Talk.emit (.reported ⟨draft, none⟩)

/-- The draft of a new connection. -/
def connectionDraft {Config : Type} (ctx : SimulationContext Config) (peer : SocketAddr)
    (protocol : Text) : SimLogDraft where
  ruleId := ctx.ruleId
  nodeId := ctx.nodeId
  clientIp := peer.ip
  clientPort := peer.port
  serverPort := ctx.port
  eventType := "connection"
  detailSummary := protocol ++ (" client connected" : Text)
  payloadHex := none

def reportConnection {Config : Type} (ctx : SimulationContext Config) (peer : SocketAddr)
    (protocol : Text) : Session Unit :=
  reportSimLogAsync (connectionDraft ctx peer protocol)

/-- The draft of a command line, with the whole line as its payload. -/
def commandDraft {Config : Type} (ctx : SimulationContext Config) (peer : SocketAddr)
    (eventType summary commandLine : Text) : SimLogDraft where
  ruleId := ctx.ruleId
  nodeId := ctx.nodeId
  clientIp := peer.ip
  clientPort := peer.port
  serverPort := ctx.port
  eventType := eventType
  detailSummary := summary
  payloadHex := some (encodeHex (utf8Encode commandLine))

/-- Report a command line of a client. -/
def reportCommand {Config : Type} (ctx : SimulationContext Config) (peer : SocketAddr)
    (eventType summary commandLine : Text) : Session Unit :=
  reportSimLogAsync (commandDraft ctx peer eventType summary commandLine)

/-- How the answer to a line leaves the session. -/
inductive Handled (σ : Type) where
  /-- The line is not a command: nothing is reported. -/
  | ignored (session : σ)
  | logged (session : σ) (eventType : Text)
  /-- The client said goodbye: the session is over. -/
  | closed (eventType : Text)

/-- Report the command that was answered. `label` opens the summary of every line but the
closing one, whose summary is `closing`. -/
def audit {σ : Type} (report : Text → Text → Text → Session Unit) (label closing line : Text) :
    Handled σ → Session (Option σ)
  | .ignored session => return some session
  | .logged session eventType => do
    report eventType (label ++ line) line
    return some session
  | .closed eventType => do
    report eventType closing line
    return none

/-- The loop of a connection: `turn` deals with one line and says how the session goes on. -/
def serveLines {σ : Type} (turn : σ → Text → Session (Option σ)) (session : σ) : Session Unit :=
  Talk.forEach
    (fun session raw => do
      match ← turn session (← received raw) with
      | some session => return .inl session
      | none => return .inr ())
    (fun _ => ()) session

theorem serveLines_eq {σ : Type} (turn : σ → Text → Session (Option σ)) (session : σ) :
    serveLines turn session = (do
      match ← readLine with
      | none => return ()
      | some line =>
        match ← turn session line with
        | some session => serveLines turn session
        | none => return ()) := by
  rw [serveLines, Talk.forEach_eq, readLine, Talk.bind_assoc]
  congr 1
  funext raw
  cases raw with
  | none => rfl
  | some raw =>
    simp only [Talk.bind_assoc, Talk.pure_eq, Talk.ret_bind]
    congr 1
    funext line
    congr 1
    funext next
    cases next <;> rfl

theorem validEventType_authAttempt : validEventType "auth_attempt" = true := by decide

theorem validEventType_exploitAttempt : validEventType "exploit_attempt" = true := by decide

/-- How the API sees the answer to a line: its event type is valid when `good` holds, and it
closes the session when `closes` does. -/
def Handled.Judged {σ : Type} (good closes : Prop) : Handled σ → Prop
  | .ignored _ => True
  | .logged _ eventType => (validEventType eventType = true ↔ good) ∧ ¬ closes
  | .closed eventType => (validEventType eventType = true ↔ good) ∧ closes

/-- Is the event type of a configured response, if there is one, valid? -/
def CustomTypeValid {α : Type} (custom : Option (α × Text)) : Prop :=
  ∀ r, custom = some r → validEventType r.2 = true

/-! ## Answers that report nothing -/

/-- Whatever the client sends, nothing is reported, and a result satisfies `P`. -/
def Silent {α : Type} (P : α → Prop) (m : Session α) : Prop :=
  Talk.Says (fun _ => True) (fun o => ∀ queued, o ≠ .reported queued) P m

section Silent

variable {α β : Type} {P : α → Prop} {Q : β → Prop}

theorem silent_ret {a : α} (h : P a) : Silent P (return a : Session α) := Talk.says_ret h

theorem Silent.bind {m : Session α} {f : α → Session β} (hm : Silent P m)
    (hf : ∀ a, P a → Silent Q (f a)) : Silent Q (m >>= f) :=
  Talk.Says.bind hm hf

theorem silent_ite {c : Prop} [Decidable c] {m m' : Session α} (h : c → Silent P m)
    (h' : ¬ c → Silent P m') : Silent P (if c then m else m') :=
  Talk.says_ite h h'

theorem silent_writeRaw {value : Text} : Silent (fun _ => True) (writeRaw value) :=
  Talk.says_emit (by simp) trivial

theorem silent_writeLine {line : Text} : Silent (fun _ => True) (writeLine line) :=
  silent_writeRaw.bind fun _ _ => silent_writeRaw

theorem silent_writeLines (lines : List Text) : Silent (fun _ => True) (writeLines lines) := by
  induction lines with
  | nil => exact silent_ret trivial
  | cons line rest ih => exact silent_writeLine.bind fun _ _ => ih

theorem silent_received {raw : ReceivedLine} : Silent (fun _ => True) (received raw) := by
  cases raw with
  | none => exact Talk.says_breakOff
  | some raw => exact silent_ret trivial

theorem silent_readLine : Silent (fun _ => True) readLine := by
  refine Silent.bind (P := fun _ => True) ?_ fun raw _ => ?_
  · exact Talk.says_take.mono (fun _ => id) (fun _ => id) fun _ _ => trivial
  · cases raw with
    | none => exact silent_ret trivial
    | some raw => exact silent_received.bind fun _ _ => silent_ret trivial

/-- A line is written and the result returned. -/
theorem silent_reply {line : Text} {a : α} (h : P a) :
    Silent P (do writeLine line; return a) :=
  silent_writeLine.bind fun _ _ => silent_ret h

end Silent

end ProtocolSimulation.Engine
