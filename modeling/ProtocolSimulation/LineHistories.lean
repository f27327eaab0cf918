import ProtocolSimulation.MailCommon

/-!
# What was said on a line connection

The rounds of a connection up to one of its sessions, as its client sees them: the
lines it sent, each with the text that was written in reply. The last line comes
first.
-/
namespace ProtocolSimulation.Engine

open ProtocolSimulation.Texts ProtocolSimulation.Conversations ProtocolSimulation.RuntimeEvents

structure Exchange where
  line : Text
  reply : Text

section Lines

variable {σ : Type} {turn : σ → Text → Session (Option σ)} {start : σ} {input : List ReceivedLine}

/-- What is written in reply to a line. -/
def lineReply (turn : σ → Text → Session (Option σ)) (session : σ) (line : Text)
    (input : List ReceivedLine) : Text :=
  (written ((turn session line).run input).1).flatten

/-- The sessions that the loop of a connection comes to, with what was said before and the lines
that are still to come. -/
inductive Reaches (turn : σ → Text → Session (Option σ)) (start : σ) (input : List ReceivedLine) :
    List Exchange → σ → List ReceivedLine → Prop where
  | started : Reaches turn start input [] start input
  | answered {history : List Exchange} {session session' : σ} {raw : Text}
      {rest rest' : List ReceivedLine}
      (h : Reaches turn start input history session (some raw :: rest))
      (hturn : ((turn session (trimEndMatches isLineEnd raw)).run rest).2 =
        some (some session', rest')) :
      Reaches turn start input
        (⟨trimEndMatches isLineEnd raw,
          lineReply turn session (trimEndMatches isLineEnd raw) rest⟩ :: history) session' rest'

/-- The loop deals with one line and goes on. -/
theorem run_serveLines_cons {session session' : σ} {raw : Text} {rest rest' : List ReceivedLine}
    {outs : List (Output Text)}
    (hturn : (turn session (trimEndMatches isLineEnd raw)).run rest =
      (outs, some (some session', rest'))) :
    (serveLines turn session).run (some raw :: rest) =
      (outs ++ ((serveLines turn session').run rest').1,
        ((serveLines turn session').run rest').2) := by
  have hread : readLine.run (some raw :: rest) =
      ([], some (some (trimEndMatches isLineEnd raw), rest)) := rfl
  rw [serveLines_eq, Talk.run_bind, hread]
  simp [Talk.run_bind, hturn]

/-- The loop breaks off in the middle of a line. -/
theorem run_serveLines_broken {session : σ} {raw : Text} {rest : List ReceivedLine}
    {outs : List (Output Text)}
    (hturn : (turn session (trimEndMatches isLineEnd raw)).run rest = (outs, none)) :
    (serveLines turn session).run (some raw :: rest) = (outs, none) := by
  have hread : readLine.run (some raw :: rest) =
      ([], some (some (trimEndMatches isLineEnd raw), rest)) := rfl
  rw [serveLines_eq, Talk.run_bind, hread]
  simp [Talk.run_bind, hturn]

/-- The loop writes one reply after the other, and goes on from the session that it came to. -/
theorem written_serveLines {history : List Exchange} {session : σ} {rest : List ReceivedLine}
    (h : Reaches turn start input history session rest) :
    (written ((serveLines turn start).run input).1).flatten =
      history.reverse.flatMap Exchange.reply ++
        (written ((serveLines turn session).run rest).1).flatten := by
  induction h with
  | started => rfl
  | @answered history session session' raw rest rest' h hturn ih =>
    have hround : (written ((serveLines turn session).run (some raw :: rest)).1).flatten =
        lineReply turn session (trimEndMatches isLineEnd raw) rest ++
          (written ((serveLines turn session').run rest').1).flatten := by
      cases hrun : (turn session (trimEndMatches isLineEnd raw)).run rest with
      | mk outs result =>
        rw [hrun] at hturn
        obtain rfl : result = some (some session', rest') := hturn
        rw [run_serveLines_cons hrun]
        simp [lineReply, hrun]
    rw [ih, hround, List.reverse_cons, List.flatMap_append, List.append_assoc]
    simp

end Lines

theorem run_writeLines (lines : List Text) (input : List ReceivedLine) :
    ∃ outs, (writeLines lines).run input = (outs, some ((), input)) ∧
      (written outs).flatten = lines.flatMap fun line => line ++ ("\r\n" : Text) := by
  induction lines with
  | nil => exact ⟨_, rfl, rfl⟩
  | cons line lines ih =>
    obtain ⟨outs, hrun, hwritten⟩ := ih
    use .wrote line :: .wrote "\r\n" :: outs
    constructor
    · show (writeLine line >>= fun _ => writeLines lines).run input = _
      rw [Talk.run_bind]
      simp [writeLine, writeRaw, Talk.run_bind, hrun]
    · simp [hwritten]

theorem written_lines (header : Text) (lines : List Text) {α : Type} (a : α)
    (input : List ReceivedLine) :
    (written ((do
        (do writeLine header; writeLines lines; writeLine ".")
        return a : Session α).run input).1).flatten =
      header ++ ("\r\n" : Text) ++ lines.flatMap (fun line => line ++ ("\r\n" : Text)) ++
        (".\r\n" : Text) := by
  obtain ⟨outs, hrun, hwritten⟩ := run_writeLines lines input
  simp [writeLine, writeRaw, Talk.run_bind, hrun, hwritten]

/-! ## Results, whatever was said -/

/-- Whatever the client sends, a result satisfies `P`. -/
def Results {α : Type} (P : α → Prop) (m : Session α) : Prop :=
  Talk.Says (fun _ => True) (fun _ => True) P m

section Results

variable {α β : Type} {P : α → Prop}

theorem results_ret {a : α} (h : P a) : Results P (return a : Session α) := Talk.says_ret h

theorem results_then {m : Session β} {f : β → Session α} (h : ∀ b, Results P (f b)) :
    Results P (m >>= f) := by
  have hm : Results (fun _ => True) m := fun _ _ => ⟨fun _ _ => trivial, fun _ _ _ => trivial⟩
  exact hm.bind fun b _ => h b

theorem results_ite {c : Prop} [Decidable c] {m m' : Session α} (h : c → Results P m)
    (h' : ¬ c → Results P m') : Results P (if c then m else m') :=
  Talk.says_ite h h'

theorem Results.of_run {m : Session α} (h : Results P m) {input rest : List ReceivedLine} {a : α}
    (hrun : (m.run input).2 = some (a, rest)) : P a :=
  (h input fun _ _ => trivial).2 a rest hrun

/-- A line in reply, and the result. -/
theorem run_reply (line : Text) (a : α) (input : List ReceivedLine) :
    (do writeLine line; return a : Session α).run input =
      ([.wrote line, .wrote "\r\n"], some (a, input)) := rfl

theorem written_reply (line : Text) (a : α) (input : List ReceivedLine) :
    (written ((do writeLine line; return a : Session α).run input).1).flatten =
      line ++ ("\r\n" : Text) := by
  rw [run_reply]
  simp

end Results

/-! ## Mail sessions -/

/-- The session after a line, if it goes on. -/
def Handled.next {σ : Type} : Handled σ → Option σ
  | .ignored session => some session
  | .logged session _ => some session
  | .closed _ => none

section Mail

variable {Config σ : Type} (ctx : SimulationContext Config) (peer : SocketAddr)
  (label closing line : Text)

/-- The audit of a command writes nothing. -/
theorem run_audit (handled : Handled σ) (input : List ReceivedLine) :
    ∃ outs, (audit (reportMailCommand ctx peer) label closing line handled).run input =
      (outs, some (handled.next, input)) ∧ written outs = [] := by
  cases handled with
  | ignored session => exact ⟨_, rfl, rfl⟩
  | logged session eventType => exact ⟨_, rfl, rfl⟩
  | closed eventType => exact ⟨_, rfl, rfl⟩

theorem run_audited (answer : Session (Handled σ)) (input : List ReceivedLine) :
    written ((answer >>= audit (reportMailCommand ctx peer) label closing line).run input).1 =
        written (answer.run input).1 ∧
      ((answer >>= audit (reportMailCommand ctx peer) label closing line).run input).2 =
        (answer.run input).2.map fun found => (found.1.next, found.2) := by
  rw [Talk.run_bind]
  cases hanswer : answer.run input with
  | mk outs result =>
    cases result with
    | none => exact ⟨rfl, rfl⟩
    | some found =>
      obtain ⟨handled, rest⟩ := found
      obtain ⟨outs', haudit, hwritten⟩ := run_audit ctx peer label closing line handled rest
      constructor
      · simp [haudit, hwritten]
      · simp [haudit]

/-- A built-in reply with its audit. -/
theorem run_builtin (reply : Session (σ × Text)) (input : List ReceivedLine) :
    let audited := reply >>= (fun found => (return .logged found.1 found.2 : Session (Handled σ)))
      >>= audit (reportMailCommand ctx peer) label closing line
    written (audited.run input).1 = written (reply.run input).1 ∧
      (audited.run input).2 = (reply.run input).2.map fun found => (some found.1.1, found.2) := by
  intro audited
  obtain ⟨hwritten, hresult⟩ := run_audited ctx peer label closing line
    (reply >>= fun found => return .logged found.1 found.2) input
  rw [hwritten, hresult, Talk.run_bind]
  cases reply.run input with
  | mk outs result =>
    cases result with
    | none => exact ⟨rfl, rfl⟩
    | some found => simp [Handled.next]

end Mail

end ProtocolSimulation.Engine
