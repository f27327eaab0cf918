import ProtocolSimulation.LineHistories
import ProtocolSimulation.Pop3

/-!
# The marks on deleted messages

What a POP3 client can tell of its mailbox from the lines it sent and the replies it
was given: the numbers of the messages it has not deleted since it last reset the
session. The marks in the session are the same, whatever was said in between.
-/
namespace ProtocolSimulation.Engine

open ProtocolSimulation.Texts ProtocolSimulation.Conversations

/-! ## What the client can tell -/

/-- Does the reply report success? -/
def succeeded (reply : Text) : Bool := ("+OK" : Text).isPrefixOf reply

/-- The message that the client deleted with the line. -/
def Exchange.deleted (exchange : Exchange) : Option ℕ :=
  if (pop3Command exchange.line).1 = "DELE" ∧ succeeded exchange.reply then
    (parseIndex (pop3Command exchange.line).2).map fun index => index + 1
  else none

theorem Exchange.deleted_of_ne {exchange : Exchange}
    (h : (pop3Command exchange.line).1 ≠ "DELE") : exchange.deleted = none :=
  if_neg fun hdele => h hdele.1

theorem Exchange.deleted_of_refused {exchange : Exchange}
    (h : succeeded exchange.reply = false) : exchange.deleted = none :=
  if_neg fun hdele => by simp [h] at hdele

theorem Exchange.deleted_of_succeeded {exchange : Exchange} {index : ℕ}
    (h : (pop3Command exchange.line).1 = "DELE") (hreply : succeeded exchange.reply = true)
    (hindex : parseIndex (pop3Command exchange.line).2 = some index) :
    exchange.deleted = some (index + 1) := by
  rw [Exchange.deleted, if_pos ⟨h, hreply⟩, hindex]
  rfl

/-- Was the message deleted since the last RSET? The last line comes first. -/
def deletedSinceReset (number : ℕ) : List Exchange → Bool
  | [] => false
  | exchange :: earlier =>
    if (pop3Command exchange.line).1 = "RSET" then false
    else exchange.deleted = some number || deletedSinceReset number earlier

/-- The numbers of the messages that were not deleted since the last RSET. -/
def remaining (count : ℕ) (history : List Exchange) : List ℕ :=
  (List.range' 1 count).filter fun number => !deletedSinceReset number history

/-! ## Lines and replies -/

/-- A line with a command is not blank. -/
theorem isEmpty_trim_of_command {line : Text}
    (h : (pop3Command line).1.any (fun c => !isWhitespace c) = true) :
    (trim line).isEmpty = false := by
  obtain ⟨c, hc, hvisible⟩ := List.any_eq_true.mp h
  have hmem : ∃ d ∈ line, d.toUpper = c := by
    unfold pop3Command at hc
    split at hc
    · next command args hsplit =>
      obtain ⟨d, hd, hupper⟩ := List.mem_map.mp hc
      rw [splitOnce_eq_append hsplit]
      exact ⟨d, List.mem_append_left _ hd, hupper⟩
    · exact List.mem_map.mp hc
  obtain ⟨d, hd, rfl⟩ := hmem
  rw [isWhitespace_toUpper] at hvisible
  simpa using trim_ne_nil hd (by simpa using hvisible)

/-! ## The marks -/

section Marks

variable {count : ℕ} {history : List Exchange} {session : Pop3Session} {exchange : Exchange}

/-- The marks of a session are those of the messages deleted since the last RSET. -/
structure Tracks (count : ℕ) (history : List Exchange) (session : Pop3Session) : Prop where
  length : session.deleted.length = count
  marked : ∀ index < count, session.isDeleted index = deletedSinceReset (index + 1) history

theorem tracks_new (requireAuth : Bool) (count : ℕ) :
    Tracks count [] (Pop3Session.new requireAuth count) where
  length := List.length_replicate
  marked index h := by simp [Pop3Session.new, Pop3Session.isDeleted, deletedSinceReset, h]

theorem Tracks.same {session' : Pop3Session} (h : Tracks count history session)
    (hdeleted : session'.deleted = session.deleted) (hnone : exchange.deleted = none)
    (hrset : (pop3Command exchange.line).1 ≠ "RSET") :
    Tracks count (exchange :: history) session' where
  length := by rw [hdeleted, h.length]
  marked index hindex := by
    rw [deletedSinceReset, if_neg hrset, hnone, ← h.marked index hindex, Pop3Session.isDeleted,
      Pop3Session.isDeleted, hdeleted]
    rfl

theorem Tracks.reset
    (h : Tracks count history session) (hrset : (pop3Command exchange.line).1 = "RSET") :
    Tracks count (exchange :: history)
      { session with deleted := session.deleted.map fun _ => 0 } where
  length := by rw [List.length_map, h.length]
  marked index hindex := by
    rw [← h.length] at hindex
    rw [deletedSinceReset, if_pos hrset]
    simp [Pop3Session.isDeleted, hindex]

theorem Tracks.delete {index : ℕ}
    (h : Tracks count history session) (hindex : index < count)
    (hdeleted : exchange.deleted = some (index + 1))
    (hrset : (pop3Command exchange.line).1 ≠ "RSET") :
    Tracks count (exchange :: history)
      { session with deleted := session.deleted.set index 1 } where
  length := by rw [List.length_set, h.length]
  marked other hother := by
    have hmarked := h.marked other hother
    rw [← h.length] at hindex
    rw [deletedSinceReset, if_neg hrset, hdeleted, ← hmarked]
    by_cases hsame : index = other
    · subst hsame
      simp [Pop3Session.isDeleted, hindex]
    · simp [Pop3Session.isDeleted, hsame]

end Marks

section Base64

variable (base64 : Text → Option Bytes) {ctx : Pop3Context} (peer : SocketAddr)
  {session : Pop3Session} {line : Text} {input : List ReceivedLine}

/-- A built-in command is answered with the built-in reply. -/
theorem pop3Line_builtin (hcustom : pop3Custom ctx line = none)
    (hline : (trim line).isEmpty = false) (hquit : (pop3Command line).1 ≠ "QUIT")
    (session : Pop3Session) (input : List ReceivedLine) :
    let reply := pop3Reply base64 ctx session (pop3Command line).1 (pop3Command line).2
    lineReply (handlePop3Line base64 ctx peer) session line input =
        (written (reply.run input).1).flatten ∧
      ((handlePop3Line base64 ctx peer session line).run input).2 =
        (reply.run input).2.map fun found => (some found.1.1, found.2) := by
  intro reply
  have hanswer : pop3Answer base64 ctx session line =
      reply >>= fun found => return .logged found.1 found.2 := by
    rw [pop3Answer, hline, if_neg Bool.false_ne_true, hcustom]
    exact if_neg hquit
  obtain ⟨hwritten, hresult⟩ :=
    run_builtin ctx peer "POP3 command: " "POP3 command: QUIT" line reply input
  rw [← hanswer] at hwritten hresult
  exact ⟨congrArg List.flatten hwritten, hresult⟩

/-- No command but DELE and RSET changes the marks. -/
theorem deleted_pop3Reply {command : Text} (hdele : command ≠ "DELE") (hrset : command ≠ "RSET")
    (args : Text) :
    Results (fun found => found.1.deleted = session.deleted)
      (pop3Reply base64 ctx session command args) := by
  have hreply {m : Session Unit} {eventType : Text} :
      Results (fun found => found.1.deleted = session.deleted)
        (m >>= fun _ => (return (session, eventType) : Session (Pop3Session × Text))) :=
    results_then fun _ => results_ret rfl
  have hauthed {body : Session (Pop3Session × Text)}
      (h : Results (fun found => found.1.deleted = session.deleted) body) :
      Results (fun found => found.1.deleted = session.deleted) (whenAuthed session body) :=
    results_then fun _ => results_ite (fun _ => h) fun _ => results_ret rfl
  unfold pop3Reply
  refine results_ite (fun _ => ?capa) fun _ => results_ite (fun _ => ?user) fun _ =>
    results_ite (fun _ => ?pass) fun _ => results_ite (fun _ => ?auth) fun _ =>
    results_ite (fun _ => hauthed hreply) fun _ => results_ite (fun _ => hauthed hreply) fun _ =>
    results_ite (fun _ => hauthed hreply) fun _ => results_ite (fun _ => hauthed ?retr) fun _ =>
    results_ite (fun h => absurd h hdele) fun _ => results_ite (fun h => absurd h hrset) fun _ =>
    results_ite (fun _ => hreply) fun _ => hreply
  case capa => exact results_then fun _ => results_then fun _ => hreply
  case user => exact results_then fun _ => results_ret rfl
  case pass => exact results_then fun _ => results_ret rfl
  case auth => exact results_then fun _ => results_then fun _ => results_ret rfl
  case retr =>
    split
    · split
      · exact results_then fun _ => results_then fun _ => hreply
      · exact hreply
    · exact hreply

theorem pop3Reply_rset (args : Text) : pop3Reply base64 ctx session "RSET" args = (do
      writeLine "+OK Reset state"
      return ({ session with deleted := session.deleted.map fun _ => 0 }, "pop3_command")) := rfl

theorem pop3Reply_dele {args : Text} {index : ℕ} (hauthed : session.authed = true)
    (hindex : parseIndex args = some index) (hlt : index < session.deleted.length) :
    pop3Reply base64 ctx session "DELE" args = (do
      writeLine "+OK Message marked deleted"
      return ({ session with deleted := session.deleted.set index 1 }, "pop3_command")) := by
  apply (whenAuthed_of_authed hauthed _).trans
  simp only [hindex, if_pos hlt]

theorem pop3Reply_dele_refused (ctx : Pop3Context) {args : Text}
    (h : session.authed = true → ∀ index, parseIndex args = some index →
      session.deleted.length ≤ index) :
    ∃ refusal : Text, succeeded (refusal ++ ("\r\n" : Text)) = false ∧
      pop3Reply base64 ctx session "DELE" args = (do
        writeLine refusal
        return (session, "pop3_command")) := by
  cases hauthed : session.authed with
  | false => exact ⟨"-ERR Authentication required", rfl, whenAuthed_eq hauthed⟩
  | true =>
    cases hindex : parseIndex args with
    | none =>
      use "-ERR Message number required", rfl
      apply (whenAuthed_of_authed hauthed _).trans
      simp only [hindex]
    | some index =>
      use "-ERR No such message", rfl
      apply (whenAuthed_of_authed hauthed _).trans
      simp only [hindex, if_neg (not_lt.mpr (h hauthed index hindex))]

/-- DELE marks a message of an authenticated client, or it is refused. -/
theorem run_dele (ctx : Pop3Context) (session : Pop3Session) (args : Text)
    (input : List ReceivedLine) :
    let reply := (pop3Reply base64 ctx session "DELE" args).run input
    (∃ index, session.authed = true ∧ parseIndex args = some index ∧
        index < session.deleted.length ∧ succeeded (written reply.1).flatten = true ∧
        reply.2 = some (({ session with deleted := session.deleted.set index 1 },
          ("pop3_command" : Text)), input)) ∨
      ((session.authed = true → ∀ index, parseIndex args = some index →
          session.deleted.length ≤ index) ∧
        succeeded (written reply.1).flatten = false ∧
        reply.2 = some ((session, ("pop3_command" : Text)), input)) := by
  intro reply
  by_cases hmarks : ∃ index, session.authed = true ∧ parseIndex args = some index ∧
      index < session.deleted.length
  · obtain ⟨index, hauthed, hindex, hlt⟩ := hmarks
    have hreply : reply = _ :=
      congrArg (fun m => m.run input) (pop3Reply_dele base64 hauthed hindex hlt)
    rw [hreply]
    exact .inl ⟨index, hauthed, hindex, hlt, rfl, rfl⟩
  · have hbeyond : session.authed = true → ∀ index, parseIndex args = some index →
        session.deleted.length ≤ index := by
      intro hauthed index hindex
      by_contra hlt
      exact hmarks ⟨index, hauthed, hindex, not_le.mp hlt⟩
    obtain ⟨refusal, hrefused, hdele⟩ := pop3Reply_dele_refused base64 ctx hbeyond
    have hreply : reply = _ := congrArg (fun m => m.run input) hdele
    rw [hreply]
    refine .inr ⟨hbeyond, ?_, rfl⟩
    rw [written_reply]
    exact hrefused

theorem result_blank (hline : (trim line).isEmpty = true) :
    ((handlePop3Line base64 ctx peer session line).run input).2 = some (some session, input) := by
  have hanswer : pop3Answer base64 ctx session line = return .ignored session := by
    rw [pop3Answer, if_pos hline]
  obtain ⟨-, hresult⟩ := run_audited ctx peer "POP3 command: " "POP3 command: QUIT" line
    (pop3Answer base64 ctx session line) input
  rw [hanswer] at hresult
  rw [handlePop3Line, hanswer]
  exact hresult

theorem result_quit (hcustom : pop3Custom ctx line = none) (hquit : (pop3Command line).1 = "QUIT")
    (hline : (trim line).isEmpty = false) :
    ((handlePop3Line base64 ctx peer session line).run input).2 = some (none, input) := by
  have hanswer : pop3Answer base64 ctx session line = (do
      writeLine "+OK Bye"
      return .closed "pop3_command") := by
    rw [pop3Answer, hline, if_neg Bool.false_ne_true, hcustom]
    exact if_pos hquit
  obtain ⟨-, hresult⟩ := run_audited ctx peer "POP3 command: " "POP3 command: QUIT" line
    (pop3Answer base64 ctx session line) input
  rw [hanswer] at hresult
  rw [handlePop3Line, hanswer]
  exact hresult

theorem command_ne_of_blank {command : Text} (hline : (trim line).isEmpty = true)
    (hvisible : command.any (fun c => !isWhitespace c) = true) :
    (pop3Command line).1 ≠ command := by
  rintro rfl
  rw [isEmpty_trim_of_command hvisible] at hline
  exact Bool.false_ne_true hline

/-- A built-in reply to a line keeps the marks those of the messages deleted. -/
theorem tracks_replied {count : ℕ} {history : List Exchange} {exchange : Exchange}
    {session' : Pop3Session} {eventType : Text} {rest : List ReceivedLine}
    (h : Tracks count history session)
    (hreply : exchange.reply = (written ((pop3Reply base64 ctx session
      (pop3Command exchange.line).1 (pop3Command exchange.line).2).run input).1).flatten)
    (hrun : ((pop3Reply base64 ctx session
      (pop3Command exchange.line).1 (pop3Command exchange.line).2).run input).2 =
        some ((session', eventType), rest)) : Tracks count (exchange :: history) session' := by
  by_cases hrset : (pop3Command exchange.line).1 = "RSET"
  · rw [hrset, pop3Reply_rset, run_reply] at hrun
    cases hrun
    exact h.reset hrset
  by_cases hdele : (pop3Command exchange.line).1 = "DELE"
  · rw [hdele] at hrun hreply
    obtain ⟨index, -, hindex, hlt, hsucceeded, hresult⟩ | ⟨-, hrefused, hresult⟩ :=
      run_dele base64 ctx session (pop3Command exchange.line).2 input
    · rw [hresult] at hrun
      cases hrun
      rw [← hreply] at hsucceeded
      rw [h.length] at hlt
      exact h.delete hlt (Exchange.deleted_of_succeeded hdele hsucceeded hindex) hrset
    · rw [hresult] at hrun
      cases hrun
      rw [← hreply] at hrefused
      exact h.same rfl (Exchange.deleted_of_refused hrefused) hrset
  · have hkept := (deleted_pop3Reply base64 hdele hrset _).of_run hrun
    exact h.same hkept (Exchange.deleted_of_ne hdele) hrset

theorem tracks_answered {count : ℕ} {history : List Exchange} {session' : Pop3Session}
    {rest : List ReceivedLine} (h : Tracks count history session)
    (hcustom : pop3Custom ctx line = none)
    (hturn : ((handlePop3Line base64 ctx peer session line).run input).2 =
      some (some session', rest)) :
    Tracks count (⟨line, lineReply (handlePop3Line base64 ctx peer) session line input⟩ :: history)
      session' := by
  cases hline : (trim line).isEmpty with
  | true =>
    rw [result_blank base64 peer hline] at hturn
    cases hturn
    exact h.same rfl (Exchange.deleted_of_ne (command_ne_of_blank hline rfl))
      (command_ne_of_blank hline rfl)
  | false =>
    have hquit : (pop3Command line).1 ≠ "QUIT" := by
      intro hquit
      simp [result_quit base64 peer hcustom hquit hline] at hturn
    obtain ⟨hreply, hresult⟩ := pop3Line_builtin base64 peer hcustom hline hquit session input
    rw [hresult] at hturn
    obtain ⟨⟨⟨_, eventType⟩, _⟩, hrun, hnext⟩ := Option.map_eq_some_iff.mp hturn
    cases hnext
    exact tracks_replied base64 h hreply hrun

/-- Whatever was said, the marks in the session are those of the messages deleted since the last
RSET. -/
theorem tracks_of_reaches {history : List Exchange} {rest : List ReceivedLine}
    (h : Reaches (handlePop3Line base64 ctx peer)
      (Pop3Session.new ctx.requireAuth ctx.messages.length) input history session rest)
    (hcustom : ∀ exchange ∈ history, pop3Custom ctx exchange.line = none) :
    Tracks ctx.messages.length history session := by
  induction h with
  | started => exact tracks_new ctx.requireAuth ctx.messages.length
  | answered h hturn ih =>
    have hline := hcustom _ List.mem_cons_self
    have htracks := ih fun exchange hexchange => hcustom exchange (List.mem_cons_of_mem _ hexchange)
    exact tracks_answered base64 peer htracks hline hturn

end Base64

end ProtocolSimulation.Engine
