import ProtocolSimulation.MailCommon

/-!
# The POP3 simulation

Messages are numbered from one for the client and from zero in the session, which
marks the deleted ones.
-/
namespace ProtocolSimulation.Engine

open ProtocolSimulation.Texts ProtocolSimulation.Conversations ProtocolSimulation.RuntimeEvents

abbrev Pop3Context := SimulationContext SimPop3Config

/-- `deleted` has a one for each message that was deleted, and a zero for each other. -/
structure Pop3Session where
  username : Option Text
  authed : Bool
  deleted : List ℕ

namespace Pop3Session

def new (requireAuth : Bool) (messageCount : ℕ) : Pop3Session :=
  ⟨none, !requireAuth, List.replicate messageCount 0⟩

def isDeleted (session : Pop3Session) (index : ℕ) : Bool := (session.deleted[index]?).getD 0 == 1

end Pop3Session

def pop3MessageSize (message : MailMessage) : ℕ := byteLen (rfc822Message message)

/-- The messages that are not deleted, each with its index. -/
def visibleMessages (messages : List MailMessage) (session : Pop3Session) :
    List (ℕ × MailMessage) :=
  (messages.zipIdx.map fun (message, index) => (index, message)).filter fun (index, _) =>
    !session.isDeleted index

/-- The message at an index, unless it is deleted. -/
def visibleMessage (messages : List MailMessage) (session : Pop3Session) (index : ℕ) :
    Option MailMessage :=
  (messages[index]?).filter fun _ => !session.isDeleted index

/-- The message number in the arguments, counted from zero. -/
def parseIndex (args : Text) : Option ℕ := do
  let value ← parseUsize (← (splitWhitespace args).head?)
  if 0 < value then return value - 1 else none

def pop3Command (line : Text) : Text × Text :=
  match splitOnce ' ' line with
  | some (command, args) => (toAsciiUppercase command, trim args)
  | none => (toAsciiUppercase line, [])

namespace Pop3Context

variable (ctx : Pop3Context)

def messages : List MailMessage := ctx.config.messages.getD []

def credentials : List MailCredential := ctx.config.credentials.getD []

def requireAuth : Bool := ctx.config.requireAuth.getD false

end Pop3Context

def ensureAuth (session : Pop3Session) : Session Bool :=
  if session.authed then return true
  else do
    writeLine "-ERR Authentication required"
    return false

/-- A command for authenticated clients only: the event type, or the plain one if refused. -/
def whenAuthed (session : Pop3Session) (body : Session (Pop3Session × Text)) :
    Session (Pop3Session × Text) := do
  if ← ensureAuth session then body else return (session, "pop3_command")

theorem whenAuthed_of_authed {session : Pop3Session} (h : session.authed = true)
    (body : Session (Pop3Session × Text)) : whenAuthed session body = body := by
  rw [whenAuthed, ensureAuth, if_pos h]
  rfl

theorem whenAuthed_eq {session : Pop3Session} {body : Session (Pop3Session × Text)}
    (h : session.authed = false) : whenAuthed session body = do
      writeLine "-ERR Authentication required"
      return (session, "pop3_command") := by
  rw [whenAuthed, ensureAuth, h, if_neg (by simp), Talk.bind_assoc]
  rfl

/-- The lines about all the visible messages, or the one about the message asked for. -/
def writeListing (messages : List MailMessage) (session : Pop3Session) (args header : Text)
    (describe : MailMessage → Text) : Session Unit :=
  let entry (index : ℕ) (message : MailMessage) : Text :=
    showNat (index + 1) ++ (" " : Text) ++ describe message
  match parseIndex args with
  | some index =>
    match visibleMessage messages session index with
    | some message => writeLine (("+OK " : Text) ++ entry index message)
    | none => writeLine "-ERR No such message"
  | none => do
    writeLine header
    writeLines ((visibleMessages messages session).map fun (index, message) => entry index message)
    writeLine "."

section Base64

variable (base64 : Text → Option Bytes)

/-- AUTH: is the session authenticated afterwards? -/
def pop3Authenticate (credentials : List MailCredential) (authed : Bool) (args : Text) :
    Session Bool :=
  let parts := splitWhitespace args
  let mechanism := toAsciiUppercase (parts.head?.getD [])
  let initial := parts.tail.head?.getD []
  let check (value : Text) : Bool :=
    ((decodeAuthPlain base64 value).map fun (username, password) =>
      credentialsMatch credentials username password).getD authed
  if mechanism = "PLAIN" then
    if initial.isEmpty then do
      writeLine "+"
      match ← readLine with
      | some authLine => return check authLine
      | none => return authed
    else return check initial
  else return authed

/-- The built-in commands but QUIT: the session afterwards and the event type. -/
def pop3Reply (ctx : Pop3Context) (session : Pop3Session) (command args : Text) :
    Session (Pop3Session × Text) :=
  if command = "CAPA" then do
    writeLine "+OK Capability list follows"
    writeLines (ctx.config.capabilities.getD ["USER", "UIDL", "TOP"])
    writeLine "."
    return (session, "pop3_command")
  else if command = "USER" then do
    writeLine "+OK User accepted"
    return ({ session with username := some args }, "auth_attempt")
  else if command = "PASS" then do
    let authed := credentialsMatch ctx.credentials (session.username.getD []) args
    writeLine (if authed then "+OK Mailbox locked and ready" else "-ERR Invalid credentials")
    return ({ session with authed }, "auth_attempt")
  else if command = "AUTH" then do
    let authed ← pop3Authenticate base64 ctx.credentials session.authed args
    writeLine (if authed then "+OK Authentication successful" else "-ERR Authentication failed")
    return ({ session with authed }, "auth_attempt")
  else if command = "STAT" then
    whenAuthed session do
      let visible := visibleMessages ctx.messages session
      let size := (visible.map fun (_, message) => pop3MessageSize message).sum
      writeLine (("+OK " : Text) ++ showNat visible.length ++ (" " : Text) ++ showNat size)
      return (session, "pop3_command")
  else if command = "LIST" then
    whenAuthed session do
      writeListing ctx.messages session args "+OK Scan listing follows" fun message =>
        showNat (pop3MessageSize message)
      return (session, "pop3_command")
  else if command = "UIDL" then
    whenAuthed session do
      writeListing ctx.messages session args "+OK Unique-ID listing follows" fun message =>
        message.uid.getD "seclab-uid"
      return (session, "pop3_command")
  else if command = "RETR" ∨ command = "TOP" then
    whenAuthed session do
      match parseIndex args with
      | some index =>
        match visibleMessage ctx.messages session index with
        | some message =>
          let body := rfc822Message message
          writeLine (("+OK " : Text) ++ showNat (byteLen body) ++ (" octets" : Text))
          writeRaw body
          writeLine "."
          return (session, "exploit_attempt")
        | none =>
          writeLine "-ERR No such message"
          return (session, "pop3_command")
      | none =>
        writeLine "-ERR Message number required"
        return (session, "pop3_command")
  else if command = "DELE" then
    whenAuthed session do
      match parseIndex args with
      | some index =>
        if index < session.deleted.length then do
          writeLine "+OK Message marked deleted"
          return ({ session with deleted := session.deleted.set index 1 }, "pop3_command")
        else do
          writeLine "-ERR No such message"
          return (session, "pop3_command")
      | none =>
        writeLine "-ERR Message number required"
        return (session, "pop3_command")
  else if command = "RSET" then do
    writeLine "+OK Reset state"
    return ({ session with deleted := session.deleted.map fun _ => 0 }, "pop3_command")
  else if command = "NOOP" then do
    writeLine "+OK"
    return (session, "pop3_command")
  else do
    writeLine "-ERR Unknown command"
    return (session, "pop3_command")

def pop3Custom (ctx : Pop3Context) (line : Text) : Option (Text × Text) :=
  customResponse ctx.config.customResponses (pop3Command line).1 line "pop3_command"

/-- The answer to a line: nothing to a blank one, a custom response if there is one, else the
built-in reply. -/
def pop3Answer (ctx : Pop3Context) (session : Pop3Session) (line : Text) :
    Session (Handled Pop3Session) :=
  if (trim line).isEmpty then return .ignored session
  else
    let (command, args) := pop3Command line
    customOr (pop3Custom ctx line) id session
      (if command = "QUIT" then do
        writeLine "+OK Bye"
        return .closed "pop3_command"
      else do
        let (session, eventType) ← pop3Reply base64 ctx session command args
        return .logged session eventType)

/-- One round of the loop of a connection. -/
def handlePop3Line (ctx : Pop3Context) (peer : SocketAddr) (session : Pop3Session) (line : Text) :
    Session (Option Pop3Session) := do
  audit (reportMailCommand ctx peer) "POP3 command: " "POP3 command: QUIT" line
    (← pop3Answer base64 ctx session line)

def handlePop3Connection (ctx : Pop3Context) (peer : SocketAddr) : Session Unit := do
  writeLine (("+OK " : Text) ++ ctx.config.banner.getD "SecLab POP3 service ready")
  reportMailConnection ctx peer "POP3"
  serveLines (handlePop3Line base64 ctx peer)
    (Pop3Session.new ctx.requireAuth ctx.messages.length)

/-! ## What is reported -/

theorem validEventType_pop3Command : validEventType "pop3_command" = true := by decide

theorem silent_whenAuthed {session : Pop3Session} {body : Session (Pop3Session × Text)}
    (h : Silent (fun r => validEventType r.2 = true) body) :
    Silent (fun r => validEventType r.2 = true) (whenAuthed session body) := by
  have hauth : Silent (fun _ => True) (ensureAuth session) :=
    silent_ite (fun _ => silent_ret trivial) fun _ => silent_reply trivial
  exact hauth.bind fun _ _ =>
    silent_ite (fun _ => h) fun _ => silent_ret validEventType_pop3Command

theorem silent_writeListing (messages : List MailMessage) (session : Pop3Session)
    (args header : Text) (describe : MailMessage → Text) :
    Silent (fun _ => True) (writeListing messages session args header describe) := by
  unfold writeListing
  split
  · split <;> exact silent_writeLine
  · exact silent_writeLine.bind fun _ _ => (silent_writeLines _).bind fun _ _ => silent_writeLine

theorem silent_pop3Authenticate (credentials : List MailCredential) (authed : Bool) (args : Text) :
    Silent (fun _ => True) (pop3Authenticate base64 credentials authed args) := by
  refine silent_ite (fun _ => silent_ite (fun _ => ?_) fun _ => silent_ret trivial) fun _ =>
    silent_ret trivial
  refine silent_writeLine.bind fun _ _ => silent_readLine.bind fun authLine _ => ?_
  cases authLine <;> exact silent_ret trivial

theorem silent_pop3Reply (ctx : Pop3Context) (session : Pop3Session) (command args : Text) :
    Silent (fun r => validEventType r.2 = true) (pop3Reply base64 ctx session command args) := by
  have hplain := validEventType_pop3Command
  have hauth := validEventType_authAttempt
  have hlisting (header : Text) (describe : MailMessage → Text) :
      Silent (fun r => validEventType r.2 = true) (do
        writeListing ctx.messages session args header describe
        return (session, ("pop3_command" : Text))) :=
    (silent_writeListing _ _ _ _ _).bind fun _ _ => silent_ret hplain
  refine silent_ite (fun _ => ?capa) fun _ => silent_ite (fun _ => silent_reply hauth) fun _ =>
    silent_ite (fun _ => silent_reply hauth) fun _ => silent_ite (fun _ => ?auth) fun _ =>
    silent_ite (fun _ => silent_whenAuthed (silent_reply hplain)) fun _ =>
    silent_ite (fun _ => silent_whenAuthed (hlisting _ _)) fun _ =>
    silent_ite (fun _ => silent_whenAuthed (hlisting _ _)) fun _ =>
    silent_ite (fun _ => silent_whenAuthed ?retr) fun _ =>
    silent_ite (fun _ => silent_whenAuthed ?dele) fun _ =>
    silent_ite (fun _ => silent_reply hplain) fun _ =>
    silent_ite (fun _ => silent_reply hplain) fun _ => silent_reply hplain
  case capa =>
    exact silent_writeLine.bind fun _ _ => (silent_writeLines _).bind fun _ _ => silent_reply hplain
  case auth =>
    exact (silent_pop3Authenticate base64 _ _ args).bind fun _ _ => silent_reply hauth
  case retr =>
    split
    · split
      · exact silent_writeLine.bind fun _ _ => silent_writeRaw.bind fun _ _ =>
          silent_reply validEventType_exploitAttempt
      · exact silent_reply hplain
    · exact silent_reply hplain
  case dele =>
    split
    · exact silent_ite (fun _ => silent_reply hplain) fun _ => silent_reply hplain
    · exact silent_reply hplain

theorem silent_pop3Answer (ctx : Pop3Context) (session : Pop3Session) (line : Text) :
    Silent (Handled.Judged (CustomTypeValid (pop3Custom ctx line))
        (pop3Custom ctx line = none ∧ (pop3Command line).1 = "QUIT"))
      (pop3Answer base64 ctx session line) := by
  refine silent_ite (fun _ => silent_ret trivial) fun _ => silent_customOr ?_
  refine silent_ite (fun hquit => silent_reply ⟨?_, hquit⟩) fun hquit => ?_
  · exact iff_true_intro validEventType_pop3Command
  · refine (silent_pop3Reply base64 ctx session _ _).bind fun r hr => silent_ret ⟨?_, hquit⟩
    exact iff_true_intro hr

end Base64

end ProtocolSimulation.Engine
