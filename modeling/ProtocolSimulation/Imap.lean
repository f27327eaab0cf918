import ProtocolSimulation.MailCommon

/-!
# The IMAP simulation

A command line opens with the client's tag, which the final line of its answer
repeats. The messages are those of the inbox, whatever mailbox is selected.
-/
namespace ProtocolSimulation.Engine

open ProtocolSimulation.Texts ProtocolSimulation.Conversations ProtocolSimulation.RuntimeEvents

abbrev ImapContext := SimulationContext SimImapConfig

structure ImapSession where
  authed : Bool
  selectedMailbox : Option Text

def defaultMailboxMessages (config : SimImapConfig) : List MailMessage :=
  ((config.mailboxes.bind fun items => items.get "INBOX").or config.messages).getD []

def imapCapabilities (config : SimImapConfig) : Text :=
  joinWith " " (config.capabilities.getD ["IMAP4rev1", "UIDPLUS", "AUTH=PLAIN"])

/-- The tag, the command in upper case and its arguments. -/
def parseImapLine (line : Text) : Option (Text × Text × Text) :=
  match splitn 3 ' ' line with
  | tag :: command :: rest => some (tag, toAsciiUppercase command, trim (rest.head?.getD []))
  | _ => none

namespace ImapContext

variable (ctx : ImapContext)

def messages : List MailMessage := defaultMailboxMessages ctx.config

def credentials : List MailCredential := ctx.config.credentials.getD []

def requireAuth : Bool := ctx.config.requireAuth.getD false

end ImapContext

/-- A line that ends the answer to the command with the tag. -/
def writeTagged (tag status : Text) : Session Unit := writeLine (tag ++ (" " : Text) ++ status)

def requireImapAuth (tag : Text) (session : ImapSession) : Session Bool :=
  if session.authed then return true
  else do
    writeTagged tag "NO Authentication required"
    return false

/-- A command for authenticated clients only: the event type, or the plain one if refused. -/
def whenImapAuthed (tag : Text) (session : ImapSession) (body : Session (ImapSession × Text)) :
    Session (ImapSession × Text) := do
  if ← requireImapAuth tag session then body else return (session, "imap_command")

theorem whenImapAuthed_of_authed {tag : Text} {session : ImapSession} (h : session.authed = true)
    (body : Session (ImapSession × Text)) : whenImapAuthed tag session body = body := by
  rw [whenImapAuthed, requireImapAuth, if_pos h]
  rfl

def writeFetchResponse (tag : Text) (sequence : ℕ) (message : MailMessage) : Session Unit := do
  let body := rfc822Message message
  let size := showNat (byteLen body)
  writeRaw (("* " : Text) ++ showNat sequence ++ (" FETCH (UID " : Text) ++ message.uid.getD "1" ++
    (" FLAGS " : Text) ++ imapFlags message ++ (" RFC822.SIZE " : Text) ++ size ++
    (" BODY[] \x7b" : Text) ++ size ++ ("\x7d\r\n" : Text) ++ body)
  writeLine ")"
  writeTagged tag "OK FETCH completed"

/-- The message found, if there is one. -/
def writeFetched (tag : Text) (sequence : ℕ) : Option MailMessage → Session Unit
  | some message => writeFetchResponse tag sequence message
  | none => writeTagged tag "NO No such message"

section Base64

variable (base64 : Text → Option Bytes)

/-- AUTHENTICATE: is the session authenticated afterwards? -/
def imapAuthenticate (credentials : List MailCredential) (authed : Bool) (args : Text) :
    Session Bool :=
  if eqIgnoreAsciiCase args "PLAIN" then do
    writeLine "+"
    match ← readLine with
    | some authLine =>
      return ((decodeAuthPlain base64 authLine).map fun (username, password) =>
        credentialsMatch credentials username password).getD authed
    | none => return authed
  else return authed

/-- The built-in commands but LOGOUT: the session afterwards and the event type. -/
def imapReply (ctx : ImapContext) (session : ImapSession) (tag command args : Text) :
    Session (ImapSession × Text) :=
  if command = "CAPABILITY" then do
    writeLine (("* CAPABILITY " : Text) ++ imapCapabilities ctx.config)
    writeTagged tag "OK CAPABILITY completed"
    return (session, "imap_command")
  else if command = "NOOP" then do
    writeTagged tag "OK NOOP completed"
    return (session, "imap_command")
  else if command = "LOGIN" then do
    let parts := splitWhitespace args
    let username := trimMatches (· == '"') (parts.head?.getD [])
    let password := trimMatches (· == '"') (parts.tail.head?.getD [])
    let authed := credentialsMatch ctx.credentials username password
    writeTagged tag (if authed then "OK LOGIN completed" else "NO LOGIN failed")
    return ({ session with authed }, "auth_attempt")
  else if command = "AUTHENTICATE" then do
    let authed ← imapAuthenticate base64 ctx.credentials session.authed args
    writeTagged tag (if authed then "OK AUTHENTICATE completed" else "NO AUTHENTICATE failed")
    return ({ session with authed }, "auth_attempt")
  else if command = "LIST" ∨ command = "LSUB" then
    whenImapAuthed tag session do
      let names := ((ctx.config.mailboxes.map BTreeMap.keys).getD []).filter fun name : Text =>
        name ≠ "INBOX"
      writeLine "* LIST (\\HasNoChildren) \"/\" \"INBOX\""
      writeLines (names.map fun name =>
        ("* LIST (\\HasNoChildren) \"/\" \"" : Text) ++ name ++ ("\"" : Text))
      writeTagged tag "OK LIST completed"
      return (session, "imap_command")
  else if command = "STATUS" then
    whenImapAuthed tag session do
      let count := showNat ctx.messages.length
      writeLine (("* STATUS INBOX (MESSAGES " : Text) ++ count ++ (" UNSEEN " : Text) ++ count ++
        (" UIDNEXT " : Text) ++ showNat (ctx.messages.length + 1) ++ (")" : Text))
      writeTagged tag "OK STATUS completed"
      return (session, "imap_command")
  else if command = "SELECT" ∨ command = "EXAMINE" then
    whenImapAuthed tag session do
      writeLine (("* " : Text) ++ showNat ctx.messages.length ++ (" EXISTS" : Text))
      writeLine "* FLAGS (\\Seen \\Answered \\Flagged \\Deleted \\Draft)"
      writeTagged tag (("OK [" : Text) ++ command ++ ("] completed" : Text))
      return ({ session with selectedMailbox := some (trimMatches (· == '"') args) },
        "imap_command")
  else if command = "SEARCH" then
    whenImapAuthed tag session do
      let ids := (List.range ctx.messages.length).map fun value => showNat (value + 1)
      writeLine (("* SEARCH " : Text) ++ joinWith " " ids)
      writeTagged tag "OK SEARCH completed"
      return (session, "imap_command")
  else if command = "FETCH" then
    whenImapAuthed tag session do
      let index := (((splitWhitespace args).head?.bind parseUsize).getD 1) - 1
      writeFetched tag (index + 1) ctx.messages[index]?
      return (session, "exploit_attempt")
  else if command = "UID" then
    whenImapAuthed tag session do
      let uidParts := splitn 3 ' ' args
      if toAsciiUppercase (uidParts.head?.getD []) = "FETCH" then do
        let uid : Text := uidParts.tail.head?.getD "1"
        let found := (ctx.messages.find? fun message => message.uid = some uid).or
          ctx.messages.head?
        writeFetched tag 1 found
        return (session, "exploit_attempt")
      else do
        writeTagged tag "BAD Unsupported UID command"
        return (session, "imap_command")
  else if command = "STORE" then
    whenImapAuthed tag session do
      writeTagged tag "OK STORE completed"
      return (session, "imap_command")
  else do
    writeTagged tag "BAD Unsupported command"
    return (session, "imap_command")

/-- The command of a line, if it has a tag and a command. -/
def imapCommand (line : Text) : Option Text :=
  (parseImapLine line).map fun (_, command, _) => command

def imapCustom (ctx : ImapContext) (line : Text) : Option (Text × Text) :=
  (imapCommand line).bind fun command =>
    customResponse ctx.config.customResponses command line "imap_command"

/-- The answer to a line: nothing to a blank one, a custom response if there is one, else the
built-in reply. A line without a tag and a command is answered but not reported. -/
def imapAnswer (ctx : ImapContext) (session : ImapSession) (line : Text) :
    Session (Handled ImapSession) :=
  if (trim line).isEmpty then return .ignored session
  else
    match parseImapLine line with
    | none => do
      writeLine "* BAD Invalid IMAP command"
      return .ignored session
    | some (tag, command, args) =>
      customOr (imapCustom ctx line) (replace "\x7btag\x7d" tag) session
        (if command = "LOGOUT" then do
          writeLine "* BYE Logging out"
          writeTagged tag "OK LOGOUT completed"
          return .closed "imap_command"
        else do
          let (session, eventType) ← imapReply base64 ctx session tag command args
          return .logged session eventType)

/-- One round of the loop of a connection. -/
def handleImapLine (ctx : ImapContext) (peer : SocketAddr) (session : ImapSession) (line : Text) :
    Session (Option ImapSession) := do
  audit (reportMailCommand ctx peer) "IMAP command: " "IMAP command: LOGOUT" line
    (← imapAnswer base64 ctx session line)

def handleImapConnection (ctx : ImapContext) (peer : SocketAddr) : Session Unit := do
  writeLine (("* OK " : Text) ++ ctx.config.banner.getD "SecLab IMAP service ready")
  reportMailConnection ctx peer "IMAP"
  serveLines (handleImapLine base64 ctx peer) ⟨!ctx.requireAuth, none⟩

/-! ## What is reported -/

theorem validEventType_imapCommand : validEventType "imap_command" = true := by decide

theorem silent_writeTagged {tag status : Text} :
    Silent (fun _ => True) (writeTagged tag status) := silent_writeLine

theorem silent_taggedReply {α : Type} {P : α → Prop} {tag status : Text} {a : α} (h : P a) :
    Silent P (do writeTagged tag status; return a) :=
  silent_writeTagged.bind fun _ _ => silent_ret h

theorem silent_whenImapAuthed {tag : Text} {session : ImapSession}
    {body : Session (ImapSession × Text)} (h : Silent (fun r => validEventType r.2 = true) body) :
    Silent (fun r => validEventType r.2 = true) (whenImapAuthed tag session body) := by
  have hauth : Silent (fun _ => True) (requireImapAuth tag session) :=
    silent_ite (fun _ => silent_ret trivial) fun _ => silent_taggedReply trivial
  exact hauth.bind fun _ _ =>
    silent_ite (fun _ => h) fun _ => silent_ret validEventType_imapCommand

theorem silent_writeFetched (tag : Text) (sequence : ℕ) (found : Option MailMessage) :
    Silent (fun _ => True) (writeFetched tag sequence found) := by
  cases found with
  | none => exact silent_writeTagged
  | some message =>
    exact silent_writeRaw.bind fun _ _ => silent_writeLine.bind fun _ _ => silent_writeTagged

theorem silent_imapAuthenticate (credentials : List MailCredential) (authed : Bool) (args : Text) :
    Silent (fun _ => True) (imapAuthenticate base64 credentials authed args) := by
  refine silent_ite (fun _ => ?_) fun _ => silent_ret trivial
  refine silent_writeLine.bind fun _ _ => silent_readLine.bind fun authLine _ => ?_
  cases authLine <;> exact silent_ret trivial

theorem silent_imapReply (ctx : ImapContext) (session : ImapSession) (tag command args : Text) :
    Silent (fun r => validEventType r.2 = true)
      (imapReply base64 ctx session tag command args) := by
  have hplain := validEventType_imapCommand
  have hauth := validEventType_authAttempt
  have hexploit := validEventType_exploitAttempt
  refine silent_ite (fun _ => silent_writeLine.bind fun _ _ => silent_taggedReply hplain) fun _ =>
    silent_ite (fun _ => silent_taggedReply hplain) fun _ =>
    silent_ite (fun _ => silent_taggedReply hauth) fun _ => silent_ite (fun _ => ?auth) fun _ =>
    silent_ite (fun _ => silent_whenImapAuthed ?list) fun _ =>
    silent_ite (fun _ => silent_whenImapAuthed ?status) fun _ =>
    silent_ite (fun _ => silent_whenImapAuthed ?select) fun _ =>
    silent_ite (fun _ => silent_whenImapAuthed ?search) fun _ =>
    silent_ite (fun _ => silent_whenImapAuthed ?fetch) fun _ =>
    silent_ite (fun _ => silent_whenImapAuthed ?uid) fun _ =>
    silent_ite (fun _ => silent_whenImapAuthed (silent_taggedReply hplain)) fun _ =>
    silent_taggedReply hplain
  case auth =>
    exact (silent_imapAuthenticate base64 _ _ args).bind fun _ _ => silent_taggedReply hauth
  case list =>
    exact silent_writeLine.bind fun _ _ => (silent_writeLines _).bind fun _ _ =>
      silent_taggedReply hplain
  case status => exact silent_writeLine.bind fun _ _ => silent_taggedReply hplain
  case select =>
    exact silent_writeLine.bind fun _ _ => silent_writeLine.bind fun _ _ =>
      silent_taggedReply hplain
  case search => exact silent_writeLine.bind fun _ _ => silent_taggedReply hplain
  case fetch => exact (silent_writeFetched _ _ _).bind fun _ _ => silent_ret hexploit
  case uid =>
    refine silent_ite (fun _ => ?_) fun _ => silent_taggedReply hplain
    exact (silent_writeFetched _ _ _).bind fun _ _ => silent_ret hexploit

theorem silent_imapAnswer (ctx : ImapContext) (session : ImapSession) (line : Text) :
    Silent (Handled.Judged (CustomTypeValid (imapCustom ctx line))
        (imapCustom ctx line = none ∧ imapCommand line = some "LOGOUT"))
      (imapAnswer base64 ctx session line) := by
  refine silent_ite (fun _ => silent_ret trivial) fun _ => ?_
  split
  · exact silent_reply trivial
  · next tag command args hline =>
    have hcommand : imapCommand line = some "LOGOUT" ↔ command = "LOGOUT" := by
      simp [imapCommand, hline]
    rw [hcommand]
    refine silent_customOr (silent_ite (fun hlogout => ?_) fun hlogout => ?_)
    · refine silent_writeLine.bind fun _ _ => silent_taggedReply ⟨?_, hlogout⟩
      exact iff_true_intro validEventType_imapCommand
    · refine (silent_imapReply base64 ctx session _ _ _).bind fun r hr => silent_ret ⟨?_, hlogout⟩
      exact iff_true_intro hr

end Base64

end ProtocolSimulation.Engine
