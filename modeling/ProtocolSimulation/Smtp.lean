import ProtocolSimulation.MailCommon

/-!
# The SMTP simulation

One line is answered at a time. AUTH and DATA read further lines before they are
answered; those lines are not commands and are not reported.
-/
namespace ProtocolSimulation.Engine

open ProtocolSimulation.Texts ProtocolSimulation.Conversations ProtocolSimulation.RuntimeEvents

abbrev SmtpContext := SimulationContext SimSmtpConfig

structure SmtpSession where
  authed : Bool
  mailFrom : Option Text
  rcptTo : List Text

namespace SmtpSession

def new (requireAuth : Bool) : SmtpSession := ⟨!requireAuth, none, []⟩

def resetTransaction (session : SmtpSession) : SmtpSession :=
  { session with mailFrom := none, rcptTo := [] }

end SmtpSession

def smtpCommand (line : Text) : Text × Text :=
  match splitOnce ' ' line with
  | some (command, args) => (command, trim args)
  | none => (line, [])

def writeCapabilities (hostname : Text) (capabilities : List Text) : Session Unit := do
  writeLine (("250-" : Text) ++ hostname)
  writeLines (capabilities.map fun capability => ("250-" : Text) ++ capability)
  writeLine "250 AUTH PLAIN LOGIN"

namespace SmtpContext

variable (ctx : SmtpContext)

def hostname : Text := ctx.config.hostname.getD "mail.seclab.local"

def capabilities : List Text :=
  ctx.config.capabilities.getD ["PIPELINING", "SIZE 52428800", "8BITMIME"]

def requireAuth : Bool := ctx.config.requireAuth.getD false

def credentials : List MailCredential := ctx.config.credentials.getD []

end SmtpContext

section Base64

variable (base64 : Text → Option Bytes)

/-- The user name of AUTH LOGIN, asked for unless it came with the command. -/
def authLoginUsername (firstArg : Text) : Session (Option Text) :=
  if firstArg.isEmpty then do
    writeLine "334 VXNlcm5hbWU6"
    readLine
  else return some firstArg

def handleAuthLogin (credentials : List MailCredential) (firstArg : Text) : Session Bool := do
  match ← authLoginUsername firstArg with
  | none => return false
  | some username =>
    writeLine "334 UGFzc3dvcmQ6"
    match ← readLine with
    | none => return false
    | some passwordLine =>
      return credentialsMatch credentials ((decodeBase64Text base64 username).getD [])
        ((decodeBase64Text base64 passwordLine).getD [])

/-- The payload of AUTH PLAIN, asked for unless it came with the command. -/
def authPlainValue (initial : Text) : Session Text :=
  if initial.isEmpty then do
    writeLine "334 "
    return (← readLine).getD []
  else return initial

/-- AUTH with one of the mechanisms PLAIN and LOGIN. -/
def smtpAuthenticate (credentials : List MailCredential) (args : Text) : Session Bool :=
  let parts := splitWhitespace args
  let mechanism := toAsciiUppercase (parts.head?.getD [])
  let initial := parts.tail.head?.getD []
  if mechanism = "PLAIN" then do
    let authValue ← authPlainValue initial
    return ((decodeAuthPlain base64 authValue).map fun (user, pass) =>
      credentialsMatch credentials user pass).getD false
  else if mechanism = "LOGIN" then handleAuthLogin base64 credentials initial
  else return false

/-- The lines of a message up to a single dot, as the sum of their lengths. -/
def readData : Session ℕ :=
  Talk.forEach
    (fun bytes raw => do
      let dataLine ← received raw
      if dataLine = "." then return .inr bytes else return .inl (bytes + byteLen dataLine))
    id 0

/-- The built-in commands but QUIT: the session afterwards and the event type. -/
def smtpReply (ctx : SmtpContext) (session : SmtpSession) (upper args : Text) :
    Session (SmtpSession × Text) :=
  if upper = "EHLO" then do
    writeCapabilities ctx.hostname ctx.capabilities
    return (session, "smtp_command")
  else if upper = "HELO" then do
    writeLine (("250 " : Text) ++ ctx.hostname)
    return (session, "smtp_command")
  else if upper = "AUTH" then do
    let ok ← smtpAuthenticate base64 ctx.credentials args
    writeLine (if ok then "235 2.7.0 Authentication successful"
      else "535 5.7.8 Authentication credentials invalid")
    return ({ session with authed := ok }, "auth_attempt")
  else if upper = "MAIL" then
    if ctx.requireAuth && !session.authed then do
      writeLine "530 5.7.0 Authentication required"
      return (session, "smtp_command")
    else if (stripPrefix "FROM:" (toAsciiUppercase args)).isSome then do
      writeLine "250 2.1.0 Sender OK"
      return ({ session with mailFrom := some args }, "smtp_command")
    else do
      writeLine "501 5.5.4 Syntax: MAIL FROM:<address>"
      return (session, "smtp_command")
  else if upper = "RCPT" then
    let allowed := ctx.config.acceptedRecipients.getD []
    let allowedMatch := allowed.isEmpty || allowed.any fun item =>
      contains (toAsciiLowercase args) (toAsciiLowercase item)
    if session.mailFrom.isNone then do
      writeLine "503 5.5.1 Need MAIL before RCPT"
      return (session, "smtp_command")
    else if allowedMatch then do
      writeLine "250 2.1.5 Recipient OK"
      return ({ session with rcptTo := session.rcptTo ++ [args] }, "smtp_command")
    else do
      writeLine "550 5.1.1 User unknown"
      return (session, "exploit_attempt")
  else if upper = "DATA" then
    if session.rcptTo.isEmpty then do
      writeLine "503 5.5.1 Need RCPT before DATA"
      return (session, "smtp_command")
    else do
      writeLine "354 End data with <CR><LF>.<CR><LF>"
      let bytes ← readData
      writeLine (("250 2.0.0 Message accepted for delivery (" : Text) ++ showNat bytes ++
        (" bytes)" : Text))
      return (session.resetTransaction, "exploit_attempt")
  else if upper = "RSET" then do
    writeLine "250 2.0.0 Reset state"
    return (session.resetTransaction, "smtp_command")
  else if upper = "VRFY" ∨ upper = "EXPN" then do
    writeLine "252 2.5.2 Cannot VRFY user, but will accept message"
    return (session, "exploit_attempt")
  else if upper = "NOOP" then do
    writeLine "250 2.0.0 OK"
    return (session, "smtp_command")
  else do
    writeLine "500 5.5.2 Command unrecognized"
    return (session, "smtp_command")

def smtpCustom (ctx : SmtpContext) (line : Text) : Option (Text × Text) :=
  customResponse ctx.config.customResponses (toAsciiUppercase (smtpCommand line).1) line
    "smtp_command"

/-- The answer to a line: nothing to a blank one, a custom response if there is one, else the
built-in reply. -/
def smtpAnswer (ctx : SmtpContext) (session : SmtpSession) (line : Text) :
    Session (Handled SmtpSession) :=
  if (trim line).isEmpty then return .ignored session
  else
    let (command, args) := smtpCommand line
    let upper := toAsciiUppercase command
    customOr (smtpCustom ctx line) id session
      (if upper = "QUIT" then do
        writeLine "221 2.0.0 Bye"
        return .closed "smtp_command"
      else do
        let (session, eventType) ← smtpReply base64 ctx session upper args
        return .logged session eventType)

/-- One round of the loop of a connection. -/
def handleSmtpLine (ctx : SmtpContext) (peer : SocketAddr) (session : SmtpSession) (line : Text) :
    Session (Option SmtpSession) := do
  audit (reportMailCommand ctx peer) "SMTP command: " "SMTP command: QUIT" line
    (← smtpAnswer base64 ctx session line)

def handleSmtpConnection (ctx : SmtpContext) (peer : SocketAddr) : Session Unit := do
  let banner := ctx.config.banner.getD (ctx.hostname ++ (" ESMTP SecLab Mail Gateway" : Text))
  writeLine (("220 " : Text) ++ banner)
  reportMailConnection ctx peer "SMTP"
  serveLines (handleSmtpLine base64 ctx peer) (SmtpSession.new ctx.requireAuth)

/-! ## What is reported -/

theorem silent_handleAuthLogin (credentials : List MailCredential) (firstArg : Text) :
    Silent (fun _ => True) (handleAuthLogin base64 credentials firstArg) := by
  have husername : Silent (fun _ => True) (authLoginUsername firstArg) :=
    silent_ite (fun _ => silent_writeLine.bind fun _ _ => silent_readLine) fun _ =>
      silent_ret trivial
  refine husername.bind fun username _ => ?_
  cases username with
  | none => exact silent_ret trivial
  | some username =>
    refine silent_writeLine.bind fun _ _ => silent_readLine.bind fun passwordLine _ => ?_
    cases passwordLine <;> exact silent_ret trivial

theorem silent_smtpAuthenticate (credentials : List MailCredential) (args : Text) :
    Silent (fun _ => True) (smtpAuthenticate base64 credentials args) := by
  refine silent_ite (fun _ => ?_) fun _ => silent_ite (fun _ => ?_) fun _ => silent_ret trivial
  · have hvalue : ∀ initial, Silent (fun _ => True) (authPlainValue initial) := fun _ =>
      silent_ite (fun _ => silent_writeLine.bind fun _ _ =>
        silent_readLine.bind fun _ _ => silent_ret trivial) fun _ => silent_ret trivial
    exact (hvalue _).bind fun _ _ => silent_ret trivial
  · exact silent_handleAuthLogin base64 credentials _

theorem silent_readData : Silent (fun _ => True) readData := by
  refine Talk.says_forEach (I := fun _ => True) ?_ (fun _ _ => trivial) trivial
  intro bytes raw _ _
  refine silent_received.bind fun dataLine _ => ?_
  exact silent_ite (fun _ => silent_ret trivial) fun _ => silent_ret trivial

theorem validEventType_smtpCommand : validEventType "smtp_command" = true := by decide

theorem silent_smtpReply (ctx : SmtpContext) (session : SmtpSession) (upper args : Text) :
    Silent (fun r => validEventType r.2 = true) (smtpReply base64 ctx session upper args) := by
  have hplain := validEventType_smtpCommand
  have hexploit := validEventType_exploitAttempt
  unfold smtpReply
  refine silent_ite (fun _ => ?ehlo) fun _ => silent_ite (fun _ => silent_reply hplain) fun _ =>
    silent_ite (fun _ => ?auth) fun _ => silent_ite (fun _ => ?mail) fun _ =>
    silent_ite (fun _ => ?rcpt) fun _ => silent_ite (fun _ => ?data) fun _ =>
    silent_ite (fun _ => silent_reply hplain) fun _ =>
    silent_ite (fun _ => silent_reply hexploit) fun _ =>
    silent_ite (fun _ => silent_reply hplain) fun _ => silent_reply hplain
  case ehlo =>
    have hcapabilities : Silent (fun _ => True) (writeCapabilities ctx.hostname ctx.capabilities) :=
      silent_writeLine.bind fun _ _ => (silent_writeLines _).bind fun _ _ => silent_writeLine
    exact hcapabilities.bind fun _ _ => silent_ret hplain
  case auth =>
    exact (silent_smtpAuthenticate base64 _ args).bind fun _ _ =>
      silent_reply validEventType_authAttempt
  case mail =>
    exact silent_ite (fun _ => silent_reply hplain) fun _ =>
      silent_ite (fun _ => silent_reply hplain) fun _ => silent_reply hplain
  case rcpt =>
    exact silent_ite (fun _ => silent_reply hplain) fun _ =>
      silent_ite (fun _ => silent_reply hplain) fun _ => silent_reply hexploit
  case data =>
    refine silent_ite (fun _ => silent_reply hplain) fun _ => ?_
    exact silent_writeLine.bind fun _ _ => silent_readData.bind fun _ _ => silent_reply hexploit

theorem silent_smtpAnswer (ctx : SmtpContext) (session : SmtpSession) (line : Text) :
    Silent (Handled.Judged (CustomTypeValid (smtpCustom ctx line))
        (smtpCustom ctx line = none ∧ toAsciiUppercase (smtpCommand line).1 = "QUIT"))
      (smtpAnswer base64 ctx session line) := by
  refine silent_ite (fun _ => silent_ret trivial) fun _ => silent_customOr ?_
  refine silent_ite (fun hquit => silent_reply ⟨?_, hquit⟩) fun hquit => ?_
  · exact iff_true_intro validEventType_smtpCommand
  · refine (silent_smtpReply base64 ctx session _ _).bind fun r hr => silent_ret ⟨?_, hquit⟩
    exact iff_true_intro hr

end Base64

end ProtocolSimulation.Engine
