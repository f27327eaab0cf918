import ProtocolSimulation.LineSessions

/-!
# The FTP simulation

There is no data channel: commands that would use it are refused.
-/
namespace ProtocolSimulation.Engine

open ProtocolSimulation.Texts ProtocolSimulation.RuntimeEvents

abbrev FtpSimulationContext := SimulationContext SimFtpConfig

structure FtpSession where
  /-- The user name that was given, until a password comes. -/
  pendingUser : Option Text
  authed : Bool
  /-- The user name the session is authenticated as. -/
  username : Option Text

def FtpSession.new : FtpSession := ⟨none, false, none⟩

def DEFAULT_FTP_BANNER : Text := "ProFTPD 1.3.5e Server ready."

/-- Anonymous users need no password, where they are allowed. -/
def ftpCredentialsMatch (config : SimFtpConfig) (username password : Text) : Bool :=
  if config.allowAnonymous.getD false &&
      (eqIgnoreAsciiCase username "anonymous" || eqIgnoreAsciiCase username "ftp") then true
  else
    match config.credentials with
    | some credentials => credentials.any fun c => c.username = username && c.password = password
    | none => false

def reportFtpLog (ctx : FtpSimulationContext) (peer : SocketAddr)
    (eventType summary commandLine : Text) : Session Unit :=
  reportCommand ctx peer eventType summary commandLine

def ftpCommand (line : Text) : Text × Text :=
  match splitOnce ' ' line with
  | some (command, args) => (trim command, trim args)
  | none => (line, [])

/-- A command for authenticated clients only, with its reply and its event type. -/
def ftpWhenAuthed (session : FtpSession) (reply eventType : Text) : Session (FtpSession × Text) :=
  if !session.authed then do
    writeLine "530 Please login with USER and PASS."
    return (session, "ftp_command")
  else do
    writeLine reply
    return (session, eventType)

/-- The commands but QUIT: the session afterwards and the event type. -/
def ftpReply (ctx : FtpSimulationContext) (session : FtpSession) (upper args : Text) :
    Session (FtpSession × Text) :=
  if upper = "USER" then do
    writeLine (("331 Password required for " : Text) ++ args)
    return ({ session with pendingUser := some args, authed := false }, "auth_attempt")
  else if upper = "PASS" then
    let username := session.pendingUser.getD []
    if ftpCredentialsMatch ctx.config username args then do
      writeLine (("230 User " : Text) ++ username ++ (" logged in" : Text))
      return (⟨none, true, some username⟩, "auth_attempt")
    else do
      writeLine "530 Login incorrect."
      return ({ session with pendingUser := none }, "exploit_attempt")
  else if upper = "SYST" then do
    writeLine (("215 " : Text) ++ ctx.config.serverName.getD "UNIX" ++ (" Type: L8" : Text))
    return (session, "ftp_command")
  else if upper = "FEAT" then do
    writeLines ["211-Features:", " UTF8", " PASV", " SIZE", " MDTM", "211 End"]
    return (session, "ftp_command")
  else if upper = "PWD" ∨ upper = "XPWD" then
    ftpWhenAuthed session "257 \"/\" is the current directory" "ftp_command"
  else if upper = "CWD" ∨ upper = "XCWD" then
    ftpWhenAuthed session "250 Directory successfully changed." "ftp_command"
  else if upper = "LIST" ∨ upper = "NLST" ∨ upper = "MLSD" then
    ftpWhenAuthed session "425 Use PASV or PORT first." "ftp_command"
  else if upper = "PASV" ∨ upper = "EPSV" then
    ftpWhenAuthed session "227 Entering Passive Mode (127,0,0,1,0,0)." "ftp_command"
  else if upper = "TYPE" then do
    writeLine "200 Type set to I."
    return (session, "ftp_command")
  else if upper = "SIZE" then
    ftpWhenAuthed session (("550 " : Text) ++ args ++ (": No such file or directory." : Text))
      "ftp_command"
  else if upper = "RETR" ∨ upper = "STOR" ∨ upper = "DELE" ∨ upper = "MKD" ∨ upper = "RMD" then
    ftpWhenAuthed session "550 Permission denied." "exploit_attempt"
  else if upper = "NOOP" then do
    writeLine "200 NOOP ok."
    return (session, "ftp_command")
  else do
    writeLine (("500 '" : Text) ++ upper ++ ("': command not understood." : Text))
    return (session, "ftp_command")

/-- The answer to a line: nothing to a blank one. -/
def ftpAnswer (ctx : FtpSimulationContext) (session : FtpSession) (line : Text) :
    Session (Handled FtpSession) :=
  if (trim line).isEmpty then return .ignored session
  else
    let (command, args) := ftpCommand line
    let upper := toAsciiUppercase command
    if upper = "QUIT" then do
      writeLine "221 Goodbye."
      return .closed "ftp_command"
    else do
      let (session, eventType) ← ftpReply ctx session upper args
      return .logged session eventType

/-- One round of the loop of a connection. -/
def handleFtpLine (ctx : FtpSimulationContext) (peer : SocketAddr) (session : FtpSession)
    (line : Text) : Session (Option FtpSession) := do
  audit (reportFtpLog ctx peer) "FTP command: " "FTP command: QUIT" line
    (← ftpAnswer ctx session line)

def handleFtpConnection (ctx : FtpSimulationContext) (peer : SocketAddr) : Session Unit := do
  writeLine (("220 " : Text) ++ ctx.config.banner.getD DEFAULT_FTP_BANNER)
  reportConnection ctx peer "FTP"
  serveLines (handleFtpLine ctx peer) FtpSession.new

/-! ## What is reported -/

theorem validEventType_ftpCommand : validEventType "ftp_command" = true := by decide

theorem silent_ftpWhenAuthed {session : FtpSession} {reply eventType : Text}
    (h : validEventType eventType = true) :
    Silent (fun r => validEventType r.2 = true) (ftpWhenAuthed session reply eventType) :=
  silent_ite (fun _ => silent_reply validEventType_ftpCommand) fun _ => silent_reply h

theorem silent_ftpReply (ctx : FtpSimulationContext) (session : FtpSession) (upper args : Text) :
    Silent (fun r => validEventType r.2 = true) (ftpReply ctx session upper args) := by
  have hplain := validEventType_ftpCommand
  have hauth := validEventType_authAttempt
  have hexploit := validEventType_exploitAttempt
  refine silent_ite (fun _ => silent_reply hauth) fun _ => silent_ite (fun _ => ?pass) fun _ =>
    silent_ite (fun _ => silent_reply hplain) fun _ => silent_ite (fun _ => ?feat) fun _ =>
    silent_ite (fun _ => silent_ftpWhenAuthed hplain) fun _ =>
    silent_ite (fun _ => silent_ftpWhenAuthed hplain) fun _ =>
    silent_ite (fun _ => silent_ftpWhenAuthed hplain) fun _ =>
    silent_ite (fun _ => silent_ftpWhenAuthed hplain) fun _ =>
    silent_ite (fun _ => silent_reply hplain) fun _ =>
    silent_ite (fun _ => silent_ftpWhenAuthed hplain) fun _ =>
    silent_ite (fun _ => silent_ftpWhenAuthed hexploit) fun _ =>
    silent_ite (fun _ => silent_reply hplain) fun _ => silent_reply hplain
  case pass => exact silent_ite (fun _ => silent_reply hauth) fun _ => silent_reply hexploit
  case feat => exact (silent_writeLines _).bind fun _ _ => silent_ret hplain

theorem silent_ftpAnswer (ctx : FtpSimulationContext) (session : FtpSession) (line : Text) :
    Silent (Handled.Judged True (toAsciiUppercase (ftpCommand line).1 = "QUIT"))
      (ftpAnswer ctx session line) := by
  refine silent_ite (fun _ => silent_ret trivial) fun _ => ?_
  refine silent_ite (fun hquit => silent_reply ⟨?_, hquit⟩) fun hquit => ?_
  · exact iff_true_intro validEventType_ftpCommand
  · refine (silent_ftpReply ctx session _ _).bind fun r hr => silent_ret ⟨?_, hquit⟩
    exact iff_true_intro hr

end ProtocolSimulation.Engine
