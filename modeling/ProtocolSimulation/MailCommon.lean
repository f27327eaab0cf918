import ProtocolSimulation.LineSessions

/-!
# What the mail simulations share

Credentials, custom responses, stored messages and the audit of commands. The
base64 decoder is a library, given as `base64`.
-/
namespace ProtocolSimulation.Engine

open ProtocolSimulation.Texts ProtocolSimulation.Conversations ProtocolSimulation.RuntimeEvents

/-- Check a plain user name and password. -/
def credentialsMatch (credentials : List MailCredential) (username password : Text) : Bool :=
  credentials.any fun item => item.username = username && item.password = password

section Base64

variable (base64 : Text → Option Bytes)

/-- Decode the payload of AUTH PLAIN: an authorization id, the user name and the password,
with a zero byte between two of them. -/
def decodeAuthPlain (value : Text) : Option (Text × Text) := do
  let decoded ← base64 (trim value)
  match decoded.splitOn 0 with
  | _authzid :: username :: password :: _ => do
    let username ← utf8Decode username
    let password ← utf8Decode password
    return (username, password)
  | _ => none

/-- Decode one part of AUTH LOGIN. -/
def decodeBase64Text (value : Text) : Option Text := (base64 (trim value)).bind utf8Decode

end Base64

/-- The first custom response for the command whose arguments match, with its event type. -/
def customResponse (responses : Option (List MailCustomResponse))
    (command commandText defaultEventType : Text) : Option (Text × Text) := do
  let lowered := toAsciiLowercase commandText
  let response ← (← responses).find? fun response =>
    eqIgnoreAsciiCase response.command command && argsMatch response.argsContains lowered
  return (response.response, response.eventType.getD defaultEventType)

/-- Answer with the custom response, written as `render` says, or else as built in. -/
def customOr {σ : Type} (custom : Option (Text × Text)) (render : Text → Text) (session : σ)
    (builtin : Session (Handled σ)) : Session (Handled σ) :=
  match custom with
  | some (response, customEvent) => do
    writeLine (render response)
    return .logged session customEvent
  | none => builtin

/-- The stored message in RFC 822 form. -/
def rfc822Message (message : MailMessage) : Text :=
  let headers : List Text :=
    [("From: " : Text) ++ message.fromAddr, ("To: " : Text) ++ joinWith ", " message.toAddrs,
      ("Subject: " : Text) ++ message.subject]
  let headers := headers ++ (message.date.map fun date => ("Date: " : Text) ++ date).toList
  let headers := headers ++
    (["MIME-Version: 1.0", "Content-Type: text/plain; charset=utf-8"] : List Text)
  joinWith "\r\n" headers ++ ("\r\n\r\n" : Text) ++ message.body ++ ("\r\n" : Text)

def imapFlags (message : MailMessage) : Text :=
  let flags := message.flags.getD []
  if flags.isEmpty then "()" else ("(" : Text) ++ joinWith " " flags ++ (")" : Text)

def reportMailConnection {Config : Type} (ctx : SimulationContext Config) (peer : SocketAddr)
    (protocol : Text) : Session Unit := reportConnection ctx peer protocol

def reportMailCommand {Config : Type} (ctx : SimulationContext Config) (peer : SocketAddr)
    (eventType summary commandLine : Text) : Session Unit :=
  reportCommand ctx peer eventType summary commandLine

/-! ## What is reported -/

theorem silent_customOr {σ : Type} {custom : Option (Text × Text)} {render : Text → Text}
    {session : σ} {builtin : Session (Handled σ)} {closes : Prop}
    (h : Silent (Handled.Judged True closes) builtin) :
    Silent (Handled.Judged (CustomTypeValid custom) (custom = none ∧ closes))
      (customOr custom render session builtin) := by
  cases custom with
  | some found =>
    have htype : validEventType found.2 = true ↔ CustomTypeValid (some found) := by
      simp [CustomTypeValid]
    exact silent_reply ⟨htype, by simp⟩
  | none =>
    refine Talk.Says.mono h (fun _ => id) (fun _ => id) fun handled hhandled => ?_
    cases handled with
    | ignored session => trivial
    | logged session eventType => simpa [Handled.Judged, CustomTypeValid] using hhandled
    | closed eventType => simpa [Handled.Judged, CustomTypeValid] using hhandled

end ProtocolSimulation.Engine
