import ProtocolSimulation.LineSessions

/-!
# The Telnet simulation

A login that takes two lines, and behind it a shell that knows the configured
commands. Who does not log in learns nothing of the accounts, the prompt and the
commands, and every line of the shell is reported before it is answered.
-/
namespace ProtocolSimulation.Engine.Telnet

open ProtocolSimulation.Texts ProtocolSimulation.Conversations ProtocolSimulation.RuntimeEvents

structure SimTelnetConfig where
  banner : Option Text
  prompt : Option Text
  credentials : Option (List Credential)
  commandResponses : Option (BTreeMap Text)

abbrev Context := SimulationContext SimTelnetConfig

def report (ctx : Context) (peer : SocketAddr) (eventType summary : Text) (payload : Bytes) :
    QueuedLog where
  draft :=
    { ruleId := ctx.ruleId, nodeId := ctx.nodeId, clientIp := peer.ip, clientPort := peer.port,
      serverPort := ctx.port, eventType := eventType, detailSummary := summary,
      payloadHex := if payload.isEmpty then none else some (encodeHex (payload.take 512)) }
  endpointId := none

/-! ## Lines -/

/-- The line without the line feed, and without a carriage return before this. -/
def withoutEnding (raw : Text) : Text :=
  if raw.getLast? = some '\n' then
    let line := raw.dropLast
    if line.getLast? = some '\r' then line.dropLast else line
  else raw

/-- A line that is no UTF-8 ends the connection. -/
def decoded : ReceivedLine → Session Text
  | none => Talk.breakOff
  | some raw => return withoutEnding raw

/-- `lines.next_line().await?`. -/
def nextLine : Session (Option Text) := do
  match ← Talk.take with
  | none => return none
  | some raw => return some (← decoded raw)

/-! ## Connections -/

def SimTelnetConfig.valid (config : SimTelnetConfig) (username password : Text) : Bool :=
  (config.credentials.map fun items => items.any fun item =>
    item.username = trim username && item.password = trim password).getD false

def connectionReport (ctx : Context) (peer : SocketAddr) : QueuedLog :=
  report ctx peer "connection" "Telnet client connected" []

def authReport (ctx : Context) (peer : SocketAddr) (username : Text) (valid : Bool) : QueuedLog :=
  report ctx peer "auth_attempt"
    (("Telnet login attempt for user " : Text) ++ trim username ++ (" (" : Text) ++
      (if valid then "accepted" else "rejected") ++ (")" : Text)) (utf8Encode username)

def commandReport (ctx : Context) (peer : SocketAddr) (command : Text) : QueuedLog :=
  report ctx peer "command" (("Telnet command: " : Text) ++ command) (utf8Encode command)

def SimTelnetConfig.shellPrompt (config : SimTelnetConfig) : Text := config.prompt.getD "$ "

def isExit (command : Text) : Bool := command = "exit" || command = "logout"

/-- What is written for a command. -/
def SimTelnetConfig.reply (config : SimTelnetConfig) (command : Text) : Text :=
  if isExit command then "logout\r\n"
  else
    let response := (config.commandResponses.bind fun responses => responses.get command).getD
      "command not found"
    response ++ ("\r\n" : Text) ++ config.shellPrompt

/-- One round of the shell. -/
def shellRound (ctx : Context) (peer : SocketAddr) (_ : Unit) (raw : ReceivedLine) :
    Session (Unit ⊕ Unit) := do
  let command := trim (← decoded raw)
  Talk.emit (.reported (commandReport ctx peer command))
  writeRaw (ctx.config.reply command)
  if isExit command then return .inr () else return .inl ()

/-- `handle` behind the two lines of the login. -/
def answerLogin (ctx : Context) (peer : SocketAddr) (username password : Text) :
    Session Unit := do
  let valid := ctx.config.valid username password
  Talk.emit (.reported (authReport ctx peer username valid))
  if !valid then writeRaw "\r\nLogin incorrect\r\n"
  else do
    writeRaw (("\r\n" : Text) ++ ctx.config.shellPrompt)
    Talk.forEach (shellRound ctx peer) (fun _ => ()) ()

def handle (ctx : Context) (peer : SocketAddr) : Session Unit := do
  Talk.emit (.reported (connectionReport ctx peer))
  writeRaw (ctx.config.banner.getD "Ubuntu 22.04 LTS\r\n")
  writeRaw "login: "
  let username := (← nextLine).getD []
  writeRaw "Password: "
  let password := (← nextLine).getD []
  answerLogin ctx peer username password

/-! ## The login -/

/-- The `i`-th line that the client gives, blank if it gives no more, unless it is no UTF-8. -/
def given (input : List ReceivedLine) (i : ℕ) : Option Text :=
  match input[i]? with
  | none => some []
  | some raw => raw.map withoutEnding

/-- The first two lines are those of an account. -/
def LoggedIn (config : SimTelnetConfig) (input : List ReceivedLine) : Prop :=
  ∃ username password, given input 0 = some username ∧ given input 1 = some password ∧
    config.valid username password = true

/-- What is said before the login is decided. -/
def greeting (ctx : Context) (peer : SocketAddr) (input : List ReceivedLine) :
    List (Output Text) :=
  [.reported (connectionReport ctx peer), .wrote (ctx.config.banner.getD "Ubuntu 22.04 LTS\r\n"),
    .wrote "login: "] ++ (if (given input 0).isSome then [.wrote "Password: "] else [])

/-- A connection whose two lines can be read greets and answers the login. -/
theorem run_handle {ctx : Context} {peer : SocketAddr} {input : List ReceivedLine}
    {username password : Text} (husername : given input 0 = some username)
    (hpassword : given input 1 = some password) :
    ((handle ctx peer).run input).1 =
      greeting ctx peer input ++
        ((answerLogin ctx peer username password).run (input.drop 2)).1 := by
  cases input with
  | nil =>
    obtain rfl : [] = username := Option.some.inj husername
    obtain rfl : [] = password := Option.some.inj hpassword
    rfl
  | cons first rest =>
    cases first with
    | none => cases husername
    | some first =>
      obtain rfl : withoutEnding first = username := Option.some.inj husername
      cases rest with
      | nil =>
        obtain rfl : [] = password := Option.some.inj hpassword
        rfl
      | cons second rest =>
        cases second with
        | none => cases hpassword
        | some second =>
          obtain rfl : withoutEnding second = password := Option.some.inj hpassword
          rfl

/-- A line that is no UTF-8 breaks the login off. -/
theorem run_handle_broken {ctx : Context} {peer : SocketAddr} {input : List ReceivedLine}
    (h : given input 0 = none ∨ given input 1 = none) :
    ((handle ctx peer).run input).1 = greeting ctx peer input := by
  cases input with
  | nil => simp [given] at h
  | cons first rest =>
    cases first with
    | none => rfl
    | some first =>
      cases rest with
      | nil => simp [given] at h
      | cons second rest =>
        cases second with
        | none => rfl
        | some second => simp [given] at h

/-! ## The shell -/

/-- The commands that the shell answers: the lines up to the first that ends it. -/
def commands : List ReceivedLine → List Text
  | [] => []
  | none :: _ => []
  | some raw :: rest =>
    let command := trim (withoutEnding raw)
    if isExit command then [command] else command :: commands rest

/-- The shell reports one command after the other, each before it is answered. -/
theorem run_shell (ctx : Context) (peer : SocketAddr) (input : List ReceivedLine) :
    ((Talk.forEach (shellRound ctx peer) (fun _ => ()) ()).run input).1 =
      (commands input).flatMap fun command =>
        [.reported (commandReport ctx peer command), .wrote (ctx.config.reply command)] := by
  induction input with
  | nil => rfl
  | cons raw rest ih =>
    cases raw with
    | none => rfl
    | some raw =>
      rw [Talk.run_forEach_cons, commands]
      cases hexit : isExit (trim (withoutEnding raw)) with
      | true =>
        have hround : (shellRound ctx peer () (some raw)).run rest =
            ([.reported (commandReport ctx peer (trim (withoutEnding raw))),
              .wrote (ctx.config.reply (trim (withoutEnding raw)))], some (.inr (), rest)) := by
          simp [shellRound, decoded, writeRaw, Talk.run_bind, hexit]
        rw [hround]
        rfl
      | false =>
        have hround : (shellRound ctx peer () (some raw)).run rest =
            ([.reported (commandReport ctx peer (trim (withoutEnding raw))),
              .wrote (ctx.config.reply (trim (withoutEnding raw)))], some (.inl (), rest)) := by
          simp [shellRound, decoded, writeRaw, Talk.run_bind, hexit]
        rw [hround]
        simp [ih]

/-! ## What a client is told -/

/-- A simulation that nobody can log in to. -/
def Context.locked (ctx : Context) : Context :=
  { ctx with config := ⟨ctx.config.banner, none, none, none⟩ }

/-- What a connection says to a client, and about it. -/
structure SessionRight (ctx : Context) (peer : SocketAddr) (input : List ReceivedLine)
    (outs : List (Output Text)) : Prop where
  /-- Who has no account is told what a locked simulation tells. -/
  refused : ¬LoggedIn ctx.config input → outs = ((handle ctx.locked peer).run input).1
  /-- Who has one gets the prompt, and an answer to each command after its report. -/
  served : LoggedIn ctx.config input → ∃ username, given input 0 = some username ∧
    outs = greeting ctx peer input ++ [.reported (authReport ctx peer username true),
      .wrote (("\r\n" : Text) ++ ctx.config.shellPrompt)] ++
      (commands (input.drop 2)).flatMap fun command =>
        [.reported (commandReport ctx peer command), .wrote (ctx.config.reply command)]

theorem answerLogin_of_invalid {ctx : Context} {peer : SocketAddr} {username password : Text}
    (h : ctx.config.valid username password = false) :
    answerLogin ctx peer username password = answerLogin ctx.locked peer username password := by
  rw [answerLogin, answerLogin, h]
  rfl

theorem run_answerLogin {ctx : Context} {peer : SocketAddr} {username password : Text}
    (h : ctx.config.valid username password = true) (input : List ReceivedLine) :
    ((answerLogin ctx peer username password).run input).1 =
      [.reported (authReport ctx peer username true),
        .wrote (("\r\n" : Text) ++ ctx.config.shellPrompt)] ++
      (commands input).flatMap fun command =>
        [.reported (commandReport ctx peer command), .wrote (ctx.config.reply command)] := by
  rw [← run_shell, answerLogin, h]
  rfl

/-- Whatever comes in, also in the middle of a line that is no UTF-8: the shell is reached exactly
with the two lines of an account, and nobody else is told more than a locked simulation tells. -/
theorem handle_sessionRight (ctx : Context) (peer : SocketAddr) (input : List ReceivedLine) :
    SessionRight ctx peer input ((handle ctx peer).run input).1 := by
  cases husername : given input 0 with
  | none =>
    have hout : ¬LoggedIn ctx.config input := by
      intro h
      obtain ⟨username, _, hgiven, _⟩ := h
      rw [husername] at hgiven
      cases hgiven
    refine ⟨?_, fun h => absurd h hout⟩
    intro _
    rw [run_handle_broken (Or.inl husername), run_handle_broken (Or.inl husername)]
    rfl
  | some username =>
    cases hpassword : given input 1 with
    | none =>
      have hout : ¬LoggedIn ctx.config input := by
        intro h
        obtain ⟨_, password, _, hgiven, _⟩ := h
        rw [hpassword] at hgiven
        cases hgiven
      refine ⟨?_, fun h => absurd h hout⟩
      intro _
      rw [run_handle_broken (Or.inr hpassword), run_handle_broken (Or.inr hpassword)]
      rfl
    | some password =>
      rw [run_handle husername hpassword]
      refine ⟨?_, ?_⟩
      · intro hout
        have hinvalid : ctx.config.valid username password = false := by
          by_contra hvalid
          exact hout ⟨username, password, husername, hpassword, by simpa using hvalid⟩
        rw [run_handle husername hpassword, answerLogin_of_invalid hinvalid]
        rfl
      · intro hin
        obtain ⟨username', password', husername', hpassword', hvalid⟩ := hin
        rw [husername] at husername'
        rw [hpassword] at hpassword'
        obtain rfl := Option.some.inj husername'
        obtain rfl := Option.some.inj hpassword'
        refine ⟨username, husername, ?_⟩
        rw [run_answerLogin hvalid, List.append_assoc]

end ProtocolSimulation.Engine.Telnet
