import ProtocolSimulation.LineSessions

/-!
# The Redis simulation

Whatever one read returns is parsed as one command. A read is of at most 4096
bytes, and an empty one is the end of the connection.
-/
namespace ProtocolSimulation.Engine

open ProtocolSimulation.Texts ProtocolSimulation.Conversations ProtocolSimulation.RuntimeEvents

abbrev RedisSimulationContext := SimulationContext SimRedisConfig

/-- What one read of a connection returns. -/
abbrev RedisRead := { payload : Bytes // 0 < payload.length ∧ payload.length ≤ 4096 }

structure RedisCommand where
  name : Text
  args : List Text

/-! ## Commands -/

/-- What ends the task of a connection without an error value. -/
inductive Panic where
  | capacityOverflow

/-- `Vec::with_capacity` for elements of the given size in bytes. -/
def withCapacity (elementSize capacity : ℕ) : Except Panic Unit :=
  if capacity * elementSize < 2 ^ 63 then .ok () else .error .capacityOverflow

/-- The size of a `String`. -/
def STRING_SIZE : ℕ := 24

/-- A command in one line of words. -/
def inlineCommand (text : Text) : Option RedisCommand :=
  match splitWhitespace text with
  | [] => none
  | name :: args => some ⟨toAsciiUppercase name, args⟩

/-- As many bulk strings as the array has: a header line and a value line for each. -/
def readBulks : List Text → ℕ → Option (List Text)
  | _, 0 => some []
  | bulkHeader :: value :: lines, n + 1 =>
    if (stripPrefix "$" bulkHeader).isNone then none
    else (readBulks lines n).map fun values => value :: values
  | _, _ + 1 => none

/-- A command as an array of bulk strings. -/
def arrayCommand (text : Text) : Except Panic (Option RedisCommand) :=
  match (lines text).map trimEnd with
  | [] => .ok none
  | header :: rest =>
    match (stripPrefix "*" header).bind parseUsize with
    | none => .ok none
    | some arrayLen => do
      withCapacity STRING_SIZE arrayLen
      match readBulks rest arrayLen with
      | some (name :: args) => return some ⟨toAsciiUppercase name, args⟩
      | _ => return none

def parseRedisCommand (input : Bytes) : Except Panic (Option RedisCommand) :=
  match utf8Decode input with
  | none => .ok none
  | some decoded =>
    let text := trimMatches isLineEnd decoded
    if text.isEmpty then .ok none
    else if (stripPrefix "*" text).isNone then .ok (inlineCommand text)
    else arrayCommand text

/-! ## Replies -/

def redisSimple (value : Text) : Bytes := utf8Encode (("+" : Text) ++ value ++ ("\r\n" : Text))

def redisError (value : Text) : Bytes := utf8Encode (("-" : Text) ++ value ++ ("\r\n" : Text))

def redisBulk (value : Text) : Bytes :=
  utf8Encode (("$" : Text) ++ showNat (byteLen value) ++ ("\r\n" : Text) ++ value ++
    ("\r\n" : Text))

def redisNil : Bytes := utf8Encode "$-1\r\n"

def redisArray (values : List Text) : Bytes :=
  utf8Encode (("*" : Text) ++ showNat values.length ++ ("\r\n" : Text)) ++ values.flatMap redisBulk

def redisInfoPayload (config : SimRedisConfig) : Text :=
  let lines : List Text :=
    ["# Server", "redis_version:6.2.14", "redis_git_sha1:00000000", "redis_mode:standalone",
      "os:Linux x86_64", "tcp_port:6379", "# Clients", "connected_clients:1", "# Memory",
      "used_memory_human:12.34M"]
  let serverInfo := (config.serverInfo.map BTreeMap.entries).getD []
  joinWith "\r\n" (lines ++ serverInfo.map fun (key, value) => key ++ (":" : Text) ++ value)

/-- The first configured response for the command whose arguments match, with its event type. -/
def redisCustomResponse (config : SimRedisConfig) (command : RedisCommand) :
    Option (Bytes × Text) := do
  let commandText := toAsciiLowercase (joinWith " " (command.name :: command.args))
  let response ← (← config.commandResponses).find? fun response =>
    eqIgnoreAsciiCase response.command command.name &&
      argsMatch response.argsContains commandText
  return (redisBulk response.response, response.eventType.getD "redis_command")

/-- The reply to a command and its event type, and whether the client is authenticated
afterwards. -/
def redisResponseForCommand (config : SimRedisConfig) (command : RedisCommand) (authed : Bool) :
    (Bytes × Text) × Bool :=
  match redisCustomResponse config command with
  | some custom => (custom, authed)
  | none =>
    let requireAuth := config.requireAuth.getD false
    let name := command.name
    if requireAuth && !authed && !(name = "AUTH" || name = "PING") then
      ((redisError "NOAUTH Authentication required.", "redis_command"), authed)
    else if name = "PING" then
      (((command.args.head?.map redisBulk).getD (redisSimple "PONG"), "redis_command"), authed)
    else if name = "AUTH" then
      if !requireAuth then ((redisSimple "OK", "redis_command"), true)
      else
        let expected := config.password.getD "redis"
        let provided := command.args.getLast?.getD []
        if provided = expected then ((redisSimple "OK", "redis_command"), true)
        else ((redisError "ERR invalid password", "exploit_attempt"), authed)
    else if name = "INFO" then ((redisBulk (redisInfoPayload config), "redis_command"), authed)
    else if name = "CONFIG" then
      ((redisError "ERR unknown command 'CONFIG', with args beginning with:", "exploit_attempt"),
        authed)
    else if name = "KEYS" then
      ((redisArray ((config.keys.map BTreeMap.keys).getD []), "exploit_attempt"), authed)
    else if name = "GET" then
      let value := command.args.head?.bind fun key => config.keys.bind fun items => items.get key
      (((value.map redisBulk).getD redisNil, "redis_command"), authed)
    else if name = "SET" then ((redisSimple "OK", "redis_command"), authed)
    else if name = "FLUSHALL" ∨ name = "FLUSHDB" ∨ name = "SLAVEOF" ∨ name = "REPLICAOF" ∨
        name = "MODULE" ∨ name = "EVAL" then
      ((redisError "ERR command is disabled in this simulation", "exploit_attempt"), authed)
    else
      ((redisError (("ERR unknown command '" : Text) ++ name ++ ("'" : Text)), "redis_command"),
        authed)

/-! ## Connections -/

def redisSummary (command : RedisCommand) : Text :=
  if command.args.isEmpty then ("Redis command: " : Text) ++ command.name
  else ("Redis command: " : Text) ++ command.name ++ (" " : Text) ++ joinWith " " command.args

/-- The draft of a command, with at most 512 bytes of what was read as its payload. -/
def redisDraft (ctx : RedisSimulationContext) (peer : SocketAddr) (eventType : Text)
    (command : RedisCommand) (payload : Bytes) : SimLogDraft where
  ruleId := ctx.ruleId
  nodeId := ctx.nodeId
  clientIp := peer.ip
  clientPort := peer.port
  serverPort := ctx.port
  eventType := eventType
  detailSummary := redisSummary command
  payloadHex := some (encodeHex (payload.take 512))

/-- One round of the loop of a connection. -/
def handleRedisRead (ctx : RedisSimulationContext) (peer : SocketAddr) (authed : Bool)
    (payload : RedisRead) : Talk RedisRead (Output Bytes) Bool :=
  match parseRedisCommand payload with
  | .error _ => Talk.breakOff
  | .ok none => do
    Talk.emit (.wrote (redisError "ERR Protocol error: invalid request"))
    return authed
  | .ok (some command) => do
    let ((response, eventType), authed) := redisResponseForCommand ctx.config command authed
    Talk.emit (.reported ⟨redisDraft ctx peer eventType command payload, none⟩)
    Talk.emit (.wrote response)
    return authed

def handleRedisConnection (ctx : RedisSimulationContext) (peer : SocketAddr) :
    Talk RedisRead (Output Bytes) Unit := do
  match ctx.config.banner with
  | some banner => Talk.emit (.wrote (redisSimple banner))
  | none => pure ()
  Talk.emit (.reported ⟨connectionDraft ctx peer "Redis", none⟩)
  Talk.forEach (fun authed payload => return .inl (← handleRedisRead ctx peer authed payload))
    (fun _ => ()) !ctx.config.requireAuth.getD false

/-- One round of the loop of a connection. -/
def redisRound (ctx : RedisSimulationContext) (peer : SocketAddr) (authed : Bool)
    (payload : RedisRead) : Talk RedisRead (Output Bytes) (Bool ⊕ Unit) := do
  return .inl (← handleRedisRead ctx peer authed payload)

def redisLoop (ctx : RedisSimulationContext) (peer : SocketAddr) (authed : Bool) :
    Talk RedisRead (Output Bytes) Unit :=
  Talk.forEach (redisRound ctx peer) (fun _ => ()) authed

/-- What is put out before the loop. -/
def redisGreeting (ctx : RedisSimulationContext) (peer : SocketAddr) : List (Output Bytes) :=
  (ctx.config.banner.map fun banner => Output.wrote (redisSimple banner)).toList ++
    [.reported ⟨connectionDraft ctx peer "Redis", none⟩]

theorem run_handleRedisConnection (ctx : RedisSimulationContext) (peer : SocketAddr)
    (input : List RedisRead) :
    ((handleRedisConnection ctx peer).run input).1 = redisGreeting ctx peer ++
      ((redisLoop ctx peer !ctx.config.requireAuth.getD false).run input).1 := by
  rw [handleRedisConnection, redisGreeting]
  cases ctx.config.banner <;> rfl

end ProtocolSimulation.Engine
