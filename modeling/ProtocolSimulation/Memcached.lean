import ProtocolSimulation.LineSessions

/-!
# The Memcached simulation

Commands are lines. What is read is kept until a line is complete, and a client
gets at most 32 replies.
-/
namespace ProtocolSimulation.Engine.Memcached

open ProtocolSimulation.Texts ProtocolSimulation.Conversations ProtocolSimulation.RuntimeEvents

abbrev Context := SimulationContext SimMemcachedConfig

/-- What one read of a connection returns. -/
abbrev Read := { chunk : Bytes // 0 < chunk.length ∧ chunk.length ≤ 512 }

def MAX_REQUEST_SIZE : ℕ := 4096

/-! ## Replies -/

/-- `STAT {key} {value}`. -/
def statLine (key value : Text) : Text :=
  ("STAT " : Text) ++ key ++ (" " : Text) ++ value ++ ("\r\n" : Text)

def statsResponse (config : SimMemcachedConfig) (settings : Bool) : Text :=
  if settings then
    "STAT maxbytes 67108864\r\nSTAT maxconns 1024\r\nSTAT tcpport 11211\r\nEND\r\n"
  else
    let version := config.serverVersion.getD "1.6.24"
    let stats := ((config.stats.map BTreeMap.entries).getD []).filter fun (key, _) =>
      !(trim key).isEmpty && !key.any isWhitespace
    ("STAT pid 1\r\nSTAT uptime 3600\r\nSTAT time 1700000000\r\nSTAT version " : Text) ++ version ++
      ("\r\nSTAT pointer_size 64\r\nSTAT curr_connections 1\r\nSTAT total_connections 1\r\n" :
        Text) ++
      ("STAT maxconns 1024\r\n" : Text) ++ (stats.flatMap fun (key, value) => statLine key value) ++
      ("END\r\n" : Text)

def responseFor (command : Text) (config : SimMemcachedConfig) : Text :=
  let normalized := toAsciiLowercase (trim command)
  if normalized = "version" then
    ("VERSION " : Text) ++ config.serverVersion.getD "1.6.24" ++ ("\r\n" : Text)
  else if normalized = "stats" then statsResponse config false
  else if normalized = "stats settings" then statsResponse config true
  else "ERROR\r\n"

/-! ## Connections -/

def commandDraft (ctx : Context) (peer : SocketAddr) (command : Text) : SimLogDraft where
  ruleId := ctx.ruleId
  nodeId := ctx.nodeId
  clientIp := peer.ip
  clientPort := peer.port
  serverPort := ctx.port
  eventType := "memcached_command"
  detailSummary := ("Memcached probe command: " : Text) ++
    (splitWhitespace command).head?.getD "unknown"
  payloadHex := none

theorem lt_length_of_findIdx? {pending : Bytes} {lineEnd : ℕ}
    (h : pending.findIdx? (· == 10) = some lineEnd) : lineEnd < pending.length :=
  (List.findIdx?_eq_some_iff_getElem.mp h).1

/-- Answer the complete lines of what is pending; the result is what is left of it with the number
of commands so far, unless these are enough. -/
def serveLines (ctx : Context) (peer : SocketAddr) (pending : Bytes)
    (commands : ℕ) : Talk Read (Output Bytes) ((Bytes × ℕ) ⊕ Unit) :=
  match h : pending.findIdx? (· == 10) with
  | none => return .inl (pending, commands)
  | some lineEnd =>
    let command := fromUtf8Lossy (pending.take (lineEnd + 1))
    if (trim command).isEmpty then
      serveLines ctx peer (pending.drop (lineEnd + 1)) commands
    else do
      Talk.emit (.wrote (utf8Encode (responseFor command ctx.config)))
      Talk.emit (.reported ⟨commandDraft ctx peer command, none⟩)
      if 32 ≤ commands + 1 then return .inr ()
      else serveLines ctx peer (pending.drop (lineEnd + 1)) (commands + 1)
termination_by pending.length
decreasing_by
  all_goals
    rw [List.length_drop]
    have := lt_length_of_findIdx? h
    omega

/-- One round of the loop of a connection. -/
def round (ctx : Context) (peer : SocketAddr) (session : Bytes × ℕ)
    (chunk : Read) : Talk Read (Output Bytes) ((Bytes × ℕ) ⊕ Unit) :=
  let pending := session.1 ++ chunk.val
  if MAX_REQUEST_SIZE < pending.length then Talk.breakOff
  else serveLines ctx peer pending session.2

def handle (ctx : Context) (peer : SocketAddr) :
    Talk Read (Output Bytes) Unit :=
  Talk.forEach (round ctx peer) (fun _ => ()) ([], 0)

end ProtocolSimulation.Engine.Memcached
