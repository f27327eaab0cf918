import ProtocolSimulation.LineSessions
import ProtocolSimulation.Windows

/-!
# The LDAP simulation

Whatever one read returns is answered as one operation that succeeded.
-/
namespace ProtocolSimulation.Engine.Ldap

open ProtocolSimulation.Texts ProtocolSimulation.Conversations ProtocolSimulation.RuntimeEvents
open ProtocolSimulation.Windows

abbrev Context := SimulationContext SimLdapConfig

/-- What one read of a connection returns. -/
abbrev Read := { chunk : Bytes // 0 < chunk.length ∧ chunk.length ≤ 8192 }

/-- The byte behind the first two that look like the tag and the length of a message id. -/
def ldapMessageId (bytes : Bytes) : UInt8 :=
  ((windows 3 bytes).findSome? fun window =>
    match window with
    | [tag, length, id] => if tag = 0x02 ∧ length = 0x01 then some id else none
    | _ => none).getD 1

/-- The event type, the operation and the tag of the response. -/
def classify (payload : Bytes) : Text × Text × UInt8 :=
  if payload.contains 0x60 then ("auth_attempt", "LDAP bind request", 0x61)
  else if payload.contains 0x63 then ("query", "LDAP search request", 0x65)
  else ("command", "LDAP operation", 0x65)

/-- Success, with an empty matched DN and no diagnostic message. -/
def response (payload : Bytes) : Bytes :=
  [0x30, 0x0c, 0x02, 0x01, ldapMessageId payload, (classify payload).2.2, 0x07, 0x0a, 0x01, 0x00,
    0x04, 0x00, 0x04, 0x00]

def ldapLog (ctx : Context) (peer : SocketAddr) (payload : Bytes) : QueuedLog where
  draft :=
    { ruleId := ctx.ruleId, nodeId := ctx.nodeId, clientIp := peer.ip, clientPort := peer.port,
      serverPort := ctx.port, eventType := (classify payload).1,
      detailSummary := (classify payload).2.1 ++ (" under " : Text) ++ ctx.config.baseDn,
      payloadHex := some (encodeHex (payload.take 512)) }
  endpointId := none

/-- One round of the loop of a connection. -/
def round (ctx : Context) (peer : SocketAddr) (chunk : Read) :
    Talk Read (Output Bytes) (Unit ⊕ Unit) := do
  Talk.emit (.reported (ldapLog ctx peer chunk.val))
  Talk.emit (.wrote (response chunk.val))
  return .inl ()

def handle (ctx : Context) (peer : SocketAddr) : Talk Read (Output Bytes) Unit :=
  Talk.forEach (fun _ chunk => round ctx peer chunk) id ()

/-- Each read is answered on its own. -/
theorem written_handle (ctx : Context) (peer : SocketAddr) (reads : List Read) :
    written ((handle ctx peer).run reads).1 = reads.map fun chunk => response chunk.val := by
  induction reads with
  | nil => rfl
  | cons chunk reads ih =>
    have hround : (round ctx peer chunk).run reads =
        ([.reported (ldapLog ctx peer chunk.val), .wrote (response chunk.val)],
          some (.inl (), reads)) := rfl
    rw [handle, Talk.run_forEach_cons, hround]
    show response chunk.val :: written ((handle ctx peer).run reads).1 = _
    rw [ih]
    rfl

/-! ## The first id that is found -/

@[simp] theorem ldapMessageId_cons (a b c : UInt8) (rest : Bytes) :
    ldapMessageId (a :: b :: c :: rest) =
      if a = 0x02 ∧ b = 0x01 then c else ldapMessageId (b :: c :: rest) := by
  have hlength : 3 ≤ (a :: b :: c :: rest).length := by simp
  rw [ldapMessageId, windows_cons hlength, List.findSome?_cons]
  by_cases h : a = 0x02 ∧ b = 0x01
  · simp [h]
  · simp only [List.take, if_neg h]
    rfl

end ProtocolSimulation.Engine.Ldap
