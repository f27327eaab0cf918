import ProtocolSimulation.RuleTables
import ProtocolSimulation.Fallible
import ProtocolSimulation.Identifiers
import ProtocolSimulation.ApiModels

/-!
# Creating rules

The handler that stores a rule of a user, from the request to the row that is
read back.
-/
namespace ProtocolSimulation.Api

open ProtocolSimulation.Texts ProtocolSimulation.JsonValues ProtocolSimulation.Identifiers
open ProtocolSimulation.Protocols ProtocolSimulation.Storage ProtocolSimulation.KeyedTables
open ProtocolSimulation.Fallible

structure CreateRuleRequest where
  name : Text
  protocol : Text
  defaultPort : UInt16
  configJson : Json

def parseProtocol (protocol : Text) : Except ApiError ProtocolId :=
  (ProtocolId.fromStr protocol).mapError ApiError.badRequest

/-- `db::insert_rule`: the row as it is read back. -/
def insertRule (db : Database) (rule : Rule) : Except ApiError (Database × Rule) :=
  match db.insertRule rule with
  | none => .error (.internal "failed to insert rule")
  | some db' =>
    match db'.rules.get rule.id with
    | none => .error (.internal "inserted rule was not found")
    | some stored => .ok (db', stored)

/-- `create_rule`, with the identifier and the time that it draws. -/
def createRule (json : JsonCodec) (validateBehavior : ProtocolId → Json → Except Text Json)
    (uuid : UuidV7) (now : Text) (db : Database) (payload : CreateRuleRequest) :
    Except ApiError (Database × Rule) := do
  let protocol ← parseProtocol payload.protocol
  if (trim payload.name).isEmpty then .error (.badRequest "rule name is required")
  else
    let behavior := (payload.configJson.get "behavior").getD payload.configJson
    let behavior ← (validateBehavior protocol behavior).mapError fun error =>
      .badRequest (("invalid protocol behavior: " : Text) ++ error)
    insertRule db {
      id := ("rule-" : Text) ++ uuid.hyphenated
      name := trim payload.name
      protocol := payload.protocol
      defaultPort := payload.defaultPort.toNat
      configJson := json.renderPretty (.obj [("behavior", behavior)])
      createdAt := now
      updatedAt := now }

theorem parseProtocol_ok_iff {text : Text} {protocol : ProtocolId} :
    parseProtocol text = .ok protocol ↔ ProtocolId.fromStr text = .ok protocol := by
  unfold parseProtocol
  cases ProtocolId.fromStr text <;> simp [Except.mapError]

theorem get_insertRule {db db' : Database} {rule : Rule} (h : db.insertRule rule = some db') :
    db'.rules.get rule.id = some rule := by
  unfold Database.insertRule at h
  split at h
  next rules hinserted =>
    cases h
    exact (Table.get_insert hinserted rule.id).trans (if_pos rfl)
  next => cases h

/-- The row that is read back is the one that was inserted. -/
theorem insertRule_ok {db db' : Database} {rule stored : Rule}
    (h : insertRule db rule = .ok (db', stored)) :
    stored = rule ∧ db'.rules.get rule.id = some stored := by
  unfold insertRule at h
  split at h
  next => cases h
  next inserted hinserted =>
    rw [get_insertRule hinserted] at h
    cases h
    exact ⟨rfl, get_insertRule hinserted⟩

/-- A rule that is created has a known protocol and the port that was asked for. -/
theorem createRule_ok {json : JsonCodec}
    {validateBehavior : ProtocolId → Json → Except Text Json} {uuid : UuidV7} {now : Text}
    {db db' : Database} {payload : CreateRuleRequest} {stored : Rule}
    (h : createRule json validateBehavior uuid now db payload = .ok (db', stored)) :
    (∃ protocol, ProtocolId.fromStr stored.protocol = .ok protocol) ∧
      stored.defaultPort = payload.defaultPort.toNat ∧ db'.rules.get stored.id = some stored := by
  unfold createRule at h
  obtain ⟨protocol, hprotocol, h⟩ := bind_ok_iff.mp h
  obtain ⟨_, h⟩ := check_ok_iff.mp h
  obtain ⟨behavior, _, h⟩ := bind_ok_iff.mp h
  obtain ⟨rfl, hget⟩ := insertRule_ok h
  exact ⟨⟨protocol, parseProtocol_ok_iff.mp hprotocol⟩, rfl, hget⟩

end ProtocolSimulation.Api
