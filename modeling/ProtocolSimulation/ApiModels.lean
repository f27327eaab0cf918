import ProtocolSimulation.Database

/-!
# Requests and answers of the API service
-/
namespace ProtocolSimulation.Api

open ProtocolSimulation.Texts ProtocolSimulation.JsonValues ProtocolSimulation.Storage

structure ApiError where
  status : ℕ
  message : Text
  messageKey : Option Text
deriving DecidableEq

namespace ApiError

def unauthorized (message : Text) : ApiError := ⟨401, message, none⟩
def badRequest (message : Text) : ApiError := ⟨400, message, none⟩
def notFound (message : Text) : ApiError := ⟨404, message, none⟩
def conflict (message : Text) : ApiError := ⟨409, message, none⟩

def withMessageKey (e : ApiError) (messageKey : Text) : ApiError :=
  { e with messageKey := some messageKey }

/-- `From<anyhow::Error>`: the outermost message of the error chain. -/
def internal (message : Text) : ApiError := ⟨500, message, none⟩

end ApiError

/-- An instance as the handlers see it: its row, and the endpoints read along with it. -/
structure Instance where
  row : InstanceRow
  endpoints : List InstanceEndpoint

/-- `get_instance`, with nothing happening between its two statements. -/
def getInstance (db : Database) (id : Text) : Option Instance :=
  (db.selectInstance id).map fun row => ⟨row, db.selectEndpoints id⟩

structure EndpointBindingRequest where
  endpointId : Text
  hostPort : UInt16
deriving DecidableEq

structure DeployInstanceRequest where
  ruleId : Text
  endpointBindings : List EndpointBindingRequest

/-- A runtime event as the API received it. -/
structure EventRequest where
  schemaVersion : ℕ
  eventId : Text
  instanceId : Text
  endpointId : Text
  eventType : Text
  summary : Text
  clientIp : Text
  clientPort : UInt16
  payloadHex : Option Text
  metadata : Json
  timestamp : Option Text

structure AuditLog where
  id : ℕ
  eventId : Text
  instanceId : Text
  endpointId : Text
  eventType : Text
  summary : Text
  clientIp : Text
  clientPort : ℤ
  payloadHex : Option Text
  metadata : Json
  timestamp : Text

end ProtocolSimulation.Api
