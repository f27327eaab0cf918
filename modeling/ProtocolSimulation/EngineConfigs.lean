import ProtocolSimulation.Texts

/-!
# Behaviour configurations of the simulations

What a rule configures for a simulation, field by field, and the context that a
running simulation keeps of its rule.
-/
namespace ProtocolSimulation.Engine

open ProtocolSimulation.Texts

/-- A map with text keys, as the list of its entries in the order of their keys. -/
structure BTreeMap (α : Type) where
  entries : List (Text × α)
  sorted : (entries.map Prod.fst).Pairwise (· < ·)

namespace BTreeMap

variable {α : Type}

def keys (m : BTreeMap α) : List Text := m.entries.map Prod.fst

def get (m : BTreeMap α) (key : Text) : Option α := (m.entries.find? (·.1 = key)).map Prod.snd

end BTreeMap

structure Credential where
  username : Text
  password : Text

structure MailCredential where
  username : Text
  password : Text

structure MailMessage where
  uid : Option Text
  fromAddr : Text
  toAddrs : List Text
  subject : Text
  date : Option Text
  body : Text
  flags : Option (List Text)

abbrev Mailboxes := BTreeMap (List MailMessage)

structure MailCustomResponse where
  command : Text
  argsContains : Option (List Text)
  response : Text
  eventType : Option Text

structure RedisCommandResponse where
  command : Text
  argsContains : Option (List Text)
  response : Text
  eventType : Option Text

/-- Does the command contain all the arguments a configured response asks for? -/
def argsMatch (argsContains : Option (List Text)) (lowered : Text) : Bool :=
  (argsContains.map fun items =>
    items.all fun item => contains lowered (toAsciiLowercase item)).getD true

structure SimSmtpConfig where
  banner : Option Text
  hostname : Option Text
  requireAuth : Option Bool
  credentials : Option (List MailCredential)
  capabilities : Option (List Text)
  acceptedRecipients : Option (List Text)
  customResponses : Option (List MailCustomResponse)

structure SimPop3Config where
  banner : Option Text
  requireAuth : Option Bool
  credentials : Option (List MailCredential)
  capabilities : Option (List Text)
  messages : Option (List MailMessage)
  customResponses : Option (List MailCustomResponse)

structure SimImapConfig where
  banner : Option Text
  requireAuth : Option Bool
  credentials : Option (List MailCredential)
  capabilities : Option (List Text)
  mailboxes : Option Mailboxes
  messages : Option (List MailMessage)
  customResponses : Option (List MailCustomResponse)

structure SimFtpConfig where
  banner : Option Text
  credentials : Option (List Credential)
  serverName : Option Text
  allowAnonymous : Option Bool

structure SimRedisConfig where
  banner : Option Text
  requireAuth : Option Bool
  password : Option Text
  serverInfo : Option (BTreeMap Text)
  keys : Option (BTreeMap Text)
  commandResponses : Option (List RedisCommandResponse)

structure SimMemcachedConfig where
  serverVersion : Option Text
  stats : Option (BTreeMap Text)

structure SimDatabaseConfig where
  serverVersion : Option Text
  credentials : Option (List Credential)
  databases : Option (List Text)
  queryResponses : Option (BTreeMap Text)

structure SimDnsConfig where
  records : BTreeMap Text
  defaultIpv4 : Option Text
  ttl : Option UInt32

structure SimSnmpConfig where
  community : Option Text
  systemDescription : Option Text
  systemName : Option Text
  systemLocation : Option Text
  oids : Option (BTreeMap Text)

structure SimMqttConfig where
  allowAnonymous : Option Bool

structure SimLdapConfig where
  baseDn : Text

structure SimMongodbConfig where
  serverVersion : Option Text
  hostname : Option Text
  maxWireVersion : Option Int32

structure SimVncConfig where
  protocolVersion : Option Text
  securityTypes : Option (List Text)

/-- The context every simulation shares with its connections. -/
structure SimulationContext (Config : Type) where
  ruleId : Text
  nodeId : Text
  port : UInt16
  config : Config

/-- The client's address; the IP address as it is printed. -/
structure SocketAddr where
  ip : Text
  port : UInt16

end ProtocolSimulation.Engine
