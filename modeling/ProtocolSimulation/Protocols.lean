import ProtocolSimulation.JsonValues

/-!
# The simulated protocols and their endpoints

What the API service and the engine share: the protocol names, the endpoints each
protocol declares and the configuration an engine is launched with.
-/
namespace ProtocolSimulation.Protocols

open ProtocolSimulation.Texts ProtocolSimulation.JsonValues

inductive TransportProtocol where
  | tcp
  | udp
deriving DecidableEq

def TransportProtocol.asStr : TransportProtocol → Text
  | tcp => "tcp"
  | udp => "udp"

inductive ProtocolId where
  | http | redis | smtp | pop3 | imap | ssh | ftp | rdp | telnet | mysql | postgresql | smb | ldap
  | dns | mongodb | memcached | snmp | mqtt | vnc
deriving DecidableEq

namespace ProtocolId

def ALL : List ProtocolId :=
  [http, redis, smtp, pop3, imap, ssh, ftp, rdp, telnet, mysql, postgresql, smb, ldap, dns, mongodb,
    memcached, snmp, mqtt, vnc]

def asStr : ProtocolId → Text
  | http => "http"
  | redis => "redis"
  | smtp => "smtp"
  | pop3 => "pop3"
  | imap => "imap"
  | ssh => "ssh"
  | ftp => "ftp"
  | rdp => "rdp"
  | telnet => "telnet"
  | mysql => "mysql"
  | postgresql => "postgresql"
  | smb => "smb"
  | ldap => "ldap"
  | dns => "dns"
  | mongodb => "mongodb"
  | memcached => "memcached"
  | snmp => "snmp"
  | mqtt => "mqtt"
  | vnc => "vnc"

def fromStr (value : Text) : Except Text ProtocolId :=
  match ALL.find? fun protocol => protocol.asStr = value with
  | some protocol => .ok protocol
  | none => .error (("unsupported simulation protocol: " : Text) ++ value)

/-- Parsing accepts exactly the name of the protocol it returns. -/
theorem fromStr_eq_ok_iff {value : Text} {protocol : ProtocolId} :
    fromStr value = .ok protocol ↔ value = protocol.asStr := by
  constructor
  · intro h
    unfold fromStr at h
    split at h
    next p hp =>
      have hname : p.asStr = value := by simpa using List.find?_some hp
      rw [← Except.ok.inj h, hname]
    next => exact absurd h (by simp)
  · rintro rfl
    cases protocol <;> rfl

end ProtocolId

structure EndpointSpec where
  id : Text
  role : Text
  transport : TransportProtocol
  containerPort : UInt16
  defaultHostPort : UInt16
  required : Bool

/-- The port a protocol's engine listens on. -/
def protocolPort : ProtocolId → UInt16
  | .http => 80
  | .redis => 6379
  | .smtp => 25
  | .pop3 => 110
  | .imap => 143
  | .ssh => 22
  | .ftp => 21
  | .rdp => 3389
  | .telnet => 23
  | .mysql => 3306
  | .postgresql => 5432
  | .smb => 445
  | .ldap => 389
  | .dns => 53
  | .mongodb => 27017
  | .memcached => 11211
  | .snmp => 161
  | .mqtt => 1883
  | .vnc => 5900

/-- The `endpoints` of `protocol_descriptor`. -/
def protocolEndpoints (protocol : ProtocolId) : List EndpointSpec :=
  let port := protocolPort protocol
  match protocol with
  | .dns => [⟨"dns-tcp", "service", .tcp, 53, 1053, true⟩,
    ⟨"dns-udp", "service", .udp, 53, 1053, true⟩]
  | .snmp => [⟨"main", "service", .udp, port, port, true⟩]
  | _ => [⟨"main", "service", .tcp, port, port, true⟩]

theorem protocolEndpoints_distinct (protocol : ProtocolId) :
    ((protocolEndpoints protocol).map EndpointSpec.id).Nodup := by
  cases protocol <;> decide

theorem protocolEndpoints_required {protocol : ProtocolId} {endpoint : EndpointSpec}
    (h : endpoint ∈ protocolEndpoints protocol) : endpoint.required = true := by
  cases protocol <;> simp [protocolEndpoints] at h <;> rcases h with rfl | rfl <;> rfl

theorem protocolEndpoints_nonempty (protocol : ProtocolId) :
    ∃ e, e ∈ protocolEndpoints protocol := by
  cases protocol <;> exact ⟨_, List.mem_cons_self⟩

structure BoundEndpoint where
  endpointId : Text
  transport : TransportProtocol
  hostPort : UInt16
  containerPort : UInt16

structure EngineLaunchConfig where
  schemaVersion : ℕ
  protocol : ProtocolId
  ruleId : Text
  ruleName : Text
  instanceId : Text
  callbackUrl : Text
  callbackToken : Text
  endpoints : List BoundEndpoint
  behavior : Json

end ProtocolSimulation.Protocols
