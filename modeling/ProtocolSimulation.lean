import ProtocolSimulation.Programs
import ProtocolSimulation.Ownership
import ProtocolSimulation.Texts
import ProtocolSimulation.Identifiers
import ProtocolSimulation.JsonValues
import ProtocolSimulation.RuleClient
import ProtocolSimulation.KeyedTables
import ProtocolSimulation.Protocols
import ProtocolSimulation.Database
import ProtocolSimulation.RuleTables
import ProtocolSimulation.Retention
import ProtocolSimulation.ApiModels
import ProtocolSimulation.RuntimeEvents
import ProtocolSimulation.AuditLog
import ProtocolSimulation.AuditWriter
import ProtocolSimulation.AuditIsolation
import ProtocolSimulation.PcapNames
import ProtocolSimulation.Service
import ProtocolSimulation.PcapRoutes
import ProtocolSimulation.InstanceRoutes
import ProtocolSimulation.Deployments
import ProtocolSimulation.PortExclusivity
import ProtocolSimulation.Workloads
import ProtocolSimulation.CaptureOps
import ProtocolSimulation.PcapFiles
import ProtocolSimulation.CaptureRuns
import ProtocolSimulation.CaptureRecovery
import ProtocolSimulation.Conversations
import ProtocolSimulation.EngineConfigs
import ProtocolSimulation.LineSessions
import ProtocolSimulation.MailCommon
import ProtocolSimulation.Smtp
import ProtocolSimulation.Pop3
import ProtocolSimulation.Imap
import ProtocolSimulation.Ftp
import ProtocolSimulation.Redis
import ProtocolSimulation.Dns
import ProtocolSimulation.EventAcceptance
import ProtocolSimulation.AcceptedConnections
import ProtocolSimulation.Requests
import ProtocolSimulation.RowShapes
import ProtocolSimulation.Histories
import ProtocolSimulation.ReconcileRuns
import ProtocolSimulation.StopRecords
import ProtocolSimulation.CaptureTimers
import ProtocolSimulation.LifecycleLocks
import ProtocolSimulation.Fallible
import ProtocolSimulation.BigEndian
import ProtocolSimulation.SortedMaps
import ProtocolSimulation.Snmp
import ProtocolSimulation.SnmpCodec
import ProtocolSimulation.SnmpOids
import ProtocolSimulation.SnmpMessages
import ProtocolSimulation.SnmpRequests
import ProtocolSimulation.SnmpResponses
import ProtocolSimulation.SnmpValues
import ProtocolSimulation.SnmpSafety
import ProtocolSimulation.SnmpWalks
import ProtocolSimulation.TwoTalks
import ProtocolSimulation.BeforeAuthentication
import ProtocolSimulation.RedisDeliveries
import ProtocolSimulation.EngineMain
import ProtocolSimulation.LaunchedEndpoints
import ProtocolSimulation.BehaviorShapes
import ProtocolSimulation.Vnc
import ProtocolSimulation.StartChecks
import ProtocolSimulation.Databases
import ProtocolSimulation.Framing
import ProtocolSimulation.Postgresql
import ProtocolSimulation.PostgresqlSessions
import ProtocolSimulation.Mysql
import ProtocolSimulation.Mqtt
import ProtocolSimulation.ParserSafety
import ProtocolSimulation.Panics
import ProtocolSimulation.DnsWire
import ProtocolSimulation.DnsAnswers
import ProtocolSimulation.MysqlRows
import ProtocolSimulation.MysqlHandshakes
import ProtocolSimulation.MysqlLogins
import ProtocolSimulation.StartupParameters
import ProtocolSimulation.Words
import ProtocolSimulation.QueryNormalForms
import ProtocolSimulation.RedisCapacity
import ProtocolSimulation.RedisReplies
import ProtocolSimulation.MemcachedReads
import ProtocolSimulation.DottedTexts
import ProtocolSimulation.Pop3Retrievals
import ProtocolSimulation.LineHistories
import ProtocolSimulation.Pop3Marks
import ProtocolSimulation.Pop3Views
import ProtocolSimulation.ImapFetches
import ProtocolSimulation.Resp
import ProtocolSimulation.Memcached
import ProtocolSimulation.ImapSelections
import ProtocolSimulation.MailLogins
import ProtocolSimulation.SmtpTransactions
import ProtocolSimulation.Ldap
import ProtocolSimulation.LdapMessages
import ProtocolSimulation.Bson
import ProtocolSimulation.Mongodb
import ProtocolSimulation.MongodbReplies
import ProtocolSimulation.Rdp
import ProtocolSimulation.RdpRequests
import ProtocolSimulation.Windows
import ProtocolSimulation.Septets
import ProtocolSimulation.MqttPackets
import ProtocolSimulation.UdpReplies
import ProtocolSimulation.RulePackages
import ProtocolSimulation.RuleArchives
import ProtocolSimulation.RuleReplacements
import ProtocolSimulation.DefaultPorts
import ProtocolSimulation.RuleRoutes
import ProtocolSimulation.SnmpIntegers
import ProtocolSimulation.SnmpEchoes
import ProtocolSimulation.RuleEndpoints
import ProtocolSimulation.AutoStopDelays
import ProtocolSimulation.Paths
import ProtocolSimulation.PcapCleanup
import ProtocolSimulation.ConcurrentMaps
import ProtocolSimulation.ConcurrentMapRuns
import ProtocolSimulation.Machines
import ProtocolSimulation.Reporter
import ProtocolSimulation.ReporterRuns
import ProtocolSimulation.EventIntake
import ProtocolSimulation.Deliveries
import ProtocolSimulation.DeliveryRuns
import ProtocolSimulation.GrowingLogs
import ProtocolSimulation.LogPages
import ProtocolSimulation.AuditDialog
import ProtocolSimulation.Telnet
import ProtocolSimulation.Http
import ProtocolSimulation.MysqlSessions
import ProtocolSimulation.MongodbSessions
import ProtocolSimulation.FramedTalks
import ProtocolSimulation.DnsConnections
import ProtocolSimulation.MqttSessions
import ProtocolSimulation.EngineRuns
import ProtocolSimulation.Undeploys
