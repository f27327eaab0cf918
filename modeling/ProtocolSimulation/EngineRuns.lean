import ProtocolSimulation.EngineMain
import ProtocolSimulation.Machines
import ProtocolSimulation.RedisCapacity
import ProtocolSimulation.SnmpSafety
import ProtocolSimulation.StartChecks

/-!
# The engine as a process

The main task binds a socket for each endpoint, spawns a simulation on it, and waits
for the first simulation that ends or for the shutdown signal. The simulations run
beside it, and the tasks of their connections: which of them goes on next, which clients
come and what they send, which operation of the network fails and whether memory is
granted is up to the schedule. Only the memory for an array that a Redis client announces
is asked for here; what the code bounds itself is granted.
-/
namespace ProtocolSimulation.Engine.Process

open ProtocolSimulation.Texts ProtocolSimulation.JsonValues ProtocolSimulation.Protocols
open ProtocolSimulation.Conversations ProtocolSimulation.Machines

/-! ## The simulations -/

/-- What the process is started with, and whether the behaviour of a protocol that has no more
checks can be read as its configuration. SNMP keys that only some builds can write are left out. -/
structure Launch where
  config : EngineLaunchConfig
  nodeId : Text
  readable : ProtocolId → Json → Bool
  plain : config.protocol = .snmp → ∀ found, SimSnmpConfig.fromValue config.behavior = some found →
    ∀ values, Snmp.buildValues found = .ok values → ∀ key ∈ values.keys, Snmp.Plain key

/-- The loop of a simulation: over connections, where that of HTTP goes on when an accept fails, or
over datagrams. -/
inductive Service where
  | connections
  | http
  | dns (runtime : DnsRuntime)
  | snmp (runtime : Snmp.Runtime)

/-- The configuration of a DNS simulation that starts. -/
def dnsConfig (behavior : Json) : Option { config // validateDnsConfig config = .ok () } :=
  (SimDnsConfig.fromValue behavior).bind fun config =>
    if h : validateDnsConfig config = .ok () then some ⟨config, h⟩ else none

/-- The configuration of an SNMP simulation, with the values it starts with. -/
def snmpConfig (behavior : Json) :
    Option { found : SimSnmpConfig × Snmp.SnmpValues // Snmp.buildValues found.1 = .ok found.2 } :=
  (SimSnmpConfig.fromValue behavior).bind fun config =>
    match h : Snmp.buildValues config with
    | .ok values => some ⟨(config, values), h⟩
    | .error _ => none

/-- `run_tcp_simulation`, up to the loop; none if it fails before. -/
def runTcpSimulation (launch : Launch) : Option Service :=
  let behavior := launch.config.behavior
  match launch.config.protocol with
  | .http => if launch.readable .http behavior then some .http else none
  | .dns => (dnsConfig behavior).map fun _ => .connections
  | .vnc =>
    (SimVncConfig.fromValue behavior).bind fun config =>
      (normalizeConfig config).toOption.map fun _ => .connections
  | .snmp => none
  | protocol => if launch.readable protocol behavior then some .connections else none

/-- `run_udp_simulation`, up to the loop; none if it fails before. -/
def runUdpSimulation (launch : Launch) (endpoint : BoundEndpoint) : Option Service :=
  let config := launch.config
  match config.protocol with
  | .dns => (dnsConfig config.behavior).map fun found =>
      .dns ⟨⟨config.ruleId, launch.nodeId, endpoint.containerPort, found.val⟩, endpoint.endpointId,
        .udp, found.property⟩
  | .snmp => (snmpConfig config.behavior).map fun found =>
      .snmp ⟨⟨config.ruleId, launch.nodeId, endpoint.containerPort, found.val.1⟩,
        endpoint.endpointId, found.val.2, found.property⟩
  | _ => none

/-- What becomes of the simulation of an endpoint when it starts. -/
def serviceOf (launch : Launch) (endpoint : BoundEndpoint) : Option Service :=
  match endpoint.transport with
  | .tcp => runTcpSimulation launch
  | .udp => runUdpSimulation launch endpoint

/-- Does the loop go on when an accept fails? -/
def Service.afterAcceptError : Service → Option Bool
  | .connections => some false
  | .http => some true
  | .dns _ => none
  | .snmp _ => none

/-- Does the loop go on behind a datagram, where the response, if there is one, is sent or not? -/
def Service.afterDatagram (peer : SocketAddr) (datagram : Bytes) (sent : Bool) :
    Service → Option Bool
  | .connections => none
  | .http => none
  | .dns runtime => some ((written (handleDatagram runtime peer datagram)).isEmpty || sent)
  | .snmp runtime =>
    match Snmp.handleDatagram runtime peer datagram with
    | .error _ => some false
    | .ok outs => some ((written outs).isEmpty || sent)

/-- Does the loop read datagrams? -/
def Service.receives : Service → Bool
  | .connections => false
  | .http => false
  | .dns _ => true
  | .snmp _ => true

/-- The task of a simulation in the set of the main task; over with success or not. -/
inductive SimPhase where
  | spawned
  | serving (service : Service)
  | ended (ok : Bool)
  | joined

structure Sim where
  endpoint : BoundEndpoint
  phase : SimPhase
  signalled : Bool

/-! ## The process -/

inductive MainPhase where
  | starting (rest : List BoundEndpoint)
  | waiting
  | draining
  | exited (ok : Bool)
  | aborted

/-- A connection, and whether its task still runs. -/
structure Connection where
  endpoint : BoundEndpoint
  peer : SocketAddr
  alive : Bool

/-- The main task, the simulations, and the connections that were handed to a task of their own. -/
structure State where
  main : MainPhase
  sims : List Sim
  connections : List Connection

/-- What happens: steps of the main task, and of the simulation or the connection with a number. An
operation of the network has a result or fails, and memory is granted or refused. -/
inductive Action where
  | bind (bound : Bool)
  | shutdown
  | join (i : ℕ)
  | drained
  | deadline
  | start (i : ℕ)
  | accept (i : ℕ) (accepted : Option SocketAddr)
  | receive (i : ℕ) (received : Option (SocketAddr × Bytes)) (sent : Bool)
  | stop (i : ℕ)
  | read (i : ℕ) (received : RedisRead) (granted : Bool)
  | close (i : ℕ)

/-- The checks at the start. -/
def State.launched (launch : Launch) : State where
  main :=
    if launch.config.schemaVersion ≠ 1 then .exited false
    else
      match validatedEndpoints launch.config with
      | .ok endpoints => .starting endpoints
      | .error _ => .exited false
  sims := []
  connections := []

/-- `signal_simulations`. -/
def signalSimulations (sims : List Sim) : List Sim :=
  sims.map fun sim => { sim with signalled := true }

/-- The first simulation that is over ends the process with its result. -/
def joinFirst (s : State) (i : ℕ) (sim : Sim) (ok : Bool) : State where
  main := .exited ok
  sims := signalSimulations (s.sims.set i { sim with phase := .joined })
  connections := s.connections

/-- A round of `drain_simulations`. -/
def drainNext (s : State) (i : ℕ) (sim : Sim) (ok : Bool) : State where
  main := if ok then .draining else .exited false
  sims := s.sims.set i { sim with phase := .joined }
  connections := s.connections

/-- What a simulation does next by itself. -/
def Sim.turn (launch : Launch) (sim : Sim) : Action → Option SimPhase
  | .start _ =>
    match sim.phase with
    | .spawned => some ((serviceOf launch sim.endpoint).elim (.ended false) .serving)
    | _ => none
  | .accept _ accepted =>
    match sim.phase with
    | .serving service => service.afterAcceptError.map fun survives =>
        if accepted.isSome || survives then .serving service else .ended false
    | _ => none
  | .receive _ received sent =>
    match sim.phase with
    | .serving service =>
      match received with
      | none => if service.receives then some (.ended false) else none
      | some (peer, datagram) => (service.afterDatagram peer datagram sent).map fun survives =>
          if survives then .serving service else .ended false
    | _ => none
  | .stop _ =>
    match sim.phase with
    | .serving _ => if sim.signalled then some (.ended true) else none
    | _ => none
  | _ => none

/-- The client that is accepted. -/
def Action.peer : Action → Option SocketAddr
  | .accept _ accepted => accepted
  | _ => none

/-- The simulation that an action is about. -/
def Action.number : Action → ℕ
  | .start i => i
  | .accept i _ => i
  | .receive i _ _ => i
  | .stop i => i
  | .join i => i
  | _ => 0

def simStep (launch : Launch) (s : State) (action : Action) : Option State :=
  s.sims[action.number]?.bind fun sim => (sim.turn launch action).map fun phase =>
    { s with
      sims := s.sims.set action.number { sim with phase := phase }
      connections := s.connections ++
        (action.peer.map fun peer => ⟨sim.endpoint, peer, true⟩).toList }

/-- The task of a connection is over. -/
def endConnection (s : State) (i : ℕ) (connection : Connection) : State where
  main := s.main
  sims := s.sims
  connections := s.connections.set i { connection with alive := false }

/-- A connection of the Redis simulation parses what it has read. A panic is its own, but memory
that is refused aborts the process. -/
def readStep (launch : Launch) (s : State) (i : ℕ) (received : RedisRead) (granted : Bool) :
    Option State :=
  (s.connections[i]?.filter Connection.alive).bind fun connection =>
    if launch.config.protocol = .redis then
      match parseRedisCommand received.val with
      | .error _ => some (endConnection s i connection)
      | .ok _ =>
        if granted ∨ reservedCapacity received.val = 0 then some s
        else some { s with main := .aborted }
    else none

/-- What the simulations and the connections do by themselves. -/
def taskStep (launch : Launch) (s : State) : Action → Option State
  | .read i received granted => readStep launch s i received granted
  | .close i => (s.connections[i]?.filter Connection.alive).map (endConnection s i)
  | action => simStep launch s action

def step (launch : Launch) (s : State) (action : Action) : Option State :=
  match s.main, action with
  | .exited _, _ => none
  | .aborted, _ => none
  | .starting (endpoint :: rest), .bind bound =>
    if bound then
      some { s with
        main := if rest.isEmpty then .waiting else .starting rest
        sims := s.sims ++ [⟨endpoint, .spawned, false⟩] }
    else some { s with main := .exited false }
  | .waiting, .shutdown =>
    some { s with main := .draining, sims := signalSimulations s.sims }
  | .waiting, .join i =>
    s.sims[i]?.bind fun sim =>
      match sim.phase with
      | .ended ok => some (joinFirst s i sim ok)
      | _ => none
  | .draining, .join i =>
    s.sims[i]?.bind fun sim =>
      match sim.phase with
      | .ended ok => some (drainNext s i sim ok)
      | _ => none
  | .draining, .drained =>
    if s.sims.all fun sim => sim.phase matches .joined then some { s with main := .exited true }
    else none
  | .draining, .deadline => some { s with main := .exited true }
  | _, action => taskStep launch s action

/-! ## What a step does -/

/-- The process is no more. -/
def MainPhase.over : MainPhase → Bool
  | .starting _ => false
  | .waiting => false
  | .draining => false
  | .exited _ => true
  | .aborted => true

/-- The process is on its way out. -/
def MainPhase.closing : MainPhase → Bool
  | .starting _ => false
  | .waiting => false
  | .draining => true
  | .exited _ => true
  | .aborted => true

/-- What the steps of the process do. -/
inductive Change (launch : Launch) (s : State) : Action → State → Prop where
  | bound {endpoint : BoundEndpoint} {rest : List BoundEndpoint}
    (hmain : s.main = .starting (endpoint :: rest)) :
    Change launch s (.bind true) { s with
      main := if rest.isEmpty then .waiting else .starting rest
      sims := s.sims ++ [⟨endpoint, .spawned, false⟩] }
  | unbound {endpoint : BoundEndpoint} {rest : List BoundEndpoint}
    (hmain : s.main = .starting (endpoint :: rest)) :
    Change launch s (.bind false) { s with main := .exited false }
  | shutdown (hmain : s.main = .waiting) :
    Change launch s .shutdown { s with main := .draining, sims := signalSimulations s.sims }
  | joinFirst {i : ℕ} {sim : Sim} {ok : Bool} (hmain : s.main = .waiting)
    (hsim : s.sims[i]? = some sim) (hphase : sim.phase = .ended ok) :
    Change launch s (.join i) (joinFirst s i sim ok)
  | drainNext {i : ℕ} {sim : Sim} {ok : Bool} (hmain : s.main = .draining)
    (hsim : s.sims[i]? = some sim) (hphase : sim.phase = .ended ok) :
    Change launch s (.join i) (drainNext s i sim ok)
  | finished {action : Action} (hmain : s.main = .draining) (hpeer : action.peer = none) :
    Change launch s action { s with main := .exited true }
  | turn {action : Action} {sim : Sim} {phase : SimPhase} (hlive : s.main.over = false)
    (hsim : s.sims[action.number]? = some sim) (hturn : sim.turn launch action = some phase) :
    Change launch s action { s with
      sims := s.sims.set action.number { sim with phase := phase }
      connections := s.connections ++
        (action.peer.map fun peer => ⟨sim.endpoint, peer, true⟩).toList }
  | ended {action : Action} {i : ℕ} {connection : Connection} (hlive : s.main.over = false)
    (hpeer : action.peer = none) (hconnection : s.connections[i]? = some connection) :
    Change launch s action (endConnection s i connection)
  | parsed {i : ℕ} {received : RedisRead} {granted : Bool} (hlive : s.main.over = false) :
    Change launch s (.read i received granted) s
  | refused {i : ℕ} {received : RedisRead} {parsed : Option RedisCommand}
    (hlive : s.main.over = false) (hredis : launch.config.protocol = .redis)
    (hparsed : parseRedisCommand received.val = .ok parsed)
    (hreserves : reservedCapacity received.val ≠ 0) :
    Change launch s (.read i received false) { s with main := .aborted }

section Task

variable {launch : Launch} {s s' : State} (hlive : s.main.over = false)
include hlive

theorem simStep_change {action : Action} (h : simStep launch s action = some s') :
    Change launch s action s' := by
  rw [simStep] at h
  obtain ⟨sim, hsim, h⟩ := Option.bind_eq_some_iff.mp h
  obtain ⟨phase, hturn, hstate⟩ := Option.map_eq_some_iff.mp h
  rw [← hstate]
  exact .turn hlive hsim hturn

theorem readStep_change {i : ℕ} {received : RedisRead} {granted : Bool}
    (h : readStep launch s i received granted = some s') :
    Change launch s (.read i received granted) s' := by
  rw [readStep] at h
  obtain ⟨connection, hconnection, h⟩ := Option.bind_eq_some_iff.mp h
  obtain ⟨hconnection, _⟩ := Option.filter_eq_some_iff.mp hconnection
  split at h
  next hredis =>
    split at h
    next =>
      cases h
      exact .ended hlive rfl hconnection
    next hparsed =>
      split at h
      next =>
        cases h
        exact .parsed hlive
      next hrefused =>
        cases h
        obtain ⟨hgranted, hreserves⟩ := not_or.mp hrefused
        rw [Bool.eq_false_of_not_eq_true hgranted]
        exact .refused hlive hredis hparsed hreserves
  next => cases h

theorem taskStep_change {action : Action} (h : taskStep launch s action = some s') :
    Change launch s action s' := by
  unfold taskStep at h
  split at h
  next => exact readStep_change hlive h
  next =>
    obtain ⟨connection, hconnection, hstate⟩ := Option.map_eq_some_iff.mp h
    obtain ⟨hconnection, _⟩ := Option.filter_eq_some_iff.mp hconnection
    rw [← hstate]
    exact .ended hlive rfl hconnection
  next => exact simStep_change hlive h

end Task

theorem step_change {launch : Launch} {s s' : State} {action : Action}
    (h : step launch s action = some s') : Change launch s action s' := by
  unfold step at h
  split at h
  next => cases h
  next => cases h
  next endpoint rest bound hmain =>
    split at h
    next hbound =>
      cases h
      rw [hbound]
      exact .bound hmain
    next hbound =>
      cases h
      rw [Bool.eq_false_of_not_eq_true hbound]
      exact .unbound hmain
  next hmain =>
    cases h
    exact .shutdown hmain
  next i hmain =>
    obtain ⟨sim, hsim, h⟩ := Option.bind_eq_some_iff.mp h
    split at h
    next ok hphase =>
      cases h
      exact .joinFirst hmain hsim hphase
    next => cases h
  next i hmain =>
    obtain ⟨sim, hsim, h⟩ := Option.bind_eq_some_iff.mp h
    split at h
    next ok hphase =>
      cases h
      exact .drainNext hmain hsim hphase
    next => cases h
  next hmain =>
    split at h
    next =>
      cases h
      exact .finished hmain rfl
    next => cases h
  next hmain =>
    cases h
    exact .finished hmain rfl
  next hexited haborted _ _ _ _ _ _ =>
    refine taskStep_change ?_ h
    cases hmain : s.main with
    | exited ok => exact absurd hmain (hexited ok)
    | aborted => exact absurd hmain haborted
    | _ => rfl

/-! ## When a simulation starts -/

/-- The behaviour means something to the simulation of the protocol. -/
def Launch.BehaviorStarts (launch : Launch) : Prop :=
  let behavior := launch.config.behavior
  match launch.config.protocol with
  | .dns => ∃ config, SimDnsConfig.fromValue behavior = some config ∧ config.Startable
  | .vnc => ∃ config, SimVncConfig.fromValue behavior = some config ∧ config.Startable
  | .snmp => ∃ config, SimSnmpConfig.fromValue behavior = some config ∧ config.Startable
  | protocol => launch.readable protocol behavior = true

/-- The engine starts all that it is launched with. -/
structure Launch.Startable (launch : Launch) : Prop where
  schema : launch.config.schemaVersion = 1
  endpoints : ∃ endpoints, validatedEndpoints launch.config = .ok endpoints
  behavior : launch.BehaviorStarts

theorem dnsConfig_isSome_iff {behavior : Json} : (dnsConfig behavior).isSome = true ↔
    ∃ config, SimDnsConfig.fromValue behavior = some config ∧ config.Startable := by
  rw [dnsConfig]
  cases SimDnsConfig.fromValue behavior with
  | none => simp
  | some config =>
    simp only [Option.bind_some, Option.some.injEq, exists_eq_left', ← validateDnsConfig_ok_iff]
    split <;> simp_all

theorem snmpConfig_isSome_iff {behavior : Json} : (snmpConfig behavior).isSome = true ↔
    ∃ config, SimSnmpConfig.fromValue behavior = some config ∧ config.Startable := by
  rw [snmpConfig]
  cases SimSnmpConfig.fromValue behavior with
  | none => simp
  | some config =>
    simp only [Option.bind_some, Option.some.injEq, exists_eq_left', ← buildValues_ok_iff]
    split <;> simp_all

/-- Only DNS and SNMP are served over UDP. -/
theorem tcp_of_mem_protocolEndpoints {protocol : ProtocolId} {spec : EndpointSpec}
    (hdns : protocol ≠ .dns) (hsnmp : protocol ≠ .snmp) (h : spec ∈ protocolEndpoints protocol) :
    spec.transport = .tcp := by
  cases protocol with
  | dns => exact absurd rfl hdns
  | snmp => exact absurd rfl hsnmp
  | _ => rw [List.mem_singleton.mp h]

/-- The simulations that the engine selects for the declared endpoints start. -/
theorem serviceOf_isSome {launch : Launch} (h : launch.Startable) {endpoint : BoundEndpoint}
    (hendpoint : endpoint ∈ launch.config.endpoints) :
    (serviceOf launch endpoint).isSome = true := by
  obtain ⟨endpoints, hvalid⟩ := h.endpoints
  obtain ⟨_, hdeclared, _⟩ := validatedEndpoints_ok_iff.mp hvalid
  obtain ⟨spec, hspec, _, htransport, _⟩ := hdeclared endpoint hendpoint
  have hbehavior := h.behavior
  rw [Launch.BehaviorStarts] at hbehavior
  cases hprotocol : launch.config.protocol with
  | dns =>
    simp only [hprotocol] at hbehavior
    have hdns := dnsConfig_isSome_iff.mpr hbehavior
    rw [serviceOf]
    cases endpoint.transport with
    | tcp => simp [runTcpSimulation, hprotocol, hdns]
    | udp => simp [runUdpSimulation, hprotocol, hdns]
  | snmp =>
    simp only [hprotocol] at hbehavior
    have hsnmp := snmpConfig_isSome_iff.mpr hbehavior
    have hudp : endpoint.transport = .udp := by
      rw [hprotocol] at hspec
      rw [htransport, List.mem_singleton.mp hspec]
    simp [serviceOf, hudp, runUdpSimulation, hprotocol, hsnmp]
  | vnc =>
    simp only [hprotocol] at hbehavior
    obtain ⟨config, hread, hstarts⟩ := hbehavior
    obtain ⟨normalized, hnormalized⟩ := normalizeConfig_ok_iff.mpr hstarts
    have htcp : endpoint.transport = .tcp := by
      rw [htransport]
      exact tcp_of_mem_protocolEndpoints (by simp [hprotocol]) (by simp [hprotocol]) hspec
    simp [serviceOf, htcp, runTcpSimulation, hprotocol, hread, hnormalized, Except.toOption]
  | _ =>
    simp only [hprotocol] at hbehavior
    have htcp : endpoint.transport = .tcp := by
      rw [htransport]
      exact tcp_of_mem_protocolEndpoints (by simp [hprotocol]) (by simp [hprotocol]) hspec
    simp [serviceOf, htcp, runTcpSimulation, hprotocol, hbehavior]

/-! ## What can go wrong -/

/-- An operation of the network fails, or an SNMP simulation gets a datagram that makes it reach a
key that cannot be written. -/
def Fault (launch : Launch) : Action → Prop
  | .bind bound => bound = false
  | .accept _ accepted => accepted = none
  | .receive _ received sent => sent = false ∨ received = none ∨
      ∃ peer datagram endpoint runtime, received = some (peer, datagram) ∧
        serviceOf launch endpoint = some (.snmp runtime) ∧ ¬Snmp.Harmless runtime datagram
  | _ => False

/-- The memory for an array that a client of a Redis simulation announces is refused. -/
def Refused (launch : Launch) : Action → Prop
  | .read _ received granted => granted = false ∧ launch.config.protocol = .redis ∧
      ∃ n, AnnouncesArray received.val n ∧ 0 < n ∧ n * STRING_SIZE < 2 ^ 63
  | _ => False

/-- The engine was launched with what it cannot start, or something went wrong since. -/
def Excused (launch : Launch) (actions : List Action) : Prop :=
  ¬launch.Startable ∨ ∃ action ∈ actions, Fault launch action

theorem Excused.later {launch : Launch} {actions : List Action} (h : Excused launch actions)
    (action : Action) : Excused launch (actions ++ [action]) := by
  obtain h | ⟨fault, hfault, h⟩ := h
  · exact Or.inl h
  · exact Or.inr ⟨fault, List.mem_append_left _ hfault, h⟩

theorem excused_of_fault {launch : Launch} {action : Action} (h : Fault launch action)
    (actions : List Action) : Excused launch (actions ++ [action]) :=
  Or.inr ⟨action, by simp, h⟩

/-- A datagram ends a simulation only if something goes wrong with it. -/
theorem fault_of_datagram {launch : Launch} {endpoint : BoundEndpoint} {service : Service}
    {i : ℕ} {peer : SocketAddr} {datagram : Bytes} {sent : Bool}
    (hservice : serviceOf launch endpoint = some service)
    (h : service.afterDatagram peer datagram sent = some false) :
    Fault launch (.receive i (some (peer, datagram)) sent) := by
  cases service with
  | connections => cases h
  | http => cases h
  | dns runtime =>
    simp only [Service.afterDatagram, Option.some.injEq, Bool.or_eq_false_iff] at h
    exact Or.inl h.2
  | snmp runtime =>
    rw [Service.afterDatagram] at h
    split at h
    next error herror =>
      refine Or.inr (Or.inr ⟨peer, datagram, endpoint, runtime, rfl, hservice, ?_⟩)
      intro hharmless
      obtain ⟨outs, houts⟩ := (@Snmp.handleDatagram_ok_iff runtime peer datagram).mpr hharmless
      rw [houts] at herror
      cases herror
    next outs _ =>
      simp only [Option.some.injEq, Bool.or_eq_false_iff] at h
      exact Or.inl h.2

/-- What holds of a simulation in every run; `late` once the process is on its way out. -/
structure SimRight (launch : Launch) (late : Bool) (actions : List Action) (sim : Sim) : Prop where
  listed : sim.endpoint ∈ launch.config.endpoints
  told : sim.signalled = true → late = true
  stopped : sim.phase = .ended true → sim.signalled = true
  failed : sim.phase = .ended false → Excused launch actions
  joined : sim.phase = .joined → late = true
  serving : ∀ service, sim.phase = .serving service →
    serviceOf launch sim.endpoint = some service

theorem SimRight.later {launch : Launch} {late late' : Bool} {actions : List Action} {sim : Sim}
    (h : SimRight launch late actions sim) (hlate : late = true → late' = true) (action : Action) :
    SimRight launch late' (actions ++ [action]) sim where
  listed := h.listed
  told hsignalled := hlate (h.told hsignalled)
  stopped := h.stopped
  failed hphase := (h.failed hphase).later action
  joined hphase := hlate (h.joined hphase)
  serving := h.serving

/-- A simulation starts, or goes on, or ends: by itself only if something goes wrong, and with
success only if it is told to. -/
theorem Sim.turn_cases {launch : Launch} {sim : Sim} {action : Action} {phase : SimPhase}
    (h : sim.turn launch action = some phase) :
    (phase = (serviceOf launch sim.endpoint).elim (.ended false) .serving) ∨
    ∃ service, sim.phase = .serving service ∧ (phase = .serving service ∨
      (phase = .ended false ∧ ∀ endpoint, serviceOf launch endpoint = some service →
        Fault launch action) ∨ phase = .ended true ∧ sim.signalled = true) := by
  cases hbefore : sim.phase with
  | spawned =>
    cases action with
    | start i =>
      simp only [Sim.turn, hbefore, Option.some.injEq] at h
      exact Or.inl h.symm
    | _ => simp [Sim.turn, hbefore] at h
  | serving service =>
    refine Or.inr ⟨service, rfl, ?_⟩
    cases action with
    | accept i accepted =>
      simp only [Sim.turn, hbefore] at h
      obtain ⟨survives, _, hphase⟩ := Option.map_eq_some_iff.mp h
      cases accepted with
      | some peer => exact Or.inl hphase.symm
      | none =>
        cases survives with
        | true => exact Or.inl hphase.symm
        | false => exact Or.inr (Or.inl ⟨hphase.symm, fun _ _ => rfl⟩)
    | receive i received sent =>
      cases received with
      | none =>
        simp only [Sim.turn, hbefore] at h
        split at h
        next =>
          cases h
          exact Or.inr (Or.inl ⟨rfl, fun _ _ => Or.inr (Or.inl rfl)⟩)
        next => cases h
      | some found =>
        obtain ⟨peer, datagram⟩ := found
        simp only [Sim.turn, hbefore] at h
        obtain ⟨survives, hsurvives, hphase⟩ := Option.map_eq_some_iff.mp h
        cases survives with
        | true => exact Or.inl hphase.symm
        | false =>
          refine Or.inr (Or.inl ⟨hphase.symm, ?_⟩)
          intro endpoint hservice
          exact fault_of_datagram hservice hsurvives
    | stop i =>
      simp only [Sim.turn, hbefore] at h
      split at h
      next hsignalled =>
        cases h
        exact Or.inr (Or.inr ⟨rfl, hsignalled⟩)
      next => cases h
    | _ => simp [Sim.turn, hbefore] at h
  | ended ok => cases action <;> simp [Sim.turn, hbefore] at h
  | joined => cases action <;> simp [Sim.turn, hbefore] at h

theorem SimRight.turn {launch : Launch} {late : Bool} {actions : List Action} {sim : Sim}
    {action : Action} {phase : SimPhase} (h : SimRight launch late actions sim)
    (hturn : sim.turn launch action = some phase) :
    SimRight launch late (actions ++ [action]) { sim with phase := phase } := by
  have hserving {service : Service} (hservice : serviceOf launch sim.endpoint = some service) :
      SimRight launch late (actions ++ [action]) { sim with phase := .serving service } := by
    refine ⟨h.listed, h.told, by simp, by simp, by simp, ?_⟩
    intro other hother
    cases hother
    exact hservice
  have hfailed (hexcused : Excused launch (actions ++ [action])) :
      SimRight launch late (actions ++ [action]) { sim with phase := .ended false } :=
    ⟨h.listed, h.told, by simp, fun _ => hexcused, by simp, by simp⟩
  obtain hstart | ⟨service, hbefore, hafter⟩ := Sim.turn_cases hturn
  · cases hservice : serviceOf launch sim.endpoint with
    | none =>
      rw [hstart, hservice]
      apply hfailed
      refine Or.inl fun hstartable => ?_
      have hsome := serviceOf_isSome hstartable h.listed
      rw [hservice] at hsome
      cases hsome
    | some service =>
      rw [hstart, hservice]
      exact hserving hservice
  · have hservice := h.serving service hbefore
    obtain rfl | ⟨rfl, hfault⟩ | ⟨rfl, hsignalled⟩ := hafter
    · exact hserving hservice
    · exact hfailed (excused_of_fault (hfault _ hservice) actions)
    · exact ⟨h.listed, h.told, fun _ => hsignalled, by simp, by simp, by simp⟩

/-! ## Whole runs -/

/-- What holds in every run. -/
structure Inv (launch : Launch) (actions : List Action) (s : State) : Prop where
  sims : ∀ sim ∈ s.sims, SimRight launch s.main.closing actions sim
  starting : ∀ rest, s.main = .starting rest →
    s.sims.map Sim.endpoint ++ rest = launch.config.endpoints
  started : s.main = .waiting ∨ s.main = .draining →
    s.sims.map Sim.endpoint = launch.config.endpoints
  asked : s.main = .draining ∨ s.main = .exited true → .shutdown ∈ actions
  failed : s.main = .exited false → Excused launch actions
  aborted : s.main = .aborted → ∃ action ∈ actions, Refused launch action

theorem inv_launched (launch : Launch) : Inv launch [] (State.launched launch) := by
  have hfailed (h : ¬launch.Startable) (s : State) (hmain : s.main = .exited false)
      (hsims : s.sims = []) : Inv launch [] s := by
    refine ⟨by simp [hsims], by simp [hmain], by simp [hmain], by simp [hmain], ?_, by simp [hmain]⟩
    intro _
    exact Or.inl h
  by_cases hschema : launch.config.schemaVersion = 1
  · cases hvalid : validatedEndpoints launch.config with
    | error message =>
      refine hfailed (fun h => ?_) _ (by simp [State.launched, hschema, hvalid]) rfl
      obtain ⟨endpoints, hendpoints⟩ := h.endpoints
      rw [hvalid] at hendpoints
      cases hendpoints
    | ok endpoints =>
      obtain ⟨_, _, _, _, hendpoints⟩ := validatedEndpoints_ok_iff.mp hvalid
      have hmain : (State.launched launch).main = .starting endpoints := by
        simp [State.launched, hschema, hvalid]
      refine ⟨by simp [State.launched], ?_, by simp [hmain], by simp [hmain], by simp [hmain],
        by simp [hmain]⟩
      intro rest hrest
      rw [hmain] at hrest
      cases hrest
      exact hendpoints
  · exact hfailed (fun h => hschema h.schema) _ (by simp [State.launched, hschema]) rfl

theorem simRight_signalled {launch : Launch} {late : Bool} {actions : List Action} {sim : Sim}
    (h : SimRight launch late actions sim) :
    SimRight launch true actions { sim with signalled := true } :=
  ⟨h.listed, fun _ => rfl, fun _ => rfl, h.failed, fun _ => rfl, h.serving⟩

theorem simRight_joined {launch : Launch} {late : Bool} {actions : List Action} {sim : Sim}
    (h : SimRight launch late actions sim) :
    SimRight launch true actions { sim with phase := .joined } :=
  ⟨h.listed, fun _ => rfl, by simp, by simp, fun _ => rfl, by simp⟩

section Step

variable {launch : Launch} {actions : List Action} {s : State} {action : Action}

theorem Inv.later (h : Inv launch actions s) {late : Bool}
    (hlate : s.main.closing = true → late = true) (action : Action) :
    ∀ sim ∈ s.sims, SimRight launch late (actions ++ [action]) sim := by
  intro sim hsim
  exact (h.sims sim hsim).later hlate action

theorem mem_set_or {sims : List Sim} {i : ℕ} {new sim : Sim} (h : sim ∈ sims.set i new) :
    sim = new ∨ sim ∈ sims := by
  obtain h | h := List.mem_or_eq_of_mem_set h
  · exact Or.inr h
  · exact Or.inl h

/-- The endpoints stay with their simulations. -/
theorem map_endpoint_set {sims : List Sim} {i : ℕ} {sim : Sim} (h : sims[i]? = some sim)
    (phase : SimPhase) : (sims.set i { sim with phase := phase }).map Sim.endpoint =
      sims.map Sim.endpoint := by
  obtain ⟨hi, rfl⟩ := List.getElem?_eq_some_iff.mp h
  rw [List.map_set]
  apply List.ext_getElem
  · simp
  · intro j hj hj'
    rw [List.getElem_set]
    split
    next hij => simp [hij]
    next => rfl

theorem inv_bound {endpoint : BoundEndpoint} {rest : List BoundEndpoint}
    (h : Inv launch actions s) (hmain : s.main = .starting (endpoint :: rest)) :
    Inv launch (actions ++ [.bind true]) { s with
      main := if rest.isEmpty then .waiting else .starting rest
      sims := s.sims ++ [⟨endpoint, .spawned, false⟩] } := by
  have hendpoints := h.starting _ hmain
  have hlate : s.main.closing = false := by rw [hmain]; rfl
  have hnew : ∀ sim ∈ s.sims ++ [⟨endpoint, .spawned, false⟩],
      SimRight launch false (actions ++ [.bind true]) sim := by
    intro sim hsim
    obtain hsim | hsim := List.mem_append.mp hsim
    · exact h.later (by simp [hlate]) _ sim hsim
    · rw [List.mem_singleton.mp hsim]
      exact ⟨by rw [← hendpoints]; simp, by simp, by simp, by simp, by simp, by simp⟩
  cases rest with
  | nil =>
    refine ⟨hnew, by simp, ?_, by simp, by simp, by simp⟩
    intro _
    rw [← hendpoints]
    simp
  | cons next rest =>
    refine ⟨hnew, ?_, by simp, by simp, by simp, by simp⟩
    intro left hleft
    cases hleft
    rw [← hendpoints]
    simp

/-- An array fits a vector if the parser comes past making one. -/
theorem refused_of_parsed {i : ℕ} {received : RedisRead} {parsed : Option RedisCommand}
    (hredis : launch.config.protocol = .redis)
    (hparsed : parseRedisCommand received.val = .ok parsed)
    (hreserves : reservedCapacity received.val ≠ 0) : Refused launch (.read i received false) := by
  refine ⟨rfl, hredis, _, announces_of_reservedCapacity hreserves, Nat.pos_of_ne_zero hreserves, ?_⟩
  obtain ⟨command, hreserved⟩ := parseRedisCommand_reserves received.val
  rw [hreserved] at hparsed
  obtain ⟨_, hfits, _⟩ := Fallible.bind_ok_iff.mp hparsed
  exact withCapacity_eq_ok_iff.mp hfits

/-- A step of a connection that leaves the rest as it is. -/
theorem Inv.kept (h : Inv launch actions s) (action : Action) (connections : List Connection) :
    Inv launch (actions ++ [action]) { s with connections := connections } where
  sims := h.later (fun hlate => hlate) action
  starting := h.starting
  started := h.started
  asked hmain := List.mem_append_left _ (h.asked hmain)
  failed hmain := (h.failed hmain).later action
  aborted hmain := by
    obtain ⟨refusal, hrefusal, hrefused⟩ := h.aborted hmain
    exact ⟨refusal, List.mem_append_left _ hrefusal, hrefused⟩

theorem inv_step {s' : State} (h : Inv launch actions s)
    (hstep : step launch s action = some s') : Inv launch (actions ++ [action]) s' := by
  cases step_change hstep with
  | bound hmain => exact inv_bound h hmain
  | unbound hmain =>
    refine ⟨h.later (fun _ => rfl) _, by simp, by simp, by simp, ?_, by simp⟩
    intro _
    exact excused_of_fault (show Fault launch (.bind false) from rfl) actions
  | shutdown hmain =>
    refine ⟨?_, by simp, ?_, by simp, by simp, by simp⟩
    · intro sim hsim
      obtain ⟨old, hold, rfl⟩ := List.mem_map.mp hsim
      exact simRight_signalled (h.later (fun hlate => hlate) _ old hold)
    · intro _
      rw [← h.started (Or.inl hmain), signalSimulations, List.map_map]
      rfl
  | @joinFirst i sim ok hmain hsim hphase =>
    have hmem := List.mem_of_getElem? hsim
    have hlate : s.main.closing = false := by rw [hmain]; rfl
    have hright := h.sims sim hmem
    refine ⟨?_, by simp [joinFirst], by simp [joinFirst], ?_, ?_, by simp [joinFirst]⟩
    · intro other hother
      obtain ⟨old, hold, rfl⟩ := List.mem_map.mp hother
      obtain rfl | hold := mem_set_or hold
      · exact simRight_signalled (simRight_joined (hright.later (fun hlate => hlate) _))
      · exact simRight_signalled (h.later (fun hlate => hlate) _ old hold)
    · intro hexit
      obtain hexit | hexit := hexit
      · cases hexit
      · cases hexit
        rw [hright.told (hright.stopped hphase)] at hlate
        cases hlate
    · intro hexit
      cases hexit
      exact (hright.failed hphase).later _
  | @drainNext i sim ok hmain hsim hphase =>
    have hright := h.sims sim (List.mem_of_getElem? hsim)
    have hlate : (drainNext s i sim ok).main.closing = true := by cases ok <;> rfl
    refine ⟨?_, ?_, ?_, ?_, ?_, ?_⟩
    · intro other hother
      rw [hlate]
      obtain rfl | hother := mem_set_or hother
      · exact simRight_joined (hright.later (fun hlate => hlate) _)
      · exact h.later (fun _ => rfl) _ other hother
    · intro rest hrest
      cases ok <;> cases hrest
    · intro _
      exact (map_endpoint_set hsim .joined).trans (h.started (Or.inr hmain))
    · intro _
      exact List.mem_append_left _ (h.asked (Or.inl hmain))
    · intro hexit
      cases ok with
      | true => cases hexit
      | false => exact (hright.failed hphase).later _
    · intro hexit
      cases ok <;> cases hexit
  | finished hmain hpeer =>
    refine ⟨h.later (fun _ => rfl) _, by simp, by simp, ?_, by simp, by simp⟩
    intro _
    exact List.mem_append_left _ (h.asked (Or.inl hmain))
  | @turn _ sim phase hlive hsim hturn =>
    have hmem := List.mem_of_getElem? hsim
    have hbefore := h.kept action s.connections
    refine ⟨?_, ?_, ?_, hbefore.asked, hbefore.failed, hbefore.aborted⟩
    · intro other hother
      obtain rfl | hother := mem_set_or hother
      · exact (h.sims sim hmem).turn hturn
      · exact hbefore.sims other hother
    · intro rest hmain
      rw [map_endpoint_set hsim]
      exact h.starting rest hmain
    · intro hmain
      rw [map_endpoint_set hsim]
      exact h.started hmain
  | ended => exact h.kept _ _
  | parsed => exact h.kept _ s.connections
  | @refused i received parsed hlive hredis hparsed hreserves =>
    refine ⟨h.later (fun _ => rfl) _, by simp, by simp, by simp, by simp, ?_⟩
    intro _
    exact ⟨.read i received false, by simp, refused_of_parsed hredis hparsed hreserves⟩

end Step

theorem inv_run {launch : Launch} {actions : List Action} {s : State}
    (h : run (step launch) (State.launched launch) actions = some s) : Inv launch actions s :=
  run_keeps (fun _ _ _ _ hinv hstep => inv_step hinv hstep) (inv_launched launch) h

end ProtocolSimulation.Engine.Process
