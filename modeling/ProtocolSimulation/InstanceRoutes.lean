import ProtocolSimulation.PcapRoutes

/-!
# Deploying and undeploying instances

The handlers that create and remove instances, the reconciliation with the Agent's
workloads, and the handlers that delete and import rules.
-/
namespace ProtocolSimulation.Service

open ProtocolSimulation.Texts ProtocolSimulation.JsonValues ProtocolSimulation.Identifiers
open ProtocolSimulation.Protocols ProtocolSimulation.Storage ProtocolSimulation.Api
open ProtocolSimulation.Programs ProtocolSimulation.Programs.Prog

/-- What the handlers read of the service's configuration. -/
structure Config where
  suiteInstanceId : Text
  engineImage : Text
  eventCallbackUrl : Text

/-- Versions as the `semver` library reads, orders and writes them. -/
structure Semver where
  parse : Text → Except Text Version
  lt : Version → Version → Bool
  display : Version → Text

/-! ## Deploying -/

def simulationWorkloadName (ruleId : Text) (hostPort : UInt16) (instanceId : Text) : Text :=
  let ruleIdentifier :=
    ((stripPrefix "sim-rule-" ruleId).or (stripPrefix "rule-" ruleId)).getD ruleId
  let compactInstanceId := instanceId.filter Char.isAlphanum
  let shortInstanceId := compactInstanceId.drop (compactInstanceId.length - 6)
  showNat hostPort.toNat ++ '-' :: ruleIdentifier ++ '-' :: shortInstanceId

/-- The hash map of requested bindings, in the order in which they were inserted. -/
abbrev Bindings := List (Text × UInt16)

/-- The loop that collects the requested bindings. -/
def collectBindings : Bindings → List EndpointBindingRequest → Except ApiError Bindings
  | requested, [] => .ok requested
  | requested, binding :: rest =>
    if binding.hostPort = 0 then
      .error (.badRequest "endpoint host port must be between 1 and 65535")
    else if (requested.lookup binding.endpointId).isSome then
      .error (.badRequest (("duplicate endpoint binding: " : Text) ++ binding.endpointId))
    else collectBindings (requested ++ [(binding.endpointId, binding.hostPort)]) rest

/-- The endpoints of an instance, in the order of the protocol's. `order` is the order in
which the hash map yields the names that were requested. -/
def bindEndpoints (specs : List EndpointSpec) (requested : Bindings) (order : List Text) :
    Except ApiError (List InstanceEndpoint) :=
  match order.find? fun id => !(specs.map EndpointSpec.id).contains id with
  | some unknown => .error (.badRequest (("unknown endpoint binding: " : Text) ++ unknown))
  | none =>
    match specs.find? fun endpoint =>
      endpoint.required && (requested.lookup endpoint.id).isNone with
    | some missing =>
      .error (.badRequest (("required endpoint binding is missing: " : Text) ++ missing.id))
    | none => .ok (specs.filterMap fun endpoint =>
        (requested.lookup endpoint.id).map fun hostPort =>
          ⟨[], endpoint.id, endpoint.transport.asStr, hostPort.toNat, endpoint.containerPort.toNat⟩)

/-- `as u16`. -/
def asU16 (n : ℤ) : UInt16 := UInt16.ofNat (n % 65536).toNat

/-- The transport that the text of an instance's endpoint is taken for. -/
def boundTransport (transport : Text) : TransportProtocol :=
  if transport = "udp" then .udp else .tcp

def launchConfig (json : JsonCodec) (config : Config) (protocol : ProtocolId) (rule : Rule)
    (row : InstanceRow) (endpoints : List InstanceEndpoint) : EngineLaunchConfig :=
  let configJson := (json.parse rule.configJson).getD (.obj [])
  { schemaVersion := 1
    protocol := protocol
    ruleId := rule.id
    ruleName := rule.name
    instanceId := row.id
    callbackUrl := config.eventCallbackUrl
    callbackToken := row.callbackToken
    endpoints := endpoints.map fun endpoint =>
      ⟨endpoint.endpointId, boundTransport endpoint.transport, asU16 endpoint.hostPort,
        asU16 endpoint.containerPort⟩
    behavior := (configJson.get "behavior").getD configJson }

def startWorkloadRequest (json : JsonCodec) (config : Config) (protocol : ProtocolId) (rule : Rule)
    (row : InstanceRow) (endpoints : List InstanceEndpoint) (primary : InstanceEndpoint) :
    StartWorkloadRequest where
  workloadKind := "simulation-rule"
  workloadName := simulationWorkloadName rule.id (asU16 primary.hostPort) row.id
  image := config.engineImage
  ports := endpoints.map fun endpoint =>
    ⟨endpoint.endpointId, asU16 endpoint.hostPort, asU16 endpoint.containerPort,
      boundTransport endpoint.transport⟩
  env := .obj []
  configJson := launchConfig json config protocol rule row endpoints
  resources := ⟨256, 256⟩

def instanceDeployed (id : Text) (result : OperationOutcome × OperationImpact)
    (operationContext : Option Text) : OperationEvent :=
  operationEvent "instance_deployed" "部署仿真实例" "Deploy simulation instance"
    "simulation_instance" id result operationContext

/-- The end of `deploy_instance`, with the instance as its row was left. -/
def finishDeploy (operationContext : Option Text) (id : Text) (inst : Instance) :
    Handler (Except ApiError Instance) := do
  if inst.row.status = .running then
    emitOperationEvent (instanceDeployed id (.success, .info) operationContext)
    return .ok inst
  else
    emitOperationEvent ((instanceDeployed id (.failure, .error) operationContext).withError
      "INSTANCE_DEPLOY_FAILED" "Simulation deployment failed")
    return .ok inst

/-- `deploy_instance` from the answer of the Agent on. -/
def recordDeploy (operationContext : Option Text) (id : Text) :
    Except Error StartWorkloadResponse → Handler (Except ApiError Instance)
  | .ok response => do
    let workloadId := response.workloadId.getD (("workload-" : Text) ++ id)
    match ← updateInstanceStatus id .running (some workloadId) none with
    | .error e => return .error e.toApiError
    | .ok none => return .error (.notFound "instance not found after deployment")
    | .ok (some inst) => finishDeploy operationContext id inst
  | .error err => do
    if err.agent.any AgentApiError.isPortUnavailable then
      match ← await (.deleteInstance id) with
      | .error e => return .error e.toApiError
      | .ok _ =>
        emitOperationEvent ((instanceDeployed id (.failure, .error) operationContext).withError
          "PORT_UNAVAILABLE" "Requested host port is unavailable")
        return .error ((ApiError.conflict
          "one or more endpoint bindings are unavailable on the target node").withMessageKey
          "app.simulation.deployments.messages.portOccupied")
    else
      match ← updateInstanceStatus id .error none (some err.chain) with
      | .error e => return .error e.toApiError
      | .ok none => return .error (.notFound "instance not found after deployment failure")
      | .ok (some inst) => finishDeploy operationContext id inst

/-- The row `deploy_instance` inserts. -/
def newInstance (id : Text) (rule : Rule) (callbackToken : Text) : InstanceRow where
  id := id
  ruleId := rule.id
  ruleName := rule.name
  protocol := rule.protocol
  callbackToken := callbackToken
  status := .deploying
  workloadId := none
  errorMessage := none
  pcapStatus := .idle
  pcapStartTime := none
  pcapCaptureId := none
  pcapFilePath := none

/-- `deploy_instance` once the request was checked. -/
def deployEndpoints (json : JsonCodec) (config : Config) (operationContext : Option Text)
    (rule : Rule) (protocol : ProtocolId) (endpoints : List InstanceEndpoint) :
    Handler (Except ApiError Instance) := do
  let uuid ← await .nowV7
  let callbackToken ← await .nowV7
  let id := instanceId uuid
  let endpoints := endpoints.map fun endpoint => { endpoint with instanceId := id }
  let row := newInstance id rule callbackToken.hyphenated
  match ← await (.insertInstanceIfPortAvailable row endpoints) with
  | .error e => return .error e.toApiError
  | .ok false => return .error ((ApiError.conflict
        "one or more endpoint bindings are already used by an active simulation instance"
      ).withMessageKey "app.simulation.deployments.messages.portOccupied")
  | .ok true =>
    match endpoints.head? with
    | none => return .error (.badRequest "simulation instance requires an endpoint")
    | some primary =>
      let answer ← await (.startWorkload
        (startWorkloadRequest json config protocol rule row endpoints primary))
      recordDeploy operationContext id answer

def deployInstance (json : JsonCodec) (config : Config) (operationContext : Option Text)
    (payload : DeployInstanceRequest) : Handler (Except ApiError Instance) := do
  match ← await (.getRule payload.ruleId) with
  | .error e => return .error e.toApiError
  | .ok none => return .error (.notFound "rule not found")
  | .ok (some rule) =>
    match ProtocolId.fromStr rule.protocol with
    | .error message => return .error (.badRequest message)
    | .ok protocol =>
      match collectBindings [] payload.endpointBindings with
      | .error e => return .error e
      | .ok requested =>
        let order ← await (.hashOrder (requested.map Prod.fst))
        match bindEndpoints (protocolEndpoints protocol) requested order with
        | .error e => return .error e
        | .ok endpoints => deployEndpoints json config operationContext rule protocol endpoints

/-! ## Undeploying -/

def instanceUndeployed (id : Text) (result : OperationOutcome × OperationImpact)
    (operationContext : Option Text) : OperationEvent :=
  operationEvent "instance_undeployed" "撤销仿真实例" "Undeploy simulation instance"
    "simulation_instance" id result operationContext

/-- What `undeploy_instance` does when the workload or the capture file stays. -/
def undeployFailed (operationContext : Option Text) (inst : Instance) (id : Text) (err : Error)
    (code summary : Text) : Handler (Except ApiError Instance) := do
  match ← updateInstanceStatus id .error inst.row.workloadId (some err.chain) with
  | .error e => return .error e.toApiError
  | .ok _ =>
    emitOperationEvent ((instanceUndeployed id (.failure, .error) operationContext).withError
      code summary)
    return .error err.toApiError

/-- The Agent call of `undeploy_instance`, made only if the instance has a workload. -/
def stopWorkloadOf (row : InstanceRow) : Handler (Except Error Unit) :=
  match row.workloadId with
  | some workloadId => await (.stopWorkload workloadId)
  | none => return .ok ()

/-- `undeploy_instance` once the workload was stopped. -/
def undeployStopped (operationContext : Option Text) (id : Text) (inst : Instance) :
    Handler (Except ApiError Instance) := do
  match ← removeCaptureFile inst.row.pcapFilePath with
  | .error err =>
    undeployFailed operationContext inst id err "INSTANCE_PCAP_CLEANUP_FAILED"
      "Simulation PCAP cleanup failed"
  | .ok _ =>
    match ← await (.deleteInstance id) with
    | .error e => return .error e.toApiError
    | .ok _ =>
      emitOperationEvent (instanceUndeployed id (.success, .warning) operationContext)
      return .ok inst

/-- `undeploy_instance` once the instance was found. -/
def undeployInstanceOf (operationContext : Option Text) (id : Text) (inst : Instance) :
    Handler (Except ApiError Instance) := do
  match ← stopWorkloadOf inst.row with
  | .error err =>
    undeployFailed operationContext inst id err "INSTANCE_UNDEPLOY_FAILED"
      "Simulation undeployment failed"
  | .ok () => undeployStopped operationContext id inst

def undeployInstance (operationContext : Option Text) (id : Text) :
    Handler (Except ApiError Instance) :=
  withLock id do
    match ← getInstance id with
    | .error e => return .error e.toApiError
    | .ok none => return .error (.notFound "instance not found")
    | .ok (some inst) => undeployInstanceOf operationContext id inst

/-! ## Reconciling with the Agent -/

def shouldMarkInstanceInactive (row : InstanceRow) (workloadIds : List Text) : Bool :=
  decide row.status.Active && row.workloadId.any fun workloadId => !workloadIds.contains workloadId

/-- The loop of `reconcile_instances_with_agent`. -/
def reconcileInstances (workloadIds : List Text) :
    List Instance → Handler (Except Error (List Instance))
  | [] => return .ok []
  | inst :: rest => do
    if shouldMarkInstanceInactive inst.row workloadIds then
      match ← updateInstanceStatus inst.row.id .inactive none none with
      | .error e => return .error e
      | .ok updated =>
        match ← reconcileInstances workloadIds rest with
        | .error e => return .error e
        | .ok reconciled => return .ok (updated.getD inst :: reconciled)
    else
      match ← reconcileInstances workloadIds rest with
      | .error e => return .error e
      | .ok reconciled => return .ok (inst :: reconciled)

def reconcileInstancesWithAgent (config : Config) : Handler (Except Error (List Instance)) := do
  finalizeExpiredPcapCaptures
  match ← listInstances with
  | .error e => return .error e
  | .ok instances =>
    match ← await .listWorkloads with
    | .error _ => return .ok instances
    | .ok workloads =>
      let workloadIds := (workloads.filter fun workload =>
        workload.suiteInstanceId = config.suiteInstanceId).map WorkloadSummary.workloadId
      reconcileInstances workloadIds instances

/-! ## Rules -/

def ruleDeleted (id : Text) (operationContext : Option Text) : OperationEvent :=
  operationEvent "rule_deleted" "删除仿真规则" "Delete simulation rule" "simulation_rule" id
    (.success, .warning) operationContext

def deleteRule (operationContext : Option Text) (id : Text) : Handler (Except ApiError Unit) := do
  match ← await (.deleteRule id) with
  | .error e => return .error e.toApiError
  | .ok false => return .error (.notFound "rule not found")
  | .ok true =>
    emitOperationEvent (ruleDeleted id operationContext)
    return .ok ()

def rulePackageImported (summary : RulePackageSummary) (operationContext : Option Text) :
    OperationEvent :=
  { operationEvent "rule_package_imported" "导入规则包" "Import rule package" "rule_package"
      summary.packageId (.success, .warning) operationContext with
    parameters := [("ruleCount", summary.ruleCount)] }

/-- The error for the first rule of a package whose protocol is unknown. -/
def unknownProtocol (rules : List ImportedRule) : Option Text :=
  rules.findSome? fun rule =>
    match ProtocolId.fromStr rule.protocol with
    | .error message => some message
    | .ok _ => none

/-- `import_rule_package` for an archive that was parsed. -/
def importRulePackage (semver : Semver) (operationContext : Option Text)
    (package : ImportedRulePackage) : Handler (Except ApiError RulePackageSummary) := do
  match ← await .platformVersion with
  | .error e => return .error e.toApiError
  | .ok platformVersion =>
    match semver.parse package.minSeclabVersion with
    | .error error => return .error (.badRequest (("invalid minSeclabVersion: " : Text) ++ error))
    | .ok minimumVersion =>
      if semver.lt platformVersion minimumVersion then
        return .error (.badRequest (("rule package requires SecLab " : Text) ++
          semver.display minimumVersion ++ (" or newer; current version is " : Text) ++
          semver.display platformVersion))
      else
        match unknownProtocol package.rules with
        | some message => return .error (.badRequest message)
        | none =>
          match ← await (.importRulePackage package) with
          | .error e => return .error e.toApiError
          | .ok summary =>
            emitOperationEvent (rulePackageImported summary operationContext)
            return .ok summary

/-! ## The requests of the service -/

/-- The requests that may arrive at any time, and the tasks that were spawned. -/
inductive Launch (json : JsonCodec) (config : Config) (semver : Semver) :
    System → Handler Unit → System → Prop
  | deploy {s : System} (operationContext : Option Text) (payload : DeployInstanceRequest) :
      Launch json config semver s (deployInstance json config operationContext payload).discard s
  | undeploy {s : System} (operationContext : Option Text) (id : Text) :
      Launch json config semver s (undeployInstance operationContext id).discard s
  | listInstances {s : System} :
      Launch json config semver s (reconcileInstancesWithAgent config).discard s
  | deleteRule {s : System} (operationContext : Option Text) (id : Text) :
      Launch json config semver s (deleteRule operationContext id).discard s
  | importRulePackage {s : System} (operationContext : Option Text)
    (package : ImportedRulePackage) :
      Launch json config semver s (importRulePackage semver operationContext package).discard s
  | startPcap {s : System} (operationContext : Option Text) (id : Text) :
      Launch json config semver s (startPcap operationContext id).discard s
  | stopPcap {s : System} (operationContext : Option Text) (id : Text) :
      Launch json config semver s (stopPcap operationContext id).discard s
  | deletePcap {s : System} (operationContext : Option Text) (id : Text) :
      Launch json config semver s (deletePcap operationContext id).discard s
  | downloadPcap {s : System} (operationContext : Option Text) (id : Text) :
      Launch json config semver s (downloadPcap operationContext id).discard s
  | autoStop {s : System} {before after : List AutoStopTask} {task : AutoStopTask} :
      s.tasks = before ++ task :: after →
      Launch json config semver s (autoStopTask task).discard { s with tasks := before ++ after }

/-! ## The effects these programs come to -/

section Uses

variable {ok : Eff → Prop} (hplain : ∀ e, e.Plain → ok e) {id : Text} {inst : Instance}
include hplain

theorem uses_finishDeploy (operationContext : Option Text) :
    (finishDeploy operationContext id inst).Uses ok := by
  unfold finishDeploy
  split
  · exact uses_bind (uses_emitOperationEvent hplain _) fun _ => trivial
  · exact uses_bind (uses_emitOperationEvent hplain _) fun _ => trivial

theorem uses_recordDeploy (operationContext : Option Text)
    (hrunning : ∀ w, ok (.updateStatus id .running (some w) none))
    (herror : ∀ message, ok (.updateStatus id .error none (some message)))
    (hdelete : ok (.deleteInstance id)) (answer : Except Error StartWorkloadResponse) :
    (recordDeploy operationContext id answer).Uses ok := by
  cases answer with
  | ok response =>
    refine uses_bind (uses_updateInstanceStatus hplain (hrunning _)) ?_
    rintro (e | _ | inst)
    · trivial
    · trivial
    · exact uses_finishDeploy hplain operationContext
  | error err =>
    rw [recordDeploy]
    split
    · refine uses_await hdelete ?_
      rintro (e | deleted)
      · trivial
      · exact uses_bind (uses_emitOperationEvent hplain _) fun _ => trivial
    · refine uses_bind (uses_updateInstanceStatus hplain (herror _)) ?_
      rintro (e | _ | inst)
      · trivial
      · trivial
      · exact uses_finishDeploy hplain operationContext

theorem uses_deployInstance (json : JsonCodec) (config : Config) (operationContext : Option Text)
    (payload : DeployInstanceRequest) (hnow : ok .nowV7)
    (hinsert : ∀ id rule callbackToken endpoints,
      ok (.insertInstanceIfPortAvailable (newInstance id rule callbackToken) endpoints))
    (hstart : ∀ request, ok (.startWorkload request))
    (hrunning : ∀ id w, ok (.updateStatus id .running (some w) none))
    (herror : ∀ id message, ok (.updateStatus id .error none (some message)))
    (hdelete : ∀ id, ok (.deleteInstance id)) :
    (deployInstance json config operationContext payload).Uses ok := by
  refine uses_await (hplain _ trivial) ?_
  rintro (e | _ | rule)
  · trivial
  · trivial
  dsimp only
  split
  · trivial
  split
  · trivial
  refine uses_await (hplain _ trivial) fun order => ?_
  split
  · trivial
  refine uses_await hnow fun uuid => uses_await hnow fun token => uses_await (hinsert _ _ _ _) ?_
  rintro (e | _ | _)
  · trivial
  · trivial
  dsimp only
  split
  · trivial
  · exact uses_await (hstart _) fun answer =>
      uses_recordDeploy hplain operationContext (hrunning _) (herror _) (hdelete _) answer

theorem uses_undeployFailed (operationContext : Option Text) (err : Error) (code summary : Text)
    (h : ok (.updateStatus id .error inst.row.workloadId (some err.chain))) :
    (undeployFailed operationContext inst id err code summary).Uses ok := by
  refine uses_bind (uses_updateInstanceStatus hplain h) ?_
  rintro (e | updated)
  · trivial
  · exact uses_bind (uses_emitOperationEvent hplain _) fun _ => trivial

theorem uses_undeployStopped (operationContext : Option Text)
    (hfail : inst.row.pcapFilePath ≠ none →
      ∀ message, ok (.updateStatus id .error inst.row.workloadId (some message)))
    (hdelete : ok (.deleteInstance id)) : (undeployStopped operationContext id inst).Uses ok := by
  unfold undeployStopped
  cases hpath : inst.row.pcapFilePath with
  | none =>
    refine uses_await hdelete ?_
    rintro (e | deleted)
    · trivial
    · exact uses_bind (uses_emitOperationEvent hplain _) fun _ => trivial
  | some path =>
    refine uses_bind (uses_removeCaptureFile hplain _) ?_
    rintro (err | removed)
    · exact uses_undeployFailed hplain _ _ _ _ (hfail (by simp [hpath]) _)
    refine uses_await hdelete ?_
    rintro (e | deleted)
    · trivial
    · exact uses_bind (uses_emitOperationEvent hplain _) fun _ => trivial

/-- A row is only marked as failed if it has a workload or a capture file. -/
theorem uses_undeployInstanceOf (operationContext : Option Text)
    (hstop : ∀ workloadId ∈ inst.row.workloadId, ok (.stopWorkload workloadId))
    (hfail : inst.row.workloadId ≠ none ∨ inst.row.pcapFilePath ≠ none →
      ∀ message, ok (.updateStatus id .error inst.row.workloadId (some message)))
    (hdelete : ok (.deleteInstance id)) :
    (undeployInstanceOf operationContext id inst).Uses ok := by
  have hstopped := uses_undeployStopped hplain operationContext (fun h => hfail (.inr h)) hdelete
  unfold undeployInstanceOf stopWorkloadOf
  split
  next workloadId hworkload =>
    refine uses_await (hstop workloadId hworkload) ?_
    rintro (err | _)
    · exact uses_undeployFailed hplain _ _ _ _ (hfail (.inl (by simp [hworkload])) _)
    · exact hstopped
  next => exact hstopped

omit hplain in
theorem uses_reconcileInstances (workloadIds : List Text) {instances : List Instance}
    (hread : ∀ id, (getInstance id).Uses ok)
    (h : ∀ inst ∈ instances, inst.row.status.Active → inst.row.workloadId ≠ none →
      ok (.updateStatus inst.row.id .inactive none none)) :
    (reconcileInstances workloadIds instances).Uses ok := by
  induction instances with
  | nil => trivial
  | cons inst rest ih =>
    have hrest := ih fun i hi => h i (List.mem_cons_of_mem _ hi)
    unfold reconcileInstances
    split
    next hmark =>
      have hworkload : inst.row.workloadId ≠ none := by
        intro hnone
        simp [shouldMarkInstanceInactive, hnone] at hmark
      have hactive : inst.row.status.Active := of_decide_eq_true (Bool.and_eq_true_iff.mp hmark).1
      have hupdate : (updateInstanceStatus inst.row.id .inactive none none).Uses ok := by
        refine uses_await (h inst List.mem_cons_self hactive hworkload) ?_
        rintro (e | _)
        · trivial
        · exact hread _
      refine uses_bind hupdate ?_
      rintro (e | updated)
      · trivial
      refine uses_bind hrest ?_
      rintro (e | reconciled) <;> trivial
    next =>
      refine uses_bind hrest ?_
      rintro (e | reconciled) <;> trivial

theorem uses_deleteRule (operationContext : Option Text) (h : ok (.deleteRule id)) :
    (deleteRule operationContext id).Uses ok := by
  refine uses_await h ?_
  rintro (e | _ | _)
  · trivial
  · trivial
  · exact uses_bind (uses_emitOperationEvent hplain _) fun _ => trivial

theorem uses_importRulePackage (semver : Semver) (operationContext : Option Text)
    (package : ImportedRulePackage) :
    (importRulePackage semver operationContext package).Uses ok := by
  refine uses_await (hplain _ trivial) ?_
  rintro (e | platformVersion)
  · trivial
  dsimp only
  split
  · trivial
  split
  · trivial
  split
  · trivial
  refine uses_await (hplain _ trivial) ?_
  rintro (e | summary)
  · trivial
  · exact uses_bind (uses_emitOperationEvent hplain _) fun _ => trivial

end Uses

end ProtocolSimulation.Service
