import ProtocolSimulation.ApiModels
import ProtocolSimulation.Ownership
import ProtocolSimulation.PcapNames
import ProtocolSimulation.RuleTables

/-!
# The service, its Agent and its files

The handlers of the API are programs over the effects below: single SQL statements
or transactions, calls to the Agent, file operations, locks, clocks and spawned
tasks. `act` says what each effect does to the system and what it may answer.
-/
namespace ProtocolSimulation.Service

open ProtocolSimulation.Texts ProtocolSimulation.JsonValues ProtocolSimulation.Identifiers
open ProtocolSimulation.Protocols ProtocolSimulation.Storage ProtocolSimulation.Api
open ProtocolSimulation.Programs ProtocolSimulation.Programs.Prog

/-! ## What goes to the Agent and what comes back -/

/-- An answer of the Agent that is not a success, as far as the handlers look into it. -/
structure AgentApiError where
  status : ℕ
  code : Option Text

def AgentApiError.isPortUnavailable (e : AgentApiError) : Bool :=
  e.status == 409 && e.code == some ("SUITE_WORKLOAD_PORT_UNAVAILABLE" : Text)

/-- An `anyhow::Error`: its outermost message, its whole chain, and the Agent's answer if
it was made from one. -/
structure Error where
  message : Text
  chain : Text
  agent : Option AgentApiError

def Error.ofMessage (message : Text) : Error := ⟨message, message, none⟩

/-- `ApiError::from`. -/
def Error.toApiError (e : Error) : ApiError := .internal e.message

structure WorkloadPort where
  endpointId : Text
  hostPort : UInt16
  containerPort : UInt16
  protocol : TransportProtocol

structure WorkloadResources where
  memoryMb : ℕ
  cpuShares : ℕ

structure StartWorkloadRequest where
  workloadKind : Text
  workloadName : Text
  image : Text
  ports : List WorkloadPort
  env : Json
  configJson : EngineLaunchConfig
  resources : WorkloadResources

structure StartWorkloadResponse where
  workloadId : Option Text

structure WorkloadSummary where
  workloadId : Text
  suiteInstanceId : Text

inductive OperationOutcome where
  | success
  | failure
deriving DecidableEq

inductive OperationImpact where
  | info
  | warning
  | error
deriving DecidableEq

structure OperationEvent where
  code : Text
  zhCn : Text
  enUs : Text
  targetKind : Text
  targetId : Text
  outcome : OperationOutcome
  impact : OperationImpact
  operationContextId : Option Text
  error : Option (Text × Text)
  parameters : List (Text × ℤ)

/-- The parts of a `semver::Version`. -/
structure Version where
  major : ℕ
  minor : ℕ
  patch : ℕ
  pre : Text
  build : Text

/-! ## Effects -/

/-- What `remove_file` reports. -/
inductive Removal where
  | removed
  | notFound
  | failed (e : Error)

inductive Eff where
  -- statements and transactions of the database
  | getRule (id : Text)
  | deleteRule (id : Text)
  | importRulePackage (package : ImportedRulePackage)
  | selectInstances
  | selectInstance (id : Text)
  | selectEndpoints (id : Text)
  | insertInstanceIfPortAvailable (row : InstanceRow) (endpoints : List InstanceEndpoint)
  | updateStatus (id : Text) (status : InstanceStatus) (workloadId errorMessage : Option Text)
  | updatePcap (id : Text) (pcapStatus : PcapStatus) (pcapStartTime : Option ℤ)
      (pcapCaptureId pcapFilePath : Option Text)
  | deleteInstance (id : Text)
  -- calls to the Agent
  | platformVersion
  | startWorkload (payload : StartWorkloadRequest)
  | stopWorkload (workloadId : Text)
  | listWorkloads
  | startPcap (workloadId : Text)
  | stopPcap (workloadId captureId : Text)
  | submitOperationEvent (event : OperationEvent)
  -- files in `data_dir/pcap`
  | createPcapDir
  | writeFile (name : Text) (content : Bytes)
  | removeFile (name : Text)
  | readFile (name : Text)
  -- the runtime
  | timestamp
  | nowV7
  | hashOrder (keys : List Text)
  | lock (instanceId : Text)
  | unlock (instanceId : Text)
  | spawnAutoStop (instanceId captureId : Text) (startedAt : ℤ)
  | sleep (seconds : ℕ)

@[reducible] def Eff.Answer : Eff → Type
  | getRule _ => Except Error (Option Rule)
  | deleteRule _ => Except Error Bool
  | importRulePackage _ => Except Error RulePackageSummary
  | selectInstances => Except Error (List InstanceRow)
  | selectInstance _ => Except Error (Option InstanceRow)
  | selectEndpoints _ => Except Error (List InstanceEndpoint)
  | insertInstanceIfPortAvailable _ _ => Except Error Bool
  | updateStatus _ _ _ _ => Except Error Unit
  | updatePcap _ _ _ _ _ => Except Error Unit
  | deleteInstance _ => Except Error Bool
  | platformVersion => Except Error Version
  | startWorkload _ => Except Error StartWorkloadResponse
  | stopWorkload _ => Except Error Unit
  | listWorkloads => Except Error (List WorkloadSummary)
  | startPcap _ => Except Error Text
  | stopPcap _ _ => Except Error Bytes
  | submitOperationEvent _ => Except Error Unit
  | createPcapDir => Except Error Unit
  | writeFile _ _ => Except Error Unit
  | removeFile _ => Removal
  | readFile _ => Except Error Bytes
  | timestamp => ℤ
  | nowV7 => UuidV7
  | hashOrder _ => List Text
  | lock _ => Unit
  | unlock _ => Unit
  | spawnAutoStop _ _ _ => Unit
  | sleep _ => Unit

abbrev Handler (α : Type) := Prog Eff Eff.Answer α

/-- Perform one effect and wait for its answer. -/
def await (e : Eff) : Handler e.Answer := perform e

@[simp] theorem await_bind {α : Type} (e : Eff) (f : e.Answer → Handler α) :
    (await e >>= f) = .call e f := rfl

/-! ## The system -/

/-- What the Agent has done: the workloads it returned, those it was told to stop and
did stop, and the captures that are active, each with its workload. -/
structure Agent where
  started : Set Text
  stopped : Set Text
  captures : Set (Text × Text)

/-- A task that waits to stop a capture. -/
structure AutoStopTask where
  instanceId : Text
  captureId : Text
  startedAt : ℤ

structure System where
  db : Database
  agent : Agent
  files : Text → Option Bytes
  locks : Set Text
  tasks : List AutoStopTask
  events : List OperationEvent
  issued : Set UuidV7
  inserted : Set Text

/-- Which kinds of effects may fail. -/
structure Faults where
  database : Prop
  agent : Prop
  files : Prop

def Fails {α : Type} (allowed : Prop) (r : Except Error α) : Prop := allowed ∧ ∃ e, r = .error e

/-- What an effect does to the system, and what it answers. -/
def act (json : JsonCodec) (f : Faults) (s : System) : (e : Eff) → e.Answer → System → Prop
  | .getRule id, r, s' => s' = s ∧ (r = .ok (s.db.rules.get id) ∨ Fails f.database r)
  | .deleteRule id, r, s' =>
    (s' = { s with db := s.db.deleteRule id } ∧ r = .ok (s.db.rules.get id).isSome) ∨
      (s' = s ∧ Fails f.database r)
  | .importRulePackage package, r, s' =>
    (∃ importedAt, s' = { s with db := (importRulePackage json importedAt s.db package).1 } ∧
      r = (importRulePackage json importedAt s.db package).2.mapError .ofMessage) ∨
      (s' = s ∧ Fails f.database r)
  | .selectInstances, r, s' =>
    s' = s ∧ ((∃ rows : List InstanceRow, rows.Perm s.db.instances.rows ∧ r = .ok rows) ∨
      Fails f.database r)
  | .selectInstance id, r, s' => s' = s ∧ (r = .ok (s.db.selectInstance id) ∨ Fails f.database r)
  | .selectEndpoints id, r, s' => s' = s ∧ (r = .ok (s.db.selectEndpoints id) ∨ Fails f.database r)
  | .insertInstanceIfPortAvailable row endpoints, r, s' =>
    (∃ db', s.db.insertInstanceIfPortAvailable row endpoints = some (true, db') ∧ r = .ok true ∧
      s' = { s with
        db := db'
        inserted := insert row.id s.inserted }) ∨
      (∃ db', s.db.insertInstanceIfPortAvailable row endpoints = some (false, db') ∧ r = .ok false ∧
        s' = s) ∨
      (s' = s ∧ Fails (f.database ∨ s.db.insertInstanceIfPortAvailable row endpoints = none) r)
  | .updateStatus id status workloadId errorMessage, r, s' =>
    (s' = { s with db := s.db.updateStatus id status workloadId errorMessage } ∧ r = .ok ()) ∨
      (s' = s ∧ Fails f.database r)
  | .updatePcap id pcapStatus pcapStartTime pcapCaptureId pcapFilePath, r, s' =>
    (s' = { s with db := s.db.updatePcap id pcapStatus pcapStartTime pcapCaptureId pcapFilePath } ∧
      r = .ok ()) ∨ (s' = s ∧ Fails f.database r)
  | .deleteInstance id, r, s' =>
    (s' = { s with db := s.db.deleteInstance id } ∧ r = .ok (s.db.selectInstance id).isSome) ∨
      (s' = s ∧ Fails f.database r)
  | .platformVersion, r, s' => s' = s ∧ ((∃ version, r = .ok version) ∨ Fails f.agent r)
  | .startWorkload _, r, s' =>
    (∃ response, r = .ok response ∧ s' = { s with agent := { s.agent with
      started := s.agent.started ∪ {w | response.workloadId = some w} } }) ∨
        (s' = s ∧ Fails f.agent r)
  | .stopWorkload workloadId, r, s' =>
    (r = .ok () ∧ s' = { s with agent := { s.agent with
      stopped := insert workloadId s.agent.stopped } }) ∨ (s' = s ∧ Fails f.agent r)
  | .listWorkloads, r, s' => s' = s ∧ ((∃ workloads, r = .ok workloads) ∨ Fails f.agent r)
  | .startPcap workloadId, r, s' =>
    (∃ captureId, r = .ok captureId ∧ (workloadId, captureId) ∉ s.agent.captures ∧
      s' = { s with agent := { s.agent with
        captures := insert (workloadId, captureId) s.agent.captures } }) ∨
          (s' = s ∧ Fails f.agent r)
  | .stopPcap workloadId captureId, r, s' =>
    (∃ content, r = .ok content ∧ s' = { s with agent := { s.agent with
      captures := s.agent.captures \ {(workloadId, captureId)} } }) ∨ (s' = s ∧ Fails f.agent r)
  | .submitOperationEvent event, r, s' =>
    (r = .ok () ∧ s' = { s with events := s.events ++ [event] }) ∨ (s' = s ∧ ∃ e, r = .error e)
  | .createPcapDir, r, s' => s' = s ∧ (r = .ok () ∨ Fails f.files r)
  | .writeFile name content, r, s' =>
    (r = .ok () ∧ s' = { s with files := Function.update s.files name (some content) }) ∨
      -- a failed write may have created the file and written a part of it
      (Fails f.files r ∧ (s' = s ∨ ∃ written, written <+: content ∧
        s' = { s with files := Function.update s.files name (some written) }))
  | .removeFile name, r, s' =>
    (s.files name ≠ none ∧ r = .removed ∧
      s' = { s with files := Function.update s.files name none }) ∨
      (s.files name = none ∧ r = .notFound ∧ s' = s) ∨ (s' = s ∧ f.files ∧ ∃ e, r = .failed e)
  | .readFile name, r, s' =>
    s' = s ∧ ((∃ content, s.files name = some content ∧ r = .ok content) ∨
      Fails (f.files ∨ s.files name = none) r)
  | .timestamp, _, s' => s' = s
  | .nowV7, uuid, s' => uuid ∉ s.issued ∧ s' = { s with issued := insert uuid s.issued }
  | .hashOrder keys, order, s' => s' = s ∧ order.Perm keys
  | .lock instanceId, _, s' =>
    instanceId ∉ s.locks ∧ s' = { s with locks := insert instanceId s.locks }
  | .unlock instanceId, _, s' => s' = { s with locks := s.locks \ {instanceId} }
  | .spawnAutoStop instanceId captureId startedAt, _, s' =>
    s' = { s with tasks := s.tasks ++ [⟨instanceId, captureId, startedAt⟩] }
  | .sleep _, _, s' => s' = s

/-! ## Programs the handlers share -/

/-- Hold an instance's lifecycle lock while `body` runs, also when it returns early. -/
def withLock {α : Type} (instanceId : Text) (body : Handler α) : Handler α := do
  await (.lock instanceId)
  let a ← body
  await (.unlock instanceId)
  return a

def getInstance (id : Text) : Handler (Except Error (Option Instance)) := do
  match ← await (.selectInstance id) with
  | .error e => return .error e
  | .ok none => return .ok none
  | .ok (some row) =>
    match ← await (.selectEndpoints row.id) with
    | .error e => return .error e
    | .ok endpoints => return .ok (some ⟨row, endpoints⟩)

/-- The loop of `list_instances` that reads the endpoints of every row. -/
def hydrateInstances : List InstanceRow → Handler (Except Error (List Instance))
  | [] => return .ok []
  | row :: rows => do
    match ← await (.selectEndpoints row.id) with
    | .error e => return .error e
    | .ok endpoints =>
      match ← hydrateInstances rows with
      | .error e => return .error e
      | .ok instances => return .ok (⟨row, endpoints⟩ :: instances)

def listInstances : Handler (Except Error (List Instance)) := do
  match ← await .selectInstances with
  | .error e => return .error e
  | .ok rows => hydrateInstances rows

def updateInstanceStatus (id : Text) (status : InstanceStatus)
    (workloadId errorMessage : Option Text) : Handler (Except Error (Option Instance)) := do
  match ← await (.updateStatus id status workloadId errorMessage) with
  | .error e => return .error e
  | .ok () => getInstance id

def updatePcapState (id : Text) (pcapStatus : PcapStatus) (pcapStartTime : Option ℤ)
    (pcapCaptureId pcapFilePath : Option Text) : Handler (Except Error (Option Instance)) := do
  match ← await (.updatePcap id pcapStatus pcapStartTime pcapCaptureId pcapFilePath) with
  | .error e => return .error e
  | .ok () => getInstance id

/-- Submit an operation event. That it was not accepted is only logged. -/
def emitOperationEvent (event : OperationEvent) : Handler Unit := do
  let _ ← await (.submitOperationEvent event)
  return ()

def operationEvent (code zhCn enUs targetKind targetId : Text)
    (result : OperationOutcome × OperationImpact) (operationContextId : Option Text) :
    OperationEvent :=
  ⟨code, zhCn, enUs, targetKind, targetId, result.1, result.2, operationContextId, none, []⟩

/-- `OperationEventBuilder::error`. -/
def OperationEvent.withError (event : OperationEvent) (code summary : Text) : OperationEvent :=
  { event with error := some (code, summary) }

def removeCaptureFile (fileName : Option Text) : Handler (Except Error Bool) := do
  match fileName with
  | none => return .ok false
  | some fileName =>
    match Pcap.captureFilePath fileName with
    | .error message => return .error (.ofMessage message)
    | .ok name =>
      match ← await (.removeFile name) with
      | .removed => return .ok true
      | .notFound => return .ok false
      | .failed e => return .error e

/-! ## Effects on the instances -/

/-- Effects that neither touch a row of an instance nor its workload. -/
def Eff.Plain : Eff → Prop
  | deleteRule _ | insertInstanceIfPortAvailable _ _ | updateStatus _ _ _ _ | updatePcap _ _ _ _ _
  | deleteInstance _ | startWorkload _ | stopWorkload _ | nowV7 => False
  | _ => True

/-- The instances, their endpoints and what is known of their identifiers stay the same. -/
structure SameRows (s s' : System) : Prop where
  instances : s'.db.instances = s.db.instances
  endpoints : s'.db.instanceEndpoints = s.db.instanceEndpoints
  issued : s'.issued = s.issued
  inserted : s'.inserted = s.inserted

theorem SameRows.refl (s : System) : SameRows s s := ⟨rfl, rfl, rfl, rfl⟩

theorem SameRows.selectInstance {s s' : System} (h : SameRows s s') (id : Text) :
    s'.db.selectInstance id = s.db.selectInstance id := by
  rw [Database.selectInstance, h.instances, Database.selectInstance]

theorem act_plain {json : JsonCodec} {f : Faults} {s s' : System} {e : Eff} {r : e.Answer}
    (he : e.Plain) (h : act json f s e r s') :
    SameRows s s' ∧ s'.agent.started = s.agent.started ∧ s'.agent.stopped = s.agent.stopped := by
  have hself : s' = s → SameRows s s' ∧ s'.agent.started = s.agent.started ∧
      s'.agent.stopped = s.agent.stopped := by
    rintro rfl
    exact ⟨.refl _, rfl, rfl⟩
  cases e with
  | deleteRule | insertInstanceIfPortAvailable | updateStatus | updatePcap | deleteInstance
  | startWorkload | stopWorkload | nowV7 => exact he.elim
  | importRulePackage package =>
    rcases h with ⟨importedAt, rfl, -⟩ | ⟨heq, -⟩
    · have hsame := importRulePackage_sameInstances json importedAt s.db package
      exact ⟨⟨hsame.instances, hsame.instanceEndpoints, rfl, rfl⟩, rfl, rfl⟩
    · exact hself heq
  | startPcap workloadId =>
    rcases h with ⟨captureId, -, -, rfl⟩ | ⟨heq, -⟩
    · exact ⟨⟨rfl, rfl, rfl, rfl⟩, rfl, rfl⟩
    · exact hself heq
  | stopPcap workloadId captureId =>
    rcases h with ⟨content, -, rfl⟩ | ⟨heq, -⟩
    · exact ⟨⟨rfl, rfl, rfl, rfl⟩, rfl, rfl⟩
    · exact hself heq
  | submitOperationEvent event =>
    rcases h with ⟨-, rfl⟩ | ⟨heq, -⟩
    · exact ⟨⟨rfl, rfl, rfl, rfl⟩, rfl, rfl⟩
    · exact hself heq
  | writeFile name content =>
    rcases h with ⟨-, rfl⟩ | ⟨-, heq | ⟨written, -, rfl⟩⟩
    · exact ⟨⟨rfl, rfl, rfl, rfl⟩, rfl, rfl⟩
    · exact hself heq
    · exact ⟨⟨rfl, rfl, rfl, rfl⟩, rfl, rfl⟩
  | removeFile name =>
    rcases h with ⟨-, -, rfl⟩ | ⟨-, -, heq⟩ | ⟨heq, -⟩
    · exact ⟨⟨rfl, rfl, rfl, rfl⟩, rfl, rfl⟩
    · exact hself heq
    · exact hself heq
  | lock id =>
    obtain ⟨-, rfl⟩ := h
    exact ⟨⟨rfl, rfl, rfl, rfl⟩, rfl, rfl⟩
  | unlock id =>
    obtain rfl := h
    exact ⟨⟨rfl, rfl, rfl, rfl⟩, rfl, rfl⟩
  | spawnAutoStop id captureId startedAt =>
    obtain rfl := h
    exact ⟨⟨rfl, rfl, rfl, rfl⟩, rfl, rfl⟩
  | timestamp | sleep => exact hself h
  | getRule | selectInstances | selectInstance | selectEndpoints | platformVersion | listWorkloads
  | createPcapDir | readFile | hashOrder => exact hself h.1

section Uses

variable {ok : Eff → Prop}

theorem uses_await {α : Type} {e : Eff} {k : e.Answer → Handler α} (h : ok e)
    (hk : ∀ r, (k r).Uses ok) : (await e >>= k).Uses ok := ⟨h, hk⟩

variable (hplain : ∀ e, e.Plain → ok e)
include hplain

omit hplain in
theorem uses_getInstance_of (id : Text) (hrow : ok (.selectInstance id))
    (hendpoints : ∀ id, ok (.selectEndpoints id)) : (getInstance id).Uses ok := by
  refine uses_await hrow ?_
  rintro (e | _ | row)
  · trivial
  · trivial
  · refine uses_await (hendpoints _) ?_
    rintro (e | endpoints) <;> trivial

theorem uses_getInstance (id : Text) : (getInstance id).Uses ok :=
  uses_getInstance_of id (hplain _ trivial) fun _ => hplain _ trivial

theorem uses_withLock {α : Type} {body : Handler α} (id : Text) (h : body.Uses ok) :
    (withLock id body).Uses ok :=
  uses_await (hplain _ trivial) fun _ => uses_bind h fun _ =>
    uses_await (hplain _ trivial) fun _ => trivial

omit hplain in
theorem uses_hydrateInstances (rows : List InstanceRow)
    (hendpoints : ∀ id, ok (.selectEndpoints id)) : (hydrateInstances rows).Uses ok := by
  induction rows with
  | nil => trivial
  | cons row rows ih =>
    refine uses_await (hendpoints _) ?_
    rintro (e | endpoints)
    · trivial
    · refine uses_bind ih ?_
      rintro (e | instances) <;> trivial

omit hplain in
theorem returns_await {α : Type} {P : α → Prop} {e : Eff} {k : e.Answer → Handler α}
    (hk : ∀ r, (k r).Returns P) : (await e >>= k).Returns P := hk

omit hplain in
theorem returns_hydrateInstances (rows : List InstanceRow) :
    (hydrateInstances rows).Returns fun r => ∀ instances, r = .ok instances →
      instances.map Instance.row = rows := by
  induction rows with
  | nil =>
    intro instances heq
    obtain rfl := Except.ok.inj heq
    rfl
  | cons row rows ih =>
    refine returns_await ?_
    rintro (e | endpoints)
    · exact fun _ heq => absurd heq (by simp)
    refine returns_bind ih ?_
    rintro (e | rest) hrest instances heq
    · exact absurd heq (by simp)
    · obtain rfl := Except.ok.inj heq
      rw [List.map_cons, hrest rest rfl]

theorem uses_updateInstanceStatus {id : Text} {status : InstanceStatus}
    {workloadId errorMessage : Option Text}
    (h : ok (.updateStatus id status workloadId errorMessage)) :
    (updateInstanceStatus id status workloadId errorMessage).Uses ok := by
  refine uses_await h ?_
  rintro (e | _)
  · trivial
  · exact uses_getInstance hplain id

theorem uses_updatePcapState {id : Text} {pcapStatus : PcapStatus} {pcapStartTime : Option ℤ}
    {pcapCaptureId pcapFilePath : Option Text}
    (h : ok (.updatePcap id pcapStatus pcapStartTime pcapCaptureId pcapFilePath)) :
    (updatePcapState id pcapStatus pcapStartTime pcapCaptureId pcapFilePath).Uses ok := by
  refine uses_await h ?_
  rintro (e | _)
  · trivial
  · exact uses_getInstance hplain id

theorem uses_emitOperationEvent (event : OperationEvent) : (emitOperationEvent event).Uses ok :=
  ⟨hplain _ trivial, fun _ => trivial⟩

theorem uses_removeCaptureFile (fileName : Option Text) : (removeCaptureFile fileName).Uses ok := by
  cases fileName with
  | none => trivial
  | some fileName =>
    unfold removeCaptureFile
    simp only
    split
    · trivial
    · refine uses_await (hplain _ trivial) ?_
      rintro (_ | _ | e) <;> trivial

end Uses

end ProtocolSimulation.Service
