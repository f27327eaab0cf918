import ProtocolSimulation.KeyedTables
import ProtocolSimulation.Protocols
import Mathlib.Data.Char
import Mathlib.Data.List.Lex
import Mathlib.Data.List.Sort

/-!
# The service's database

The tables that `init` creates. Their primary keys, foreign keys and unique
columns are part of the value, as SQLite enforces them on every statement, and
deleting a row of `rules` or `instances` cascades to the rows that refer to it.
-/
namespace ProtocolSimulation.Storage

open ProtocolSimulation.Texts ProtocolSimulation.Protocols ProtocolSimulation.KeyedTables

structure Rule where
  id : Text
  name : Text
  protocol : Text
  defaultPort : ℤ
  configJson : Text
  createdAt : Text
  updatedAt : Text

structure RulePackageSummary where
  packageId : Text
  version : Text
  rulesetFormatVersion : ℤ
  minSeclabVersion : Text
  ruleCount : ℤ
  generatedAt : Text
  importedAt : Text

inductive InstanceStatus where
  | deploying
  | running
  | error
  | inactive
deriving DecidableEq

inductive PcapStatus where
  | idle
  | capturing
  | ready
deriving DecidableEq

structure InstanceRow where
  id : Text
  ruleId : Text
  ruleName : Text
  protocol : Text
  callbackToken : Text
  status : InstanceStatus
  workloadId : Option Text
  errorMessage : Option Text
  pcapStatus : PcapStatus
  pcapStartTime : Option ℤ
  pcapCaptureId : Option Text
  pcapFilePath : Option Text
deriving DecidableEq

structure InstanceEndpoint where
  instanceId : Text
  endpointId : Text
  transport : Text
  hostPort : ℤ
  containerPort : ℤ
deriving DecidableEq

def InstanceEndpoint.key (e : InstanceEndpoint) : Text × Text := (e.instanceId, e.endpointId)

structure AuditLogRow where
  id : ℕ
  eventId : Text
  instanceId : Text
  endpointId : Text
  eventType : Text
  summary : Text
  clientIp : Text
  clientPort : ℤ
  payloadHex : Option Text
  metadataJson : Text
  timestamp : Text
deriving DecidableEq

/-- The table `audit_logs`, in the order of its identifiers. Identifiers are never
used again, and an event is stored at most once. -/
structure AuditTable where
  rows : List AuditLogRow
  seq : ℕ
  increasing : rows.Pairwise fun a b => a.id < b.id
  assigned : ∀ r ∈ rows, r.id ≤ seq
  unique : (rows.map AuditLogRow.eventId).Nodup

namespace AuditTable

@[ext] theorem ext {t u : AuditTable} (hrows : t.rows = u.rows) (hseq : t.seq = u.seq) : t = u := by
  cases t
  cases u
  subst hrows hseq
  rfl

def empty : AuditTable := ⟨[], 0, .nil, by simp, List.nodup_nil⟩

def filter (t : AuditTable) (p : AuditLogRow → Bool) : AuditTable where
  rows := t.rows.filter p
  seq := t.seq
  increasing := t.increasing.filter p
  assigned := fun r hr => t.assigned r (List.mem_filter.mp hr).1
  unique := (List.filter_sublist.map _).nodup t.unique

@[simp] theorem rows_filter (t : AuditTable) (p : AuditLogRow → Bool) :
    (t.filter p).rows = t.rows.filter p := rfl

theorem filter_eq_self {t : AuditTable} {p : AuditLogRow → Bool} (h : ∀ r ∈ t.rows, p r = true) :
    t.filter p = t :=
  ext (List.filter_eq_self.mpr h) rfl

end AuditTable

structure Database where
  rules : Table Rule.id
  rulePackages : Table RulePackageSummary.packageId
  instances : Table InstanceRow.id
  instanceEndpoints : Table InstanceEndpoint.key
  auditLogs : AuditTable
  instance_rule : ∀ r ∈ instances.rows, ∃ q ∈ rules.rows, q.id = r.ruleId
  endpoint_instance : ∀ e ∈ instanceEndpoints.rows, ∃ r ∈ instances.rows, r.id = e.instanceId
  log_instance : ∀ l ∈ auditLogs.rows, ∃ r ∈ instances.rows, r.id = l.instanceId

def InstanceStatus.Active (s : InstanceStatus) : Prop := s = deploying ∨ s = running

instance (s : InstanceStatus) : Decidable s.Active := inferInstanceAs (Decidable (_ ∨ _))

namespace Database

/-- The tables as `init` creates them. -/
def init : Database where
  rules := .empty _
  rulePackages := .empty _
  instances := .empty _
  instanceEndpoints := .empty _
  auditLogs := .empty
  instance_rule := by simp
  endpoint_instance := by simp
  log_instance := by simp [AuditTable.empty]

/-! ## Reading -/

def selectInstance (db : Database) (id : Text) : Option InstanceRow := db.instances.get id

/-- `SELECT … WHERE instance_id = ?1 ORDER BY endpoint_id`. -/
def selectEndpoints (db : Database) (id : Text) : List InstanceEndpoint :=
  (db.instanceEndpoints.rows.filter fun e => e.instanceId = id).insertionSort fun e e' =>
    e.endpointId ≤ e'.endpointId

/-- An active instance has the port of that transport bound. -/
def occupied (db : Database) (transport : Text) (hostPort : ℤ) : Bool :=
  db.instanceEndpoints.rows.any fun e => e.transport = transport && e.hostPort = hostPort &&
    db.instances.rows.any fun r => r.id = e.instanceId && decide r.status.Active

theorem occupied_eq_true_iff {db : Database} {transport : Text} {hostPort : ℤ} :
    db.occupied transport hostPort = true ↔
      ∃ e ∈ db.instanceEndpoints.rows, e.transport = transport ∧ e.hostPort = hostPort ∧
        ∃ r, db.selectInstance e.instanceId = some r ∧ r.status.Active := by
  simp only [occupied, List.any_eq_true, Bool.and_eq_true, decide_eq_true_eq, selectInstance,
    Table.get_eq_some_iff]
  constructor
  · rintro ⟨e, he, ⟨ht, hp⟩, r, hr, hid, hactive⟩
    exact ⟨e, he, ht, hp, r, ⟨hr, hid⟩, hactive⟩
  · rintro ⟨e, he, ht, hp, r, ⟨hr, hid⟩, hactive⟩
    exact ⟨e, he, ⟨ht, hp⟩, r, hr, hid, hactive⟩

/-! ## Changing a row of `instances` -/

/-- Change one row of `instances` outside of its key and its foreign key. -/
def modifyInstance (db : Database) (id : Text) (f : InstanceRow → InstanceRow)
    (hid : ∀ r, (f r).id = r.id) (hrule : ∀ r, (f r).ruleId = r.ruleId) : Database :=
  { db with
    instances := db.instances.modify id f hid
    instance_rule := by
      intro r hr
      obtain ⟨q, hq, hqr⟩ := Table.mem_modify.mp hr
      obtain ⟨rule, hmem, heq⟩ := db.instance_rule q hq
      refine ⟨rule, hmem, ?_⟩
      rw [heq, ← hqr]
      split
      · rw [hrule]
      · rfl
    endpoint_instance := by
      intro e he
      obtain ⟨r, hr, heq⟩ := db.endpoint_instance e he
      refine ⟨_, Table.mem_modify.mpr ⟨r, hr, rfl⟩, ?_⟩
      rw [← heq]
      split
      · rw [hid]
      · rfl
    log_instance := by
      intro l hl
      obtain ⟨r, hr, heq⟩ := db.log_instance l hl
      refine ⟨_, Table.mem_modify.mpr ⟨r, hr, rfl⟩, ?_⟩
      rw [← heq]
      split
      · rw [hid]
      · rfl }

/-- The `UPDATE` of `update_instance_status`; a NULL workload keeps the stored one. -/
def updateStatus (db : Database) (id : Text) (status : InstanceStatus) (workloadId : Option Text)
    (errorMessage : Option Text) : Database :=
  db.modifyInstance id (fun r => { r with
    status := status
    workloadId := workloadId.or r.workloadId
    errorMessage := errorMessage }) (fun _ => rfl) (fun _ => rfl)

/-- The `UPDATE` of `update_pcap_state`. -/
def updatePcap (db : Database) (id : Text) (pcapStatus : PcapStatus) (pcapStartTime : Option ℤ)
    (pcapCaptureId pcapFilePath : Option Text) : Database :=
  db.modifyInstance id (fun r => { r with
    pcapStatus := pcapStatus
    pcapStartTime := pcapStartTime
    pcapCaptureId := pcapCaptureId
    pcapFilePath := pcapFilePath }) (fun _ => rfl) (fun _ => rfl)

theorem selectInstance_modifyInstance {db : Database} {id : Text} {f : InstanceRow → InstanceRow}
    {hid : ∀ r, (f r).id = r.id} {hrule : ∀ r, (f r).ruleId = r.ruleId} {j : Text} :
    (db.modifyInstance id f hid hrule).selectInstance j =
      (db.selectInstance j).map fun r => if j = id then f r else r :=
  Table.get_modify db.instances id f hid j

theorem selectInstance_updateStatus {db : Database} {id : Text} {status : InstanceStatus}
    {workloadId errorMessage : Option Text} {j : Text} :
    (db.updateStatus id status workloadId errorMessage).selectInstance j =
      (db.selectInstance j).map fun r => if j = id then { r with
        status := status
        workloadId := workloadId.or r.workloadId
        errorMessage := errorMessage } else r :=
  selectInstance_modifyInstance

theorem selectInstance_updateStatus_of_some {db : Database} {id : Text} {status : InstanceStatus}
    {workloadId errorMessage : Option Text} {j : Text} {r : InstanceRow}
    (h : db.selectInstance j = some r) :
    (db.updateStatus id status workloadId errorMessage).selectInstance j =
      some (if j = id then { r with
        status := status
        workloadId := workloadId.or r.workloadId
        errorMessage := errorMessage } else r) := by
  rw [selectInstance_updateStatus, h, Option.map_some]

theorem selectInstance_updatePcap {db : Database} {id : Text} {pcapStatus : PcapStatus}
    {pcapStartTime : Option ℤ} {pcapCaptureId pcapFilePath : Option Text} {j : Text} :
    (db.updatePcap id pcapStatus pcapStartTime pcapCaptureId pcapFilePath).selectInstance j =
      (db.selectInstance j).map fun r => if j = id then { r with
        pcapStatus := pcapStatus
        pcapStartTime := pcapStartTime
        pcapCaptureId := pcapCaptureId
        pcapFilePath := pcapFilePath } else r :=
  selectInstance_modifyInstance

@[simp] theorem instanceEndpoints_updateStatus {db : Database} {id : Text} {status : InstanceStatus}
    {workloadId errorMessage : Option Text} :
    (db.updateStatus id status workloadId errorMessage).instanceEndpoints =
      db.instanceEndpoints := rfl

@[simp] theorem instanceEndpoints_updatePcap {db : Database} {id : Text} {pcapStatus : PcapStatus}
    {pcapStartTime : Option ℤ} {pcapCaptureId pcapFilePath : Option Text} :
    (db.updatePcap id pcapStatus pcapStartTime pcapCaptureId pcapFilePath).instanceEndpoints =
      db.instanceEndpoints := rfl

/-! ## Deleting, with its cascade -/

/-- Delete the instances that satisfy `p`, and with them their endpoints and logs. -/
def dropInstances (db : Database) (p : InstanceRow → Bool) : Database :=
  let kept (id : Text) := db.instances.rows.any fun r => !p r && r.id = id
  have hkept : ∀ {id}, kept id = true → ∃ r ∈ (db.instances.filter fun r => !p r).rows,
      r.id = id := by
    intro id h
    obtain ⟨r, hr, hrid⟩ := List.any_eq_true.mp h
    obtain ⟨hp, hid⟩ := Bool.and_eq_true_iff.mp hrid
    exact ⟨r, Table.mem_filter.mpr ⟨hr, hp⟩, by simpa using hid⟩
  { db with
    instances := db.instances.filter fun r => !p r
    instanceEndpoints := db.instanceEndpoints.filter fun e => kept e.instanceId
    auditLogs := db.auditLogs.filter fun l => kept l.instanceId
    instance_rule := fun r hr => db.instance_rule r (Table.mem_filter.mp hr).1
    endpoint_instance := fun _ he => hkept (Table.mem_filter.mp he).2
    log_instance := fun _ hl => hkept (List.mem_filter.mp hl).2 }

theorem selectInstance_dropInstances (db : Database) (p : InstanceRow → Bool) (j : Text) :
    (db.dropInstances p).selectInstance j = (db.selectInstance j).filter fun r => !p r :=
  Table.get_filter db.instances _ j

/-- An endpoint survives exactly when the instance it belongs to does. -/
theorem mem_instanceEndpoints_dropInstances {db : Database} {p : InstanceRow → Bool}
    {e : InstanceEndpoint} : e ∈ (db.dropInstances p).instanceEndpoints.rows ↔
      e ∈ db.instanceEndpoints.rows ∧ ∃ r ∈ db.instances.rows, p r = false ∧ r.id =
        e.instanceId := by
  simp [dropInstances]

/-- The instances that stay keep their endpoints and their logs. -/
theorem dropInstances_of_kept {db : Database} {p : InstanceRow → Bool} {id : Text} {r : InstanceRow}
    (hr : db.selectInstance id = some r) (hp : p r = false) :
    (db.dropInstances p).selectInstance id = some r ∧
    (db.dropInstances p).selectEndpoints id = db.selectEndpoints id ∧
    (db.dropInstances p).auditLogs.rows.filter (fun l => l.instanceId = id) =
      db.auditLogs.rows.filter fun l => l.instanceId = id := by
  obtain ⟨hmem, hid⟩ := Table.get_eq_some_iff.mp hr
  have hkept : (db.instances.rows.any fun r => !p r && r.id = id) = true :=
    List.any_eq_true.mpr ⟨r, hmem, by simp [hp, hid]⟩
  refine ⟨?_, ?_, ?_⟩
  · rw [selectInstance_dropInstances, hr]
    simp [hp]
  · unfold selectEndpoints dropInstances
    simp only [Table.filter, List.filter_filter]
    congr 1
    apply List.filter_congr
    intro e _
    by_cases he : e.instanceId = id
    · subst he
      rw [hkept]
      simp
    · simp [he]
  · unfold dropInstances
    simp only [AuditTable.rows_filter, List.filter_filter]
    apply List.filter_congr
    intro l _
    by_cases hl : l.instanceId = id
    · subst hl
      rw [hkept]
      simp
    · simp [hl]

/-- `db'` has the instances of `db`, with all that belongs to them. -/
structure SameInstances (db db' : Database) : Prop where
  instances : db'.instances = db.instances
  instanceEndpoints : db'.instanceEndpoints = db.instanceEndpoints
  auditLogs : db'.auditLogs = db.auditLogs

theorem SameInstances.refl (db : Database) : SameInstances db db := ⟨rfl, rfl, rfl⟩

theorem SameInstances.trans {db₁ db₂ db₃ : Database} (h : SameInstances db₁ db₂)
    (h' : SameInstances db₂ db₃) : SameInstances db₁ db₃ :=
  ⟨h'.instances.trans h.instances, h'.instanceEndpoints.trans h.instanceEndpoints,
    h'.auditLogs.trans h.auditLogs⟩

/-- Deleting what no instance satisfies changes nothing. -/
theorem dropInstances_sameInstances {db : Database} {p : InstanceRow → Bool}
    (h : ∀ r ∈ db.instances.rows, p r = false) : SameInstances db (db.dropInstances p) := by
  have hkept : ∀ {id}, (∃ r ∈ db.instances.rows, r.id = id) →
      (db.instances.rows.any fun r => !p r && r.id = id) = true := by
    intro id ⟨r, hr, hid⟩
    exact List.any_eq_true.mpr ⟨r, hr, by simp [h r hr, hid]⟩
  refine ⟨Table.filter_eq_self ?_, Table.filter_eq_self ?_, AuditTable.filter_eq_self ?_⟩
  · intro r hr
    simp [h r hr]
  · intro e he
    exact hkept (db.endpoint_instance e he)
  · intro l hl
    exact hkept (db.log_instance l hl)

def deleteInstance (db : Database) (id : Text) : Database := db.dropInstances fun r => r.id = id

theorem selectInstance_deleteInstance {db : Database} {id j : Text} :
    (db.deleteInstance id).selectInstance j = if j = id then none else db.selectInstance j := by
  rw [deleteInstance, selectInstance_dropInstances]
  cases hget : db.selectInstance j with
  | none => simp
  | some r =>
    have hrid : r.id = j := Table.key_of_get hget
    by_cases hj : j = id <;> simp [hrid, hj]

def deleteRule (db : Database) (id : Text) : Database :=
  let db' := db.dropInstances fun r => r.ruleId = id
  { db' with
    rules := db'.rules.filter fun q => q.id ≠ id
    instance_rule := by
      intro r hr
      obtain ⟨q, hq, heq⟩ := db'.instance_rule r hr
      refine ⟨q, Table.mem_filter.mpr ⟨hq, ?_⟩, heq⟩
      have hkeep := (Table.mem_filter.mp hr).2
      rw [heq]
      simpa using hkeep }

theorem selectInstance_deleteRule {db : Database} {id j : Text} :
    (db.deleteRule id).selectInstance j =
      (db.selectInstance j).filter fun r => !decide (r.ruleId = id) :=
  selectInstance_dropInstances db _ j

theorem instanceEndpoints_deleteRule {db : Database} {id : Text} :
    (db.deleteRule id).instanceEndpoints =
      (db.dropInstances fun r => r.ruleId = id).instanceEndpoints := rfl

/-! ## Inserting an instance -/

/-- Insert the endpoints of one instance in turn; the column `transport` is checked. -/
def insertEndpoints : Table InstanceEndpoint.key → List InstanceEndpoint →
    Option (Table InstanceEndpoint.key)
  | t, [] => some t
  | t, e :: es =>
    if e.transport = "tcp" ∨ e.transport = "udp" then
      (t.insert e).bind fun t' => insertEndpoints t' es
    else none

theorem mem_insertEndpoints {t u : Table InstanceEndpoint.key} {es : List InstanceEndpoint}
    (h : insertEndpoints t es = some u) {e : InstanceEndpoint} :
    e ∈ u.rows ↔ e ∈ t.rows ∨ e ∈ es := by
  induction es generalizing t with
  | nil =>
    rw [← Option.some.inj h]
    simp
  | cons a es ih =>
    rw [insertEndpoints] at h
    split_ifs at h
    obtain ⟨t', ht', hrest⟩ := Option.bind_eq_some_iff.mp h
    rw [ih hrest, (Table.insert_eq_some_iff.mp ht').2]
    simp [or_assoc]

/-- Insert a row of `instances` and its endpoints; a key that is taken or a rule that
is missing makes SQLite refuse it. -/
def insertInstance (db : Database) (row : InstanceRow) (endpoints : List InstanceEndpoint) :
    Option Database :=
  if hrule : ∃ q ∈ db.rules.rows, q.id = row.ruleId then
    match hi : db.instances.insert row,
        he : insertEndpoints db.instanceEndpoints
          (endpoints.map ({ · with instanceId := row.id })) with
    | some instances, some instanceEndpoints =>
      have hmem : ∀ r, r ∈ instances.rows ↔ r ∈ db.instances.rows ∨ r = row := by
        intro r
        rw [(Table.insert_eq_some_iff.mp hi).2]
        simp
      some { db with
        instances := instances
        instanceEndpoints := instanceEndpoints
        instance_rule := by
          intro r hr
          rcases (hmem r).mp hr with hr | rfl
          · exact db.instance_rule r hr
          · exact hrule
        endpoint_instance := by
          intro e hmem'
          rcases (mem_insertEndpoints he).mp hmem' with hold | hnew
          · obtain ⟨r, hr, heq⟩ := db.endpoint_instance e hold
            exact ⟨r, (hmem r).mpr (.inl hr), heq⟩
          · obtain ⟨a, _, rfl⟩ := List.mem_map.mp hnew
            exact ⟨row, (hmem row).mpr (.inr rfl), rfl⟩
        log_instance := by
          intro l hl
          obtain ⟨r, hr, heq⟩ := db.log_instance l hl
          exact ⟨r, (hmem r).mpr (.inl hr), heq⟩ }
    | _, _ => none
  else none

/-- What inserting an instance does to the rows and the endpoints. -/
theorem insertInstance_spec {db db' : Database} {row : InstanceRow}
    {endpoints : List InstanceEndpoint} (h : db.insertInstance row endpoints = some db') :
    db.selectInstance row.id = none ∧
    (∀ j, db'.selectInstance j = if j = row.id then some row else db.selectInstance j) ∧
    (∀ e, e ∈ db'.instanceEndpoints.rows ↔
      e ∈ db.instanceEndpoints.rows ∨ ∃ a ∈ endpoints, { a with instanceId := row.id } = e) ∧
    db'.auditLogs = db.auditLogs := by
  unfold insertInstance at h
  split at h
  next hrule =>
    split at h
    next instances instanceEndpoints hi he =>
      rw [← Option.some.inj h]
      refine ⟨(Table.insert_eq_some_iff.mp hi).1, fun j => Table.get_insert hi j, ?_, rfl⟩
      intro e
      rw [mem_insertEndpoints he, List.mem_map]
    next => exact absurd h (by simp)
  next => exact absurd h (by simp)

/-- `insert_instance_if_port_available`, a transaction: `none` when SQLite refuses the
insertion, else whether the ports were free and the instance was inserted. -/
def insertInstanceIfPortAvailable (db : Database) (row : InstanceRow)
    (endpoints : List InstanceEndpoint) : Option (Bool × Database) :=
  if endpoints.any fun e => db.occupied e.transport e.hostPort then some (false, db)
  else (db.insertInstance row endpoints).map fun db' => (true, db')

end Database

/-- A database with a user rule and a running instance of it. -/
def deployedOnce : Database where
  rules := ⟨[⟨"rule-1", "shell", "ssh", 22, "{}", "", ""⟩], by decide⟩
  rulePackages := .empty _
  instances := ⟨[⟨"sim-1", "rule-1", "shell", "ssh", "token", .running, some "w-1",
    none, .idle, none,
    none, none⟩], by decide⟩
  instanceEndpoints := ⟨[⟨"sim-1", "main", "tcp", 2222, 22⟩], by decide⟩
  auditLogs := ⟨[⟨1, "e-1", "sim-1", "main", "connection", "connected", "192.0.2.1",
    40000, none, "{}",
    ""⟩], 1, by decide, by decide, by decide⟩
  instance_rule := by decide
  endpoint_instance := by decide
  log_instance := by decide

end ProtocolSimulation.Storage
