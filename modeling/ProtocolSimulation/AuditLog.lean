import ProtocolSimulation.ApiModels
import ProtocolSimulation.Programs
import ProtocolSimulation.Retention

/-!
# Writing audit logs

`insert_instance_log_batch` inserts the events of one instance, drops those whose
identifier is stored already, and deletes the oldest rows over the limit. It
knows how many to delete from a count that the writer keeps between batches, and
that count is the number of stored rows in every run of the writer.
-/
namespace ProtocolSimulation.Audit

open ProtocolSimulation.Texts ProtocolSimulation.JsonValues ProtocolSimulation.KeyedTables
open ProtocolSimulation.Storage ProtocolSimulation.Api ProtocolSimulation.Programs
open ProtocolSimulation.Retention

/-- A queued event and the channel its answer goes to, together with what the clock
reads and how far SQLite's sequence jumps when the event is written. -/
structure AuditLogWriteRequest where
  event : EventRequest
  response : ℕ
  now : Text
  gap : ℕ

inductive AuditLogWriteError where
  | instanceNotFound
  | internal (message : Text)

/-! ## The statements -/

def intoLog (json : JsonCodec) (r : AuditLogRow) : Option AuditLog :=
  (json.parse r.metadataJson).map fun metadata =>
    ⟨r.id, r.eventId, r.instanceId, r.endpointId, r.eventType, r.summary, r.clientIp, r.clientPort,
      r.payloadHex, metadata, r.timestamp⟩

/-- A row without the identifier that SQLite gives it. -/
def content (r : AuditLogRow) : AuditLogRow := { r with id := 0 }

/-- A row with the identifier that SQLite gives it. -/
def withId (r : AuditLogRow) (id : ℕ) : AuditLogRow := { r with id := id }

/-- The row an event is stored as, up to its identifier. -/
def eventRow (json : JsonCodec) (instanceId : Text) (request : AuditLogWriteRequest) :
    AuditLogRow :=
  let event := request.event
  ⟨0, event.eventId, instanceId, event.endpointId, event.eventType, event.summary, event.clientIp,
    event.clientPort.toNat, event.payloadHex, json.render event.metadata,
    event.timestamp.getD request.now⟩

/-- The stored rows of one instance, from the oldest to the newest. -/
def logsOf (t : AuditTable) (instanceId : Text) : List AuditLogRow :=
  t.rows.filter fun r => r.instanceId = instanceId

/-- `SELECT … WHERE event_id = ?1`. -/
def findEvent (t : AuditTable) (eventId : Text) : Option AuditLogRow :=
  t.rows.find? fun r => r.eventId = eventId

/-- `INSERT OR IGNORE`, and the number of rows it affected. -/
def insertOrIgnore (t : AuditTable) (gap : ℕ) (row : AuditLogRow) : AuditTable × ℕ :=
  if h : row.eventId ∈ t.rows.map AuditLogRow.eventId then (t, 0)
  else ({
    rows := t.rows ++ [withId row (t.seq + 1 + gap)]
    seq := t.seq + 1 + gap
    increasing := by
      rw [List.pairwise_append]
      refine ⟨t.increasing, List.pairwise_singleton _ _, ?_⟩
      intro a ha b hb
      have hle := t.assigned a ha
      rw [List.mem_singleton.mp hb]
      simp only [withId]
      omega
    assigned := by
      intro r hr
      rcases List.mem_append.mp hr with hr | hr
      · have hle := t.assigned r hr
        omega
      · rw [List.mem_singleton.mp hr]
        exact Nat.le_refl _
    unique := by
      rw [List.map_append, List.nodup_append]
      refine ⟨t.unique, by simp, ?_⟩
      intro a ha b hb
      simp only [List.map_cons, List.map_nil, List.mem_singleton] at hb
      subst hb
      intro heq
      exact h (heq ▸ ha) }, 1)

/-- `DELETE … WHERE id IN (SELECT id … ORDER BY id ASC LIMIT ?2)`. -/
def deleteOldest (t : AuditTable) (instanceId : Text) (overflow : ℕ) : AuditTable where
  rows := prune AuditLogRow.id (fun r => r.instanceId = instanceId) overflow t.rows
  seq := t.seq
  increasing := t.increasing.filter _
  assigned := fun r hr => t.assigned r (List.mem_filter.mp hr).1
  unique := (List.filter_sublist.map _).nodup t.unique

/-- The loop over the events of a batch: the table, the rows read back, and how many
rows were inserted. -/
def insertEvents (json : JsonCodec) (instanceId : Text) :
    AuditTable → List AuditLogWriteRequest → Except Text (AuditTable × List AuditLog × ℕ)
  | t, [] => .ok (t, [], 0)
  | t, request :: rest =>
    let (t', inserted) := insertOrIgnore t request.gap (eventRow json instanceId request)
    match findEvent t' request.event.eventId with
    | none => .error "failed to fetch persisted audit log"
    | some row =>
      match intoLog json row with
      | none => .error "failed to decode audit log metadata"
      | some log =>
        match insertEvents json instanceId t' rest with
        | .error message => .error message
        | .ok (t'', logs, count) => .ok (t'', log :: logs, inserted + count)

/-! ## What a batch stores -/

/-- The rows a batch adds: its events whose identifiers are neither stored nor earlier in
the batch, in their order. -/
def newRows (json : JsonCodec) (instanceId : Text) :
    List Text → List AuditLogWriteRequest → List AuditLogRow
  | _, [] => []
  | stored, request :: rest =>
    if request.event.eventId ∈ stored then newRows json instanceId stored rest
    else eventRow json instanceId request ::
      newRows json instanceId (stored ++ [request.event.eventId]) rest

theorem insertOrIgnore_spec (t : AuditTable) (gap : ℕ) (row : AuditLogRow) :
    (row.eventId ∈ t.rows.map AuditLogRow.eventId ∧ insertOrIgnore t gap row = (t, 0)) ∨
    (row.eventId ∉ t.rows.map AuditLogRow.eventId ∧ (insertOrIgnore t gap row).2 = 1 ∧
      (insertOrIgnore t gap row).1.rows = t.rows ++ [withId row (t.seq + 1 + gap)]) := by
  by_cases h : row.eventId ∈ t.rows.map AuditLogRow.eventId
  · left
    exact ⟨h, dif_pos h⟩
  · right
    rw [insertOrIgnore, dif_neg h]
    exact ⟨h, rfl, rfl⟩

theorem findEvent_eq_some_iff {t : AuditTable} {eventId : Text} {r : AuditLogRow} :
    findEvent t eventId = some r ↔ r ∈ t.rows ∧ r.eventId = eventId :=
  Table.get_eq_some_iff (t := ⟨t.rows, t.unique⟩)

/-- A batch appends its new rows and nothing else. -/
theorem insertEvents_rows {json : JsonCodec} {instanceId : Text} {t t' : AuditTable}
    {requests : List AuditLogWriteRequest} {logs : List AuditLog} {count : ℕ}
    (h : insertEvents json instanceId t requests = .ok (t', logs, count)) :
    ∃ added, t'.rows = t.rows ++ added ∧ added.length = count ∧
      added.map content = newRows json instanceId (t.rows.map AuditLogRow.eventId) requests ∧
      ∀ r ∈ added, r.instanceId = instanceId := by
  induction requests generalizing t logs count with
  | nil =>
    simp only [insertEvents, Except.ok.injEq, Prod.mk.injEq] at h
    obtain ⟨rfl, -, rfl⟩ := h
    exact ⟨[], by simp, rfl, rfl, by simp⟩
  | cons request rest ih =>
    unfold insertEvents at h
    simp only at h
    split at h
    · exact absurd h (by simp)
    split at h
    · exact absurd h (by simp)
    split at h
    · exact absurd h (by simp)
    next logs' count' hrest =>
      simp only [Except.ok.injEq, Prod.mk.injEq] at h
      obtain ⟨rfl, -, rfl⟩ := h
      obtain ⟨added, hrows, hlen, hcontent, hinst⟩ := ih hrest
      rcases insertOrIgnore_spec t request.gap (eventRow json instanceId request) with
        ⟨hstored, heq⟩ | ⟨hnew, hone, hins⟩
      · rw [heq] at hrows hcontent ⊢
        refine ⟨added, hrows, by omega, ?_, hinst⟩
        have hid : request.event.eventId ∈ t.rows.map AuditLogRow.eventId := hstored
        rw [hcontent, newRows, if_pos hid]
      · refine ⟨withId (eventRow json instanceId request) (t.seq + 1 + request.gap) :: added,
          ?_, ?_, ?_, ?_⟩
        · rw [hrows, hins, List.append_assoc]
          rfl
        · rw [hone, List.length_cons, hlen]
          omega
        · have hid : request.event.eventId ∉ t.rows.map AuditLogRow.eventId := hnew
          rw [List.map_cons, hcontent, hins, newRows, if_neg hid, List.map_append]
          rfl
        · intro r hr
          rcases List.mem_cons.mp hr with rfl | hr
          · rfl
          · exact hinst r hr

theorem id_nodup (t : AuditTable) : (t.rows.map AuditLogRow.id).Nodup := by
  rw [List.Nodup, List.pairwise_map]
  exact t.increasing.imp fun hlt => Nat.ne_of_lt hlt

theorem logsOf_deleteOldest (t : AuditTable) (instanceId : Text) (overflow : ℕ) :
    logsOf (deleteOldest t instanceId overflow) instanceId = (logsOf t instanceId).drop overflow :=
  filter_owned_prune (id_nodup t) overflow

theorem logsOf_deleteOldest_of_ne {t : AuditTable} {instanceId other : Text}
    (h : other ≠ instanceId)
    (overflow : ℕ) : logsOf (deleteOldest t instanceId overflow) other = logsOf t other := by
  apply filter_other_prune (id_nodup t)
  intro r hr
  simp only [decide_eq_true_eq] at hr
  simpa [hr] using h

/-! ## The transaction of one instance's batch -/

/-- Put a table of logs in place all of whose rows belong to instances. -/
def withAuditLogs (db : Database) (t : AuditTable)
    (h : ∀ l ∈ t.rows, ∃ r ∈ db.instances.rows, r.id = l.instanceId) : Database :=
  { db with
    auditLogs := t
    log_instance := h }

theorem inserted_log_instance {json : JsonCodec} {db : Database} {instanceId : Text}
    {row : InstanceRow}
    {requests : List AuditLogWriteRequest} {t : AuditTable} {logs : List AuditLog} {count : ℕ}
    (hrow : db.selectInstance instanceId = some row)
    (h : insertEvents json instanceId db.auditLogs requests = .ok (t, logs, count)) :
    ∀ l ∈ t.rows, ∃ r ∈ db.instances.rows, r.id = l.instanceId := by
  intro l hl
  obtain ⟨added, hrows, -, -, hinst⟩ := insertEvents_rows h
  rw [hrows] at hl
  rcases List.mem_append.mp hl with hold | hnew
  · exact db.log_instance l hold
  · obtain ⟨hmem, hid⟩ := Table.get_eq_some_iff.mp hrow
    exact ⟨row, hmem, hid.trans (hinst l hnew).symm⟩

/-- `insert_instance_log_batch`, when SQLite does not fail: the database, the rows read
back, and the number of rows the instance is left with. -/
def insertInstanceLogBatch (json : JsonCodec) (maxLogsPerInstance : ℕ) (db : Database)
    (instanceId : Text) (requests : List AuditLogWriteRequest) (cachedCount : Option ℕ) :
    Except AuditLogWriteError (Database × List AuditLog × ℕ) :=
  match hrow : db.selectInstance instanceId with
  | none => .error .instanceNotFound
  | some _ =>
    let currentCount := cachedCount.getD (logsOf db.auditLogs instanceId).length
    match hins : insertEvents json instanceId db.auditLogs requests with
    | .error message => .error (.internal message)
    | .ok (t, logs, inserted) =>
      have hlogs := inserted_log_instance hrow hins
      let total := currentCount + inserted
      let overflow := total - maxLogsPerInstance
      if 0 < overflow then
        .ok (withAuditLogs db (deleteOldest t instanceId overflow) fun l hl =>
          hlogs l (List.mem_filter.mp hl).1, logs, min total maxLogsPerInstance)
      else .ok (withAuditLogs db t hlogs, logs, min total maxLogsPerInstance)

/-- What a committed batch does, when the count it was given is right. -/
structure BatchCommitted (json : JsonCodec) (max : ℕ) (db : Database) (instanceId : Text)
    (requests : List AuditLogWriteRequest) (db' : Database) (retained : ℕ) : Prop where
  kept : ∃ added, added.map content =
      newRows json instanceId (db.auditLogs.rows.map AuditLogRow.eventId) requests ∧
    logsOf db'.auditLogs instanceId = (logsOf db.auditLogs instanceId ++ added).rtake max
  others : ∀ other, other ≠ instanceId → logsOf db'.auditLogs other = logsOf db.auditLogs other
  retained : retained = (logsOf db'.auditLogs instanceId).length
  instances : db'.instances = db.instances
  stored : ∀ r ∈ db'.auditLogs.rows, r ∈ db.auditLogs.rows ∨
    ∃ request ∈ requests, content r = eventRow json instanceId request

theorem newRows_mem {json : JsonCodec} {instanceId : Text} {stored : List Text}
    {requests : List AuditLogWriteRequest} {r : AuditLogRow}
    (h : r ∈ newRows json instanceId stored requests) :
    ∃ request ∈ requests, r = eventRow json instanceId request := by
  induction requests generalizing stored with
  | nil => exact absurd h (by simp [newRows])
  | cons request rest ih =>
    rw [newRows] at h
    split at h
    · obtain ⟨request', hmem, heq⟩ := ih h
      exact ⟨request', List.mem_cons_of_mem _ hmem, heq⟩
    · rcases List.mem_cons.mp h with rfl | h
      · exact ⟨request, List.mem_cons_self, rfl⟩
      · obtain ⟨request', hmem, heq⟩ := ih h
        exact ⟨request', List.mem_cons_of_mem _ hmem, heq⟩

theorem logsOf_append_added {t t' : AuditTable} {added : List AuditLogRow} {instanceId other : Text}
    (hrows : t'.rows = t.rows ++ added) (hinst : ∀ r ∈ added, r.instanceId = instanceId) :
    logsOf t' other = logsOf t other ++ if other = instanceId then added else [] := by
  rw [logsOf, hrows, List.filter_append, logsOf]
  congr 1
  split
  next h =>
    rw [List.filter_eq_self]
    intro r hr
    simp [hinst r hr, h]
  next h =>
    rw [List.filter_eq_nil_iff]
    intro r hr
    simpa [hinst r hr] using fun heq => h heq.symm

/-- A committed batch cuts the table its insertions led to down to the limit. -/
structure BatchCut (max : ℕ) (db : Database) (instanceId : Text) (t : AuditTable) (db' : Database)
    (retained : ℕ) : Prop where
  own : logsOf db'.auditLogs instanceId = (logsOf t instanceId).rtake max
  others : ∀ other, other ≠ instanceId → logsOf db'.auditLogs other = logsOf t other
  retained : retained = min (logsOf t instanceId).length max
  instances : db'.instances = db.instances
  rows : ∀ r ∈ db'.auditLogs.rows, r ∈ t.rows

theorem insertInstanceLogBatch_cut {json : JsonCodec} {max : ℕ} {db db' : Database}
    {instanceId : Text} {requests : List AuditLogWriteRequest} {cached : Option ℕ}
    {logs : List AuditLog} {retained : ℕ}
    (hcached : ∀ n, cached = some n → n = (logsOf db.auditLogs instanceId).length)
    (h : insertInstanceLogBatch json max db instanceId requests cached =
      .ok (db', logs, retained)) :
    ∃ t inserted, insertEvents json instanceId db.auditLogs requests = .ok (t, logs, inserted) ∧
      BatchCut max db instanceId t db' retained := by
  have hcount : cached.getD (logsOf db.auditLogs instanceId).length =
      (logsOf db.auditLogs instanceId).length := by
    cases hc : cached with
    | none => rfl
    | some n => exact hcached n hc
  unfold insertInstanceLogBatch at h
  split at h
  · exact absurd h (by simp)
  simp only [hcount] at h
  split at h
  · exact absurd h (by simp)
  next t logs' inserted hins =>
    obtain ⟨added, hrows, hlen, -, hinst⟩ := insertEvents_rows hins
    have hlength : (logsOf t instanceId).length =
        (logsOf db.auditLogs instanceId).length + inserted := by
      rw [logsOf_append_added hrows hinst, if_pos rfl, List.length_append, hlen]
    split at h
    · simp only [Except.ok.injEq, Prod.mk.injEq] at h
      obtain ⟨rfl, rfl, rfl⟩ := h
      refine ⟨t, inserted, hins, ?_, ?_, by rw [hlength],
        rfl, fun r hr => (List.mem_filter.mp hr).1⟩
      · rw [List.rtake, hlength]
        exact logsOf_deleteOldest _ _ _
      · intro other hne
        exact logsOf_deleteOldest_of_ne hne _
    next hover =>
      simp only [Except.ok.injEq, Prod.mk.injEq] at h
      obtain ⟨rfl, rfl, rfl⟩ := h
      refine ⟨t, inserted, hins, ?_, fun _ _ => rfl, by rw [hlength], rfl, fun _ hr => hr⟩
      rw [rtake_of_length_le (by omega)]
      rfl

theorem insertInstanceLogBatch_committed {json : JsonCodec} {max : ℕ} {db db' : Database}
    {instanceId : Text} {requests : List AuditLogWriteRequest} {cached : Option ℕ}
    {logs : List AuditLog} {retained : ℕ}
    (hcached : ∀ n, cached = some n → n = (logsOf db.auditLogs instanceId).length)
    (h : insertInstanceLogBatch json max db instanceId requests cached =
      .ok (db', logs, retained)) : BatchCommitted json max db instanceId requests db' retained := by
  obtain ⟨t, inserted, hins, hcut⟩ := insertInstanceLogBatch_cut hcached h
  obtain ⟨added, hrows, -, hcontent, hinst⟩ := insertEvents_rows hins
  have hown : logsOf t instanceId = logsOf db.auditLogs instanceId ++ added := by
    rw [logsOf_append_added hrows hinst, if_pos rfl]
  refine ⟨⟨added, hcontent, by rw [hcut.own, hown]⟩, ?_, ?_, hcut.instances, ?_⟩
  · intro other hne
    rw [hcut.others other hne, logsOf_append_added hrows hinst, if_neg hne, List.append_nil]
  · rw [hcut.own, length_rtake, hcut.retained]
  · intro r hr
    rcases List.mem_append.mp (hrows ▸ hcut.rows r hr) with hold | hnew
    · exact .inl hold
    · exact .inr (newRows_mem (hcontent ▸ List.mem_map_of_mem hnew))

theorem insertInstanceLogBatch_of_none {json : JsonCodec} {max : ℕ} {db : Database}
    {instanceId : Text} {requests : List AuditLogWriteRequest} {cached : Option ℕ}
    (h : db.selectInstance instanceId = none) :
    insertInstanceLogBatch json max db instanceId requests cached = .error .instanceNotFound := by
  unfold insertInstanceLogBatch
  split
  · rfl
  next hrow =>
    rw [h] at hrow
    exact absurd hrow (by simp)

/-- The batch of an existing instance answers what reading back the events gives. -/
theorem insertInstanceLogBatch_of_ok {json : JsonCodec} {max : ℕ} {db : Database}
    {instanceId : Text} {requests : List AuditLogWriteRequest} {cached : Option ℕ} {t : AuditTable}
    {logs : List AuditLog} {count : ℕ} (hexists : db.selectInstance instanceId ≠ none)
    (hins : insertEvents json instanceId db.auditLogs requests = .ok (t, logs, count)) :
    ∃ db' retained,
      insertInstanceLogBatch json max db instanceId requests cached =
        .ok (db', logs, retained) := by
  unfold insertInstanceLogBatch
  split
  next hrow => exact absurd hrow hexists
  simp only
  split
  next herr =>
    rw [hins] at herr
    exact absurd herr (by simp)
  next hok =>
    rw [hins] at hok
    simp only [Except.ok.injEq, Prod.mk.injEq] at hok
    obtain ⟨-, rfl, -⟩ := hok
    split
    · exact ⟨_, _, rfl⟩
    · exact ⟨_, _, rfl⟩

/-! ## The writer's loop -/

/-- The database and the counts the writer keeps, with the identifiers that were ever
used for an instance. -/
structure WriterState where
  db : Database
  instanceCounts : Text → Option ℕ
  used : Set Text

/-- A writer that was just started. -/
def WriterState.start (db : Database) : WriterState where
  db := db
  instanceCounts := fun _ => none
  used := {id | db.selectInstance id ≠ none}

/-- What the writer sends on the channels of its requests. -/
abbrev Replies := List (ℕ × Except AuditLogWriteError AuditLog)

/-- The answer to a group of requests none of which was stored. -/
def rejectAll (requests : List AuditLogWriteRequest) (error : AuditLogWriteError) : Replies :=
  requests.map fun request => (request.response, .error error)

/-- What `insert_instance_log_batch` returns, given what SQLite fails with if it does. A
failure rolls the transaction back, whatever it had done. -/
def batchOutcome (json : JsonCodec) (max : ℕ) (w : WriterState) (instanceId : Text)
    (requests : List AuditLogWriteRequest) (failure : Option Text) :
    Except AuditLogWriteError (Database × List AuditLog × ℕ) :=
  match failure with
  | some detail => .error (.internal detail)
  | none => insertInstanceLogBatch json max w.db instanceId requests (w.instanceCounts instanceId)

/-- One instance's requests in the loop of `run_audit_log_writer`. -/
def writeGroup (json : JsonCodec) (max : ℕ) (w : WriterState) (instanceId : Text)
    (requests : List AuditLogWriteRequest) (failure : Option Text) : WriterState × Replies :=
  match batchOutcome json max w instanceId requests failure with
  | .ok (db, logs, retained) =>
    ({ w with
      db := db
      instanceCounts := Function.update w.instanceCounts instanceId (some retained) },
      (requests.map AuditLogWriteRequest.response).zip (logs.map .ok))
  | .error .instanceNotFound =>
    ({ w with instanceCounts := Function.update w.instanceCounts instanceId none },
      rejectAll requests .instanceNotFound)
  | .error (.internal detail) => (w, rejectAll requests (.internal detail))

/-- What happens around the writer: its own batches, and the statements of other requests
that delete or insert instances. -/
inductive WriterLabel where
  | batch (instanceId : Text) (requests : List AuditLogWriteRequest) (failure : Option Text)
  | deleteInstance (id : Text)
  | deleteRule (id : Text)
  | insertInstance (row : InstanceRow) (endpoints : List InstanceEndpoint)

inductive WriterStep (json : JsonCodec) (max : ℕ) : WriterState → WriterLabel → WriterState → Prop
  | batch {w : WriterState} (instanceId : Text) (requests : List AuditLogWriteRequest)
      (failure : Option Text) : requests.length ≤ 128 →
      WriterStep json max w (.batch instanceId requests failure)
        (writeGroup json max w instanceId requests failure).1
  | deleteInstance {w : WriterState} (id : Text) :
      WriterStep json max w (.deleteInstance id) { w with db := w.db.deleteInstance id }
  | deleteRule {w : WriterState} (id : Text) :
      WriterStep json max w (.deleteRule id) { w with db := w.db.deleteRule id }
  -- identifiers of instances are never used again
  | insertInstance {w : WriterState} {db' : Database} (row : InstanceRow)
      (endpoints : List InstanceEndpoint) : row.id ∉ w.used →
      w.db.insertInstance row endpoints = some db' →
      WriterStep json max w (.insertInstance row endpoints)
        { w with
          db := db'
          used := insert row.id w.used }

/-- The counts of the existing instances are right, and only used identifiers have one. -/
structure CountsRight (w : WriterState) : Prop where
  counts : ∀ id n, w.db.selectInstance id ≠ none → w.instanceCounts id = some n →
    n = (logsOf w.db.auditLogs id).length
  used_of_count : ∀ id, w.instanceCounts id ≠ none → id ∈ w.used
  used_of_instance : ∀ id, w.db.selectInstance id ≠ none → id ∈ w.used

/-- What a step does to the stored logs. A failed batch changes nothing, a committed one
keeps the last `max` rows of its instance; the statements of other requests leave the
logs of every instance that stays alone. -/
def StepRetains (json : JsonCodec) (max : ℕ) (w : WriterState) : WriterLabel → WriterState → Prop
  | .batch instanceId requests failure, w' =>
    match batchOutcome json max w instanceId requests failure with
    | .ok (_, _, retained) => BatchCommitted json max w.db instanceId requests w'.db retained
    | .error _ => w'.db = w.db
  | _, w' => ∀ id, w.db.selectInstance id ≠ none → w'.db.selectInstance id ≠ none →
      logsOf w'.db.auditLogs id = logsOf w.db.auditLogs id

/-- The retention limit is kept, and every cached count of an existing instance is the
number of its stored rows. -/
structure StepCorrect (json : JsonCodec) (max : ℕ) (w : WriterState) (l : WriterLabel)
    (w' : WriterState) : Prop where
  retains : StepRetains json max w l w'
  counts : ∀ id n, w'.db.selectInstance id ≠ none → w'.instanceCounts id = some n →
    n = (logsOf w'.db.auditLogs id).length

/-- A batch is committed exactly if SQLite does not fail, the instance exists, and what is stored of
the events can be read back. -/
theorem batchOutcome_ok_iff {json : JsonCodec} {max : ℕ} {w : WriterState} {instanceId : Text}
    {requests : List AuditLogWriteRequest} {failure : Option Text} :
    (∃ db logs retained, batchOutcome json max w instanceId requests failure =
      .ok (db, logs, retained)) ↔
      failure = none ∧ w.db.selectInstance instanceId ≠ none ∧
        ∃ t logs count,
          insertEvents json instanceId w.db.auditLogs requests = .ok (t, logs, count) := by
  constructor
  · intro h
    obtain ⟨db, logs, retained, h⟩ := h
    unfold batchOutcome at h
    split at h
    next => cases h
    next =>
      unfold insertInstanceLogBatch at h
      split at h
      next => cases h
      next hrow =>
        have hexists : w.db.selectInstance instanceId ≠ none := by simp [hrow]
        simp only at h
        split at h
        next => cases h
        next t found inserted hins => exact ⟨rfl, hexists, t, found, inserted, hins⟩
  · intro h
    obtain ⟨rfl, hexists, t, logs, count, hins⟩ := h
    obtain ⟨db', retained, hbatch⟩ :=
      @insertInstanceLogBatch_of_ok _ max _ _ _ (w.instanceCounts instanceId) _ _ _ hexists hins
    exact ⟨db', logs, retained, hbatch⟩

theorem batchOutcome_committed {json : JsonCodec} {max : ℕ} {w : WriterState} {instanceId : Text}
    {requests : List AuditLogWriteRequest} {failure : Option Text} {db : Database}
    {logs : List AuditLog} {retained : ℕ} (hw : CountsRight w)
    (h : batchOutcome json max w instanceId requests failure = .ok (db, logs, retained)) :
    w.db.selectInstance instanceId ≠ none ∧
      BatchCommitted json max w.db instanceId requests db retained := by
  obtain ⟨hfine, hexists, _⟩ := batchOutcome_ok_iff.mp ⟨db, logs, retained, h⟩
  rw [hfine] at h
  refine ⟨hexists, insertInstanceLogBatch_committed ?_ h⟩
  intro n hn
  exact hw.counts instanceId n hexists hn

theorem writeGroup_keeps {json : JsonCodec} {max : ℕ} {w : WriterState} (hw : CountsRight w)
    (instanceId : Text) (requests : List AuditLogWriteRequest) (failure : Option Text) :
    CountsRight (writeGroup json max w instanceId requests failure).1 ∧
      StepRetains json max w (.batch instanceId requests failure)
        (writeGroup json max w instanceId requests failure).1 := by
  unfold writeGroup StepRetains
  split
  next db logs retained hout =>
    obtain ⟨hexists, hcommitted⟩ := batchOutcome_committed hw hout
    have hselect : ∀ id, db.selectInstance id = w.db.selectInstance id := by
      intro id
      rw [Database.selectInstance, hcommitted.instances, Database.selectInstance]
    refine ⟨⟨?_, ?_, ?_⟩, by simp only [hout]; exact hcommitted⟩
    · intro id n hid hn
      by_cases heq : id = instanceId
      · subst heq
        simp only [Function.update_self, Option.some.injEq] at hn
        rw [← hn]
        exact hcommitted.retained
      · simp only [ne_eq, heq, not_false_eq_true, Function.update_of_ne] at hn
        simp only at hid ⊢
        rw [hcommitted.others id heq]
        exact hw.counts id n (hselect id ▸ hid) hn
    · intro id hid
      by_cases heq : id = instanceId
      · subst heq
        exact hw.used_of_instance id hexists
      · simp only [ne_eq, heq, not_false_eq_true, Function.update_of_ne] at hid
        exact hw.used_of_count id hid
    · intro id hid
      exact hw.used_of_instance id (hselect id ▸ hid)
  next hout =>
    refine ⟨⟨?_, ?_, hw.used_of_instance⟩, by simp only [hout]⟩
    · intro id n hid hn
      by_cases heq : id = instanceId
      · subst heq
        simp at hn
      · simp only [ne_eq, heq, not_false_eq_true, Function.update_of_ne] at hn
        exact hw.counts id n hid hn
    · intro id hid
      by_cases heq : id = instanceId
      · subst heq
        simp at hid
      · simp only [ne_eq, heq, not_false_eq_true, Function.update_of_ne] at hid
        exact hw.used_of_count id hid
  next detail hout => exact ⟨hw, by simp only [hout]⟩

/-- Deleting instances leaves the logs and the counts of the others alone. -/
theorem dropInstances_keeps {w : WriterState} (hw : CountsRight w) {db' : Database}
    (h : ∀ id row, db'.selectInstance id = some row → w.db.selectInstance id = some row ∧
      logsOf db'.auditLogs id = logsOf w.db.auditLogs id) :
    CountsRight { w with db := db' } ∧
      ∀ id, w.db.selectInstance id ≠ none → db'.selectInstance id ≠ none →
        logsOf db'.auditLogs id = logsOf w.db.auditLogs id := by
  have hkept : ∀ id, db'.selectInstance id ≠ none → w.db.selectInstance id ≠ none ∧
      logsOf db'.auditLogs id = logsOf w.db.auditLogs id := by
    intro id hid
    obtain ⟨row, hrow⟩ := Option.ne_none_iff_exists'.mp hid
    obtain ⟨hold, hlogs⟩ := h id row hrow
    exact ⟨by rw [hold]; simp, hlogs⟩
  refine ⟨⟨?_, hw.used_of_count, ?_⟩, fun id _ hid => (hkept id hid).2⟩
  · intro id n hid hn
    obtain ⟨hold, hlogs⟩ := hkept id hid
    simp only
    rw [hlogs]
    exact hw.counts id n hold hn
  · intro id hid
    exact hw.used_of_instance id (hkept id hid).1

theorem dropInstances_logs {db : Database} {p : InstanceRow → Bool} {id : Text} {row : InstanceRow}
    (h : (db.dropInstances p).selectInstance id = some row) :
    db.selectInstance id = some row ∧
      logsOf (db.dropInstances p).auditLogs id = logsOf db.auditLogs id := by
  rw [Database.selectInstance_dropInstances, Option.filter_eq_some_iff] at h
  obtain ⟨hrow, hp⟩ := h
  exact ⟨hrow, (Database.dropInstances_of_kept hrow (by simpa using hp)).2.2⟩

theorem WriterStep.keeps {json : JsonCodec} {max : ℕ} {w w' : WriterState} {l : WriterLabel}
    (hw : CountsRight w) (h : WriterStep json max w l w') :
    CountsRight w' ∧ StepRetains json max w l w' := by
  cases h with
  | batch instanceId requests failure _ => exact writeGroup_keeps hw instanceId requests failure
  | deleteInstance id => exact dropInstances_keeps hw fun _ _ hrow => dropInstances_logs hrow
  | deleteRule id => exact dropInstances_keeps hw fun _ _ hrow => dropInstances_logs hrow
  | @insertInstance db' row endpoints hfresh hins =>
    obtain ⟨-, hselect, -, hlogs⟩ := Database.insertInstance_spec hins
    have hold : ∀ id, id ≠ row.id → db'.selectInstance id = w.db.selectInstance id := by
      intro id hne
      rw [hselect, if_neg hne]
    refine ⟨⟨?_, ?_, ?_⟩, ?_⟩
    · intro id n hid hn
      by_cases heq : id = row.id
      · subst heq
        exact absurd (hw.used_of_count _ (by rw [hn]; simp)) hfresh
      · simp only at hid ⊢
        rw [hold id heq] at hid
        rw [hlogs]
        exact hw.counts id n hid hn
    · intro id hid
      exact Set.mem_insert_of_mem _ (hw.used_of_count id hid)
    · intro id hid
      by_cases heq : id = row.id
      · exact heq ▸ Set.mem_insert _ _
      · simp only at hid
        rw [hold id heq] at hid
        exact Set.mem_insert_of_mem _ (hw.used_of_instance id hid)
    · intro id _ _
      simp only
      rw [hlogs]

theorem countsRight_start (db : Database) : CountsRight (WriterState.start db) := by
  refine ⟨?_, ?_, ?_⟩
  · intro id n _ hn
    exact absurd hn (by simp [WriterState.start])
  · intro id hid
    exact absurd rfl hid
  · intro id hid
    exact hid

/-- In every run of a writer just started, with batches that repeat stored events, failed
batches and deleted instances. -/
theorem run_stepCorrect (json : JsonCodec) (max : ℕ) (db : Database)
    (run : List (WriterLabel × WriterState))
    (hrun : Path (WriterStep json max) (WriterState.start db) run) :
    EveryStep (StepCorrect json max) (WriterState.start db) run := by
  refine Path.everyStep ?_ (countsRight_start db) hrun
  intro w l w' hw hstep
  obtain ⟨hw', hretains⟩ := hstep.keeps hw
  exact ⟨hw', hretains, hw'.counts⟩

def connectionRequest : AuditLogWriteRequest :=
  ⟨⟨1, "e-2", "sim-1", "main", "connection", "connected", "192.0.2.1", 40001, none, .obj [], none⟩,
    0, "2026-08-11T00:00:00Z", 0⟩

/-- One more event than the limit allows, and then the instance is deleted. -/
theorem run_stepCorrect_deployedOnce :
    let w := WriterState.start deployedOnce
    let w' := (writeGroup emptyObjectCodec 1 w "sim-1" [connectionRequest] none).1
    EveryStep (StepCorrect emptyObjectCodec 1) w
      [(.batch "sim-1" [connectionRequest] none, w'),
        (.deleteInstance "sim-1", { w' with db := w'.db.deleteInstance "sim-1" })] :=
  run_stepCorrect _ _ _ _ (.cons (.batch _ _ _ (by decide)) (.cons (.deleteInstance _) .nil))

end ProtocolSimulation.Audit
