import ProtocolSimulation.AuditIsolation

/-!
# Events on their way into the audit log

`record_event` checks an event against the instance it names and hands it to the
writer through a bounded channel. The handlers of all requests run next to each
other and next to the writer, and other requests change the instances meanwhile.
Anyone may send an event: what ends up among the logs of an instance was sent with
the token of that instance.
-/
namespace ProtocolSimulation.Audit

open ProtocolSimulation.Texts ProtocolSimulation.JsonValues ProtocolSimulation.KeyedTables
open ProtocolSimulation.Storage ProtocolSimulation.Api ProtocolSimulation.Programs
open ProtocolSimulation.RuntimeEvents

def auditLogQueueCapacity : ℕ := 4096

def auditLogBatchSize : ℕ := 128

/-- An event as it came in, with its header `authorization`. -/
structure Presented where
  authorization : Option Text
  event : EventRequest

/-- All that was ever sent to `record_event`; the requests of its handlers that wait for room in
the channel; the channel, the batch the writer is at, and what it answered. The channel a request
is answered on is the number of what was sent. -/
structure Intake where
  writer : WriterState
  presented : List Presented
  waiting : List AuditLogWriteRequest
  channel : List AuditLogWriteRequest
  batch : List AuditLogWriteRequest
  replies : Replies

def Intake.start (db : Database) : Intake where
  writer := .start db
  presented := []
  waiting := []
  channel := []
  batch := []
  replies := []

/-- A handler checks what was sent to it, and then waits until the channel has room. -/
def recordEvent (lib : EventLibraries) (s : Intake) (p : Presented) (now : Text) (gap : ℕ) :
    Intake :=
  match checkEvent lib p.authorization (getInstance s.writer.db p.event.instanceId) p.event with
  | .ok () =>
    { s with
      presented := s.presented ++ [p]
      waiting := s.waiting ++ [⟨p.event, s.presented.length, now, gap⟩] }
  | .error _ => { s with presented := s.presented ++ [p] }

/-- The writer writes the requests of one instance in its batch. -/
def writeNext (lib : EventLibraries) (max : ℕ) (s : Intake) (instanceId : Text)
    (failure : Option Text) : Intake :=
  let written := writeGroup lib.json max s.writer instanceId (groupOf s.batch instanceId) failure
  { s with
    writer := written.1
    batch := s.batch.filter fun request => request.event.instanceId ≠ instanceId
    replies := s.replies ++ written.2 }

/-- The statements of other requests. -/
inductive Statement (w : WriterState) : WriterState → Prop where
  | deleteInstance (id : Text) : Statement w { w with db := w.db.deleteInstance id }
  | deleteRule (id : Text) : Statement w { w with db := w.db.deleteRule id }
  | insertInstance {db' : Database} (row : InstanceRow) (endpoints : List InstanceEndpoint)
    (hfresh : row.id ∉ w.used) (h : w.db.insertInstance row endpoints = some db') :
    Statement w { w with
      db := db'
      used := insert row.id w.used }
  | updateStatus (id : Text) (status : InstanceStatus) (workloadId errorMessage : Option Text) :
    Statement w { w with db := w.db.updateStatus id status workloadId errorMessage }
  | updatePcap (id : Text) (pcapStatus : PcapStatus) (pcapStartTime : Option ℤ)
    (pcapCaptureId pcapFilePath : Option Text) :
    Statement w { w with
      db := w.db.updatePcap id pcapStatus pcapStartTime pcapCaptureId pcapFilePath }

inductive IntakeLabel where
  | arrive (p : Presented)
  | enqueue
  | abandon
  | takeBatch
  | writeGroup (instanceId : Text) (failure : Option Text)
  | statement

/-- An event arrives, a handler finds room in the channel or is given up by its client, the
writer takes what is queued or writes a group of its batch, or another request is at work. -/
inductive IntakeStep (lib : EventLibraries) (max : ℕ) (s : Intake) :
    IntakeLabel → Intake → Prop where
  | arrive (p : Presented) (now : Text) (gap : ℕ) :
    IntakeStep lib max s (.arrive p) (recordEvent lib s p now gap)
  | enqueue {front back : List AuditLogWriteRequest} {request : AuditLogWriteRequest}
    (hwaiting : s.waiting = front ++ request :: back)
    (hroom : s.channel.length < auditLogQueueCapacity) :
    IntakeStep lib max s .enqueue { s with
      waiting := front ++ back
      channel := s.channel ++ [request] }
  | abandon {front back : List AuditLogWriteRequest} {request : AuditLogWriteRequest}
    (hwaiting : s.waiting = front ++ request :: back) :
    IntakeStep lib max s .abandon { s with waiting := front ++ back }
  | takeBatch (hbatch : s.batch = []) (hchannel : s.channel ≠ []) :
    IntakeStep lib max s .takeBatch { s with
      batch := s.channel.take auditLogBatchSize
      channel := s.channel.drop auditLogBatchSize }
  | writeGroup (instanceId : Text) (failure : Option Text)
    (hgroup : groupOf s.batch instanceId ≠ []) :
    IntakeStep lib max s (.writeGroup instanceId failure)
      (writeNext lib max s instanceId failure)
  | statement {w : WriterState} (h : Statement s.writer w) :
    IntakeStep lib max s .statement { s with writer := w }

/-! ## What stays of an instance -/

/-- What a change of the database leaves of the instances that were there before it. -/
structure KeepsInstances (w w' : WriterState) : Prop where
  counts : CountsRight w → CountsRight w'
  used : w.used ⊆ w'.used
  rows : ∀ id ∈ w.used, ∀ r', w'.db.selectInstance id = some r' →
    ∃ r, w.db.selectInstance id = some r ∧ r'.callbackToken = r.callbackToken
  endpoints : ∀ e ∈ w.db.instanceEndpoints.rows, w'.db.selectInstance e.instanceId ≠ none →
    e ∈ w'.db.instanceEndpoints.rows

/-- The statements of other requests leave the logs of every instance that stays alone. -/
def KeepsLogs (w w' : WriterState) : Prop :=
  ∀ id, w'.db.selectInstance id ≠ none → logsOf w'.db.auditLogs id = logsOf w.db.auditLogs id

section Statements

variable {w : WriterState}

theorem KeepsLogs.rows {w' : WriterState} (h : KeepsLogs w w') :
    ∀ row ∈ w'.db.auditLogs.rows, row ∈ w.db.auditLogs.rows := by
  intro row hrow
  obtain ⟨r, hr, hid⟩ := w'.db.log_instance row hrow
  have hexists : w'.db.selectInstance row.instanceId ≠ none := by
    rw [Database.selectInstance, Table.get_eq_some_iff.mpr ⟨hr, hid⟩]
    simp
  have hmem : row ∈ logsOf w'.db.auditLogs row.instanceId := List.mem_filter.mpr ⟨hrow, by simp⟩
  rw [h row.instanceId hexists] at hmem
  exact (List.mem_filter.mp hmem).1

/-- The statements of other requests change no logs and no counts, so it is enough that they
keep the instances. -/
theorem countsRight_of_logs {w' : WriterState} (hw : CountsRight w) (hlogs : KeepsLogs w w')
    (hcounts : w'.instanceCounts = w.instanceCounts) (hused : w.used ⊆ w'.used)
    (hrows : ∀ id ∈ w.used, w'.db.selectInstance id ≠ none → w.db.selectInstance id ≠ none)
    (hnew : ∀ id, w'.db.selectInstance id ≠ none → id ∈ w'.used) : CountsRight w' := by
  refine ⟨?_, ?_, hnew⟩
  · intro id n hid hn
    rw [hcounts] at hn
    have hold : id ∈ w.used := hw.used_of_count id (by rw [hn]; simp)
    rw [hlogs id hid]
    exact hw.counts id n (hrows id hold hid) hn
  · intro id hid
    rw [hcounts] at hid
    exact hused (hw.used_of_count id hid)

theorem dropInstances_keepsInstances (p : InstanceRow → Bool) (db' : Database)
    (hselect : ∀ id, db'.selectInstance id = (w.db.dropInstances p).selectInstance id)
    (hendpoints : db'.instanceEndpoints = (w.db.dropInstances p).instanceEndpoints)
    (hauditLogs : db'.auditLogs = (w.db.dropInstances p).auditLogs) :
    KeepsInstances w { w with db := db' } ∧ KeepsLogs w { w with db := db' } := by
  have hkept : ∀ id r, db'.selectInstance id = some r →
      w.db.selectInstance id = some r ∧ p r = false := by
    intro id r hr
    rw [hselect, Database.selectInstance_dropInstances, Option.filter_eq_some_iff] at hr
    exact ⟨hr.1, by simpa using hr.2⟩
  have hlogs : KeepsLogs w { w with db := db' } := by
    intro id hid
    obtain ⟨r, hr⟩ := Option.ne_none_iff_exists'.mp hid
    obtain ⟨hold, hp⟩ := hkept id r hr
    rw [logsOf, hauditLogs]
    exact (Database.dropInstances_of_kept hold hp).2.2
  refine ⟨⟨?_, fun _ hid => hid, ?_, ?_⟩, hlogs⟩
  · intro hw
    refine countsRight_of_logs hw hlogs rfl (fun _ hid => hid) ?_ ?_
    · intro id _ hid
      obtain ⟨r, hr⟩ := Option.ne_none_iff_exists'.mp hid
      rw [(hkept id r hr).1]
      simp
    · intro id hid
      obtain ⟨r, hr⟩ := Option.ne_none_iff_exists'.mp hid
      exact hw.used_of_instance id (by rw [(hkept id r hr).1]; simp)
  · intro id _ r hr
    exact ⟨r, (hkept id r hr).1, rfl⟩
  · intro e he hid
    obtain ⟨r, hr⟩ := Option.ne_none_iff_exists'.mp hid
    obtain ⟨hold, hp⟩ := hkept _ r hr
    obtain ⟨hmem, hrid⟩ := Table.get_eq_some_iff.mp hold
    simp only
    rw [hendpoints, Database.mem_instanceEndpoints_dropInstances]
    exact ⟨he, r, hmem, hp, hrid⟩

theorem modifyInstance_keepsInstances (id : Text) (f : InstanceRow → InstanceRow)
    (hid : ∀ r, (f r).id = r.id) (hrule : ∀ r, (f r).ruleId = r.ruleId)
    (htoken : ∀ r, (f r).callbackToken = r.callbackToken) :
    KeepsInstances w { w with db := w.db.modifyInstance id f hid hrule } ∧
      KeepsLogs w { w with db := w.db.modifyInstance id f hid hrule } := by
  have hselect : ∀ j r', (w.db.modifyInstance id f hid hrule).selectInstance j = some r' →
      ∃ r, w.db.selectInstance j = some r ∧ r'.callbackToken = r.callbackToken := by
    intro j r' hr'
    rw [Database.selectInstance_modifyInstance, Option.map_eq_some_iff] at hr'
    obtain ⟨r, hr, rfl⟩ := hr'
    refine ⟨r, hr, ?_⟩
    split
    · exact htoken r
    · rfl
  have hexists : ∀ j, (w.db.modifyInstance id f hid hrule).selectInstance j ≠ none →
      w.db.selectInstance j ≠ none := by
    intro j hj
    obtain ⟨r', hr'⟩ := Option.ne_none_iff_exists'.mp hj
    obtain ⟨r, hr, _⟩ := hselect j r' hr'
    rw [hr]
    simp
  have hlogs : KeepsLogs w { w with db := w.db.modifyInstance id f hid hrule } := fun _ _ => rfl
  refine ⟨⟨?_, fun _ hj => hj, fun j _ r' hr' => hselect j r' hr', fun e he _ => he⟩, hlogs⟩
  intro hw
  exact countsRight_of_logs hw hlogs rfl (fun _ hj => hj) (fun j _ hj => hexists j hj)
    fun j hj => hw.used_of_instance j (hexists j hj)

theorem Statement.keeps {w' : WriterState} (h : Statement w w') :
    KeepsInstances w w' ∧ KeepsLogs w w' := by
  cases h with
  | deleteInstance id => exact dropInstances_keepsInstances _ _ (fun _ => rfl) rfl rfl
  | deleteRule id =>
    refine dropInstances_keepsInstances _ _ (fun _ => ?_) rfl rfl
    rw [Database.selectInstance_deleteRule, Database.selectInstance_dropInstances]
  | @insertInstance db' row endpoints hfresh hins =>
    obtain ⟨-, hselect, hendpoints, hauditLogs⟩ := Database.insertInstance_spec hins
    have hold : ∀ id, id ≠ row.id → db'.selectInstance id = w.db.selectInstance id := by
      intro id hne
      rw [hselect, if_neg hne]
    have hne : ∀ id ∈ w.used, id ≠ row.id := by
      intro id hid heq
      exact hfresh (heq ▸ hid)
    have hlogs : KeepsLogs w { w with
        db := db'
        used := insert row.id w.used } := by
      intro id _
      simp only [logsOf]
      rw [hauditLogs]
    refine ⟨⟨?_, fun _ => Set.mem_insert_of_mem _, ?_, ?_⟩, hlogs⟩
    · intro hw
      refine countsRight_of_logs hw hlogs rfl (fun _ => Set.mem_insert_of_mem _) ?_ ?_
      · intro id hid hnone
        rwa [← hold id (hne id hid)]
      · intro id hid
        by_cases heq : id = row.id
        · exact heq ▸ Set.mem_insert _ _
        · exact Set.mem_insert_of_mem _ (hw.used_of_instance id (hold id heq ▸ hid))
    · intro id hid r hr
      exact ⟨r, hold id (hne id hid) ▸ hr, rfl⟩
    · intro e he _
      exact (hendpoints e).mpr (.inl he)
  | updateStatus id status workloadId errorMessage =>
    exact modifyInstance_keepsInstances id _ _ _ fun _ => rfl
  | updatePcap id pcapStatus pcapStartTime pcapCaptureId pcapFilePath =>
    exact modifyInstance_keepsInstances id _ _ _ fun _ => rfl

end Statements

section Batches

variable {json : JsonCodec} {max : ℕ} {w : WriterState}

/-- A batch changes the logs only. -/
theorem insertInstanceLogBatch_tables {db db' : Database} {instanceId : Text}
    {requests : List AuditLogWriteRequest} {cached : Option ℕ} {logs : List AuditLog} {retained : ℕ}
    (h : insertInstanceLogBatch json max db instanceId requests cached =
      .ok (db', logs, retained)) :
    db'.instances = db.instances ∧ db'.instanceEndpoints = db.instanceEndpoints := by
  unfold insertInstanceLogBatch at h
  split at h
  next => exact absurd h (by simp)
  next =>
    dsimp only at h
    split at h
    next => exact absurd h (by simp)
    next =>
      split at h
      · cases h
        exact ⟨rfl, rfl⟩
      · cases h
        exact ⟨rfl, rfl⟩

theorem writeGroup_tables (instanceId : Text) (requests : List AuditLogWriteRequest)
    (failure : Option Text) :
    (writeGroup json max w instanceId requests failure).1.db.instances = w.db.instances ∧
      (writeGroup json max w instanceId requests failure).1.db.instanceEndpoints =
        w.db.instanceEndpoints ∧
      (writeGroup json max w instanceId requests failure).1.used = w.used := by
  unfold writeGroup
  split
  next db logs retained hout =>
    unfold batchOutcome at hout
    split at hout
    next => exact absurd hout (by simp)
    next =>
      obtain ⟨hinstances, hendpoints⟩ := insertInstanceLogBatch_tables hout
      exact ⟨hinstances, hendpoints, rfl⟩
  next => exact ⟨rfl, rfl, rfl⟩
  next => exact ⟨rfl, rfl, rfl⟩

theorem writeGroup_keepsInstances (instanceId : Text) (requests : List AuditLogWriteRequest)
    (failure : Option Text) :
    KeepsInstances w (writeGroup json max w instanceId requests failure).1 := by
  obtain ⟨hinstances, hendpoints, hused⟩ :=
    @writeGroup_tables json max w instanceId requests failure
  refine ⟨fun hw => (writeGroup_keeps hw instanceId requests failure).1, hused.ge, ?_, ?_⟩
  · intro id _ r' hr'
    rw [Database.selectInstance, hinstances] at hr'
    exact ⟨r', hr', rfl⟩
  · intro e he _
    rwa [hendpoints]

/-- A row that is stored after a group was stored before it, or is that of a request of it. -/
theorem writeGroup_rows (hw : CountsRight w) (instanceId : Text)
    (requests : List AuditLogWriteRequest) (failure : Option Text) :
    ∀ row ∈ (writeGroup json max w instanceId requests failure).1.db.auditLogs.rows,
      row ∈ w.db.auditLogs.rows ∨
        ∃ request ∈ requests, content row = eventRow json instanceId request := by
  unfold writeGroup
  split
  next db logs retained hout => exact (batchOutcome_committed hw hout).2.stored
  next => exact fun row hrow => .inl hrow
  next => exact fun row hrow => .inl hrow

theorem batchOutcome_cut (hw : CountsRight w) {instanceId : Text}
    {requests : List AuditLogWriteRequest} {failure : Option Text} {db : Database}
    {logs : List AuditLog} {retained : ℕ}
    (h : batchOutcome json max w instanceId requests failure = .ok (db, logs, retained)) :
    ∃ t inserted, insertEvents json instanceId w.db.auditLogs requests = .ok (t, logs, inserted) ∧
      BatchCut max w.db instanceId t db retained := by
  obtain ⟨hexists, -⟩ := batchOutcome_committed hw h
  unfold batchOutcome at h
  split at h
  · exact absurd h (by simp)
  exact insertInstanceLogBatch_cut (fun n hn => hw.counts instanceId n hexists hn) h

/-- Every request of a group is answered once. -/
theorem writeGroup_answers (hw : CountsRight w) (instanceId : Text)
    (requests : List AuditLogWriteRequest) (failure : Option Text) :
    (writeGroup json max w instanceId requests failure).2.map Prod.fst =
      requests.map AuditLogWriteRequest.response := by
  unfold writeGroup
  split
  next db logs retained hout =>
    obtain ⟨t, inserted, hins, -⟩ := batchOutcome_cut hw hout
    refine List.map_fst_zip ?_
    rw [List.length_map, List.length_map, (insertEvents_logs hins).length_eq]
  next => simp [rejectAll]
  next => simp [rejectAll]

end Batches

/-! ## Who sent the stored events -/

/-- A valid event of the instance, sent with its token and for one of its endpoints. -/
structure Admitted (lib : EventLibraries) (db : Database) (r : InstanceRow) (p : Presented) :
    Prop where
  valid : validateRuntimeEvent lib p.event = .ok ()
  instanceId : p.event.instanceId = r.id
  token : p.authorization.bind (stripPrefix "Bearer ") = some r.callbackToken
  endpoint : ∃ e ∈ db.instanceEndpoints.rows, e.instanceId = r.id ∧ e.endpointId =
    p.event.endpointId

/-- A request is that of an event that was sent, and the event is admitted to its instance for as
long as there is one. -/
structure Backed (lib : EventLibraries) (s : Intake) (request : AuditLogWriteRequest) : Prop where
  used : request.event.instanceId ∈ s.writer.used
  sent : ∃ p, s.presented[request.response]? = some p ∧ p.event = request.event ∧
    ∀ r, s.writer.db.selectInstance request.event.instanceId = some r →
      Admitted lib s.writer.db r p

/-- The requests that are not answered yet. -/
def Intake.pending (s : Intake) : List AuditLogWriteRequest := s.batch ++ s.channel ++ s.waiting

/-- The channels on which answers were given, and those on which they are due. -/
def Intake.channels (s : Intake) : List ℕ :=
  s.replies.map Prod.fst ++ s.pending.map AuditLogWriteRequest.response

/-- The invariant of the intake: what is on its way is backed, what is stored was stored before or
is backed, and no two requests are answered on one channel. -/
structure IntakeInv (lib : EventLibraries) (db : Database) (s : Intake) : Prop where
  counts : CountsRight s.writer
  channel : s.channel.length ≤ auditLogQueueCapacity
  pending : ∀ request ∈ s.pending, Backed lib s request
  rows : ∀ row ∈ s.writer.db.auditLogs.rows, row ∈ db.auditLogs.rows ∨
    ∃ request, Backed lib s request ∧ request.event.instanceId = row.instanceId ∧
      content row = eventRow lib.json row.instanceId request
  answered : s.channels.Nodup
  issued : ∀ channel ∈ s.channels, channel < s.presented.length

section Intake

variable {lib : EventLibraries} {max : ℕ} {db : Database} {s : Intake}

theorem checkEvent_ok {authorization : Option Text} {found : Option Instance}
    {payload : EventRequest} (h : checkEvent lib authorization found payload = .ok ()) :
    ∃ inst, found = some inst ∧ validateRuntimeEvent lib payload = .ok () ∧
      authorization.bind (stripPrefix "Bearer ") = some inst.row.callbackToken ∧
      ∃ e ∈ inst.endpoints, e.endpointId = payload.endpointId := by
  unfold checkEvent at h
  split at h
  next => exact absurd h (by simp)
  next hvalid =>
    split at h
    next => exact absurd h (by simp)
    next inst =>
      dsimp only at h
      split at h
      next => exact absurd h (by simp)
      next htoken =>
        split at h
        next => exact absurd h (by simp)
        next hendpoint =>
          refine ⟨inst, rfl, hvalid, not_not.mp htoken, ?_⟩
          simpa using hendpoint

/-- The check of a handler admits the event to the instance as it is. -/
theorem admitted_of_checkEvent {p : Presented} {database : Database}
    (h : checkEvent lib p.authorization (getInstance database p.event.instanceId)
      p.event = .ok ()) :
    ∃ r, database.selectInstance p.event.instanceId = some r ∧ Admitted lib database r p := by
  obtain ⟨inst, hfound, hvalid, htoken, e, he, heid⟩ := checkEvent_ok h
  obtain ⟨r, hr, rfl⟩ := Option.map_eq_some_iff.mp hfound
  have hid : r.id = p.event.instanceId := Table.key_of_get hr
  refine ⟨r, hr, hvalid, hid.symm, htoken, e, ?_, ?_, heid⟩
  · have hmem := (List.perm_insertionSort _ _).mem_iff.mp he
    exact (List.mem_filter.mp hmem).1
  · have hmem := (List.perm_insertionSort _ _).mem_iff.mp he
    rw [hid]
    simpa using (List.mem_filter.mp hmem).2

/-- Whatever happens to the instances, a backed request stays backed. -/
theorem Backed.keeps {request : AuditLogWriteRequest} {s' : Intake} (h : Backed lib s request)
    (hkeeps : KeepsInstances s.writer s'.writer)
    (hpresented : s.presented <+: s'.presented) :
    Backed lib s' request := by
  obtain ⟨p, hp, hevent, hadmitted⟩ := h.sent
  obtain ⟨hlt, rfl⟩ := List.getElem?_eq_some_iff.mp hp
  refine ⟨hkeeps.used h.used, _, List.prefix_iff_getElem?.mp hpresented _ hlt, hevent, ?_⟩
  intro r' hr'
  obtain ⟨r, hr, htoken⟩ := hkeeps.rows _ h.used r' hr'
  have hold := hadmitted r hr
  have hid : r'.id = r.id := by rw [Table.key_of_get hr', Table.key_of_get hr]
  obtain ⟨e, he, heid, hendpoint⟩ := hold.endpoint
  refine ⟨hold.valid, by rw [hid, hold.instanceId], by rw [hold.token, htoken], e, ?_,
    by rw [hid, heid], hendpoint⟩
  refine hkeeps.endpoints e he ?_
  have hrid : r.id = request.event.instanceId := Table.key_of_get hr
  rw [heid, hrid, hr']
  simp

/-- What a step leaves of the instances and of what was sent, and where its requests and its rows
come from. -/
structure StepKept (lib : EventLibraries) (s : Intake) (label : IntakeLabel) (s' : Intake) :
    Prop where
  instances : KeepsInstances s.writer s'.writer
  presented : s.presented <+: s'.presented
  sent : ∀ p ∈ s'.presented, p ∈ s.presented ∨ label = .arrive p
  pending : ∀ request ∈ s'.pending, request ∈ s.pending ∨ ∃ p, label = .arrive p ∧
    s'.presented[request.response]? = some p ∧ p.event = request.event ∧
      checkEvent lib p.authorization (getInstance s.writer.db p.event.instanceId) p.event = .ok ()
  rows : ∀ row ∈ s'.writer.db.auditLogs.rows, row ∈ s.writer.db.auditLogs.rows ∨
    ∃ request ∈ s.pending, request.event.instanceId = row.instanceId ∧
      content row = eventRow lib.json row.instanceId request
  replies : ∀ reply ∈ s.replies, reply ∈ s'.replies

theorem keepsInstances_refl (w : WriterState) : KeepsInstances w w :=
  ⟨fun hw => hw, fun _ hid => hid, fun _ _ r hr => ⟨r, hr, rfl⟩, fun _ he _ => he⟩

theorem groupOf_pending {instanceId : Text} {request : AuditLogWriteRequest}
    (h : request ∈ groupOf s.batch instanceId) :
    request ∈ s.pending ∧ request.event.instanceId = instanceId := by
  obtain ⟨hmem, hid⟩ := List.mem_filter.mp h
  exact ⟨by simp [Intake.pending, hmem], by simpa using hid⟩

/-- A step that only moves requests about. -/
theorem stepKept_of_pending {label : IntakeLabel} {s' : Intake} (hwriter : s'.writer = s.writer)
    (hpresented : s'.presented = s.presented) (hreplies : s'.replies = s.replies)
    (hpending : ∀ request ∈ s'.pending, request ∈ s.pending) : StepKept lib s label s' := by
  refine ⟨hwriter ▸ keepsInstances_refl _, hpresented ▸ List.prefix_refl _, ?_, ?_, ?_, ?_⟩
  · exact fun p hp => .inl (hpresented ▸ hp)
  · exact fun request hrequest => .inl (hpending request hrequest)
  · exact fun row hrow => .inl (hwriter ▸ hrow)
  · exact fun reply hreply => hreplies ▸ hreply

theorem arrive_kept (p : Presented) (now : Text) (gap : ℕ) :
    StepKept lib s (.arrive p) (recordEvent lib s p now gap) := by
  have hsent : ∀ q ∈ s.presented ++ [p], q ∈ s.presented ∨ IntakeLabel.arrive p = .arrive q := by
    intro q hq
    refine (List.mem_append.mp hq).imp_right ?_
    intro hq
    rw [List.mem_singleton.mp hq]
  unfold recordEvent
  split
  next hcheck =>
    refine ⟨keepsInstances_refl _, List.prefix_append _ _, hsent, ?_, fun row hrow => .inl hrow,
      fun reply hreply => hreply⟩
    intro request hrequest
    simp only [Intake.pending, ← List.append_assoc] at hrequest
    obtain hold | hnew := List.mem_append.mp hrequest
    · exact .inl hold
    · rw [List.mem_singleton.mp hnew]
      exact .inr ⟨p, rfl, by simp, rfl, hcheck⟩
  next =>
    exact ⟨keepsInstances_refl _, List.prefix_append _ _,
      hsent, fun request hrequest => .inl hrequest,
      fun row hrow => .inl hrow, fun reply hreply => hreply⟩

theorem writeNext_kept (hcounts : CountsRight s.writer) (instanceId : Text)
    (failure : Option Text) :
    StepKept lib s (.writeGroup instanceId failure) (writeNext lib max s instanceId failure) := by
  refine ⟨writeGroup_keepsInstances _ _ _, List.prefix_refl _, fun p hp => .inl hp, ?_, ?_,
    fun reply hreply => List.mem_append_left _ hreply⟩
  · intro request hrequest
    refine .inl ?_
    simp only [Intake.pending, writeNext, List.mem_append, List.mem_filter] at hrequest ⊢
    exact hrequest.imp_left fun hfirst => hfirst.imp_left And.left
  · intro row hrow
    refine (writeGroup_rows hcounts instanceId _ failure row hrow).imp_right ?_
    intro hsource
    obtain ⟨request, hrequest, hcontent⟩ := hsource
    obtain ⟨hpending, hid⟩ := groupOf_pending hrequest
    have hrow : row.instanceId = instanceId := (congrArg AuditLogRow.instanceId hcontent :)
    exact ⟨request, hpending, by rw [hid, hrow], by rw [hrow, hcontent]⟩

theorem IntakeStep.kept {label : IntakeLabel} {s' : Intake} (hcounts : CountsRight s.writer)
    (hstep : IntakeStep lib max s label s') : StepKept lib s label s' := by
  cases hstep with
  | arrive p now gap => exact arrive_kept p now gap
  | @enqueue front back request hwaiting hroom =>
    refine stepKept_of_pending rfl rfl rfl ?_
    intro q hq
    simp only [Intake.pending, hwaiting, List.mem_append, List.mem_cons, List.not_mem_nil,
      or_false] at hq ⊢
    tauto
  | @abandon front back request hwaiting =>
    refine stepKept_of_pending rfl rfl rfl ?_
    intro q hq
    simp only [Intake.pending, hwaiting, List.mem_append, List.mem_cons] at hq ⊢
    tauto
  | takeBatch hbatch hchannel =>
    refine stepKept_of_pending rfl rfl rfl ?_
    intro q hq
    simpa only [Intake.pending, hbatch, List.take_append_drop, List.nil_append] using hq
  | writeGroup instanceId failure hgroup => exact writeNext_kept hcounts instanceId failure
  | statement hstatement =>
    obtain ⟨hkeeps, hlogs⟩ := hstatement.keeps
    exact ⟨hkeeps, List.prefix_refl _, fun p hp => .inl hp, fun request hrequest => .inl hrequest,
      fun row hrow => .inl (hlogs.rows row hrow), fun reply hreply => hreply⟩

/-- A step answers pending requests, and the only new channel it may bring is that of an event
that arrives. -/
theorem IntakeStep.channels {label : IntakeLabel} {s' : Intake} (hcounts : CountsRight s.writer)
    (hstep : IntakeStep lib max s label s') :
    s'.channels.Subperm s.channels ∨ s'.channels = s.channels ++ [s.presented.length] ∧
      s.presented.length < s'.presented.length := by
  cases hstep with
  | arrive p now gap =>
    unfold recordEvent
    split
    next =>
      refine .inr ⟨?_, by simp⟩
      simp [Intake.channels, Intake.pending]
    next => exact .inl (List.Subperm.refl _)
  | @enqueue front back request hwaiting hroom =>
    refine .inl (List.Perm.subperm (List.Perm.append_left _ (List.Perm.map _ ?_)))
    simp only [Intake.pending, hwaiting, List.append_assoc]
    have hmiddle : (front ++ request :: back).Perm (request :: (front ++ back)) := List.perm_middle
    exact (hmiddle.symm.append_left _).append_left _
  | @abandon front back request hwaiting =>
    refine .inl (List.Sublist.subperm (List.Sublist.append_left (List.Sublist.map _ ?_) _))
    simp only [Intake.pending, hwaiting]
    exact (List.Sublist.append_left (List.sublist_cons_self _ _) _).append_left _
  | takeBatch hbatch hchannel =>
    refine .inl (List.Perm.subperm ?_)
    simp only [Intake.channels, Intake.pending, hbatch, List.take_append_drop, List.nil_append]
    exact List.Perm.refl _
  | writeGroup instanceId failure hgroup =>
    have hsplit : (groupOf s.batch instanceId ++
        s.batch.filter fun request => request.event.instanceId ≠ instanceId).Perm s.batch := by
      simpa [groupOf] using List.filter_append_perm
        (fun request : AuditLogWriteRequest => request.event.instanceId = instanceId) s.batch
    have hanswers := @writeGroup_answers lib.json max s.writer hcounts instanceId
      (groupOf s.batch instanceId) failure
    have hbatch := hsplit.map AuditLogWriteRequest.response
    rw [List.map_append] at hbatch
    refine .inl (List.Perm.subperm ?_)
    simp only [Intake.channels, writeNext, Intake.pending, List.map_append, List.append_assoc,
      hanswers]
    refine List.Perm.append_left _ ?_
    rw [← List.append_assoc (List.map _ (groupOf _ _))]
    exact hbatch.append_right _
  | statement => exact .inl (List.Subperm.refl _)

theorem IntakeStep.bounded {label : IntakeLabel} {s' : Intake}
    (hstep : IntakeStep lib max s label s') (h : s.channel.length ≤ auditLogQueueCapacity) :
    s'.channel.length ≤ auditLogQueueCapacity := by
  cases hstep with
  | arrive p now gap =>
    unfold recordEvent
    split <;> exact h
  | enqueue hwaiting hroom =>
    rw [List.length_append, List.length_singleton]
    omega
  | takeBatch =>
    rw [List.length_drop]
    omega
  | _ => exact h

/-- Only the writer answers requests and stores rows. -/
theorem IntakeStep.quiet {label : IntakeLabel} {s' : Intake} (hstep : IntakeStep lib max s label s')
    (h : ∀ id failure, label ≠ .writeGroup id failure) :
    s'.replies = s.replies ∧ KeepsLogs s.writer s'.writer := by
  cases hstep with
  | arrive p now gap =>
    unfold recordEvent
    split <;> exact ⟨rfl, fun _ _ => rfl⟩
  | writeGroup instanceId failure => exact absurd rfl (h instanceId failure)
  | statement hstatement => exact ⟨rfl, hstatement.keeps.2⟩
  | _ => exact ⟨rfl, fun _ _ => rfl⟩

theorem IntakeInv.next {label : IntakeLabel} {s' : Intake} (h : IntakeInv lib db s)
    (hstep : IntakeStep lib max s label s') : IntakeInv lib db s' := by
  have hkept := hstep.kept h.counts
  have hbacked : ∀ request, Backed lib s request → Backed lib s' request :=
    fun request hrequest => hrequest.keeps hkept.instances hkept.presented
  have hlength := hkept.presented.length_le
  have hchannels : s'.channels.Nodup ∧ ∀ channel ∈ s'.channels, channel < s'.presented.length := by
    obtain ⟨kept, hperm, hsub⟩ | ⟨happend, hless⟩ := hstep.channels h.counts
    · refine ⟨hperm.nodup_iff.mp (hsub.nodup h.answered), ?_⟩
      intro channel hchannel
      have hissued := h.issued channel (hsub.subset (hperm.mem_iff.mpr hchannel))
      omega
    · rw [happend]
      refine ⟨List.nodup_append.mpr ⟨h.answered, List.nodup_singleton _, ?_⟩, ?_⟩
      · intro channel hchannel new hnew
        have hissued := h.issued channel hchannel
        rw [List.mem_singleton.mp hnew]
        omega
      · intro channel hchannel
        obtain hold | hnew := List.mem_append.mp hchannel
        · have hissued := h.issued channel hold
          omega
        · rwa [List.mem_singleton.mp hnew]
  refine ⟨hkept.instances.counts h.counts, hstep.bounded h.channel, ?_, ?_,
    hchannels.1, hchannels.2⟩
  · intro request hrequest
    obtain hold | ⟨p, _, hsent, hevent, hcheck⟩ := hkept.pending request hrequest
    · exact hbacked _ (h.pending _ hold)
    · obtain ⟨r, hr, hadmitted⟩ := admitted_of_checkEvent hcheck
      rw [hevent] at hr
      have hbefore : Backed lib { s' with writer := s.writer } request := by
        refine ⟨h.counts.used_of_instance _ (by rw [hr]; simp), p, hsent, hevent, ?_⟩
        intro r' hr'
        obtain rfl := Option.some.inj (hr.symm.trans hr')
        exact hadmitted
      exact hbefore.keeps hkept.instances (List.prefix_refl _)
  · intro row hrow
    obtain hold | ⟨request, hrequest, hid, hcontent⟩ := hkept.rows row hrow
    · refine (h.rows row hold).imp_right ?_
      intro hsource
      obtain ⟨request, hrequest, hid, hcontent⟩ := hsource
      exact ⟨request, hbacked _ hrequest, hid, hcontent⟩
    · exact .inr ⟨request, hbacked _ (h.pending _ hrequest), hid, hcontent⟩

theorem intakeInv_start (lib : EventLibraries) (db : Database) : IntakeInv lib db (.start db) :=
  ⟨countsRight_start db, by simp [Intake.start], by simp [Intake.start, Intake.pending],
    fun _ hrow => .inl hrow, by simp [Intake.start, Intake.pending, Intake.channels],
    by simp [Intake.start, Intake.pending, Intake.channels]⟩

end Intake

/-- Every stored row was stored at the start, or is that of an event that someone sent with the
token of the instance, for one of its endpoints; no event is answered twice, and the channel
keeps its bound. -/
structure LogsAuthentic (lib : EventLibraries) (db : Database) (s : Intake) : Prop where
  rows : ∀ row ∈ s.writer.db.auditLogs.rows, row ∈ db.auditLogs.rows ∨
    ∃ r, s.writer.db.selectInstance row.instanceId = some r ∧
      ∃ p ∈ s.presented, Admitted lib s.writer.db r p ∧
        ∃ now, content row = eventRow lib.json r.id ⟨p.event, 0, now, 0⟩
  answered : (s.replies.map Prod.fst).Nodup
  channel : s.channel.length ≤ auditLogQueueCapacity

/-- In every run, whoever sends what, and however the instances come and go meanwhile. -/
theorem path_logsAuthentic (lib : EventLibraries) (max : ℕ) (db : Database)
    (run : List (IntakeLabel × Intake)) (hrun : Path (IntakeStep lib max) (Intake.start db) run) :
    EveryStep (fun _ _ s' => LogsAuthentic lib db s') (Intake.start db) run := by
  refine Path.everyStep ?_ (intakeInv_start lib db) hrun
  intro s label s' hs hstep
  have hs' := hs.next hstep
  refine ⟨hs', ?_, hs'.answered.of_append_left, hs'.channel⟩
  intro row hrow
  refine (hs'.rows row hrow).imp_right ?_
  intro hsource
  obtain ⟨request, hbacked, hid, hcontent⟩ := hsource
  obtain ⟨r, hr, hrid⟩ := s'.writer.db.log_instance row hrow
  have hselect : s'.writer.db.selectInstance row.instanceId = some r :=
    Table.get_eq_some_iff.mpr ⟨hr, hrid⟩
  obtain ⟨p, hp, hevent, hadmitted⟩ := hbacked.sent
  refine ⟨r, hselect, p, List.mem_of_getElem? hp, hadmitted r (hid ▸ hselect), request.now, ?_⟩
  rw [hcontent, hevent, hrid]
  rfl

/-- An event of the first instance. -/
def tokenEvent : Presented := ⟨some "Bearer token-1", (sharedEvent "sim-1").event⟩

/-- The event is checked, queued, taken off the queue and written. -/
def tokenRun : List (IntakeLabel × Intake) :=
  let request : AuditLogWriteRequest := { sharedEvent "sim-1" with response := 0 }
  let s := Intake.start twoInstances
  [(.arrive tokenEvent, { s with
      presented := [tokenEvent]
      waiting := [request] }),
    (.enqueue, { s with
      presented := [tokenEvent]
      channel := [request] }),
    (.takeBatch, { s with
      presented := [tokenEvent]
      batch := [request] }),
    (.writeGroup "sim-1" none, writeNext emptyObjectLibraries 10000 { s with
      presented := [tokenEvent]
      batch := [request] } "sim-1" none)]

theorem tokenRun_logsAuthentic :
    EveryStep (fun _ _ s' => LogsAuthentic emptyObjectLibraries twoInstances s')
      (Intake.start twoInstances) tokenRun := by
  refine path_logsAuthentic emptyObjectLibraries 10000 twoInstances tokenRun ?_
  have hcheck : checkEvent emptyObjectLibraries tokenEvent.authorization
      (getInstance twoInstances tokenEvent.event.instanceId) tokenEvent.event = .ok () := by decide
  have hrecord : recordEvent emptyObjectLibraries (Intake.start twoInstances) tokenEvent
      "2026-08-11T00:00:00Z" 0 = { Intake.start twoInstances with
        presented := [tokenEvent]
        waiting := [{ sharedEvent "sim-1" with response := 0 }] } := by
    rw [recordEvent, show (Intake.start twoInstances).writer.db = twoInstances from rfl, hcheck]
    rfl
  refine .cons (hrecord ▸ .arrive tokenEvent _ 0) (.cons ?_ (.cons ?_ (.cons ?_ .nil)))
  · exact @IntakeStep.enqueue _ _ _ [] [] _ rfl (Nat.zero_lt_succ _)
  · exact .takeBatch rfl (List.cons_ne_nil _ _)
  · exact .writeGroup "sim-1" none (List.cons_ne_nil _ _)

end ProtocolSimulation.Audit
