import ProtocolSimulation.Deliveries

/-!
# Runs of the engine and the API

What bears an identifier of the engine came from the engine, wherever it is met. From
this, the log of the instance is kept event by event: a batch that is committed
appends the events that are new, and an answer of success names one that is stored.
-/
namespace ProtocolSimulation.Deliveries

open ProtocolSimulation.Texts ProtocolSimulation.JsonValues ProtocolSimulation.Storage
open ProtocolSimulation.Api ProtocolSimulation.Identifiers ProtocolSimulation.RuntimeEvents
open ProtocolSimulation.Programs
open ProtocolSimulation.Reporter ProtocolSimulation.Audit ProtocolSimulation.Retention

/-! ## The API and the engine -/

/-- Of all that is known to the API, what bears an identifier of the engine came from the engine. -/
structure ApiInv (lib : EventLibraries) (context : ReporterContext) (db : Database) (s : System) :
    Prop where
  engine : EngineInv context s.reporter
  intake : IntakeInv lib db s.intake
  used : context.instanceId ∈ s.intake.writer.used
  token : ∀ r, s.intake.writer.db.selectInstance context.instanceId = some r →
    r.callbackToken = context.callbackToken
  presented : ∀ p ∈ s.intake.presented,
    p.authorization.bind (stripPrefix "Bearer ") = some context.callbackToken →
      ∃ number, Built s.reporter number p.event
  pending : ∀ request ∈ s.intake.pending, ∀ number event, Built s.reporter number event →
    request.event.eventId = event.eventId → request.event = event
  rows : ∀ row ∈ s.intake.writer.db.auditLogs.rows, ∀ number event, Built s.reporter number event →
    row.eventId = event.eventId → row.instanceId = context.instanceId
  confirmed : ∀ number task status, s.reporter.tasks[number]? = some task →
    some status ∈ task.responses → isSuccess status = true → Confirmed s number

/-- What the log of the instance is as long as there is one. -/
structure LogInv (lib : EventLibraries) (context : ReporterContext) (db : Database) (s : System)
    (stored : List (ℕ × EventRequest)) : Prop where
  distinct : (stored.map Prod.fst).Nodup
  built : ∀ x ∈ stored, Built s.reporter x.1 x.2
  logs : (logsOf s.intake.writer.db.auditLogs context.instanceId).map content =
    (logsOf db.auditLogs context.instanceId).map content ++
      stored.map fun x => storedRow lib context x.2
  fresh : ∀ row ∈ logsOf db.auditLogs context.instanceId, ∀ number event,
    Built s.reporter number event → row.eventId ≠ event.eventId
  replied : ∀ channel log p number, (channel, .ok log) ∈ s.intake.replies →
    s.intake.presented[channel]? = some p → Built s.reporter number p.event →
      number ∈ stored.map Prod.fst

/-- There is the instance, and its log has room for the events the engine took. -/
structure Kept (max : ℕ) (context : ReporterContext) (db : Database) (s : System) : Prop where
  exists_ : s.intake.writer.db.selectInstance context.instanceId ≠ none
  room : (logsOf db.auditLogs context.instanceId).length + s.reporter.tasks.length ≤ max

structure SystemInv (lib : EventLibraries) (max : ℕ) (context : ReporterContext) (db : Database)
    (s : System) : Prop where
  api : ApiInv lib context db s
  log : Kept max context db s → ∃ stored, LogInv lib context db s stored

/-! ## A step of the engine -/

section Steps

variable {lib : EventLibraries} {max : ℕ} {context : ReporterContext} {db : Database} {s : System}

theorem Confirmed.mono {s' : System} {number : ℕ} (h : Confirmed s number)
    (hposts : ∀ p ∈ s.reporter.posts, p ∈ s'.reporter.posts)
    (hreplies : ∀ reply ∈ s.intake.replies, reply ∈ s'.intake.replies)
    (hpresented : s.intake.presented <+: s'.intake.presented) : Confirmed s' number := by
  obtain ⟨p, hp, hnumber, channel, log, hreply, hsent⟩ := h
  obtain ⟨hlt, heq⟩ := List.getElem?_eq_some_iff.mp hsent
  refine ⟨p, hposts p hp, hnumber, channel, log, hreplies _ hreply, ?_⟩
  rw [List.prefix_iff_getElem?.mp hpresented channel hlt, heq]

/-- The request of a task that is confirmed carried its event. -/
theorem Confirmed.built {number : ℕ} (h : Confirmed s number)
    (hinv : EngineInv context s.reporter) : ∃ p channel log, (channel, .ok log) ∈ s.intake.replies ∧
      s.intake.presented[channel]? = some p ∧ Built s.reporter number p.event := by
  obtain ⟨p, hp, rfl, channel, log, hreply, hsent⟩ := h
  exact ⟨received p, channel, log, hreply, hsent, hinv.posted hp⟩

theorem attempt_responses (c : ReporterContext) (number : ℕ) (task : Task) (event : EventRequest) :
    (attempt c number task event).1.responses = task.responses := by
  rw [attempt]
  split <;> rfl

theorem responses_turn {reporter : Option ReporterContext} {number : ℕ} {task : Task}
    {action : Action} {next : Task × List Post} (h : Turn reporter number task action next)
    {response : Option ℕ} (hmem : response ∈ next.1.responses) :
    response ∈ task.responses ∨ action = .respond number response := by
  cases h with
  | poll => exact .inl (by rwa [attempt_responses] at hmem)
  | respond given hphase =>
    obtain hold | hnew := List.mem_append.mp hmem
    · exact .inl hold
    · exact .inr (by rw [List.mem_singleton.mp hnew])
  | wake => exact .inl (by rwa [attempt_responses] at hmem)
  | join => exact .inl hmem

/-- Where the answers of a task come from. -/
theorem responses_step {r r' : Reporter.State} {action : Action}
    (hstep : Reporter.step r action = some r') {number : ℕ} {task : Task} {response : Option ℕ}
    (htask : r'.tasks[number]? = some task) (hmem : response ∈ task.responses) :
    (∃ old, r.tasks[number]? = some old ∧ response ∈ old.responses) ∨
      action = .respond number response := by
  cases step_change hstep with
  | initializeReporter => exact .inl ⟨task, htask, hmem⟩
  | report callbackUrl queued =>
    have htasks : (queueSimLog r callbackUrl queued).tasks = r.tasks := by
      unfold queueSimLog
      dsimp only
      split <;> rfl
    exact .inl ⟨task, htasks ▸ htask, hmem⟩
  | receive =>
    rw [List.getElem?_append] at htask
    split at htask
    next => exact .inl ⟨task, htask, hmem⟩
    next =>
      obtain rfl := List.mem_singleton.mp (List.mem_of_getElem? htask)
      exact absurd hmem (by simp)
  | @turn changed old action next hold hturn =>
    rw [State.proceed] at htask
    by_cases hother : changed = number
    · subst hother
      obtain rfl : next.1 = task := by
        simpa [List.getElem?_set_self (List.getElem?_eq_some_iff.mp hold).1] using htask
      exact (responses_turn hturn hmem).imp_left fun hmem => ⟨old, hold, hmem⟩
    · rw [List.getElem?_set_ne hother] at htask
      exact .inl ⟨task, htask, hmem⟩

theorem step_posts {r r' : Reporter.State} {action : Action}
    (hstep : Reporter.step r action = some r') : ∀ p ∈ r.posts, p ∈ r'.posts := by
  cases step_change hstep with
  | initializeReporter => exact fun p hp => hp
  | report callbackUrl queued =>
    unfold queueSimLog
    dsimp only
    split <;> exact fun p hp => hp
  | receive => exact fun p hp => hp
  | turn => exact fun p hp => List.mem_append_left _ hp

/-- An event that the engine builds anew has an identifier nothing else has. -/
theorem built_new {s' : Reporter.State} {action : Action}
    (hevents : EventsKept s.reporter action s')
    (hallowed : Allowed s action) {number : ℕ} {event : EventRequest}
    (hbuilt : Built s' number event) : Built s.reporter number event ∨ Unused s event.eventId := by
  refine (hevents.built number event hbuilt).imp_right ?_
  intro hnew
  obtain ⟨eventId, now, c, task, haction, _, _, _, hevent⟩ := hnew
  subst haction
  rw [hevent]
  exact hallowed

theorem ApiInv.engineStep {reporter : Reporter.State} {action : Action}
    (h : ApiInv lib context db s)
    (hallowed : Allowed s action) (hstep : Reporter.step s.reporter action = some reporter) :
    ApiInv lib context db { s with reporter := reporter } := by
  obtain ⟨actions, hinv⟩ := h.engine.reporter
  have hevents := step_eventsKept hinv hstep
  refine ⟨h.engine.next hallowed hstep, h.intake, h.used, h.token, ?_, ?_, ?_, ?_⟩
  · intro p hp htoken
    obtain ⟨number, hbuilt⟩ := h.presented p hp htoken
    exact ⟨number, hevents.kept number _ hbuilt⟩
  · intro request hrequest number event hbuilt heq
    obtain hold | hnew := built_new hevents hallowed hbuilt
    · exact h.pending request hrequest number event hold heq
    · obtain ⟨p, hp, hsame, -⟩ := (h.intake.pending request hrequest).sent
      rw [← hsame] at heq
      exact absurd heq (hnew.presented p (List.mem_of_getElem? hp))
  · intro row hrow number event hbuilt heq
    obtain hold | hnew := built_new hevents hallowed hbuilt
    · exact h.rows row hrow number event hold heq
    · exact absurd (heq ▸ List.mem_map_of_mem hrow) hnew.stored
  · intro number task status htask hmem hsuccess
    have hconfirmed : Confirmed s number := by
      obtain ⟨old, hold, holdmem⟩ | rfl := responses_step hstep htask hmem
      · exact h.confirmed number old status hold holdmem hsuccess
      · exact hallowed hsuccess
    exact hconfirmed.mono (step_posts hstep) (fun _ hreply => hreply) (List.prefix_refl _)

theorem LogInv.engineStep {reporter : Reporter.State} {action : Action}
    {stored : List (ℕ × EventRequest)} (hlog : LogInv lib context db s stored)
    (hevents : EventsKept s.reporter action reporter) (hallowed : Allowed s action) :
    LogInv lib context db { s with reporter := reporter } stored := by
  refine ⟨hlog.distinct, ?_, hlog.logs, ?_, ?_⟩
  · exact fun x hx => hevents.kept _ _ (hlog.built x hx)
  · intro row hrow number event hbuilt
    obtain hold | hnew := built_new hevents hallowed hbuilt
    · exact hlog.fresh row hrow number event hold
    · intro heq
      have hmem : content row ∈
          (logsOf s.intake.writer.db.auditLogs context.instanceId).map content := by
        rw [hlog.logs]
        exact List.mem_append_left _ (List.mem_map_of_mem hrow)
      obtain ⟨row', hrow', hcontent⟩ := List.mem_map.mp hmem
      have hid : row'.eventId = event.eventId := (congrArg AuditLogRow.eventId hcontent).trans heq
      exact hnew.stored (hid ▸ List.mem_map_of_mem (List.mem_filter.mp hrow').1)
  · intro channel log p number hreply hsent hbuilt
    obtain hold | hnew := built_new hevents hallowed hbuilt
    · exact hlog.replied channel log p number hreply hsent hold
    · exact absurd rfl (hnew.presented p (List.mem_of_getElem? hsent))

theorem SystemInv.engineStep {reporter : Reporter.State} {action : Action}
    (h : SystemInv lib max context db s) (hallowed : Allowed s action)
    (hstep : Reporter.step s.reporter action = some reporter) :
    SystemInv lib max context db { s with reporter := reporter } := by
  obtain ⟨actions, hinv⟩ := h.api.engine.reporter
  have hevents := step_eventsKept hinv hstep
  refine ⟨h.api.engineStep hallowed hstep, ?_⟩
  intro hkept
  have htasks := hevents.tasks
  have hroom := hkept.room
  obtain ⟨stored, hlog⟩ := h.log ⟨hkept.exists_, by dsimp only at hroom; omega⟩
  exact ⟨stored, hlog.engineStep hevents hallowed⟩

/-! ## A step of the API -/

theorem ApiInv.apiStep {label : IntakeLabel} {intake : Intake} (h : ApiInv lib context db s)
    (hstep : IntakeStep lib max s.intake label intake)
    (harrive : ∀ p, label = .arrive p → (∃ q ∈ s.reporter.posts, p = received q) ∨
      Foreign lib context s p) : ApiInv lib context db { s with intake := intake } := by
  have hkept := hstep.kept h.intake.counts
  refine ⟨h.engine, h.intake.next hstep, hkept.instances.used h.used, ?_, ?_, ?_, ?_, ?_⟩
  · intro r' hr'
    obtain ⟨r, hr, htoken⟩ := hkept.instances.rows _ h.used r' hr'
    rw [htoken, h.token r hr]
  · intro p hp htoken
    obtain hold | hlabel := hkept.sent p hp
    · exact h.presented p hold htoken
    · obtain ⟨q, hq, rfl⟩ | hforeign := harrive p hlabel
      · exact ⟨q.task, h.engine.posted hq⟩
      · exact absurd htoken hforeign.token
  · intro request hrequest number event hbuilt heq
    obtain hold | ⟨p, hlabel, -, hevent, hcheck⟩ := hkept.pending request hrequest
    · exact h.pending request hold number event hbuilt heq
    · rw [← hevent] at heq ⊢
      obtain ⟨q, hq, rfl⟩ | hforeign := harrive p hlabel
      · have hposted := h.engine.posted hq
        have hsame := h.engine.distinct _ _ _ _ hposted hbuilt heq
        exact (hsame ▸ hposted).unique hbuilt
      · exact absurd heq (hforeign.eventId hcheck number event hbuilt)
  · intro row hrow number event hbuilt heq
    obtain hold | ⟨request, hrequest, hid, hcontent⟩ := hkept.rows row hrow
    · exact h.rows row hold number event hbuilt heq
    · have hrowId : row.eventId = request.event.eventId :=
        (congrArg AuditLogRow.eventId hcontent :)
      have hevent := h.pending request hrequest number event hbuilt (hrowId ▸ heq)
      obtain ⟨eventId, now, queued, hreported⟩ := h.engine.event hbuilt
      rw [← hid, hevent, hreported]
      rfl
  · intro number task status htask hmem hsuccess
    exact (h.confirmed number task status htask hmem hsuccess).mono (fun _ hp => hp) hkept.replies
      hkept.presented

/-- A step that writes nothing for the instance leaves its log as it is. -/
theorem LogInv.keeps {intake : Intake} {stored : List (ℕ × EventRequest)}
    (hlog : LogInv lib context db s stored) (hinv : ApiInv lib context db s)
    (hlogs : logsOf intake.writer.db.auditLogs context.instanceId =
      logsOf s.intake.writer.db.auditLogs context.instanceId)
    (hpresented : s.intake.presented <+: intake.presented)
    (hreplies : ∀ channel log, (channel, .ok log) ∈ intake.replies →
      (channel, .ok log) ∈ s.intake.replies ∨
        ∀ p number, intake.presented[channel]? = some p → ¬ Built s.reporter number p.event) :
    LogInv lib context db { s with intake := intake } stored := by
  refine ⟨hlog.distinct, hlog.built, by rw [← hlog.logs]; exact congrArg _ hlogs, hlog.fresh, ?_⟩
  intro channel log p number hreply hsent hbuilt
  obtain hold | hnone := hreplies _ _ hreply
  · have hlt : channel < s.intake.presented.length :=
      hinv.intake.issued channel (List.mem_append_left _ (List.mem_map_of_mem hold))
    have hsame := List.prefix_iff_getElem?.mp hpresented channel hlt
    have hp : s.intake.presented[channel] = p := Option.some.inj (hsame.symm.trans hsent)
    exact hlog.replied channel log p number hold (List.getElem?_eq_some_iff.mpr ⟨hlt, hp⟩) hbuilt
  · exact absurd hbuilt (hnone p number hsent)

/-- An answer of success is one to a request of a group that was committed. -/
theorem writeGroup_ok {json : JsonCodec} {w : WriterState} {instanceId : Text}
    {requests : List AuditLogWriteRequest} {failure : Option Text} {channel : ℕ} {log : AuditLog}
    (h : (channel, .ok log) ∈ (writeGroup json max w instanceId requests failure).2) :
    ∃ db logs retained, batchOutcome json max w instanceId requests failure =
      .ok (db, logs, retained) ∧ ∃ request ∈ requests, request.response = channel := by
  unfold writeGroup at h
  split at h
  next database logs retained hout =>
    refine ⟨database, logs, retained, hout, ?_⟩
    exact List.mem_map.mp (List.of_mem_zip h).1
  next =>
    obtain ⟨request, _, heq⟩ := List.mem_map.mp h
    exact absurd heq (by simp)
  next =>
    obtain ⟨request, _, heq⟩ := List.mem_map.mp h
    exact absurd heq (by simp)

theorem newRows_stored {json : JsonCodec} {instanceId : Text} {requests : List AuditLogWriteRequest}
    {request : AuditLogWriteRequest} (h : request ∈ requests) (stored : List Text) :
    request.event.eventId ∈
      stored ++ (newRows json instanceId stored requests).map AuditLogRow.eventId := by
  induction requests generalizing stored with
  | nil => simp at h
  | cons first rest ih =>
    rw [newRows]
    split
    next hstored =>
      obtain rfl | hrest := List.mem_cons.mp h
      · exact List.mem_append_left _ hstored
      · exact ih hrest stored
    next =>
      obtain rfl | hrest := List.mem_cons.mp h
      · exact List.mem_append_right _ List.mem_cons_self
      · have hmem := ih hrest (stored ++ [first.event.eventId])
        rw [List.append_assoc] at hmem
        exact hmem

/-- Every event of a batch is in the table afterwards. -/
theorem insertEvents_stored {json : JsonCodec} {instanceId : Text} {t t' : AuditTable}
    {requests : List AuditLogWriteRequest} {logs : List AuditLog} {count : ℕ}
    (h : insertEvents json instanceId t requests = .ok (t', logs, count)) :
    ∀ request ∈ requests, request.event.eventId ∈ t'.rows.map AuditLogRow.eventId := by
  obtain ⟨added, hrows, -, hcontent, -⟩ := insertEvents_rows h
  have hids : added.map AuditLogRow.eventId = (newRows json instanceId
      (t.rows.map AuditLogRow.eventId) requests).map AuditLogRow.eventId := by
    rw [← hcontent, List.map_map]
    rfl
  intro request hrequest
  rw [hrows, List.map_append, hids]
  exact newRows_stored hrequest _

/-- A request of the batch for the instance carries an event of the engine. -/
theorem ApiInv.request_built (h : ApiInv lib context db s)
    (hexists : s.intake.writer.db.selectInstance context.instanceId ≠ none)
    {request : AuditLogWriteRequest} (hrequest : request ∈ s.intake.pending)
    (hid : request.event.instanceId = context.instanceId) :
    ∃ number, Built s.reporter number request.event := by
  obtain ⟨r, hr⟩ := Option.ne_none_iff_exists'.mp hexists
  obtain ⟨p, hp, hevent, hadmitted⟩ := (h.intake.pending request hrequest).sent
  have htoken := (hadmitted r (hid ▸ hr)).token
  rw [h.token r hr] at htoken
  rw [← hevent]
  exact h.presented p (List.mem_of_getElem? hp) htoken

theorem exists_map_eq {α β : Type} {f : α → β} {P : α → Prop} {l : List β}
    (h : ∀ b ∈ l, ∃ a, P a ∧ f a = b) : ∃ as : List α, as.map f = l ∧ ∀ a ∈ as, P a := by
  induction l with
  | nil => exact ⟨[], rfl, by simp⟩
  | cons b l ih =>
    obtain ⟨a, ha, rfl⟩ := h b List.mem_cons_self
    obtain ⟨as, rfl, has⟩ := ih fun b hb => h b (List.mem_cons_of_mem _ hb)
    exact ⟨a :: as, rfl, List.forall_mem_cons.mpr ⟨ha, has⟩⟩

theorem EngineInv.eventRow_eq (h : EngineInv context s.reporter) {number : ℕ}
    {request : AuditLogWriteRequest} (hbuilt : Built s.reporter number request.event) :
    eventRow lib.json context.instanceId request = storedRow lib context request.event := by
  obtain ⟨event, response, now, gap⟩ := request
  obtain ⟨eventId, time, queued, rfl⟩ := h.event hbuilt
  rfl

/-- Where the events stored have distinct identifiers, they are of distinct tasks. -/
theorem tasks_nodup {stored : List (ℕ × EventRequest)}
    (hbuilt : ∀ x ∈ stored, Built s.reporter x.1 x.2)
    (hids : (stored.map fun x => x.2.eventId).Nodup) :
    (stored.map Prod.fst).Nodup ∧ stored.length ≤ s.reporter.tasks.length := by
  have hnodup : (stored.map Prod.fst).Nodup := by
    rw [List.Nodup, List.pairwise_map] at hids ⊢
    refine hids.imp_of_mem ?_
    intro x y hx hy hne heq
    have hsame := (heq ▸ hbuilt x hx).unique (hbuilt y hy)
    exact hne (by rw [hsame])
  refine ⟨hnodup, ?_⟩
  have hsub : stored.map Prod.fst ⊆ List.range s.reporter.tasks.length := by
    intro number hnumber
    obtain ⟨x, hx, rfl⟩ := List.mem_map.mp hnumber
    obtain ⟨task, htask, -⟩ := hbuilt x hx
    exact List.mem_range.mpr (List.getElem?_eq_some_iff.mp htask).1
  have hlength := (List.subperm_of_subset hnodup hsub).length_le
  rwa [List.length_map, List.length_range] at hlength

/-- What a committed batch of the instance leaves: its new events are appended, and nothing is cut
off. -/
structure Committed (lib : EventLibraries) (context : ReporterContext) (db : Database) (s : System)
    (database : Database) (stored stored' : List (ℕ × EventRequest)) : Prop where
  kept : ∀ x ∈ stored, x ∈ stored'
  distinct : (stored'.map Prod.fst).Nodup
  built : ∀ x ∈ stored', Built s.reporter x.1 x.2
  logs : (logsOf database.auditLogs context.instanceId).map content =
    (logsOf db.auditLogs context.instanceId).map content ++
      stored'.map fun x => storedRow lib context x.2
  group : ∀ request ∈ groupOf s.intake.batch context.instanceId, ∀ number,
    Built s.reporter number request.event → number ∈ stored'.map Prod.fst

theorem LogInv.commit {failure : Option Text} {database : Database}
    {logs : List AuditLog} {retained : ℕ} {stored : List (ℕ × EventRequest)}
    (hlog : LogInv lib context db s stored) (hinv : ApiInv lib context db s)
    (hkept : Kept max context db s)
    (hout : batchOutcome lib.json max s.intake.writer context.instanceId
      (groupOf s.intake.batch context.instanceId) failure = .ok (database, logs, retained)) :
    ∃ stored', Committed lib context db s database stored stored' := by
  obtain ⟨t, inserted, hins, hcut⟩ := batchOutcome_cut hinv.intake.counts hout
  obtain ⟨added, hrows, -, hcontent, hinst⟩ := insertEvents_rows hins
  have hown : logsOf t context.instanceId =
      logsOf s.intake.writer.db.auditLogs context.instanceId ++ added := by
    rw [logsOf_append_added hrows hinst, if_pos rfl]
  have hnewRow : ∀ row ∈ newRows lib.json context.instanceId
      (s.intake.writer.db.auditLogs.rows.map AuditLogRow.eventId)
      (groupOf s.intake.batch context.instanceId),
      ∃ x : ℕ × EventRequest, Built s.reporter x.1 x.2 ∧ storedRow lib context x.2 = row := by
    intro row hrow
    obtain ⟨request, hrequest, rfl⟩ := newRows_mem hrow
    obtain ⟨hpending, hid⟩ := groupOf_pending hrequest
    obtain ⟨number, hbuilt⟩ := hinv.request_built hkept.exists_ hpending hid
    exact ⟨(number, request.event), hbuilt, (hinv.engine.eventRow_eq hbuilt).symm⟩
  obtain ⟨new, hnew, hnewBuilt⟩ := exists_map_eq hnewRow
  have hbuilt : ∀ x ∈ stored ++ new, Built s.reporter x.1 x.2 := by
    intro x hx
    exact (List.mem_append.mp hx).elim (hlog.built x) (hnewBuilt x)
  have hlogs : (logsOf t context.instanceId).map content =
      (logsOf db.auditLogs context.instanceId).map content ++
        (stored ++ new).map fun x => storedRow lib context x.2 := by
    rw [hown, List.map_append, hlog.logs, hcontent, ← hnew, List.map_append, List.append_assoc]
  have hids : ((stored ++ new).map fun x => x.2.eventId).Nodup := by
    have hall : ((logsOf t context.instanceId).map AuditLogRow.eventId).Nodup :=
      (List.filter_sublist.map _).nodup t.unique
    have hsplit : (logsOf t context.instanceId).map AuditLogRow.eventId =
        (logsOf db.auditLogs context.instanceId).map AuditLogRow.eventId ++
          (stored ++ new).map fun x => x.2.eventId := by
      have hmapped := congrArg (List.map AuditLogRow.eventId) hlogs
      rwa [List.map_append, List.map_map, List.map_map, List.map_map] at hmapped
    rw [hsplit] at hall
    exact hall.of_append_right
  obtain ⟨hnodup, hlength⟩ := tasks_nodup hbuilt hids
  refine ⟨stored ++ new, fun x hx => List.mem_append_left _ hx, hnodup, hbuilt, ?_, ?_⟩
  · have hroom : (logsOf t context.instanceId).length ≤ max := by
      have hcount := congrArg List.length hlogs
      have hbound := hkept.room
      simp only [List.length_map, List.length_append] at hcount hlength
      omega
    rw [hcut.own, rtake_of_length_le hroom, hlogs]
  · intro request hrequest number hnumber
    obtain ⟨row, hrow, hrowId⟩ := List.mem_map.mp (insertEvents_stored hins request hrequest)
    have hrowInst : row.instanceId = context.instanceId := by
      obtain hold | hnewRow := List.mem_append.mp (hrows ▸ hrow)
      · exact hinv.rows row hold number _ hnumber hrowId
      · exact hinst row hnewRow
    have hmem : content row ∈ (logsOf t context.instanceId).map content :=
      List.mem_map_of_mem (List.mem_filter.mpr ⟨hrow, by simpa using hrowInst⟩)
    rw [hlogs] at hmem
    obtain hinitial | hstored := List.mem_append.mp hmem
    · obtain ⟨row', hrow', hsame⟩ := List.mem_map.mp hinitial
      have hid : row'.eventId = row.eventId := (congrArg AuditLogRow.eventId hsame :)
      exact absurd (hid.trans hrowId) (hlog.fresh row' hrow' number _ hnumber)
    · obtain ⟨x, hx, hsame⟩ := List.mem_map.mp hstored
      have hid : x.2.eventId = row.eventId := (congrArg AuditLogRow.eventId hsame :)
      have hnumberEq := hinv.engine.distinct _ _ _ _ (hbuilt x hx) hnumber (hid.trans hrowId)
      exact hnumberEq ▸ List.mem_map_of_mem hx

theorem writeGroup_others {json : JsonCodec} {w : WriterState} (hw : CountsRight w)
    {instanceId other : Text} (hother : other ≠ instanceId) (requests : List AuditLogWriteRequest)
    (failure : Option Text) :
    logsOf (writeGroup json max w instanceId requests failure).1.db.auditLogs other =
      logsOf w.db.auditLogs other := by
  unfold writeGroup
  split
  next database logs retained hout => exact (batchOutcome_committed hw hout).2.others other hother
  next => rfl
  next => rfl

theorem LogInv.write {stored : List (ℕ × EventRequest)} (hlog : LogInv lib context db s stored)
    (hinv : ApiInv lib context db s) (hkept : Kept max context db s) (instanceId : Text)
    (failure : Option Text) : ∃ stored', LogInv lib context db
      { s with intake := writeNext lib max s.intake instanceId failure } stored' := by
  by_cases hid : instanceId = context.instanceId
  · subst hid
    cases hout : batchOutcome lib.json max s.intake.writer context.instanceId
      (groupOf s.intake.batch context.instanceId) failure with
    | ok outcome =>
      obtain ⟨database, logs, retained⟩ := outcome
      obtain ⟨stored', hcommitted⟩ := hlog.commit hinv hkept hout
      refine ⟨stored', hcommitted.distinct, hcommitted.built, ?_, hlog.fresh, ?_⟩
      · have hdb : (writeNext lib max s.intake context.instanceId failure).writer.db =
          database := by
          rw [writeNext, writeGroup, hout]
        dsimp only
        rw [hdb]
        exact hcommitted.logs
      · intro channel log p number hreply hsent hbuilt
        obtain hold | hnew := List.mem_append.mp hreply
        · obtain ⟨x, hx, rfl⟩ := List.mem_map.mp
            (hlog.replied channel log p number hold hsent hbuilt)
          exact List.mem_map_of_mem (hcommitted.kept x hx)
        · obtain ⟨_, _, _, _, request, hrequest, rfl⟩ := writeGroup_ok hnew
          obtain ⟨q, hq, hevent, -⟩ :=
            (hinv.intake.pending request (groupOf_pending hrequest).1).sent
          obtain rfl := Option.some.inj (hq.symm.trans hsent)
          exact hcommitted.group request hrequest number (hevent ▸ hbuilt)
    | error e =>
      refine ⟨stored, hlog.keeps hinv ?_ (List.prefix_refl _) ?_⟩
      · have hdb : (writeNext lib max s.intake context.instanceId failure).writer.db =
            s.intake.writer.db := by
          rw [writeNext, writeGroup, hout]
          cases e <;> rfl
        rw [hdb]
      · intro channel log hreply
        refine .inl ((List.mem_append.mp hreply).resolve_right ?_)
        intro hnew
        obtain ⟨_, _, _, hok, _⟩ := writeGroup_ok hnew
        rw [hout] at hok
        exact absurd hok (by simp)
  · refine ⟨stored, hlog.keeps hinv ?_ (List.prefix_refl _) ?_⟩
    · exact writeGroup_others hinv.intake.counts (Ne.symm hid) _ _
    · intro channel log hreply
      refine (List.mem_append.mp hreply).imp_right ?_
      intro hnew p number hsent hbuilt
      obtain ⟨_, _, _, _, request, hrequest, rfl⟩ := writeGroup_ok hnew
      obtain ⟨hpending, hinstance⟩ := groupOf_pending hrequest
      obtain ⟨q, hq, hevent, -⟩ := (hinv.intake.pending request hpending).sent
      obtain rfl := Option.some.inj (hq.symm.trans hsent)
      obtain ⟨eventId, now, queued, hreported⟩ := hinv.engine.event hbuilt
      rw [← hevent, hreported] at hinstance
      exact hid hinstance.symm

theorem SystemInv.apiStep {label : IntakeLabel} {intake : Intake}
    (h : SystemInv lib max context db s) (hstep : IntakeStep lib max s.intake label intake)
    (harrive : ∀ p, label = .arrive p → (∃ q ∈ s.reporter.posts, p = received q) ∨
      Foreign lib context s p) : SystemInv lib max context db { s with intake := intake } := by
  refine ⟨h.api.apiStep hstep harrive, ?_⟩
  intro hkept
  have hstepKept := hstep.kept h.api.intake.counts
  have hbefore : Kept max context db s := by
    refine ⟨?_, hkept.room⟩
    obtain ⟨r', hr'⟩ := Option.ne_none_iff_exists'.mp hkept.exists_
    obtain ⟨r, hr, -⟩ := hstepKept.instances.rows _ h.api.used r' hr'
    rw [hr]
    simp
  obtain ⟨stored, hlog⟩ := h.log hbefore
  by_cases hlabel : ∀ id failure, label ≠ .writeGroup id failure
  · obtain ⟨hreplies, hlogs⟩ := hstep.quiet hlabel
    refine ⟨stored, hlog.keeps h.api (hlogs _ hkept.exists_) hstepKept.presented ?_⟩
    exact fun _ _ hreply => .inl (hreplies ▸ hreply)
  · push Not at hlabel
    obtain ⟨id, failure, rfl⟩ := hlabel
    cases hstep with
    | writeGroup _ _ _ => exact hlog.write h.api hbefore id failure

theorem systemInv_start {r : InstanceRow} (hr : db.selectInstance context.instanceId = some r)
    (htoken : r.callbackToken = context.callbackToken) :
    SystemInv lib max context db (System.start context db) := by
  have hnone : ∀ number event, ¬ Built (System.start context db).reporter number event := by
    intro number event hbuilt
    obtain ⟨task, htask, _⟩ := hbuilt
    exact absurd htask (by simp [System.start, State.start])
  refine ⟨⟨engineInv_start context db, intakeInv_start lib db, ?_, ?_, ?_, ?_, ?_, ?_⟩, ?_⟩
  · simp [System.start, Intake.start, WriterState.start, hr]
  · intro r' hr'
    obtain rfl := Option.some.inj (hr.symm.trans hr')
    exact htoken
  · simp [System.start, Intake.start]
  · simp [System.start, Intake.start, Intake.pending]
  · exact fun row _ number event hbuilt => absurd hbuilt (hnone number event)
  · simp [System.start, State.start]
  · intro _
    refine ⟨[], List.nodup_nil, by simp, ?_, ?_, ?_⟩
    · simp [System.start, Intake.start, WriterState.start]
    · exact fun row _ number event hbuilt => absurd hbuilt (hnone number event)
    · simp [System.start, Intake.start]

end Steps

/-- However the network treats the requests of the reporter and whatever others do meanwhile, as
long as the instance exists and its log has room: the log holds every event of the engine at most
once and nothing else that is new, and every event that was answered with success. -/
theorem path_deliveredOnce (lib : EventLibraries) (max : ℕ) (context : ReporterContext)
    (db : Database) (r : InstanceRow) (hr : db.selectInstance context.instanceId = some r)
    (htoken : r.callbackToken = context.callbackToken) (run : List (Label × System))
    (hrun : Path (Step lib max context) (System.start context db) run) :
    EveryStep (fun _ _ s' => Kept max context db s' → DeliveredOnce lib context db s')
      (System.start context db) run := by
  have hstart : SystemInv lib max context db (System.start context db) := systemInv_start hr htoken
  refine Path.everyStep ?_ hstart hrun
  intro s label s' hs hstep
  have hs' : SystemInv lib max context db s' := by
    cases hstep with
    | engine hallowed hstep => exact hs.engineStep hallowed hstep
    | api hstep harrive => exact hs.apiStep hstep harrive
  refine ⟨hs', ?_⟩
  intro hkept
  obtain ⟨stored, hlog⟩ := hs'.log hkept
  refine ⟨stored, hlog.distinct, hlog.built, hlog.logs, ?_⟩
  intro number task status htask hmem hsuccess
  have hconfirmed := hs'.api.confirmed number task status htask hmem hsuccess
  obtain ⟨p, channel, log, hreply, hsent, hbuilt⟩ := hconfirmed.built hs'.api.engine
  exact hlog.replied channel log p number hreply hsent hbuilt

/-! ## One event from its draft to its answer -/

def simContext : ReporterContext :=
  ⟨"http://192.0.2.1/internal/events", "token-1", "sim-1", [⟨"main", .tcp, 40025, 25⟩]⟩

def noopTime : Text := "2026-08-01T00:00:00+00:00"

def noopEvent : EventRequest := reportedEvent simContext retriedEventId noopTime noopQueued

def noopRequest : AuditLogWriteRequest := ⟨noopEvent, 0, noopTime, 0⟩

/-- The reporter with one task, and what the task sent. -/
def noopReporter (task : Task) (posts : List Post) : Reporter.State where
  initialized := some simContext
  reporter := some simContext
  queue := []
  tasks := [task]
  posts := posts
  dropped := 0

def noopSent : Reporter.State :=
  noopReporter ⟨noopQueued, some noopEvent, [], .sending⟩ [post simContext 0 noopEvent]

/-- The API when the event has arrived, and where its request is. -/
def noopIntake (waiting channel batch : List AuditLogWriteRequest) : Intake where
  writer := .start twoInstances
  presented := [received (post simContext 0 noopEvent)]
  waiting := waiting
  channel := channel
  batch := batch
  replies := []

def noopWritten : Intake :=
  writeNext emptyObjectLibraries 10000 (noopIntake [] [] [noopRequest]) "sim-1" none

/-- A draft is reported, sent, delivered, stored and acknowledged. -/
def noopRun : List (Label × System) :=
  let s := System.start simContext twoInstances
  [(.engine (.report simContext.callbackUrl noopQueued),
      { s with reporter := { s.reporter with
        reporter := some simContext
        queue := [noopQueued] } }),
    (.engine .receive, { s with reporter := noopReporter ⟨noopQueued, none, [], .spawned⟩ [] }),
    (.engine (.poll 0 retriedEventId noopTime), { s with reporter := noopSent }),
    (.api (.arrive (received (post simContext 0 noopEvent))),
      ⟨noopSent, noopIntake [noopRequest] [] []⟩),
    (.api .enqueue, ⟨noopSent, noopIntake [] [noopRequest] []⟩),
    (.api .takeBatch, ⟨noopSent, noopIntake [] [] [noopRequest]⟩),
    (.api (.writeGroup "sim-1" none), ⟨noopSent, noopWritten⟩),
    (.engine (.respond 0 (some 201)),
      ⟨noopReporter ⟨noopQueued, some noopEvent, [some 201], .finished⟩
        [post simContext 0 noopEvent],
        noopWritten⟩)]

theorem noopRun_path :
    Path (Step emptyObjectLibraries 10000 simContext) (System.start simContext twoInstances)
      noopRun := by
  have hcheck : checkEvent emptyObjectLibraries
      (received (post simContext 0 noopEvent)).authorization
      (getInstance twoInstances noopEvent.instanceId) noopEvent = .ok () := by decide
  refine .cons (.engine trivial rfl) (.cons (.engine trivial rfl) (.cons (.engine ?_ rfl) (.cons
    (.api ?_ ?_) (.cons (.api ?_ nofun) (.cons (.api ?_ nofun) (.cons (.api ?_ nofun) (.cons
      (.engine ?_ rfl) .nil)))))))
  · refine ⟨?_, ?_, ?_⟩
    · simp [System.start, Intake.start, WriterState.start, twoInstances, AuditTable.empty]
    · simp [System.start, Intake.start]
    · intro number event hbuilt
      obtain ⟨task, htask, hevent⟩ := hbuilt
      obtain rfl := List.mem_singleton.mp (List.mem_of_getElem? htask)
      exact absurd hevent (by simp)
  · have hrecord : recordEvent emptyObjectLibraries (System.start simContext twoInstances).intake
        (received (post simContext 0 noopEvent)) noopTime 0 = noopIntake [noopRequest] [] [] := by
      unfold recordEvent
      split
      next => rfl
      next hrefused => exact absurd (hrefused.symm.trans hcheck) (by simp)
    exact hrecord ▸ .arrive _ noopTime 0
  · intro p hp
    cases hp
    exact .inl ⟨post simContext 0 noopEvent, List.mem_singleton_self _, rfl⟩
  · exact @IntakeStep.enqueue _ _ _ [] [] _ rfl (Nat.zero_lt_succ _)
  · exact .takeBatch rfl (List.cons_ne_nil _ _)
  · exact .writeGroup "sim-1" none (List.cons_ne_nil _ _)
  · intro _
    refine ⟨post simContext 0 noopEvent, List.mem_singleton_self _, rfl, 0,
      ⟨1, noopEvent.eventId, "sim-1", "main", "smtp_command", "SMTP command: NOOP", "198.51.100.7",
        40312, none, .obj [], noopTime⟩, ?_, rfl⟩
    exact List.mem_singleton_self _

theorem noopRun_deliveredOnce :
    EveryStep (fun _ _ s' => Kept 10000 simContext twoInstances s' →
        DeliveredOnce emptyObjectLibraries simContext twoInstances s')
      (System.start simContext twoInstances) noopRun :=
  path_deliveredOnce emptyObjectLibraries 10000 simContext twoInstances
    ⟨"sim-1", "rule-1", "shell", "ssh", "token-1", .running, some "w-1", none, .idle,
      none, none, none⟩
    rfl rfl noopRun noopRun_path

end ProtocolSimulation.Deliveries
