import ProtocolSimulation.EventIntake
import ProtocolSimulation.ReporterRuns

/-!
# From the draft to the audit log

The reporter of an engine, the network and the API next to each other. A request of
the reporter may be lost, delayed, overtaken and delivered more than once, and so may
its answer; a request without an answer is sent again. Every event is nevertheless
stored once at most, and once if the API ever said so.
-/
namespace ProtocolSimulation.Deliveries

open ProtocolSimulation.Texts ProtocolSimulation.JsonValues ProtocolSimulation.Storage
open ProtocolSimulation.Api ProtocolSimulation.Identifiers ProtocolSimulation.RuntimeEvents
open ProtocolSimulation.Programs
open ProtocolSimulation.Reporter ProtocolSimulation.Audit ProtocolSimulation.Retention

/-- The engine of one instance, and the API with its writer. -/
structure System where
  reporter : Reporter.State
  intake : Intake

/-- The engine was told its context, and the API was just started. -/
def System.start (context : ReporterContext) (db : Database) : System where
  reporter := { State.start with initialized := some context }
  intake := .start db

/-- The task has built the event. -/
def Built (s : Reporter.State) (number : ℕ) (event : EventRequest) : Prop :=
  ∃ task, s.tasks[number]? = some task ∧ task.event = some event

/-- An identifier that no stored row, no event sent and no event of the engine has. -/
structure Unused (s : System) (eventId : Text) : Prop where
  stored : eventId ∉ s.intake.writer.db.auditLogs.rows.map AuditLogRow.eventId
  presented : ∀ p ∈ s.intake.presented, p.event.eventId ≠ eventId
  built : ∀ number event, Built s.reporter number event → event.eventId ≠ eventId

/-- What `record_event` gets of a request of the reporter. -/
def received (p : Post) : Presented := ⟨p.authorization, p.event⟩

/-- A request of the task arrived, and its handler was told that the event is stored. -/
def Confirmed (s : System) (number : ℕ) : Prop :=
  ∃ p ∈ s.reporter.posts, p.task = number ∧ ∃ channel log, (channel, .ok log) ∈ s.intake.replies ∧
    s.intake.presented[channel]? = some (received p)

/-- UUIDs are not used twice, and a request is answered with success only if a handler was told
so. Any other answer may come at any time. -/
def Allowed (s : System) : Action → Prop
  | .poll _ eventId _ => Unused s eventId.hyphenated
  | .respond number (some status) => isSuccess status = true → Confirmed s number
  | _ => True

/-- What others send: never with the token of the engine, and under none of its identifiers where
the API would accept it. -/
structure Foreign (lib : EventLibraries) (context : ReporterContext) (s : System) (p : Presented) :
    Prop where
  token : p.authorization.bind (stripPrefix "Bearer ") ≠ some context.callbackToken
  eventId : checkEvent lib p.authorization (getInstance s.intake.writer.db p.event.instanceId)
    p.event = .ok () → ∀ number event, Built s.reporter number event →
      p.event.eventId ≠ event.eventId

inductive Label where
  | engine (action : Action)
  | api (label : IntakeLabel)

/-- The engine moves, or the API does. What arrives at the API is a copy of a request that the
engine sent some time before, or comes from elsewhere. -/
inductive Step (lib : EventLibraries) (max : ℕ) (context : ReporterContext) (s : System) :
    Label → System → Prop where
  | engine {action : Action} {reporter : Reporter.State} (hallowed : Allowed s action)
    (hstep : Reporter.step s.reporter action = some reporter) :
    Step lib max context s (.engine action) { s with reporter := reporter }
  | api {label : IntakeLabel} {intake : Intake} (hstep : IntakeStep lib max s.intake label intake)
    (harrive : ∀ p, label = .arrive p → (∃ q ∈ s.reporter.posts, p = received q) ∨
      Foreign lib context s p) :
    Step lib max context s (.api label) { s with intake := intake }

/-- The row an event of the engine is stored as. -/
def storedRow (lib : EventLibraries) (context : ReporterContext) (event : EventRequest) :
    AuditLogRow := eventRow lib.json context.instanceId ⟨event, 0, [], 0⟩

/-- The log of the instance is the one it had and the events of the engine, each at most once, and
those that were acknowledged in any case. -/
structure DeliveredOnce (lib : EventLibraries) (context : ReporterContext) (db : Database)
    (s : System) : Prop where
  logs : ∃ stored : List (ℕ × EventRequest), (stored.map Prod.fst).Nodup ∧
    (∀ x ∈ stored, Built s.reporter x.1 x.2) ∧
    (logsOf s.intake.writer.db.auditLogs context.instanceId).map content =
      (logsOf db.auditLogs context.instanceId).map content ++
        stored.map (fun x => storedRow lib context x.2) ∧
    ∀ number task status, s.reporter.tasks[number]? = some task → some status ∈ task.responses →
      isSuccess status = true → number ∈ stored.map Prod.fst

/-! ## The events of the engine -/

section Engine

variable {actions : List Action} {s s' : Reporter.State} {action : Action}

theorem attempt_event (context : ReporterContext) (number : ℕ) (task : Task)
    (event : EventRequest) : (attempt context number task event).1.event = some event := by
  rw [attempt]
  split <;> rfl

/-- A task builds its event once, when it is polled for the first time, and keeps it. -/
theorem event_turn {context : ReporterContext} {number : ℕ} {task : Task} {posts : List Post}
    {next : Task × List Post} (h : TaskSound context number task posts)
    (hturn : Turn (some context) number task action next) :
    next.1.event = task.event ∨ ∃ eventId now, action = .poll number eventId now ∧
      task.event = none ∧ next.1.event = some (reportedEvent context eventId now task.queued) := by
  cases hturn with
  | poll eventId now hcontext hphase =>
    cases hcontext
    refine .inr ⟨eventId, now, rfl, ?_, attempt_event _ _ _ _⟩
    cases h with
    | spawned => rfl
    | settled _ _ _ _ hover =>
      subst hphase
      simp at hover
    | _ => simp at hphase
  | respond => exact .inl rfl
  | wake hcontext hevent => exact .inl (by rw [attempt_event, hevent])
  | join => exact .inl rfl

/-- What a step of the reporter does to the events: none is changed, and one may be new. -/
structure EventsKept (s : Reporter.State) (action : Action) (s' : Reporter.State) : Prop where
  kept : ∀ number event, Built s number event → Built s' number event
  built : ∀ number event, Built s' number event → Built s number event ∨
    ∃ eventId now context task, action = .poll number eventId now ∧ s.reporter = some context ∧
      s.tasks[number]? = some task ∧ task.event = none ∧
      event = reportedEvent context eventId now task.queued
  tasks : s.tasks.length ≤ s'.tasks.length

theorem eventsKept_of_tasks (h : s'.tasks = s.tasks) : EventsKept s action s' := by
  refine ⟨?_, ?_, by rw [h]⟩
  · intro number event hbuilt
    rwa [Built, h]
  · intro number event hbuilt
    rw [Built, h] at hbuilt
    exact .inl hbuilt

theorem step_eventsKept (hinv : ReporterInv actions s) (hstep : Reporter.step s action = some s') :
    EventsKept s action s' := by
  cases step_change hstep with
  | initializeReporter context hnone => exact eventsKept_of_tasks rfl
  | report callbackUrl queued =>
    refine eventsKept_of_tasks ?_
    unfold queueSimLog
    dsimp only
    split <;> rfl
  | @receive queued queue hqueue hroom =>
    refine ⟨?_, ?_, by simp⟩
    · intro number event hbuilt
      obtain ⟨task, htask, hevent⟩ := hbuilt
      refine ⟨task, ?_, hevent⟩
      rw [List.getElem?_append_left (List.getElem?_eq_some_iff.mp htask).1, htask]
    · intro number event hbuilt
      obtain ⟨task, htask, hevent⟩ := hbuilt
      rw [List.getElem?_append] at htask
      split at htask
      next => exact .inl ⟨task, htask, hevent⟩
      next =>
        obtain rfl := List.mem_singleton.mp (List.mem_of_getElem? htask)
        exact absurd hevent (by simp)
  | @turn number task action next htask hturn =>
    obtain ⟨context, hcontext, hsound⟩ := hinv.tasks number task htask
    have hnext := event_turn hsound (hcontext ▸ hturn)
    have hlt := (List.getElem?_eq_some_iff.mp htask).1
    refine ⟨?_, ?_, by simp [State.proceed]⟩
    · intro other event hbuilt
      obtain ⟨task', htask', hevent⟩ := hbuilt
      by_cases hother : number = other
      · subst hother
        obtain rfl := Option.some.inj (htask.symm.trans htask')
        refine ⟨next.1, by simp [State.proceed, hlt], ?_⟩
        obtain hsame | ⟨_, _, _, hnone, _⟩ := hnext
        · rw [hsame, hevent]
        · rw [hnone] at hevent
          exact absurd hevent (by simp)
      · refine ⟨task', ?_, hevent⟩
        rw [State.proceed, List.getElem?_set_ne hother, htask']
    · intro other event hbuilt
      obtain ⟨task', htask', hevent⟩ := hbuilt
      rw [State.proceed] at htask'
      by_cases hother : number = other
      · subst hother
        obtain rfl : next.1 = task' := by
          simpa [List.getElem?_set_self hlt] using htask'
        obtain hsame | ⟨eventId, now, haction, hnone, hbuilt⟩ := hnext
        · exact .inl ⟨task, htask, by rw [← hsame, hevent]⟩
        · rw [hbuilt] at hevent
          exact .inr ⟨eventId, now, context, task, haction, hcontext, htask, hnone,
            (Option.some.inj hevent).symm⟩
      · rw [List.getElem?_set_ne hother] at htask'
        exact .inl ⟨task', htask', hevent⟩

end Engine

theorem Built.unique {s : Reporter.State} {number : ℕ} {event event' : EventRequest}
    (h : Built s number event) (h' : Built s number event') : event = event' := by
  obtain ⟨task, htask, hevent⟩ := h
  obtain ⟨task', htask', hevent'⟩ := h'
  rw [htask] at htask'
  cases htask'
  rw [hevent] at hevent'
  exact Option.some.inj hevent'

/-- What holds of the engine: it reports for its instance, and no two of its events share an
identifier. -/
structure EngineInv (context : ReporterContext) (s : Reporter.State) : Prop where
  reporter : ∃ actions, ReporterInv actions s
  initialized : s.initialized = some context
  context : ∀ c, s.reporter = some c → c = context
  distinct : ∀ number number' event event', Built s number event → Built s number' event' →
    event.eventId = event'.eventId → number = number'

theorem EngineInv.event {context : ReporterContext} {s : Reporter.State} (h : EngineInv context s)
    {number : ℕ} {event : EventRequest} (hbuilt : Built s number event) :
    ∃ eventId now queued, event = reportedEvent context eventId now queued := by
  obtain ⟨task, htask, hevent⟩ := hbuilt
  obtain ⟨actions, hinv⟩ := h.reporter
  obtain ⟨c, hc, hsound⟩ := hinv.tasks number task htask
  obtain rfl := h.context c hc
  obtain ⟨eventId, now, heq⟩ := hsound.builtFrom hevent
  exact ⟨eventId, now, task.queued, heq⟩

theorem EngineInv.posted {context : ReporterContext} {s : Reporter.State} (h : EngineInv context s)
    {p : Post} (hp : p ∈ s.posts) : Built s p.task p.event := by
  obtain ⟨actions, hinv⟩ := h.reporter
  have hlt := hinv.posts p hp
  obtain ⟨c, -, hsound⟩ := hinv.tasks _ _ (List.getElem?_eq_getElem hlt)
  have hmem : p ∈ s.postsOf p.task := List.mem_filter.mpr ⟨hp, by simp⟩
  exact ⟨_, List.getElem?_eq_getElem hlt, hsound.event_of_mem hmem⟩

theorem engineInv_start (context : ReporterContext) (db : Database) :
    EngineInv context (System.start context db).reporter := by
  refine ⟨⟨[.initializeReporter context], ?_⟩, rfl, ?_, ?_⟩
  · exact @ReporterInv.next [] State.start { State.start with initialized := some context } _
      reporterInv_start rfl
  · intro c hc
    exact absurd hc (by simp [System.start, State.start])
  · intro number number' event event' hbuilt
    obtain ⟨task, htask, _⟩ := hbuilt
    exact absurd htask (by simp [System.start, State.start])

theorem step_context {context : ReporterContext} {s s' : Reporter.State} {action : Action}
    (h : EngineInv context s) (hstep : Reporter.step s action = some s') :
    s'.initialized = some context ∧ ∀ c, s'.reporter = some c → c = context := by
  cases step_change hstep with
  | initializeReporter c hnone =>
    rw [h.initialized] at hnone
    exact absurd hnone (by simp)
  | report callbackUrl queued =>
    have hreporter : some (s.reporter.getD (startReporter s.initialized callbackUrl)) =
        some context := by
      cases hc : s.reporter with
      | some c => rw [Option.getD_some, h.context c hc]
      | none => rw [Option.getD_none, startReporter, h.initialized, Option.getD_some]
    unfold queueSimLog
    dsimp only
    split
    · exact ⟨h.initialized, fun c hc => Option.some.inj (hc.symm.trans hreporter)⟩
    · exact ⟨h.initialized, fun c hc => Option.some.inj (hc.symm.trans hreporter)⟩
  | receive => exact ⟨h.initialized, h.context⟩
  | turn => exact ⟨h.initialized, h.context⟩

/-- The engine keeps its invariant as long as UUIDs are not used twice. -/
theorem EngineInv.next {context : ReporterContext} {s : System} {s' : Reporter.State}
    {action : Action} (h : EngineInv context s.reporter) (hallowed : Allowed s action)
    (hstep : Reporter.step s.reporter action = some s') : EngineInv context s' := by
  obtain ⟨actions, hinv⟩ := h.reporter
  have hevents := step_eventsKept hinv hstep
  obtain ⟨hinitialized, hcontext⟩ := step_context h hstep
  refine ⟨⟨_, hinv.next hstep⟩, hinitialized, hcontext, ?_⟩
  have hnew : ∀ number event eventId now c task, action = .poll number eventId now →
      event = reportedEvent c eventId now task → ∀ number' event', Built s.reporter number' event' →
        event'.eventId ≠ event.eventId := by
    intro number event eventId now c task haction hevent number' event' hbuilt
    subst haction
    rw [hevent]
    exact hallowed.built number' event' hbuilt
  intro number number' event event' hbuilt hbuilt' heq
  obtain hold | ⟨eventId, now, c, task, haction, _, _, _, hevent⟩ := hevents.built _ _ hbuilt
  · obtain hold' | ⟨eventId', now', c', task', haction', _, _, _, hevent'⟩ :=
      hevents.built _ _ hbuilt'
    · exact h.distinct _ _ _ _ hold hold' heq
    · exact absurd heq (hnew _ _ _ _ _ _ haction' hevent' _ _ hold)
  · obtain hold' | ⟨eventId', now', c', task', haction', _, _, _, hevent'⟩ :=
      hevents.built _ _ hbuilt'
    · exact absurd heq.symm (hnew _ _ _ _ _ _ haction hevent _ _ hold')
    · rw [haction] at haction'
      cases haction'
      rfl

end ProtocolSimulation.Deliveries
