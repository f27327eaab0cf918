import ProtocolSimulation.Reporter

/-!
# Runs of the reporter

An invariant of the queue and the tasks, kept by every step. A run of the reporter
is safe: nothing it accepted is lost or sent twice as two events. And it ends: the
work that is left gets less with every step that is not a new draft.
-/
namespace ProtocolSimulation.Reporter

open ProtocolSimulation.Texts ProtocolSimulation.Storage ProtocolSimulation.Api
open ProtocolSimulation.Identifiers ProtocolSimulation.RuntimeEvents ProtocolSimulation.Machines

/-! ## What holds of the reporter -/

/-- The requests a task has sent. -/
def State.postsOf (s : State) (number : ℕ) : List Post := s.posts.filter fun p => p.task = number

/-- The event a task builds of its draft. -/
def BuiltFrom (context : ReporterContext) (queued : QueuedLog) (event : EventRequest) : Prop :=
  ∃ eventId now, event = reportedEvent context eventId now queued

/-- What a task has sent, told by where it is left: one event, three times at most, and never
again after an answer that settles it. -/
inductive TaskSound (context : ReporterContext) (number : ℕ) : Task → List Post → Prop where
  | spawned (queued : QueuedLog) : TaskSound context number ⟨queued, none, [], .spawned⟩ []
  | sending {queued : QueuedLog} {event : EventRequest} {responses : List (Option ℕ)}
    (hevent : BuiltFrom context queued event) (hopen : ∀ r ∈ responses, settles r = false)
    (hattempts : responses.length < reportAttempts) :
    TaskSound context number ⟨queued, some event, responses, .sending⟩
      (List.replicate (responses.length + 1) (post context number event))
  | sleeping {queued : QueuedLog} {event : EventRequest}
    {responses : List (Option ℕ)} {attempts : ℕ}
    (hevent : BuiltFrom context queued event) (hopen : ∀ r ∈ responses, settles r = false)
    (hlength : responses.length = attempts + 1) (hattempts : attempts + 1 < reportAttempts) :
    TaskSound context number ⟨queued, some event, responses, .sleeping (100 * 2 ^ attempts)⟩
      (List.replicate responses.length (post context number event))
  | settled {queued : QueuedLog} {event : EventRequest} {responses : List (Option ℕ)}
    {last : Option ℕ} {phase : Phase} (hevent : BuiltFrom context queued event)
    (hopen : ∀ r ∈ responses, settles r = false)
    (hlast : settles last = true ∨ responses.length + 1 = reportAttempts)
    (hattempts : responses.length < reportAttempts)
    (hphase : phase = .finished ∨ phase = .joined) :
    TaskSound context number ⟨queued, some event, responses ++ [last], phase⟩
      (List.replicate (responses.length + 1) (post context number event))

/-- How many more steps a task can take. -/
def Task.work (task : Task) : ℕ :=
  match task.phase with
  | .spawned => 7
  | .sending => 6 - 2 * task.responses.length
  | .sleeping _ => 7 - 2 * task.responses.length
  | .finished => 1
  | .joined => 0

/-- How many more steps the reporter can take for the drafts it was given. -/
def State.work (s : State) : ℕ := 8 * s.queue.length + (s.tasks.map Task.work).sum

/-- The invariant of the reporter, seen with the actions taken so far. -/
structure ReporterInv (actions : List Action) (s : State) : Prop where
  queue : s.queue.length ≤ reportQueueCapacity
  requests : s.requests.length ≤ reportConcurrency
  accepted : (s.tasks.map Task.queued ++ s.queue).Sublist (reported actions)
  counted : s.tasks.length + s.queue.length + s.dropped = (reported actions).length
  dropped : s.dropped = 0 ∨ reportQueueCapacity ≤ s.tasks.length + s.queue.length
  reporter : s.tasks ≠ [] ∨ s.queue ≠ [] → s.reporter.isSome
  tasks : ∀ number task, s.tasks[number]? = some task →
    ∃ context, s.reporter = some context ∧ TaskSound context number task (s.postsOf number)
  posts : ∀ p ∈ s.posts, p.task < s.tasks.length
  work : effort actions + s.work ≤ 8 * (reported actions).length

/-! ## One task -/

section Tasks

variable {context : ReporterContext} {number : ℕ} {task : Task} {posts : List Post}

@[simp] theorem post_task (event : EventRequest) : (post context number event).task = number := rfl

@[simp] theorem post_event (event : EventRequest) : (post context number event).event = event := rfl

theorem attempt_eq {event : EventRequest} (h : task.responses.length < reportAttempts) :
    attempt context number task event =
      (⟨task.queued, some event, task.responses, .sending⟩, [post context number event]) := by
  rw [attempt, if_pos h]

/-- A task that goes on stays sound, and has less to do. -/
structure TurnSound (context : ReporterContext) (number : ℕ) (task : Task) (posts : List Post)
    (next : Task × List Post) : Prop where
  sound : TaskSound context number next.1 (posts ++ next.2)
  queued : next.1.queued = task.queued
  posts : ∀ p ∈ next.2, p.task = number
  work : next.1.work + 1 ≤ task.work
  unjoined : task.phase ≠ .joined

theorem TaskSound.poll {event : EventRequest} (h : TaskSound context number task posts)
    (hphase : task.phase = .spawned) (hevent : BuiltFrom context task.queued event) :
    TurnSound context number task posts (attempt context number task event) := by
  cases h with
  | spawned queued =>
    have hattempts : ([] : List (Option ℕ)).length < reportAttempts := by simp [reportAttempts]
    rw [attempt_eq hattempts]
    refine ⟨?_, rfl, ?_, ?_, ?_⟩
    · exact @TaskSound.sending context number queued event [] hevent (by simp) hattempts
    · simp
    · simp [Task.work]
    · simp
  | settled _ _ _ _ hover =>
    subst hphase
    simp at hover
  | _ => simp at hphase

theorem answered_over {response : Option ℕ}
    (h : settles response = true ∨ task.responses.length + 1 = reportAttempts) :
    task.answered response =
      ⟨task.queued, task.event, task.responses ++ [response], .finished⟩ := by
  rw [Task.answered]
  obtain hsettled | hlast := h
  · rw [if_pos hsettled]
  · rw [if_pos hlast, ite_self]

theorem answered_open {response : Option ℕ}
    (h : ¬ (settles response = true ∨ task.responses.length + 1 = reportAttempts)) :
    task.answered response = ⟨task.queued, task.event, task.responses ++ [response],
      .sleeping (100 * 2 ^ task.responses.length)⟩ := by
  obtain ⟨hopen, hattempts⟩ := not_or.mp h
  rw [Task.answered, if_neg hopen, if_neg hattempts]

theorem TaskSound.respond (h : TaskSound context number task posts) (hphase : task.phase = .sending)
    (response : Option ℕ) : TurnSound context number task posts (task.answered response, []) := by
  cases h with
  | sending hevent hopen hattempts =>
    rename_i queued event responses
    simp only [reportAttempts] at hattempts
    by_cases hlast : settles response = true ∨ responses.length + 1 = reportAttempts
    · rw [answered_over hlast]
      refine ⟨?_, rfl, by simp, ?_, by simp⟩
      · rw [List.append_nil]
        exact .settled hevent hopen hlast hattempts (.inl rfl)
      · simp only [Task.work]
        omega
    · rw [answered_open hlast]
      obtain ⟨hunsettled, hmore⟩ := not_or.mp hlast
      have hall : ∀ r ∈ responses ++ [response], settles r = false := by
        intro r hr
        obtain hold | hnew := List.mem_append.mp hr
        · exact hopen r hold
        · rw [List.mem_singleton.mp hnew]
          simpa using hunsettled
      have hlength : (responses ++ [response]).length = responses.length + 1 := by simp
      refine ⟨?_, rfl, by simp, ?_, by simp⟩
      · rw [List.append_nil, ← hlength]
        refine .sleeping hevent hall hlength ?_
        simp only [reportAttempts] at hmore ⊢
        omega
      · simp only [Task.work, hlength]
        simp only [reportAttempts] at hmore
        omega
  | settled _ _ _ _ hover =>
    subst hphase
    simp at hover
  | _ => simp at hphase

theorem TaskSound.wake {event : EventRequest} {millis : ℕ} (h : TaskSound context number task posts)
    (hphase : task.phase = .sleeping millis) (hevent : task.event = some event) :
    TurnSound context number task posts (attempt context number task event) := by
  cases h with
  | sleeping hbuilt hopen hlength hattempts =>
    cases hevent
    rename_i queued responses attempts
    have hroom : responses.length < reportAttempts := by omega
    rw [attempt_eq hroom]
    refine ⟨?_, rfl, by simp, ?_, by simp⟩
    · rw [← List.replicate_succ']
      exact .sending hbuilt hopen hroom
    · simp only [Task.work]
      simp only [reportAttempts] at hroom
      omega
  | settled _ _ _ _ hover =>
    subst hphase
    simp at hover
  | _ => simp at hphase

theorem TaskSound.join (h : TaskSound context number task posts) (hphase : task.phase = .finished) :
    TurnSound context number task posts ({ task with phase := .joined }, []) := by
  cases h with
  | settled hevent hopen hlast hattempts =>
    subst hphase
    refine ⟨?_, rfl, by simp, by simp [Task.work], by simp⟩
    rw [List.append_nil]
    exact .settled hevent hopen hlast hattempts (.inr rfl)
  | _ => simp at hphase

theorem TaskSound.event_of_mem {p : Post} (h : TaskSound context number task posts)
    (hp : p ∈ posts) : task.event = some p.event := by
  cases h with
  | spawned => simp at hp
  | _ => rw [List.eq_of_mem_replicate hp, post_event]

theorem TaskSound.builtFrom {event : EventRequest} (h : TaskSound context number task posts)
    (hevent : task.event = some event) : BuiltFrom context task.queued event := by
  cases h with
  | spawned => exact absurd hevent (by simp)
  | sending hbuilt =>
    cases hevent
    exact hbuilt
  | sleeping hbuilt =>
    cases hevent
    exact hbuilt
  | settled hbuilt =>
    cases hevent
    exact hbuilt

theorem TaskSound.turn {action : Action} {next : Task × List Post}
    (h : TaskSound context number task posts) (ht : Turn (some context) number task action next) :
    TurnSound context number task posts next := by
  cases ht with
  | poll eventId now hcontext hphase =>
    cases hcontext
    exact h.poll hphase ⟨eventId, now, rfl⟩
  | respond response hphase => exact h.respond hphase response
  | wake hcontext hevent hphase =>
    cases hcontext
    exact h.wake hphase hevent
  | join hphase => exact h.join hphase

end Tasks

/-! ## One step -/

theorem reported_snoc (actions : List Action) (action : Action) :
    reported (actions ++ [action]) = reported actions ++ reported [action] := by
  simp [reported]

theorem effort_snoc (actions : List Action) (action : Action) :
    effort (actions ++ [action]) = effort actions + effort [action] := List.countP_append

theorem Turn.internal {reporter : Option ReporterContext} {number : ℕ} {task : Task}
    {action : Action} {next : Task × List Post} (h : Turn reporter number task action next) :
    effort [action] = 1 ∧ reported [action] = [] := by
  cases h <;> exact ⟨rfl, rfl⟩

section Steps

variable {actions : List Action} {s : State}

/-- Where a draft comes in, it is either queued or dropped. -/
theorem ReporterInv.report (h : ReporterInv actions s) (callbackUrl : Text)
    (queued : QueuedLog) :
    ReporterInv (actions ++ [.report callbackUrl queued]) (queueSimLog s callbackUrl queued) := by
  have hreported : reported (actions ++ [.report callbackUrl queued]) =
      reported actions ++ [queued] := reported_snoc actions _
  have heffort : effort (actions ++ [.report callbackUrl queued]) = effort actions :=
    effort_snoc actions _
  have hreporter : ∀ context, s.reporter = some context →
      some (s.reporter.getD (startReporter s.initialized callbackUrl)) = some context := by
    intro context hcontext
    rw [hcontext, Option.getD_some]
  have htasks : ∀ number task, s.tasks[number]? = some task →
      ∃ context, some (s.reporter.getD (startReporter s.initialized callbackUrl)) = some context ∧
        TaskSound context number task (s.postsOf number) := by
    intro number task htask
    obtain ⟨context, hcontext, hsound⟩ := h.tasks number task htask
    exact ⟨context, hreporter context hcontext, hsound⟩
  have hwork := h.work
  have hcounted := h.counted
  unfold queueSimLog
  dsimp only
  split
  next hroom =>
    refine ⟨?_, h.requests, ?_, ?_, ?_, fun _ => rfl, htasks, h.posts, ?_⟩
    · simp only [List.length_append, List.length_singleton]
      omega
    · rw [hreported, ← List.append_assoc]
      exact h.accepted.append (List.Sublist.refl _)
    · rw [hreported]
      simp only [List.length_append, List.length_singleton]
      omega
    · simp only [List.length_append, List.length_singleton]
      exact h.dropped.imp_right fun hfull => by omega
    · rw [hreported, heffort]
      simp only [State.work, List.length_append, List.length_singleton] at hwork ⊢
      omega
  next hfull =>
    refine ⟨h.queue, h.requests, ?_, ?_, ?_, fun _ => rfl, htasks, h.posts, ?_⟩
    · rw [hreported]
      exact h.accepted.trans (List.sublist_append_left _ _)
    · rw [hreported]
      simp only [List.length_append, List.length_singleton]
      omega
    · exact .inr (by dsimp only; omega)
    · rw [hreported, heffort]
      simp only [State.work, List.length_append, List.length_singleton] at hwork ⊢
      omega

/-- Where the reporter receives a draft, the draft moves from the queue to a task of its own. -/
theorem ReporterInv.receive (h : ReporterInv actions s) {queued : QueuedLog}
    {queue : List QueuedLog} (hqueue : s.queue = queued :: queue)
    (hroom : s.requests.length < reportConcurrency) :
    ReporterInv (actions ++ [.receive]) { s with
      queue := queue
      tasks := s.tasks ++ [⟨queued, none, [], .spawned⟩] } := by
  have hreported : reported (actions ++ [.receive]) = reported actions := by
    rw [reported_snoc]
    exact List.append_nil _
  have hlength : s.queue.length = queue.length + 1 := by rw [hqueue, List.length_cons]
  have hbound := h.queue
  have hcounted := h.counted
  have hwork := h.work
  have hisSome := h.reporter (.inr (by simp [hqueue]))
  refine ⟨?_, ?_, ?_, ?_, ?_, fun _ => hisSome, ?_, ?_, ?_⟩
  · dsimp only
    omega
  · simp only [State.requests, List.filter_append, List.length_append] at hroom ⊢
    exact hroom
  · rw [hreported]
    have haccepted := h.accepted
    rw [hqueue] at haccepted
    simpa using haccepted
  · rw [hreported]
    simp only [List.length_append, List.length_singleton]
    omega
  · simp only [List.length_append, List.length_singleton]
    exact h.dropped.imp_right fun hfull => by omega
  · intro number task htask
    rw [List.getElem?_append] at htask
    split at htask
    next => exact h.tasks number task htask
    next hnumber =>
      obtain ⟨context, hcontext⟩ := Option.isSome_iff_exists.mp hisSome
      have hnone : s.postsOf number = [] := by
        rw [State.postsOf, List.filter_eq_nil_iff]
        intro p hp
        have := h.posts p hp
        simp only [decide_eq_true_eq]
        omega
      obtain rfl := List.mem_singleton.mp (List.mem_of_getElem? htask)
      refine ⟨context, hcontext, ?_⟩
      change TaskSound context number _ (s.postsOf number)
      rw [hnone]
      exact .spawned queued
  · intro p hp
    have := h.posts p hp
    simp only [List.length_append, List.length_singleton]
    omega
  · rw [hreported]
    have heffort : effort (actions ++ [.receive]) = effort actions + 1 := effort_snoc actions _
    have hspawned : (⟨queued, none, [], .spawned⟩ : Task).work = 7 := rfl
    rw [heffort]
    simp only [State.work, List.map_append, List.sum_append, List.map_singleton,
      List.sum_singleton, hspawned] at hwork ⊢
    omega

theorem postsOf_proceed {number : ℕ} {next : Task × List Post}
    (h : ∀ p ∈ next.2, p.task = number) :
    (s.proceed number next).postsOf number = s.postsOf number ++ next.2 := by
  rw [State.postsOf, State.proceed, List.filter_append, State.postsOf]
  congr 1
  exact List.filter_eq_self.mpr fun p hp => by simpa using h p hp

theorem postsOf_proceed_of_ne {number other : ℕ} {next : Task × List Post}
    (h : ∀ p ∈ next.2, p.task = number) (hother : number ≠ other) :
    (s.proceed number next).postsOf other = s.postsOf other := by
  have hnone : (next.2.filter fun p => p.task = other) = [] :=
    List.filter_eq_nil_iff.mpr fun p hp => by simp [h p hp, hother]
  rw [State.postsOf, State.proceed, List.filter_append, hnone, List.append_nil, State.postsOf]

/-- Where a task goes on, the others are left alone. -/
theorem ReporterInv.turn (h : ReporterInv actions s) {number : ℕ} {task : Task}
    {action : Action} {next : Task × List Post} (htask : s.tasks[number]? = some task)
    (hturn : Turn s.reporter number task action next) :
    ReporterInv (actions ++ [action]) (s.proceed number next) := by
  obtain ⟨hone, hnone⟩ := hturn.internal
  obtain ⟨context, hcontext, hsound⟩ := h.tasks number task htask
  rw [hcontext] at hturn
  have hnext := hsound.turn hturn
  have hreported : reported (actions ++ [action]) = reported actions := by
    rw [reported_snoc, hnone, List.append_nil]
  obtain ⟨front, back, htasks, hfront, hset⟩ := exists_split htask next.1
  have hlength : (s.proceed number next).tasks.length = s.tasks.length := List.length_set
  have hne : s.tasks ≠ [] := by simp [htasks]
  refine ⟨h.queue, ?_, ?_, ?_, ?_, fun _ => h.reporter (.inl hne), ?_, ?_, ?_⟩
  · have hrequests := h.requests
    have hunjoined := hnext.unjoined
    rw [State.requests, ← List.countP_eq_length_filter, htasks] at hrequests
    rw [State.requests, ← List.countP_eq_length_filter, State.proceed, hset]
    exact (countP_replace_le (by simpa using hunjoined) _ _ _).trans hrequests
  · have haccepted := h.accepted
    rw [hreported, State.proceed, hset]
    rw [htasks] at haccepted
    simpa [hnext.queued] using haccepted
  · rw [hreported, hlength]
    exact h.counted
  · rw [hlength]
    exact h.dropped
  · intro other task' htask'
    rw [State.proceed] at htask'
    by_cases hother : number = other
    · subst hother
      obtain rfl : next.1 = task' := by
        simpa [List.getElem?_set_self (List.getElem?_eq_some_iff.mp htask).1] using htask'
      rw [postsOf_proceed hnext.posts]
      exact ⟨context, hcontext, hnext.sound⟩
    · rw [List.getElem?_set_ne hother] at htask'
      rw [postsOf_proceed_of_ne hnext.posts hother]
      exact h.tasks other task' htask'
  · intro p hp
    rw [hlength]
    obtain hold | hnew := List.mem_append.mp hp
    · exact h.posts p hold
    · rw [hnext.posts p hnew]
      exact (List.getElem?_eq_some_iff.mp htask).1
  · have hwork := h.work
    have hless := hnext.work
    rw [hreported, effort_snoc, hone]
    simp only [State.work, State.proceed] at hwork ⊢
    rw [htasks] at hwork
    rw [hset]
    simp only [List.map_append, List.map_cons, List.sum_append, List.sum_cons] at hwork ⊢
    omega

end Steps

theorem ReporterInv.next {actions : List Action} {s s' : State} {action : Action}
    (h : ReporterInv actions s) (hstep : step s action = some s') :
    ReporterInv (actions ++ [action]) s' := by
  cases step_change hstep with
  | initializeReporter context hnone =>
    have hreported : reported (actions ++ [.initializeReporter context]) = reported actions := by
      rw [reported_snoc]
      exact List.append_nil _
    have heffort : effort (actions ++ [.initializeReporter context]) = effort actions :=
      effort_snoc actions _
    refine ⟨h.queue, h.requests, ?_, ?_, h.dropped, h.reporter, h.tasks, h.posts, ?_⟩
    · rw [hreported]
      exact h.accepted
    · rw [hreported]
      exact h.counted
    · rw [hreported, heffort]
      exact h.work
  | report callbackUrl queued => exact h.report callbackUrl queued
  | receive hqueue hroom => exact h.receive hqueue hroom
  | turn htask hturn => exact h.turn htask hturn

theorem reporterInv_start : ReporterInv [] State.start := by
  refine ⟨?_, ?_, ?_, ?_, .inl rfl, ?_, ?_, ?_, ?_⟩ <;>
    simp [State.start, State.requests, State.work,
    reported, effort]

theorem run_reporterInv {actions : List Action} {s : State}
    (h : run step State.start actions = some s) : ReporterInv actions s := by
  have hrun : ReporterInv ([] ++ actions) s :=
    run_keeps (fun _ _ _ _ hinv hstep => hinv.next hstep) reporterInv_start h
  rwa [List.nil_append] at hrun

/-- What the reporter has done with the drafts: its queue and its requests are bounded, no draft
it accepted is lost, repeated or overtaken, it only drops one while its queue is full, and every
task keeps to its attempts. -/
structure ReporterSafe (actions : List Action) (s : State) : Prop where
  queue : s.queue.length ≤ reportQueueCapacity
  requests : s.requests.length ≤ reportConcurrency
  accepted : (s.tasks.map Task.queued ++ s.queue).Sublist (reported actions)
  counted : s.tasks.length + s.queue.length + s.dropped = (reported actions).length
  dropped : s.dropped = 0 ∨ reportQueueCapacity ≤ s.tasks.length + s.queue.length
  tasks : ∀ number task, s.tasks[number]? = some task →
    ∃ context, s.reporter = some context ∧ TaskSound context number task (s.postsOf number)
  posts : ∀ p ∈ s.posts, ∃ task ∈ s.tasks, task.event = some p.event

/-- Whatever the simulations report and however the requests are answered: the queue and the open
requests stay bounded; the drafts are taken off in the order they came, none is lost or taken
twice, and one is dropped only while a thousand others wait; and every draft is sent as one event,
three times at most and never again once an answer settled it. -/
theorem run_reporterSafe (actions : List Action) (s : State)
    (h : run step State.start actions = some s) : ReporterSafe actions s := by
  have hinv := run_reporterInv h
  refine ⟨hinv.queue, hinv.requests, hinv.accepted, hinv.counted, hinv.dropped, hinv.tasks, ?_⟩
  intro p hp
  have hlt := hinv.posts p hp
  obtain ⟨context, _, hsound⟩ := hinv.tasks _ _ (List.getElem?_eq_getElem hlt)
  have hmem : p ∈ s.postsOf p.task := List.mem_filter.mpr ⟨hp, by simp⟩
  exact ⟨_, List.getElem_mem hlt, hsound.event_of_mem hmem⟩

def noopQueued : QueuedLog where
  draft := ⟨"smtp-default", "sim-1", "198.51.100.7", 40312, 25, "smtp_command",
    "SMTP command: NOOP",
    none⟩
  endpointId := none

/-- The UUID 019ff3b6-bb91-7f40-8ee8-fb46a1234568. -/
def retriedEventId : UuidV7 where
  digits := hexDigits [0, 1, 9, 15, 15, 3, 11, 6, 11, 11, 9, 1, 7, 15, 4, 0, 8, 14, 14, 8,
    15, 11, 4, 6, 10, 1, 2, 3, 4, 5, 6, 8]
  length_eq := rfl
  version := rfl
  variant := ⟨8, rfl, by decide⟩

/-- A draft whose first request fails, and whose second is answered. -/
def retriedOnce : List Action :=
  [.initializeReporter ⟨"http://192.0.2.1/internal/events", "token", "sim-1",
      [⟨"main", .tcp, 40025, 25⟩]⟩,
    .report "http://192.0.2.1/internal/events" noopQueued, .receive,
    .poll 0 retriedEventId "2026-08-01T00:00:00+00:00", .respond 0 none, .wake 0,
    .respond 0 (some 201), .join 0]

theorem retriedOnce_safe :
    ∃ s, run step State.start retriedOnce = some s ∧ ReporterSafe retriedOnce s :=
  ⟨_, rfl, run_reporterSafe _ _ rfl⟩

/-! ## The reporter comes to rest -/

/-- Nothing is queued, and every task is over and joined. -/
def State.idle (s : State) : Prop := s.queue = [] ∧ ∀ task ∈ s.tasks, task.phase = .joined

/-- A step that waits for no answer. -/
def Action.isOwn : Action → Bool
  | .respond _ _ => false
  | action => action.isInternal

/-- A task that has sent its event until an answer settled it, or as often as it may. -/
def Tried (task : Task) : Prop :=
  ∃ event responses last, task.event = some event ∧ task.responses = responses ++ [last] ∧
    (∀ r ∈ responses, settles r = false) ∧
    (settles last = true ∨ task.responses.length = reportAttempts)

/-- The reporter never comes to a stop with work to do, its work ends, and at the end every draft
it accepted was tried. -/
structure ReporterLive (actions : List Action) (s : State) : Prop where
  moves : s.idle ∨ (∃ task ∈ s.tasks, task.phase = .sending) ∨
    ∃ action, action.isOwn = true ∧ (step s action).isSome
  ends : ∀ more s', run step s more = some s' → (∀ action ∈ more, action.isInternal = true) →
    more.length + s'.work ≤ 8 * (reported actions).length
  tried : s.idle → ∀ task ∈ s.tasks, Tried task

theorem effort_of_internal {actions : List Action}
    (h : ∀ action ∈ actions, action.isInternal = true) : effort actions = actions.length :=
  List.countP_eq_length.mpr h

theorem reported_of_internal {actions : List Action}
    (h : ∀ action ∈ actions, action.isInternal = true) : reported actions = [] := by
  rw [reported, List.filterMap_eq_nil_iff]
  intro action hmem
  cases action with
  | report callbackUrl queued => exact absurd (h _ hmem) (by simp [Action.isInternal])
  | _ => rfl

/-- A task that is not joined waits for an answer, or can go on by itself. -/
theorem TaskSound.moves {context : ReporterContext} {number : ℕ} {task : Task} {posts : List Post}
    {s : State} (h : TaskSound context number task posts) (hcontext : s.reporter = some context)
    (htask : s.tasks[number]? = some task) (hopen : task.phase ≠ .joined) :
    task.phase = .sending ∨ ∃ action, action.isOwn = true ∧ (step s action).isSome := by
  cases h with
  | spawned queued =>
    refine .inr ⟨.poll number retriedEventId [], rfl, ?_⟩
    simp [Reporter.step, hcontext, htask]
  | sending => exact .inl rfl
  | sleeping =>
    refine .inr ⟨.wake number, rfl, ?_⟩
    simp [Reporter.step, hcontext, htask]
  | settled _ _ _ _ hover =>
    obtain rfl | rfl := hover
    · refine .inr ⟨.join number, rfl, ?_⟩
      simp [Reporter.step, htask]
    · exact absurd rfl hopen

theorem TaskSound.tried {context : ReporterContext} {number : ℕ} {task : Task} {posts : List Post}
    (h : TaskSound context number task posts) (hphase : task.phase = .joined) : Tried task := by
  cases h with
  | settled hevent hopen hlast =>
    refine ⟨_, _, _, rfl, rfl, hopen, ?_⟩
    rw [List.length_append, List.length_singleton]
    exact hlast
  | _ => simp at hphase

theorem ReporterInv.moves {actions : List Action} {s : State} (h : ReporterInv actions s) :
    s.idle ∨ (∃ task ∈ s.tasks, task.phase = .sending) ∨
      ∃ action, action.isOwn = true ∧ (step s action).isSome := by
  by_cases hjoined : ∀ task ∈ s.tasks, task.phase = .joined
  · cases hqueue : s.queue with
    | nil => exact .inl ⟨hqueue, hjoined⟩
    | cons queued queue =>
      have hnone : s.requests = [] := by
        rw [State.requests, List.filter_eq_nil_iff]
        intro task htask
        simp [hjoined task htask]
      refine .inr (.inr ⟨.receive, rfl, ?_⟩)
      simp [Reporter.step, hqueue, hnone, reportConcurrency]
  · push Not at hjoined
    obtain ⟨task, hmem, hopen⟩ := hjoined
    obtain ⟨number, htask⟩ := List.mem_iff_getElem?.mp hmem
    obtain ⟨context, hcontext, hsound⟩ := h.tasks number task htask
    exact .inr ((hsound.moves hcontext htask hopen).imp_left fun hphase => ⟨task, hmem, hphase⟩)

/-- Whatever the schedule: while something is queued or open, a step can be taken unless only
answers are awaited; eight steps for each draft at most are ever taken; and when all is done, every
accepted draft was sent until an answer settled it, or three times. -/
theorem run_reporterLive (actions : List Action) (s : State)
    (h : run step State.start actions = some s) : ReporterLive actions s := by
  have hinv := run_reporterInv h
  refine ⟨hinv.moves, ?_, ?_⟩
  · intro more s' hmore hinternal
    have hafter := run_keeps (fun _ _ _ _ hinv hstep => hinv.next hstep) hinv hmore
    have hwork := hafter.work
    rw [effort, List.countP_append, reported, List.filterMap_append] at hwork
    change effort actions + effort more + s'.work ≤
      8 * (reported actions ++ reported more).length at hwork
    rw [effort_of_internal hinternal, reported_of_internal hinternal, List.append_nil] at hwork
    omega
  · intro hidle task hmem
    obtain ⟨number, htask⟩ := List.mem_iff_getElem?.mp hmem
    obtain ⟨_, _, hsound⟩ := hinv.tasks number task htask
    exact hsound.tried (hidle.2 task hmem)

theorem retriedOnce_live :
    ∃ s, run step State.start retriedOnce = some s ∧ s.idle ∧ ReporterLive retriedOnce s :=
  ⟨_, rfl, ⟨rfl, List.forall_mem_singleton.mpr rfl⟩, run_reporterLive _ _ rfl⟩

end ProtocolSimulation.Reporter
