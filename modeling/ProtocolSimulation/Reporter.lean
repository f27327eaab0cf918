import ProtocolSimulation.Machines
import ProtocolSimulation.RuntimeEvents

/-!
# The reporter of the engine

Every simulation hands its drafts to one bounded queue. A single task takes them
off again and has at most four requests to the API open at a time. When a request
is answered, which of them goes on next and when a new draft comes in is up to the
schedule. The sender of the queue is static, so the queue is never closed.
-/
namespace ProtocolSimulation.Reporter

open ProtocolSimulation.Texts ProtocolSimulation.Storage ProtocolSimulation.Api
open ProtocolSimulation.Identifiers ProtocolSimulation.RuntimeEvents ProtocolSimulation.Machines

def reportQueueCapacity : ℕ := 1024

def reportConcurrency : ℕ := 4

def reportAttempts : ℕ := 3

/-! ## The tasks -/

/-- Where a task is left: not polled yet, at its request, at its pause, or over. A task that is
over stays in the set of the reporter until it is joined. -/
inductive Phase where
  | spawned
  | sending
  | sleeping (millis : ℕ)
  | finished
  | joined
  deriving DecidableEq

/-- A task with its event once it has built one, and the answers its requests were given: the
status, or nothing where the request failed. -/
structure Task where
  queued : QueuedLog
  event : Option EventRequest
  responses : List (Option ℕ)
  phase : Phase

/-- A request that a task sent. -/
structure Post where
  task : ℕ
  url : Text
  authorization : Option Text
  event : EventRequest

def isSuccess (status : ℕ) : Bool := 200 ≤ status && status < 300

def isClientError (status : ℕ) : Bool := 400 ≤ status && status < 500

/-- The answers after which a task does not try again. -/
def settles : Option ℕ → Bool
  | some status => isSuccess status || isClientError status
  | none => false

def post (context : ReporterContext) (number : ℕ) (event : EventRequest) : Post where
  task := number
  url := context.callbackUrl
  authorization :=
    if context.callbackToken.isEmpty then none
    else some ("Bearer ".toList ++ context.callbackToken)
  event := event

/-- The head of the loop over the attempts. -/
def attempt (context : ReporterContext) (number : ℕ) (task : Task) (event : EventRequest) :
    Task × List Post :=
  if task.responses.length < reportAttempts then
    ({ task with
      event := some event
      phase := .sending }, [post context number event])
  else
    ({ task with
      event := some event
      phase := .finished }, [])

/-- What a task does with an answer. -/
def Task.answered (task : Task) (response : Option ℕ) : Task where
  queued := task.queued
  event := task.event
  responses := task.responses ++ [response]
  phase :=
    if settles response then .finished
    else if task.responses.length + 1 = reportAttempts then .finished
    else .sleeping (100 * 2 ^ task.responses.length)

/-! ## The reporter -/

/-- The statics of the engine, the queue, every task ever spawned, and the requests they sent. -/
structure State where
  initialized : Option ReporterContext
  reporter : Option ReporterContext
  queue : List QueuedLog
  tasks : List Task
  posts : List Post
  dropped : ℕ

def State.start : State where
  initialized := none
  reporter := none
  queue := []
  tasks := []
  posts := []
  dropped := 0

/-- What happens to the reporter. A task is told its number, the identifier and the time its
event gets, or the answer to its request. -/
inductive Action where
  | initializeReporter (context : ReporterContext)
  | report (callbackUrl : Text) (queued : QueuedLog)
  | receive
  | poll (number : ℕ) (eventId : UuidV7) (now : Text)
  | respond (number : ℕ) (response : Option ℕ)
  | wake (number : ℕ)
  | join (number : ℕ)

/-- The tasks in the set of the reporter. -/
def State.requests (s : State) : List Task := s.tasks.filter fun task => task.phase ≠ .joined

/-- The context `start_reporter` gives to the reporter. -/
def startReporter (initialized : Option ReporterContext) (callbackUrl : Text) : ReporterContext :=
  initialized.getD ⟨callbackUrl, [], "unknown", []⟩

def queueSimLog (s : State) (callbackUrl : Text) (queued : QueuedLog) : State :=
  let s := { s with reporter := some (s.reporter.getD (startReporter s.initialized callbackUrl)) }
  if s.queue.length < reportQueueCapacity then { s with queue := s.queue ++ [queued] }
  else { s with dropped := s.dropped + 1 }

/-- A task goes on and sends what it sends. -/
def State.proceed (s : State) (number : ℕ) (next : Task × List Post) : State where
  initialized := s.initialized
  reporter := s.reporter
  queue := s.queue
  tasks := s.tasks.set number next.1
  posts := s.posts ++ next.2
  dropped := s.dropped

def step (s : State) : Action → Option State
  | .initializeReporter context =>
    if s.initialized.isNone then some { s with initialized := some context } else none
  | .report callbackUrl queued => some (queueSimLog s callbackUrl queued)
  | .receive =>
    match s.queue with
    | queued :: queue =>
      if s.requests.length < reportConcurrency then
        some { s with
          queue := queue
          tasks := s.tasks ++ [⟨queued, none, [], .spawned⟩] }
      else none
    | [] => none
  | .poll number eventId now =>
    match s.reporter, s.tasks[number]? with
    | some context, some task =>
      if task.phase = .spawned then
        some (s.proceed number (attempt context number task
          (reportedEvent context eventId now task.queued)))
      else none
    | _, _ => none
  | .respond number response =>
    match s.tasks[number]? with
    | some task =>
      if task.phase = .sending then some (s.proceed number (task.answered response, [])) else none
    | none => none
  | .wake number =>
    match s.reporter, s.tasks[number]? with
    | some context, some task =>
      match task.event, task.phase with
      | some event, .sleeping _ => some (s.proceed number (attempt context number task event))
      | _, _ => none
    | _, _ => none
  | .join number =>
    match s.tasks[number]? with
    | some task =>
      if task.phase = .finished then
        some (s.proceed number ({ task with phase := .joined }, []))
      else none
    | none => none

/-- The drafts handed to the reporter, in the order in which they were. -/
def reported (actions : List Action) : List QueuedLog :=
  actions.filterMap fun
    | .report _ queued => some queued
    | _ => none

/-- Is this a step of the reporter and its tasks, and no call of a simulation? -/
def Action.isInternal : Action → Bool
  | .initializeReporter _ => false
  | .report _ _ => false
  | _ => true

/-- How many of the steps were steps of the reporter and its tasks. -/
def effort (actions : List Action) : ℕ := actions.countP Action.isInternal

/-! ## What a step does -/

/-- What a task does when it goes on. -/
inductive Turn (reporter : Option ReporterContext) (number : ℕ) (task : Task) :
    Action → Task × List Post → Prop where
  | poll {context : ReporterContext} (eventId : UuidV7) (now : Text)
    (hcontext : reporter = some context) (hphase : task.phase = .spawned) :
    Turn reporter number task (.poll number eventId now)
      (attempt context number task (reportedEvent context eventId now task.queued))
  | respond (response : Option ℕ) (hphase : task.phase = .sending) :
    Turn reporter number task (.respond number response) (task.answered response, [])
  | wake {context : ReporterContext} {event : EventRequest} {millis : ℕ}
    (hcontext : reporter = some context) (hevent : task.event = some event)
    (hphase : task.phase = .sleeping millis) :
    Turn reporter number task (.wake number) (attempt context number task event)
  | join (hphase : task.phase = .finished) :
    Turn reporter number task (.join number) ({ task with phase := .joined }, [])

/-- What the steps of the reporter do. -/
inductive Change (s : State) : Action → State → Prop where
  | initializeReporter (context : ReporterContext) (h : s.initialized = none) :
    Change s (.initializeReporter context) { s with initialized := some context }
  | report (callbackUrl : Text) (queued : QueuedLog) :
    Change s (.report callbackUrl queued) (queueSimLog s callbackUrl queued)
  | receive {queued : QueuedLog} {queue : List QueuedLog} (hqueue : s.queue = queued :: queue)
    (hroom : s.requests.length < reportConcurrency) :
    Change s .receive { s with
      queue := queue
      tasks := s.tasks ++ [⟨queued, none, [], .spawned⟩] }
  | turn {number : ℕ} {task : Task} {action : Action} {next : Task × List Post}
    (htask : s.tasks[number]? = some task) (hturn : Turn s.reporter number task action next) :
    Change s action (s.proceed number next)

theorem step_change {s s' : State} {action : Action} (h : step s action = some s') :
    Change s action s' := by
  cases action with
  | initializeReporter context =>
    rw [step] at h
    split at h
    next hnone =>
      cases h
      exact .initializeReporter context (Option.isNone_iff_eq_none.mp hnone)
    next => cases h
  | report callbackUrl queued =>
    cases h
    exact .report callbackUrl queued
  | receive =>
    rw [step] at h
    split at h
    next queued queue hqueue =>
      split at h
      next hroom =>
        cases h
        exact .receive hqueue hroom
      next => cases h
    next => cases h
  | poll number eventId now =>
    rw [step] at h
    split at h
    next context task hcontext htask =>
      split at h
      next hphase =>
        cases h
        exact .turn htask (.poll eventId now hcontext hphase)
      next => cases h
    next => cases h
  | respond number response =>
    rw [step] at h
    split at h
    next task htask =>
      split at h
      next hphase =>
        cases h
        exact .turn htask (.respond response hphase)
      next => cases h
    next => cases h
  | wake number =>
    rw [step] at h
    split at h
    next context task hcontext htask =>
      split at h
      next event millis hevent hphase =>
        cases h
        exact .turn htask (.wake hcontext hevent hphase)
      next => cases h
    next => cases h
  | join number =>
    rw [step] at h
    split at h
    next task htask =>
      split at h
      next hphase =>
        cases h
        exact .turn htask (.join hphase)
      next => cases h
    next => cases h

end ProtocolSimulation.Reporter
