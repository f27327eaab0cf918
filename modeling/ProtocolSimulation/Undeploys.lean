import ProtocolSimulation.ConcurrentMapRuns
import ProtocolSimulation.Machines
import ProtocolSimulation.Texts

/-!
# Undeploying from the page of the instances

An instance is undeployed alone, or with all that are selected, after a question to
the user. While requests are under way the user goes on, the list is loaded again,
and answers come in any order. Only the identifiers of the instances matter here.
-/
namespace ProtocolSimulation.Undeploys

open ProtocolSimulation.Texts ProtocolSimulation.Machines
open ProtocolSimulation.SimulationView (Worker mapWithConcurrency BATCH_UNDEPLOY_CONCURRENCY)

/-- What the dialog asks the user about. -/
inductive Question where
  | undeploy (id : Text)
  | batchUndeploy

/-- What the user is told, with the numbers in it. -/
inductive Notice where
  | undeploySuccess (id : Text)
  | undeployFailed (id : Text)
  | undeployError (id : Text)
  | batchUndeploySuccess (count : ℕ)
  | batchUndeployPartial (successCount failCount : ℕ)
  | batchUndeployFailed (count : ℕ)
  | batchUndeployError

/-- The variables of `handleBatchUndeploy` while it waits for the calls of its mapper, each of
which comes to an identifier and whether it was undeployed. -/
structure Batch where
  targetIds : List Text
  map : SimulationView.State Text (Text × Bool)

/-- The state of the page, the requests for the list that are under way, the identifiers that
`handleUndeploy` waits for, and the batch. -/
structure View where
  instances : List Text
  selectedInstanceIds : List Text
  undeployingInstanceIds : List Text
  isBatchUndeploying : Bool
  confirmation : Option Question
  loads : ℕ
  undeploys : List Text
  batch : Option Batch
  notices : List Notice

def View.start : View where
  instances := []
  selectedInstanceIds := []
  undeployingInstanceIds := []
  isBatchUndeploying := false
  confirmation := none
  loads := 0
  undeploys := []
  batch := none
  notices := []

/-- The identifiers in a list of instances: the key of their table. -/
abbrev DistinctIds := { ids : List Text // ids.Nodup }

/-- What the user does, what is answered, and which waiting function goes on. An answer says
whether the request succeeded; none if it broke off. -/
inductive Action where
  | select (id : Text) (checked : Bool)
  | selectAll (checked : Bool)
  | load
  | loaded (answer : Option DistinctIds)
  | undeploy (id : Text)
  | batchUndeploy
  | confirm (confirmed : Bool)
  | respond (i : ℕ) (answer : Option Bool)
  | respondBatch (worker : ℕ) (answer : Option Bool)
  | work (action : SimulationView.Action (Text × Bool))
  | conclude

/-! ## The functions of the page -/

def addId (next : List Text) (id : Text) : List Text :=
  if next.contains id then next else next ++ [id]

def setInstancesUndeploying (undeployingInstanceIds instanceIds : List Text)
    (undeploying : Bool) : List Text :=
  let next := undeployingInstanceIds.foldl addId []
  if undeploying then instanceIds.foldl addId next
  else instanceIds.foldl (fun next id => next.filter fun other => other ≠ id) next

def View.isUndeploying (s : View) (id : Text) : Bool := s.undeployingInstanceIds.contains id

def View.without (s : View) (id : Text) : View :=
  { s with
    instances := s.instances.filter fun other => other ≠ id
    selectedInstanceIds := s.selectedInstanceIds.filter fun other => other ≠ id }

def handleSelectAll (s : View) (checked : Bool) : View :=
  { s with selectedInstanceIds := if checked then s.instances else [] }

def handleSelectChange (s : View) (id : Text) (checked : Bool) : View :=
  { s with selectedInstanceIds :=
      if checked then addId s.selectedInstanceIds id
      else s.selectedInstanceIds.filter fun other => other ≠ id }

/-- `handleUndeploy` up to its question, which replaces one that is still open. -/
def handleUndeploy (s : View) (id : Text) : View :=
  if s.isUndeploying id || s.isBatchUndeploying then s
  else { s with confirmation := some (.undeploy id) }

/-- `handleUndeploy` from the user's consent to its request. -/
def sendUndeploy (s : View) (id : Text) : View :=
  if s.isUndeploying id || s.isBatchUndeploying then s
  else { s with
    undeployingInstanceIds := setInstancesUndeploying s.undeployingInstanceIds [id] true
    undeploys := s.undeploys ++ [id] }

/-- What the answer to its request changes. -/
def undeployed (s : View) (id : Text) : Option Bool → View
  | some true => { s.without id with notices := s.notices ++ [.undeploySuccess id] }
  | some false => { s with notices := s.notices ++ [.undeployFailed id] }
  | none => { s with notices := s.notices ++ [.undeployError id] }

/-- `handleUndeploy` from the answer to its end. -/
def finishUndeploy (s : View) (i : ℕ) (id : Text) (answer : Option Bool) : View :=
  let s := undeployed s id answer
  { s with
    undeployingInstanceIds := setInstancesUndeploying s.undeployingInstanceIds [id] false
    undeploys := s.undeploys.eraseIdx i }

/-- `handleBatchUndeploy` up to its question. -/
def handleBatchUndeploy (s : View) : View :=
  if s.selectedInstanceIds.isEmpty || s.isBatchUndeploying ||
      !s.undeployingInstanceIds.isEmpty then s
  else { s with confirmation := some .batchUndeploy }

/-- `handleBatchUndeploy` from the user's consent to the start of its workers. -/
def startBatch (s : View) : View :=
  if s.isBatchUndeploying || !s.undeployingInstanceIds.isEmpty then s
  else { s with
    isBatchUndeploying := true
    undeployingInstanceIds :=
      setInstancesUndeploying s.undeployingInstanceIds s.selectedInstanceIds true
    batch := some ⟨s.selectedInstanceIds,
      mapWithConcurrency s.selectedInstanceIds BATCH_UNDEPLOY_CONCURRENCY⟩ }

/-- The mapper of the batch from an answer to its end. -/
def finishCall (s : View) (id : Text) (success : Bool) : View :=
  let s := if success then s.without id else s
  { s with undeployingInstanceIds := setInstancesUndeploying s.undeployingInstanceIds [id] false }

/-- What the user is told at the end of a batch. -/
def batchNotice (successCount failCount : ℕ) : Notice :=
  if failCount = 0 then .batchUndeploySuccess successCount
  else if 0 < successCount then .batchUndeployPartial successCount failCount
  else .batchUndeployFailed failCount

/-- What the results of its calls change. -/
def summarized (s : View) (results : List (Text × Bool)) : View :=
  let failed := results.filter fun result => !result.2
  { s with
    notices := s.notices ++ [batchNotice (results.length - failed.length) failed.length]
    selectedInstanceIds := failed.map Prod.fst }

/-- `handleBatchUndeploy` from the results of its calls to its end. A result that is missing is an
error. -/
def concludeBatch (s : View) (targetIds : List Text) (results : List (Option (Text × Bool))) :
    View :=
  let s := match results.mapM id with
    | some results => summarized s results
    | none => { s with notices := s.notices ++ [Notice.batchUndeployError] }
  { s with
    undeployingInstanceIds := setInstancesUndeploying s.undeployingInstanceIds targetIds false
    isBatchUndeploying := false
    batch := none }

/-! ## Steps -/

def step (s : View) : Action → Option View
  | .select id checked => some (handleSelectChange s id checked)
  | .selectAll checked => some (handleSelectAll s checked)
  | .load => some { s with selectedInstanceIds := [], loads := s.loads + 1 }
  | .loaded answer =>
    if 0 < s.loads then
      some { s with
        loads := s.loads - 1
        instances := (answer.map Subtype.val).getD s.instances }
    else none
  | .undeploy id => some (handleUndeploy s id)
  | .batchUndeploy => some (handleBatchUndeploy s)
  | .confirm confirmed =>
    s.confirmation.map fun question =>
      let s := { s with confirmation := none }
      if confirmed then
        match question with
        | .undeploy id => sendUndeploy s id
        | .batchUndeploy => startBatch s
      else s
  | .respond i answer => s.undeploys[i]?.map fun id => finishUndeploy s i id answer
  | .respondBatch worker answer =>
    s.batch.bind fun batch =>
      match batch.map.workers[worker]? with
      | some (.awaiting index _) =>
        batch.targetIds[index]?.bind fun id =>
          (SimulationView.step batch.targetIds batch.map
            (.settle worker (id, answer.getD false))).map fun map =>
              finishCall { s with batch := some { batch with map := map } } id (answer.getD false)
      | _ => none
  | .work action =>
    s.batch.bind fun batch =>
      match action with
      | .settle _ _ => none
      | action => (SimulationView.step batch.targetIds batch.map action).map fun map =>
          { s with batch := some { batch with map := map } }
  | .conclude =>
    s.batch.bind fun batch => batch.map.resolved.map fun results =>
      concludeBatch s batch.targetIds results

/-! ## Lists of identifiers -/

theorem mem_addId {next : List Text} {id other : Text} :
    other ∈ addId next id ↔ other ∈ next ∨ other = id := by
  rw [addId]
  split
  next h =>
    have hmem : id ∈ next := by simpa using h
    constructor
    · exact Or.inl
    · intro hother
      obtain hother | rfl := hother
      · exact hother
      · exact hmem
  next => simp

theorem mem_foldl_addId {next ids : List Text} {other : Text} :
    other ∈ ids.foldl addId next ↔ other ∈ next ∨ other ∈ ids := by
  induction ids generalizing next with
  | nil => simp
  | cons id ids ih => rw [List.foldl_cons, ih, mem_addId, List.mem_cons, or_assoc]

theorem nodup_addId {next : List Text} (h : next.Nodup) (id : Text) : (addId next id).Nodup := by
  rw [addId]
  split
  next => exact h
  next hnot =>
    rw [List.nodup_append]
    refine ⟨h, List.nodup_singleton id, ?_⟩
    intro a ha b hb
    rintro rfl
    rw [List.mem_singleton.mp hb] at ha
    simp [ha] at hnot

@[simp] theorem mem_setInstancesUndeploying_true {marks ids : List Text} {id : Text} :
    id ∈ setInstancesUndeploying marks ids true ↔ id ∈ marks ∨ id ∈ ids := by
  simp [setInstancesUndeploying, mem_foldl_addId]

theorem mem_foldl_filter {next ids : List Text} {other : Text} :
    other ∈ ids.foldl (fun next id => next.filter fun other => other ≠ id) next ↔
      other ∈ next ∧ other ∉ ids := by
  induction ids generalizing next with
  | nil => simp
  | cons id ids ih =>
    rw [List.foldl_cons, ih, List.mem_filter, List.mem_cons, not_or, and_assoc]
    simp

@[simp] theorem mem_setInstancesUndeploying_false {marks ids : List Text} {id : Text} :
    id ∈ setInstancesUndeploying marks ids false ↔ id ∈ marks ∧ id ∉ ids := by
  rw [setInstancesUndeploying]
  simp only [Bool.false_eq_true, if_false]
  rw [mem_foldl_filter, mem_foldl_addId]
  simp

/-! ## The calls of a batch -/

/-- The identifier is one of a call that is not answered, or not yet made. -/
def Batch.Waits (b : Batch) (id : Text) : Prop :=
  ∃ i, b.targetIds[i]? = some id ∧ b.map.answer i = none

/-- The identifiers are distinct, the workers have come where they are, and each call came to the
identifier it was made with. -/
structure Batch.Sound (b : Batch) : Prop where
  distinct : b.targetIds.Nodup
  reached : ∃ actions, SimulationView.run b.targetIds
    (mapWithConcurrency b.targetIds BATCH_UNDEPLOY_CONCURRENCY) actions = some b.map
  answered : ∀ i result, (i, result) ∈ b.map.completed → b.targetIds[i]? = some result.1

theorem Batch.Sound.consistent {b : Batch} (h : b.Sound) :
    SimulationView.Consistent b.targetIds b.map := by
  obtain ⟨actions, hrun⟩ := h.reached
  exact SimulationView.run_consistent hrun

theorem run_concat {T R : Type} {items : List T} {s t u : SimulationView.State T R}
    {actions : List (SimulationView.Action R)} {action : SimulationView.Action R}
    (hrun : SimulationView.run items s actions = some t)
    (hstep : SimulationView.step items t action = some u) :
    SimulationView.run items s (actions ++ [action]) = some u := by
  induction actions generalizing s with
  | nil =>
    cases hrun
    simp [SimulationView.run, hstep]
  | cons first actions ih =>
    obtain ⟨next, hfirst, hrest⟩ := Option.bind_eq_some_iff.mp hrun
    rw [List.cons_append, SimulationView.run, hfirst]
    exact ih hrest

theorem completed_advance {T R : Type} (items : List T) (s : SimulationView.State T R) :
    (SimulationView.advance items s).1.completed = s.completed := by
  unfold SimulationView.advance
  cases items[s.cursor]? <;> rfl

/-- Only an answer is one. -/
theorem completed_step {T R : Type} {items : List T} {s s' : SimulationView.State T R}
    {action : SimulationView.Action R} (hother : ∀ worker result, action ≠ .settle worker result)
    (h : SimulationView.step items s action = some s') : s'.completed = s.completed := by
  cases action with
  | start =>
    simp only [SimulationView.step] at h
    split at h
    next =>
      cases h
      exact completed_advance items _
    next => cases h
  | settle worker result => exact absurd rfl (hother worker result)
  | resume worker =>
    simp only [SimulationView.step] at h
    split at h
    next =>
      split at h
      next =>
        cases h
        exact completed_advance items _
      next => cases h
    next => cases h
  | finish =>
    simp only [SimulationView.step] at h
    split at h
    next =>
      cases h
      rfl
    next => cases h

/-- A worker goes on, and no call is answered. -/
theorem Batch.Sound.work {b : Batch} (h : b.Sound) {map : SimulationView.State Text (Text × Bool)}
    {action : SimulationView.Action (Text × Bool)}
    (hother : ∀ worker result, action ≠ .settle worker result)
    (hstep : SimulationView.step b.targetIds b.map action = some map) :
    Batch.Sound { b with map := map } ∧
      ∀ id, Batch.Waits { b with map := map } id ↔ b.Waits id := by
  have hcompleted := completed_step hother hstep
  obtain ⟨actions, hrun⟩ := h.reached
  refine ⟨⟨h.distinct, ⟨_, run_concat hrun hstep⟩, ?_⟩, ?_⟩
  · rw [hcompleted]
    exact h.answered
  · intro id
    simp only [Batch.Waits, SimulationView.State.answer, hcompleted]

/-- The answer to a call is that of its identifier alone. -/
theorem Batch.Sound.respond {b : Batch} (h : b.Sound)
    {map : SimulationView.State Text (Text × Bool)} {worker index call : ℕ} {id : Text}
    {success : Bool} (hworker : b.map.workers[worker]? = some (.awaiting index call))
    (hid : b.targetIds[index]? = some id)
    (hstep : SimulationView.step b.targetIds b.map (.settle worker (id, success)) = some map) :
    Batch.Sound { b with map := map } ∧ b.Waits id ∧
      ∀ other, Batch.Waits { b with map := map } other ↔ b.Waits other ∧ other ≠ id := by
  have hconsistent := h.consistent
  have hmem := List.mem_of_getElem? hworker
  obtain rfl := hconsistent.numbered _ _ hmem
  have hopen := hconsistent.answer_awaited hmem
  have hcompleted : map.completed = b.map.completed ++ [(index, (id, success))] := by
    simp only [SimulationView.step, hworker, Option.some.injEq] at hstep
    rw [← hstep]
  obtain ⟨actions, hrun⟩ := h.reached
  refine ⟨⟨h.distinct, ⟨_, run_concat hrun hstep⟩, ?_⟩, ⟨index, hid, hopen⟩, ?_⟩
  · intro i result hresult
    rw [hcompleted, List.mem_append, List.mem_singleton, Prod.mk.injEq] at hresult
    obtain hresult | ⟨rfl, rfl⟩ := hresult
    · exact h.answered i result hresult
    · exact hid
  · intro other
    have hsame {i : ℕ} (hi : b.targetIds[i]? = some id) : i = index := by
      obtain ⟨hlt, hget⟩ := List.getElem?_eq_some_iff.mp hi
      obtain ⟨hlt', hget'⟩ := List.getElem?_eq_some_iff.mp hid
      exact (h.distinct.getElem_inj_iff).mp (hget.trans hget'.symm)
    simp only [Batch.Waits, SimulationView.State.answer, hcompleted, List.lookup_append,
      Option.or_eq_none_iff]
    constructor
    · intro hwaits
      obtain ⟨i, hi, hanswer, hlast⟩ := hwaits
      refine ⟨⟨i, hi, hanswer⟩, ?_⟩
      rintro rfl
      simp [hsame hi] at hlast
    · intro hwaits
      obtain ⟨⟨i, hi, hanswer⟩, hne⟩ := hwaits
      refine ⟨i, hi, hanswer, ?_⟩
      have hindex : i ≠ index := by
        rintro rfl
        exact hne (Option.some.inj (hi.symm.trans hid))
      simp [List.lookup_cons, beq_eq_false_iff_ne.mpr hindex]

/-- The batch ends when each of its calls was made. -/
theorem Batch.Sound.cursor_eq {b : Batch} (h : b.Sound) {results : List (Option (Text × Bool))}
    (hresolved : b.map.resolved = some results) : b.map.cursor = b.targetIds.length := by
  obtain ⟨actions, hrun⟩ := h.reached
  have hconsistent := h.consistent
  refine le_antisymm hconsistent.cursor_le ?_
  obtain hempty | htargets := Nat.eq_zero_or_pos b.targetIds.length
  · omega
  obtain ⟨hstarted, _, hall⟩ := hconsistent.ended results hresolved
  have hworkers := SimulationView.run_workers hrun
  have hone : (1 : WithTop ℚ) ≤ BATCH_UNDEPLOY_CONCURRENCY := by
    rw [BATCH_UNDEPLOY_CONCURRENCY]
    norm_num
  have hcount := SimulationView.workerCount_pos hone htargets
  obtain ⟨worker, hworker⟩ := List.exists_mem_of_length_pos
    (by omega : 0 < b.map.workers.length)
  cases hall worker hworker
  exact hconsistent.drained hworker

theorem exists_map_some {α : Type} {found : List (Option α)} (h : ∀ a ∈ found, a.isSome) :
    ∃ values : List α, found = values.map some := by
  induction found with
  | nil => exact ⟨[], rfl⟩
  | cons first found ih =>
    obtain ⟨values, rfl⟩ := ih fun a ha => h a (List.mem_cons_of_mem first ha)
    obtain ⟨value, rfl⟩ := Option.isSome_iff_exists.mp (h first List.mem_cons_self)
    exact ⟨value :: values, rfl⟩

theorem mapM_map_some {α : Type} (values : List α) : (values.map some).mapM id = some values := by
  induction values with
  | nil => rfl
  | cons value values ih => simp [ih]

/-- What the calls of a batch came to, in the order of their identifiers. -/
structure Batch.CameTo (b : Batch) (results : List (Option (Text × Bool)))
    (outcomes : List (Text × Bool)) : Prop where
  complete : results.mapM id = some outcomes
  ids : outcomes.map Prod.fst = b.targetIds
  answers : ∀ i, b.map.answer i = outcomes[i]?
  calls : b.map.calls = b.targetIds

theorem Batch.Sound.cameTo {b : Batch} (h : b.Sound) {results : List (Option (Text × Bool))}
    (hresolved : b.map.resolved = some results) : ∃ outcomes, b.CameTo results outcomes := by
  have hconsistent := h.consistent
  have hcursor := h.cursor_eq hresolved
  obtain ⟨hresults, hall⟩ := hconsistent.results_eq hresolved hcursor
  obtain ⟨outcomes, houtcomes⟩ := exists_map_some hall
  have hlength : outcomes.length = b.targetIds.length := by
    have hlengths := congrArg List.length (houtcomes.symm.trans hresults)
    simpa using hlengths
  have hanswers (i : ℕ) : b.map.answer i = outcomes[i]? := by
    by_cases hi : i < b.targetIds.length
    · have hget := congrArg (fun found : List (Option (Text × Bool)) => found[i]?)
        (houtcomes.symm.trans hresults)
      have hi' : i < outcomes.length := hlength ▸ hi
      simp only [List.getElem?_map, List.getElem?_range hi, Option.map_some,
        List.getElem?_eq_getElem hi', Option.some.injEq] at hget
      rw [List.getElem?_eq_getElem hi', hget]
    · rw [List.getElem?_eq_none (by omega)]
      cases hanswer : b.map.answer i with
      | none => rfl
      | some result =>
        have hlt := hconsistent.completed_lt (SimulationView.mem_of_answer hanswer)
        omega
  refine ⟨outcomes, ?_, ?_, hanswers, ?_⟩
  · rw [houtcomes]
    exact mapM_map_some outcomes
  · apply List.ext_getElem?
    intro i
    rw [List.getElem?_map, ← hanswers]
    cases hanswer : b.map.answer i with
    | some result => exact (h.answered i result (SimulationView.mem_of_answer hanswer)).symm
    | none =>
      rw [hanswers, List.getElem?_eq_none_iff] at hanswer
      rw [Option.map_none, List.getElem?_eq_none (by omega)]
  · rw [hconsistent.calls_eq, hcursor, List.take_length]

/-! ## The page between two steps -/

/-- The identifiers that are marked are those of the requests that are under way, and those the
batch has still to come to. -/
structure Inv (s : View) : Prop where
  instances : s.instances.Nodup
  selected : s.selectedInstanceIds.Nodup
  batching : s.isBatchUndeploying = s.batch.isSome
  alone : s.batch ≠ none → s.undeploys = []
  once : s.undeploys.Nodup
  marked : ∀ id, id ∈ s.undeployingInstanceIds ↔
    id ∈ s.undeploys ∨ ∃ b, s.batch = some b ∧ b.Waits id
  sound : ∀ b, s.batch = some b → b.Sound

theorem inv_start : Inv View.start := by
  constructor <;> simp [View.start]

/-- The requests, the batch and the marks are the same. -/
structure SameWork (s s' : View) : Prop where
  batching : s'.isBatchUndeploying = s.isBatchUndeploying
  batch : s'.batch = s.batch
  undeploys : s'.undeploys = s.undeploys
  marks : s'.undeployingInstanceIds = s.undeployingInstanceIds

theorem Inv.same {s s' : View} (h : Inv s) (hsame : SameWork s s') (hinstances : s'.instances.Nodup)
    (hselected : s'.selectedInstanceIds.Nodup) : Inv s' where
  instances := hinstances
  selected := hselected
  batching := by rw [hsame.batching, hsame.batch, h.batching]
  alone := by
    rw [hsame.batch, hsame.undeploys]
    exact h.alone
  once := by
    rw [hsame.undeploys]
    exact h.once
  marked := by
    rw [hsame.marks, hsame.undeploys, hsame.batch]
    exact h.marked
  sound := by
    rw [hsame.batch]
    exact h.sound

theorem Inv.without {s : View} (h : Inv s) (id : Text) : Inv (s.without id) :=
  h.same ⟨rfl, rfl, rfl, rfl⟩ (h.instances.filter _) (h.selected.filter _)

theorem inv_handleSelectChange {s : View} (h : Inv s) (id : Text) (checked : Bool) :
    Inv (handleSelectChange s id checked) := by
  refine h.same ⟨rfl, rfl, rfl, rfl⟩ h.instances ?_
  cases checked with
  | true => exact nodup_addId h.selected id
  | false => exact h.selected.filter _

theorem inv_handleSelectAll {s : View} (h : Inv s) (checked : Bool) :
    Inv (handleSelectAll s checked) := by
  refine h.same ⟨rfl, rfl, rfl, rfl⟩ h.instances ?_
  cases checked with
  | true => exact h.instances
  | false => exact List.nodup_nil

theorem inv_handleUndeploy {s : View} (h : Inv s) (id : Text) : Inv (handleUndeploy s id) := by
  rw [handleUndeploy]
  split
  next => exact h
  next => exact h.same ⟨rfl, rfl, rfl, rfl⟩ h.instances h.selected

theorem inv_handleBatchUndeploy {s : View} (h : Inv s) : Inv (handleBatchUndeploy s) := by
  rw [handleBatchUndeploy]
  split
  next => exact h
  next => exact h.same ⟨rfl, rfl, rfl, rfl⟩ h.instances h.selected

/-- Without a batch, the marks are those of the requests. -/
theorem Inv.batch_none {s : View} (h : Inv s) (hbatching : s.isBatchUndeploying = false) :
    s.batch = none ∧ ∀ id, id ∈ s.undeployingInstanceIds ↔ id ∈ s.undeploys := by
  have hnone : s.batch = none := by
    rw [← Option.not_isSome_iff_eq_none, ← h.batching, hbatching]
    simp
  refine ⟨hnone, ?_⟩
  intro id
  simp [h.marked, hnone]

theorem inv_sendUndeploy {s : View} (h : Inv s) (id : Text) : Inv (sendUndeploy s id) := by
  rw [sendUndeploy]
  split
  next => exact h
  next hfree =>
    simp only [View.isUndeploying, Bool.or_eq_true, List.contains_iff_mem, not_or,
      Bool.not_eq_true] at hfree
    obtain ⟨hnone, hmarks⟩ := h.batch_none hfree.2
    refine ⟨h.instances, h.selected, h.batching, by simp [hnone], ?_, ?_, by simp [hnone]⟩
    · rw [List.nodup_append]
      refine ⟨h.once, List.nodup_singleton id, ?_⟩
      intro other hother last hlast
      rw [List.mem_singleton.mp hlast]
      rintro rfl
      exact hfree.1 ((hmarks other).mpr hother)
    · intro other
      simp [hnone, hmarks]

theorem inv_startBatch {s : View} (h : Inv s) : Inv (startBatch s) := by
  rw [startBatch]
  split
  next => exact h
  next hfree =>
    simp only [Bool.or_eq_true, Bool.not_eq_true', not_or, Bool.not_eq_true,
      Bool.not_eq_false, List.isEmpty_iff] at hfree
    obtain ⟨hbatching, hempty⟩ := hfree
    obtain ⟨hnone, hmarks⟩ := h.batch_none hbatching
    have hnobody : s.undeploys = [] := by
      rw [List.eq_nil_iff_forall_not_mem]
      intro id hid
      simpa [hempty] using (hmarks id).mpr hid
    refine ⟨h.instances, h.selected, rfl, fun _ => hnobody, h.once, ?_, ?_⟩
    · intro id
      simp only [mem_setInstancesUndeploying_true, hempty, hnobody, List.not_mem_nil, false_or,
        Option.some.injEq, exists_eq_left', Batch.Waits, SimulationView.State.answer]
      rw [List.mem_iff_getElem?]
      simp [mapWithConcurrency]
    · intro b hb
      cases hb
      exact ⟨h.selected, ⟨[], rfl⟩, by simp [mapWithConcurrency]⟩

theorem inv_finishUndeploy {s : View} (h : Inv s) {i : ℕ} {id : Text} (answer : Option Bool)
    (hid : s.undeploys[i]? = some id) : Inv (finishUndeploy s i id answer) := by
  have hafter : Inv (undeployed s id answer) ∧ SameWork s (undeployed s id answer) := by
    cases answer with
    | none => exact ⟨h.same ⟨rfl, rfl, rfl, rfl⟩ h.instances h.selected, ⟨rfl, rfl, rfl, rfl⟩⟩
    | some ok =>
      cases ok with
      | true => exact ⟨(h.without id).same ⟨rfl, rfl, rfl, rfl⟩ (h.instances.filter _)
          (h.selected.filter _), ⟨rfl, rfl, rfl, rfl⟩⟩
      | false => exact ⟨h.same ⟨rfl, rfl, rfl, rfl⟩ h.instances h.selected, ⟨rfl, rfl, rfl, rfl⟩⟩
  obtain ⟨hinv, hsame⟩ := hafter
  have hmem := List.mem_of_getElem? hid
  have hnone : s.batch = none := by
    by_contra hsome
    rw [h.alone hsome] at hmem
    cases hmem
  obtain ⟨hi, hget⟩ := List.getElem?_eq_some_iff.mp hid
  have herase : s.undeploys.eraseIdx i = s.undeploys.erase id := by
    rw [← hget, h.once.erase_getElem i hi]
  have hleft : (finishUndeploy s i id answer).undeploys = s.undeploys.erase id := by
    rw [← herase, ← hsame.undeploys]
    rfl
  have hsound := hsame.batch.trans hnone
  refine ⟨hinv.instances, hinv.selected, hinv.batching, fun hsome => absurd hsound hsome, ?_, ?_,
    fun b hb => hinv.sound b hb⟩
  · rw [hleft]
    exact h.once.erase id
  · intro other
    have hmarks : other ∈ (finishUndeploy s i id answer).undeployingInstanceIds ↔
        other ∈ s.undeployingInstanceIds ∧ other ∉ [id] := by
      rw [← hsame.marks]
      exact mem_setInstancesUndeploying_false
    have hbatch : (finishUndeploy s i id answer).batch = none := hsound
    rw [hmarks, hleft, hbatch, h.once.mem_erase_iff, h.marked, hnone]
    simp [and_comm]

/-- What is done with the answer to a call of the batch. -/
theorem inv_finishCall {s : View} {b : Batch} {map : SimulationView.State Text (Text × Bool)}
    {id : Text} {success : Bool} (h : Inv s) (hb : s.batch = some b)
    (hsound : Batch.Sound { b with map := map })
    (hwaits : ∀ other, Batch.Waits { b with map := map } other ↔ b.Waits other ∧ other ≠ id) :
    Inv (finishCall { s with batch := some { b with map := map } } id success) := by
  have hnobody : s.undeploys = [] := h.alone (by simp [hb])
  have hbatching : s.isBatchUndeploying = true := by rw [h.batching, hb]; rfl
  have hmarked (other : Text) :
      other ∈ setInstancesUndeploying s.undeployingInstanceIds [id] false ↔
      other ∈ s.undeploys ∨ ∃ b', some { b with map := map } = some b' ∧ b'.Waits other := by
    rw [mem_setInstancesUndeploying_false, h.marked, hnobody]
    simp [hb, hwaits]
  have hnew : ∀ b', some { b with map := map } = some b' → b'.Sound := by
    intro b' hb'
    cases hb'
    exact hsound
  cases success with
  | true => exact ⟨h.instances.filter _, h.selected.filter _, hbatching, fun _ => hnobody, h.once,
      hmarked, hnew⟩
  | false => exact ⟨h.instances, h.selected, hbatching, fun _ => hnobody, h.once, hmarked, hnew⟩

theorem concludeBatch_eq {s : View} {b : Batch} {results : List (Option (Text × Bool))}
    {outcomes : List (Text × Bool)} (h : b.CameTo results outcomes) :
    concludeBatch s b.targetIds results = { summarized s outcomes with
      undeployingInstanceIds := setInstancesUndeploying s.undeployingInstanceIds b.targetIds false
      isBatchUndeploying := false
      batch := none } := by
  rw [concludeBatch, h.complete]
  rfl

/-- At the end of a batch nothing is marked any more. -/
theorem inv_concludeBatch {s : View} {b : Batch} {results : List (Option (Text × Bool))}
    (h : Inv s) (hb : s.batch = some b) (hresolved : b.map.resolved = some results) :
    Inv (concludeBatch s b.targetIds results) := by
  obtain ⟨outcomes, houtcomes⟩ := (h.sound b hb).cameTo hresolved
  have hnobody : s.undeploys = [] := h.alone (by simp [hb])
  rw [concludeBatch_eq houtcomes]
  refine ⟨h.instances, ?_, rfl, by simp, h.once, ?_, by simp⟩
  · have hsublist : ((outcomes.filter fun result => !result.2).map Prod.fst).Sublist
        (outcomes.map Prod.fst) := List.filter_sublist.map Prod.fst
    exact hsublist.nodup (houtcomes.ids ▸ (h.sound b hb).distinct)
  · intro id
    have hundeploys : (summarized s outcomes).undeploys = [] := hnobody
    rw [mem_setInstancesUndeploying_false, h.marked, hnobody, hundeploys]
    simp only [hb, List.not_mem_nil, false_or, Option.some.injEq, exists_eq_left', reduceCtorEq,
      false_and, exists_false, iff_false, not_and, not_not]
    intro hwaits
    obtain ⟨i, hi, _⟩ := hwaits
    exact List.mem_of_getElem? hi

theorem inv_step {s s' : View} {action : Action} (h : Inv s) (hstep : step s action = some s') :
    Inv s' := by
  cases action with
  | select id checked =>
    cases hstep
    exact inv_handleSelectChange h id checked
  | selectAll checked =>
    cases hstep
    exact inv_handleSelectAll h checked
  | load =>
    cases hstep
    exact h.same ⟨rfl, rfl, rfl, rfl⟩ h.instances List.nodup_nil
  | loaded answer =>
    rw [step] at hstep
    split at hstep
    next =>
      cases hstep
      refine h.same ⟨rfl, rfl, rfl, rfl⟩ ?_ h.selected
      cases answer with
      | none => exact h.instances
      | some ids => exact ids.property
    next => cases hstep
  | undeploy id =>
    cases hstep
    exact inv_handleUndeploy h id
  | batchUndeploy =>
    cases hstep
    exact inv_handleBatchUndeploy h
  | confirm confirmed =>
    obtain ⟨question, _, hs'⟩ := Option.map_eq_some_iff.mp hstep
    have hclosed : Inv { s with confirmation := none } :=
      h.same ⟨rfl, rfl, rfl, rfl⟩ h.instances h.selected
    rw [← hs']
    cases confirmed with
    | false => exact hclosed
    | true =>
      cases question with
      | undeploy id => exact inv_sendUndeploy hclosed id
      | batchUndeploy => exact inv_startBatch hclosed
  | respond i answer =>
    obtain ⟨id, hid, hs'⟩ := Option.map_eq_some_iff.mp hstep
    rw [← hs']
    exact inv_finishUndeploy h answer hid
  | respondBatch worker answer =>
    obtain ⟨b, hb, hstep⟩ := Option.bind_eq_some_iff.mp hstep
    split at hstep
    next index call hworker =>
      obtain ⟨id, hid, hstep⟩ := Option.bind_eq_some_iff.mp hstep
      obtain ⟨map, hmap, hs'⟩ := Option.map_eq_some_iff.mp hstep
      obtain ⟨hsound, _, hwaits⟩ := (h.sound b hb).respond hworker hid hmap
      rw [← hs']
      exact inv_finishCall h hb hsound hwaits
    next => cases hstep
  | work action =>
    obtain ⟨b, hb, hstep⟩ := Option.bind_eq_some_iff.mp hstep
    have hwork (hother : ∀ worker result, action ≠ .settle worker result)
        {map : SimulationView.State Text (Text × Bool)}
        (hmap : SimulationView.step b.targetIds b.map action = some map) :
        Inv { s with batch := some { b with map := map } } := by
      obtain ⟨hsound, hwaits⟩ := (h.sound b hb).work hother hmap
      refine ⟨h.instances, h.selected, ?_, ?_, h.once, ?_, ?_⟩
      · rw [h.batching, hb]
        rfl
      · intro _
        exact h.alone (by simp [hb])
      · intro id
        rw [h.marked]
        simp [hb, hwaits]
      · intro b' hb'
        cases hb'
        exact hsound
    split at hstep
    next => cases hstep
    next hother =>
      obtain ⟨map, hmap, hs'⟩ := Option.map_eq_some_iff.mp hstep
      rw [← hs']
      exact hwork (fun worker result => hother worker result) hmap
  | conclude =>
    obtain ⟨b, hb, hstep⟩ := Option.bind_eq_some_iff.mp hstep
    obtain ⟨results, hresults, hs'⟩ := Option.map_eq_some_iff.mp hstep
    rw [← hs']
    exact inv_concludeBatch h hb hresults

theorem inv_run {actions : List Action} {s : View} (h : run step View.start actions = some s) :
    Inv s :=
  @run_keeps _ _ step _ _ (fun _ s => Inv s) (fun _ _ _ _ hinv hstep => inv_step hinv hstep) []
    actions inv_start h

/-! ## Requests under way -/

/-- The identifiers of the calls whose answers are waited for. -/
def Batch.inFlight (b : Batch) : List Text :=
  (b.map.workers.filterMap Worker.awaited).filterMap fun call => b.targetIds[call]?

def View.inFlight (s : View) : List Text := s.undeploys ++ s.batch.elim [] Batch.inFlight

section Flight

variable {b : Batch} (h : b.Sound)
include h

theorem Batch.Sound.nodup_awaited : (b.map.workers.filterMap Worker.awaited).Nodup :=
  (List.nodup_append.mp (h.consistent.divided.nodup_iff.mpr List.nodup_range)).1

theorem Batch.Sound.nodup_inFlight : b.inFlight.Nodup := by
  apply h.nodup_awaited.filterMap
  intro call call' id hcall hcall'
  obtain ⟨hlt, hget⟩ := List.getElem?_eq_some_iff.mp hcall
  obtain ⟨hlt', hget'⟩ := List.getElem?_eq_some_iff.mp hcall'
  exact (h.distinct.getElem_inj_iff).mp (hget.trans hget'.symm)

theorem Batch.Sound.inFlight_le : b.inFlight.length ≤ 4 := by
  obtain ⟨actions, hrun⟩ := h.reached
  have hworkers := SimulationView.run_workers hrun
  have hfour := SimulationView.workerCount_batchUndeploy_le b.targetIds.length
  have hawaited : (b.map.workers.filterMap Worker.awaited).length ≤ b.map.workers.length :=
    List.length_filterMap_le _ _
  have hflight : b.inFlight.length ≤ (b.map.workers.filterMap Worker.awaited).length :=
    List.length_filterMap_le _ _
  omega

/-- Who is asked for has still to be answered. -/
theorem Batch.Sound.waits_of_inFlight {id : Text} (hid : id ∈ b.inFlight) : b.Waits id := by
  obtain ⟨call, hcall, hget⟩ := List.mem_filterMap.mp hid
  obtain ⟨worker, hworker, hawaited⟩ := List.mem_filterMap.mp hcall
  cases worker with
  | awaiting index call' =>
    cases hawaited
    exact ⟨call, hget, h.consistent.answer_awaited hworker⟩
  | settled index result => cases hawaited
  | finished => cases hawaited

/-- Without a request under way the batch goes on by itself. -/
theorem Batch.Sound.goesOn (hquiet : b.inFlight = []) :
    (∃ results, b.map.resolved = some results) ∨ ∃ action map,
      (∀ worker result, action ≠ .settle worker result) ∧
        SimulationView.step b.targetIds b.map action = some map := by
  cases hresolved : b.map.resolved with
  | some results => exact Or.inl ⟨results, rfl⟩
  | none =>
    have hconsistent := h.consistent
    have hpending : b.map.pending = 0 := by
      rw [SimulationView.State.pending, List.countP_eq_zero]
      intro call hcall hopen
      have hlt := List.mem_range.mp hcall
      obtain ⟨index, hworker⟩ := hconsistent.exists_awaiting hlt (by simpa using hopen)
      rw [hconsistent.calls_length] at hlt
      have hcursor := hconsistent.cursor_le
      have hbound : call < b.targetIds.length := by omega
      have hflight : b.targetIds[call] ∈ b.inFlight := by
        have hawaited : call ∈ b.map.workers.filterMap Worker.awaited :=
          List.mem_filterMap.mpr ⟨_, hworker, rfl⟩
        exact List.mem_filterMap.mpr ⟨call, hawaited, List.getElem?_eq_getElem hbound⟩
      rw [hquiet] at hflight
      cases hflight
    obtain ⟨action, map, hstep, hcompleted⟩ := hconsistent.progress hresolved hpending
    refine Or.inr ⟨action, map, ?_, hstep⟩
    intro worker result haction
    rw [haction] at hstep
    simp only [SimulationView.step] at hstep
    split at hstep
    next =>
      cases hstep
      simp at hcompleted
    next => cases hstep

end Flight

/-- What the page owes to its user, whatever happens. -/
structure UndeployRight (s : View) : Prop where
  /-- No instance is asked to be undeployed while it already is. -/
  once : s.inFlight.Nodup
  /-- A batch has no more than four requests under way. -/
  bounded : s.isBatchUndeploying = true → s.inFlight.length ≤ 4
  /-- While there is one nothing else is undeployed. -/
  alone : s.isBatchUndeploying = s.batch.isSome ∧ (s.isBatchUndeploying = true → s.undeploys = [])
  /-- It asks for its instances in their order, and for none twice. -/
  ordered : ∀ b, s.batch = some b → b.targetIds.Nodup ∧ b.map.calls <+: b.targetIds
  /-- An instance is marked while it is asked for, or the batch has still to come to it. -/
  marked : ∀ id, id ∈ s.undeployingInstanceIds ↔
    id ∈ s.undeploys ∨ ∃ b, s.batch = some b ∧ b.Waits id
  inFlight : ∀ id ∈ s.inFlight, id ∈ s.undeployingInstanceIds
  /-- When all is over nothing is marked. -/
  quiet : s.undeploys = [] → s.batch = none →
    s.undeployingInstanceIds = [] ∧ s.isBatchUndeploying = false
  /-- A batch that waits for no answer goes on by itself. -/
  goesOn : s.inFlight = [] → s.batch ≠ none → ∃ action s', step s action = some s' ∧
    (action = .conclude ∨ ∃ work, action = .work work)
  /-- At the end of a batch each of its instances was asked for once, those that were refused are
  selected again, and the user is told how many these are. -/
  concluded : ∀ b s', s.batch = some b → step s .conclude = some s' →
    ∃ outcomes : List (Text × Bool), b.targetIds.Nodup ∧ b.map.calls = b.targetIds ∧
      outcomes.map Prod.fst = b.targetIds ∧ (∀ i, b.map.answer i = outcomes[i]?) ∧
      s'.selectedInstanceIds = (outcomes.filter fun outcome => !outcome.2).map Prod.fst ∧
      s'.notices = s.notices ++ [batchNotice (outcomes.countP fun outcome => outcome.2)
        (outcomes.countP fun outcome => !outcome.2)] ∧
      s'.undeployingInstanceIds = [] ∧ s'.isBatchUndeploying = false

theorem Inv.batch_of_batching {s : View} (h : Inv s) (hbatching : s.isBatchUndeploying = true) :
    ∃ b, s.batch = some b ∧ s.undeploys = [] := by
  have hsome : s.batch.isSome = true := h.batching ▸ hbatching
  obtain ⟨b, hb⟩ := Option.isSome_iff_exists.mp hsome
  exact ⟨b, hb, h.alone (by simp [hb])⟩

theorem Inv.nodup_inFlight {s : View} (h : Inv s) : s.inFlight.Nodup := by
  cases hb : s.batch with
  | none => simpa [View.inFlight, hb] using h.once
  | some b =>
    have hnobody : s.undeploys = [] := h.alone (by simp [hb])
    simpa [View.inFlight, hb, hnobody] using (h.sound b hb).nodup_inFlight

theorem Inv.marked_of_inFlight {s : View} (h : Inv s) {id : Text} (hid : id ∈ s.inFlight) :
    id ∈ s.undeployingInstanceIds := by
  rw [h.marked]
  rw [View.inFlight, List.mem_append] at hid
  obtain hid | hid := hid
  · exact Or.inl hid
  · cases hb : s.batch with
    | none => simp [hb] at hid
    | some b =>
      rw [hb] at hid
      exact Or.inr ⟨b, rfl, (h.sound b hb).waits_of_inFlight hid⟩

theorem Inv.quiet {s : View} (h : Inv s) (hundeploys : s.undeploys = []) (hb : s.batch = none) :
    s.undeployingInstanceIds = [] ∧ s.isBatchUndeploying = false := by
  refine ⟨?_, by simp [h.batching, hb]⟩
  rw [List.eq_nil_iff_forall_not_mem]
  intro id hid
  simpa [hundeploys, hb] using (h.marked id).mp hid

theorem Inv.goesOn {s : View} (h : Inv s) (hquiet : s.inFlight = []) (hbatch : s.batch ≠ none) :
    ∃ action s', step s action = some s' ∧
      (action = .conclude ∨ ∃ work, action = .work work) := by
  obtain ⟨b, hb⟩ := Option.ne_none_iff_exists'.mp hbatch
  have hflight : b.inFlight = [] := by
    rw [View.inFlight, hb] at hquiet
    exact (List.append_eq_nil_iff.mp hquiet).2
  obtain ⟨results, hresults⟩ | ⟨action, map, hother, hmap⟩ := (h.sound b hb).goesOn hflight
  · refine ⟨.conclude, concludeBatch s b.targetIds results, ?_, Or.inl rfl⟩
    simp [step, hb, hresults]
  · refine ⟨.work action, { s with batch := some { b with map := map } }, ?_, Or.inr ⟨action, rfl⟩⟩
    cases action with
    | settle worker result => exact absurd rfl (hother worker result)
    | start => simp [step, hb, hmap]
    | resume worker => simp [step, hb, hmap]
    | finish => simp [step, hb, hmap]

theorem Inv.concluded {s s' : View} {b : Batch} (h : Inv s) (hb : s.batch = some b)
    (hstep : step s .conclude = some s') :
    ∃ outcomes : List (Text × Bool), b.targetIds.Nodup ∧ b.map.calls = b.targetIds ∧
      outcomes.map Prod.fst = b.targetIds ∧ (∀ i, b.map.answer i = outcomes[i]?) ∧
      s'.selectedInstanceIds = (outcomes.filter fun outcome => !outcome.2).map Prod.fst ∧
      s'.notices = s.notices ++ [batchNotice (outcomes.countP fun outcome => outcome.2)
        (outcomes.countP fun outcome => !outcome.2)] ∧
      s'.undeployingInstanceIds = [] ∧ s'.isBatchUndeploying = false := by
  have hinv := inv_step h hstep
  simp only [step, hb, Option.bind_some] at hstep
  obtain ⟨results, hresults, hs'⟩ := Option.map_eq_some_iff.mp hstep
  obtain ⟨outcomes, hcame⟩ := (h.sound b hb).cameTo hresults
  have hnobody : s.undeploys = [] := h.alone (by simp [hb])
  have hover : s'.undeploys = [] ∧ s'.batch = none := by
    rw [← hs', concludeBatch_eq hcame]
    exact ⟨hnobody, rfl⟩
  obtain ⟨hmarks, hbatching⟩ := hinv.quiet hover.1 hover.2
  refine ⟨outcomes, (h.sound b hb).distinct, hcame.calls, hcame.ids, hcame.answers, ?_, ?_,
    hmarks, hbatching⟩
  · rw [← hs', concludeBatch_eq hcame]
    rfl
  · have hfailed : (outcomes.filter fun outcome => !outcome.2).length =
        outcomes.countP fun outcome => !outcome.2 := List.countP_eq_length_filter.symm
    have hsuccess : outcomes.length - (outcomes.countP fun outcome => !outcome.2) =
        outcomes.countP fun outcome => outcome.2 := by
      have hall : outcomes.length = (outcomes.countP fun outcome => outcome.2) +
          outcomes.countP fun outcome => !outcome.2 := by
        have hsplit := List.length_eq_countP_add_countP
          (fun outcome : Text × Bool => outcome.2) (l := outcomes)
        simpa using hsplit
      omega
    rw [← hs', concludeBatch_eq hcame, ← hsuccess, ← hfailed]
    rfl

theorem run_undeployRight {actions : List Action} {s : View}
    (h : run step View.start actions = some s) : UndeployRight s := by
  have hinv := inv_run h
  refine ⟨hinv.nodup_inFlight, ?_, ⟨hinv.batching, ?_⟩, ?_, hinv.marked,
    fun _ => hinv.marked_of_inFlight, hinv.quiet, hinv.goesOn, fun _ _ => hinv.concluded⟩
  · intro hbatching
    obtain ⟨b, hb, hnobody⟩ := hinv.batch_of_batching hbatching
    have hflight : s.inFlight = b.inFlight := by simp [View.inFlight, hb, hnobody]
    rw [hflight]
    exact (hinv.sound b hb).inFlight_le
  · intro hbatching
    obtain ⟨_, _, hnobody⟩ := hinv.batch_of_batching hbatching
    exact hnobody
  · intro b hb
    have hsound := hinv.sound b hb
    refine ⟨hsound.distinct, ?_⟩
    rw [hsound.consistent.calls_eq]
    exact List.take_prefix _ _

def listed : DistinctIds := ⟨["a".toList, "b".toList], by decide⟩

/-- Two instances are undeployed together, and one of them is refused. -/
def refusedOne : List Action :=
  [.load, .loaded (some listed), .selectAll true, .batchUndeploy, .confirm true, .work .start,
    .work .start, .respondBatch 1 (some false), .work (.resume 1), .respondBatch 0 (some true),
    .work (.resume 0), .work .finish, .conclude]

theorem refusedOne_undeployRight : ∃ s, run step View.start refusedOne = some s ∧
    s.instances = ["b".toList] ∧ s.selectedInstanceIds = ["b".toList] ∧
    s.notices = [.batchUndeployPartial 1 1] ∧ UndeployRight s := by
  obtain ⟨s, hrun, hshown⟩ : ∃ s, run step View.start refusedOne = some s ∧
      s.instances = ["b".toList] ∧ s.selectedInstanceIds = ["b".toList] ∧
      s.notices = [.batchUndeployPartial 1 1] := ⟨_, rfl, rfl, rfl, rfl⟩
  obtain ⟨hinstances, hselected, hnotices⟩ := hshown
  exact ⟨s, hrun, hinstances, hselected, hnotices, run_undeployRight hrun⟩

end ProtocolSimulation.Undeploys
