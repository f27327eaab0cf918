import Mathlib.Data.Rat.Floor
import Mathlib.Order.WithBot
import Mathlib.Data.List.Nodup
import Mathlib.Data.List.Perm.Basic

/-!
# A map with a bounded number of calls in flight

The workers of `mapWithConcurrency` share one cursor and run on one thread: a
worker is only left at its `await`. What answers a call, when, and which of the
answered workers goes on next is up to the schedule.
-/
namespace ProtocolSimulation.SimulationView

/-- A worker where it is left: `results[index]` waits for the answer of a call of the mapper or is
to be set to it, or the loop is over. -/
inductive Worker (R : Type) where
  | awaiting (index call : ℕ)
  | settled (index : ℕ) (result : R)
  | finished
  deriving DecidableEq, Repr

/-- The variables of one call of `mapWithConcurrency`, the items its mapper was called with, the
answers that calls were given, and what the promise of the whole was resolved to. -/
structure State (T R : Type) where
  cursor : ℕ
  results : List (Option R)
  unstarted : ℕ
  workers : List (Worker R)
  calls : List T
  completed : List (ℕ × R)
  resolved : Option (List (Option R))
  deriving DecidableEq, Repr

/-- A worker is started, its call is answered, it goes on with the answer, or all have ended. -/
inductive Action (R : Type) where
  | start
  | settle (worker : ℕ) (result : R)
  | resume (worker : ℕ)
  | finish
  deriving DecidableEq, Repr

variable {T R : Type}

def Worker.isFinished : Worker R → Bool
  | .finished => true
  | _ => false

/-- The call that a worker waits for. -/
def Worker.awaited : Worker R → Option ℕ
  | .awaiting _ call => some call
  | _ => none

@[simp] theorem awaited_awaiting (index call : ℕ) :
    (Worker.awaiting index call : Worker R).awaited = some call := rfl

@[simp] theorem awaited_settled (index : ℕ) (result : R) :
    (Worker.settled index result).awaited = none := rfl

@[simp] theorem awaited_finished : (Worker.finished : Worker R).awaited = none := rfl

/-- `Math.min(concurrency, items.length)` as the length of an array. -/
def workerCount (concurrency : WithTop ℚ) (length : ℕ) : ℕ :=
  ⌊(min concurrency ((length : ℚ) : WithTop ℚ)).untopD 0⌋₊

/-- `mapWithConcurrency` up to its first worker. -/
def mapWithConcurrency (items : List T) (concurrency : WithTop ℚ) : State T R where
  cursor := 0
  results := List.replicate items.length none
  unstarted := workerCount concurrency items.length
  workers := []
  calls := []
  completed := []
  resolved := none

/-- The loop of a worker, from its head to where it is left. -/
def advance (items : List T) (s : State T R) : State T R × Worker R :=
  match items[s.cursor]? with
  | some item =>
    ({ s with cursor := s.cursor + 1, calls := s.calls ++ [item] },
      .awaiting s.cursor s.calls.length)
  | none => (s, .finished)

/-- The workers are all started before one goes on, and `Promise.all` waits for all of them. -/
def step (items : List T) (s : State T R) : Action R → Option (State T R)
  | .start =>
    if 0 < s.unstarted then
      let advanced := advance items { s with unstarted := s.unstarted - 1 }
      some { advanced.1 with workers := s.workers ++ [advanced.2] }
    else none
  | .settle worker result =>
    match s.workers[worker]? with
    | some (.awaiting index call) =>
      some { s with
        workers := s.workers.set worker (.settled index result)
        completed := s.completed ++ [(call, result)] }
    | _ => none
  | .resume worker =>
    if s.unstarted = 0 then
      match s.workers[worker]? with
      | some (.settled index result) =>
        let advanced := advance items { s with results := s.results.set index (some result) }
        some { advanced.1 with workers := s.workers.set worker advanced.2 }
      | _ => none
    else none
  | .finish =>
    if s.unstarted = 0 ∧ s.workers.all Worker.isFinished ∧ s.resolved = none then
      some { s with resolved := some s.results }
    else none

def run (items : List T) : State T R → List (Action R) → Option (State T R)
  | s, [] => some s
  | s, action :: actions => (step items s action).bind fun s => run items s actions

/-- The answer a call of the mapper was given. -/
def State.answer (s : State T R) (call : ℕ) : Option R := s.completed.lookup call

/-- How many calls of the mapper wait for their answers. -/
def State.pending (s : State T R) : ℕ :=
  (List.range s.calls.length).countP fun call => (s.answer call).isNone

/-- A worker that goes on takes its place between the others. -/
def place (items : List T) (s : State T R) (front back : List (Worker R)) : State T R :=
  { (advance items s).1 with workers := front ++ (advance items s).2 :: back }

/-- What the steps do, with the worker that changes between the others. -/
inductive Change (items : List T) (s : State T R) : State T R → Prop where
  | start (h : 0 < s.unstarted) :
    Change items s (place items { s with unstarted := s.unstarted - 1 } s.workers [])
  | settle {front back : List (Worker R)} {index call : ℕ} (result : R)
    (h : s.workers = front ++ .awaiting index call :: back) :
    Change items s { s with
      workers := front ++ .settled index result :: back
      completed := s.completed ++ [(call, result)] }
  | resume {front back : List (Worker R)} {index : ℕ} {result : R} (hstarted : s.unstarted = 0)
    (h : s.workers = front ++ .settled index result :: back) :
    Change items s (place items { s with
      results := s.results.set index (some result)
      workers := front ++ back } front back)
  | finish (hstarted : s.unstarted = 0) (h : ∀ worker ∈ s.workers, worker = .finished)
    (hopen : s.resolved = none) : Change items s { s with resolved := some s.results }

@[simp] theorem isFinished_iff {worker : Worker R} :
    worker.isFinished = true ↔ worker = .finished := by
  cases worker <;> simp [Worker.isFinished]

theorem set_split {workers : List (Worker R)} {i : ℕ} {old : Worker R}
    (h : workers[i]? = some old) (new : Worker R) :
    ∃ front back, workers = front ++ old :: back ∧ workers.set i new = front ++ new :: back := by
  obtain ⟨hi, hold⟩ := List.getElem?_eq_some_iff.mp h
  obtain ⟨front, back, hworkers, _, hset⟩ :
      ∃ front back, workers = front ++ workers[i] :: back ∧ front.length = i ∧
        workers.set i new = front ++ new :: back := List.exists_of_set hi
  exact ⟨front, back, hold ▸ hworkers, hset⟩

theorem place_of_le {items : List T} {s : State T R} (h : items.length ≤ s.cursor)
    (front back : List (Worker R)) :
    place items s front back = { s with workers := front ++ .finished :: back } := by
  rw [place, advance, List.getElem?_eq_none h]

theorem place_of_get {items : List T} {s : State T R} {item : T}
    (h : items[s.cursor]? = some item) (front back : List (Worker R)) :
    place items s front back = { s with
      cursor := s.cursor + 1
      workers := front ++ .awaiting s.cursor s.calls.length :: back
      calls := s.calls ++ [item] } := by
  rw [place, advance, h]

theorem mem_of_ne {front back : List (Worker R)} {new worker : Worker R}
    (h : worker ∈ front ++ new :: back) (hne : worker ≠ new) : worker ∈ front ++ back := by
  obtain hfront | hrest := List.mem_append.mp h
  · exact List.mem_append_left _ hfront
  · exact List.mem_append_right _ ((List.mem_cons.mp hrest).resolve_left hne)

theorem mem_of_others {front back : List (Worker R)} {worker : Worker R} (old : Worker R)
    (h : worker ∈ front ++ back) : worker ∈ front ++ old :: back := by
  obtain hfront | hback := List.mem_append.mp h
  · exact List.mem_append_left _ hfront
  · exact List.mem_append_right _ (List.mem_cons_of_mem _ hback)

/-- Where the loop of a worker goes on does not depend on the other workers. -/
theorem place_workers (items : List T) (s : State T R) (workers front back : List (Worker R)) :
    place items { s with workers := workers } front back = place items s front back := by
  unfold place advance
  cases items[s.cursor]? <;> rfl

theorem step_change {items : List T} {s s' : State T R} {action : Action R}
    (h : step items s action = some s') : Change items s s' := by
  cases action with
  | start =>
    rw [step] at h
    split at h
    next hstart =>
      cases h
      exact .start hstart
    next => cases h
  | settle worker result =>
    rw [step] at h
    split at h
    next index call hworker =>
      cases h
      obtain ⟨front, back, hworkers, hset⟩ := set_split hworker (.settled index result)
      rw [hset]
      exact .settle result hworkers
    next => cases h
  | resume worker =>
    rw [step] at h
    split at h
    next hstarted =>
      split at h
      next index result hworker =>
        cases h
        obtain ⟨front, back, hworkers, hset⟩ := set_split hworker
          (advance items { s with results := s.results.set index (some result) }).2
        have hchange : Change items s (place items { s with
            results := s.results.set index (some result)
            workers := front ++ back } front back) := .resume hstarted hworkers
        rw [place_workers items { s with results := s.results.set index (some result) }] at hchange
        rw [hset]
        exact hchange
      next => cases h
    next => cases h
  | finish =>
    rw [step] at h
    split at h
    next hfinish =>
      cases h
      obtain ⟨hstarted, hall, hopen⟩ := hfinish
      refine .finish hstarted ?_ hopen
      simpa using hall
    next => cases h

/-- What holds of the variables, the workers and the calls between two steps. -/
structure Consistent (items : List T) (s : State T R) : Prop where
  cursor_le : s.cursor ≤ items.length
  calls_eq : s.calls = items.take s.cursor
  results_length : s.results.length = items.length
  numbered : ∀ index call, Worker.awaiting index call ∈ s.workers → index = call
  divided : (s.workers.filterMap Worker.awaited ++ s.completed.map Prod.fst).Perm
    (List.range s.cursor)
  held : ∀ index result, Worker.settled index result ∈ s.workers → (index, result) ∈ s.completed
  stored : ∀ index result, s.results[index]? = some (some result) → (index, result) ∈ s.completed
  kept : ∀ index result, (index, result) ∈ s.completed →
    s.results[index]? = some (some result) ∨ Worker.settled index result ∈ s.workers
  drained : Worker.finished ∈ s.workers → items.length ≤ s.cursor
  ended : ∀ results, s.resolved = some results →
    s.unstarted = 0 ∧ results = s.results ∧ ∀ worker ∈ s.workers, worker = .finished

theorem consistent_initial (items : List T) (concurrency : WithTop ℚ) :
    Consistent (R := R) items (mapWithConcurrency items concurrency) := by
  constructor <;> simp [mapWithConcurrency, List.getElem?_replicate]

section Consistency

variable {items : List T} {s : State T R} (h : Consistent items s)
include h

theorem Consistent.calls_length : s.calls.length = s.cursor := by
  rw [h.calls_eq, List.length_take]
  exact Nat.min_eq_left h.cursor_le

/-- A call is answered once. -/
theorem Consistent.nodup_completed : (s.completed.map Prod.fst).Nodup :=
  (List.nodup_append.mp (h.divided.nodup_iff.mpr List.nodup_range)).2.1

theorem Consistent.completed_lt {call : ℕ} {result : R} (hcall : (call, result) ∈ s.completed) :
    call < s.cursor := by
  have hmem := List.mem_append_right (s.workers.filterMap Worker.awaited)
    (List.mem_map_of_mem (f := Prod.fst) hcall)
  exact List.mem_range.mp (h.divided.mem_iff.mp hmem)

theorem Consistent.completed_unique {call : ℕ} {result result' : R}
    (hresult : (call, result) ∈ s.completed) (hresult' : (call, result') ∈ s.completed) :
    result = result' :=
  congrArg Prod.snd (List.inj_on_of_nodup_map h.nodup_completed hresult hresult' rfl)

theorem Consistent.open_of_mem {worker : Worker R} (hworker : worker ∈ s.workers)
    (hgoing : worker ≠ .finished) : s.resolved = none := by
  cases hresolved : s.resolved with
  | none => rfl
  | some results => exact absurd ((h.ended results hresolved).2.2 worker hworker) hgoing

/-- The loop goes on with the next item, or all items are taken. -/
theorem Consistent.place {front back : List (Worker R)} (hworkers : s.workers = front ++ back)
    (hopen : s.resolved = none) : Consistent items (place items s front back) := by
  have hlength := h.calls_length
  have hmem : ∀ worker ∈ front ++ back, worker ∈ s.workers := by
    rw [hworkers]
    exact fun _ => id
  cases hitem : items[s.cursor]? with
  | none =>
    have hcursor : items.length ≤ s.cursor := List.getElem?_eq_none_iff.mp hitem
    rw [place_of_le hcursor]
    constructor
    · exact h.cursor_le
    · exact h.calls_eq
    · exact h.results_length
    · exact fun index call hworker => h.numbered index call (hmem _ (mem_of_ne hworker nofun))
    · simpa [hworkers, List.filterMap_cons] using h.divided
    · exact fun index result hworker => h.held index result (hmem _ (mem_of_ne hworker nofun))
    · exact h.stored
    · intro index result hcompleted
      have hkept := h.kept index result hcompleted
      simpa [hworkers] using hkept
    · exact fun _ => hcursor
    · exact fun results hresults => absurd hresults (by simp [hopen])
  | some item =>
    obtain ⟨hcursor, _⟩ := List.getElem?_eq_some_iff.mp hitem
    rw [place_of_get hitem]
    constructor
    · exact hcursor
    · simp [h.calls_eq, List.take_add_one, hitem]
    · exact h.results_length
    · intro index call hworker
      by_cases hnew : (Worker.awaiting index call : Worker R) = .awaiting s.cursor s.calls.length
      · cases hnew
        exact hlength.symm
      · exact h.numbered index call (hmem _ (mem_of_ne hworker hnew))
    · have hdivided := h.divided
      simp only [hworkers, List.filterMap_append, List.append_assoc] at hdivided
      simp only [List.filterMap_append, List.filterMap_cons, awaited_awaiting, List.append_assoc,
        List.cons_append, hlength, List.range_succ]
      exact List.perm_middle.trans ((hdivided.cons _).trans (List.perm_append_singleton _ _).symm)
    · exact fun index result hworker => h.held index result (hmem _ (mem_of_ne hworker nofun))
    · exact h.stored
    · intro index result hcompleted
      have hkept := h.kept index result hcompleted
      simpa [hworkers] using hkept
    · intro hworker
      have hdrained := h.drained (hmem _ (mem_of_ne hworker nofun))
      exact absurd hcursor (not_lt.mpr hdrained)
    · exact fun results hresults => absurd hresults (by simp [hopen])

/-- An answer that arrives is held by the worker that waited for it. -/
theorem Consistent.settle {front back : List (Worker R)} {index call : ℕ} (result : R)
    (hworkers : s.workers = front ++ .awaiting index call :: back) :
    Consistent items { s with
      workers := front ++ .settled index result :: back
      completed := s.completed ++ [(call, result)] } := by
  have hself : Worker.awaiting index call ∈ s.workers := by simp [hworkers]
  have hopen := h.open_of_mem hself nofun
  cases h.numbered index call hself
  have hmem : ∀ worker ∈ front ++ back, worker ∈ s.workers := by
    rw [hworkers]
    exact fun worker => mem_of_others _
  constructor
  · exact h.cursor_le
  · exact h.calls_eq
  · exact h.results_length
  · exact fun index call hworker => h.numbered index call (hmem _ (mem_of_ne hworker nofun))
  · have hdivided := h.divided
    simp only [hworkers, List.filterMap_append, List.filterMap_cons, awaited_awaiting,
      List.append_assoc, List.cons_append] at hdivided
    simp only [List.filterMap_append, List.filterMap_cons, awaited_settled, List.map_append,
      List.map_cons, List.map_nil, ← List.append_assoc]
    refine (List.perm_append_singleton _ _).trans (List.Perm.trans ?_ hdivided)
    simpa using List.perm_middle.symm
  · intro i r hworker
    by_cases hnew : Worker.settled i r = .settled index result
    · cases hnew
      exact List.mem_append_right _ (List.mem_singleton_self _)
    · exact List.mem_append_left _ (h.held i r (hmem _ (mem_of_ne hworker hnew)))
  · exact fun i r hstored => List.mem_append_left _ (h.stored i r hstored)
  · intro i r hcompleted
    obtain hold | hnew := List.mem_append.mp hcompleted
    · have hkept := h.kept i r hold
      simp only [hworkers, List.mem_append, List.mem_cons, reduceCtorEq, false_or] at hkept
      simp only [List.mem_append, List.mem_cons]
      tauto
    · cases List.mem_singleton.mp hnew
      exact .inr (List.mem_append_right _ List.mem_cons_self)
  · exact fun hworker => h.drained (hmem _ (mem_of_ne hworker nofun))
  · exact fun results hresults => absurd hresults (by simp [hopen])

/-- An answer is stored before its worker goes on. -/
theorem Consistent.store {front back : List (Worker R)} {index : ℕ} {result : R}
    (hworkers : s.workers = front ++ .settled index result :: back) :
    Consistent items { s with
      results := s.results.set index (some result)
      workers := front ++ back } := by
  have hself : Worker.settled index result ∈ s.workers := by simp [hworkers]
  have hopen := h.open_of_mem hself nofun
  have hcompleted := h.held index result hself
  have hindex : index < s.results.length := by
    rw [h.results_length]
    exact (h.completed_lt hcompleted).trans_le h.cursor_le
  have hmem : ∀ worker ∈ front ++ back, worker ∈ s.workers := by
    rw [hworkers]
    exact fun worker => mem_of_others _
  constructor
  · exact h.cursor_le
  · exact h.calls_eq
  · exact (List.length_set ..).trans h.results_length
  · exact fun index call hworker => h.numbered index call (hmem _ hworker)
  · simpa [hworkers, List.filterMap_cons] using h.divided
  · exact fun i r hworker => h.held i r (hmem _ hworker)
  · intro i r hstored
    by_cases hi : index = i
    · cases hi
      rw [List.getElem?_set_self hindex] at hstored
      cases hstored
      exact hcompleted
    · rw [List.getElem?_set_ne hi] at hstored
      exact h.stored i r hstored
  · intro i r hr
    by_cases hi : index = i
    · cases hi
      cases h.completed_unique hcompleted hr
      exact .inl (List.getElem?_set_self hindex)
    · have hkept := h.kept i r hr
      simp only [hworkers, List.mem_append, List.mem_cons, Worker.settled.injEq, Ne.symm hi,
        false_and, false_or] at hkept
      rw [List.getElem?_set_ne hi]
      simpa using hkept
  · exact fun hworker => h.drained (hmem _ hworker)
  · exact fun results hresults => absurd hresults (by simp [hopen])

theorem Consistent.finish (hstarted : s.unstarted = 0)
    (hall : ∀ worker ∈ s.workers, worker = .finished) :
    Consistent items { s with resolved := some s.results } :=
  { h with
    ended := by
      intro results hresults
      cases hresults
      exact ⟨hstarted, rfl, hall⟩ }

/-- Whatever a step does, the variables stay consistent. -/
theorem Consistent.change {s' : State T R} (hchange : Change items s s') :
    Consistent items s' := by
  cases hchange with
  | start hstart =>
    have hopen : s.resolved = none := by
      cases hresolved : s.resolved with
      | none => rfl
      | some results => exact absurd (h.ended results hresolved).1 hstart.ne'
    have hs : Consistent items { s with unstarted := s.unstarted - 1 } :=
      { h with ended := fun results hresults => absurd hresults (by simp [hopen]) }
    exact hs.place (List.append_nil _).symm hopen
  | settle result hworkers => exact h.settle result hworkers
  | @resume front back index result _ hworkers =>
    have hself : Worker.settled index result ∈ s.workers := by simp [hworkers]
    exact (h.store hworkers).place rfl (h.open_of_mem hself nofun)
  | finish hstarted hall _ => exact h.finish hstarted hall

end Consistency

end ProtocolSimulation.SimulationView
