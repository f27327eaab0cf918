import ProtocolSimulation.ConcurrentMaps

/-!
# Runs of a map with a bounded number of calls in flight

However the answers of the mapper arrive, a run takes the same number of steps,
and its results are in the places of their items.
-/
namespace ProtocolSimulation.SimulationView

variable {T R : Type}

/-- What the steps keep holds of every state of a run. -/
theorem run_invariant {items : List T} {P : State T R → Prop}
    (hP : ∀ s s', Change items s s' → P s → P s') {actions : List (Action R)} {s s' : State T R}
    (hs : P s) (h : run items s actions = some s') : P s' := by
  induction actions generalizing s with
  | nil =>
    cases h
    exact hs
  | cons action actions ih =>
    obtain ⟨next, hstep, hrun⟩ := Option.bind_eq_some_iff.mp h
    exact ih (hP s next (step_change hstep) hs) hrun

theorem run_consistent {items : List T} {concurrency : WithTop ℚ} {actions : List (Action R)}
    {s : State T R} (h : run items (mapWithConcurrency items concurrency) actions = some s) :
    Consistent items s :=
  run_invariant (fun _ _ hchange hs => hs.change hchange) (consistent_initial items concurrency) h

theorem length_place (items : List T) (s : State T R) (front back : List (Worker R)) :
    (place items s front back).workers.length = front.length + back.length + 1 := by
  simp [place, Nat.add_assoc]

theorem unstarted_place (items : List T) (s : State T R) (front back : List (Worker R)) :
    (place items s front back).unstarted = s.unstarted := by
  unfold place advance
  cases items[s.cursor]? <;> rfl

/-- No worker is lost and none is added. -/
theorem run_workers {items : List T} {concurrency : WithTop ℚ} {actions : List (Action R)}
    {s : State T R} (h : run items (mapWithConcurrency items concurrency) actions = some s) :
    s.workers.length + s.unstarted = workerCount concurrency items.length := by
  refine run_invariant (P := fun s => s.workers.length + s.unstarted =
    workerCount concurrency items.length) ?_ (by simp [mapWithConcurrency]) h
  intro s s' hchange hs
  rw [← hs]
  cases hchange with
  | start hstart =>
    rw [length_place, unstarted_place, List.length_nil]
    dsimp only
    omega
  | settle result hworkers => simp [hworkers]
  | resume _ hworkers =>
    rw [length_place, unstarted_place, hworkers, List.length_append, List.length_cons]
    rfl
  | finish => rfl

/-- How many steps a worker still takes with the item it has. -/
def Worker.steps : Worker R → ℕ
  | .awaiting _ _ => 2
  | .settled _ _ => 1
  | .finished => 0

/-- How many steps are still to be taken. -/
def remaining (items : List T) (s : State T R) : ℕ :=
  2 * (items.length - s.cursor) + (s.workers.map Worker.steps).sum + s.unstarted +
    if s.resolved = none then 1 else 0

theorem remaining_place {items : List T} {s : State T R} {front back : List (Worker R)}
    (hworkers : s.workers = front ++ back) :
    remaining items (place items s front back) = remaining items s := by
  cases hitem : items[s.cursor]? with
  | none =>
    rw [place_of_le (List.getElem?_eq_none_iff.mp hitem)]
    simp [remaining, hworkers, Worker.steps]
  | some item =>
    obtain ⟨hcursor, _⟩ := List.getElem?_eq_some_iff.mp hitem
    rw [place_of_get hitem]
    simp only [remaining, hworkers, List.map_append, List.map_cons, List.sum_append, List.sum_cons,
      Worker.steps]
    omega

theorem remaining_change {items : List T} {s s' : State T R} (h : Change items s s') :
    remaining items s = remaining items s' + 1 := by
  cases h with
  | start hstart =>
    rw [remaining_place (List.append_nil _).symm]
    simp only [remaining]
    omega
  | settle result hworkers =>
    simp only [remaining, hworkers, List.map_append, List.map_cons, List.sum_append, List.sum_cons,
      Worker.steps]
    omega
  | resume _ hworkers =>
    rw [remaining_place rfl]
    simp only [remaining, hworkers, List.map_append, List.map_cons, List.sum_append, List.sum_cons,
      Worker.steps]
    omega
  | finish _ _ hopen => simp [remaining, hopen]

/-- Every run is of the same length, up to the steps it still has to take. -/
theorem run_remaining {items : List T} {actions : List (Action R)} {s s' : State T R}
    (h : run items s actions = some s') :
    actions.length + remaining items s' = remaining items s := by
  induction actions generalizing s with
  | nil =>
    cases h
    exact Nat.zero_add _
  | cons action actions ih =>
    obtain ⟨next, hstep, hrun⟩ := Option.bind_eq_some_iff.mp h
    rw [remaining_change (step_change hstep), ← ih hrun, List.length_cons]
    omega

theorem exists_min_eq (concurrency : WithTop ℚ) (length : ℕ) :
    ∃ q : ℚ, min concurrency ((length : ℚ) : WithTop ℚ) = q := by
  obtain ⟨q, hq⟩ := WithTop.ne_top_iff_exists.mp
    (ne_top_of_le_ne_top WithTop.coe_ne_top (min_le_right concurrency ((length : ℚ) : WithTop ℚ)))
  exact ⟨q, hq.symm⟩

theorem workerCount_pos {concurrency : WithTop ℚ} (hconcurrency : 1 ≤ concurrency) {length : ℕ}
    (hlength : 0 < length) : 0 < workerCount concurrency length := by
  obtain ⟨q, hq⟩ := exists_min_eq concurrency length
  have hone : ((1 : ℚ) : WithTop ℚ) ≤ q := by
    rw [← hq]
    exact le_min hconcurrency (WithTop.coe_le_coe.mpr (by exact_mod_cast hlength))
  rw [workerCount, hq]
  exact Nat.floor_pos.mpr (WithTop.coe_le_coe.mp hone)

/-- There are no more workers than items, nor than the bound allows. -/
theorem workerCount_le {concurrency : WithTop ℚ} (hconcurrency : 1 ≤ concurrency) (length : ℕ) :
    ((workerCount concurrency length : ℚ) : WithTop ℚ) ≤
      min concurrency ((length : ℚ) : WithTop ℚ) := by
  obtain ⟨q, hq⟩ := exists_min_eq concurrency length
  have hzero : ((0 : ℚ) : WithTop ℚ) ≤ q := by
    rw [← hq]
    exact le_min (zero_le_one.trans hconcurrency) (WithTop.coe_le_coe.mpr (Nat.cast_nonneg _))
  rw [workerCount, hq]
  exact WithTop.coe_le_coe.mpr (Nat.floor_le (WithTop.coe_le_coe.mp hzero))

section Answers

variable {items : List T} {s : State T R}

theorem mem_of_answer {call : ℕ} {result : R} (h : s.answer call = some result) :
    (call, result) ∈ s.completed := by
  obtain ⟨before, after, hcompleted, _⟩ := List.lookup_eq_some_iff.mp h
  simp [hcompleted]

theorem answer_isSome {call : ℕ} (h : call ∈ s.completed.map Prod.fst) :
    (s.answer call).isSome := by
  obtain ⟨entry, hentry, hcall⟩ := List.mem_map.mp h
  cases hanswer : s.answer call with
  | some result => rfl
  | none => simpa [hcall] using List.lookup_eq_none_iff.mp hanswer entry hentry

variable (h : Consistent items s)
include h

/-- A call that a worker waits for is not answered. -/
theorem Consistent.answer_awaited {index call : ℕ}
    (hworker : Worker.awaiting index call ∈ s.workers) : s.answer call = none := by
  have hawaited : call ∈ s.workers.filterMap Worker.awaited :=
    List.mem_filterMap.mpr ⟨_, hworker, rfl⟩
  have hdisjoint := (List.nodup_append.mp (h.divided.nodup_iff.mpr List.nodup_range)).2.2
  refine List.lookup_eq_none_iff.mpr fun entry hentry => ?_
  simpa using hdisjoint call hawaited entry.1 (List.mem_map_of_mem hentry)

/-- A call that is not answered is one a worker waits for. -/
theorem Consistent.exists_awaiting {call : ℕ} (hcall : call < s.calls.length)
    (hanswer : s.answer call = none) : ∃ index, Worker.awaiting index call ∈ s.workers := by
  rw [h.calls_length] at hcall
  obtain hawaited | hcompleted :=
    List.mem_append.mp (h.divided.mem_iff.mpr (List.mem_range.mpr hcall))
  · obtain ⟨worker, hworker, hcall⟩ := List.mem_filterMap.mp hawaited
    cases worker with
    | awaiting index call' =>
      cases hcall
      exact ⟨index, hworker⟩
    | settled => cases hcall
    | finished => cases hcall
  · have hsome := answer_isSome hcompleted
    rw [hanswer] at hsome
    cases hsome

theorem Consistent.pending_le : s.pending ≤ s.workers.length := by
  have hanswered : (s.completed.map Prod.fst).countP (fun call => (s.answer call).isNone) = 0 := by
    rw [List.countP_eq_zero]
    intro call hcall
    simpa [← Option.isSome_iff_ne_none] using answer_isSome hcall
  calc s.pending
    _ = (s.workers.filterMap Worker.awaited ++ s.completed.map Prod.fst).countP
        (fun call => (s.answer call).isNone) := by
      rw [State.pending, h.calls_length, h.divided.countP_eq]
    _ = (s.workers.filterMap Worker.awaited).countP (fun call => (s.answer call).isNone) := by
      rw [List.countP_append, hanswered, Nat.add_zero]
    _ ≤ (s.workers.filterMap Worker.awaited).length := List.countP_le_length
    _ ≤ s.workers.length := List.length_filterMap_le ..

/-- Any call that is not answered may be the next to be. -/
theorem Consistent.answerable {call : ℕ} (hcall : call < s.calls.length)
    (hanswer : s.answer call = none) (result : R) :
    ∃ worker s', step items s (.settle worker result) = some s' ∧
      s'.answer call = some result := by
  obtain ⟨index, hworker⟩ := h.exists_awaiting hcall hanswer
  obtain ⟨worker, hget⟩ := List.mem_iff_getElem?.mp hworker
  refine ⟨worker, _, by rw [step, hget], ?_⟩
  rw [State.answer] at hanswer ⊢
  simp [List.lookup_append, hanswer]

/-- Without an answer to wait for a worker goes on, or the whole is resolved. -/
theorem Consistent.progress (hopen : s.resolved = none) (hpending : s.pending = 0) :
    ∃ action s', step items s action = some s' ∧ s'.completed = s.completed := by
  by_cases hstart : 0 < s.unstarted
  · refine ⟨.start, _, by rw [step, if_pos hstart], ?_⟩
    unfold advance
    cases items[s.cursor]? <;> rfl
  have hstarted : s.unstarted = 0 := Nat.eq_zero_of_not_pos hstart
  by_cases hsettled : ∃ index result, Worker.settled index result ∈ s.workers
  · obtain ⟨index, result, hworker⟩ := hsettled
    obtain ⟨worker, hget⟩ := List.mem_iff_getElem?.mp hworker
    refine ⟨.resume worker, _, by rw [step, if_pos hstarted, hget], ?_⟩
    unfold advance
    cases items[s.cursor]? <;> rfl
  have hall : s.workers.all Worker.isFinished = true := by
    rw [List.all_eq_true]
    intro worker hworker
    cases worker with
    | awaiting index call =>
      have hcall : call < s.calls.length := by
        rw [h.calls_length, ← List.mem_range, ← h.divided.mem_iff]
        exact List.mem_append_left _ (List.mem_filterMap.mpr ⟨_, hworker, rfl⟩)
      have hanswered := List.countP_eq_zero.mp hpending call (List.mem_range.mpr hcall)
      simp [h.answer_awaited hworker] at hanswered
    | settled index result => exact absurd ⟨index, result, hworker⟩ hsettled
    | finished => rfl
  exact ⟨.finish, { s with resolved := some s.results }, if_pos ⟨hstarted, hall, hopen⟩, rfl⟩

/-- What is resolved holds the answers in the places of their items. -/
theorem Consistent.results_eq {results : List (Option R)} (hresolved : s.resolved = some results)
    (hcursor : s.cursor = items.length) : results = (List.range items.length).map s.answer ∧
      ∀ result ∈ results, result.isSome := by
  obtain ⟨_, rfl, hall⟩ := h.ended results hresolved
  have hanswer : ∀ call < items.length, ∃ result, s.answer call = some result ∧
      s.results[call]? = some (some result) := by
    intro call hcall
    cases hanswer : s.answer call with
    | none =>
      rw [← hcursor, ← h.calls_length] at hcall
      obtain ⟨index, hworker⟩ := h.exists_awaiting hcall hanswer
      cases hall _ hworker
    | some result =>
      obtain hstored | hheld := h.kept call result (mem_of_answer hanswer)
      · exact ⟨result, rfl, hstored⟩
      · cases hall _ hheld
  have heq : s.results = (List.range items.length).map s.answer := by
    refine List.ext_getElem? fun i => ?_
    by_cases hi : i < items.length
    · obtain ⟨result, hresult, hget⟩ := hanswer i hi
      simp [hget, hi, hresult]
    · have hlength := h.results_length
      rw [List.getElem?_eq_none (by omega), List.getElem?_eq_none (by simp; omega)]
  refine ⟨heq, ?_⟩
  intro result hresult
  rw [heq] at hresult
  obtain ⟨call, hcall, rfl⟩ := List.mem_map.mp hresult
  obtain ⟨result, hsome, _⟩ := hanswer call (List.mem_range.mp hcall)
  rw [hsome]
  rfl

end Answers

/-- `BATCH_UNDEPLOY_CONCURRENCY`, the bound of `handleBatchUndeploy`. -/
def BATCH_UNDEPLOY_CONCURRENCY : WithTop ℚ := 4

theorem workerCount_batchUndeploy_le (length : ℕ) :
    workerCount BATCH_UNDEPLOY_CONCURRENCY length ≤ 4 := by
  have hcount : ((workerCount BATCH_UNDEPLOY_CONCURRENCY length : ℚ) : WithTop ℚ) ≤
      ((4 : ℚ) : WithTop ℚ) := (workerCount_le (by decide) _).trans (min_le_left _ _)
  exact_mod_cast WithTop.coe_le_coe.mp hcount

/-- The agent never has more than four instances to undeploy at a time. -/
theorem batchUndeploy_pending_le {targetIds : List T} {actions : List (Action R)} {s : State T R}
    (h : run targetIds (mapWithConcurrency targetIds BATCH_UNDEPLOY_CONCURRENCY) actions =
      some s) : s.pending ≤ 4 := by
  have hworkers := run_workers h
  have hpending := (run_consistent h).pending_le
  have hfour := workerCount_batchUndeploy_le targetIds.length
  omega

/-- A state that a run has come to: the items were taken in their order, a bounded number of calls
waits to be answered, any of them next, the run comes to an end once they are, and it ends with
the answers in the places of the items. -/
structure BoundedMap (items : List T) (concurrency : WithTop ℚ) (actions : List (Action R))
    (s : State T R) : Prop where
  calls : s.calls <+: items
  pending : ((s.pending : ℚ) : WithTop ℚ) ≤ min concurrency ((items.length : ℚ) : WithTop ℚ)
  once : (s.completed.map Prod.fst).Nodup
  answerable : ∀ call < s.calls.length, s.answer call = none → ∀ result,
    ∃ worker s', step items s (.settle worker result) = some s' ∧ s'.answer call = some result
  progress : s.resolved = none → s.pending = 0 →
    ∃ action s', step items s action = some s' ∧ s'.completed = s.completed
  length : actions.length ≤ 2 * items.length + workerCount concurrency items.length + 1
  resolved : ∀ results, s.resolved = some results → s.calls = items ∧
    results = (List.range items.length).map s.answer ∧ ∀ result ∈ results, result.isSome

/-- In whatever order the calls are answered, every item is mapped once, and to its place. -/
theorem mapWithConcurrency_bounded {items : List T} {concurrency : WithTop ℚ}
    (hconcurrency : 1 ≤ concurrency) {actions : List (Action R)} {s : State T R}
    (hrun : run items (mapWithConcurrency items concurrency) actions = some s) :
    BoundedMap items concurrency actions s := by
  have h := run_consistent hrun
  have hworkers := run_workers hrun
  have hlength := run_remaining hrun
  constructor
  · rw [h.calls_eq]
    exact List.take_prefix _ _
  · refine (WithTop.coe_le_coe.mpr ?_).trans (workerCount_le hconcurrency items.length)
    have hpending := h.pending_le
    exact_mod_cast (by omega : s.pending ≤ workerCount concurrency items.length)
  · exact h.nodup_completed
  · exact fun call hcall hanswer result => h.answerable hcall hanswer result
  · exact h.progress
  · have hinitial : remaining items (mapWithConcurrency (R := R) items concurrency) =
        2 * items.length + workerCount concurrency items.length + 1 := by
      simp [remaining, mapWithConcurrency]
    omega
  · intro results hresolved
    have hcursor : s.cursor = items.length := by
      refine le_antisymm h.cursor_le ?_
      obtain hempty | hitems := Nat.eq_zero_or_pos items.length
      · omega
      obtain ⟨hstarted, _, hall⟩ := h.ended results hresolved
      have hcount := workerCount_pos hconcurrency hitems
      obtain ⟨worker, hworker⟩ := List.exists_mem_of_length_pos
        (by omega : 0 < s.workers.length)
      cases hall worker hworker
      exact h.drained hworker
    refine ⟨?_, h.results_eq hresolved hcursor⟩
    rw [h.calls_eq, hcursor, List.take_length]

/-- The second of three items is answered first, and the first of them last. -/
def answeredLate : State ℕ Char where
  cursor := 3
  results := [some 'a', some 'b', some 'c']
  unstarted := 0
  workers := [.finished, .finished]
  calls := [10, 20, 30]
  completed := [(1, 'b'), (2, 'c'), (0, 'a')]
  resolved := some [some 'a', some 'b', some 'c']

theorem mapWithConcurrency_answeredLate : BoundedMap [10, 20, 30] 2
    [.start, .start, .settle 1 'b', .resume 1, .settle 1 'c', .settle 0 'a', .resume 1, .resume 0,
      .finish] answeredLate :=
  mapWithConcurrency_bounded (by norm_num) (by decide)

end ProtocolSimulation.SimulationView
