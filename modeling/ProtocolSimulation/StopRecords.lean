import ProtocolSimulation.CaptureRuns
import ProtocolSimulation.Histories
import ProtocolSimulation.Requests

/-!
# One record for a capture that ends

Many calls may want to stop the capture of an instance: requests, timers, and scans for
expired captures. The call that ends it takes the right to record that it stopped, and
spends it on the record. A request that stops a capture records a success whenever it
comes through the lock, so it has to find the capture still there.
-/
namespace ProtocolSimulation.Service

open ProtocolSimulation.Texts ProtocolSimulation.JsonValues ProtocolSimulation.KeyedTables
open ProtocolSimulation.Storage ProtocolSimulation.Api ProtocolSimulation.Programs
open ProtocolSimulation.Programs.Prog

inductive StopKind where
  | stopPcap
  | autoStop
  | expiredScan
deriving DecidableEq

/-- Requests that stop a capture, timers that have been set, and scans. -/
inductive StopLaunch : System → StopKind → Handler Unit → System → Prop
  | stopPcap {s : System} (operationContext : Option Text) (id : Text) :
      StopLaunch s .stopPcap (stopPcap operationContext id).discard s
  | autoStop {s : System} {before after : List AutoStopTask} {task : AutoStopTask} :
      s.tasks = before ++ task :: after →
      StopLaunch s .autoStop (autoStopTask task).discard { s with tasks := before ++ after }
  | expiredScan {s : System} : StopLaunch s .expiredScan finalizeExpiredPcapCaptures.discard s

abbrev StopLog := List (Entry System StopKind Eff.Answer)

abbrev StopState := Recorded System StopKind Eff.Answer

def Capturing (t : System) (id : Text) : Prop :=
  ∃ row, t.db.selectInstance id = some row ∧ row.pcapStatus = .capturing

/-- An operation event says that the capture of the instance was stopped. -/
def stopRecorded (id : Text) : Sigma Eff.Answer → Bool
  | ⟨.submitOperationEvent event, _⟩ =>
    decide (event.code = ("capture_stopped" : Text) ∧ event.targetId = id ∧
      event.outcome = .success)
  | _ => false

/-- The capture of the instance is ended. -/
def Ends (id : Text) (e : Entry System StopKind Eff.Answer) : Prop :=
  Capturing e.before id ∧ ¬ Capturing e.after id

def recordCount (id : Text) (h : StopLog) : ℕ := h.countP fun e => stopRecorded id e.did

/-- For each instance at most one record says that its capture was stopped, and the call that
emitted it ended the capture. -/
def RecordedOnce (h : StopLog) : Prop :=
  (∀ id, recordCount id h ≤ 1) ∧ EveryEntry (fun before e => ∀ id, stopRecorded id e.did = true →
    ∃ e' ∈ before, e'.number = e.number ∧ Ends id e') h

/-- A request that stops a capture finds the instance still capturing when it takes the lock. -/
def FindsCapture (e : Entry System StopKind Eff.Answer) : Prop :=
  e.kind = .stopPcap → ∀ id, e.did.1 = .lock id → Capturing e.before id

theorem recordCount_append (id : Text) (h : StopLog) (e : Entry System StopKind Eff.Answer) :
    recordCount id (h ++ [e]) = recordCount id h + if stopRecorded id e.did then 1 else 0 := by
  simp [recordCount, List.countP_append, List.countP_cons]

theorem recordCount_le_append (id : Text) (h later : StopLog) :
    recordCount id h ≤ recordCount id (h ++ later) := by
  rw [recordCount, recordCount, List.countP_append]
  exact Nat.le_add_right _ _

/-! ## The discipline -/

/-- The lock of an instance, and the right to record that its capture was stopped. -/
inductive StopToken where
  | lock (id : Text)
  | record (id : Text)

/-- A lock nobody holds, and the record of a capture that has not ended. -/
def StopToken.Free (s : StopState) : StopToken → Prop
  | lock id => id ∉ s.state.locks
  | record id => Capturing s.state id

structure StopInv (s : StopState) : Prop where
  unrecorded : ∀ id, Capturing s.state id → recordCount id s.history = 0
  once : RecordedOnce s.history

structure StopRely (O : Set StopToken) (s s' : StopState) : Prop where
  history : ∃ later, s'.history = s.history ++ later ∧
    ∀ id, .record id ∈ O → ∀ e ∈ later, stopRecorded id e.did = false
  row : ∀ id, .lock id ∈ O → s'.state.db.selectInstance id = s.state.db.selectInstance id
  held : Disjoint O {t | t.Free s} → Disjoint O {t | t.Free s'}

def stopRecords : Discipline StopState StopToken Empty where
  inv := StopInv
  free s := {t | t.Free s}
  owed _ := ∅
  rely := StopRely
  rely_refl O s := ⟨⟨[], (List.append_nil _).symm, by simp⟩, fun _ _ => rfl, fun h => h⟩
  rely_trans := by
    rintro O s s' s'' ⟨⟨h, heq, hnone⟩, hrow, hheld⟩ ⟨⟨h', heq', hnone'⟩, hrow', hheld'⟩
    refine ⟨⟨h ++ h', by rw [heq', heq, List.append_assoc], ?_⟩,
      fun id hid => (hrow' id hid).trans (hrow id hid), fun hO => hheld' (hheld hO)⟩
    intro id hid e he
    rcases List.mem_append.mp he with he | he
    · exact hnone id hid e he
    · exact hnone' id hid e he

theorem stopRecords_guarded : stopRecords.Guarded := fun _ _ _ hrely => hrely.held

section Calls

variable {json : JsonCodec} {f : Faults} {n : ℕ} {l : StopKind} {id : Text} {α : Type}

/-- The effects of one call. -/
abbrev stopStep (json : JsonCodec) (f : Faults) (n : ℕ) (l : StopKind) (s : StopState) (e : Eff)
    (r : e.Answer) (s' : StopState) : Prop :=
  recordBy (act json f) (fun _ e => FindsCapture e) n l s e r s'

/-- The call may record that the capture was stopped. -/
structure Recordable (n : ℕ) (id : Text) (s : StopState) : Prop where
  unrecorded : recordCount id s.history = 0
  ended : ∃ e ∈ s.history, e.number = n ∧ Ends id e

/-- What a step has to show: only rows under a lock of the call change, no capture begins, and
a record is covered by the right to it. -/
theorem stop_move {s : StopState} {t : System} {e : Eff} {r : e.Answer} {O O' : Set StopToken}
    (hinv : StopInv s) (hO : Disjoint O (stopRecords.free s))
    (hrow : ∀ id, .lock id ∉ O → t.db.selectInstance id = s.state.db.selectInstance id)
    (hcapturing : ∀ id, Capturing t id → Capturing s.state id)
    (hrecord : ∀ id, stopRecorded id ⟨e, r⟩ = true → .record id ∈ O ∧ Recordable n id s)
    {s' : StopState} (hs' : s' = { s with
      state := t
      history := s.history ++ [⟨n, l, s.state, ⟨e, r⟩, t⟩] })
    (howns : O' ⊆ O ∪ stopRecords.free s) (hapart : Disjoint O' (stopRecords.free s'))
    (hfreed : stopRecords.free s' ⊆ stopRecords.free s ∪ O) : stopRecords.Move O ∅ s s' O' ∅ := by
  have hcovered : ∀ id, .record id ∉ O → stopRecorded id ⟨e, r⟩ = false := by
    intro id hid
    by_contra hrecorded
    exact hid (hrecord id (by simpa using hrecorded)).1
  refine ⟨?_, ?_, howns, hapart, hfreed, Set.empty_subset _⟩
  · subst hs'
    refine ⟨?_, ?_, everyEntry_append.mpr ⟨hinv.once.2, ?_⟩⟩
    · intro id hid
      have hfree : StopToken.record id ∈ stopRecords.free s := hcapturing id hid
      have hnone := hcovered id fun hmem => Set.disjoint_left.mp hO hmem hfree
      rw [recordCount_append, hnone, hinv.unrecorded id (hcapturing id hid)]
      rfl
    · intro id
      rw [recordCount_append]
      split
      next hrecorded => rw [(hrecord id hrecorded).2.unrecorded]
      next => exact hinv.once.1 id
    · intro id hrecorded
      exact (hrecord id hrecorded).2.ended
  · intro P hP hfree
    refine ⟨⟨_, by rw [hs'], ?_⟩, ?_, ?_⟩
    · intro id hid e' he'
      obtain rfl := List.mem_singleton.mp he'
      exact hcovered id fun hmem => Set.disjoint_left.mp hP hmem hid
    · intro id hid
      rw [hs']
      exact hrow id fun hmem => Set.disjoint_left.mp hP hmem hid
    · intro _
      exact Set.disjoint_of_subset_right hfreed (Set.disjoint_union_right.mpr ⟨hfree, hP.symm⟩)

/-! ## Effects beside the captures -/

/-- The effects that change no row and no lock and record no success. -/
def Eff.Unrecorded (e : Eff) : Prop := e.Aside ∧ ∀ id (r : e.Answer), stopRecorded id ⟨e, r⟩ = false

theorem Eff.Silent.unrecorded {e : Eff} (he : e.Silent) : e.Unrecorded := by
  cases e with
  | getRule | selectInstances | selectInstance | selectEndpoints | platformVersion | listWorkloads
  | readFile | timestamp | hashOrder | sleep => exact ⟨trivial, fun _ _ => rfl⟩
  | _ => exact he.elim

theorem stopFree_eq {s : StopState} {t : System} (hdb : t.db = s.state.db)
    (hlocks : t.locks = s.state.locks) (history : StopLog) :
    stopRecords.free ⟨t, history, s.calls⟩ = stopRecords.free s := by
  ext token
  cases token with
  | lock id =>
    show id ∉ t.locks ↔ id ∉ s.state.locks
    rw [hlocks]
  | record id =>
    show Capturing t id ↔ Capturing s.state id
    rw [Capturing, hdb, Capturing]

/-- A call may give away what it holds on the way. -/
theorem stop_aside {s : StopState} {t : System} {e : Eff} {r : e.Answer} {O O' : Set StopToken}
    (hinv : StopInv s) (hO : Disjoint O (stopRecords.free s)) (hsub : O' ⊆ O) (he : e.Aside)
    (hact : act json f s.state e r t)
    (hrecord : ∀ id, stopRecorded id ⟨e, r⟩ = true → .record id ∈ O ∧ Recordable n id s) :
    stopRecords.Move O ∅ s ⟨t, s.history ++ [⟨n, l, s.state, ⟨e, r⟩, t⟩], s.calls⟩ O' ∅ := by
  obtain ⟨hdb, hlocks⟩ := act_aside he hact
  refine stop_move hinv hO (fun _ _ => by rw [hdb]) ?_ hrecord rfl
    (hsub.trans Set.subset_union_left) ?_ ?_
  · intro id hid
    rwa [Capturing, hdb] at hid
  · rw [stopFree_eq hdb hlocks]
    exact Set.disjoint_of_subset_left hsub hO
  · rw [stopFree_eq hdb hlocks]
    exact Set.subset_union_left

theorem stop_unrecorded {s s' : StopState} {e : Eff} {r : e.Answer} {O O' : Set StopToken}
    (hinv : StopInv s) (hO : Disjoint O (stopRecords.free s)) (hsub : O' ⊆ O) (he : e.Unrecorded)
    (h : stopStep json f n l s e r s') :
    stopRecords.Move O ∅ s s' O' ∅ ∧ ∀ P, StopRely P s s' := by
  obtain ⟨t, hact, -, rfl⟩ := h
  refine ⟨stop_aside hinv hO hsub he.1 hact ?_, fun P => ?_⟩
  · intro id hrecorded
    rw [he.2 id r] at hrecorded
    exact absurd hrecorded (by simp)
  · obtain ⟨hdb, hlocks⟩ := act_aside he.1 hact
    refine ⟨⟨[_], rfl, ?_⟩, fun id _ => congrArg (fun db => db.selectInstance id) hdb, ?_⟩
    · intro id _ e' he'
      obtain rfl := List.mem_singleton.mp he'
      exact he.2 id r
    · intro hP
      show Disjoint P (stopRecords.free _)
      rwa [stopFree_eq hdb hlocks]

/-- Effects that record nothing, in a program of a call. -/
theorem stop_of_uses {p : Handler α} {O : Set StopToken} {K : StopState → Prop}
    (hK : ∀ s s', StopRely O s s' → K s → K s') (hp : p.Uses Eff.Unrecorded) :
    stopRecords.Hoare (stopStep json f n l) O K p fun _ O' s => O' = O ∧ K s := by
  refine .of_uses stopRecords_guarded hK ?_ hp
  intro e he s r s' hs hO hinv hstep
  obtain ⟨hmove, hrely⟩ := stop_unrecorded hinv hO subset_rfl he hstep
  exact ⟨hmove, hK s s' (hrely O) hs⟩

/-! ## Finishing a capture -/

theorem StopRely.rowIs {s s' : StopState} {row : InstanceRow} {O : Set StopToken}
    (hrely : StopRely O s s') (hO : .lock id ∈ O) (h : RowIs id row s.state) :
    RowIs id row s'.state :=
  (hrely.row id hO).trans h

theorem Recordable.later {s s' : StopState} {later : StopLog}
    (hhistory : s'.history = s.history ++ later)
    (hnone : ∀ e ∈ later, stopRecorded id e.did = false) (h : Recordable n id s) :
    Recordable n id s' := by
  obtain ⟨e, he, hn, hends⟩ := h.ended
  refine ⟨?_, e, by rw [hhistory]; exact List.mem_append_left _ he, hn, hends⟩
  rw [recordCount, hhistory, List.countP_append, ← recordCount, h.unrecorded, Nat.zero_add,
    List.countP_eq_zero]
  intro e' he'
  rw [hnone e' he']
  simp

theorem Recordable.rely {s s' : StopState} {O : Set StopToken} (hO : .record id ∈ O)
    (hrely : StopRely O s s') (h : Recordable n id s) : Recordable n id s' := by
  obtain ⟨later, hhistory, hnone⟩ := hrely.history
  exact h.later hhistory (hnone id hO)

/-- What a call that finishes a capture holds besides the lock, and knows, when it is done. -/
def Finalized (n : ℕ) (l : StopKind) (id : Text) (r : Except Error (Option (Instance × Bool)))
    (O : Set StopToken) (s : StopState) : Prop :=
  match r with
  | .ok (some (_, true)) => O = {.record id} ∧ Recordable n id s
  | .ok (some (_, false)) => O = ∅ ∧ l ≠ .stopPcap
  | .ok none => O = ∅
  | .error _ => O ⊆ {.record id}

theorem Finalized.subset {r : Except Error (Option (Instance × Bool))} {O : Set StopToken}
    {s : StopState} (h : Finalized n l id r O s) : O ⊆ {.record id} := by
  rcases r with e | _ | ⟨inst, _ | _⟩
  · exact h
  · exact (show O = ∅ from h).subset.trans (Set.empty_subset _)
  · exact h.1.subset.trans (Set.empty_subset _)
  · exact h.1.subset

theorem Finalized.later {r : Except Error (Option (Instance × Bool))} {O : Set StopToken}
    {s s' : StopState} {later : StopLog} (hhistory : s'.history = s.history ++ later)
    (hnone : .record id ∈ O → ∀ e ∈ later, stopRecorded id e.did = false)
    (h : Finalized n l id r O s) : Finalized n l id r O s' := by
  rcases r with e | _ | ⟨inst, _ | _⟩
  · exact h
  · exact h
  · exact h
  · exact ⟨h.1, h.2.later hhistory (hnone (h.1 ▸ rfl))⟩

/-- The state of the capture is written under the lock. When it is, the call has ended the
capture. -/
theorem stop_updatePcap {status : PcapStatus} {startTime : Option ℤ}
    {captureId filePath : Option Text}
    {row : InstanceRow} (hrow : row.pcapStatus = .capturing) (hstatus : status ≠ .capturing) :
    stopRecords.Hoare (stopStep json f n l) {.lock id} (fun s => RowIs id row s.state)
      (await (.updatePcap id status startTime captureId filePath)) fun r O s =>
        (r = .ok () → O = {.lock id, .record id} ∧ Recordable n id s) ∧
        (r ≠ .ok () → O = {.lock id}) := by
  refine .call stopRecords_guarded
    (fun s s' hrely h => hrely.rowIs (Set.mem_singleton _) h) ?_ fun r O => .ret fun s h => h
  rintro s r s' hs hO hinv ⟨t, hact, -, rfl⟩
  rcases hact with ⟨rfl, rfl⟩ | ⟨rfl, -, e, rfl⟩
  · have hbefore : Capturing s.state id := ⟨row, hs, hrow⟩
    have hselect : ∀ j, j ≠ id → (s.state.db.updatePcap id status startTime captureId
        filePath).selectInstance j = s.state.db.selectInstance j := by
      intro j hj
      rw [Database.selectInstance_updatePcap, funext fun _ => if_neg hj, Option.map_id']
    have hafter : ∀ j, Capturing { s.state with
        db := s.state.db.updatePcap id status startTime captureId filePath } j →
        j ≠ id ∧ Capturing s.state j := by
      rintro j ⟨row', hrow', hcapturing⟩
      have hj : j ≠ id := by
        rintro rfl
        rw [Database.selectInstance_updatePcap,
          show s.state.db.selectInstance j = _ from hs] at hrow'
        obtain rfl := Option.some.inj hrow'
        simp only [if_true] at hcapturing
        exact hstatus hcapturing
      exact ⟨hj, row', (hselect j hj).symm.trans hrow', hcapturing⟩
    refine ⟨{.lock id, .record id},
      stop_move hinv hO ?_ (fun j hj => (hafter j hj).2) ?_ rfl ?_ ?_ ?_,
      fun _ => ⟨rfl, ?_, ?_⟩, fun h => absurd rfl h⟩
    · intro j hj
      refine hselect j ?_
      rintro rfl
      exact hj rfl
    · exact fun j hrecorded => absurd hrecorded (by simp [stopRecorded])
    · rintro token (rfl | rfl)
      · exact .inl rfl
      · exact .inr hbefore
    · rw [Set.disjoint_left]
      rintro token (rfl | rfl) hfree
      · exact Set.disjoint_left.mp hO rfl hfree
      · exact (hafter id hfree).1 rfl
    · intro token hfree
      cases token with
      | lock j => exact .inl hfree
      | record j => exact .inl (hafter j hfree).2
    · rw [recordCount_append, hinv.unrecorded id hbefore]
      rfl
    · exact ⟨_, List.mem_append_right _ (List.mem_singleton_self _), rfl, hbefore,
        fun h => (hafter id h).1 rfl⟩
  · refine ⟨{.lock id}, stop_move hinv hO (fun _ _ => rfl) (fun _ h => h) ?_ rfl
      Set.subset_union_left hO Set.subset_union_left, fun h => absurd h (by simp), fun _ => rfl⟩
    exact fun j hrecorded => absurd hrecorded (by simp [stopRecorded])

/-- What `finalize_pcap_capture` has, under the lock, when its body ends. -/
abbrev FinalizedLocked (n : ℕ) (l : StopKind) (id : Text)
    (r : Except Error (Option (Instance × Bool))) (O : Set StopToken) (s : StopState) : Prop :=
  ∃ O', O = insert (.lock id) O' ∧ Finalized n l id r O' s

theorem finalizedLocked_error (e : Error) (s : StopState) :
    FinalizedLocked n l id (.error e) {.lock id} s :=
  ⟨∅, (insert_empty_eq _).symm, Set.empty_subset _⟩

theorem stop_updatePcapState {status : PcapStatus} {startTime : Option ℤ}
    {captureId filePath : Option Text} {inst : Instance} (hrow : inst.row.pcapStatus = .capturing)
    (hstatus : status ≠ .capturing) :
    stopRecords.Hoare (stopStep json f n l) {.lock id} (fun s => RowIs id inst.row s.state)
      (updatePcapState id status startTime captureId filePath) fun r O s =>
        FinalizedLocked n l id (r.map fun updated => some (updated.getD inst, true)) O s := by
  rw [updatePcapState]
  refine (stop_updatePcap hrow hstatus).bind ?_
  rintro (e | _) O s hs hO
  · exact ⟨rfl, hO, ∅, (hs.2 (by simp)).trans (insert_empty_eq _).symm, Set.empty_subset _⟩
  obtain ⟨rfl, hrecordable⟩ := hs.1 rfl
  have hread : stopRecords.Hoare (stopStep json f n l) {.lock id, .record id} (Recordable n id)
      (getInstance id) fun _ O' s => O' = {.lock id, .record id} ∧ Recordable n id s :=
    stop_of_uses (fun s s' hrely h => h.rely (.inr rfl) hrely)
      (uses_getInstance_silent (fun e he => he.unrecorded) id)
  refine hread.weaken (fun _ h => h) ?_ s hrecordable hO
  rintro (e | updated) O' s' ⟨rfl, hs'⟩
  · exact ⟨_, rfl, subset_rfl⟩
  · exact ⟨_, rfl, rfl, hs'⟩

/-- Once the Agent has stopped the capture, its end is written whatever its bytes are. -/
theorem stop_storeCapture {inst : Instance} (hrow : inst.row.pcapStatus = .capturing)
    (pcapBytes : Bytes) :
    stopRecords.Hoare (stopStep json f n l) {.lock id} (fun s => RowIs id inst.row s.state)
      (storeCapture id inst pcapBytes) (FinalizedLocked n l id) := by
  have hfile : ∀ {e : Eff}, e.Unrecorded → stopRecords.Hoare (stopStep json f n l) {.lock id}
      (fun s => RowIs id inst.row s.state) (await e) fun _ O s => O = {.lock id} ∧
        RowIs id inst.row s.state :=
    fun he => stop_of_uses (fun s s' hrely h => hrely.rowIs (Set.mem_singleton _) h)
      ⟨he, fun _ => trivial⟩
  unfold storeCapture
  split
  · refine (stop_updatePcapState hrow (by decide)).bind ?_
    rintro (e | updated) O <;> exact .ret fun _ h => h
  refine (hfile (e := .createPcapDir) ⟨trivial, fun _ _ => rfl⟩).seq ?_
  rintro (e | _)
  · exact .ret fun s _ => finalizedLocked_error e s
  refine (hfile (e := .writeFile _ _) ⟨trivial, fun _ _ => rfl⟩).seq ?_
  rintro (e | _)
  · exact .ret fun s _ => finalizedLocked_error e s
  · refine (stop_updatePcapState hrow (by decide)).bind ?_
    rintro (e | updated) O <;> exact .ret fun _ h => h

/-- A request that stops a capture has found it when it took the lock. -/
theorem stop_finalizePcapCaptureOf {inst : Instance} {expected : Option Text}
    (hfinds : l = .stopPcap → expected = none ∧ inst.row.pcapStatus = .capturing) :
    stopRecords.Hoare (stopStep json f n l) {.lock id} (fun s => RowIs id inst.row s.state)
      (finalizePcapCaptureOf id expected inst) (FinalizedLocked n l id) := by
  unfold finalizePcapCaptureOf
  split
  next hother =>
    refine .ret fun s _ => ⟨∅, (insert_empty_eq _).symm, rfl, ?_⟩
    intro hl
    obtain ⟨rfl, hcapturing⟩ := hfinds hl
    simp [hcapturing] at hother
  next hsame =>
    have hrow : inst.row.pcapStatus = .capturing := by
      by_contra hnot
      exact hsame (.inl hnot)
    split
    · exact .ret fun s _ => finalizedLocked_error _ s
    next workloadId _ =>
    split
    · exact .ret fun s _ => finalizedLocked_error _ s
    next captureId _ =>
      have hstop : stopRecords.Hoare (stopStep json f n l) {.lock id}
          (fun s => RowIs id inst.row s.state)
          (await (.stopPcap workloadId captureId)) fun _ O s => O = {.lock id} ∧
            RowIs id inst.row s.state :=
        stop_of_uses (fun s s' hrely h => hrely.rowIs (Set.mem_singleton _) h)
          ⟨⟨trivial, fun _ _ => rfl⟩, fun _ => trivial⟩
      refine hstop.seq ?_
      rintro (e | pcapBytes)
      · exact .ret fun s _ => finalizedLocked_error e s
      · exact stop_storeCapture hrow pcapBytes

/-- The lock is given back, and what else the call holds it keeps. -/
theorem stop_unlock {r : Except Error (Option (Instance × Bool))} {O : Set StopToken} :
    stopRecords.Hoare (stopStep json f n l) (insert (.lock id) O) (Finalized n l id r O)
      (await (.unlock id)) fun _ O' s => O' = O ∧ Finalized n l id r O s := by
  refine .call stopRecords_guarded ?_ ?_ fun _ _ => .ret fun _ h => h
  · rintro s s' ⟨⟨later, hhistory, hnone⟩, -, -⟩ hs
    exact hs.later hhistory fun hid => hnone id (Set.mem_insert_of_mem _ hid)
  rintro s r' s' hs hO hinv ⟨t, rfl, -, rfl⟩
  have hrest : Disjoint O (stopRecords.free s) :=
    Set.disjoint_of_subset_left (Set.subset_insert _ _) hO
  have hfree : ∀ history, stopRecords.free { s with
      state := { s.state with locks := s.state.locks \ {id} }
      history := history } ⊆ stopRecords.free s ∪ {.lock id} := by
    rintro history token hfree
    cases token with
    | lock j =>
      by_cases hj : j = id
      · exact .inr (by rw [hj]; rfl)
      · exact .inl fun hmem => hfree ⟨hmem, hj⟩
    | record j => exact .inl hfree
  refine ⟨O, stop_move (t := { s.state with locks := s.state.locks \ {id} }) hinv hO
    (fun _ _ => rfl) (fun _ h => h) ?_ rfl ((Set.subset_insert _ _).trans Set.subset_union_left)
    ?_ ?_, rfl, ?_⟩
  · exact fun j hrecorded => absurd hrecorded (by simp [stopRecorded])
  · refine Set.disjoint_of_subset_right (hfree _) (Set.disjoint_union_right.mpr ⟨hrest, ?_⟩)
    exact Set.disjoint_of_subset_left hs.subset (by simp)
  · refine (hfree _).trans (Set.union_subset_union_right _ ?_)
    exact Set.singleton_subset_iff.mpr (Set.mem_insert _ _)
  · refine hs.later rfl ?_
    intro _ e he
    obtain rfl := List.mem_singleton.mp he
    rfl

theorem stop_lock :
    stopRecords.Hoare (stopStep json f n l) ∅ (fun _ => True) (await (.lock id)) fun _ O s =>
      O = {.lock id} ∧ (l = .stopPcap → Capturing s.state id) := by
  refine .call stopRecords_guarded (fun _ _ _ _ => trivial) ?_ fun _ _ => .ret fun _ h => h
  rintro s r s' - hO hinv ⟨t, ⟨hnot, rfl⟩, hfinds, rfl⟩
  refine ⟨{.lock id}, stop_move (t := { s.state with locks := insert id s.state.locks }) hinv hO
    (fun _ _ => rfl) (fun _ h => h) ?_ rfl ?_ ?_ ?_, rfl, ?_⟩
  · exact fun j hrecorded => absurd hrecorded (by simp [stopRecorded])
  · exact Set.singleton_subset_iff.mpr (.inr hnot)
  · rw [Set.disjoint_singleton_left]
    exact fun hfree => hfree (Set.mem_insert _ _)
  · intro token hfree
    cases token with
    | lock j => exact .inl fun hmem => hfree (Set.mem_insert_of_mem _ hmem)
    | record j => exact .inl hfree
  · exact fun hl => hfinds hl id rfl

theorem Capturing.rely {s s' : StopState} {O : Set StopToken} (hO : .lock id ∈ O)
    (hrely : StopRely O s s') (h : Capturing s.state id) : Capturing s'.state id := by
  obtain ⟨row, hrow, hcapturing⟩ := h
  exact ⟨row, (hrely.row id hO).trans hrow, hcapturing⟩

/-- The row is read under the lock. -/
theorem stop_getInstance :
    stopRecords.Hoare (stopStep json f n l) {.lock id}
    (fun s => l = .stopPcap → Capturing s.state id)
      (getInstance id) fun r O s => O = {.lock id} ∧ ∀ inst, r = .ok (some inst) →
        RowIs id inst.row s.state ∧ (l = .stopPcap → inst.row.pcapStatus = .capturing) := by
  let Found (row : InstanceRow) (s : StopState) : Prop :=
    RowIs id row s.state ∧ (l = .stopPcap → row.pcapStatus = .capturing)
  have hread : stopRecords.Hoare (stopStep json f n l) {.lock id}
      (fun s => l = .stopPcap → Capturing s.state id) (await (.selectInstance id)) fun r O s =>
        O = {.lock id} ∧ ∀ row, r = .ok (some row) → Found row s := by
    refine .call stopRecords_guarded
      (fun s s' hrely hs hl => (hs hl).rely (Set.mem_singleton _) hrely) ?_
      fun _ _ => .ret fun _ h => h
    intro s r s' hs hO hinv hstep
    refine ⟨_, (stop_unrecorded hinv hO subset_rfl
      (Eff.Silent.unrecorded (e := .selectInstance id) trivial)
      hstep).1, rfl, ?_⟩
    obtain ⟨t, ⟨rfl, hr⟩, -, rfl⟩ := hstep
    rintro row rfl
    rcases hr with heq | ⟨-, e, he⟩
    · have hrow := Except.ok.inj heq
      refine ⟨hrow.symm, fun hl => ?_⟩
      obtain ⟨row', hrow', hcapturing⟩ := hs hl
      obtain rfl := Option.some.inj (hrow.trans hrow')
      exact hcapturing
    · exact absurd he (by simp)
  rw [getInstance]
  refine hread.seq ?_
  rintro (e | _ | row)
  · exact .ret fun _ _ => ⟨rfl, fun inst heq => absurd heq (by simp)⟩
  · exact .ret fun _ _ => ⟨rfl, fun inst heq => absurd heq (by simp)⟩
  have hendpoints : stopRecords.Hoare (stopStep json f n l) {.lock id} (Found row)
      (await (.selectEndpoints row.id)) fun _ O s => O = {.lock id} ∧ Found row s :=
    stop_of_uses (fun s s' hrely h => ⟨hrely.rowIs (Set.mem_singleton _) h.1, h.2⟩)
      ⟨Eff.Silent.unrecorded trivial, fun _ => trivial⟩
  refine (hendpoints.weaken (fun s hs => hs row rfl) fun _ _ _ h => h).seq ?_
  rintro (e | endpoints)
  · exact .ret fun _ _ => ⟨rfl, fun inst heq => absurd heq (by simp)⟩
  · refine .ret fun s hs => ⟨rfl, fun inst heq => ?_⟩
    obtain rfl := Option.some.inj (Except.ok.inj heq)
    exact hs

theorem stop_finalizePcapCapture {expected : Option Text}
    (hexpected : l = .stopPcap → expected = none) :
    stopRecords.Hoare (stopStep json f n l) ∅ (fun _ => True) (finalizePcapCapture id expected)
      (Finalized n l id) := by
  refine stop_lock.seq fun _ => ?_
  refine Discipline.Hoare.bind (P := FinalizedLocked n l id) ?_ fun r O => ?_
  · refine stop_getInstance.seq ?_
    rintro (e | _ | inst)
    · exact .ret fun s _ => finalizedLocked_error e s
    · exact .ret fun s _ => ⟨∅, (insert_empty_eq _).symm, rfl⟩
    · intro s hs
      obtain ⟨hrow, hcapturing⟩ := hs inst rfl
      exact stop_finalizePcapCaptureOf (fun hl => ⟨hexpected hl, hcapturing hl⟩) s hrow
  · rintro s ⟨O', rfl, hfinal⟩ hO
    refine (Discipline.Hoare.bind stop_unlock fun _ O => ?_) s hfinal hO
    exact .ret fun s h => h.1 ▸ h.2

/-! ## The calls -/

/-- The right to record is spent on the record. -/
theorem stop_success (operationContext : Option Text) :
    stopRecords.Hoare (stopStep json f n l) {.record id} (Recordable n id)
      (emitOperationEvent (captureStopped id (.success, .info) operationContext))
      fun _ O _ => O = ∅ := by
  refine .call stopRecords_guarded (A := fun _ O _ => O = ∅) ?_ ?_ fun _ _ => .ret fun _ h => h
  · exact fun s s' hrely h => h.rely (Set.mem_singleton _) hrely
  rintro s r s' hs hO hinv ⟨t, hact, -, rfl⟩
  refine ⟨∅, stop_aside hinv hO (Set.empty_subset _) trivial hact ?_, rfl⟩
  intro j hrecorded
  obtain ⟨-, rfl, -⟩ : _ ∧ id = j ∧ _ := of_decide_eq_true hrecorded
  exact ⟨rfl, hs⟩

/-- A failure says nothing, and the right to record is given up. -/
theorem stop_failure (operationContext : Option Text) (code summary : Text) {O : Set StopToken} :
    stopRecords.Hoare (stopStep json f n l) O (fun _ => True)
      (emitOperationEvent ((captureStopped id (.failure, .error) operationContext).withError code
        summary)) fun _ O _ => O = ∅ := by
  refine .call stopRecords_guarded (A := fun _ O _ => O = ∅) (fun _ _ _ h => h) ?_
    fun _ _ => .ret fun _ h => h
  intro s r s' _ hO hinv hstep
  refine ⟨∅, (stop_unrecorded (e := .submitOperationEvent _) hinv hO (Set.empty_subset _)
    ⟨trivial, ?_⟩ hstep).1, rfl⟩
  intro j _
  exact decide_eq_false fun h => absurd h.2.2
    (by simp [captureStopped, operationEvent, OperationEvent.withError])

theorem stop_autoStopPcap (id captureId : Text) (hl : l ≠ .stopPcap) :
    Harmless stopRecords (stopStep json f n l) (autoStopPcap id captureId) := by
  refine Discipline.Hoare.triple ?_
  refine (stop_finalizePcapCapture fun h => absurd h hl).bind ?_
  rintro (e | _ | ⟨inst, _ | _⟩) O
  · exact (stop_failure none _ _).weaken (fun _ _ => trivial) fun _ _ _ h => ⟨h, trivial⟩
  · exact .ret fun s hs => ⟨hs, trivial⟩
  · exact .ret fun s hs => ⟨hs.1, trivial⟩
  · rintro s ⟨rfl, hs⟩
    exact (stop_success none).weaken (fun _ h => h) (fun _ _ _ h => ⟨h, trivial⟩) s hs

theorem stop_stopPcap (operationContext : Option Text) (id : Text) :
    stopRecords.Hoare (stopStep json f n .stopPcap) ∅ (fun _ => True) (stopPcap operationContext id)
      fun _ O _ => O = ∅ := by
  have hread : stopRecords.Hoare (stopStep json f n .stopPcap) ∅ (fun _ => True) (getInstance id)
      fun _ O _ => O = ∅ ∧ True :=
    stop_of_uses (fun _ _ _ h => h) (uses_getInstance_silent (fun e he => he.unrecorded) id)
  refine hread.seq ?_
  rintro (e | _ | inst)
  · exact .ret fun _ _ => rfl
  · exact .ret fun _ _ => rfl
  dsimp only
  split
  · exact .ret fun _ _ => rfl
  refine (stop_finalizePcapCapture fun _ => rfl).bind ?_
  rintro (e | _ | ⟨updated, _ | _⟩) O
  · exact Discipline.Hoare.bind ((stop_failure operationContext _ _).weaken (fun _ _ => trivial)
      fun _ _ _ h => h) fun _ _ => .ret fun _ h => h
  · exact .ret fun s hs => hs
  · exact fun s hs => absurd rfl hs.2
  · rintro s ⟨rfl, hs⟩
    exact (Discipline.Hoare.bind (stop_success operationContext) fun _ _ => .ret fun _ h => h) s hs

end Calls

theorem launch_stopRecords {json : JsonCodec} {f : Faults} {s s' : StopState}
    {p : Prog (Call StopKind Eff) (fun c => c.effect.Answer) Unit} (hinv : stopRecords.inv s)
    (h : recordLaunch StopLaunch s p s') :
    stopRecords.Starts (record (act json f) fun _ e => FindsCapture e) s p s' := by
  obtain ⟨l, q, t, hlaunch, rfl, rfl⟩ := h
  have hmove : ∀ tasks, stopRecords.Move ∅ ∅ s { s with
      state := { s.state with tasks := tasks }
      calls := s.calls + 1 } ∅ ∅ := by
    intro tasks
    refine ⟨⟨hinv.unrecorded, hinv.once⟩, fun P _ _ =>
      ⟨⟨[], (List.append_nil _).symm, by simp⟩, fun _ _ => rfl, fun h => h⟩,
      Set.empty_subset _, Set.empty_disjoint _, Set.subset_union_left, Set.empty_subset _⟩
  have hsilent : ∀ {n : ℕ} {l : StopKind} (e : Eff), e.Silent → ∀ s r s', StopInv s →
      stopStep json f n l s e r s' → stopRecords.Move ∅ ∅ s s' ∅ ∅ := fun e he s r s' hinv hstep =>
    (stop_unrecorded hinv (Set.empty_disjoint _) subset_rfl he.unrecorded hstep).1
  cases hlaunch with
  | stopPcap operationContext id =>
    exact Discipline.starts_by (hmove _) (Discipline.wp_discard
      ((stop_stopPcap operationContext id).settled trivial (Set.empty_disjoint _)))
  | autoStop htasks =>
    exact Discipline.starts_by (hmove _) (Discipline.wp_discard ((harmless_autoStopTask hsilent
      (stop_autoStopPcap _ _ (by decide))).settled trivial))
  | expiredScan =>
    exact Discipline.starts_by (hmove _) (Discipline.wp_discard
      ((harmless_finalizeExpiredPcapCaptures hsilent fun id captureId =>
        stop_autoStopPcap id captureId (by decide)).settled trivial))

/-- In every interleaving of requests that stop captures, timers and scans, whatever fails in
them, each capture that ends is recorded once at most, and by the call that ended it, if the
requests find the instance still capturing when they take its lock. -/
theorem recordedOnce_of_findsCapture (json : JsonCodec) (f : Faults) (s : System)
    {c : Pool StopState fun call : Call StopKind Eff => call.effect.Answer}
    (h : Reachable (record (act json f) fun _ e => FindsCapture e) (recordLaunch StopLaunch)
      (Pool.start (.start s)) c) : RecordedOnce c.state.history := by
  have hinv : stopRecords.inv c.state := Discipline.inv_of_reachable
    (fun _ _ _ hinv hl => launch_stopRecords hinv hl) (s := .start s)
    ⟨fun _ _ => rfl, fun _ => Nat.zero_le 1, everyEntry_nil⟩ rfl h
  exact hinv.once

/-! ## Two requests for one capture -/

/-- The system while the capture of its one instance is active. -/
def capturingOnce : System :=
  { runningOnce with
    db := runningOnce.db.updatePcap sshInstance .capturing (some 0) (some "c-1") none
    agent := { runningOnce.agent with captures := {(("w-1" : Text), ("c-1" : Text))} } }

theorem capturingOnce_row : capturingOnce.db.selectInstance sshInstance = some capturingRow := by
  rw [capturingOnce, Database.selectInstance_updatePcap,
    show runningOnce.db.selectInstance sshInstance = _ from runningOnce_row]
  rfl

section Twice

variable (json : JsonCodec) (f : Faults) {s : System}

/-- The effects of a request that finds the instance capturing when it takes the lock. -/
def actFinding (s : System) (e : Eff) (r : e.Answer) (s' : System) : Prop :=
  act json f s e r s' ∧ ∀ id, e = .lock id → Capturing s id

/-- What a request does once its capture is finished. -/
def stopSuccess (r : Instance × Bool) : Handler (Except ApiError Instance) := do
  emitOperationEvent (captureStopped sshInstance (.success, .info) none)
  return .ok r.1

/-- A request to stop the capture runs until it comes to the lock. -/
theorem runs_askToStop (hrow : s.db.selectInstance sshInstance = some capturingRow) :
    ∃ g, Runs (actFinding json f) s (stopPcap none sshInstance) s
      (finalizePcapCapture sshInstance none >>= g) ∧ ∀ r, g (.ok (some r)) = stopSuccess r := by
  have hread := congrArg (Except.ok (ε := Error)) hrow.symm
  exact ⟨_, .call (.ok (some capturingRow)) ⟨⟨rfl, .inl hread⟩, nofun⟩
    (.call (.ok (s.db.selectEndpoints sshInstance)) ⟨⟨rfl, .inl rfl⟩, nofun⟩ .refl), fun _ => rfl⟩

/-- It finds the capture active and ends it. -/
theorem runs_finalizeOnce (hrow : s.db.selectInstance sshInstance = some capturingRow)
    (hlock : sshInstance ∉ s.locks) : ∃ r s', Runs (actFinding json f) s
      (finalizePcapCapture sshInstance none) s' (ret (.ok (some r))) ∧
    s'.db.selectInstance sshInstance = some runningRow ∧ sshInstance ∉ s'.locks ∧
    s'.tasks = s.tasks := by
  have hread := congrArg (Except.ok (ε := Error)) hrow.symm
  have hafter : (s.db.updatePcap sshInstance .idle none none none).selectInstance sshInstance =
      some runningRow := by
    rw [Database.selectInstance_updatePcap, hrow]
    rfl
  refine ⟨_, _, .call () ⟨⟨hlock, rfl⟩, ?_⟩ (.call (.ok (some capturingRow))
    ⟨⟨rfl, .inl hread⟩, nofun⟩ (.call (.ok (s.db.selectEndpoints sshInstance))
    ⟨⟨rfl, .inl rfl⟩, nofun⟩ (.call (.ok []) ⟨.inl ⟨[], rfl, rfl⟩, nofun⟩
    (.call (.ok ()) ⟨.inl ⟨rfl, rfl⟩, nofun⟩ (.call (.ok (some runningRow))
    ⟨⟨rfl, .inl (congrArg Except.ok hafter.symm)⟩, nofun⟩
    (.call (.ok (s.db.selectEndpoints sshInstance)) ⟨⟨rfl, .inl rfl⟩, nofun⟩
    (.call () ⟨rfl, nofun⟩ .refl))))))), hafter, fun hmem => hmem.2 rfl, rfl⟩
  rintro id heq
  obtain rfl := Eff.lock.inj heq
  exact ⟨_, hrow, rfl⟩

/-- It finds the capture stopped. -/
theorem runs_finalizeAgain (hrow : s.db.selectInstance sshInstance = some runningRow)
    (hlock : sshInstance ∉ s.locks) (expected : Option Text) : ∃ endpoints s', Runs (act json f) s
      (finalizePcapCapture sshInstance expected) s'
      (ret (.ok (some (⟨runningRow, endpoints⟩, false)))) :=
  ⟨_, _, .call () ⟨hlock, rfl⟩ (.call (.ok (some runningRow))
    ⟨rfl, .inl (congrArg Except.ok hrow.symm)⟩ (.call (.ok (s.db.selectEndpoints runningRow.id))
    ⟨rfl, .inl rfl⟩ (.call () rfl .refl)))⟩

theorem runs_stopOnce (hrow : s.db.selectInstance sshInstance = some capturingRow)
    (hlock : sshInstance ∉ s.locks) : ∃ r s', Runs (actFinding json f) s
      (stopPcap none sshInstance) s' (stopSuccess r) ∧
    s'.db.selectInstance sshInstance = some runningRow ∧ sshInstance ∉ s'.locks ∧
    s'.tasks = s.tasks := by
  obtain ⟨g, hask, hg⟩ := runs_askToStop json f hrow
  obtain ⟨r, s', hfinal, hafter⟩ := runs_finalizeOnce json f hrow hlock
  refine ⟨r, s', ?_, hafter⟩
  rw [← hg r]
  exact hask.trans (hfinal.bind g)

/-- The timer comes when the capture is stopped already. -/
theorem runs_timerLate (hrow : s.db.selectInstance sshInstance = some runningRow)
    (hlock : sshInstance ∉ s.locks) :
    ∃ s', Runs (act json f) s (autoStopTask ⟨sshInstance, "c-1", 0⟩) s' (ret ()) := by
  obtain ⟨endpoints, s', hfinal⟩ := runs_finalizeAgain json f hrow hlock (some "c-1")
  exact ⟨s', .call (300 : ℤ) rfl (.call () rfl (hfinal.bind _))⟩

/-- The record of a request adds one. -/
theorem recordCount_success (h : StopLog) {n : ℕ} {l : StopKind} {s s' : System} :
    recordCount sshInstance (h ++ [⟨n, l, s, ⟨.submitOperationEvent
      (captureStopped sshInstance (.success, .info) none), .ok ()⟩, s'⟩]) =
      recordCount sshInstance h + 1 := by
  rw [recordCount_append, if_pos (by simp [stopRecorded, captureStopped, operationEvent])]

end Twice

theorem findsCapture_of_finding {json : JsonCodec} {f : Faults} {n : ℕ} {l : StopKind}
    (_ : StopLog) (s : System) (e : Eff) (r : e.Answer) (s' : System) (_ : True)
    (hact : actFinding json f s e r s') :
    act json f s e r s' ∧ FindsCapture ⟨n, l, s, ⟨e, r⟩, s'⟩ ∧ True :=
  ⟨hact.1, fun _ => hact.2, trivial⟩

theorem findsCapture_of_timer {json : JsonCodec} {f : Faults} {n : ℕ}
    (_ : StopLog) (s : System) (e : Eff) (r : e.Answer) (s' : System) (_ : True)
    (hact : act json f s e r s') :
    act json f s e r s' ∧ FindsCapture ⟨n, .autoStop, s, ⟨e, r⟩, s'⟩ ∧ True :=
  ⟨hact, nofun, trivial⟩

/-- The timer of the capture waits. -/
def timedOnce : System := { capturingOnce with tasks := [⟨sshInstance, "c-1", 0⟩] }

/-- The timer starts while a request waits for the lock. The request stops the capture and records
it, and then the timer finds nothing to stop. -/
theorem recordedOnce_stopOnce : ∃ c,
    Reachable (record (act emptyObjectCodec ⟨False, False, False⟩) fun _ e => FindsCapture e)
      (recordLaunch StopLaunch) (Pool.start (.start timedOnce)) c ∧
    c.threads 1 = some (ret ()) ∧ recordCount sshInstance c.state.history ≠ 0 ∧
    RecordedOnce c.state.history := by
  obtain ⟨g, hask, hg⟩ := runs_askToStop emptyObjectCodec ⟨False, False, False⟩ (s := timedOnce)
    capturingOnce_row
  obtain ⟨r, s, hfinal, hrow, hlock, -⟩ := runs_finalizeOnce emptyObjectCodec ⟨False, False, False⟩
    (s := { timedOnce with tasks := [] ++ [] }) capturingOnce_row (Set.notMem_empty _)
  have h₀ : Reachable
      (record (act emptyObjectCodec ⟨False, False, False⟩) fun _ e => FindsCapture e)
      (recordLaunch StopLaunch) (Pool.start (.start timedOnce)) _ :=
    .tail .refl (.launch 0 rfl ⟨.stopPcap, _, _, .stopPcap none sshInstance, rfl, rfl⟩)
  obtain ⟨done, -, hask⟩ := Runs.record (I := fun _ => True)
    (findsCapture_of_finding (n := 0) (l := .stopPcap)) (hask.bind fun _ => ret ()) trivial 1
  have h₁ := Reachable.runs 0 h₀ (Function.update_self ..) hask
  have h₂ := h₁.tail (.launch 1 rfl ⟨.autoStop, _, _, @StopLaunch.autoStop _ [] _ _ rfl, rfl, rfl⟩)
  have hstop := hfinal.bind g
  rw [ret_bind, hg] at hstop
  obtain ⟨done', -, hstop⟩ := Runs.record (I := fun _ => True)
    (findsCapture_of_finding (n := 0) (l := .stopPcap)) (hstop.bind fun _ => ret ()) trivial 2
  have h₃ := Reachable.runs 0 h₂ rfl hstop
  have h₄ := h₃.tail (.run 0 (.ok ()) rfl ⟨_, .inl ⟨rfl, rfl⟩, nofun, rfl⟩)
  obtain ⟨s', htimer⟩ := runs_timerLate emptyObjectCodec ⟨False, False, False⟩ (s := { s with
    events := s.events ++ [captureStopped sshInstance (.success, .info) none] }) hrow hlock
  obtain ⟨done'', -, htimer⟩ := Runs.record (I := fun _ => True)
    (findsCapture_of_timer (n := 1)) (htimer.bind fun _ => ret ()) trivial 2
  have h₅ := Reachable.runs 1 h₄ rfl htimer
  refine ⟨_, h₅, rfl, ?_, recordedOnce_of_findsCapture _ _ _ h₅⟩
  refine Nat.ne_of_gt (lt_of_lt_of_le ?_ (recordCount_le_append sshInstance _ done''))
  rw [recordCount_success]
  exact Nat.succ_pos _

/-- Two requests see the capture active. Both record that it was stopped. -/
theorem stoppedTwice : ¬ ∀ (json : JsonCodec) (f : Faults) (s : System)
    (c : Pool StopState fun call : Call StopKind Eff => call.effect.Answer),
    Reachable (record (act json f) fun _ _ => True) (recordLaunch StopLaunch)
    (Pool.start (.start s)) c → RecordedOnce c.state.history := by
  intro hall
  have hsub : ∀ s e r s', actFinding emptyObjectCodec ⟨False, False, False⟩ s e r s' →
      act emptyObjectCodec ⟨False, False, False⟩ s e r s' := fun _ _ _ _ h => h.1
  obtain ⟨g, hask, hg⟩ := runs_askToStop emptyObjectCodec ⟨False, False, False⟩ capturingOnce_row
  obtain ⟨r, s, hstop, hrow, hlock, -⟩ := runs_stopOnce emptyObjectCodec ⟨False, False, False⟩
    capturingOnce_row (Set.notMem_empty _)
  -- call 0 has read the row when call 1 stops the capture
  have h₀ : Reachable (record (act emptyObjectCodec ⟨False, False, False⟩) fun _ _ => True)
      (recordLaunch StopLaunch) (Pool.start (.start capturingOnce)) _ :=
    .tail .refl (.launch 0 rfl ⟨.stopPcap, _, _, .stopPcap none sshInstance, rfl, rfl⟩)
  obtain ⟨done, hask⟩ := ((hask.mono hsub).bind fun _ => ret ()).recordAll 0 StopKind.stopPcap [] 1
  have h₁ := Reachable.runs 0 h₀ (Function.update_self ..) hask
  have h₂ := h₁.tail (.launch 1 rfl ⟨.stopPcap, _, _, .stopPcap none sshInstance, rfl, rfl⟩)
  obtain ⟨done', hstop⟩ := ((hstop.mono hsub).bind fun _ => ret ()).recordAll 1
    StopKind.stopPcap _ 2
  have h₃ := Reachable.runs 1 h₂ (Function.update_self ..) hstop
  have h₄ := h₃.tail (.run 1 (.ok ()) rfl ⟨_, .inl ⟨rfl, rfl⟩, trivial, rfl⟩)
  obtain ⟨endpoints, s', hagain⟩ := runs_finalizeAgain emptyObjectCodec ⟨False, False, False⟩
    (s := { s with
      events := s.events ++ [captureStopped sshInstance (.success, .info) none] }) hrow hlock none
  have hrest := hagain.bind g
  rw [ret_bind, hg] at hrest
  obtain ⟨done'', hrest⟩ := (hrest.bind fun _ => ret ()).recordAll 0 StopKind.stopPcap _ 2
  have h₅ := Reachable.runs 0 h₄ rfl hrest
  have h₆ := h₅.tail (.run 0 (.ok ()) rfl ⟨_, .inl ⟨rfl, rfl⟩, trivial, rfl⟩)
  have hcount := (hall _ _ _ _ h₆).1 sshInstance
  rw [recordCount_success] at hcount
  have hfirst := (recordCount_le_append sshInstance _ done'').trans (Nat.le_of_succ_le_succ hcount)
  rw [recordCount_success] at hfirst
  omega

end ProtocolSimulation.Service
