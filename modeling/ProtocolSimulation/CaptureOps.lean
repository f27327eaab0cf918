import ProtocolSimulation.InstanceRoutes

/-!
# What the operations on captures do

The operations that start, stop and delete captures and that undeploy an instance
run one after another under the lock of the instance. Each is described by what it
does to the rows, the files and the captures that the Agent has active.
-/
namespace ProtocolSimulation.Service

open ProtocolSimulation.Texts ProtocolSimulation.JsonValues ProtocolSimulation.KeyedTables
open ProtocolSimulation.Identifiers ProtocolSimulation.Storage ProtocolSimulation.Api
open ProtocolSimulation.Programs ProtocolSimulation.Programs.Prog

/-- What the operations on captures work on. -/
@[ext] structure Captures where
  rows : Text → Option InstanceRow
  files : Text → Option Bytes
  active : Set (Text × Text)

def System.captures (s : System) : Captures := ⟨s.db.selectInstance, s.files, s.agent.captures⟩

namespace Captures

variable (v : Captures)

/-- The state of a capture in the row of an instance is set. -/
def setPcap (id : Text) (pcapStatus : PcapStatus) (pcapStartTime : Option ℤ)
    (pcapCaptureId pcapFilePath : Option Text) : Captures :=
  { v with rows := fun j => (v.rows j).map fun r => if j = id then { r with
      pcapStatus := pcapStatus
      pcapStartTime := pcapStartTime
      pcapCaptureId := pcapCaptureId
      pcapFilePath := pcapFilePath } else r }

/-- The Agent has the capture of a row that is capturing no longer. -/
def stop (row : InstanceRow) : Captures :=
  { v with active := v.active \ {p | row.pcapStatus = .capturing ∧ row.workloadId = some p.1 ∧
      row.pcapCaptureId = some p.2} }

theorem stop_eq_diff {row : InstanceRow} {workloadId captureId : Text}
    (hpcap : row.pcapStatus = .capturing) (hworkload : row.workloadId = some workloadId)
    (hcapture : row.pcapCaptureId = some captureId) :
    v.stop row = { v with active := v.active \ {(workloadId, captureId)} } := by
  ext1
  · rfl
  · rfl
  · ext ⟨w, c⟩
    simp [stop, hpcap, hworkload, hcapture, eq_comm]

theorem stop_eq_self {row : InstanceRow} (h : ∀ w c, row.pcapStatus = .capturing →
    row.workloadId = some w → row.pcapCaptureId ≠ some c) : v.stop row = v := by
  ext1
  · rfl
  · rfl
  · ext ⟨w, c⟩
    exact and_iff_left fun hrow => h w c hrow.1 hrow.2.1 hrow.2.2

def start (id workloadId captureId : Text) (startedAt : ℤ) : Captures :=
  { v.setPcap id .capturing (some startedAt) (some captureId) none with
    active := insert (workloadId, captureId) v.active }

def writeFile (name : Text) (content : Bytes) : Captures :=
  { v with files := Function.update v.files name (some content) }

/-- The file that a row names is gone. -/
def removeFileOf (row : InstanceRow) : Captures :=
  { v with files := fun name => if row.pcapFilePath = some name then none else v.files name }

def removeRow (id : Text) : Captures :=
  { v with rows := fun j => if j = id then none else v.rows j }

/-- The instance is running and has a workload, and no capture is active. -/
def Startable (id : Text) : Prop :=
  ∃ row, v.rows id = some row ∧ row.status = .running ∧ row.pcapStatus ≠ .capturing ∧
    row.workloadId ≠ none

/-- The row of the instance names an active capture. -/
structure Capturing (id : Text) (row : InstanceRow) : Prop where
  row_eq : v.rows id = some row
  capturing : row.pcapStatus = .capturing
  workload : row.workloadId ≠ none
  captureId : row.pcapCaptureId ≠ none

/-- What finishing a capture may do. The proposition says whether storing it did not fail. -/
inductive Finalizes (filesFail : Prop) (id : Text) : Prop → Captures → Prop
  | kept : Finalizes filesFail id True v
  | dropped {row : InstanceRow} : v.Capturing id row →
      Finalizes filesFail id True ((v.stop row).setPcap id .idle none none none)
  | stored {row : InstanceRow} (content : Bytes) : v.Capturing id row →
      Finalizes filesFail id True
        (((v.stop row).writeFile (Pcap.captureFileName id) content).setPcap id
        .ready none none (some (Pcap.captureFileName id)))
  | lost {row : InstanceRow} (files : Text → Option Bytes) : filesFail → v.Capturing id row →
      Finalizes filesFail id False { v.stop row with files := files }

/-- What starting a capture may do; it may leave everything as it is only for a reason. -/
inductive Starts (mayFail : Prop) (id : Text) : Captures → Prop
  | kept : mayFail ∨ ¬ v.Startable id → Starts mayFail id v
  | started {row : InstanceRow} {workloadId captureId : Text} (startedAt : ℤ) :
      v.rows id = some row → row.status = .running → row.pcapStatus ≠ .capturing →
      row.workloadId = some workloadId → (workloadId, captureId) ∉ v.active →
      Starts mayFail id (v.start id workloadId captureId startedAt)

/-- What deleting a capture may do. -/
inductive Deletes (mayFail : Prop) (id : Text) : Captures → Prop
  | kept : mayFail ∨ v.rows id = none → Deletes mayFail id v
  | deleted {row : InstanceRow} : v.rows id = some row →
      Deletes mayFail id (((v.stop row).removeFileOf row).setPcap id .idle none none none)

/-- What undeploying an instance does when nothing fails. -/
inductive Undeploys (id : Text) : Captures → Prop
  | kept : v.rows id = none → Undeploys id v
  | removed {row : InstanceRow} : v.rows id = some row →
      Undeploys id ((v.removeFileOf row).removeRow id)

/-- Rows are of instances that were deployed, name their own file only, and none while
they are capturing. -/
structure Wellformed : Prop where
  named : ∀ id row, v.rows id = some row → ∃ u, instanceId u = id
  path : ∀ id row name, v.rows id = some row → row.pcapFilePath = some name →
    name = Pcap.captureFileName id
  capturing : ∀ id row, v.rows id = some row → row.pcapStatus = .capturing → row.pcapFilePath = none

theorem Wellformed.captureFilePath {v : Captures} (hv : v.Wellformed) {id : Text}
    {row : InstanceRow}
    (hrow : v.rows id = some row) (name : Text) (hname : row.pcapFilePath = some name) :
    Pcap.captureFilePath name = .ok name := by
  obtain ⟨u, rfl⟩ := hv.named id row hrow
  rw [hv.path _ row name hrow hname]
  exact Pcap.captureFilePath_instanceId u

theorem setPcap_eq_some {id : Text} {pcapStatus : PcapStatus} {startTime : Option ℤ}
    {captureId filePath : Option Text} {j : Text} {r' : InstanceRow}
    (h : (v.setPcap id pcapStatus startTime captureId filePath).rows j = some r') :
    ∃ r, v.rows j = some r ∧ r' = if j = id then { r with
      pcapStatus := pcapStatus
      pcapStartTime := startTime
      pcapCaptureId := captureId
      pcapFilePath := filePath } else r := by
  obtain ⟨r, hr, heq⟩ := Option.map_eq_some_iff.mp h
  exact ⟨r, hr, heq.symm⟩

theorem setPcap_self {id : Text} {pcapStatus : PcapStatus} {startTime : Option ℤ}
    {captureId filePath : Option Text} {row : InstanceRow} (h : v.rows id = some row) :
    (v.setPcap id pcapStatus startTime captureId filePath).rows id = some { row with
      pcapStatus := pcapStatus
      pcapStartTime := startTime
      pcapCaptureId := captureId
      pcapFilePath := filePath } := by
  simp [setPcap, h]

theorem setPcap_of_ne {id : Text} {pcapStatus : PcapStatus} {startTime : Option ℤ}
    {captureId filePath : Option Text} {j : Text} (hj : j ≠ id) :
    (v.setPcap id pcapStatus startTime captureId filePath).rows j = v.rows j := by
  simp [setPcap, hj]

variable {v}

theorem Wellformed.setPcap (hv : v.Wellformed) {id : Text} {pcapStatus : PcapStatus}
    {startTime : Option ℤ} {captureId filePath : Option Text}
    (hpath : ∀ name, filePath = some name → name = Pcap.captureFileName id)
    (hcapturing : pcapStatus = .capturing → filePath = none) :
    (v.setPcap id pcapStatus startTime captureId filePath).Wellformed := by
  refine ⟨?_, ?_, ?_⟩
  · intro j r' hr'
    obtain ⟨r, hr, -⟩ := v.setPcap_eq_some hr'
    exact hv.named j r hr
  · intro j r' name hr' hname
    obtain ⟨r, hr, rfl⟩ := v.setPcap_eq_some hr'
    split at hname
    next hj => exact hj ▸ hpath name hname
    next => exact hv.path j r name hr hname
  · intro j r' hr' hstatus
    obtain ⟨r, hr, rfl⟩ := v.setPcap_eq_some hr'
    split at hstatus
    next hj =>
      rw [if_pos hj]
      exact hcapturing hstatus
    next hj =>
      rw [if_neg hj]
      exact hv.capturing j r hr hstatus

/-- What does not touch the rows keeps them well-formed. -/
theorem Wellformed.of_rows {v' : Captures} (hv : v.Wellformed) (h : v'.rows = v.rows) :
    v'.Wellformed :=
  ⟨fun id row hrow => hv.named id row (h ▸ hrow), fun id row name hrow =>
    hv.path id row name (h ▸ hrow),
    fun id row hrow => hv.capturing id row (h ▸ hrow)⟩

variable {filesFail mayFail stored : Prop} {id : Text} {v' : Captures}

theorem Starts.wellformed (hv : v.Wellformed) (h : v.Starts mayFail id v') : v'.Wellformed := by
  cases h with
  | kept => exact hv
  | started => exact (hv.setPcap (fun _ h => absurd h (by simp)) fun _ => rfl).of_rows rfl

theorem Finalizes.wellformed (hv : v.Wellformed) (h : v.Finalizes filesFail id stored v') :
    v'.Wellformed := by
  cases h with
  | kept => exact hv
  | dropped =>
    refine Wellformed.setPcap ?_ (fun _ h => absurd h (by simp)) fun _ => rfl
    exact hv.of_rows rfl
  | stored =>
    refine Wellformed.setPcap ?_ (fun _ hname => (Option.some.inj hname).symm) fun h =>
      absurd h (by simp)
    exact hv.of_rows rfl
  | lost => exact hv.of_rows rfl

theorem Deletes.wellformed (hv : v.Wellformed) (h : v.Deletes mayFail id v') : v'.Wellformed := by
  cases h with
  | kept => exact hv
  | deleted =>
    refine Wellformed.setPcap ?_ (fun _ h => absurd h (by simp)) fun _ => rfl
    exact hv.of_rows rfl

theorem Undeploys.wellformed (hv : v.Wellformed) (h : v.Undeploys id v') : v'.Wellformed := by
  cases h with
  | kept => exact hv
  | removed =>
    have hold : ∀ j row, (if j = id then none else v.rows j) = some row → v.rows j = some row := by
      intro j row hrow
      split at hrow
      · exact absurd hrow (by simp)
      · exact hrow
    exact ⟨fun j row hrow => hv.named j row (hold j row hrow),
      fun j row name hrow => hv.path j row name (hold j row hrow),
      fun j row hrow => hv.capturing j row (hold j row hrow)⟩

end Captures

theorem captures_updatePcap (s : System) (id : Text) (pcapStatus : PcapStatus)
    (startTime : Option ℤ) (captureId filePath : Option Text) :
    System.captures { s with db := s.db.updatePcap id pcapStatus startTime captureId filePath } =
      s.captures.setPcap id pcapStatus startTime captureId filePath := by
  ext1
  · funext j
    exact Database.selectInstance_updatePcap
  · rfl
  · rfl

/-! ## Running an operation -/

/-- Creating the directory or writing a capture failed. -/
def StoreFailed : Sigma Eff.Answer → Prop
  | ⟨.createPcapDir, .error _⟩ => True
  | ⟨.writeFile _ _, .error _⟩ => True
  | _ => False

/-- Nothing that was to be stored failed to be. -/
def Stored (tr : Trace Eff.Answer) : Prop := ∀ p ∈ tr, ¬ StoreFailed p

@[simp] theorem stored_nil : Stored [] := by simp [Stored]

@[simp] theorem stored_cons {p : Sigma Eff.Answer} {tr : Trace Eff.Answer} :
    Stored (p :: tr) ↔ ¬ StoreFailed p ∧ Stored tr := by simp [Stored]

@[simp] theorem stored_append {tr tr' : Trace Eff.Answer} :
    Stored (tr ++ tr') ↔ Stored tr ∧ Stored tr' := by
  simp [Stored, or_imp, forall_and]

section Handles

variable {json : JsonCodec} {f : Faults} {s : System} {α β : Type} {id : Text}
  {Q : Prop → Captures → α → Prop}

/-- However the program runs alone, what it does to the captures and whether it stored
what it had to is as `Q` says. -/
def Handles (json : JsonCodec) (f : Faults) (s : System) (p : Handler α)
    (Q : Prop → Captures → α → Prop) : Prop :=
  Ensures (act json f) s p fun tr s' a => Q (Stored tr) s'.captures a

theorem handles_ret {a : α} : Handles json f s (.ret a) Q ↔ Q True s.captures a := by
  rw [Handles, ensures_ret, eq_true stored_nil]

theorem Handles.mono {p : Handler α} {P : Prop → Captures → α → Prop} (h : Handles json f s p P)
    (hQ : ∀ stored v a, P stored v a → Q stored v a) : Handles json f s p Q :=
  Ensures.mono h fun _ _ _ => hQ _ _ _

/-- The rule for an effect that may store something. -/
theorem handles_store {e : Eff} {k : e.Answer → Handler α}
    (hk : ∀ r s', act json f s e r s' →
      Handles json f s' (k r) fun stored => Q (¬ StoreFailed ⟨e, r⟩ ∧ stored)) :
    Handles json f s (.call e k) Q := by
  refine ensures_call.mpr ?_
  intro r s' hact
  refine Ensures.mono (hk r s' hact) ?_
  intro tr s'' a h
  rwa [eq_iff_iff.mpr stored_cons]

/-- The rule for an effect that stores nothing. -/
theorem handles_call {e : Eff} {k : e.Answer → Handler α} (he : ∀ r, ¬ StoreFailed ⟨e, r⟩)
    (hk : ∀ r s', act json f s e r s' → Handles json f s' (k r) Q) :
    Handles json f s (.call e k) Q := by
  refine handles_store fun r s' hact => (hk r s' hact).mono ?_
  intro stored v a h
  rwa [eq_iff_iff.mpr (and_iff_right (he r))]

theorem Handles.bind {p : Handler β} {k : β → Handler α} {P : Prop → Captures → β → Prop}
    (hp : Handles json f s p P)
    (hk : ∀ stored s' b, P stored s'.captures b →
      Handles json f s' (k b) fun stored' => Q (stored ∧ stored')) :
    Handles json f s (p >>= k) Q := by
  refine Ensures.bind hp ?_
  intro tr s' b hP
  refine Ensures.mono (hk _ s' b hP) ?_
  intro tr' s'' a h
  rwa [eq_iff_iff.mpr stored_append]

/-- The lock of an instance is not part of what is observed. -/
theorem handles_withLock {body : Handler α}
    (h : ∀ s', s'.captures = s.captures → Handles json f s' body Q) :
    Handles json f s (withLock id body) Q := by
  rw [withLock, await_bind]
  refine handles_call (fun r => not_false) ?_
  rintro r s' ⟨-, rfl⟩
  refine Ensures.bind (h _ rfl) ?_
  intro tr s'' a hQ
  refine ensures_call.mpr ?_
  rintro r' _ rfl
  refine ensures_ret.mpr ?_
  have hstored : Stored (tr ++ [⟨.unlock id, r'⟩]) ↔ Stored tr := by simp [StoreFailed]
  rw [eq_iff_iff.mpr hstored]
  exact hQ

/-! ## The programs the operations share -/

variable (hdb : ¬ f.database)
include hdb

theorem handles_getInstance {k : Except Error (Option Instance) → Handler α}
    (hnone : s.captures.rows id = none → Handles json f s (k (.ok none)) Q)
    (hsome : ∀ inst, s.captures.rows id = some inst.row →
      Handles json f s (k (.ok (some inst))) Q) : Handles json f s (getInstance id >>= k) Q := by
  rw [getInstance, await_bind, call_bind]
  refine handles_call (fun r => not_false) ?_
  rintro r s' ⟨rfl, hr | ⟨hfail, -⟩⟩
  · subst hr
    cases hrow : s'.db.selectInstance id with
    | none => exact hnone hrow
    | some row =>
      refine handles_call (fun r => not_false) ?_
      rintro r s'' ⟨rfl, rfl | ⟨hfail, -⟩⟩
      · exact hsome ⟨row, _⟩ hrow
      · exact absurd hfail hdb
  · exact absurd hfail hdb

theorem handles_updatePcapState {pcapStatus : PcapStatus} {startTime : Option ℤ}
    {captureId filePath : Option Text} {k : Except Error (Option Instance) → Handler α}
    (h : ∀ s' updated, s'.captures = s.captures.setPcap id pcapStatus startTime captureId filePath →
      Handles json f s' (k (.ok updated)) Q) :
    Handles json f s (updatePcapState id pcapStatus startTime captureId filePath >>= k) Q := by
  rw [updatePcapState, await_bind, call_bind]
  refine handles_call (fun r => not_false) ?_
  rintro r s' (⟨rfl, rfl⟩ | ⟨-, hfail, -⟩)
  · have hcaptures := captures_updatePcap s id pcapStatus startTime captureId filePath
    exact handles_getInstance hdb (fun _ => h _ _ hcaptures) fun inst _ => h _ _ hcaptures
  · exact absurd hfail hdb

omit hdb in
theorem handles_emitOperationEvent {event : OperationEvent} {k : Unit → Handler α}
    (h : ∀ s', s'.captures = s.captures → Handles json f s' (k ()) Q) :
    Handles json f s (emitOperationEvent event >>= k) Q := by
  rw [emitOperationEvent, await_bind, call_bind]
  refine handles_call (fun r => not_false) ?_
  rintro r s' (⟨-, rfl⟩ | ⟨rfl, -⟩)
  · exact h _ rfl
  · exact h _ rfl

end Handles

/-! ## The operations -/

section Operations

variable {json : JsonCodec} {f : Faults} {s : System} {α : Type} {id : Text} (hdb : ¬ f.database)
  (operationContext : Option Text)
include hdb

theorem handles_startPcap : Handles json f s (startPcap operationContext id) fun stored v _ =>
    stored ∧ s.captures.Starts f.agent id v := by
  refine handles_withLock fun s' hs' => ?_
  rw [← hs']
  refine handles_getInstance hdb ?_ ?_
  · intro hnone
    refine handles_ret.mpr ⟨trivial, .kept (.inr ?_)⟩
    rintro ⟨row, hrow, -⟩
    exact absurd (hnone.symm.trans hrow) (by simp)
  intro inst hrow
  have hkept : (inst.row.status = .running → inst.row.pcapStatus ≠ .capturing →
      inst.row.workloadId = none) → ¬ s'.captures.Startable id := by
    rintro h ⟨row, hrow', hstatus, hpcap, hworkload⟩
    obtain rfl := Option.some.inj (hrow.symm.trans hrow')
    exact hworkload (h hstatus hpcap)
  simp only [startPcapOf]
  split
  next hstatus => exact handles_ret.mpr ⟨trivial, .kept (.inr (hkept fun h => absurd h hstatus))⟩
  next hstatus =>
    split
    next hpcap => exact handles_ret.mpr ⟨trivial, .kept (.inr (hkept fun _ h => absurd hpcap h))⟩
    next hpcap =>
      split
      next hworkload => exact handles_ret.mpr ⟨trivial, .kept (.inr (hkept fun _ _ => hworkload))⟩
      next workloadId hworkload =>
        rw [await_bind]
        refine handles_call (fun r => not_false) ?_
        rintro r s₁ (⟨captureId, rfl, hnew, rfl⟩ | ⟨rfl, hfail, e, rfl⟩)
        · refine handles_call (fun r => not_false) ?_
          rintro startedAt _ rfl
          refine handles_updatePcapState hdb fun s₂ updated hs₂ => ?_
          refine handles_call (fun r => not_false) ?_
          rintro _ _ rfl
          refine handles_emitOperationEvent fun s₃ hs₃ => handles_ret.mpr ⟨trivial, ?_⟩
          have hstart : s₃.captures =
              s'.captures.start id workloadId captureId startedAt := hs₃.trans hs₂
          rw [hstart]
          exact .started startedAt hrow (not_not.mp hstatus) hpcap hworkload hnew
        · exact handles_emitOperationEvent fun s₂ hs₂ =>
            handles_ret.mpr ⟨trivial, hs₂ ▸ .kept (.inl hfail)⟩

/-- What is done with the bytes of a capture that the Agent stopped. -/
theorem handles_storeCapture {v : Captures} {row : InstanceRow} (inst : Instance) (content : Bytes)
    (hrow : v.Capturing id row) (hs : s.captures = v.stop row) :
    Handles json f s (storeCapture id inst content) fun stored v' _ =>
      v.Finalizes f.files id stored v' := by
  unfold storeCapture
  split
  · refine handles_updatePcapState hdb fun s₁ updated hs₁ => handles_ret.mpr ?_
    rw [hs₁, hs]
    exact .dropped hrow
  · refine handles_store ?_
    rintro r s₁ ⟨rfl, rfl | ⟨hfail, e, rfl⟩⟩
    · simp only [StoreFailed, not_false_eq_true, true_and]
      refine handles_store ?_
      rintro r s₂ (⟨rfl, rfl⟩ | ⟨⟨hfail, e, rfl⟩, hs₂⟩)
      · simp only [StoreFailed, not_false_eq_true, true_and]
        refine handles_updatePcapState hdb fun s₃ updated hs₃ => handles_ret.mpr ?_
        have hstored : s₃.captures = ((v.stop row).writeFile (Pcap.captureFileName id)
            content).setPcap id .ready none none (some (Pcap.captureFileName id)) := by
          rw [hs₃, ← hs]
          rfl
        rw [hstored]
        exact .stored content hrow
      · simp only [StoreFailed, not_true_eq_false, false_and]
        refine handles_ret.mpr ?_
        have hlost : s₂.captures = { v.stop row with files := s₂.files } := by
          rw [← hs]
          rcases hs₂ with rfl | ⟨written, -, rfl⟩
          · rfl
          · rfl
        rw [hlost]
        exact .lost _ hfail hrow
    · simp only [StoreFailed, not_true_eq_false, false_and]
      exact handles_ret.mpr (hs ▸ .lost _ hfail hrow)

theorem handles_finalizePcapCapture (expected : Option Text) :
    Handles json f s (finalizePcapCapture id expected) fun stored v _ =>
      s.captures.Finalizes f.files id stored v := by
  refine handles_withLock fun s' hs' => ?_
  rw [← hs']
  refine handles_getInstance hdb (fun _ => handles_ret.mpr .kept) fun inst hrow => ?_
  simp only [finalizePcapCaptureOf]
  split
  · exact handles_ret.mpr .kept
  next hcapturing =>
    split
    · exact handles_ret.mpr .kept
    next workloadId hworkload =>
      split
      · exact handles_ret.mpr .kept
      next captureId hcapture =>
        have hpcap : inst.row.pcapStatus = .capturing := by
          by_contra hne
          exact hcapturing (.inl hne)
        have hrow' : s'.captures.Capturing id inst.row :=
          ⟨hrow, hpcap, by simp [hworkload], by simp [hcapture]⟩
        rw [await_bind]
        refine handles_call (fun r => not_false) ?_
        rintro r s₁ (⟨content, rfl, rfl⟩ | ⟨rfl, -, e, rfl⟩)
        · exact handles_storeCapture hdb inst content hrow'
            (s'.captures.stop_eq_diff hpcap hworkload hcapture).symm
        · exact handles_ret.mpr .kept

theorem handles_stopPcap : Handles json f s (stopPcap operationContext id) fun stored v _ =>
    s.captures.Finalizes f.files id stored v := by
  refine handles_getInstance hdb (fun _ => handles_ret.mpr .kept) fun inst hrow => ?_
  simp only
  split
  · exact handles_ret.mpr .kept
  refine (handles_finalizePcapCapture hdb none).bind ?_
  rintro stored s' r hfinal
  rcases r with e | _ | ⟨updated, finished⟩
  · refine handles_emitOperationEvent fun s'' hs'' => handles_ret.mpr ?_
    rwa [and_true, hs'']
  · refine handles_ret.mpr ?_
    rwa [and_true]
  · refine handles_emitOperationEvent fun s'' hs'' => handles_ret.mpr ?_
    rwa [and_true, hs'']

omit operationContext in
theorem handles_autoStopPcap (captureId : Text) :
    Handles json f s (autoStopPcap id captureId) fun stored v _ =>
      s.captures.Finalizes f.files id stored v := by
  refine (handles_finalizePcapCapture hdb (some captureId)).bind ?_
  rintro stored s' r hfinal
  have hemit : ∀ event, Handles json f s' (emitOperationEvent event) fun stored' v _ =>
      s.captures.Finalizes f.files id (stored ∧ stored') v := by
    intro event
    refine handles_emitOperationEvent (k := fun _ => ret ()) fun s'' hs'' => handles_ret.mpr ?_
    rwa [and_true, hs'']
  have hret : Handles json f s' (ret ()) fun stored' v _ =>
      s.captures.Finalizes f.files id (stored ∧ stored') v := by
    refine handles_ret.mpr ?_
    rwa [and_true]
  rcases r with e | _ | ⟨updated, _ | _⟩
  · exact hemit _
  · exact hret
  · exact hret
  · exact hemit _

omit hdb operationContext in
theorem handles_stopActiveCapture {Q : Prop → Captures → α → Prop} {row : InstanceRow}
    {k : Except Error Unit → Handler α}
    (hfail : f.agent → ∀ e, Handles json f s (k (.error e)) Q)
    (hstop : ∀ s', s'.captures = s.captures.stop row → Handles json f s' (k (.ok ())) Q) :
    Handles json f s (stopActiveCapture row >>= k) Q := by
  unfold stopActiveCapture
  split
  next workloadId captureId hworkload hcapture =>
    split
    next hpcap =>
      rw [await_bind, call_bind]
      refine handles_call (fun r => not_false) ?_
      rintro r s₁ (⟨content, rfl, rfl⟩ | ⟨rfl, hagent, e, rfl⟩)
      · exact hstop _ (s.captures.stop_eq_diff hpcap hworkload hcapture).symm
      · exact hfail hagent e
    next hpcap => exact hstop s (s.captures.stop_eq_self fun w c h => absurd h hpcap).symm
  next hnone =>
    exact hstop s (s.captures.stop_eq_self fun w c _ hworkload => hnone w c hworkload).symm

omit hdb operationContext in
theorem handles_removeCaptureFile {Q : Prop → Captures → α → Prop} {row : InstanceRow}
    {k : Except Error Bool → Handler α}
    (hpath : ∀ name, row.pcapFilePath = some name → Pcap.captureFilePath name = .ok name)
    (hfail : f.files → row.pcapFilePath ≠ none → ∀ e, Handles json f s (k (.error e)) Q)
    (hremove : ∀ s' removed, s'.captures = s.captures.removeFileOf row →
      Handles json f s' (k (.ok removed)) Q) :
    Handles json f s (removeCaptureFile row.pcapFilePath >>= k) Q := by
  cases hname : row.pcapFilePath with
  | none =>
    refine hremove s false ?_
    ext1
    · rfl
    · funext name
      simp [Captures.removeFileOf, hname]
    · rfl
  | some name =>
    simp only [removeCaptureFile, hpath name hname]
    rw [await_bind, call_bind]
    have hremoved : ∀ s' : System, s'.db = s.db → s'.agent = s.agent →
        s'.files = Function.update s.files name none → s'.captures =
          s.captures.removeFileOf row := by
      intro s' hdb hagent hfiles
      ext1
      · exact congrArg Database.selectInstance hdb
      · funext j
        show s'.files j = _
        rw [hfiles]
        by_cases hj : j = name
        · simp [hj, Captures.removeFileOf, hname]
        · simp [hj, Captures.removeFileOf, hname, Ne.symm hj, System.captures]
      · exact congrArg Agent.captures hagent
    refine handles_call (fun r => not_false) ?_
    rintro r s' (⟨-, rfl, rfl⟩ | ⟨hnone, rfl, rfl⟩ | ⟨rfl, hfiles, e, rfl⟩)
    · exact hremove _ true (hremoved _ rfl rfl rfl)
    · refine hremove _ false (hremoved _ rfl rfl ?_)
      rw [← hnone, Function.update_eq_self]
    · exact hfail hfiles (by simp [hname]) e

theorem handles_deletePcap (hv : s.captures.Wellformed) :
    Handles json f s (deletePcap operationContext id) fun stored v _ =>
      stored ∧ s.captures.Deletes (f.agent ∨ f.files) id v := by
  refine handles_withLock fun s' hs' => ?_
  rw [← hs'] at hv ⊢
  refine handles_getInstance hdb (fun hnone => handles_ret.mpr ⟨trivial, .kept (.inr hnone)⟩)
    fun inst hrow => ?_
  refine handles_stopActiveCapture ?_ ?_
  · intro hagent e
    exact handles_emitOperationEvent fun s₁ hs₁ =>
      handles_ret.mpr ⟨trivial, hs₁ ▸ .kept (.inl (.inl hagent))⟩
  intro s₁ hs₁
  refine handles_removeCaptureFile (hv.captureFilePath hrow) ?_ ?_
  · intro hfiles hpath e
    -- a row with a file is not capturing, so nothing was stopped
    have hkept : s₁.captures = s'.captures := hs₁.trans
      (s'.captures.stop_eq_self fun w c hpcap => absurd (hv.capturing id _ hrow hpcap) hpath)
    exact handles_emitOperationEvent fun s₂ hs₂ =>
      handles_ret.mpr ⟨trivial, (hs₂.trans hkept) ▸ .kept (.inl (.inr hfiles))⟩
  intro s₂ removed hs₂
  refine handles_updatePcapState hdb fun s₃ updated hs₃ => ?_
  refine handles_emitOperationEvent fun s₄ hs₄ => handles_ret.mpr ⟨trivial, ?_⟩
  rw [hs₄, hs₃, hs₂, hs₁]
  exact .deleted hrow

/-- An instance is undeployed with its capture file. -/
theorem handles_undeployStopped {v : Captures} (hs : s.captures = v) (hfiles : ¬ f.files)
    (hv : v.Wellformed) {inst : Instance} (hrow : v.rows id = some inst.row) :
    Handles json f s (undeployStopped operationContext id inst) fun _ v' _ =>
      v.Undeploys id v' := by
  refine handles_removeCaptureFile (hv.captureFilePath hrow) (fun h => absurd h hfiles) ?_
  intro s₁ removed hs₁
  rw [await_bind]
  refine handles_call (fun r => not_false) ?_
  rintro r s₂ (⟨rfl, rfl⟩ | ⟨-, hfail, -⟩)
  · refine handles_emitOperationEvent fun s₃ hs₃ => handles_ret.mpr ?_
    have hremoved : s₃.captures = (v.removeFileOf inst.row).removeRow id := by
      rw [hs₃, ← hs, ← hs₁]
      ext1
      · funext j
        exact Database.selectInstance_deleteInstance
      · rfl
      · rfl
    rw [hremoved]
    exact .removed hrow
  · exact absurd hfail hdb

theorem handles_undeployInstance (hagent : ¬ f.agent) (hfiles : ¬ f.files)
    (hv : s.captures.Wellformed) :
    Handles json f s (undeployInstance operationContext id) fun _ v _ =>
      s.captures.Undeploys id v := by
  refine handles_withLock fun s' hs' => ?_
  rw [← hs'] at hv ⊢
  refine handles_getInstance hdb (fun hnone => handles_ret.mpr (.kept hnone)) fun inst hrow => ?_
  have hstopped : ∀ s₁, s₁.captures = s'.captures → Handles json f s₁
      (undeployStopped operationContext id inst) fun _ v _ => s'.captures.Undeploys id v :=
    fun s₁ hs₁ => handles_undeployStopped hdb operationContext hs₁ hfiles hv hrow
  simp only [undeployInstanceOf, stopWorkloadOf]
  split
  · rw [await_bind]
    refine handles_call (fun r => not_false) ?_
    rintro r s₁ (⟨rfl, rfl⟩ | ⟨-, hfail, -⟩)
    · exact hstopped _ rfl
    · exact absurd hfail hagent
  · exact hstopped s' rfl

end Operations

/-! ## Sequences of operations -/

/-- The operations on captures. -/
inductive CaptureOp where
  | startPcap (operationContext : Option Text) (id : Text)
  | stopPcap (operationContext : Option Text) (id : Text)
  | autoStop (id captureId : Text)
  | deletePcap (operationContext : Option Text) (id : Text)

def CaptureOp.program : CaptureOp → Handler Unit
  | startPcap operationContext id => (Service.startPcap operationContext id).discard
  | stopPcap operationContext id => (Service.stopPcap operationContext id).discard
  | autoStop id captureId => autoStopPcap id captureId
  | deletePcap operationContext id => (Service.deletePcap operationContext id).discard

/-- Instances, none of which ever had a capture. -/
structure NoCaptures (s : System) : Prop where
  named : ∀ id row, s.db.selectInstance id = some row → ∃ u, instanceId u = id
  idle : ∀ id row, s.db.selectInstance id = some row →
    row.pcapStatus = .idle ∧ row.pcapFilePath = none

theorem NoCaptures.wellformed {s : System} (h : NoCaptures s) : s.captures.Wellformed := by
  refine ⟨h.named, ?_, ?_⟩
  · intro id row name hrow hname
    rw [(h.idle id row hrow).2] at hname
    exact absurd hname (by simp)
  · intro id row hrow _
    exact (h.idle id row hrow).2

/-- What is said of a handler is said of its effects when its answer is dropped. -/
theorem handles_discard {json : JsonCodec} {f : Faults} {s : System} {α : Type} {p : Handler α}
    {Q : Prop → Captures → Prop} (h : Handles json f s p fun stored v _ => Q stored v) :
    Handles json f s p.discard fun stored v _ => Q stored v := by
  refine h.bind (k := fun _ => ret ()) ?_
  intro stored s' _ hQ
  refine handles_ret.mpr ?_
  rwa [and_true]

end ProtocolSimulation.Service
