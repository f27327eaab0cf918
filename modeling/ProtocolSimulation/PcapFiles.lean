import ProtocolSimulation.CaptureRuns

/-!
# Capture files do not leak

A capture file is on the disk exactly as long as the row of its instance names it,
unless a capture is started while the row still names the file of the one before:
starting clears the name, and nothing removes the file any more.
-/
namespace ProtocolSimulation.Service

open ProtocolSimulation.Texts ProtocolSimulation.JsonValues ProtocolSimulation.Storage
open ProtocolSimulation.Programs ProtocolSimulation.Programs.Prog

namespace Captures

variable {v v' : Captures} {id : Text}

/-- The file of an instance is there exactly if the row of the instance is and names it. -/
def FilesTracked (v : Captures) : Prop :=
  ∀ id, v.files (Pcap.captureFileName id) ≠ none ↔
    ∃ row, v.rows id = some row ∧ row.pcapFilePath = some (Pcap.captureFileName id)

/-- Only one instance and its file have to be looked at. -/
theorem FilesTracked.update (h : v.FilesTracked)
    (hfiles : ∀ j, j ≠ id → v'.files (Pcap.captureFileName j) = v.files (Pcap.captureFileName j))
    (hrows : ∀ j, j ≠ id → v'.rows j = v.rows j)
    (hid : v'.files (Pcap.captureFileName id) ≠ none ↔
      ∃ row, v'.rows id = some row ∧ row.pcapFilePath = some (Pcap.captureFileName id)) :
    v'.FilesTracked := by
  intro j
  by_cases hj : j = id
  · subst hj
    exact hid
  · rw [hfiles j hj, hrows j hj]
    exact h j

/-- The file of an instance is not there if its row names none. -/
theorem FilesTracked.file_eq_none (h : v.FilesTracked)
    (hrow : ∀ row, v.rows id = some row → row.pcapFilePath = none) :
    v.files (Pcap.captureFileName id) = none := by
  by_contra hne
  obtain ⟨row, hid, hpath⟩ := (h id).mp hne
  rw [hrow row hid] at hpath
  exact absurd hpath (by simp)

/-- Removing the file that a row names touches no other file, and leaves no file of its own. -/
theorem removeFileOf_files (h : v.FilesTracked) (hv : v.Wellformed) {row : InstanceRow}
    (hrow : v.rows id = some row) :
    (v.removeFileOf row).files (Pcap.captureFileName id) = none ∧
      ∀ j, j ≠ id → (v.removeFileOf row).files (Pcap.captureFileName j) =
        v.files (Pcap.captureFileName j) := by
  constructor
  · by_cases hpath : row.pcapFilePath = some (Pcap.captureFileName id)
    · exact if_pos hpath
    · refine (if_neg hpath).trans ?_
      by_contra hne
      obtain ⟨row', hrow', hpath'⟩ := (h id).mp hne
      obtain rfl := Option.some.inj (hrow.symm.trans hrow')
      exact hpath hpath'
  · intro j hj
    refine if_neg fun hpath => hj ?_
    exact Pcap.captureFileName_injective (hv.path id row _ hrow hpath)

theorem Finalizes.filesTracked {filesFail stored : Prop} (hv : v.Wellformed)
    (htracked : v.FilesTracked)
    (hfail : ¬ filesFail) (h : v.Finalizes filesFail id stored v') : v'.FilesTracked := by
  cases h with
  | kept => exact htracked
  | dropped hrow =>
    have hfile : v.files (Pcap.captureFileName id) = none := by
      refine htracked.file_eq_none fun row' hrow' => ?_
      obtain rfl := Option.some.inj (hrow.row_eq.symm.trans hrow')
      exact hv.capturing id _ hrow' hrow.capturing
    refine htracked.update (fun _ _ => rfl) (fun j hj => setPcap_of_ne _ hj) ?_
    constructor
    · exact fun hne => absurd hfile hne
    · rintro ⟨row', hrow', hpath⟩
      obtain ⟨r, -, rfl⟩ := setPcap_eq_some _ hrow'
      simp at hpath
  | stored content hrow =>
    refine htracked.update (fun j hj => ?_) (fun j hj => setPcap_of_ne _ hj) ?_
    · exact Function.update_of_ne (fun h => hj (Pcap.captureFileName_injective h)) _ _
    · refine iff_of_true ?_ ⟨_, setPcap_self _ hrow.row_eq, rfl⟩
      show Function.update _ _ _ _ ≠ _
      rw [Function.update_self]
      simp
  | lost _ hfails => exact absurd hfails hfail

theorem Deletes.filesTracked {mayFail : Prop} (hv : v.Wellformed) (htracked : v.FilesTracked)
    (hfail : ¬ mayFail) (h : v.Deletes mayFail id v') :
    v'.FilesTracked ∧ v'.files (Pcap.captureFileName id) = none := by
  cases h with
  | kept hkept =>
    refine ⟨htracked, htracked.file_eq_none fun row hrow => ?_⟩
    rw [hkept.resolve_left hfail] at hrow
    exact absurd hrow (by simp)
  | deleted hrow =>
    obtain ⟨hnone, hothers⟩ := removeFileOf_files htracked hv hrow
    refine ⟨htracked.update hothers (fun j hj => setPcap_of_ne _ hj) ?_, hnone⟩
    refine iff_of_false (fun h => h hnone) ?_
    rintro ⟨row', hrow', hpath⟩
    obtain ⟨r, -, rfl⟩ := setPcap_eq_some _ hrow'
    simp at hpath

theorem Undeploys.filesTracked (hv : v.Wellformed) (htracked : v.FilesTracked)
    (h : v.Undeploys id v') : v'.FilesTracked ∧ v'.files (Pcap.captureFileName id) = none := by
  cases h with
  | kept hkept =>
    refine ⟨htracked, htracked.file_eq_none fun row hrow => ?_⟩
    rw [hkept] at hrow
    exact absurd hrow (by simp)
  | removed hrow =>
    obtain ⟨hnone, hothers⟩ := removeFileOf_files htracked hv hrow
    refine ⟨htracked.update hothers (fun j hj => if_neg hj) ?_, hnone⟩
    refine iff_of_false (fun h => h hnone) ?_
    rintro ⟨row', hrow', -⟩
    simp [removeRow] at hrow'

/-- A capture is started over the file of the one before. -/
def Restarts (v : Captures) (id : Text) : Prop :=
  ∃ row, v.rows id = some row ∧ row.status = .running ∧ row.pcapStatus ≠ .capturing ∧
    row.workloadId ≠ none ∧ row.pcapFilePath ≠ none

/-- Starting a capture is what may leave a file that no row names. -/
theorem Starts.filesTracked_iff {mayFail : Prop} (hv : v.Wellformed) (htracked : v.FilesTracked)
    (hfail : ¬ mayFail) (h : v.Starts mayFail id v') : v'.FilesTracked ↔ ¬ v.Restarts id := by
  cases h with
  | kept hkept =>
    refine iff_of_true htracked ?_
    rintro ⟨row, hrow, hstatus, hpcap, hworkload, -⟩
    exact hkept.resolve_left hfail ⟨row, hrow, hstatus, hpcap, hworkload⟩
  | @started row workloadId captureId startedAt hrow hstatus hpcap hworkload hnew =>
    have hunnamed : ¬ ∃ r, (v.start id workloadId captureId startedAt).rows id = some r ∧
        r.pcapFilePath = some (Pcap.captureFileName id) := by
      rintro ⟨r, hr, hpath⟩
      obtain ⟨r₀, -, rfl⟩ := setPcap_eq_some _ hr
      simp at hpath
    have hrestarts : v.Restarts id ↔ v.files (Pcap.captureFileName id) ≠ none := by
      constructor
      · rintro ⟨row', hrow', -, -, -, hpath⟩
        obtain ⟨name, hname⟩ := Option.ne_none_iff_exists'.mp hpath
        exact (htracked id).mpr
          ⟨row', hrow', hname.trans (congrArg _ (hv.path id row' name hrow' hname))⟩
      · intro hne
        obtain ⟨row', hrow', hpath⟩ := (htracked id).mp hne
        obtain rfl := Option.some.inj (hrow.symm.trans hrow')
        exact ⟨row, hrow, hstatus, hpcap, by simp [hworkload], by simp [hpath]⟩
    rw [hrestarts, not_not]
    constructor
    · intro h
      by_contra hne
      exact hunnamed ((h id).mp hne)
    · intro hnone
      refine htracked.update (fun _ _ => rfl) (fun j hj => setPcap_of_ne _ hj) ?_
      exact iff_of_false (fun hne => hne hnone) hunnamed

end Captures

/-! ## Every sequence of operations -/

/-- The operations that may touch the file of a capture. -/
inductive LifecycleOp where
  | pcap (op : CaptureOp)
  | undeploy (operationContext : Option Text) (id : Text)

namespace LifecycleOp

def program : LifecycleOp → Handler Unit
  | pcap op => op.program
  | undeploy operationContext id => (undeployInstance operationContext id).discard

/-- The instance whose capture file has to be gone afterwards. -/
def removes : LifecycleOp → Option Text
  | pcap (.deletePcap _ id) => some id
  | undeploy _ id => some id
  | _ => none

/-- The operation starts a capture while the row names the file of the one before. -/
def Restarts (v : Captures) : LifecycleOp → Prop
  | pcap (.startPcap _ id) => v.Restarts id
  | _ => False

end LifecycleOp

/-- One operation from its beginning to its end, in which neither the Agent nor the database
nor a file operation fails. -/
def lifecycleStep (json : JsonCodec) (s : System) (op : LifecycleOp) (s' : System) : Prop :=
  ∃ tr, Exec (act json ⟨False, False, False⟩) s op.program tr s' ()

/-- What the operation has to leave. -/
structure LeavesTracked (op : LifecycleOp) (s' : System) : Prop where
  tracked : s'.captures.FilesTracked
  removed : ∀ id ∈ op.removes, s'.files (Pcap.captureFileName id) = none

theorem lifecycleStep_wellformed {json : JsonCodec} {s s' : System} {op : LifecycleOp}
    (hv : s.captures.Wellformed) (h : lifecycleStep json s op s') : s'.captures.Wellformed := by
  obtain ⟨tr, hexec⟩ := h
  rcases op with (⟨ctx, id⟩ | ⟨ctx, id⟩ | ⟨id, captureId⟩ | ⟨ctx, id⟩) | ⟨ctx, id⟩
  · exact (handles_discard (handles_startPcap not_false ctx) _ _ _ hexec).2.wellformed hv
  · exact (handles_discard (handles_stopPcap not_false ctx) _ _ _ hexec).wellformed hv
  · exact (handles_autoStopPcap not_false captureId _ _ _ hexec).wellformed hv
  · exact (handles_discard (handles_deletePcap not_false ctx hv) _ _ _ hexec).2.wellformed hv
  · exact (handles_discard (handles_undeployInstance not_false ctx not_false not_false hv) _ _ _
      hexec).wellformed hv

/-- An operation leaves the files as it has to exactly if it does not start a capture over the
file of the one before. -/
theorem leavesTracked_iff {json : JsonCodec} {s s' : System} {op : LifecycleOp}
    (hv : s.captures.Wellformed) (htracked : s.captures.FilesTracked)
    (h : lifecycleStep json s op s') : LeavesTracked op s' ↔ ¬ op.Restarts s.captures := by
  obtain ⟨tr, hexec⟩ := h
  have hfail : ¬ (False ∨ False) := fun h => h.elim id id
  rcases op with (⟨ctx, id⟩ | ⟨ctx, id⟩ | ⟨id, captureId⟩ | ⟨ctx, id⟩) | ⟨ctx, id⟩
  · have hstarts := (handles_discard (handles_startPcap not_false ctx) _ _ _ hexec).2
    rw [LifecycleOp.Restarts, ← hstarts.filesTracked_iff hv htracked not_false]
    exact ⟨fun h => h.tracked, fun h => ⟨h, by simp [LifecycleOp.removes]⟩⟩
  · have hfinal := handles_discard (handles_stopPcap not_false ctx) _ _ _ hexec
    exact iff_of_true ⟨hfinal.filesTracked hv htracked not_false, by simp [LifecycleOp.removes]⟩
      not_false
  · have hfinal := handles_autoStopPcap not_false captureId _ _ _ hexec
    exact iff_of_true ⟨hfinal.filesTracked hv htracked not_false, by simp [LifecycleOp.removes]⟩
      not_false
  · have hdeletes := (handles_discard (handles_deletePcap not_false ctx hv) _ _ _ hexec).2
    obtain ⟨htracked', hgone⟩ := hdeletes.filesTracked hv htracked hfail
    refine iff_of_true ⟨htracked', ?_⟩ not_false
    rintro _ ⟨⟩
    exact hgone
  · have hundeploys := handles_discard
      (handles_undeployInstance not_false ctx not_false not_false hv) _ _ _ hexec
    obtain ⟨htracked', hgone⟩ := hundeploys.filesTracked hv htracked
    refine iff_of_true ⟨htracked', ?_⟩ not_false
    rintro _ ⟨⟩
    exact hgone

/-- In a run of operations that do not fail, every one leaves the files as it has to exactly
if none starts a capture while the row of a running instance names a file. -/
theorem leavesTracked_iff_noRestart (json : JsonCodec) {s : System} (hs : NoCaptures s)
    (hfiles : ∀ id, s.files (Pcap.captureFileName id) = none) {run : List (LifecycleOp × System)}
    (hrun : Path (lifecycleStep json) s run) :
    EveryStep (fun _ op s' => LeavesTracked op s') s run ↔
      EveryStep (fun s op _ => ¬ op.Restarts s.captures) s run := by
  have htracked : s.captures.FilesTracked := by
    intro id
    refine iff_of_false (fun h => h (hfiles id)) ?_
    rintro ⟨row, hrow, hpath⟩
    rw [(hs.idle id row hrow).2] at hpath
    exact absurd hpath (by simp)
  let inv (s : System) : Prop := s.captures.Wellformed ∧ s.captures.FilesTracked
  have hgood : ∀ s op s', inv s → lifecycleStep json s op s' →
      (LeavesTracked op s' ↔ ¬ op.Restarts s.captures) :=
    fun s op s' hinv hstep => leavesTracked_iff hinv.1 hinv.2 hstep
  have hkeep : ∀ s op s', inv s → lifecycleStep json s op s' → ¬ op.Restarts s.captures → inv s' :=
    fun s op s' hinv hstep hcond => ⟨lifecycleStep_wellformed hinv.1 hstep,
      ((hgood s op s' hinv hstep).mpr hcond).tracked⟩
  exact Path.everyStep_iff hgood hkeep ⟨hs.wellformed, htracked⟩ hrun

/-- A capture is started and stopped, and then another one is started. -/
theorem restartedRun (json : JsonCodec) :
    ∃ s₁ s₂ s₃, lifecycleStep json runningOnce (.pcap (.startPcap none sshInstance)) s₁ ∧
      lifecycleStep json s₁ (.pcap (.stopPcap none sshInstance)) s₂ ∧
      lifecycleStep json s₂ (.pcap (.startPcap none sshInstance)) s₃ ∧
      s₂.captures.Restarts sshInstance := by
  obtain ⟨tr₁, s₁, hexec₁, -, hs₁, hlocks₁⟩ := exec_startOnce json ⟨False, False, False⟩
  obtain ⟨tr₂, s₂, hexec₂, -, hrow₂, hnew₂, hlocks₂⟩ :=
    exec_storeOnce json ⟨False, False, False⟩ hs₁ hlocks₁
  obtain ⟨tr₃, s₃, hexec₃, -⟩ :=
    (can_startPcap json ⟨False, False, False⟩ none 400 hrow₂ rfl (by decide)
    rfl hnew₂ (hlocks₂ ▸ Set.notMem_empty _)).exec
  exact ⟨s₁, s₂, s₃, ⟨tr₁, hexec₁⟩, ⟨tr₂, hexec₂⟩, ⟨tr₃, hexec₃⟩, readyRow, hrow₂, rfl, by decide,
    by simp [readyRow, runningRow], by simp [readyRow]⟩

/-- In a run that starts a capture twice, and in its only instance. -/
theorem restartedRun_leavesTracked_iff : ∃ run,
    Path (lifecycleStep emptyObjectCodec) runningOnce run ∧ run.length = 3 ∧
      (EveryStep (fun _ op s' => LeavesTracked op s') runningOnce run ↔
        EveryStep (fun s op _ => ¬ op.Restarts s.captures) runningOnce run) := by
  obtain ⟨s₁, s₂, s₃, h₁, h₂, h₃, -⟩ := restartedRun emptyObjectCodec
  have hrun := Path.cons h₁ (.cons h₂ (.cons h₃ .nil))
  exact ⟨_, hrun, rfl, leavesTracked_iff_noRestart _ noCaptures_runningOnce (fun _ => rfl) hrun⟩

/-- The second start leaves a file that no row names. -/
theorem restartedRun_not_tracked :
    ¬ ∀ (json : JsonCodec) (s : System) (run : List (LifecycleOp × System)),
    NoCaptures s → (∀ id, s.files (Pcap.captureFileName id) = none) →
      Path (lifecycleStep json) s run → EveryStep (fun _ op s' => LeavesTracked op s') s run := by
  intro h
  obtain ⟨s₁, s₂, s₃, h₁, h₂, h₃, hrestarts⟩ := restartedRun emptyObjectCodec
  obtain ⟨-, htracked₂, htracked₃, -⟩ := h _ _ _ noCaptures_runningOnce (fun _ => rfl)
    (.cons h₁ (.cons h₂ (.cons h₃ .nil)))
  have hv₂ := lifecycleStep_wellformed
    (lifecycleStep_wellformed noCaptures_runningOnce.wellformed h₁) h₂
  exact (leavesTracked_iff hv₂ htracked₂.tracked h₃).mp htracked₃ hrestarts

end ProtocolSimulation.Service
