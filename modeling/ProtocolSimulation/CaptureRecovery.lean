import ProtocolSimulation.CaptureRuns

/-!
# A failed stop can be repeated

Whatever the Agent and the file system refuse, a row that is capturing names a
capture that the Agent still has, except after one failure: the Agent has stopped the
capture and its packets cannot be stored. The row goes on naming a capture that is
gone.
-/
namespace ProtocolSimulation.Service

open ProtocolSimulation.Texts ProtocolSimulation.JsonValues ProtocolSimulation.Storage
open ProtocolSimulation.Programs ProtocolSimulation.Programs.Prog

namespace Captures

variable {v v' : Captures} {id : Text}

/-- The Agent has every capture that a capturing row names. -/
def Recoverable (v : Captures) : Prop :=
  ∀ id row captureId, v.rows id = some row → row.pcapStatus = .capturing →
    row.pcapCaptureId = some captureId →
    ∃ workloadId, row.workloadId = some workloadId ∧ (workloadId, captureId) ∈ v.active

/-- No two instances are capturing the same capture. -/
def Unshared (v : Captures) : Prop :=
  ∀ id id' row row', v.rows id = some row → v.rows id' = some row' → row.pcapStatus = .capturing →
    row'.pcapStatus = .capturing → row.workloadId = row'.workloadId →
    row.pcapCaptureId = row'.pcapCaptureId → row.pcapCaptureId ≠ none → id = id'

structure RecoveryInv (v : Captures) : Prop where
  wellformed : v.Wellformed
  recoverable : v.Recoverable
  unshared : v.Unshared

/-- A row that was capturing afterwards, when another one was set not to be. -/
theorem capturing_of_setPcap {pcapStatus : PcapStatus} {startTime : Option ℤ}
    {captureId filePath : Option Text} {j : Text} {row : InstanceRow}
    (hstatus : pcapStatus ≠ .capturing)
    (hrow : (v.setPcap id pcapStatus startTime captureId filePath).rows j = some row)
    (hcapturing : row.pcapStatus = .capturing) : v.rows j = some row ∧ j ≠ id := by
  obtain ⟨r, hr, rfl⟩ := v.setPcap_eq_some hrow
  split at hcapturing
  next => exact absurd hcapturing hstatus
  next hj =>
    rw [if_neg hj]
    exact ⟨hr, hj⟩

/-- The capture of an instance ends, and those of the others go on. -/
theorem RecoveryInv.release (v' : Captures) {pcapStatus : PcapStatus} {startTime : Option ℤ}
    {captureId filePath : Option Text} {row : InstanceRow} (h : v.RecoveryInv)
    (hrow : v.rows id = some row) (hstatus : pcapStatus ≠ .capturing)
    (hrows : v'.rows = (v.setPcap id pcapStatus startTime captureId filePath).rows)
    (hactive : v'.active = (v.stop row).active) : v'.Recoverable ∧ v'.Unshared := by
  have hold : ∀ {j r}, v'.rows j = some r → r.pcapStatus = .capturing → v.rows j =
      some r ∧ j ≠ id := by
    intro j r hr hcapturing
    exact capturing_of_setPcap hstatus (hrows ▸ hr) hcapturing
  constructor
  · intro j r c hr hcapturing hc
    obtain ⟨hr', hj⟩ := hold hr hcapturing
    obtain ⟨w, hw, hmem⟩ := h.recoverable j r c hr' hcapturing hc
    refine ⟨w, hw, ?_⟩
    rw [hactive]
    refine ⟨hmem, ?_⟩
    rintro ⟨hrowCapturing, hrowWorkload, hrowCapture⟩
    exact hj (h.unshared j id r row hr' hrow hcapturing hrowCapturing (hw.trans hrowWorkload.symm)
      (hc.trans hrowCapture.symm) (by simp [hc]))
  · intro j j' r r' hr hr' hcapturing hcapturing'
    exact h.unshared j j' r r' (hold hr hcapturing).1 (hold hr' hcapturing').1
      hcapturing hcapturing'

theorem Starts.recoveryInv {mayFail : Prop} (h : v.RecoveryInv) (hstarts : v.Starts mayFail id v') :
    v'.RecoveryInv := by
  refine ⟨hstarts.wellformed h.wellformed, ?_, ?_⟩
  · cases hstarts with
    | kept => exact h.recoverable
    | started startedAt hrow hstatus hpcap hworkload hnew =>
      intro j r c hr hcapturing hc
      obtain ⟨q, hq, rfl⟩ := v.setPcap_eq_some hr
      split at hc
      next hj =>
        subst hj
        obtain rfl := Option.some.inj (hrow.symm.trans hq)
        obtain rfl := Option.some.inj hc
        exact ⟨_, by rw [if_pos rfl]; exact hworkload, Set.mem_insert _ _⟩
      next hj =>
        rw [if_neg hj] at hcapturing ⊢
        obtain ⟨w, hw, hmem⟩ := h.recoverable j q c hq hcapturing hc
        exact ⟨w, hw, Set.mem_insert_of_mem _ hmem⟩
  · cases hstarts with
    | kept => exact h.unshared
    | @started row workloadId captureId startedAt hrow hstatus hpcap hworkload hnew =>
      -- the Agent has the captures of the other rows, and the new one it had not
      have hother : ∀ j q, v.rows j = some q → q.pcapStatus = .capturing →
          q.workloadId = some workloadId → q.pcapCaptureId ≠ some captureId := by
        intro j q hq hcapturing hw hc
        obtain ⟨w, hw', hmem⟩ := h.recoverable j q captureId hq hcapturing hc
        obtain rfl := Option.some.inj (hw.symm.trans hw')
        exact hnew hmem
      intro j j' r r' hr hr' hcapturing hcapturing' hw hc hne
      obtain ⟨q, hq, rfl⟩ := v.setPcap_eq_some hr
      obtain ⟨q', hq', rfl⟩ := v.setPcap_eq_some hr'
      by_cases hj : j = id <;> by_cases hj' : j' = id
      · exact hj.trans hj'.symm
      · subst hj
        obtain rfl := Option.some.inj (hrow.symm.trans hq)
        simp only [if_true, if_neg hj'] at hw hc hcapturing'
        exact absurd hc.symm (hother j' q' hq' hcapturing' (hw.symm.trans hworkload))
      · subst hj'
        obtain rfl := Option.some.inj (hrow.symm.trans hq')
        simp only [if_true, if_neg hj] at hw hc hcapturing
        exact absurd hc (hother j q hq hcapturing (hw.trans hworkload))
      · simp only [if_neg hj, if_neg hj'] at hcapturing hcapturing' hw hc hne
        exact h.unshared j j' q q' hq hq' hcapturing hcapturing' hw hc hne

/-- Finishing a capture is safe exactly if its packets are stored or there are none. -/
theorem Finalizes.recoveryInv {filesFail stored : Prop} (h : v.RecoveryInv)
    (hfinal : v.Finalizes filesFail id stored v') :
    (v'.Recoverable ↔ stored) ∧ (stored → v'.RecoveryInv) := by
  have hwellformed := hfinal.wellformed h.wellformed
  cases hfinal with
  | kept => exact ⟨iff_of_true h.recoverable trivial, fun _ => h⟩
  | @dropped row hrow =>
    obtain ⟨hrecoverable, hunshared⟩ := h.release ((v.stop row).setPcap id .idle none none none)
      hrow.row_eq (by decide) rfl rfl
    exact ⟨iff_of_true hrecoverable trivial, fun _ => ⟨hwellformed, hrecoverable, hunshared⟩⟩
  | @stored row content hrow =>
    obtain ⟨hrecoverable, hunshared⟩ := h.release (((v.stop row).writeFile (Pcap.captureFileName id)
      content).setPcap id .ready none none (some (Pcap.captureFileName id))) hrow.row_eq
        (by decide) rfl rfl
    exact ⟨iff_of_true hrecoverable trivial, fun _ => ⟨hwellformed, hrecoverable, hunshared⟩⟩
  | @lost row files hfails hrow =>
    refine ⟨iff_of_false ?_ not_false, False.elim⟩
    intro hrecoverable
    obtain ⟨captureId, hcapture⟩ := Option.ne_none_iff_exists'.mp hrow.captureId
    obtain ⟨w, hw, -, hnot⟩ := hrecoverable id row captureId hrow.row_eq hrow.capturing hcapture
    exact hnot ⟨hrow.capturing, hw, hcapture⟩

theorem Deletes.recoveryInv {mayFail : Prop} (h : v.RecoveryInv)
    (hdeletes : v.Deletes mayFail id v') : v'.RecoveryInv := by
  have hwellformed := hdeletes.wellformed h.wellformed
  cases hdeletes with
  | kept => exact h
  | @deleted row hrow =>
    obtain ⟨hrecoverable, hunshared⟩ :=
      h.release (((v.stop row).removeFileOf row).setPcap id .idle none
      none none) hrow (by decide) rfl rfl
    exact ⟨hwellformed, hrecoverable, hunshared⟩

end Captures

/-! ## Every sequence of operations -/

/-- One operation from its beginning to its end, in which any call to the Agent and any
operation on a file may fail. -/
def captureStep (json : JsonCodec) (s : System) (l : CaptureOp × Trace Eff.Answer) (s' : System) :
    Prop :=
  Exec (act json ⟨False, True, True⟩) s l.1.program l.2 s' ()

theorem captureStep_recoveryInv {json : JsonCodec} {s s' : System}
    {l : CaptureOp × Trace Eff.Answer}
    (h : s.captures.RecoveryInv) (hstep : captureStep json s l s') :
    (s'.captures.Recoverable ↔ Stored l.2) ∧ (Stored l.2 → s'.captures.RecoveryInv) := by
  obtain ⟨⟨ctx, id⟩ | ⟨ctx, id⟩ | ⟨id, captureId⟩ | ⟨ctx, id⟩, tr⟩ := l
  · obtain ⟨hstored, hstarts⟩ := handles_discard (handles_startPcap not_false ctx) _ _ _ hstep
    have hinv := hstarts.recoveryInv h
    exact ⟨iff_of_true hinv.recoverable hstored, fun _ => hinv⟩
  · exact (handles_discard (handles_stopPcap not_false ctx) _ _ _ hstep).recoveryInv h
  · exact (handles_autoStopPcap not_false captureId _ _ _ hstep).recoveryInv h
  · obtain ⟨hstored, hdeletes⟩ :=
      handles_discard (handles_deletePcap not_false ctx h.wellformed) _ _ _ hstep
    have hinv := hdeletes.recoveryInv h
    exact ⟨iff_of_true hinv.recoverable hstored, fun _ => hinv⟩

/-- In a run of operations of which any may fail, every capturing row always names a capture
that the Agent has, exactly if no directory or file of a capture failed to be written. -/
theorem recoverable_iff_stored (json : JsonCodec) {s : System} (hs : NoCaptures s)
    {run : List ((CaptureOp × Trace Eff.Answer) × System)} (hrun : Path (captureStep json) s run) :
    EveryStep (fun _ _ s' => s'.captures.Recoverable) s run ↔
      EveryStep (fun _ l _ => Stored l.2) s run := by
  have hidle : ∀ id row, s.captures.rows id = some row → row.pcapStatus ≠ .capturing := by
    intro id row hrow
    rw [(hs.idle id row hrow).1]
    decide
  have hinv : s.captures.RecoveryInv := by
    refine ⟨hs.wellformed, ?_, ?_⟩
    · intro id row c hrow hcapturing
      exact absurd hcapturing (hidle id row hrow)
    · intro id id' row row' hrow _ hcapturing
      exact absurd hcapturing (hidle id row hrow)
  have hgood : ∀ s l s', s.captures.RecoveryInv → captureStep json s l s' →
      (s'.captures.Recoverable ↔ Stored l.2) := fun s l s' h hstep =>
        (captureStep_recoveryInv h hstep).1
  have hkeep : ∀ s l s', s.captures.RecoveryInv → captureStep json s l s' → Stored l.2 →
      s'.captures.RecoveryInv := fun s l s' h hstep => (captureStep_recoveryInv h hstep).2
  exact Path.everyStep_iff hgood hkeep hinv hrun

/-- A capture is started, and its packets are lost when it is stopped. -/
theorem lostRun (json : JsonCodec) : ∃ l₁ s₁ l₂ s₂, captureStep json runningOnce l₁ s₁ ∧
    captureStep json s₁ l₂ s₂ ∧ ¬ s₂.captures.Recoverable := by
  obtain ⟨tr₁, s₁, hexec₁, -, hs₁, hlocks₁⟩ := exec_startOnce json ⟨False, True, True⟩
  obtain ⟨tr₂, s₂, hexec₂, -, hrow₂, hnot₂⟩ :=
    exec_loseOnce json ⟨False, True, True⟩ hs₁ hlocks₁ trivial
  refine ⟨(.startPcap none sshInstance, tr₁), s₁, (.stopPcap none sshInstance, tr₂), s₂,
    hexec₁, hexec₂, ?_⟩
  intro h
  obtain ⟨w, hw, hmem⟩ := h sshInstance capturingRow "c-1" hrow₂ rfl rfl
  obtain rfl := Option.some.inj hw
  exact hnot₂ hmem

theorem lostRun_recoverable_iff : ∃ run, Path (captureStep emptyObjectCodec) runningOnce run ∧
    run.length = 2 ∧ (EveryStep (fun _ _ s' => s'.captures.Recoverable) runningOnce run ↔
      EveryStep (fun _ l _ => Stored l.2) runningOnce run) := by
  obtain ⟨l₁, s₁, l₂, s₂, h₁, h₂, -⟩ := lostRun emptyObjectCodec
  have hrun := Path.cons h₁ (.cons h₂ .nil)
  exact ⟨_, hrun, rfl, recoverable_iff_stored _ noCaptures_runningOnce hrun⟩

/-- The row goes on naming the capture that the Agent has forgotten. -/
theorem lostRun_not_recoverable : ¬ ∀ (json : JsonCodec) (s : System)
    (run : List ((CaptureOp × Trace Eff.Answer) × System)), NoCaptures s →
      Path (captureStep json) s run → EveryStep (fun _ _ s' => s'.captures.Recoverable) s run := by
  intro h
  obtain ⟨l₁, s₁, l₂, s₂, h₁, h₂, hlost⟩ := lostRun emptyObjectCodec
  obtain ⟨-, hrecoverable, -⟩ := h _ _ _ noCaptures_runningOnce (.cons h₁ (.cons h₂ .nil))
  exact hlost hrecoverable

end ProtocolSimulation.Service
