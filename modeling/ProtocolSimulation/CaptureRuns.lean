import ProtocolSimulation.CaptureOps
import ProtocolSimulation.DeployRuns

/-!
# Captures from beginning to end

Executions of the operations in which something happens: a capture is started, and
it is stopped with its packets stored or lost.
-/
namespace ProtocolSimulation.Service

open ProtocolSimulation.Texts ProtocolSimulation.JsonValues ProtocolSimulation.KeyedTables
open ProtocolSimulation.Identifiers ProtocolSimulation.Storage ProtocolSimulation.Api
open ProtocolSimulation.Programs ProtocolSimulation.Programs.Prog

section Can

variable {json : JsonCodec} {f : Faults} {s : System} {α β : Type} {id : Text}
  {Q : Prop → Captures → Set Text → α → Prop}

/-- The program can run alone so that it leaves the captures and the locks as `Q` says. -/
def Can (json : JsonCodec) (f : Faults) (s : System) (p : Handler α)
    (Q : Prop → Captures → Set Text → α → Prop) : Prop :=
  ∃ tr s' a, Exec (act json f) s p tr s' a ∧ Q (Stored tr) s'.captures s'.locks a

theorem Can.ret {a : α} (h : Q True s.captures s.locks a) : Can json f s (.ret a) Q :=
  ⟨[], s, a, .ret, by rwa [eq_true stored_nil]⟩

theorem Can.mono {p : Handler α} {P : Prop → Captures → Set Text → α → Prop} (h : Can json f s p P)
    (hQ : ∀ stored v locks a, P stored v locks a → Q stored v locks a) : Can json f s p Q := by
  obtain ⟨tr, s', a, hexec, hP⟩ := h
  exact ⟨tr, s', a, hexec, hQ _ _ _ _ hP⟩

theorem Can.store {s' : System} {e : Eff} {k : e.Answer → Handler α} (r : e.Answer)
    (hact : act json f s e r s')
    (h : Can json f s' (k r) fun stored => Q (¬ StoreFailed ⟨e, r⟩ ∧ stored)) :
    Can json f s (.call e k) Q := by
  obtain ⟨tr, s'', a, hexec, hQ⟩ := h
  exact ⟨_, s'', a, .call hact hexec, by rwa [eq_iff_iff.mpr stored_cons]⟩

theorem Can.call {s' : System} {e : Eff} {k : e.Answer → Handler α} (r : e.Answer)
    (he : ¬ StoreFailed ⟨e, r⟩) (hact : act json f s e r s') (h : Can json f s' (k r) Q) :
    Can json f s (.call e k) Q := by
  refine .store r hact ?_
  rwa [eq_true he, funext (fun stored => true_and stored)]

theorem Can.bind {p : Handler β} {k : β → Handler α} {P : Prop → Captures → Set Text → β → Prop}
    (hp : Can json f s p P) (hk : ∀ stored s' b, P stored s'.captures s'.locks b →
      Can json f s' (k b) fun stored' => Q (stored ∧ stored')) : Can json f s (p >>= k) Q := by
  obtain ⟨tr, s', b, hexec, hP⟩ := hp
  obtain ⟨tr', s'', a, hexec', hQ⟩ := hk _ s' b hP
  refine ⟨tr ++ tr', s'', a, exec_bind_iff.mpr ⟨tr, tr', s', b, rfl, hexec, hexec'⟩, ?_⟩
  rwa [eq_iff_iff.mpr stored_append]

theorem Can.withLock {body : Handler α} (hlock : id ∉ s.locks)
    (h : Can json f { s with locks := insert id s.locks } body fun stored v locks =>
      Q stored v (locks \ {id})) : Can json f s (withLock id body) Q := by
  refine .call () not_false ⟨hlock, rfl⟩ (h.bind ?_)
  intro stored s' a hQ
  refine .call () not_false rfl (.ret ?_)
  rwa [and_true]

theorem Can.getInstance {row : InstanceRow} {k : Except Error (Option Instance) → Handler α}
    (hrow : s.captures.rows id = some row)
    (h : ∀ inst : Instance, inst.row = row → Can json f s (k (.ok (some inst))) Q) :
    Can json f s (getInstance id >>= k) Q := by
  refine .call (.ok (some row)) not_false ⟨rfl, .inl (congrArg _ hrow.symm)⟩ ?_
  exact .call (.ok (s.db.selectEndpoints row.id)) not_false ⟨rfl, .inl rfl⟩ (h ⟨row, _⟩ rfl)

theorem Can.updatePcapState {row : InstanceRow} {pcapStatus : PcapStatus} {startTime : Option ℤ}
    {captureId filePath : Option Text} {k : Except Error (Option Instance) → Handler α}
    (hrow : s.captures.rows id = some row)
    (h : ∀ s' inst, s'.captures = s.captures.setPcap id pcapStatus startTime captureId filePath →
      s'.locks = s.locks → Can json f s' (k (.ok (some inst))) Q) :
    Can json f s (updatePcapState id pcapStatus startTime captureId filePath >>= k) Q := by
  have hcaptures : System.captures { s with
      db := s.db.updatePcap id pcapStatus startTime captureId filePath } =
      s.captures.setPcap id pcapStatus startTime captureId filePath :=
    captures_updatePcap s id pcapStatus startTime captureId filePath
  have hrow' : ∃ row', (System.captures { s with
      db := s.db.updatePcap id pcapStatus startTime captureId filePath }).rows id = some row' := by
    rw [hcaptures]
    exact ⟨_, s.captures.setPcap_self hrow⟩
  obtain ⟨row', hrow'⟩ := hrow'
  exact .call (.ok ()) not_false (.inl ⟨rfl, rfl⟩)
    (.getInstance hrow' fun inst _ => h _ inst hcaptures rfl)

theorem Can.emitOperationEvent {event : OperationEvent} {k : Unit → Handler α}
    (h : ∀ s', s'.captures = s.captures → s'.locks = s.locks → Can json f s' (k ()) Q) :
    Can json f s (emitOperationEvent event >>= k) Q :=
  .call (.ok ()) not_false (.inl ⟨rfl, rfl⟩) (h _ rfl rfl)

end Can

/-! ## Operations in which something happens -/

section Operations

variable (json : JsonCodec) (f : Faults) {s : System} {id : Text} {row : InstanceRow}
  {workloadId captureId : Text} (operationContext : Option Text)

/-- A capture is started. -/
theorem can_startPcap (startedAt : ℤ) (hrow : s.captures.rows id = some row)
    (hstatus : row.status = .running) (hpcap : row.pcapStatus ≠ .capturing)
    (hworkload : row.workloadId = some workloadId)
    (hnew : (workloadId, captureId) ∉ s.captures.active) (hlock : id ∉ s.locks) :
    Can json f s (startPcap operationContext id) fun stored v locks _ =>
      stored ∧ v = s.captures.start id workloadId captureId startedAt ∧ locks = s.locks := by
  refine .withLock hlock (.getInstance hrow ?_)
  rintro inst rfl
  simp only [startPcapOf, hstatus, hpcap, hworkload, ne_eq, not_true_eq_false, if_false]
  refine .call (.ok captureId) not_false (.inl ⟨_, rfl, hnew, rfl⟩) (.call startedAt not_false rfl
    (.updatePcapState hrow fun s₁ updated hs₁ hlocks₁ => ?_))
  refine .call () not_false rfl (.emitOperationEvent fun s₂ hs₂ hlocks₂ => .ret ⟨trivial, ?_, ?_⟩)
  · exact hs₂.trans hs₁
  · rw [hlocks₂, show System.locks _ = s₁.locks from rfl, hlocks₁]
    exact Set.insert_sdiff_self_of_notMem hlock

/-- A capture is stopped at the Agent, and what comes then happens to its bytes. -/
theorem can_stopPcap (content : Bytes) {stored : Prop} {v : Captures}
    (hrow : s.captures.rows id = some row) (hpcap : row.pcapStatus = .capturing)
    (hworkload : row.workloadId = some workloadId) (hcapture : row.pcapCaptureId = some captureId)
    (hlock : id ∉ s.locks)
    (hstore : ∀ s' inst, s'.captures = s.captures.stop row →
      Can json f s' (storeCapture id inst content) fun stored' v' locks _ =>
        (stored' ↔ stored) ∧ v' = v ∧ locks = s'.locks) :
    Can json f s (stopPcap operationContext id) fun stored' v' locks _ =>
      (stored' ↔ stored) ∧ v' = v ∧ locks = s.locks := by
  have hfinal : Can json f s (finalizePcapCapture id none) fun stored' v' locks _ =>
      (stored' ↔ stored) ∧ v' = v ∧ locks = s.locks := by
    refine .withLock hlock (.getInstance hrow ?_)
    rintro inst rfl
    simp only [finalizePcapCaptureOf, hpcap, hworkload, hcapture, ne_eq,
      not_true_eq_false, false_or,
      Option.mem_def, reduceCtorEq, false_and, exists_false, if_false]
    refine .call (.ok content) not_false (.inl ⟨content, rfl, rfl⟩) ?_
    refine .mono (hstore _ inst (by exact (s.captures.stop_eq_diff hpcap hworkload hcapture).symm))
      ?_
    rintro stored' v' locks a ⟨hstored, hv, rfl⟩
    refine ⟨hstored, hv, ?_⟩
    exact Set.insert_sdiff_self_of_notMem hlock
  refine .getInstance hrow ?_
  rintro inst rfl
  simp only [hpcap, ne_eq, not_true_eq_false, if_false]
  refine hfinal.bind ?_
  rintro stored' s' (e | _ | ⟨updated, finished⟩) ⟨hstored, hv, hlocks⟩
  · exact .emitOperationEvent fun s'' hs'' hlocks'' =>
      .ret ⟨by rwa [and_true], hs''.trans hv, hlocks''.trans hlocks⟩
  · exact .ret ⟨by rwa [and_true], hv, hlocks⟩
  · exact .emitOperationEvent fun s'' hs'' hlocks'' =>
      .ret ⟨by rwa [and_true], hs''.trans hv, hlocks''.trans hlocks⟩

/-- The packets of a capture are stored. -/
theorem can_storeCapture {v : Captures} {content : Bytes} (hcontent : 24 < content.length)
    (hrow : v.Capturing id row) (inst : Instance) (hs : s.captures = v.stop row) :
    Can json f s (storeCapture id inst content) fun stored v' locks _ =>
      stored ∧ v' = ((v.stop row).writeFile (Pcap.captureFileName id) content).setPcap id .ready
        none none (some (Pcap.captureFileName id)) ∧ locks = s.locks := by
  rw [storeCapture, if_neg (not_le.mpr hcontent)]
  refine .call (.ok ()) not_false ⟨rfl, .inl rfl⟩ (.call (.ok ()) not_false (.inl ⟨rfl, rfl⟩) ?_)
  have hrow' : s.captures.rows id = some row := hs ▸ hrow.row_eq
  refine .updatePcapState hrow' fun s₁ updated hs₁ hlocks₁ => .ret ⟨trivial, ?_, hlocks₁⟩
  rw [hs₁, ← hs]
  rfl

/-- The packets of a capture are lost, as the directory for them cannot be created. -/
theorem can_loseCapture (hfiles : f.files) {content : Bytes} (hcontent : 24 < content.length)
    (inst : Instance) :
    Can json f s (storeCapture id inst content) fun stored v' locks _ =>
      ¬ stored ∧ v' = s.captures ∧ locks = s.locks := by
  rw [storeCapture, if_neg (not_le.mpr hcontent)]
  refine .store (.error (.ofMessage [])) ⟨rfl, .inr ⟨hfiles, _, rfl⟩⟩ (.ret ⟨?_, rfl, rfl⟩)
  simp [StoreFailed]

end Operations

/-! ## One running instance -/

/-- A system with one instance, which is running. -/
def runningOnce : System :=
  { ruleOnly with
    db := { ruleOnly.db with
      instances := ⟨[⟨sshInstance, "rule-1", "shell", "ssh", "token", .running,
        some "w-1", none, .idle,
        none, none, none⟩], by simp⟩
      instance_rule := by simp [ruleOnly, deployedOnce]
      endpoint_instance := by simp [ruleOnly, Database.init]
      log_instance := by simp [ruleOnly, Database.init, AuditTable.empty] } }

/-- Its row. -/
def runningRow : InstanceRow :=
  ⟨sshInstance, "rule-1", "shell", "ssh", "token", .running, some "w-1", none, .idle,
    none, none, none⟩

theorem runningOnce_row : runningOnce.captures.rows sshInstance = some runningRow := by
  simp [System.captures, Database.selectInstance, Table.get, runningOnce, runningRow]

theorem noCaptures_runningOnce : NoCaptures runningOnce := by
  have hrows : ∀ id row, runningOnce.db.selectInstance id = some row → row = runningRow ∧
      sshInstance = id := by
    intro id row hrow
    obtain ⟨hmem, hid⟩ := Table.get_eq_some_iff.mp hrow
    obtain rfl := List.mem_singleton.mp hmem
    exact ⟨rfl, hid⟩
  refine ⟨?_, ?_⟩
  · intro id row hrow
    exact ⟨uuidEnding 0, (hrows id row hrow).2⟩
  · intro id row hrow
    rw [(hrows id row hrow).1]
    exact ⟨rfl, rfl⟩

theorem Can.exec {json : JsonCodec} {f : Faults} {s : System} {α : Type} {p : Handler α}
    {Q : Prop → Captures → Set Text → Prop}
    (h : Can json f s p fun stored v locks _ => Q stored v locks) :
    ∃ tr s', Exec (act json f) s p.discard tr s' () ∧ Q (Stored tr) s'.captures s'.locks := by
  obtain ⟨tr, s', a, hexec, hQ⟩ := h
  exact ⟨tr, s', exec_bind_iff.mpr ⟨tr, [], s', a, by simp, hexec, .ret⟩, hQ⟩

/-- The capture of the running instance is started. -/
theorem exec_startOnce (json : JsonCodec) (f : Faults) :
    ∃ tr s, Exec (act json f) runningOnce (startPcap none sshInstance).discard tr s () ∧ Stored tr ∧
      s.captures = runningOnce.captures.start sshInstance "w-1" "c-1" 0 ∧ s.locks = ∅ :=
  (can_startPcap json f none 0 runningOnce_row rfl (by decide) rfl (Set.notMem_empty _)
    (Set.notMem_empty _)).exec

/-- The row while the capture is active. -/
def capturingRow : InstanceRow :=
  { runningRow with
    pcapStatus := .capturing
    pcapStartTime := some 0
    pcapCaptureId := some "c-1" }

theorem capturing_startOnce :
    (runningOnce.captures.start sshInstance "w-1" "c-1" 0).Capturing sshInstance capturingRow :=
  ⟨runningOnce.captures.setPcap_self runningOnce_row, rfl, by simp [capturingRow, runningRow],
    by simp [capturingRow]⟩

/-- The row while the packets of the capture can be downloaded. -/
def readyRow : InstanceRow :=
  { runningRow with
    pcapStatus := .ready
    pcapFilePath := some (Pcap.captureFileName sshInstance) }

section Once

variable (json : JsonCodec) (f : Faults) {s : System}
  (hs : s.captures = runningOnce.captures.start sshInstance "w-1" "c-1" 0) (hlocks : s.locks = ∅)
include hs hlocks

/-- The capture is stopped, and its 25 bytes are stored. -/
theorem exec_storeOnce :
    ∃ tr s', Exec (act json f) s (stopPcap none sshInstance).discard tr s' () ∧ Stored tr ∧
      s'.captures.rows sshInstance = some readyRow ∧
        (("w-1" : Text), ("c-1" : Text)) ∉ s'.captures.active ∧
      s'.locks = ∅ := by
  have hrow : s.captures.Capturing sshInstance capturingRow := hs ▸ capturing_startOnce
  have hstore : ∀ s' inst, s'.captures = s.captures.stop capturingRow →
      Can json f s' (storeCapture sshInstance inst (List.replicate 25 0)) fun stored v locks _ =>
        (stored ↔ True) ∧ v = ((s.captures.stop capturingRow).writeFile
          (Pcap.captureFileName sshInstance)
          (List.replicate 25 0)).setPcap sshInstance .ready none none
          (some (Pcap.captureFileName sshInstance)) ∧ locks = s'.locks := by
    intro s' inst hs'
    refine (can_storeCapture json f (by decide) hrow inst hs').mono ?_
    intro stored v locks a h
    exact ⟨iff_true_intro h.1, h.2⟩
  obtain ⟨tr, s', hexec, hstored, hs', hlocks'⟩ :=
    (can_stopPcap json f none _ hrow.row_eq rfl rfl rfl
    (hlocks ▸ Set.notMem_empty _) hstore).exec
  refine ⟨tr, s', hexec, hstored.mpr trivial, ?_, ?_, hlocks'.trans hlocks⟩
  · rw [hs']
    exact (Captures.setPcap_self _ (show _ = some capturingRow from hrow.row_eq)).trans rfl
  · rw [hs']
    rintro ⟨-, hnot⟩
    exact hnot ⟨rfl, rfl, rfl⟩

/-- The capture is stopped, and its 25 bytes are lost. -/
theorem exec_loseOnce (hfiles : f.files) :
    ∃ tr s', Exec (act json f) s (stopPcap none sshInstance).discard tr s' () ∧ ¬ Stored tr ∧
      s'.captures.rows sshInstance = some capturingRow ∧
        (("w-1" : Text), ("c-1" : Text)) ∉ s'.captures.active := by
  have hrow : s.captures.Capturing sshInstance capturingRow := hs ▸ capturing_startOnce
  have hstore : ∀ s' inst, s'.captures = s.captures.stop capturingRow →
      Can json f s' (storeCapture sshInstance inst (List.replicate 25 0)) fun stored v locks _ =>
        (stored ↔ False) ∧ v = s.captures.stop capturingRow ∧ locks = s'.locks := by
    intro s' inst hs'
    refine (can_loseCapture json f hfiles (by decide) inst).mono ?_
    intro stored v locks a h
    exact ⟨iff_false_intro h.1, h.2.1.trans hs', h.2.2⟩
  obtain ⟨tr, s', hexec, hstored, hs', -⟩ := (can_stopPcap json f none _ hrow.row_eq rfl rfl rfl
    (hlocks ▸ Set.notMem_empty _) hstore).exec
  refine ⟨tr, s', hexec, hstored.mp, ?_, ?_⟩
  · rw [hs']
    exact hrow.row_eq
  · rw [hs']
    rintro ⟨-, hnot⟩
    exact hnot ⟨rfl, rfl, rfl⟩

end Once

end ProtocolSimulation.Service
