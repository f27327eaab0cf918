import ProtocolSimulation.PortExclusivity

/-!
# The shape of an instance's row

Two statements change a row, one its status and one its capture, from places that
know nothing of each other. That the columns still fit together rests on what a
request has read before: once an instance is not deploying, its workload stays, so
a request that saw a workload may go on to record a capture.
-/
namespace ProtocolSimulation.Service

open ProtocolSimulation.Texts ProtocolSimulation.JsonValues ProtocolSimulation.KeyedTables
open ProtocolSimulation.Identifiers ProtocolSimulation.Protocols ProtocolSimulation.Storage
open ProtocolSimulation.Api ProtocolSimulation.Programs ProtocolSimulation.Programs.Prog

/-! ## Columns that fit together -/

/-- The columns that go with each state of an instance's capture. -/
def CaptureColumns (id : Text) : PcapStatus → Option ℤ → Option Text → Option Text → Prop
  | .idle, startTime, captureId, filePath => startTime = none ∧ captureId = none ∧ filePath = none
  | .capturing, startTime, captureId, filePath =>
    startTime ≠ none ∧ captureId ≠ none ∧ filePath = none
  | .ready, startTime, captureId, filePath =>
    startTime = none ∧ captureId = none ∧ filePath = some (Pcap.captureFileName id)

structure RowShape (row : InstanceRow) : Prop where
  deploying : row.status = .deploying → row.workloadId = none ∧ row.pcapStatus = .idle
  running : row.status = .running → row.workloadId ≠ none
  message : row.errorMessage ≠ none ↔ row.status = .error
  capture : CaptureColumns row.id row.pcapStatus row.pcapStartTime row.pcapCaptureId
    row.pcapFilePath
  workload : row.pcapStatus ≠ .idle → row.workloadId ≠ none

theorem rowShape_newInstance (id : Text) (rule : Rule) (callbackToken : Text) :
    RowShape (newInstance id rule callbackToken) := by
  refine ⟨fun _ => ⟨rfl, rfl⟩, ?_, ?_, ⟨rfl, rfl, rfl⟩, fun h => absurd rfl h⟩
  · simp [newInstance]
  · simp [newInstance]

/-- A later status, with the message that goes with it and a workload if it is `running`. -/
theorem RowShape.updateStatus {row : InstanceRow} (h : RowShape row) {status : InstanceStatus}
    {workloadId message : Option Text} (hstatus : status ≠ .deploying)
    (hrunning : status = .running → workloadId ≠ none)
    (hmessage : message ≠ none ↔ status = .error) : RowShape { row with
      status := status
      workloadId := workloadId.or row.workloadId
      errorMessage := message } := by
  refine ⟨fun heq => absurd heq hstatus, ?_, hmessage, h.capture, ?_⟩
  · intro heq hnone
    exact hrunning heq (Option.or_eq_none_iff.mp hnone).1
  · intro hpcap hnone
    exact h.workload hpcap (Option.or_eq_none_iff.mp hnone).2

/-- Another state of the capture; only an instance with a workload has one that is not `idle`. -/
theorem RowShape.updatePcap {row : InstanceRow} (h : RowShape row) {pcapStatus : PcapStatus}
    {startTime : Option ℤ} {captureId filePath : Option Text}
    (hcolumns : CaptureColumns row.id pcapStatus startTime captureId filePath)
    (hworkload : pcapStatus ≠ .idle → row.workloadId ≠ none) :
    RowShape { row with
      pcapStatus := pcapStatus
      pcapStartTime := startTime
      pcapCaptureId := captureId
      pcapFilePath := filePath } := by
  refine ⟨?_, h.running, h.message, hcolumns, hworkload⟩
  intro hdeploying
  obtain ⟨hnone, -⟩ := h.deploying hdeploying
  refine ⟨hnone, ?_⟩
  by_contra hpcap
  exact hworkload hpcap hnone

/-- Finishing the capture of a row of this shape fails only once the Agent was asked. -/
theorem RowShape.finalize_ne_error {row : InstanceRow} (h : RowShape row)
    (endpoints : List InstanceEndpoint) (expected : Option Text) (e : Error) :
    finalizePcapCaptureOf row.id expected ⟨row, endpoints⟩ ≠ .ret (.error e) := by
  simp only [finalizePcapCaptureOf]
  split
  · simp
  next hcapturing =>
    have hpcap : row.pcapStatus = .capturing := by
      by_contra hne
      exact hcapturing (.inl hne)
    have hcolumns := h.capture
    rw [hpcap] at hcolumns
    split
    next hnone => exact absurd hnone (h.workload (by simp [hpcap]))
    next workloadId _ =>
      split
      next hnone => exact absurd hnone hcolumns.2.1
      next captureId _ =>
        rw [await_bind]
        simp

/-! ## Effects that keep the shape -/

def Shapes (s : System) : Prop := ∀ id row, s.db.selectInstance id = some row → RowShape row

/-- What the effects that change a row have to obey. -/
def KeepsShape (s : System) : Eff → Prop
  | .updateStatus _ status workloadId message =>
    status ≠ .deploying ∧ (status = .running → workloadId ≠ none) ∧
      (message ≠ none ↔ status = .error)
  | .updatePcap id pcapStatus startTime captureId filePath =>
    CaptureColumns id pcapStatus startTime captureId filePath ∧
      (pcapStatus ≠ .idle → ∃ w, Records s id (some w))
  | .insertInstanceIfPortAvailable row _ => RowShape row
  | _ => True

theorem keepsShape_plain (e : Eff) (he : e.Plain) (s : System) : KeepsShape s e := by
  cases e with
  | updateStatus | updatePcap | insertInstanceIfPortAvailable => exact he.elim
  | _ => trivial

theorem Shapes.sub {s s' : System} (h : Shapes s)
    (hsub : ∀ id row, s'.db.selectInstance id = some row → s.db.selectInstance id = some row) :
    Shapes s' := fun id row hrow => h id row (hsub id row hrow)

theorem Shapes.act {json : JsonCodec} {f : Faults} {s s' : System} {e : Eff} {r : e.Answer}
    (h : Shapes s) (he : KeepsShape s e) (hact : act json f s e r s') : Shapes s' := by
  cases e with
  | updateStatus id status workloadId message =>
    obtain ⟨hstatus, hrunning, hmessage⟩ := he
    rcases hact with ⟨rfl, -⟩ | ⟨rfl, -⟩
    · intro j row hrow
      rw [Database.selectInstance_updateStatus] at hrow
      obtain ⟨q, hq, rfl⟩ := Option.map_eq_some_iff.mp hrow
      split
      · exact (h j q hq).updateStatus hstatus hrunning hmessage
      · exact h j q hq
    · exact h
  | updatePcap id pcapStatus startTime captureId filePath =>
    obtain ⟨hcolumns, hworkload⟩ := he
    rcases hact with ⟨rfl, -⟩ | ⟨rfl, -⟩
    · intro j row hrow
      rw [Database.selectInstance_updatePcap] at hrow
      obtain ⟨q, hq, rfl⟩ := Option.map_eq_some_iff.mp hrow
      split
      next hj =>
        have hid : q.id = id := (Table.key_of_get hq).trans hj
        refine (h j q hq).updatePcap (hid ▸ hcolumns) ?_
        intro hpcap
        obtain ⟨w, hrecords⟩ := hworkload hpcap
        simp [(hrecords.2 q (hj ▸ hq)).2]
      next => exact h j q hq
    · exact h
  | insertInstanceIfPortAvailable row endpoints =>
    rcases hact with ⟨db', hins, -, rfl⟩ | ⟨db', -, -, rfl⟩ | ⟨rfl, -⟩
    · intro j q hq
      rw [selectInstance_insertInstanceIfPortAvailable hins] at hq
      split at hq
      · obtain rfl := Option.some.inj hq
        exact he
      · exact h j q hq
    · exact h
    · exact h
  | deleteInstance id =>
    rcases hact with ⟨rfl, -⟩ | ⟨rfl, -⟩
    · refine h.sub fun j row hrow => ?_
      rw [Database.deleteInstance, Database.selectInstance_dropInstances,
        Option.filter_eq_some_iff] at hrow
      exact hrow.1
    · exact h
  | deleteRule id =>
    rcases hact with ⟨rfl, -⟩ | ⟨rfl, -⟩
    · refine h.sub fun j row hrow => ?_
      rw [Database.selectInstance_deleteRule, Option.filter_eq_some_iff] at hrow
      exact hrow.1
    · exact h
  | startWorkload payload =>
    rcases hact with ⟨response, -, rfl⟩ | ⟨rfl, -⟩
    · exact h
    · exact h
  | stopWorkload workloadId =>
    rcases hact with ⟨-, rfl⟩ | ⟨rfl, -⟩
    · exact h
    · exact h
  | nowV7 =>
    obtain ⟨-, rfl⟩ := hact
    exact h
  | _ =>
    obtain ⟨hsame, -⟩ := act_plain (by trivial) hact
    exact h.sub fun id row hrow => (hsame.selectInstance id).symm.trans hrow

/-! ## Requests that keep the shape -/

/-- The discipline of the deployments, with rows of the right shape. -/
def shapes : Discipline System Text Text := (deployments False).also Shapes

section Shaped

variable {json : JsonCodec} {f : Faults} {α : Type}

theorem deployRun (json : JsonCodec) (f : Faults) : DeployRun False json f (act json f) :=
  ⟨fun _ _ _ _ h => h, False.elim, False.elim⟩

theorem shapes_move_of_passive (e : Eff) (he : e.Passive) (s : System) (r : e.Answer) (s' : System)
    (hinv : shapes.inv s) (hact : act json f s e r s') : shapes.Move ∅ ∅ s s' ∅ ∅ :=
  (move_of_passive (deployRun json f) e he s r s' hinv.1 hact).also
    (hinv.2.act (keepsShape_plain e he.plain s) hact)

/-- What is safe for deployments is safe here if its effects keep the shape by themselves. -/
theorem shapes_of_uses {K : System → Prop} {Q : α → System → Prop} {p : Handler α}
    (hp : p.Uses fun e => ∀ s, KeepsShape s e) (h : (deployments False).Triple (act json f) K p Q) :
    shapes.Triple (act json f) K p Q :=
  h.also (fun _ he s _ _ _ hshapes hact => hshapes.act (he s) hact) hp

theorem shapes_of_uses_known {K : System → Prop} {p : Handler α}
    (hK : (deployments False).Stable K)
    (hp : p.Uses fun e => ∀ s, K s → Allowed False s e ∧ KeepsShape s e) :
    shapes.Triple (act json f) K p fun _ => K := by
  refine .of_uses hK ?_ hp
  intro e he s r s' hs hinv hact
  obtain ⟨hallowed, hkeeps⟩ := he s hs
  exact (move_of_allowed hinv.1 hallowed hact).also (hinv.2.act hkeeps hact)

/-- A request that reads an instance under its lock and goes on with effects that what it
read allows. -/
theorem shapes_locked {id : Text} {k : Except Error (Option Instance) → Handler α}
    (herror : ∀ e, Harmless shapes (act json f) (k (.error e)))
    (hnone : Harmless shapes (act json f) (k (.ok none)))
    (hsome : ∀ inst, inst.row.id = id → (k (.ok (some inst))).Uses fun e =>
      ∀ s, Seen inst.row s → Allowed False s e ∧ KeepsShape s e) :
    Harmless shapes (act json f) (withLock id (getInstance id >>= k)) := by
  have hplain : ∀ (e : Eff) (_ : e.Plain), Harmless shapes (act json f) (await e) := fun e he =>
    shapes_of_uses ⟨fun s => keepsShape_plain e he s, fun _ => trivial⟩
      (quiet_uses (deployRun json f) ⟨he, fun _ => trivial⟩)
  have hread : (deployments False).Triple (act json f) (fun _ => True) (getInstance id) fun r s =>
      ∀ inst, r = .ok (some inst) → inst.row.id = id ∧ Seen inst.row s := by
    rw [← bind_ret (getInstance id)]
    refine quiet_getInstance (deployRun json f) (fun e => .ret fun _ _ _ h => absurd h (by simp))
      (.ret fun _ _ _ h => absurd h (by simp)) ?_
    intro inst hid _
    refine .ret fun s hs inst' heq => ?_
    obtain rfl := Option.some.inj (Except.ok.inj heq)
    exact ⟨hid, hs⟩
  rw [withLock]
  refine (hplain (.lock id) trivial).bind fun _ => Discipline.Triple.bind ?_ fun _ =>
    (hplain (.unlock id) trivial).bind fun _ => harmless_ret _
  refine Discipline.Triple.bind (shapes_of_uses (uses_getInstance keepsShape_plain id) hread) ?_
  rintro (e | _ | inst)
  · exact (herror e).weaken (fun _ _ => trivial) fun _ _ h => h
  · exact hnone.weaken (fun _ _ => trivial) fun _ _ h => h
  · by_cases hid : inst.row.id = id
    · exact (shapes_of_uses_known (seen_stable inst.row) (hsome inst hid)).weaken
        (fun s hs => (hs inst rfl).2) fun _ _ _ => trivial
    · intro s hs
      exact absurd (hs inst rfl).1 hid

/-- Effects that need no knowledge. -/
theorem known_plain {K : System → Prop} (e : Eff) (he : e.Plain) (s : System) (h : K s) :
    Allowed False s e ∧ KeepsShape s e := ⟨allowed_plain e he s h, keepsShape_plain e he s⟩

theorem shapes_startPcap (operationContext : Option Text) (id : Text) :
    Harmless shapes (act json f) (startPcap operationContext id) := by
  refine shapes_locked (fun e => harmless_ret _) (harmless_ret _) ?_
  rintro inst rfl
  refine uses_startPcapOf known_plain operationContext ?_
  intro hstatus hworkload startedAt captureId s hs
  obtain ⟨w, hw⟩ := Option.ne_none_iff_exists'.mp hworkload
  refine ⟨.inr rfl, ⟨by simp, by simp, rfl⟩, fun _ => ⟨w, ?_⟩⟩
  exact hw ▸ hs (.inr (.inl hworkload))

theorem shapes_finalizePcapCapture (id : Text) (expected : Option Text) :
    Harmless shapes (act json f) (finalizePcapCapture id expected) := by
  refine shapes_locked (fun e => harmless_ret _) (harmless_ret _) ?_
  rintro inst rfl
  refine uses_finalizePcapCaptureOf known_plain ?_ ?_ expected
  · intro _ s _
    exact ⟨.inr rfl, ⟨rfl, rfl, rfl⟩, fun h => absurd rfl h⟩
  · intro hworkload s hs
    obtain ⟨w, hw⟩ := Option.ne_none_iff_exists'.mp hworkload
    have hrecords := hw ▸ hs (.inr (.inl hworkload))
    exact ⟨.inl ⟨_, hrecords⟩, ⟨rfl, rfl, rfl⟩, fun _ => ⟨w, hrecords⟩⟩

theorem shapes_autoStopPcap (id captureId : Text) :
    Harmless shapes (act json f) (autoStopPcap id captureId) :=
  harmless_autoStopPcap shapes_move_of_passive (shapes_finalizePcapCapture id (some captureId))

theorem shapes_deletePcap (operationContext : Option Text) (id : Text) :
    Harmless shapes (act json f) (deletePcap operationContext id) := by
  refine shapes_locked (fun e => harmless_ret _) (harmless_ret _) ?_
  rintro inst _
  exact uses_deletePcapOf known_plain operationContext fun s _ =>
    ⟨.inr rfl, ⟨rfl, rfl, rfl⟩, fun h => absurd rfl h⟩

/-- Reconciling sets a status that goes with any workload. -/
theorem shapes_reconcileInstancesWithAgent (config : Config) :
    Harmless shapes (act json f) (reconcileInstancesWithAgent config) := by
  rw [reconcileInstancesWithAgent_eq]
  refine Harmless.bind (harmless_finalizeExpiredPcapCaptures
    (fun e he => shapes_move_of_passive e he.passive) shapes_autoStopPcap) fun _ => ?_
  refine shapes_of_uses ?_ (quiet_reconcileListed (deployRun json f) config)
  refine uses_bind (uses_listInstances_silent fun e he s => keepsShape_plain e he.passive.plain s)
    ?_
  rintro (e | instances)
  · trivial
  refine uses_await (fun _ => trivial) ?_
  rintro (e | workloads)
  · trivial
  exact uses_reconcileInstances _ (uses_getInstance keepsShape_plain)
    fun inst _ _ _ s => ⟨by simp, by simp, by simp⟩

end Shaped

/-! ## Every interleaving -/

theorem shapes_starts {json : JsonCodec} {f : Faults} {α : Type} {p : Handler α} {s s' : System}
    (hinv : shapes.inv s) (hsame : SameRows s s') (hagent : s'.agent = s.agent)
    (h : shapes.wp (act json f) Discipline.Settled p ∅ ∅ s') :
    shapes.Starts (act json f) s p.discard s' := by
  have hmove : (deployments False).Move ∅ ∅ s s' ∅ ∅ :=
    move_of_sameRows hinv.1 (Set.empty_disjoint _) hsame (by rw [hagent])
      (fun _ hw => .inl (hagent ▸ hw)) subset_rfl
  have hshapes : Shapes s' := hinv.2.sub fun id row hrow =>
    (hsame.selectInstance id).symm.trans hrow
  exact ⟨∅, ∅, hmove.also hshapes, Discipline.wp_discard h⟩

theorem launch_shapes {json : JsonCodec} {config : Config} {semver : Semver} {f : Faults}
    {s s' : System} {p : Handler Unit} (hinv : shapes.inv s)
    (h : Launch json config semver s p s') : shapes.Starts (act json f) s p s' := by
  have hrun := deployRun json f
  have hquiet : ∀ {α : Type} {p : Handler α}, Harmless shapes (act json f) p →
      shapes.Starts (act json f) s p.discard s := fun hp =>
    shapes_starts hinv (.refl s) rfl (hp.settled trivial)
  have huses : ∀ {α : Type} {p : Handler α}, p.Uses (fun e => ∀ s, KeepsShape s e) →
      Quiet False (act json f) p → shapes.Starts (act json f) s p.discard s := fun hp h =>
    hquiet (shapes_of_uses hp h)
  cases h with
  | deploy operationContext payload =>
    have hdeploy : (deployInstance json config operationContext payload).Uses
        fun e => ∀ s, KeepsShape s e :=
      uses_deployInstance keepsShape_plain json config operationContext payload (fun _ => trivial)
        (fun id rule token _ _ => rowShape_newInstance id rule token) (fun _ _ => trivial)
        (fun _ _ _ => ⟨by simp, by simp, by simp⟩) (fun _ _ _ => ⟨by simp, by simp, by simp⟩)
        fun _ _ => trivial
    exact shapes_starts hinv (.refl s) rfl (Discipline.wp_also
      (fun _ he s _ _ _ hshapes hact => hshapes.act (he s) hact) hdeploy
      (wp_deployInstance hrun config operationContext payload))
  | undeploy operationContext id =>
    refine huses (uses_withLock keepsShape_plain id
      (uses_bind (uses_getInstance keepsShape_plain id) ?_))
      (quiet_undeployInstance hrun operationContext id)
    rintro (e | _ | inst)
    · trivial
    · trivial
    · exact uses_undeployInstanceOf keepsShape_plain operationContext (fun _ _ _ => trivial)
        (fun _ message _ => ⟨by simp, by simp, by simp⟩) fun _ => trivial
  | listInstances => exact hquiet (shapes_reconcileInstancesWithAgent config)
  | deleteRule operationContext id =>
    exact huses (uses_deleteRule keepsShape_plain operationContext fun _ => trivial)
      (quiet hrun Discipline.stable_true
        (uses_deleteRule allowed_plain operationContext fun _ _ h => h))
  | importRulePackage operationContext package =>
    exact huses (uses_importRulePackage keepsShape_plain semver operationContext package)
      (quiet_uses hrun (uses_importRulePackage (fun _ he => he) semver operationContext package))
  | startPcap operationContext id => exact hquiet (shapes_startPcap operationContext id)
  | stopPcap operationContext id =>
    exact hquiet (harmless_stopPcap shapes_move_of_passive (shapes_finalizePcapCapture id none)
      operationContext)
  | deletePcap operationContext id => exact hquiet (shapes_deletePcap operationContext id)
  | downloadPcap operationContext id =>
    exact huses (uses_downloadPcap keepsShape_plain operationContext)
      (quiet_uses hrun (uses_downloadPcap (fun _ he => he) operationContext))
  | autoStop _ =>
    exact shapes_starts hinv ⟨rfl, rfl, rfl, rfl⟩ rfl ((harmless_autoStopTask
      (fun e he => shapes_move_of_passive e he.passive) (shapes_autoStopPcap _ _)).settled trivial)

theorem shapes_of_noInstances {s : System} (h : NoInstances s) : Shapes s := by
  intro id row hrow
  have hmem := (Table.get_eq_some_iff.mp hrow).1
  rw [h.instances] at hmem
  exact absurd hmem (by simp)

/-- In every interleaving of the service's requests, and whatever fails in them, the columns
of every row fit together, a workload once set stays, and finishing a capture fails only
once the Agent was asked to stop it. -/
theorem rowShape_of_reachable (json : JsonCodec) (config : Config) (semver : Semver) (f : Faults)
    {s : System} (hs : NoInstances s) {c : Pool System Eff.Answer}
    (h : Reachable (act json f) (Launch json config semver) (Pool.start s) c) :
    (∀ id row, c.state.db.selectInstance id = some row → row.id = id ∧ RowShape row) ∧
    (∀ c', Reachable (act json f) (Launch json config semver) c c' → ∀ id row row' workloadId,
      c.state.db.selectInstance id = some row → row.workloadId = some workloadId →
      c'.state.db.selectInstance id = some row' → row'.workloadId = some workloadId) ∧
    ∀ id row s', act json f c.state (.selectInstance id) (.ok (some row)) s' →
      ∀ endpoints expected e, finalizePcapCaptureOf id expected ⟨row, endpoints⟩ ≠
        .ret (.error e) := by
  have hlaunch : ∀ s p s', shapes.inv s → Launch json config semver s p s' →
      shapes.Starts (act json f) s p s' := fun _ _ _ hinv hl => launch_shapes hinv hl
  have hstart : shapes.inv s := ⟨deployInv_of_noInstances hs, shapes_of_noInstances hs⟩
  have howed : shapes.owed s = ∅ := by
    rw [Set.eq_empty_iff_forall_notMem]
    exact fun _ hw => hw.1
  have hinv : shapes.inv c.state := Discipline.inv_of_reachable hlaunch hstart howed h
  have hshape : ∀ id row, c.state.db.selectInstance id = some row → row.id = id ∧ RowShape row :=
    fun id row hrow => ⟨Table.key_of_get hrow, hinv.2 id row hrow⟩
  refine ⟨hshape, ?_, ?_⟩
  · intro c' hc' id row row' w hrow hw hrow'
    have hrely : (deployments False).rely ∅ c.state c'.state :=
      Discipline.rely_of_reachable hlaunch hstart howed h hc'
    obtain ⟨rfl, hseen⟩ := seen_of_selectInstance hinv.1 hrow
    have hrecords := hrely.records _ _ (hseen (.inr (.inl (by simp [hw]))))
    exact (hrecords.2 row' hrow').2.trans hw
  · rintro id row s' ⟨-, hrow | ⟨-, e, he⟩⟩ endpoints expected e'
    · obtain ⟨rfl, hshaped⟩ := hshape id row (Except.ok.inj hrow).symm
      exact hshaped.finalize_ne_error endpoints expected e'
    · exact absurd he (by simp)

/-- After one deployment the instance is running, and its row has the shape that goes with it. -/
theorem rowShape_deployedAlone : ∃ c,
    Reachable (act emptyObjectCodec ⟨True, True, True⟩)
      (Launch emptyObjectCodec localConfig ⟨fun _ => .error [], fun _ _ => false, fun _ => []⟩)
      (Pool.start ruleOnly) c ∧
    ∃ row, c.state.db.selectInstance sshInstance = some row ∧ row.status = .running ∧
      RowShape row := by
  obtain ⟨s, r, hruns, -, row, hrow, hstatus, -⟩ :=
    runs_sshPayload_running emptyObjectCodec ⟨True, True, True⟩
  obtain ⟨c, hreach, rfl, -⟩ := Reachable.alone (Launch.deploy none sshPayload)
    ((runs_disturbed hruns).bind fun _ => ret ())
  have hshape := (rowShape_of_reachable _ _ _ _ noInstances_ruleOnly hreach).1 sshInstance row hrow
  exact ⟨c, hreach, row, hrow, hstatus, hshape.2⟩

end ProtocolSimulation.Service
