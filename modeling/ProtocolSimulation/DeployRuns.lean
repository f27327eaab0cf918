import ProtocolSimulation.Deployments

/-!
# A deployment that nobody disturbs

How far the requests that deploy and undeploy come when they run on their own, and
one deployment followed to its end.
-/
namespace ProtocolSimulation.Service

open ProtocolSimulation.Texts ProtocolSimulation.JsonValues ProtocolSimulation.KeyedTables
open ProtocolSimulation.Identifiers ProtocolSimulation.Protocols ProtocolSimulation.Storage
open ProtocolSimulation.Api ProtocolSimulation.Programs ProtocolSimulation.Programs.Prog

/-- Who reads one instance does not find it deploying. Among requests that deploy and
undeploy only the latter come to read an instance before its deployment is over. -/
def ReadsDeployed (s : System) : Eff → Prop
  | .selectInstance id => ∀ row, s.db.selectInstance id = some row → row.status ≠ .deploying
  | _ => True

/-- Runs in which no request undeploys an instance that is still being deployed. -/
def undisturbedAct (json : JsonCodec) (f : Faults) (s : System) (e : Eff) (r : e.Answer)
    (s' : System) : Prop := act json f s e r s' ∧ ReadsDeployed s e

theorem runs_disturbed {json : JsonCodec} {f : Faults} {s s' : System} {α : Type} {p p' : Handler α}
    (h : Runs (undisturbedAct json f) s p s' p') : Runs (act json f) s p s' p' :=
  h.mono fun _ _ _ _ hact => hact.1

section Runs

variable (json : JsonCodec) (f : Faults) {s : System} (operationContext : Option Text)

/-- A deployment comes as far as the Agent once its row is inserted. -/
theorem runs_deployEndpoints (config : Config) (rule : Rule) (protocol : ProtocolId)
    (primary : InstanceEndpoint) (others : List InstanceEndpoint) {uuid token : UuidV7}
    {db' : Database} (huuid : uuid ∉ s.issued) (htoken : token ∉ s.issued) (hne : token ≠ uuid)
    (hins : s.db.insertInstanceIfPortAvailable (newInstance (instanceId uuid) rule token.hyphenated)
      ((primary :: others).map fun e => { e with instanceId := instanceId uuid }) =
        some (true, db')) : ∃ request, Runs (undisturbedAct json f) s
      (deployEndpoints json config operationContext rule protocol (primary :: others))
      { s with
        db := db'
        issued := insert token (insert uuid s.issued)
        inserted := insert (instanceId uuid) s.inserted }
      (await (.startWorkload request) >>= recordDeploy operationContext (instanceId uuid)) := by
  have hissued : token ∉ insert uuid s.issued := by
    rw [Set.mem_insert_iff, not_or]
    exact ⟨hne, htoken⟩
  exact ⟨_, .call uuid ⟨⟨huuid, rfl⟩, trivial⟩ (.call token ⟨⟨hissued, rfl⟩, trivial⟩
    (.call (.ok true) ⟨.inl ⟨db', hins, rfl, rfl⟩, trivial⟩ .refl))⟩

/-- A request whose bindings are right comes as far as the Agent once its row is inserted. -/
theorem runs_deployInstance (config : Config) {payload : DeployInstanceRequest} {rule : Rule}
    {protocol : ProtocolId} {requested : Bindings} {primary : InstanceEndpoint}
    {others : List InstanceEndpoint} {uuid token : UuidV7} {db' : Database}
    (hrule : s.db.rules.get payload.ruleId = some rule)
    (hprotocol : ProtocolId.fromStr rule.protocol = .ok protocol)
    (hrequested : collectBindings [] payload.endpointBindings = .ok requested)
    (hbound : bindEndpoints (protocolEndpoints protocol) requested (requested.map Prod.fst) =
      .ok (primary :: others))
    (huuid : uuid ∉ s.issued) (htoken : token ∉ s.issued) (hne : token ≠ uuid)
    (hins : s.db.insertInstanceIfPortAvailable (newInstance (instanceId uuid) rule token.hyphenated)
      ((primary :: others).map fun e => { e with instanceId := instanceId uuid }) =
        some (true, db')) : ∃ request, Runs (undisturbedAct json f) s
      (deployInstance json config operationContext payload)
      { s with
        db := db'
        issued := insert token (insert uuid s.issued)
        inserted := insert (instanceId uuid) s.inserted }
      (await (.startWorkload request) >>= recordDeploy operationContext (instanceId uuid)) := by
  obtain ⟨request, hruns⟩ := runs_deployEndpoints json f operationContext config rule protocol
    primary others huuid htoken hne hins
  refine ⟨request, .call (.ok (some rule)) ⟨⟨rfl, .inl ?_⟩, trivial⟩ ?_⟩
  · exact congrArg Except.ok hrule.symm
  · dsimp only [Prog.bind]
    rw [hprotocol]
    dsimp only
    rw [hrequested]
    dsimp only
    rw [await_bind]
    refine .call (requested.map Prod.fst) ⟨⟨rfl, .refl _⟩, trivial⟩ ?_
    rw [hbound]
    exact hruns

/-- A deployment that finds its row as it was inserted ends with a running instance. -/
theorem runs_recordDeploy {id : Text} {row : InstanceRow} (w : Text)
    (hrow : s.db.selectInstance id = some row) :
    ∃ s' r, Runs (undisturbedAct json f) s (recordDeploy operationContext id (.ok ⟨some w⟩)) s'
        (.ret r) ∧ s'.agent = s.agent ∧
      ∃ row', s'.db.selectInstance id = some row' ∧ row'.status = .running ∧
        row'.workloadId = some w := by
  let row' : InstanceRow := { row with
    status := .running
    workloadId := some w
    errorMessage := none }
  have hrow' : (s.db.updateStatus id .running (some w) none).selectInstance id = some row' := by
    rw [Database.selectInstance_updateStatus, hrow]
    simp [row']
  have hread : ReadsDeployed { s with db := s.db.updateStatus id .running (some w) none }
      (.selectInstance id) := by
    intro q hq
    obtain rfl := Option.some.inj (hrow'.symm.trans hq)
    simp [row']
  refine ⟨_, _, .call (.ok ()) ⟨.inl ⟨rfl, rfl⟩, trivial⟩
    (.call (.ok (some row')) ⟨⟨rfl, .inl ?_⟩, hread⟩
    (.call (.ok _) ⟨⟨rfl, .inl rfl⟩, trivial⟩ (.call (.ok ()) ⟨.inl ⟨rfl, rfl⟩, trivial⟩ .refl))),
    rfl, row', hrow', rfl, rfl⟩
  exact congrArg Except.ok hrow'.symm

/-- A deployment whose row is gone leaves the workload it was given to nobody. -/
theorem runs_recordDeploy_gone {id : Text} (response : StartWorkloadResponse)
    (hnone : s.db.selectInstance id = none) :
    ∃ r db', Runs (undisturbedAct json f) s (recordDeploy operationContext id (.ok response))
      { s with db := db' } (.ret r) ∧ ∀ j, db'.selectInstance j = s.db.selectInstance j := by
  have hselect : ∀ j, (s.db.updateStatus id .running
      (some (response.workloadId.getD (("workload-" : Text) ++ id))) none).selectInstance j =
      s.db.selectInstance j := by
    intro j
    rw [Database.selectInstance_updateStatus]
    by_cases hj : j = id
    · rw [hj, hnone]
      rfl
    · simp [hj]
  have hnone' := (hselect id).trans hnone
  refine ⟨_, _, .call (.ok ()) ⟨.inl ⟨rfl, rfl⟩, trivial⟩
    (.call (.ok none) ⟨⟨rfl, .inl ?_⟩, ?_⟩ .refl),
    hselect⟩
  · rw [hnone']
  · intro q hq
    rw [hnone'] at hq
    exact absurd hq (by simp)

/-- Undeploying a row without a workload asks the Agent for nothing. -/
theorem runs_undeployInstance {id : Text} {row : InstanceRow}
    (hrow : s.db.selectInstance id = some row) (hworkload : row.workloadId = none)
    (hpath : row.pcapFilePath = none) (hlock : id ∉ s.locks) :
    ∃ s' r, Runs (act json f) s (undeployInstance operationContext id) s' (.ret r) ∧
      s'.db = s.db.deleteInstance id ∧ s'.agent = s.agent := by
  have hrun : ∃ s' r, Runs (act json f) { s with locks := insert id s.locks }
      (undeployInstanceOf operationContext id ⟨row, s.db.selectEndpoints row.id⟩) s' (.ret r) ∧
      s'.db = s.db.deleteInstance id ∧ s'.agent = s.agent := by
    simp only [undeployInstanceOf, stopWorkloadOf, hworkload, undeployStopped, hpath,
      removeCaptureFile, pure_eq, ret_bind]
    exact ⟨_, _, .call _ (.inl ⟨rfl, rfl⟩) (.call (.ok ()) (.inl ⟨rfl, rfl⟩) .refl), rfl, rfl⟩
  obtain ⟨s', r, hruns, hdb, hagent⟩ := hrun
  refine ⟨{ s' with locks := s'.locks \ {id} }, r, ?_, hdb, hagent⟩
  refine .call () ⟨hlock, rfl⟩ (.call (.ok (some row)) ⟨rfl, .inl (by rw [← hrow])⟩
    (.call (.ok (s.db.selectEndpoints row.id)) ⟨rfl, .inl rfl⟩ ?_))
  exact (hruns.bind _).trans (.call () rfl .refl)

end Runs

/-! ## One rule, one deployment -/

/-- A system with one rule and nothing else. -/
def ruleOnly : System where
  db := { Database.init with
    rules := deployedOnce.rules
    instance_rule := by simp [Database.init] }
  agent := ⟨∅, ∅, ∅⟩
  files := fun _ => none
  locks := ∅
  tasks := []
  events := []
  issued := ∅
  inserted := ∅

theorem noInstances_ruleOnly : NoInstances ruleOnly := ⟨rfl, rfl⟩

theorem not_orphaned_ruleOnly (w : Text) : ¬ Orphaned ruleOnly w := fun h => h.1

def localConfig : Config := ⟨"suite-1", "engine", "http://localhost"⟩

def sshPayload : DeployInstanceRequest := ⟨"rule-1", [⟨"main", 2222⟩]⟩

/-- A version 7 UUID, one for each last digit. -/
def uuidEnding (d : ℕ) : UuidV7 where
  digits := hexDigits [0, 1, 9, 15, 15, 3, 11, 6, 11, 11, 9, 1, 7, 15, 4, 0, 8, 14, 14, 8,
    15, 11, 4, 6, 10, 1, 2, 3, 4, 5, 6, d]
  length_eq := rfl
  version := rfl
  variant := ⟨8, rfl, by decide⟩

/-- The identifier that the deployment of `sshPayload` picks. -/
def sshInstance : Text := instanceId (uuidEnding 0)

def sshRule : Rule := ⟨"rule-1", "shell", "ssh", 22, "{}", "", ""⟩

def sshRow : InstanceRow := newInstance sshInstance sshRule (uuidEnding 1).hyphenated

def sshEndpoint : InstanceEndpoint := ⟨sshInstance, "main", "tcp", 2222, 22⟩

theorem sshPayload_inserted : ∃ db,
    ruleOnly.db.insertInstanceIfPortAvailable sshRow [sshEndpoint] = some (true, db) := by
  have hfst : (ruleOnly.db.insertInstanceIfPortAvailable sshRow [sshEndpoint]).map Prod.fst =
      some true := by decide
  obtain ⟨found, hfound, hinserted⟩ := Option.map_eq_some_iff.mp hfst
  exact ⟨found.2, hfound.trans (congrArg (fun inserted => some (inserted, found.2)) hinserted)⟩

/-- The deployment of `sshPayload` comes as far as the Agent, with its row inserted. -/
theorem runs_sshPayload (json : JsonCodec) (f : Faults) :
    ∃ s request, Runs (undisturbedAct json f) ruleOnly
      (deployInstance json localConfig none sshPayload)
        s (await (.startWorkload request) >>= recordDeploy none sshInstance) ∧
      (∃ row, s.db.selectInstance sshInstance = some row ∧ row.workloadId = none ∧
        row.pcapFilePath = none) ∧
      (∀ j ≠ sshInstance, s.db.selectInstance j = none) ∧ s.agent = ruleOnly.agent ∧
        s.locks = ∅ := by
  obtain ⟨db', hins⟩ := sshPayload_inserted
  have hne : uuidEnding 1 ≠ uuidEnding 0 := by decide
  obtain ⟨request, hruns⟩ := @runs_deployInstance json f ruleOnly none localConfig
    sshPayload sshRule
    .ssh _ _ _ _ _ _ rfl rfl rfl rfl (Set.notMem_empty _) (Set.notMem_empty _) hne hins
  have hselect := selectInstance_insertInstanceIfPortAvailable hins
  refine ⟨_, request, hruns, ⟨sshRow, ?_, rfl, rfl⟩, ?_, rfl, rfl⟩
  · exact (hselect _).trans (if_pos rfl)
  · intro j hj
    exact (hselect j).trans (if_neg hj)

/-- The deployment of `sshPayload` followed to its end. -/
theorem runs_sshPayload_running (json : JsonCodec) (f : Faults) :
    ∃ s r, Runs (undisturbedAct json f) ruleOnly (deployInstance json localConfig none sshPayload) s
        (.ret r) ∧ ("w-1" : Text) ∈ s.agent.started ∧
      ∃ row, s.db.selectInstance sshInstance = some row ∧ row.status = .running ∧
        row.workloadId = some "w-1" := by
  obtain ⟨s₁, request, hruns, ⟨row, hrow, -⟩, -⟩ := runs_sshPayload json f
  let s₂ : System := { s₁ with agent := { s₁.agent with
    started := s₁.agent.started ∪ {w | some ("w-1" : Text) = some w} } }
  obtain ⟨s₃, r, hrecord, hagent, hrow₃⟩ := runs_recordDeploy (s := s₂) json f none "w-1" hrow
  refine ⟨s₃, r, hruns.trans (.call (.ok ⟨some "w-1"⟩) ⟨.inl ⟨_, rfl, rfl⟩, trivial⟩ hrecord), ?_,
    hrow₃⟩
  rw [hagent]
  exact .inr rfl

end ProtocolSimulation.Service
