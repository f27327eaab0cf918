import ProtocolSimulation.DeployRuns

/-!
# No workload is lost

A workload that the Agent started is named by the row of its instance until it is
stopped, provided that nobody undeploys an instance that is still being deployed.
Undeploying does not wait for a deployment: it finds a row without a workload,
deletes it, and the workload that the Agent is about to return is lost.
-/
namespace ProtocolSimulation.Service

open ProtocolSimulation.Texts ProtocolSimulation.JsonValues ProtocolSimulation.Storage
open ProtocolSimulation.Api ProtocolSimulation.Programs ProtocolSimulation.Programs.Prog

/-- Any number of requests that deploy and undeploy. -/
inductive DeployLaunch (json : JsonCodec) (config : Config) : System → Handler Unit → System → Prop
  | deploy {s : System} (operationContext : Option Text) (payload : DeployInstanceRequest) :
      DeployLaunch json config s (deployInstance json config operationContext payload).discard s
  | undeploy {s : System} (operationContext : Option Text) (id : Text) :
      DeployLaunch json config s (undeployInstance operationContext id).discard s

/-- The instance is undeployed while the Agent starts its workload. -/
theorem reachable_lost (json : JsonCodec) (f : Faults) :
    ∃ c, Reachable (act json f) (DeployLaunch json localConfig) (Pool.start ruleOnly) c ∧
      c.Quiescent ∧ Orphaned c.state "w-1" := by
  obtain ⟨s₁, request, hdeploy, ⟨row, hrow, hworkload, hpath⟩, hothers, hagent₁, hlocks⟩ :=
    runs_sshPayload json f
  obtain ⟨s₂, r₂, hundeploy, hdb₂, hagent₂⟩ :=
    runs_undeployInstance json f none hrow hworkload hpath (by simp [hlocks])
  have hgone : ∀ j, s₂.db.selectInstance j = none := by
    intro j
    rw [hdb₂, Database.selectInstance_deleteInstance]
    split
    · rfl
    next hj => exact hothers j hj
  let s₃ : System := { s₂ with agent := { s₂.agent with
    started := s₂.agent.started ∪ {w | some ("w-1" : Text) = some w} } }
  obtain ⟨r₄, db₄, hrecord, hselect⟩ :=
    runs_recordDeploy_gone (s := s₃) json f none ⟨some "w-1"⟩ (hgone sshInstance)
  have hstart : Runs (act json f) s₂
      (await (.startWorkload request) >>= recordDeploy none sshInstance)
      { s₃ with db := db₄ } (.ret r₄) :=
    .call (.ok ⟨some "w-1"⟩) (.inl ⟨_, rfl, rfl⟩) (runs_disturbed hrecord)
  -- the deployment is thread 0, and thread 1 undeploys in between
  have h₀ : Reachable (act json f) (DeployLaunch json localConfig) (Pool.start ruleOnly) _ :=
    .tail .refl (.launch 0 rfl (.deploy none sshPayload))
  have h₁ := Reachable.runs 0 h₀ (Function.update_self ..)
    ((runs_disturbed hdeploy).bind fun _ => ret ())
  have h₂ := h₁.tail (.launch 1 rfl (.undeploy none sshInstance))
  have h₃ := Reachable.runs 1 h₂ (Function.update_self ..) (hundeploy.bind fun _ => ret ())
  have h₄ := Reachable.runs 0 h₃ rfl (hstart.bind fun _ => ret ())
  refine ⟨_, h₄, ?_, ?_, ?_, ?_⟩
  · intro t p ht
    by_cases h0 : t = 0
    · subst h0
      exact (Option.some.inj ht).symm
    by_cases h1 : t = 1
    · subst h1
      exact (Option.some.inj ht).symm
    · simp [Pool.start, h0, h1] at ht
  · exact .inr rfl
  · show _ ∉ s₂.agent.stopped
    rw [hagent₂, hagent₁]
    exact Set.notMem_empty _
  · intro id r hr
    have hnone : db₄.selectInstance id = none := (hselect id).trans (hgone id)
    rw [hnone] at hr
    exact absurd hr (by simp)

/-- When the database does not fail, and no request undeploys an instance that is still being
deployed, then once no request is in flight every workload that the Agent started, and was
not told to stop, is the workload of some instance. -/
theorem not_orphaned_of_reachable (json : JsonCodec) (config : Config) (agent files : Prop)
    {s : System} (hs : NoInstances s) (hworkloads : ∀ w, ¬ Orphaned s w)
    {c : Pool System Eff.Answer}
    (h : Reachable (undisturbedAct json ⟨False, agent, files⟩) (DeployLaunch json config)
      (Pool.start s) c) (hquiescent : c.Quiescent) (w : Text) : ¬ Orphaned c.state w := by
  have hrun : DeployRun True json ⟨False, agent, files⟩
      (undisturbedAct json ⟨False, agent, files⟩) :=
    ⟨fun _ _ _ _ h => h.1, fun _ _ _ _ _ h => h.2, fun _ h => h⟩
  have hlaunch : ∀ s p s', (deployments True).inv s → DeployLaunch json config s p s' →
      (deployments True).Launches (undisturbedAct json ⟨False, agent, files⟩) s p s' := by
    intro s p s' hinv hl
    cases hl with
    | deploy operationContext payload =>
      exact launches_of_wp hinv (.refl s) rfl
        (wp_deployInstance hrun config operationContext payload)
    | undeploy operationContext id =>
      exact launches_of_wp hinv (.refl s) rfl
        ((quiet_undeployInstance hrun operationContext id).settled trivial)
  have howed : (deployments True).owed s = ∅ := by
    rw [Set.eq_empty_iff_forall_notMem]
    exact fun w hw => hworkloads w hw.2
  have hsettled := (Discipline.reachable hlaunch (deployInv_of_noInstances hs) howed h).2 hquiescent
  intro hw
  have hmem : w ∈ (deployments True).owed c.state := ⟨trivial, hw⟩
  rw [hsettled] at hmem
  exact hmem

/-- After one deployment the workload it was given is not lost. -/
theorem not_orphaned_deployedAlone :
    ∃ c, Reachable (undisturbedAct emptyObjectCodec ⟨False, True, True⟩)
      (DeployLaunch emptyObjectCodec localConfig) (Pool.start ruleOnly) c ∧
    ("w-1" : Text) ∈ c.state.agent.started ∧ ¬ Orphaned c.state "w-1" := by
  obtain ⟨s, r, hruns, hstarted, -⟩ := runs_sshPayload_running emptyObjectCodec ⟨False, True, True⟩
  obtain ⟨c, hreach, rfl, hquiescent⟩ := Reachable.alone
    (DeployLaunch.deploy none sshPayload) (hruns.bind fun _ => ret ())
  exact ⟨c, hreach, hstarted, not_orphaned_of_reachable _ _ _ _ noInstances_ruleOnly
    not_orphaned_ruleOnly hreach hquiescent "w-1"⟩

/-- Without that condition workloads are lost. -/
theorem undeployedEarly_orphaned : ¬ ∀ (json : JsonCodec) (config : Config) (agent files : Prop)
    (s : System) (c : Pool System Eff.Answer), NoInstances s → (∀ w, ¬ Orphaned s w) →
    Reachable (act json ⟨False, agent, files⟩) (DeployLaunch json config) (Pool.start s) c →
    c.Quiescent → ∀ w, ¬ Orphaned c.state w := by
  intro h
  obtain ⟨c, hreach, hquiescent, hlost⟩ := reachable_lost emptyObjectCodec ⟨False, True, True⟩
  exact h _ _ _ _ _ c noInstances_ruleOnly not_orphaned_ruleOnly hreach hquiescent _ hlost

end ProtocolSimulation.Service
