import ProtocolSimulation.DeployRuns
import ProtocolSimulation.Requests

/-!
# Ports belong to one active instance

Deploying checks that a port is free only when the instance is inserted. From then
on the instance is deploying until its own deployment changes that, or gone, so the
late change to `running` never takes a port that was given away in the meantime.
-/
namespace ProtocolSimulation.Service

open ProtocolSimulation.Texts ProtocolSimulation.JsonValues ProtocolSimulation.KeyedTables
open ProtocolSimulation.Storage ProtocolSimulation.Api ProtocolSimulation.Programs
open ProtocolSimulation.Programs.Prog

section Quiet

variable {undisturbed : Prop} {json : JsonCodec} {f : Faults}
  {step : System → (e : Eff) → e.Answer → System → Prop} (hrun : DeployRun undisturbed json f step)
include hrun

/-! ## Captures -/

/-- A request that reads an instance under its lock and goes on with allowed effects. -/
theorem quiet_locked {α : Type} {id : Text} {k : Except Error (Option Instance) → Handler α}
    (herror : ∀ e, Quiet undisturbed step (k (.error e)))
    (hnone : Quiet undisturbed step (k (.ok none))) (hsome : ∀ inst, inst.row.id = id →
      (k (.ok (some inst))).Uses fun e => ∀ s, Seen inst.row s → Allowed undisturbed s e) :
    Quiet undisturbed step (withLock id (getInstance id >>= k)) := by
  refine quiet_withLock hrun (quiet_getInstance hrun herror hnone ?_)
  intro inst hid _
  exact (quiet hrun (seen_stable inst.row) (hsome inst hid)).weaken
    (fun _ h => h) fun _ _ _ => trivial

theorem quiet_startPcap (operationContext : Option Text) (id : Text) :
    Quiet undisturbed step (startPcap operationContext id) := by
  refine quiet_locked hrun (fun e => .ret fun _ _ => trivial) (.ret fun _ _ => trivial) ?_
  intro inst _
  exact uses_startPcapOf allowed_plain operationContext fun _ _ _ _ _ _ => .inr rfl

theorem quiet_finalizePcapCapture (id : Text) (expected : Option Text) :
    Quiet undisturbed step (finalizePcapCapture id expected) := by
  refine quiet_locked hrun (fun e => .ret fun _ _ => trivial) (.ret fun _ _ => trivial) ?_
  rintro inst rfl
  refine uses_finalizePcapCaptureOf allowed_plain (fun _ _ _ => .inr rfl) ?_ expected
  intro hworkload s hs
  exact .inl ⟨_, hs (.inr (.inl hworkload))⟩

theorem quiet_deletePcap (operationContext : Option Text) (id : Text) :
    Quiet undisturbed step (deletePcap operationContext id) := by
  refine quiet_locked hrun (fun e => .ret fun _ _ => trivial) (.ret fun _ _ => trivial) ?_
  intro inst _
  exact uses_deletePcapOf allowed_plain operationContext fun _ _ => .inr rfl

theorem move_of_passive (e : Eff) (he : e.Passive) (s : System) (r : e.Answer) (s' : System)
    (hinv : DeployInv s) (hstep : step s e r s') : (deployments undisturbed).Move ∅ ∅ s s' ∅ ∅ :=
  move_of_plain hinv (Set.empty_disjoint _) (hrun.sub _ _ _ _ hstep) he.plain

theorem quiet_stopPcap (operationContext : Option Text) (id : Text) :
    Quiet undisturbed step (stopPcap operationContext id) :=
  harmless_stopPcap (move_of_passive hrun) (quiet_finalizePcapCapture hrun id none) operationContext

theorem quiet_autoStopPcap (id captureId : Text) :
    Quiet undisturbed step (autoStopPcap id captureId) :=
  harmless_autoStopPcap (move_of_passive hrun) (quiet_finalizePcapCapture hrun id (some captureId))

theorem quiet_autoStopTask (task : AutoStopTask) : Quiet undisturbed step (autoStopTask task) :=
  harmless_autoStopTask (fun e he => move_of_passive hrun e he.passive)
    (quiet_autoStopPcap hrun _ _)

/-! ## Reconciling -/

theorem quiet_listInstances : (deployments undisturbed).Triple step (fun _ => True) listInstances
    fun r s => ∀ l, r = .ok l → ∀ inst ∈ l, Seen inst.row s := by
  rw [listInstances, await_bind]
  refine .call Discipline.stable_true
    (A := fun r s => ∀ rows, r = .ok rows → ∀ row ∈ rows, Seen row s) ?_ ?_
  · intro s r s' _ hinv hstep
    have hact := hrun.sub _ _ _ _ hstep
    refine ⟨move_of_plain hinv (Set.empty_disjoint _) hact trivial, ?_⟩
    rintro rows rfl row hrow
    obtain ⟨rfl, ⟨l, hperm, heq⟩ | ⟨-, e, he⟩⟩ := hact
    · obtain rfl := Except.ok.inj heq
      exact (seen_of_selectInstance hinv (Table.get_of_mem (hperm.mem_iff.mp hrow))).2
    · exact absurd he (by simp)
  · rintro (e | rows)
    · exact .ret fun s _ l hl => absurd hl (by simp)
    have hstable : (deployments undisturbed).Stable fun s => ∀ row ∈ rows, Seen row s :=
      fun s s' hrely hs row hrow => seen_stable row s s' hrely (hs row hrow)
    refine ((quiet hrun hstable (uses_hydrateInstances rows fun _ _ _ => trivial)).returns
      (returns_hydrateInstances rows)).weaken (fun s hs => hs rows rfl) ?_
    rintro r s ⟨hs, hrows⟩ l hl inst hinst
    refine hs inst.row ?_
    rw [← hrows l hl]
    exact List.mem_map_of_mem hinst

theorem quiet_finalizeExpiredPcapCaptures : Quiet undisturbed step finalizeExpiredPcapCaptures :=
  harmless_finalizeExpiredPcapCaptures (fun e he => move_of_passive hrun e he.passive)
    (quiet_autoStopPcap hrun)

/-- Whatever the Agent lists, only rows whose deployment is over are marked. -/
theorem quiet_reconcileListed (config : Config) :
    Quiet undisturbed step (reconcileListed config) := by
  refine (quiet_listInstances hrun).bind ?_
  rintro (e | instances)
  · exact .ret fun _ _ => trivial
  have hstable : (deployments undisturbed).Stable fun s => ∀ inst ∈ instances, Seen inst.row s :=
    fun s s' hrely hs inst hinst => seen_stable inst.row s s' hrely (hs inst hinst)
  refine (quiet hrun hstable ?_).weaken (fun s hs => hs instances rfl) fun _ _ _ => trivial
  refine uses_await (fun _ _ => trivial) ?_
  rintro (e | workloads)
  · trivial
  refine uses_reconcileInstances _ (uses_getInstance allowed_plain) ?_
  intro inst hinst _ hworkload s hs
  exact ⟨by simp [InstanceStatus.Active], inst.row.workloadId,
    hs inst hinst (.inr (.inl hworkload)),
    rfl⟩

theorem quiet_reconcileInstancesWithAgent (config : Config) :
    Quiet undisturbed step (reconcileInstancesWithAgent config) := by
  rw [reconcileInstancesWithAgent_eq]
  exact (quiet_finalizeExpiredPcapCaptures hrun).bind fun _ => quiet_reconcileListed hrun config

end Quiet

/-! ## Every interleaving -/

theorem launch_launches {json : JsonCodec} {config : Config} {semver : Semver} {f : Faults}
    {s s' : System} {p : Handler Unit} (hinv : DeployInv s) (h : Launch json config semver s p s') :
    (deployments False).Launches (act json f) s p s' := by
  have hrun : DeployRun False json f (act json f) := ⟨fun _ _ _ _ h => h, False.elim, False.elim⟩
  have hquiet : ∀ {α : Type} {p : Handler α}, Quiet False (act json f) p →
      (deployments False).Launches (act json f) s p.discard s := fun hp =>
    launches_of_wp hinv (.refl s) rfl (hp.settled trivial)
  cases h with
  | deploy operationContext payload =>
    exact launches_of_wp hinv (.refl s) rfl (wp_deployInstance hrun config operationContext payload)
  | undeploy operationContext id => exact hquiet (quiet_undeployInstance hrun operationContext id)
  | listInstances => exact hquiet (quiet_reconcileInstancesWithAgent hrun config)
  | deleteRule operationContext id =>
    exact hquiet (quiet hrun Discipline.stable_true
      (uses_deleteRule allowed_plain operationContext fun _ _ h => h))
  | importRulePackage operationContext package =>
    exact hquiet (quiet_uses hrun
      (uses_importRulePackage (fun _ he => he) semver operationContext package))
  | startPcap operationContext id => exact hquiet (quiet_startPcap hrun operationContext id)
  | stopPcap operationContext id => exact hquiet (quiet_stopPcap hrun operationContext id)
  | deletePcap operationContext id => exact hquiet (quiet_deletePcap hrun operationContext id)
  | downloadPcap operationContext id =>
    exact hquiet (quiet_uses hrun (uses_downloadPcap (fun _ he => he) operationContext))
  | autoStop _ =>
    exact launches_of_wp hinv ⟨rfl, rfl, rfl, rfl⟩ rfl ((quiet_autoStopTask hrun _).settled trivial)

/-- In every interleaving of the service's requests, and whatever fails in them, no two
active instances have the same port. -/
theorem portsExclusive_of_reachable (json : JsonCodec) (config : Config) (semver : Semver)
    (f : Faults) {s : System} (hs : NoInstances s) {c : Pool System Eff.Answer}
    (h : Reachable (act json f) (Launch json config semver) (Pool.start s) c) :
    PortsExclusive c.state.db := by
  have howed : (deployments False).owed s = ∅ := by
    rw [Set.eq_empty_iff_forall_notMem]
    exact fun _ hw => hw.1
  exact (Discipline.reachable (fun _ _ _ hinv hl => launch_launches hinv hl)
    (deployInv_of_noInstances hs) howed h).1.exclusive

/-- A second deployment of the rule, on another port. -/
def otherPayload : DeployInstanceRequest := ⟨"rule-1", [⟨"main", 2223⟩]⟩

def otherInstance : Text := Identifiers.instanceId (uuidEnding 2)

def otherRow : InstanceRow := newInstance otherInstance sshRule (uuidEnding 3).hyphenated

def otherEndpoint : InstanceEndpoint := ⟨otherInstance, "main", "tcp", 2223, 22⟩

/-- Both rows can be inserted. -/
theorem otherPayload_inserted : ∃ db₁ db₂,
    ruleOnly.db.insertInstanceIfPortAvailable sshRow [sshEndpoint] = some (true, db₁) ∧
    db₁.rules.get "rule-1" = some sshRule ∧
    db₁.insertInstanceIfPortAvailable otherRow [otherEndpoint] = some (true, db₂) := by
  obtain ⟨db₁, hfirst⟩ := sshPayload_inserted
  have hrules : (ruleOnly.db.insertInstanceIfPortAvailable sshRow [sshEndpoint]).map
      (fun found => found.2.rules.get "rule-1") = some (some sshRule) := rfl
  have hsecond : (ruleOnly.db.insertInstanceIfPortAvailable sshRow [sshEndpoint]).bind
      (fun found => (found.2.insertInstanceIfPortAvailable otherRow [otherEndpoint]).map Prod.fst) =
      some true := by decide
  rw [hfirst] at hrules hsecond
  obtain ⟨found, hfound, hinserted⟩ := Option.map_eq_some_iff.mp hsecond
  refine ⟨db₁, found.2, hfirst, Option.some.inj hrules, hfound.trans ?_⟩
  exact congrArg (fun inserted => some (inserted, found.2)) hinserted

/-- Two deployments of one rule are with the Agent at the same time, and each has its port. -/
theorem portsExclusive_deployedTwice : ∃ c,
    Reachable (act emptyObjectCodec ⟨True, True, True⟩)
      (Launch emptyObjectCodec localConfig ⟨fun _ => .error [], fun _ _ => false, fun _ => []⟩)
      (Pool.start ruleOnly) c ∧
    (∃ row, c.state.db.selectInstance sshInstance = some row ∧ row.status = .deploying) ∧
    (∃ row, c.state.db.selectInstance otherInstance = some row ∧ row.status = .deploying) ∧
    PortsExclusive c.state.db := by
  obtain ⟨db₁, db₂, hfirst, hrule, hsecond⟩ := otherPayload_inserted
  have hne : uuidEnding 1 ≠ uuidEnding 0 := by decide
  have hne' : uuidEnding 3 ≠ uuidEnding 2 := by decide
  obtain ⟨request, hruns⟩ := @runs_deployInstance emptyObjectCodec ⟨True, True, True⟩ ruleOnly none
    localConfig sshPayload sshRule .ssh _ _ _ _ _ _ rfl rfl rfl rfl (Set.notMem_empty _)
    (Set.notMem_empty _) hne hfirst
  let s₁ : System := { ruleOnly with
    db := db₁
    issued := insert (uuidEnding 1) (insert (uuidEnding 0) ruleOnly.issued)
    inserted := insert sshInstance ruleOnly.inserted }
  have hfresh : ∀ uuid, uuid ≠ uuidEnding 1 → uuid ≠ uuidEnding 0 → uuid ∉ s₁.issued := by
    intro uuid hone hzero huuid
    obtain h | h | h := huuid
    · exact hone h
    · exact hzero h
    · exact h
  obtain ⟨request', hruns'⟩ := @runs_deployInstance emptyObjectCodec ⟨True, True, True⟩ s₁ none
    localConfig otherPayload sshRule .ssh _ _ _ _ _ _ hrule rfl rfl rfl
    (hfresh _ (by decide) (by decide)) (hfresh _ (by decide) (by decide)) hne' hsecond
  have h₀ : Reachable (act emptyObjectCodec ⟨True, True, True⟩)
      (Launch emptyObjectCodec localConfig ⟨fun _ => .error [], fun _ _ => false, fun _ => []⟩)
      (Pool.start ruleOnly) _ := .tail .refl (.launch 0 rfl (.deploy none sshPayload))
  have h₁ := Reachable.runs 0 h₀ (Function.update_self ..)
    ((runs_disturbed hruns).bind fun _ => ret ())
  have h₂ := h₁.tail (.launch 1 rfl (.deploy none otherPayload))
  have h₃ := Reachable.runs 1 h₂ (Function.update_self ..)
    ((runs_disturbed hruns').bind fun _ => ret ())
  have hselect := selectInstance_insertInstanceIfPortAvailable hsecond
  have hselect₁ := selectInstance_insertInstanceIfPortAvailable hfirst
  refine ⟨_, h₃, ⟨sshRow, ?_, rfl⟩, ⟨otherRow, ?_, rfl⟩,
    portsExclusive_of_reachable _ _ _ _ noInstances_ruleOnly h₃⟩
  · have hother : sshInstance ≠ otherInstance := by decide
    exact (hselect _).trans ((if_neg hother).trans ((hselect₁ _).trans (if_pos rfl)))
  · exact (hselect _).trans (if_pos rfl)

end ProtocolSimulation.Service
