import ProtocolSimulation.InstanceRoutes

/-!
# Deployments beside other requests

What the requests of the service may rely on while they run interleaved. An
instance's identifier belongs to the request that deploys it. From the insertion of
the row until its deployment is over, nobody else changes the row, though it may be
deleted; afterwards its workload stays the same. Under the assumption `undisturbed`
nobody even reads the row while it is deploying, and then it is not deleted either,
so that no started workload can be lost.
-/
namespace ProtocolSimulation.Service

open ProtocolSimulation.Texts ProtocolSimulation.JsonValues ProtocolSimulation.KeyedTables
open ProtocolSimulation.Identifiers ProtocolSimulation.Protocols ProtocolSimulation.Storage
open ProtocolSimulation.Api ProtocolSimulation.Programs ProtocolSimulation.Programs.Prog

/-! ## Ports -/

/-- No two active instances have the same port of a transport. -/
def PortsExclusive (db : Database) : Prop :=
  ∀ e ∈ db.instanceEndpoints.rows, ∀ e' ∈ db.instanceEndpoints.rows, ∀ r r',
    db.selectInstance e.instanceId = some r → r.status.Active →
    db.selectInstance e'.instanceId = some r' → r'.status.Active →
    e.transport = e'.transport → e.hostPort = e'.hostPort → e.instanceId = e'.instanceId

/-- Instances may become inactive and disappear, and endpoints may disappear. -/
theorem PortsExclusive.mono {db db' : Database} (h : PortsExclusive db)
    (hactive : ∀ id r', db'.selectInstance id = some r' → r'.status.Active →
      ∃ r, db.selectInstance id = some r ∧ r.status.Active)
    (hendpoints : ∀ e ∈ db'.instanceEndpoints.rows, e ∈ db.instanceEndpoints.rows) :
    PortsExclusive db' := by
  intro e he e' he' r r' hr hra hr' hra' htransport hport
  obtain ⟨q, hq, hqa⟩ := hactive _ r hr hra
  obtain ⟨q', hq', hqa'⟩ := hactive _ r' hr' hra'
  exact h e (hendpoints e he) e' (hendpoints e' he') q q' hq hqa hq' hqa' htransport hport

/-- Inserting an instance all of whose ports are free. -/
theorem PortsExclusive.insert {db db' : Database} (h : PortsExclusive db) {row : InstanceRow}
    {endpoints : List InstanceEndpoint}
    (hins : db.insertInstanceIfPortAvailable row endpoints = some (true, db')) :
    PortsExclusive db' := by
  unfold Database.insertInstanceIfPortAvailable at hins
  split at hins
  · exact absurd hins (by simp)
  next hfree =>
    obtain ⟨db₁, hdb₁, heq⟩ := Option.map_eq_some_iff.mp hins
    obtain ⟨-, rfl⟩ := Prod.mk.inj heq
    obtain ⟨hnone, hselect, hmem, -⟩ := Database.insertInstance_spec hdb₁
    have hnot : ∀ a ∈ endpoints, db.occupied a.transport a.hostPort = false := by
      intro a ha
      by_contra hoccupied
      exact hfree (List.any_eq_true.mpr ⟨a, ha, by simpa using hoccupied⟩)
    -- an old endpoint of an active instance is apart from the new ones
    have hapart : ∀ e ∈ db.instanceEndpoints.rows, ∀ r, db₁.selectInstance e.instanceId = some r →
        r.status.Active → db.selectInstance e.instanceId = some r ∧
          ∀ a ∈ endpoints, e.transport = a.transport → e.hostPort ≠ a.hostPort := by
      intro e he r hr hactive
      obtain ⟨q, hq, hid⟩ := db.endpoint_instance e he
      have hold : e.instanceId ≠ row.id := by
        intro hid'
        have hget := Table.get_of_mem hq
        rw [hid, hid'] at hget
        exact absurd (hget.symm.trans hnone) (by simp)
      rw [hselect, if_neg hold] at hr
      refine ⟨hr, ?_⟩
      intro a ha htransport hport
      have hoccupied : db.occupied a.transport a.hostPort = true :=
        Database.occupied_eq_true_iff.mpr ⟨e, he, htransport, hport, r, hr, hactive⟩
      rw [hnot a ha] at hoccupied
      exact absurd hoccupied (by simp)
    intro e he e' he' r r' hr hra hr' hra' htransport hport
    rcases (hmem e).mp he with hold | ⟨a, ha, rfl⟩ <;>
      rcases (hmem e').mp he' with hold' | ⟨a', ha', rfl⟩
    · obtain ⟨hr₀, -⟩ := hapart e hold r hr hra
      obtain ⟨hr₀', -⟩ := hapart e' hold' r' hr' hra'
      exact h e hold e' hold' r r' hr₀ hra hr₀' hra' htransport hport
    · exact absurd hport ((hapart e hold r hr hra).2 a' ha' htransport)
    · exact absurd hport.symm ((hapart e' hold' r' hr' hra').2 a ha htransport.symm)
    · rfl

/-! ## The discipline -/

/-- The row is gone or still as its deployment inserted it. -/
def Late (s : System) (id : Text) : Prop :=
  ∀ r, s.db.selectInstance id = some r → r.status = .deploying

/-- The row is there, as its deployment inserted it. -/
def Held (s : System) (id : Text) : Prop :=
  ∃ r, s.db.selectInstance id = some r ∧ r.status = .deploying

/-- The deployment is over, and the row is gone or has this workload. -/
def Records (s : System) (id : Text) (workloadId : Option Text) : Prop :=
  id ∈ s.inserted ∧ ∀ r, s.db.selectInstance id = some r →
    r.status ≠ .deploying ∧ r.workloadId = workloadId

/-- A workload that the Agent started and was not told to stop, and that no row names. -/
def Orphaned (s : System) (workloadId : Text) : Prop :=
  workloadId ∈ s.agent.started ∧ workloadId ∉ s.agent.stopped ∧
    ∀ id r, s.db.selectInstance id = some r → r.workloadId ≠ some workloadId

structure DeployInv (s : System) : Prop where
  exclusive : PortsExclusive s.db
  inserted : ∀ id r, s.db.selectInstance id = some r → id ∈ s.inserted
  issued : ∀ id ∈ s.inserted, ∃ u ∈ s.issued, instanceId u = id
  pending : ∀ id r, s.db.selectInstance id = some r → r.status = .deploying →
    r.workloadId = none ∧ r.pcapFilePath = none

/-- Whoever holds an identifier inserts it, and nobody else changes its row before the
deployment is over. -/
structure DeployRely (undisturbed : Prop) (O : Set Text) (s s' : System) : Prop where
  records : ∀ id workloadId, Records s id workloadId → Records s' id workloadId
  issued : s.issued ⊆ s'.issued
  stopped : s.agent.stopped ⊆ s'.agent.stopped
  fresh : ∀ id ∈ O, id ∉ s.inserted → id ∉ s'.inserted
  inserted : s.inserted ⊆ s'.inserted
  late : ∀ id ∈ O, id ∈ s.inserted → Late s id → Late s' id
  held : undisturbed → ∀ id ∈ O, Held s id → Held s' id

/-- Tokens are the identifiers of instances. Owed are the workloads that no row names. -/
def deployments (undisturbed : Prop) : Discipline System Text Text where
  inv := DeployInv
  free s := {id | ∃ u, u ∉ s.issued ∧ instanceId u = id}
  owed s := {workloadId | undisturbed ∧ Orphaned s workloadId}
  rely := DeployRely undisturbed
  rely_refl _ _ := ⟨fun _ _ h => h, subset_rfl, subset_rfl, fun _ _ h => h, subset_rfl,
    fun _ _ _ h => h, fun _ _ _ h => h⟩
  rely_trans h h' := ⟨fun id w hs => h'.records id w (h.records id w hs), h.issued.trans h'.issued,
    h.stopped.trans h'.stopped, fun id hid hs => h'.fresh id hid (h.fresh id hid hs),
    h.inserted.trans h'.inserted,
    fun id hid hins hs => h'.late id hid (h.inserted hins) (h.late id hid hins hs),
    fun hu id hid hs => h'.held hu id hid (h.held hu id hid hs)⟩

section Moves

variable {undisturbed : Prop} {s s' : System} {O : Set Text} {D D' : Set Text}

/-! ## What single effects do -/

/-- A row after a change of `instances`, beside the row before. -/
structure RowChange (r r' : InstanceRow) : Prop where
  active : r'.status.Active → r.status.Active
  pending : r'.status = .deploying → r.status = .deploying ∧ r'.workloadId = r.workloadId ∧
    (r'.pcapFilePath = r.pcapFilePath ∨ r'.pcapFilePath = none)
  workload : r.status ≠ .deploying → r'.workloadId = r.workloadId

theorem RowChange.refl (r : InstanceRow) : RowChange r r :=
  ⟨id, fun h => ⟨h, rfl, .inl rfl⟩, fun _ => rfl⟩

/-- A change of rows that inserts nothing. -/
structure RowsChange (s s' : System) : Prop where
  issued : s'.issued = s.issued
  inserted : s'.inserted = s.inserted
  stopped : s.agent.stopped ⊆ s'.agent.stopped
  endpoints : ∀ e ∈ s'.db.instanceEndpoints.rows, e ∈ s.db.instanceEndpoints.rows
  rows : ∀ id r', s'.db.selectInstance id = some r' →
    ∃ r, s.db.selectInstance id = some r ∧ RowChange r r'

/-- A change of rows that leaves those that are being deployed to their deployments. -/
theorem move_of_changes (hinv : DeployInv s) (h : RowsChange s s')
    (hO : Disjoint O ((deployments undisturbed).free s))
    (hlate : ∀ id, id ∉ O → Late s id → Late s' id)
    (hheld : undisturbed → ∀ id, id ∉ O → Held s id → Held s' id)
    (howed : undisturbed → ∀ w, Orphaned s' w → (Orphaned s w ∧ w ∉ D) ∨ w ∈ D') :
    (deployments undisturbed).Move O D s s' O D' := by
  have hfree : (deployments undisturbed).free s' = (deployments undisturbed).free s := by
    simp only [deployments, h.issued]
  refine ⟨⟨?_, ?_, ?_, ?_⟩, ?_, Set.subset_union_left, hfree ▸ hO,
    hfree.subset.trans Set.subset_union_left, ?_⟩
  · refine hinv.exclusive.mono ?_ h.endpoints
    intro id r' hr' hactive
    obtain ⟨r, hr, hchange⟩ := h.rows id r' hr'
    exact ⟨r, hr, hchange.active hactive⟩
  · intro id r' hr'
    obtain ⟨r, hr, -⟩ := h.rows id r' hr'
    rw [h.inserted]
    exact hinv.inserted id r hr
  · intro id hid
    rw [h.inserted] at hid
    rw [h.issued]
    exact hinv.issued id hid
  · intro id r' hr' hdeploying
    obtain ⟨r, hr, hchange⟩ := h.rows id r' hr'
    obtain ⟨hstatus, hworkload, hpath⟩ := hchange.pending hdeploying
    obtain ⟨hw, hp⟩ := hinv.pending id r hr hstatus
    refine ⟨hworkload.trans hw, ?_⟩
    rcases hpath with heq | hnone
    · exact heq.trans hp
    · exact hnone
  · intro P hP _
    have hnot : ∀ id ∈ P, id ∉ O := fun id hid => Set.disjoint_right.mp hP hid
    refine ⟨?_, h.issued.symm.subset, h.stopped, ?_, h.inserted.symm.subset,
      fun id hid _ hs => hlate id (hnot id hid) hs, fun hu id hid => hheld hu id (hnot id hid)⟩
    · intro id w ⟨hid, hrecords⟩
      refine ⟨h.inserted ▸ hid, ?_⟩
      intro r' hr'
      obtain ⟨r, hr, hchange⟩ := h.rows id r' hr'
      obtain ⟨hstatus, hworkload⟩ := hrecords r hr
      exact ⟨fun hdeploying => hstatus (hchange.pending hdeploying).1,
        (hchange.workload hstatus).trans hworkload⟩
    · intro id _ hid
      rwa [h.inserted]
  · rintro w ⟨hu, hw⟩
    rcases howed hu w hw with ⟨hold, hnot⟩ | hnew
    · exact .inl ⟨⟨hu, hold⟩, hnot⟩
    · exact .inr hnew

theorem SameRows.rowsChange (h : SameRows s s') (hstopped : s.agent.stopped ⊆ s'.agent.stopped) :
    RowsChange s s' := by
  refine ⟨h.issued, h.inserted, hstopped, ?_, ?_⟩
  · intro e he
    rwa [h.endpoints] at he
  · intro id r' hr'
    rw [h.selectInstance] at hr'
    exact ⟨r', hr', .refl r'⟩

/-- Nothing changes but perhaps what the Agent started and stopped. -/
theorem move_of_sameRows (hinv : DeployInv s) (hO : Disjoint O ((deployments undisturbed).free s))
    (h : SameRows s s') (hstopped : s.agent.stopped ⊆ s'.agent.stopped)
    (hstarted : ∀ w, w ∈ s'.agent.started → w ∈ s.agent.started ∨ w ∈ D') (hD : D ⊆ D') :
    (deployments undisturbed).Move O D s s' O D' := by
  refine move_of_changes hinv (h.rowsChange hstopped) hO ?_ ?_ ?_
  · intro id _ hs r hr
    rw [h.selectInstance] at hr
    exact hs r hr
  · intro _ id _ hs
    obtain ⟨r, hr, hstatus⟩ := hs
    exact ⟨r, (h.selectInstance id).trans hr, hstatus⟩
  · intro _ w ⟨hstart, hstop, hrow⟩
    by_cases hw : w ∈ D'
    · exact .inr hw
    · left
      refine ⟨⟨(hstarted w hstart).resolve_right hw, fun h => hstop (hstopped h), ?_⟩,
        fun hwD => hw (hD hwD)⟩
      intro id r hr
      exact hrow id r ((h.selectInstance id).trans hr)

theorem move_of_plain {json : JsonCodec} {f : Faults} {e : Eff} {r : e.Answer} (hinv : DeployInv s)
    (hO : Disjoint O ((deployments undisturbed).free s)) (h : act json f s e r s') (he : e.Plain) :
    (deployments undisturbed).Move O D s s' O D := by
  obtain ⟨hsame, hstarted, hstopped⟩ := act_plain he h
  refine move_of_sameRows hinv hO hsame hstopped.symm.subset ?_ subset_rfl
  intro w hw
  exact .inl (hstarted ▸ hw)

variable {json : JsonCodec} {f : Faults}

theorem move_self (hinv : DeployInv s) (hO : Disjoint O ((deployments undisturbed).free s)) :
    (deployments undisturbed).Move O D s s O D :=
  move_of_sameRows hinv hO (.refl s) subset_rfl (fun _ hw => .inl hw) subset_rfl

/-- What no row names after a change was named by no row before it, if only rows that keep
their workload change. -/
theorem orphaned_of_rows {w : Text} (h : Orphaned s' w) (hagent : s'.agent = s.agent)
    (hrows : ∀ id r, s.db.selectInstance id = some r → r.workloadId = some w → w ∉ s.agent.stopped →
      ∃ id' r', s'.db.selectInstance id' = some r' ∧ r'.workloadId = some w) : Orphaned s w := by
  obtain ⟨hstart, hstop, hrow⟩ := h
  rw [hagent] at hstart hstop
  refine ⟨hstart, hstop, ?_⟩
  intro id r hr hw
  obtain ⟨id', r', hr', hw'⟩ := hrows id r hr hw hstop
  exact hrow id' r' hr' hw'

theorem or_not_mem {w : Text} (h : Orphaned s w) : (Orphaned s w ∧ w ∉ D) ∨ w ∈ D := by
  by_cases hw : w ∈ D
  · exact .inr hw
  · exact .inl ⟨h, hw⟩

/-- Deactivating an instance whose deployment is over, without changing its workload. -/
theorem move_updateStatus {id : Text} {status : InstanceStatus}
    {workloadId message old : Option Text}
    {r : Except Error Unit} (hinv : DeployInv s)
    (hO : Disjoint O ((deployments undisturbed).free s))
    (hrecords : Records s id old) (hworkload : workloadId.or old = old) (hstatus : ¬ status.Active)
    (h : act json f s (.updateStatus id status workloadId message) r s') :
    (deployments undisturbed).Move O D s s' O D := by
  rcases h with ⟨rfl, -⟩ | ⟨rfl, -⟩
  · refine move_of_changes hinv ⟨rfl, rfl, subset_rfl, fun e he => he, ?_⟩ hO ?_ ?_ ?_
    · intro j r' hr'
      rw [Database.selectInstance_updateStatus] at hr'
      obtain ⟨q, hq, rfl⟩ := Option.map_eq_some_iff.mp hr'
      refine ⟨q, hq, ?_⟩
      split
      next heq =>
        subst heq
        obtain ⟨hnot, hold⟩ := hrecords.2 q hq
        refine ⟨fun hactive => absurd hactive hstatus, fun hdeploying => ?_, fun _ => ?_⟩
        · exact absurd (.inl hdeploying) hstatus
        · rw [hold, hworkload]
      next => exact .refl q
    · intro j _ hlate r' hr'
      rw [Database.selectInstance_updateStatus] at hr'
      obtain ⟨q, hq, rfl⟩ := Option.map_eq_some_iff.mp hr'
      split
      next heq =>
        subst heq
        exact absurd (hlate q hq) (hrecords.2 q hq).1
      next => exact hlate q hq
    · intro _ j _ ⟨q, hq, hdeploying⟩
      refine ⟨_, Database.selectInstance_updateStatus_of_some hq, ?_⟩
      split
      next heq =>
        subst heq
        exact absurd hdeploying (hrecords.2 q hq).1
      next => exact hdeploying
    · intro _ w hw
      refine or_not_mem (orphaned_of_rows hw rfl ?_)
      intro j q hq hqw _
      refine ⟨j, _, Database.selectInstance_updateStatus_of_some hq, ?_⟩
      split
      next heq =>
        subst heq
        have hold := (hrecords.2 q hq).2
        simp only
        rw [hold, hworkload, ← hold, hqw]
      next => exact hqw
  · exact move_self hinv hO

theorem move_updatePcap {id : Text} {pcapStatus : PcapStatus} {startTime : Option ℤ}
    {captureId filePath : Option Text} {r : Except Error Unit} (hinv : DeployInv s)
    (hO : Disjoint O ((deployments undisturbed).free s))
    (hpath : (∃ w, Records s id w) ∨ filePath = none)
    (h : act json f s (.updatePcap id pcapStatus startTime captureId filePath) r s') :
    (deployments undisturbed).Move O D s s' O D := by
  rcases h with ⟨rfl, -⟩ | ⟨rfl, -⟩
  · have hrow : ∀ j q, s.db.selectInstance j = some q → ∃ q',
        (s.db.updatePcap id pcapStatus startTime captureId filePath).selectInstance j = some q' ∧
          q'.status = q.status ∧ q'.workloadId = q.workloadId := by
      intro j q hq
      refine ⟨_, by rw [Database.selectInstance_updatePcap, hq, Option.map_some], ?_⟩
      split
      · exact ⟨rfl, rfl⟩
      · exact ⟨rfl, rfl⟩
    refine move_of_changes hinv ⟨rfl, rfl, subset_rfl, fun e he => he, ?_⟩ hO ?_ ?_ ?_
    · intro j r' hr'
      rw [Database.selectInstance_updatePcap] at hr'
      obtain ⟨q, hq, rfl⟩ := Option.map_eq_some_iff.mp hr'
      refine ⟨q, hq, ?_⟩
      split
      next heq =>
        subst heq
        refine ⟨fun hactive => hactive, fun hdeploying => ⟨hdeploying, rfl, ?_⟩, fun _ => rfl⟩
        rcases hpath with ⟨w, hrecords⟩ | hnone
        · exact absurd hdeploying (hrecords.2 q hq).1
        · exact .inr hnone
      next => exact .refl q
    · intro j _ hlate r' hr'
      rw [Database.selectInstance_updatePcap] at hr'
      obtain ⟨q, hq, rfl⟩ := Option.map_eq_some_iff.mp hr'
      split
      · exact hlate q hq
      · exact hlate q hq
    · intro _ j _ ⟨q, hq, hdeploying⟩
      obtain ⟨q', hq', hstatus, -⟩ := hrow j q hq
      exact ⟨q', hq', hstatus.trans hdeploying⟩
    · intro _ w hw
      refine or_not_mem (orphaned_of_rows hw rfl ?_)
      intro j q hq hqw _
      obtain ⟨q', hq', -, hworkload⟩ := hrow j q hq
      exact ⟨j, q', hq', hworkload.trans hqw⟩
  · exact move_self hinv hO

/-- Rows are dropped. Where that may lose a workload, their workloads were stopped, and none
of them is being deployed by another request. -/
theorem move_dropInstances {p : InstanceRow → Bool} (hinv : DeployInv s)
    (hO : Disjoint O ((deployments undisturbed).free s))
    (hselect : ∀ id, s'.db.selectInstance id = (s.db.selectInstance id).filter fun r => !p r)
    (hendpoints : ∀ e ∈ s'.db.instanceEndpoints.rows, e ∈ s.db.instanceEndpoints.rows)
    (hissued : s'.issued = s.issued) (hinserted : s'.inserted = s.inserted)
    (hagent : s'.agent = s.agent)
    (hworkload : undisturbed → ∀ id r, s.db.selectInstance id = some r → p r = true →
      ∀ w, r.workloadId = some w → w ∈ s.agent.stopped)
    (hmine : undisturbed → ∀ id r, s.db.selectInstance id = some r → p r = true → id ∉ O →
      r.status ≠ .deploying) :
    (deployments undisturbed).Move O D s s' O D := by
  have hold : ∀ id r', s'.db.selectInstance id = some r' → s.db.selectInstance id = some r' := by
    intro id r' hr'
    rw [hselect, Option.filter_eq_some_iff] at hr'
    exact hr'.1
  refine move_of_changes hinv ⟨hissued, hinserted, by rw [hagent], hendpoints, ?_⟩ hO ?_ ?_ ?_
  · intro id r' hr'
    exact ⟨r', hold id r' hr', .refl r'⟩
  · intro id _ hlate r' hr'
    exact hlate r' (hold id r' hr')
  · intro hu id hid ⟨r, hr, hdeploying⟩
    refine ⟨r, ?_, hdeploying⟩
    rw [hselect, hr, Option.filter_eq_some_iff]
    refine ⟨rfl, ?_⟩
    by_contra hp
    exact hmine hu id r hr (by simpa using hp) hid hdeploying
  · intro hu w hw
    refine or_not_mem (orphaned_of_rows hw hagent ?_)
    intro id r hr hrw hstop
    refine ⟨id, r, ?_, hrw⟩
    rw [hselect, hr, Option.filter_eq_some_iff]
    refine ⟨rfl, ?_⟩
    by_contra hp
    exact hstop (hworkload hu id r hr (by simpa using hp) w hrw)

theorem move_deleteInstance {id : Text} {r : Except Error Bool} (hinv : DeployInv s)
    (hO : Disjoint O ((deployments undisturbed).free s))
    (hworkload : undisturbed → ∀ q, s.db.selectInstance id = some q →
      ∀ w, q.workloadId = some w → w ∈ s.agent.stopped)
    (hmine : undisturbed → id ∉ O → ∀ q, s.db.selectInstance id = some q → q.status ≠ .deploying)
    (h : act json f s (.deleteInstance id) r s') :
    (deployments undisturbed).Move O D s s' O D := by
  rcases h with ⟨rfl, -⟩ | ⟨rfl, -⟩
  · have hkey : ∀ j q, s.db.selectInstance j = some q → decide (q.id = id) = true → j = id := by
      intro j q hq hp
      have hid : q.id = j := Table.key_of_get hq
      exact hid.symm.trans (of_decide_eq_true hp)
    refine move_dropInstances (p := fun q => q.id = id) hinv hO ?_ ?_ rfl rfl rfl ?_ ?_
    · intro j
      exact Database.selectInstance_dropInstances s.db _ j
    · intro e he
      exact (Database.mem_instanceEndpoints_dropInstances.mp he).1
    · intro hu j q hq hp
      exact hworkload hu q (hkey j q hq hp ▸ hq)
    · intro hu j q hq hp hj
      have hjid := hkey j q hq hp
      subst hjid
      exact hmine hu hj q hq
  · exact move_self hinv hO

theorem move_deleteRule {id : Text} {r : Except Error Bool} (hinv : DeployInv s)
    (hO : Disjoint O ((deployments undisturbed).free s)) (hu : ¬ undisturbed)
    (h : act json f s (.deleteRule id) r s') : (deployments undisturbed).Move O D s s' O D := by
  rcases h with ⟨rfl, -⟩ | ⟨rfl, -⟩
  · refine move_dropInstances (p := fun q => q.ruleId = id) hinv hO ?_ ?_ rfl rfl rfl
      (fun h => absurd h hu) fun h => absurd h hu
    · intro j
      exact Database.selectInstance_deleteRule
    · intro e he
      rw [Database.instanceEndpoints_deleteRule] at he
      exact (Database.mem_instanceEndpoints_dropInstances.mp he).1
  · exact move_self hinv hO

theorem move_stopWorkload {workloadId : Text} {r : Except Error Unit} (hinv : DeployInv s)
    (hO : Disjoint O ((deployments undisturbed).free s))
    (h : act json f s (.stopWorkload workloadId) r s') :
    (deployments undisturbed).Move O D s s' O D := by
  rcases h with ⟨-, rfl⟩ | ⟨rfl, -⟩
  · exact move_of_sameRows hinv hO ⟨rfl, rfl, rfl, rfl⟩ (Set.subset_insert _ _)
      (fun _ hw => .inl hw) subset_rfl
  · exact move_self hinv hO

/-! ## What the thread of a deployment does -/

theorem disjoint_free {uuid : UuidV7} (h : uuid ∈ s.issued) :
    Disjoint {instanceId uuid} ((deployments undisturbed).free s) := by
  rw [Set.disjoint_singleton_left]
  rintro ⟨u, hu, heq⟩
  exact hu (instanceId_injective heq ▸ h)

/-- A new UUID may become the token of an instance or be put to another use. -/
theorem move_nowV7 {uuid : UuidV7} {O' : Set Text} (hinv : DeployInv s) (hnew : uuid ∉ s.issued)
    (hs' : s' = { s with issued := insert uuid s.issued })
    (hO : Disjoint O ((deployments undisturbed).free s)) (hO' : O' ⊆ O ∪ {instanceId uuid}) :
    (deployments undisturbed).Move O ∅ s s' O' ∅ := by
  subst hs'
  have hfree : (deployments undisturbed).free { s with issued := insert uuid s.issued } ⊆
      (deployments undisturbed).free s := by
    rintro id ⟨u, hu, rfl⟩
    exact ⟨u, fun h => hu (Set.mem_insert_of_mem uuid h), rfl⟩
  refine ⟨⟨hinv.exclusive, hinv.inserted, ?_, hinv.pending⟩, ?_, ?_, ?_, ?_, ?_⟩
  · intro id hid
    obtain ⟨u, hu, heq⟩ := hinv.issued id hid
    exact ⟨u, Set.mem_insert_of_mem uuid hu, heq⟩
  · intro P _ _
    exact ⟨fun _ _ h => h, Set.subset_insert _ _, subset_rfl, fun _ _ h => h, subset_rfl,
      fun _ _ _ h => h, fun _ _ _ h => h⟩
  · refine hO'.trans (Set.union_subset_union_right _ ?_)
    rintro _ rfl
    exact ⟨uuid, hnew, rfl⟩
  · refine Set.disjoint_of_subset_left hO' (Set.disjoint_union_left.mpr ⟨?_, ?_⟩)
    · exact Set.disjoint_of_subset_right hfree hO
    · exact disjoint_free (Set.mem_insert uuid s.issued)
  · exact hfree.trans Set.subset_union_left
  · intro w hw
    exact .inl ⟨hw, fun h => h⟩

theorem selectInstance_insertInstanceIfPortAvailable {db db' : Database} {row : InstanceRow}
    {endpoints : List InstanceEndpoint}
    (h : db.insertInstanceIfPortAvailable row endpoints = some (true, db')) (id : Text) :
    db'.selectInstance id = if id = row.id then some row else db.selectInstance id := by
  unfold Database.insertInstanceIfPortAvailable at h
  split at h
  · exact absurd h (by simp)
  · obtain ⟨db₁, hdb₁, heq⟩ := Option.map_eq_some_iff.mp h
    obtain ⟨-, rfl⟩ := Prod.mk.inj heq
    exact (Database.insertInstance_spec hdb₁).2.1 id

/-- Inserting the instance whose identifier the thread holds. -/
theorem move_insertInstance {uuid : UuidV7} {row : InstanceRow} {endpoints : List InstanceEndpoint}
    {db' : Database} (hinv : DeployInv s) (hissued : uuid ∈ s.issued)
    (hid : row.id = instanceId uuid) (hfresh : row.id ∉ s.inserted)
    (hworkload : row.workloadId = none) (hpath : row.pcapFilePath = none)
    (hins : s.db.insertInstanceIfPortAvailable row endpoints = some (true, db'))
    (hs' : s' = { s with
      db := db'
      inserted := insert row.id s.inserted }) :
    (deployments undisturbed).Move {instanceId uuid} ∅ s s' {instanceId uuid} ∅ := by
  subst hs'
  have hselect := selectInstance_insertInstanceIfPortAvailable hins
  have hold : ∀ id, id ≠ row.id → db'.selectInstance id = s.db.selectInstance id := by
    intro id hne
    rw [hselect, if_neg hne]
  have hnone : s.db.selectInstance row.id = none := by
    by_contra hne
    obtain ⟨r, hr⟩ := Option.ne_none_iff_exists'.mp hne
    exact hfresh (hinv.inserted _ r hr)
  refine .keep ⟨hinv.exclusive.insert hins, ?_, ?_, ?_⟩ ?_ (disjoint_free hissued) subset_rfl ?_
  · intro id r hr
    by_cases hne : id = row.id
    · exact hne ▸ Set.mem_insert _ _
    · exact Set.mem_insert_of_mem _ (hinv.inserted id r ((hold id hne).symm.trans hr))
  · intro id hmem
    rcases Set.mem_insert_iff.mp hmem with rfl | hmem
    · exact ⟨uuid, hissued, hid.symm⟩
    · exact hinv.issued id hmem
  · intro id r hr hdeploying
    by_cases hne : id = row.id
    · have hrow := hselect id
      rw [if_pos hne] at hrow
      obtain rfl := Option.some.inj (hrow.symm.trans hr)
      exact ⟨hworkload, hpath⟩
    · exact hinv.pending id r ((hold id hne).symm.trans hr) hdeploying
  · intro P hP _
    have hnotin : ∀ id ∈ P, id ≠ row.id := by
      rintro id hidP rfl
      exact Set.disjoint_left.mp hP (Set.mem_singleton_iff.mpr hid) hidP
    refine ⟨?_, subset_rfl, subset_rfl, ?_, Set.subset_insert _ _, ?_, ?_⟩
    · intro id w ⟨hmem, hrecords⟩
      have hne : id ≠ row.id := by
        rintro rfl
        exact hfresh hmem
      refine ⟨Set.mem_insert_of_mem _ hmem, ?_⟩
      intro r hr
      exact hrecords r ((hold id hne).symm.trans hr)
    · intro id hidP hmem
      rw [Set.mem_insert_iff, not_or]
      exact ⟨hnotin id hidP, hmem⟩
    · intro id hidP _ hlate r hr
      exact hlate r ((hold id (hnotin id hidP)).symm.trans hr)
    · intro _ id hidP ⟨r, hr, hdeploying⟩
      exact ⟨r, (hold id (hnotin id hidP)).trans hr, hdeploying⟩
  · rintro w ⟨hu, hstart, hstop, hrow⟩
    refine ⟨hu, hstart, hstop, ?_⟩
    intro id r hr
    have hne : id ≠ row.id := by
      rintro rfl
      rw [hnone] at hr
      exact absurd hr (by simp)
    exact hrow id r ((hold id hne).trans hr)

/-- What the Agent returned is owed until it is recorded. -/
theorem move_startWorkload {payload : StartWorkloadRequest} {r : Except Error StartWorkloadResponse}
    (hinv : DeployInv s) (hO : Disjoint O ((deployments undisturbed).free s))
    (h : act json f s (.startWorkload payload) r s') :
    (deployments undisturbed).Move O ∅ s s' O {w | ∃ response, r = .ok response ∧
      response.workloadId = some w} ∧ SameRows s s' := by
  rcases h with ⟨response, rfl, rfl⟩ | ⟨rfl, -⟩
  · refine ⟨move_of_sameRows hinv hO ⟨rfl, rfl, rfl, rfl⟩ subset_rfl ?_ (Set.empty_subset _),
      ⟨rfl, rfl, rfl, rfl⟩⟩
    intro w hw
    rcases hw with hold | hnew
    · exact .inl hold
    · exact .inr ⟨response, rfl, hnew⟩
  · exact ⟨move_of_sameRows hinv hO (.refl _) subset_rfl (fun _ hw => .inl hw) (Set.empty_subset _),
      .refl _⟩

/-- The end of a deployment: the row, if it is still there, is as it was inserted, and it
takes what the Agent returned. -/
theorem move_recordStatus {id : Text} {status : InstanceStatus} {workloadId message : Option Text}
    {r : Except Error Unit} (hinv : DeployInv s)
    (hO : Disjoint O ((deployments undisturbed).free s))
    (hid : id ∈ O) (hlate : Late s id) (hheld : undisturbed → Held s id)
    (hstatus : status ≠ .deploying) (hD : ∀ w ∈ D, workloadId = some w)
    (hdatabase : undisturbed → ¬ f.database)
    (h : act json f s (.updateStatus id status workloadId message) r s') :
    (deployments undisturbed).Move O D s s' O ∅ := by
  rcases h with ⟨rfl, -⟩ | ⟨rfl, hfail, -⟩
  · refine move_of_changes hinv ⟨rfl, rfl, subset_rfl, fun e he => he, ?_⟩ hO ?_ ?_ ?_
    · intro j r' hr'
      rw [Database.selectInstance_updateStatus] at hr'
      obtain ⟨q, hq, rfl⟩ := Option.map_eq_some_iff.mp hr'
      refine ⟨q, hq, ?_⟩
      split
      next heq =>
        subst heq
        have hdeploying := hlate q hq
        exact ⟨fun _ => .inl hdeploying, fun hnew => absurd hnew hstatus,
          fun hold => absurd hdeploying hold⟩
      next => exact .refl q
    · intro j hj hs r' hr'
      rw [Database.selectInstance_updateStatus] at hr'
      obtain ⟨q, hq, rfl⟩ := Option.map_eq_some_iff.mp hr'
      have hne : j ≠ id := by
        rintro rfl
        exact hj hid
      rw [if_neg hne]
      exact hs q hq
    · intro _ j hj ⟨q, hq, hdeploying⟩
      have hne : j ≠ id := by
        rintro rfl
        exact hj hid
      refine ⟨q, ?_, hdeploying⟩
      rw [Database.selectInstance_updateStatus_of_some hq, if_neg hne]
    · intro hu w hw
      left
      refine ⟨orphaned_of_rows hw rfl ?_, ?_⟩
      · intro j q hq hqw _
        have hne : j ≠ id := by
          rintro rfl
          have hnone := (hinv.pending j q hq (hlate q hq)).1
          rw [hnone] at hqw
          exact absurd hqw (by simp)
        refine ⟨j, q, ?_, hqw⟩
        rw [Database.selectInstance_updateStatus_of_some hq, if_neg hne]
      · intro hwD
        obtain ⟨q, hq, -⟩ := hheld hu
        refine hw.2.2 id _ (Database.selectInstance_updateStatus_of_some hq) ?_
        rw [if_pos rfl]
        rw [hD w hwD]
        rfl
  · refine move_of_changes hinv ((SameRows.refl _).rowsChange subset_rfl) hO (fun _ _ h => h)
      (fun _ _ _ h => h) ?_
    intro hu
    exact absurd hfail (hdatabase hu)

end Moves

/-! ## Programs that deploy nothing -/

/-- The steps of a run. In an undisturbed one the database does not fail, and nobody reads
a row by its identifier while it is being deployed. -/
structure DeployRun (undisturbed : Prop) (json : JsonCodec) (f : Faults)
    (step : System → (e : Eff) → e.Answer → System → Prop) : Prop where
  sub : ∀ s e r s', step s e r s' → act json f s e r s'
  read : undisturbed → ∀ s id r s', step s (.selectInstance id) r s' →
    ∀ row, s.db.selectInstance id = some row → row.status ≠ .deploying
  database : undisturbed → ¬ f.database

/-- What follows from a row once it was read. -/
def Seen (row : InstanceRow) (s : System) : Prop :=
  row.status ≠ .deploying ∨ row.workloadId ≠ none ∨ row.pcapFilePath ≠ none →
    Records s row.id row.workloadId

/-- The effects of a thread that holds nothing. -/
def Allowed (undisturbed : Prop) (s : System) : Eff → Prop
  | .updateStatus id status workloadId _ =>
    ¬ status.Active ∧ ∃ old, Records s id old ∧ workloadId.or old = old
  | .updatePcap id _ _ _ pcapFilePath => (∃ w, Records s id w) ∨ pcapFilePath = none
  | .deleteInstance id => undisturbed → ∃ old, Records s id old ∧ ∀ w ∈ old, w ∈ s.agent.stopped
  | .deleteRule _ => ¬ undisturbed
  | .insertInstanceIfPortAvailable _ _ | .nowV7 | .startWorkload _ => False
  | _ => True

section Quiet

variable {undisturbed : Prop} {json : JsonCodec} {f : Faults}
  {step : System → (e : Eff) → e.Answer → System → Prop} {α : Type}

theorem move_of_allowed {s s' : System} {D : Set Text} {e : Eff} {r : e.Answer} (hinv : DeployInv s)
    (he : Allowed undisturbed s e) (h : act json f s e r s') :
    (deployments undisturbed).Move ∅ D s s' ∅ D := by
  have hO := Set.empty_disjoint ((deployments undisturbed).free s)
  cases e with
  | insertInstanceIfPortAvailable | nowV7 | startWorkload => exact he.elim
  | updateStatus id status workloadId message =>
    obtain ⟨hstatus, old, hrecords, hworkload⟩ := he
    exact move_updateStatus hinv hO hrecords hworkload hstatus h
  | updatePcap => exact move_updatePcap hinv hO he h
  | deleteInstance id =>
    refine move_deleteInstance hinv hO ?_ ?_ h
    · intro hu q hq w hw
      obtain ⟨old, hrecords, hstopped⟩ := he hu
      exact hstopped w ((hrecords.2 q hq).2.symm.trans hw)
    · intro hu _ q hq
      obtain ⟨old, hrecords, -⟩ := he hu
      exact (hrecords.2 q hq).1
  | deleteRule id => exact move_deleteRule hinv hO he h
  | stopWorkload => exact move_stopWorkload hinv hO h
  | _ => exact move_of_plain hinv hO h trivial

theorem allowed_plain {K : System → Prop} (e : Eff) (he : e.Plain) (s : System) (_ : K s) :
    Allowed undisturbed s e := by
  cases e with
  | updateStatus | updatePcap | deleteInstance | deleteRule | insertInstanceIfPortAvailable | nowV7
  | startWorkload => exact he.elim
  | _ => trivial

theorem seen_stable (row : InstanceRow) : (deployments undisturbed).Stable (Seen row) :=
  fun _ _ hrely hs hrow => hrely.records _ _ (hs hrow)

theorem seen_of_selectInstance {s : System} (hinv : DeployInv s) {id : Text} {row : InstanceRow}
    (hrow : s.db.selectInstance id = some row) : row.id = id ∧ Seen row s := by
  have hid : row.id = id := Table.key_of_get hrow
  refine ⟨hid, ?_⟩
  intro hseen
  rw [hid]
  refine ⟨hinv.inserted id row hrow, ?_⟩
  intro r hr
  rw [hrow] at hr
  obtain rfl := Option.some.inj hr
  refine ⟨?_, rfl⟩
  intro hdeploying
  obtain ⟨hworkload, hpath⟩ := hinv.pending id row hrow hdeploying
  rcases hseen with hstatus | hw | hp
  · exact hstatus hdeploying
  · exact hw hworkload
  · exact hp hpath

/-- A row that has a workload or a capture file may be marked as failed. -/
theorem Seen.allowed_error {row : InstanceRow} {s : System} (h : Seen row s)
    (hrow : row.workloadId ≠ none ∨ row.pcapFilePath ≠ none) (message : Option Text) :
    Allowed undisturbed s (.updateStatus row.id .error row.workloadId message) :=
  ⟨by simp [InstanceStatus.Active], row.workloadId, h (.inr hrow), Option.or_self⟩

/-- `p` keeps the discipline, whatever it comes to know. -/
abbrev Quiet (undisturbed : Prop) (step : System → (e : Eff) → e.Answer → System → Prop)
    (p : Handler α) : Prop :=
  (deployments undisturbed).Triple step (fun _ => True) p fun _ _ => True

variable (hrun : DeployRun undisturbed json f step)
include hrun

/-- A program of allowed effects keeps what its thread knows. -/
theorem quiet {K : System → Prop} {p : Handler α} (hK : (deployments undisturbed).Stable K)
    (hp : p.Uses fun e => ∀ s, K s → Allowed undisturbed s e) :
    (deployments undisturbed).Triple step K p fun _ => K := by
  refine .of_uses hK ?_ hp
  intro e he s r s' hs hinv hact
  exact move_of_allowed hinv (he s hs) (hrun.sub _ _ _ _ hact)

theorem quiet_uses {p : Handler α} (hp : p.Uses Eff.Plain) : Quiet undisturbed step p :=
  quiet hrun Discipline.stable_true (hp.mono fun e he => allowed_plain e he)

theorem quiet_getInstance {id : Text} {k : Except Error (Option Instance) → Handler α}
    {Q : α → System → Prop}
    (herror : ∀ e, (deployments undisturbed).Triple step (fun _ => True) (k (.error e)) Q)
    (hnone : (deployments undisturbed).Triple step (fun _ => True) (k (.ok none)) Q)
    (hsome : ∀ inst, inst.row.id = id → (undisturbed → inst.row.status ≠ .deploying) →
      (deployments undisturbed).Triple step (Seen inst.row) (k (.ok (some inst))) Q) :
    (deployments undisturbed).Triple step (fun _ => True) (getInstance id >>= k) Q := by
  rw [getInstance, await_bind, call_bind]
  refine .call Discipline.stable_true (A := fun r s => ∀ row, r = .ok (some row) →
    row.id = id ∧ (undisturbed → row.status ≠ .deploying) ∧ Seen row s) ?_ ?_
  · intro s r s' _ hinv hstep
    have hact := hrun.sub _ _ _ _ hstep
    refine ⟨move_of_plain hinv (Set.empty_disjoint _) hact trivial, ?_⟩
    rintro row rfl
    obtain ⟨rfl, hrow | ⟨-, e, he⟩⟩ := hact
    · have hget := (Except.ok.inj hrow).symm
      obtain ⟨hid, hseen⟩ := seen_of_selectInstance hinv hget
      exact ⟨hid, fun hu => hrun.read hu _ _ _ _ hstep row hget, hseen⟩
    · exact absurd he (by simp)
  · rintro (e | _ | row)
    · exact (herror e).weaken (fun _ _ => trivial) fun _ _ h => h
    · exact hnone.weaken (fun _ _ => trivial) fun _ _ h => h
    · by_cases hrow : row.id = id ∧ (undisturbed → row.status ≠ .deploying)
      · refine Discipline.Triple.weaken (J := Seen row) ?_ (fun s hs => (hs row rfl).2.2)
          fun _ _ h => h
        refine .call (seen_stable row) (A := fun _ => Seen row) ?_ ?_
        · intro s r s' hs hinv hact
          have hmove : (deployments undisturbed).Move ∅ ∅ s s' ∅ ∅ :=
            move_of_plain hinv (Set.empty_disjoint _) (hrun.sub _ _ _ _ hact) trivial
          exact ⟨hmove, seen_stable row s s' hmove.rely_empty hs⟩
        · rintro (e | endpoints)
          · exact (herror e).weaken (fun _ _ => trivial) fun _ _ h => h
          · exact hsome ⟨row, endpoints⟩ hrow.1 hrow.2
      · intro s hs
        obtain ⟨hid, hstatus, -⟩ := hs row rfl
        exact absurd ⟨hid, hstatus⟩ hrow

theorem quiet_withLock {id : Text} {body : Handler α} (h : Quiet undisturbed step body) :
    Quiet undisturbed step (withLock id body) := by
  have hplain : ∀ (e : Eff) (_ : e.Plain), Quiet undisturbed step (await e) := fun e he =>
    quiet_uses hrun ⟨he, fun _ => trivial⟩
  rw [withLock]
  exact (hplain (.lock id) trivial).bind fun _ => h.bind fun _ =>
    (hplain (.unlock id) trivial).bind fun _ => .ret fun _ _ => trivial

/-- Undeploying deletes a row only when its workload was stopped. -/
theorem quiet_undeployInstance (operationContext : Option Text) (id : Text) :
    Quiet undisturbed step (undeployInstance operationContext id) := by
  refine quiet_withLock hrun (quiet_getInstance hrun (fun e => .ret fun _ _ => trivial)
    (.ret fun _ _ => trivial) ?_)
  rintro inst rfl hstatus
  let K (s : System) : Prop := Seen inst.row s ∧
    (undisturbed → ∀ w ∈ inst.row.workloadId, w ∈ s.agent.stopped)
  have hstable : (deployments undisturbed).Stable K := (seen_stable inst.row).and
    fun _ _ hrely hs hu w hw => hrely.stopped (hs hu w hw)
  have hstopped : (deployments undisturbed).Triple step K
      (undeployStopped operationContext inst.row.id inst) fun _ _ => True := by
    refine (quiet hrun hstable ?_).weaken (fun _ h => h) fun _ _ _ => trivial
    refine uses_undeployStopped allowed_plain operationContext ?_ ?_
    · intro hpath message s hs
      exact hs.1.allowed_error (.inr hpath) (some message)
    · intro s hs hu
      exact ⟨_, hs.1 (.inl (hstatus hu)), hs.2 hu⟩
  simp only [undeployInstanceOf, stopWorkloadOf]
  cases hworkload : inst.row.workloadId with
  | none =>
    exact hstopped.weaken (fun s hs => ⟨hs, fun _ w hw => absurd hw (by simp [hworkload])⟩)
      fun _ _ h => h
  | some workloadId =>
    refine .call (seen_stable inst.row)
      (A := fun r s => Seen inst.row s ∧ (r = .ok () → workloadId ∈ s.agent.stopped)) ?_ ?_
    · intro s r s' hs hinv hstep
      have hact := hrun.sub _ _ _ _ hstep
      have hmove : (deployments undisturbed).Move ∅ ∅ s s' ∅ ∅ :=
        move_stopWorkload hinv (Set.empty_disjoint _) hact
      refine ⟨hmove, seen_stable _ s s' hmove.rely_empty hs, ?_⟩
      rintro rfl
      rcases hact with ⟨-, rfl⟩ | ⟨-, -, e, he⟩
      · exact Set.mem_insert _ _
      · exact absurd he (by simp)
    · rintro (err | _)
      · refine (quiet hrun (seen_stable inst.row) ?_).weaken (fun s hs => hs.1) fun _ _ _ => trivial
        refine uses_undeployFailed allowed_plain _ _ _ _ ?_
        intro s hs
        exact hs.allowed_error (.inl (by simp [hworkload])) _
      · refine hstopped.weaken (fun s hs => ⟨hs.1, ?_⟩) fun _ _ h => h
        intro _ w hw
        rw [hworkload] at hw
        rw [← Option.some.inj hw]
        exact hs.2 rfl

end Quiet

/-! ## Deploying -/

section Deploy

variable {undisturbed : Prop} {json : JsonCodec} {f : Faults}
  {step : System → (e : Eff) → e.Answer → System → Prop} {uuid : UuidV7} {s : System}

/-- What the thread of a deployment knows once it has inserted its instance. -/
structure Inserted (undisturbed : Prop) (uuid : UuidV7) (s : System) : Prop where
  issued : uuid ∈ s.issued
  inserted : instanceId uuid ∈ s.inserted
  late : Late s (instanceId uuid)
  held : undisturbed → Held s (instanceId uuid)

theorem Inserted.rely {s' : System} (h : Inserted undisturbed uuid s)
    (hrely : (deployments undisturbed).rely {instanceId uuid} s s') :
    Inserted undisturbed uuid s' :=
  ⟨hrely.issued h.issued, hrely.inserted h.inserted, hrely.late _ rfl h.inserted h.late,
    fun hu => hrely.held hu _ rfl (h.held hu)⟩

theorem Inserted.sameRows {s' : System} (h : Inserted undisturbed uuid s) (hsame : SameRows s s') :
    Inserted undisturbed uuid s' := by
  refine ⟨hsame.issued ▸ h.issued, hsame.inserted ▸ h.inserted, ?_, ?_⟩
  · intro r hr
    exact h.late r ((hsame.selectInstance _).symm.trans hr)
  · intro hu
    obtain ⟨r, hr, hstatus⟩ := h.held hu
    exact ⟨r, (hsame.selectInstance _).trans hr, hstatus⟩

variable (hrun : DeployRun undisturbed json f step)
include hrun

/-- What the thread of a deployment does once nothing is owed any more. -/
theorem wp_owner {α : Type} {p : Handler α} (hissued : uuid ∈ s.issued) (hp : p.Uses Eff.Plain) :
    (deployments undisturbed).wp step Discipline.Settled p {instanceId uuid} ∅ s := by
  induction p generalizing s with
  | ret a => rfl
  | call e k ih =>
    intro s₁ r s₂ hrely hinv hact
    have hissued₁ : uuid ∈ s₁.issued := hrely.issued hissued
    have hmove : (deployments undisturbed).Move {instanceId uuid} ∅ s₁ s₂ {instanceId uuid} ∅ :=
      move_of_plain hinv (disjoint_free hissued₁) (hrun.sub _ _ _ _ hact) hp.1
    refine ⟨_, ∅, hmove, ih r ?_ (hp.2 r)⟩
    exact (hmove.rely ∅ (Set.disjoint_empty _) (Set.empty_disjoint _)).issued hissued₁

/-- The late change of the status finds the row as it was inserted, or no row. -/
theorem wp_updateInstanceStatus {α : Type} {status : InstanceStatus} {D : Set Text}
    {workloadId errorMessage : Option Text} {k : Except Error (Option Instance) → Handler α}
    (h : Inserted undisturbed uuid s) (hstatus : status ≠ .deploying)
    (hD : ∀ w ∈ D, workloadId = some w) (hk : ∀ r, (k r).Uses Eff.Plain) :
    (deployments undisturbed).wp step Discipline.Settled
      (updateInstanceStatus (instanceId uuid) status workloadId errorMessage >>= k)
      {instanceId uuid} D s := by
  rw [updateInstanceStatus, await_bind, call_bind]
  intro s₁ r s₂ hrely hinv hstep
  have h₁ := h.rely hrely
  have hmove : (deployments undisturbed).Move {instanceId uuid} D s₁ s₂ {instanceId uuid} ∅ :=
    move_recordStatus hinv (disjoint_free h₁.issued) rfl h₁.late h₁.held hstatus hD hrun.database
      (hrun.sub _ _ _ _ hstep)
  refine ⟨_, ∅, hmove, wp_owner hrun ?_ ?_⟩
  · exact (hmove.rely ∅ (Set.disjoint_empty _) (Set.empty_disjoint _)).issued h₁.issued
  · rcases r with e | _
    · exact hk _
    · exact uses_bind (uses_getInstance (fun _ he => he) _) hk

theorem wp_recordDeploy (operationContext : Option Text) (h : Inserted undisturbed uuid s)
    (answer : Except Error StartWorkloadResponse) :
    (deployments undisturbed).wp step Discipline.Settled
      (recordDeploy operationContext (instanceId uuid) answer) {instanceId uuid}
      {w | ∃ response, answer = .ok response ∧ response.workloadId = some w} s := by
  cases answer with
  | ok response =>
    refine wp_updateInstanceStatus hrun h (by simp) ?_ ?_
    · rintro w ⟨_, heq, hw⟩
      obtain rfl := Except.ok.inj heq
      rw [hw]
      rfl
    · rintro (e | _ | inst)
      · trivial
      · trivial
      · exact uses_finishDeploy (fun _ he => he) operationContext
  | error err =>
    have hnothing : {w | ∃ response, (.error err : Except Error StartWorkloadResponse) =
        .ok response ∧ response.workloadId = some w} = ∅ := by
      rw [Set.eq_empty_iff_forall_notMem]
      rintro w ⟨_, heq, -⟩
      exact absurd heq (by simp)
    rw [hnothing, recordDeploy]
    split
    · -- the ports were taken: the row is dropped before it had a workload
      rw [await_bind]
      intro s₁ r s₂ hrely hinv hstep
      have h₁ := h.rely hrely
      have hmove : (deployments undisturbed).Move {instanceId uuid} ∅ s₁ s₂
          {instanceId uuid} ∅ := by
        refine move_deleteInstance hinv (disjoint_free h₁.issued) ?_ ?_ (hrun.sub _ _ _ _ hstep)
        · intro _ q hq w hw
          have hnone := (hinv.pending _ q hq (h₁.late q hq)).1
          rw [hnone] at hw
          exact absurd hw (by simp)
        · intro _ hnot
          exact absurd rfl hnot
      refine ⟨_, ∅, hmove, wp_owner hrun ?_ ?_⟩
      · exact (hmove.rely ∅ (Set.disjoint_empty _) (Set.empty_disjoint _)).issued h₁.issued
      · rcases r with e | deleted
        · trivial
        · exact uses_bind (uses_emitOperationEvent (fun _ he => he) _) fun _ => trivial
    · refine wp_updateInstanceStatus hrun h (by simp) (fun w hw => hw.elim) ?_
      rintro (e | _ | inst)
      · trivial
      · trivial
      · exact uses_finishDeploy (fun _ he => he) operationContext

theorem wp_deployEndpoints (config : Config) (operationContext : Option Text) (rule : Rule)
    (protocol : ProtocolId) (endpoints : List InstanceEndpoint) :
    (deployments undisturbed).wp step Discipline.Settled
      (deployEndpoints json config operationContext rule protocol endpoints) ∅ ∅ s := by
  rw [deployEndpoints, await_bind]
  -- the thread takes the identifier of its instance
  intro s₁ uuid s₂ _ hinv₁ hstep₁
  obtain ⟨hnew, hs₂⟩ := hrun.sub _ _ _ _ hstep₁
  have hfresh₁ : instanceId uuid ∉ s₁.inserted := by
    intro hmem
    obtain ⟨u, hu, heq⟩ := hinv₁.issued _ hmem
    exact hnew (instanceId_injective heq ▸ hu)
  refine ⟨{instanceId uuid}, ∅, move_nowV7 hinv₁ hnew hs₂ (Set.empty_disjoint _)
    Set.subset_union_right, ?_⟩
  have hissued₂ : uuid ∈ s₂.issued := hs₂ ▸ Set.mem_insert _ _
  have hfresh₂ : instanceId uuid ∉ s₂.inserted := hs₂ ▸ hfresh₁
  intro s₃ token s₄ hrely₃ hinv₃ hstep₃
  obtain ⟨hnew₃, hs₄⟩ := hrun.sub _ _ _ _ hstep₃
  have hissued₃ : uuid ∈ s₃.issued := hrely₃.issued hissued₂
  refine ⟨{instanceId uuid}, ∅, move_nowV7 hinv₃ hnew₃ hs₄ (disjoint_free hissued₃)
    Set.subset_union_left, ?_⟩
  have hissued₄ : uuid ∈ s₄.issued := hs₄ ▸ Set.mem_insert_of_mem _ hissued₃
  have hfresh₄ : instanceId uuid ∉ s₄.inserted := hs₄ ▸ hrely₃.fresh _ rfl hfresh₂
  -- it inserts the instance, which nobody else can have done
  intro s₅ r s₆ hrely₅ hinv₅ hstep₅
  have hissued₅ : uuid ∈ s₅.issued := hrely₅.issued hissued₄
  have hfresh₅ : instanceId uuid ∉ s₅.inserted := hrely₅.fresh _ rfl hfresh₄
  rcases hrun.sub _ _ _ _ hstep₅ with ⟨db', hins, rfl, hs₆⟩ | ⟨db', -, rfl, rfl⟩ | ⟨rfl, -, e, rfl⟩
  · refine ⟨_, ∅, move_insertInstance hinv₅ hissued₅ rfl hfresh₅ rfl rfl hins hs₆, ?_⟩
    have hrow : s₆.db.selectInstance (instanceId uuid) =
        some (newInstance (instanceId uuid) rule token.hyphenated) := by
      rw [hs₆]
      exact (selectInstance_insertInstanceIfPortAvailable hins _).trans (if_pos rfl)
    have h₆ : Inserted undisturbed uuid s₆ := by
      refine ⟨hs₆ ▸ hissued₅, hs₆ ▸ Set.mem_insert _ _, ?_, fun _ => ⟨_, hrow, rfl⟩⟩
      intro r hr
      rw [← Option.some.inj (hrow.symm.trans hr)]
      rfl
    simp only
    split
    · exact rfl
    -- from here on the row is as it was inserted, or gone
    intro s₇ answer s₈ hrely₇ hinv₇ hstep₇
    have h₇ := h₆.rely hrely₇
    obtain ⟨hmove, hsame⟩ := move_startWorkload hinv₇ (disjoint_free h₇.issued)
      (hrun.sub _ _ _ _ hstep₇)
    exact ⟨_, _, hmove, wp_recordDeploy hrun operationContext (h₇.sameRows hsame) answer⟩
  · exact ⟨_, ∅, move_self hinv₅ (disjoint_free hissued₅), rfl⟩
  · exact ⟨_, ∅, move_self hinv₅ (disjoint_free hissued₅), rfl⟩

theorem wp_deployInstance (config : Config) (operationContext : Option Text)
    (payload : DeployInstanceRequest) : (deployments undisturbed).wp step Discipline.Settled
      (deployInstance json config operationContext payload) ∅ ∅ s := by
  have hplain : ∀ {s₁ s₂ : System} {e : Eff} {r : e.Answer}, DeployInv s₁ → step s₁ e r s₂ →
      e.Plain → (deployments undisturbed).Move ∅ ∅ s₁ s₂ ∅ ∅ := fun hinv hstep he =>
    move_of_plain hinv (Set.empty_disjoint _) (hrun.sub _ _ _ _ hstep) he
  rw [deployInstance, await_bind]
  intro s₁ r s₂ _ hinv₁ hstep₁
  refine ⟨∅, ∅, hplain hinv₁ hstep₁ trivial, ?_⟩
  rcases r with e | _ | rule
  · rfl
  · rfl
  simp only
  split
  · rfl
  split
  · rfl
  rw [await_bind]
  intro s₃ order s₄ _ hinv₃ hstep₃
  refine ⟨∅, ∅, hplain hinv₃ hstep₃ trivial, ?_⟩
  simp only
  split
  · rfl
  · exact wp_deployEndpoints hrun config operationContext rule _ _

end Deploy

/-! ## The beginning -/

/-- A system in which no instance was inserted yet. -/
structure NoInstances (s : System) : Prop where
  instances : s.db.instances.rows = []
  inserted : s.inserted = ∅

theorem deployInv_of_noInstances {s : System} (h : NoInstances s) : DeployInv s := by
  have hnone : ∀ id r, s.db.selectInstance id ≠ some r := by
    intro id r hr
    have hmem := (Table.get_eq_some_iff.mp hr).1
    rw [h.instances] at hmem
    exact absurd hmem (by simp)
  refine ⟨?_, ?_, ?_, ?_⟩
  · intro e _ _ _ r _ hr
    exact absurd hr (hnone _ r)
  · intro id r hr
    exact absurd hr (hnone id r)
  · intro id hid
    rw [h.inserted] at hid
    exact hid.elim
  · intro id r hr
    exact absurd hr (hnone id r)

/-- What a launch has to show for a program that takes and owes nothing at its start. -/
theorem launches_of_wp {undisturbed : Prop} {step : System → (e : Eff) → e.Answer → System → Prop}
    {α : Type} {p : Handler α} {s s' : System} (hinv : DeployInv s) (hsame : SameRows s s')
    (hagent : s'.agent = s.agent)
    (h : (deployments undisturbed).wp step Discipline.Settled p ∅ ∅ s') :
    (deployments undisturbed).Launches step s p.discard s' :=
  ⟨move_of_sameRows hinv (Set.empty_disjoint _) hsame (by rw [hagent])
    (fun _ hw => .inl (hagent ▸ hw)) subset_rfl, Discipline.wp_discard h⟩

end ProtocolSimulation.Service
