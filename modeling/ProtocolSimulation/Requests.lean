import ProtocolSimulation.InstanceRoutes

/-!
# Requests as threads among others

Requests are made of parts that only read, report or wait and of parts that run under
the lock of an instance. Where each part is safe for a thread that holds nothing, so
is the request.
-/
namespace ProtocolSimulation.Service

open ProtocolSimulation.Texts ProtocolSimulation.JsonValues ProtocolSimulation.Storage
open ProtocolSimulation.Api
open ProtocolSimulation.Programs ProtocolSimulation.Programs.Prog

/-- Effects that read, report or wait. -/
def Eff.Passive : Eff → Prop
  | getRule _ | selectInstances | selectInstance _ | selectEndpoints _ | platformVersion
  | listWorkloads | submitOperationEvent _ | readFile _ | timestamp | hashOrder _ | sleep _ => True
  | _ => False

theorem Eff.Passive.plain {e : Eff} (he : e.Passive) : e.Plain := by
  cases e with
  | deleteRule | insertInstanceIfPortAvailable | updateStatus | updatePcap | deleteInstance
  | startWorkload | stopWorkload | nowV7 => exact he
  | _ => trivial

/-- Passive effects that report nothing. -/
def Eff.Silent : Eff → Prop
  | submitOperationEvent _ => False
  | e => e.Passive

theorem Eff.Silent.passive {e : Eff} (he : e.Silent) : e.Passive := by
  cases e with
  | submitOperationEvent => exact he.elim
  | _ => exact he

/-- Effects that touch neither the database nor a lock. -/
def Eff.Aside : Eff → Prop
  | deleteRule _ | importRulePackage _ | insertInstanceIfPortAvailable _ _ | updateStatus _ _ _ _
  | updatePcap _ _ _ _ _ | deleteInstance _ | nowV7 | lock _ | unlock _ => False
  | _ => True

theorem act_aside {json : JsonCodec} {f : Faults} {s s' : System} {e : Eff} {r : e.Answer}
    (he : e.Aside) (h : act json f s e r s') : s'.db = s.db ∧ s'.locks = s.locks := by
  have hself : s' = s → s'.db = s.db ∧ s'.locks = s.locks := by
    rintro rfl
    exact ⟨rfl, rfl⟩
  cases e with
  | deleteRule | importRulePackage | insertInstanceIfPortAvailable | updateStatus | updatePcap
  | deleteInstance | nowV7 | lock | unlock => exact he.elim
  | startWorkload payload =>
    rcases h with ⟨response, -, rfl⟩ | ⟨heq, -⟩
    · exact ⟨rfl, rfl⟩
    · exact hself heq
  | startPcap workloadId =>
    rcases h with ⟨captureId, -, -, rfl⟩ | ⟨heq, -⟩
    · exact ⟨rfl, rfl⟩
    · exact hself heq
  | stopPcap workloadId captureId =>
    rcases h with ⟨content, -, rfl⟩ | ⟨heq, -⟩
    · exact ⟨rfl, rfl⟩
    · exact hself heq
  | stopWorkload | submitOperationEvent =>
    rcases h with ⟨-, rfl⟩ | ⟨heq, -⟩
    · exact ⟨rfl, rfl⟩
    · exact hself heq
  | writeFile name content =>
    rcases h with ⟨-, rfl⟩ | ⟨-, heq | ⟨written, -, rfl⟩⟩
    · exact ⟨rfl, rfl⟩
    · exact hself heq
    · exact ⟨rfl, rfl⟩
  | removeFile name =>
    rcases h with ⟨-, -, rfl⟩ | ⟨-, -, heq⟩ | ⟨heq, -⟩
    · exact ⟨rfl, rfl⟩
    · exact hself heq
    · exact hself heq
  | spawnAutoStop id captureId startedAt =>
    obtain rfl := h
    exact ⟨rfl, rfl⟩
  | timestamp | sleep => exact hself h
  | getRule | selectInstances | selectInstance | selectEndpoints | platformVersion | listWorkloads
  | createPcapDir | readFile | hashOrder => exact hself h.1

/-- The row of the instance. -/
def RowIs (id : Text) (row : InstanceRow) (s : System) : Prop := s.db.selectInstance id = some row

/-- `reconcile_instances_with_agent` once it has the instances. -/
def reconcileFound (config : Config) (instances : List Instance) :
    Handler (Except Error (List Instance)) := do
  match ← await .listWorkloads with
  | .error _ => return .ok instances
  | .ok workloads =>
    let workloadIds := (workloads.filter fun workload =>
      workload.suiteInstanceId = config.suiteInstanceId).map WorkloadSummary.workloadId
    reconcileInstances workloadIds instances

/-- `reconcile_instances_with_agent` once the expired captures were finished. -/
def reconcileListed (config : Config) : Handler (Except Error (List Instance)) := do
  match ← listInstances with
  | .error e => return .error e
  | .ok instances => reconcileFound config instances

theorem reconcileInstancesWithAgent_eq (config : Config) : reconcileInstancesWithAgent config =
    (finalizeExpiredPcapCaptures >>= fun _ => reconcileListed config) := rfl

section Reads

variable {ok : Eff → Prop} (hsilent : ∀ e, e.Silent → ok e)
include hsilent

theorem uses_getInstance_silent (id : Text) : (getInstance id).Uses ok :=
  uses_getInstance_of id (hsilent _ trivial) fun _ => hsilent _ trivial

theorem uses_listInstances_silent : listInstances.Uses ok := by
  refine uses_await (hsilent _ trivial) ?_
  rintro (e | rows)
  · trivial
  · exact uses_hydrateInstances rows fun _ => hsilent _ trivial

end Reads

/-! ## The effects that captures come to -/

section Uses

variable {ok : Eff → Prop} (hplain : ∀ e, e.Plain → ok e)
include hplain

theorem uses_finalizePcapCapture {id : Text} (hidle : ok (.updatePcap id .idle none none none))
    (hready : ok (.updatePcap id .ready none none (some (Pcap.captureFileName id))))
    (expected : Option Text) : (finalizePcapCapture id expected).Uses ok := by
  refine uses_withLock hplain id (uses_bind (uses_getInstance hplain id) ?_)
  rintro (e | _ | inst)
  · trivial
  · trivial
  · exact uses_finalizePcapCaptureOf hplain (fun _ => hidle) (fun _ => hready) expected

theorem uses_autoStopPcap {id : Text} (hidle : ok (.updatePcap id .idle none none none))
    (hready : ok (.updatePcap id .ready none none (some (Pcap.captureFileName id))))
    (captureId : Text) : (autoStopPcap id captureId).Uses ok := by
  refine uses_bind (uses_finalizePcapCapture hplain hidle hready (some captureId)) ?_
  rintro (e | _ | ⟨updated, _ | _⟩)
  · exact uses_emitOperationEvent hplain _
  · trivial
  · trivial
  · exact uses_emitOperationEvent hplain _

theorem uses_finalizeExpiredPcapCaptures (hidle : ∀ id, ok (.updatePcap id .idle none none none))
    (hready : ∀ id, ok (.updatePcap id .ready none none (some (Pcap.captureFileName id)))) :
    finalizeExpiredPcapCaptures.Uses ok := by
  refine uses_bind (uses_listInstances_silent fun e he => hplain e he.passive.plain) ?_
  rintro (e | instances)
  · trivial
  refine uses_await (hplain _ trivial) fun now => ?_
  induction instances with
  | nil => trivial
  | cons inst rest ih =>
    unfold autoStopExpired
    split
    · split
      · exact uses_bind (uses_autoStopPcap hplain (hidle _) (hready _) _) fun _ => ih
      · exact ih
    · exact ih

end Uses

section Harmless

variable {S Tok Debt : Type} {α β : Type}

/-- `p` is safe for a thread that holds nothing and knows nothing, and it ends so. -/
abbrev Harmless (d : Discipline S Tok Debt) (step : S → (e : Eff) → e.Answer → S → Prop)
    (p : Handler α) : Prop := d.Triple step (fun _ => True) p fun _ _ => True

variable {d : Discipline S Tok Debt} {step : S → (e : Eff) → e.Answer → S → Prop}

theorem harmless_ret (a : α) : Harmless d step (ret a : Handler α) := .ret fun _ _ => trivial

theorem Harmless.bind {p : Handler β} {k : β → Handler α} (hp : Harmless d step p)
    (hk : ∀ b, Harmless d step (k b)) : Harmless d step (p >>= k) :=
  Discipline.Triple.bind hp hk

theorem harmless_of_uses {p : Handler α} {ok : Eff → Prop}
    (hok : ∀ e, ok e → ∀ s r s', d.inv s → step s e r s' → d.Move ∅ ∅ s s' ∅ ∅) (hp : p.Uses ok) :
    Harmless d step p :=
  .of_uses Discipline.stable_true (fun e he s r s' _ => hok e he s r s') hp

theorem harmless_await {e : Eff} (he : ∀ s r s', d.inv s → step s e r s' → d.Move ∅ ∅ s s' ∅ ∅) :
    Harmless d step (await e) := by
  have huses : (await e).Uses (· = e) := ⟨rfl, fun _ => trivial⟩
  refine harmless_of_uses ?_ huses
  rintro _ rfl
  exact he

section Passive

variable (hpassive : ∀ e : Eff, e.Passive → ∀ s r s', d.inv s → step s e r s' → d.Move ∅ ∅ s s' ∅ ∅)
include hpassive

theorem harmless_emitOperationEvent (event : OperationEvent) :
    Harmless d step (emitOperationEvent event) :=
  (harmless_await (hpassive (.submitOperationEvent event) trivial)).bind fun _ => harmless_ret ()

theorem harmless_stopPcap {id : Text} (hfinal : Harmless d step (finalizePcapCapture id none))
    (operationContext : Option Text) : Harmless d step (stopPcap operationContext id) := by
  refine Harmless.bind (harmless_of_uses hpassive
    (uses_getInstance_silent (fun _ he => he.passive) id)) ?_
  rintro (e | _ | inst)
  · exact harmless_ret _
  · exact harmless_ret _
  dsimp only
  split
  · exact harmless_ret _
  refine hfinal.bind ?_
  rintro (e | _ | ⟨updated, finished⟩)
  · exact (harmless_emitOperationEvent hpassive _).bind fun _ => harmless_ret _
  · exact harmless_ret _
  · exact (harmless_emitOperationEvent hpassive _).bind fun _ => harmless_ret _

theorem harmless_autoStopPcap {id captureId : Text}
    (hfinal : Harmless d step (finalizePcapCapture id (some captureId))) :
    Harmless d step (autoStopPcap id captureId) := by
  refine hfinal.bind ?_
  rintro (e | _ | ⟨updated, _ | _⟩)
  · exact harmless_emitOperationEvent hpassive _
  · exact harmless_ret ()
  · exact harmless_ret ()
  · exact harmless_emitOperationEvent hpassive _

end Passive

theorem harmless_autoStopExpired (deadline : ℤ)
    (hstop : ∀ id captureId, Harmless d step (autoStopPcap id captureId))
    (instances : List Instance) : Harmless d step (autoStopExpired deadline instances) := by
  induction instances with
  | nil => exact harmless_ret ()
  | cons inst rest ih =>
    unfold autoStopExpired
    split
    · split
      · exact (hstop _ _).bind fun _ => ih
      · exact ih
    · exact ih

section Silent

variable (hsilent : ∀ e : Eff, e.Silent → ∀ s r s', d.inv s → step s e r s' → d.Move ∅ ∅ s s' ∅ ∅)
include hsilent

theorem harmless_autoStopTask {task : AutoStopTask}
    (hstop : Harmless d step (autoStopPcap task.instanceId task.captureId)) :
    Harmless d step (autoStopTask task) :=
  (harmless_await (hsilent .timestamp trivial)).bind fun _ =>
    (harmless_await (hsilent (.sleep _) trivial)).bind fun _ => hstop

theorem harmless_finalizeExpiredPcapCaptures
    (hstop : ∀ id captureId, Harmless d step (autoStopPcap id captureId)) :
    Harmless d step finalizeExpiredPcapCaptures := by
  refine Harmless.bind (harmless_of_uses hsilent (uses_listInstances_silent fun _ he => he)) ?_
  rintro (e | instances)
  · exact harmless_ret ()
  · exact (harmless_await (hsilent .timestamp trivial)).bind fun now =>
      harmless_autoStopExpired _ hstop instances

end Silent

end Harmless

end ProtocolSimulation.Service
