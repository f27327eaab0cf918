import ProtocolSimulation.CaptureRuns
import ProtocolSimulation.Histories
import ProtocolSimulation.Requests
import Mathlib.Data.List.DropRight

/-!
# Reconciling beside undeploying

A pass that reconciles decides on the rows it has read, asks the Agent in between, and
then writes without looking at a row again. What it overwrites in this way is told by
the history since it read the rows.
-/
namespace ProtocolSimulation.Service

open ProtocolSimulation.Texts ProtocolSimulation.JsonValues ProtocolSimulation.KeyedTables
open ProtocolSimulation.Storage ProtocolSimulation.Api ProtocolSimulation.Programs
open ProtocolSimulation.Programs.Prog

inductive ReconcileKind where
  | reconcile
  | undeploy

/-- Passes that reconcile, and requests that undeploy. -/
inductive ReconcileLaunch (config : Config) : System → ReconcileKind → Handler Unit → System → Prop
  | reconcile {s : System} :
      ReconcileLaunch config s .reconcile (reconcileInstancesWithAgent config).discard s
  | undeploy {s : System} (operationContext : Option Text) (id : Text) :
      ReconcileLaunch config s .undeploy (undeployInstance operationContext id).discard s

abbrev ReconcileLog := List (Entry System ReconcileKind Eff.Answer)

/-- The status of the instance was written. -/
def StatusWritten (id : Text) : Sigma Eff.Answer → Prop
  | ⟨.updateStatus j _ _ _, .ok ()⟩ => j = id
  | _ => False

/-- The rows of all instances were read. -/
def rowsRead : Sigma Eff.Answer → Bool
  | ⟨.selectInstances, .ok _⟩ => true
  | _ => false

/-- What was done since a call last read all rows. -/
def sinceRead (n : ℕ) (h : ReconcileLog) : ReconcileLog :=
  h.rtakeWhile fun e => !(e.number == n && rowsRead e.did)

/-- Since a call last read all rows, nobody wrote the status of the instance. -/
def Undisturbed (n : ℕ) (id : Text) (h : ReconcileLog) : Prop :=
  ∀ e ∈ sinceRead n h, ¬ StatusWritten id e.did

/-- A row whose status a pass changes is `deploying` or `running` until then. -/
def LosesNothing (h : ReconcileLog) : Prop :=
  EveryEntry (fun _ e => e.kind = .reconcile → ∀ id row, StatusWritten id e.did →
    e.before.db.selectInstance id = some row → row.status.Active) h

/-- Between the moment when a pass reads the rows and the moment when it changes a row,
nobody writes the status of that instance. -/
def PassesUndisturbed (h : ReconcileLog) : Prop :=
  EveryEntry (fun before e => e.kind = .reconcile → ∀ id row, StatusWritten id e.did →
    e.before.db.selectInstance id = some row → Undisturbed e.number id before) h

theorem sinceRead_append {n : ℕ} {h h' : ReconcileLog}
    (hread : ∀ e ∈ h', e.number = n → rowsRead e.did = false) :
    sinceRead n (h ++ h') = sinceRead n h ++ h' := by
  induction h' using List.reverseRecOn with
  | nil => rw [List.append_nil, List.append_nil]
  | append_singleton h' e ih =>
    have he : (!(e.number == n && rowsRead e.did)) = true := by
      by_cases hn : e.number = n
      · simp [hread e (by simp) hn]
      · simp [hn]
    rw [← List.append_assoc, sinceRead, List.rtakeWhile_concat, if_pos he, ← sinceRead,
      ih fun e he => hread e (List.mem_append_left _ he), List.append_assoc]

theorem sinceRead_self {n : ℕ} {h : ReconcileLog} {e : Entry System ReconcileKind Eff.Answer}
    (hn : e.number = n) (hread : rowsRead e.did = true) : sinceRead n (h ++ [e]) = [] :=
  List.rtakeWhile_concat_neg _ _ _ (by simp [hn, hread])

/-! ## What single effects do to the status -/

/-- Rows keep their status unless it is written, and then they are active no longer. -/
def StatusFollows (t : System) (h : ReconcileLog) (t' : System) : Prop :=
  ∀ id row', t'.db.selectInstance id = some row' → ∃ row, t.db.selectInstance id = some row ∧
    ((∀ e ∈ h, ¬ StatusWritten id e.did) → row'.status = row.status) ∧
    ((∃ e ∈ h, StatusWritten id e.did) → ¬ row'.status.Active)

theorem StatusFollows.refl (t : System) : StatusFollows t [] t :=
  fun _ row hrow => ⟨row, hrow, fun _ => rfl, by simp⟩

theorem StatusFollows.trans {t t' t'' : System} {h h' : ReconcileLog} (ht : StatusFollows t h t')
    (ht' : StatusFollows t' h' t'') : StatusFollows t (h ++ h') t'' := by
  intro id row'' hrow''
  obtain ⟨row', hrow', hsame', hwritten'⟩ := ht' id row'' hrow''
  obtain ⟨row, hrow, hsame, hwritten⟩ := ht id row' hrow'
  refine ⟨row, hrow, ?_, ?_⟩
  · intro hnone
    exact (hsame' fun e he => hnone e (List.mem_append_right _ he)).trans
      (hsame fun e he => hnone e (List.mem_append_left _ he))
  · rintro ⟨e, he, hwrites⟩
    by_cases hlater : ∃ e ∈ h', StatusWritten id e.did
    · exact hwritten' hlater
    · have hnone : ∀ e ∈ h', ¬ StatusWritten id e.did := fun e he hw => hlater ⟨e, he, hw⟩
      rw [hsame' hnone]
      refine hwritten ⟨e, (List.mem_append.mp he).resolve_right ?_, hwrites⟩
      exact fun he' => hnone e he' hwrites

/-- The effects that leave every status as it is. -/
def Eff.KeepsStatus : Eff → Prop
  | deleteRule _ | insertInstanceIfPortAvailable _ _ | updateStatus _ _ _ _ | startWorkload _
  | nowV7 => False
  | _ => True

/-- The effects that at most deactivate. -/
def Eff.Deactivates : Eff → Prop
  | deleteRule _ | insertInstanceIfPortAvailable _ _ | startWorkload _ | nowV7 => False
  | updateStatus _ status _ _ => ¬ status.Active
  | _ => True

theorem Eff.Plain.keepsStatus (e : Eff) (he : e.Plain) : e.KeepsStatus := by
  cases e with
  | deleteRule | insertInstanceIfPortAvailable | updateStatus | startWorkload | nowV7 => exact he
  | _ => trivial

theorem Eff.KeepsStatus.deactivates {e : Eff} (he : e.KeepsStatus) : e.Deactivates := by
  cases e with
  | deleteRule | insertInstanceIfPortAvailable | updateStatus | startWorkload | nowV7 =>
    exact he.elim
  | _ => trivial

theorem Eff.KeepsStatus.not_written {e : Eff} (he : e.KeepsStatus) (r : e.Answer) (id : Text) :
    ¬ StatusWritten id ⟨e, r⟩ := by
  cases e with
  | updateStatus => exact he.elim
  | _ => exact not_false

theorem StatusFollows.of_rows {t t' : System} {h : ReconcileLog}
    (hrows : ∀ id row', t'.db.selectInstance id = some row' →
      ∃ row, t.db.selectInstance id = some row ∧ row'.status = row.status)
    (hwritten : ∀ id, ∀ e ∈ h, ¬ StatusWritten id e.did) : StatusFollows t h t' := by
  intro id row' hrow'
  obtain ⟨row, hrow, hstatus⟩ := hrows id row' hrow'
  exact ⟨row, hrow, fun _ => hstatus, fun ⟨e, he, hw⟩ => absurd hw (hwritten id e he)⟩

theorem statusFollows_of_act {json : JsonCodec} {f : Faults} {t t' : System}
    {e : Eff} {r : e.Answer}
    {n : ℕ} {l : ReconcileKind} (he : e.Deactivates) (h : act json f t e r t') :
    StatusFollows t [⟨n, l, t, ⟨e, r⟩, t'⟩] t' := by
  have hsame : t'.db.selectInstance = t.db.selectInstance → e.KeepsStatus →
      StatusFollows t [⟨n, l, t, ⟨e, r⟩, t'⟩] t' := by
    intro hdb hkeeps
    refine .of_rows (fun id row' hrow' => ⟨row', hdb ▸ hrow', rfl⟩) ?_
    intro id e' he'
    obtain rfl := List.mem_singleton.mp he'
    exact hkeeps.not_written r id
  cases e with
  | deleteRule | insertInstanceIfPortAvailable | startWorkload | nowV7 => exact he.elim
  | updateStatus id status workloadId message =>
    rcases h with ⟨rfl, rfl⟩ | ⟨rfl, -, error, rfl⟩
    · intro j row' hrow'
      rw [Database.selectInstance_updateStatus] at hrow'
      obtain ⟨row, hrow, rfl⟩ := Option.map_eq_some_iff.mp hrow'
      refine ⟨row, hrow, ?_⟩
      by_cases hj : j = id
      · subst hj
        simp only [List.mem_singleton, forall_eq, exists_eq_left, if_true]
        exact ⟨fun hnot => absurd rfl hnot, fun _ => he⟩
      · simp only [List.mem_singleton, forall_eq, exists_eq_left, if_neg hj]
        exact ⟨fun _ => trivial, fun hw => absurd hw.symm hj⟩
    · refine .of_rows (fun id row hrow => ⟨row, hrow, rfl⟩) ?_
      intro id e' he'
      obtain rfl := List.mem_singleton.mp he'
      exact not_false
  | updatePcap id pcapStatus startTime captureId filePath =>
    have hwritten : ∀ j, ∀ e' ∈ [(⟨n, l, t,
        ⟨.updatePcap id pcapStatus startTime captureId filePath, r⟩,
        t'⟩ : Entry System ReconcileKind Eff.Answer)], ¬ StatusWritten j e'.did := by
      intro j e' he'
      obtain rfl := List.mem_singleton.mp he'
      exact not_false
    rcases h with ⟨rfl, -⟩ | ⟨rfl, -⟩
    · refine .of_rows ?_ hwritten
      intro j row' hrow'
      rw [Database.selectInstance_updatePcap] at hrow'
      obtain ⟨row, hrow, rfl⟩ := Option.map_eq_some_iff.mp hrow'
      refine ⟨row, hrow, ?_⟩
      split
      · rfl
      · rfl
    · exact .of_rows (fun j row hrow => ⟨row, hrow, rfl⟩) hwritten
  | deleteInstance id =>
    refine .of_rows ?_ ?_
    · intro j row hrow
      refine ⟨row, ?_, rfl⟩
      rcases h with ⟨rfl, -⟩ | ⟨rfl, -⟩
      · rw [Database.deleteInstance, Database.selectInstance_dropInstances,
          Option.filter_eq_some_iff] at hrow
        exact hrow.1
      · exact hrow
    · intro j e' he'
      obtain rfl := List.mem_singleton.mp he'
      exact not_false
  | stopWorkload workloadId =>
    refine hsame ?_ trivial
    rcases h with ⟨-, rfl⟩ | ⟨rfl, -⟩
    · rfl
    · rfl
  | _ =>
    obtain ⟨hrows, -⟩ := act_plain (by trivial) h
    exact hsame (funext hrows.selectInstance) trivial

/-! ## The discipline -/

/-- A status that was changed by a pass was active before just if nobody had written it since
the pass read the rows. -/
def TellsLoss (before : ReconcileLog) (e : Entry System ReconcileKind Eff.Answer) : Prop :=
  e.kind = .reconcile → ∀ id row, StatusWritten id e.did →
    e.before.db.selectInstance id = some row → (row.status.Active ↔ Undisturbed e.number id before)

abbrev ReconcileState := Recorded System ReconcileKind Eff.Answer

/-- Tokens are the numbers of the calls. -/
def statuses : Discipline ReconcileState ℕ Empty where
  inv s := EveryEntry TellsLoss s.history
  free s := {n | s.calls ≤ n}
  owed _ := ∅
  rely O s s' := s.calls ≤ s'.calls ∧ ∃ h, s'.history = s.history ++ h ∧ (∀ e ∈ h, e.number ∉ O) ∧
    StatusFollows s.state h s'.state
  rely_refl O s := ⟨le_rfl, [], (List.append_nil _).symm, by simp, .refl _⟩
  rely_trans := by
    rintro O s s' s'' ⟨hcalls, h, heq, hnot, hfollows⟩ ⟨hcalls', h', heq', hnot', hfollows'⟩
    refine ⟨hcalls.trans hcalls', h ++ h', by rw [heq', heq, List.append_assoc], ?_,
      hfollows.trans hfollows'⟩
    intro e he
    rcases List.mem_append.mp he with he | he
    · exact hnot e he
    · exact hnot' e he

theorem statuses_guarded : statuses.Guarded := by
  rintro O s s' ⟨hcalls, -⟩ hO
  exact Set.disjoint_of_subset_right (fun _ hn => hcalls.trans hn) hO

section Calls

variable {json : JsonCodec} {f : Faults} {n : ℕ} {l : ReconcileKind} {α : Type}

/-- The effects of one call. -/
abbrev reconcileStep (json : JsonCodec) (f : Faults) (n : ℕ) (l : ReconcileKind)
    (s : ReconcileState) (e : Eff) (r : e.Answer) (s' : ReconcileState) : Prop :=
  recordBy (act json f) (fun _ _ => True) n l s e r s'

theorem statuses_move {s s' : ReconcileState} {e : Eff} {r : e.Answer}
    (hn : Disjoint {n} (statuses.free s)) (hinv : statuses.inv s) (he : e.Deactivates)
    (htells : TellsLoss s.history ⟨n, l, s.state, ⟨e, r⟩, s'.state⟩)
    (h : reconcileStep json f n l s e r s') : statuses.Move {n} ∅ s s' {n} ∅ := by
  obtain ⟨t, hact, -, rfl⟩ := h
  refine .keep ?_ ?_ hn subset_rfl subset_rfl
  · exact everyEntry_append.mpr ⟨hinv, htells⟩
  · intro P hP _
    refine ⟨le_rfl, [_], rfl, ?_, statusFollows_of_act he hact⟩
    intro e' he'
    obtain rfl := List.mem_singleton.mp he'
    exact Set.disjoint_left.mp hP rfl

/-- A call whose effects write no status it has to answer for. -/
theorem statuses_of_uses {p : Handler α}
    (hp : p.Uses fun e => e.Deactivates ∧ (l = .reconcile → e.KeepsStatus)) :
    statuses.Hoare (reconcileStep json f n l) {n} (fun _ => True) p fun _ O _ => O = {n} := by
  refine (Discipline.Hoare.of_uses statuses_guarded (fun _ _ _ h => h) ?_ hp).weaken (fun _ h => h)
    fun _ _ _ h => h.1
  rintro e ⟨he, hkeeps⟩ s r s' - hn hinv hstep
  refine ⟨statuses_move hn hinv he ?_ hstep, trivial⟩
  intro hl id row hwritten
  exact absurd hwritten ((hkeeps hl).not_written r id)

/-! ## What a pass knows of the rows it has read -/

/-- The rows that a call has read last: those that were active are so as long as nobody wrote
their status. -/
def Watches (n : ℕ) (rows : List InstanceRow) (s : ReconcileState) : Prop :=
  ∀ row ∈ rows, row.status.Active → ∀ row', s.state.db.selectInstance row.id = some row' →
    (row'.status.Active ↔ Undisturbed n row.id s.history)

theorem Watches.follow {rows : List InstanceRow} {s s' : ReconcileState} (h : Watches n rows s)
    {later : ReconcileLog} (hhistory : s'.history = s.history ++ later)
    (hread : ∀ e ∈ later, e.number = n → rowsRead e.did = false)
    (hfollows : StatusFollows s.state later s'.state) : Watches n rows s' := by
  intro row hrow hactive row'' hrow''
  obtain ⟨row', hrow', hsame, hwritten⟩ := hfollows row.id row'' hrow''
  have htold := h row hrow hactive row' hrow'
  have hsplit : Undisturbed n row.id s'.history ↔
      Undisturbed n row.id s.history ∧ ∀ e ∈ later, ¬ StatusWritten row.id e.did := by
    rw [Undisturbed, hhistory, sinceRead_append hread]
    simp only [List.mem_append, or_imp, forall_and, Undisturbed]
  rw [hsplit]
  by_cases hnone : ∀ e ∈ later, ¬ StatusWritten row.id e.did
  · rw [hsame hnone, htold]
    exact (and_iff_left hnone).symm
  · obtain ⟨e, he, hw⟩ : ∃ e ∈ later, StatusWritten row.id e.did := by simpa using hnone
    exact iff_of_false (hwritten ⟨e, he, hw⟩) fun h => hnone h.2

theorem Watches.rely {rows : List InstanceRow} {s s' : ReconcileState} (h : Watches n rows s)
    (hrely : statuses.rely {n} s s') : Watches n rows s' := by
  obtain ⟨-, later, hhistory, hnot, hfollows⟩ := hrely
  exact h.follow hhistory (fun e he hn => absurd hn (hnot e he)) hfollows

/-- The effects of a pass once it has read the rows. -/
def Reconciles (rows : List InstanceRow) (e : Eff) : Prop :=
  (e.KeepsStatus ∧ ∀ r : e.Answer, rowsRead ⟨e, r⟩ = false) ∨
    ∃ row ∈ rows, row.status.Active ∧ e = .updateStatus row.id .inactive none none

theorem Watches.step {rows : List InstanceRow} {s s' : ReconcileState} {e : Eff} {r : e.Answer}
    (h : Watches n rows s) (hn : Disjoint {n} (statuses.free s)) (hinv : statuses.inv s)
    (he : Reconciles rows e)
    (hstep : reconcileStep json f n l s e r s') :
    statuses.Move {n} ∅ s s' {n} ∅ ∧ Watches n rows s' := by
  have hdeactivates : e.Deactivates ∧ rowsRead ⟨e, r⟩ = false := by
    rcases he with ⟨hkeeps, hread⟩ | ⟨row, -, -, rfl⟩
    · exact ⟨hkeeps.deactivates, hread r⟩
    · exact ⟨by simp [Eff.Deactivates, InstanceStatus.Active], rfl⟩
  have htells : TellsLoss s.history ⟨n, l, s.state, ⟨e, r⟩, s'.state⟩ := by
    intro _ id row' hwritten hrow'
    rcases he with ⟨hkeeps, -⟩ | ⟨row, hrow, hactive, rfl⟩
    · exact absurd hwritten (hkeeps.not_written r id)
    · obtain rfl : row.id = id := by
        rcases r with error | _
        · exact hwritten.elim
        · exact hwritten
      exact h row hrow hactive row' hrow'
  refine ⟨statuses_move hn hinv hdeactivates.1 htells hstep, ?_⟩
  obtain ⟨t, hact, -, rfl⟩ := hstep
  refine h.follow rfl ?_ (statusFollows_of_act hdeactivates.1 hact)
  intro e' he' _
  obtain rfl := List.mem_singleton.mp he'
  exact hdeactivates.2

/-- Reading all rows is where a pass begins to watch them. -/
theorem watches_of_read {rows : List InstanceRow} {s s' : ReconcileState}
    (hstep : reconcileStep json f n l s .selectInstances (.ok rows) s') : Watches n rows s' := by
  obtain ⟨t, ⟨rfl, ⟨read, hperm, heq⟩ | ⟨-, error, he⟩⟩, -, rfl⟩ := hstep
  · obtain rfl := Except.ok.inj heq
    intro row hrow hactive row' hrow'
    have hget := Table.get_of_mem (hperm.mem_iff.mp hrow)
    obtain rfl := Option.some.inj (hget.symm.trans hrow')
    have hnone : sinceRead n (s.history ++
        [⟨n, l, s.state, ⟨.selectInstances, .ok rows⟩, s.state⟩]) = [] :=
      sinceRead_self rfl rfl
    refine iff_of_true hactive ?_
    intro e he
    exact absurd (hnone ▸ he) List.not_mem_nil
  · exact absurd he (by simp)

/-! ## The calls -/

theorem statuses_of_rows {α : Type} {rows : List InstanceRow} {p : Handler α}
    (hp : p.Uses (Reconciles rows)) :
    statuses.Hoare (reconcileStep json f n l) {n} (Watches n rows) p fun _ O s =>
      O = {n} ∧ Watches n rows s :=
  .of_uses statuses_guarded (fun _ _ hrely h => h.rely hrely)
    (fun _ he _ _ _ h hn hinv hstep => h.step hn hinv he hstep) hp

/-- Once it has read the rows a pass writes only the status of those it found active. -/
theorem statuses_reconcileListed (config : Config) :
    statuses.Hoare (reconcileStep json f n .reconcile) {n} (fun _ => True)
      (reconcileListed config) fun _ _ _ => True := by
  rw [reconcileListed, listInstances, await_bind, call_bind]
  refine .call statuses_guarded
    (A := fun r O s => O = {n} ∧ ∀ rows, r = .ok rows → Watches n rows s)
    (fun _ _ _ h => h) ?_ ?_
  · intro s r s' _ hn hinv hstep
    refine ⟨{n}, statuses_move (e := .selectInstances) hn hinv trivial ?_ hstep, rfl, ?_⟩
    · exact fun _ id row hw => absurd hw not_false
    · rintro rows rfl
      exact watches_of_read hstep
  rintro (error | rows) O
  · exact .ret fun _ _ => trivial
  rintro s ⟨rfl, hwatches⟩
  refine ((statuses_of_rows ?_).weaken (fun _ h => h) fun _ _ _ _ => trivial) s (hwatches rows rfl)
  have hread : ∀ e : Eff, e.KeepsStatus → (∀ r : e.Answer, rowsRead ⟨e, r⟩ = false) →
      Reconciles rows e := fun e he hr => .inl ⟨he, hr⟩
  refine uses_bind_returns (uses_hydrateInstances rows fun _ => hread _ trivial fun _ => rfl)
    (returns_hydrateInstances rows) ?_
  rintro (error | instances) hrows
  · trivial
  refine uses_await (hread _ trivial fun _ => rfl) ?_
  rintro (error | workloads)
  · trivial
  refine uses_reconcileInstances _ (fun id => uses_getInstance_of id (hread _ trivial fun _ => rfl)
    fun _ => hread _ trivial fun _ => rfl) ?_
  intro inst hinst hactive _
  refine .inr ⟨inst.row, ?_, hactive, rfl⟩
  rw [← hrows instances rfl]
  exact List.mem_map_of_mem hinst

theorem statuses_reconcile (config : Config) :
    statuses.Hoare (reconcileStep json f n .reconcile) {n} (fun _ => True)
      (reconcileInstancesWithAgent config) fun _ _ _ => True := by
  rw [reconcileInstancesWithAgent_eq]
  refine Discipline.Hoare.bind (statuses_of_uses ?_) ?_
  · have hkeeps : ∀ e : Eff, e.KeepsStatus →
        e.Deactivates ∧ (ReconcileKind.reconcile = .reconcile → e.KeepsStatus) :=
      fun e he => ⟨he.deactivates, fun _ => he⟩
    exact uses_finalizeExpiredPcapCaptures (fun e he => hkeeps e he.keepsStatus)
      (fun _ => hkeeps _ trivial) fun _ => hkeeps _ trivial
  · rintro _ O s rfl
    exact statuses_reconcileListed config s trivial

/-- Undeploying may set the status `error`. -/
theorem statuses_undeploy (operationContext : Option Text) (id : Text) :
    statuses.Hoare (reconcileStep json f n .undeploy) {n} (fun _ => True)
      (undeployInstance operationContext id) fun _ _ _ => True := by
  have hok : ∀ e : Eff, e.Deactivates →
      e.Deactivates ∧ (ReconcileKind.undeploy = .reconcile → e.KeepsStatus) :=
    fun e he => ⟨he, fun h => absurd h (by simp)⟩
  have hplain : ∀ e : Eff, e.Plain → e.Deactivates ∧ (ReconcileKind.undeploy = .reconcile →
      e.KeepsStatus) := fun e he => hok e he.keepsStatus.deactivates
  refine (statuses_of_uses (uses_withLock hplain id
    (uses_bind (uses_getInstance hplain id) ?_))).weaken (fun _ h => h) fun _ _ _ _ => trivial
  rintro (error | _ | inst)
  · trivial
  · trivial
  · exact uses_undeployInstanceOf hplain operationContext (fun _ _ => hok _ trivial)
      (fun _ message => hok _ (by simp [Eff.Deactivates, InstanceStatus.Active])) (hok _ trivial)

end Calls

theorem launch_statuses {json : JsonCodec} {config : Config} {f : Faults} {s s' : ReconcileState}
    {p : Prog (Call ReconcileKind Eff) (fun c => c.effect.Answer) Unit} (hinv : statuses.inv s)
    (h : recordLaunch (ReconcileLaunch config) s p s') :
    statuses.Starts (record (act json f) fun _ _ => True) s p s' := by
  obtain ⟨l, q, t, hlaunch, rfl, rfl⟩ := h
  let s' : ReconcileState := { s with
    state := t
    calls := s.calls + 1 }
  have hapart : Disjoint {s.calls} (statuses.free s') := by
    rw [Set.disjoint_singleton_left]
    exact Nat.not_succ_le_self s.calls
  have hmove : t = s.state → statuses.Move ∅ ∅ s s' {s.calls} ∅ := by
    rintro rfl
    refine ⟨hinv, ?_, ?_, hapart, ?_, Set.empty_subset _⟩
    · intro P _ _
      exact ⟨Nat.le_succ _, [], (List.append_nil _).symm, by simp, .refl _⟩
    · rw [Set.empty_union, Set.singleton_subset_iff]
      exact le_refl s.calls
    · intro n hn
      exact .inl ((Nat.le_succ _).trans hn)
  cases hlaunch with
  | reconcile =>
    exact Discipline.starts_by (hmove rfl)
      (Discipline.wp_discard ((statuses_reconcile config).settled trivial hapart))
  | undeploy operationContext id =>
    exact Discipline.starts_by (hmove rfl)
      (Discipline.wp_discard ((statuses_undeploy operationContext id).settled trivial hapart))

/-- In every interleaving of passes that reconcile and requests that undeploy, whatever fails
in them, the passes lose no update just if nobody writes the status of an instance between
the moment when a pass reads the rows and the moment when it changes that instance. -/
theorem losesNothing_iff_undisturbed (json : JsonCodec) (config : Config) (f : Faults) (s : System)
    {c : Pool ReconcileState fun call : Call ReconcileKind Eff => call.effect.Answer}
    (h : Reachable (record (act json f) fun _ _ => True) (recordLaunch (ReconcileLaunch config))
      (Pool.start (.start s)) c) :
    LosesNothing c.state.history ↔ PassesUndisturbed c.state.history := by
  have hinv : statuses.inv c.state := Discipline.inv_of_reachable
    (fun _ _ _ hinv hl => launch_statuses hinv hl) (s := .start s) everyEntry_nil rfl h
  constructor
  · intro hall h₁ e h₂ heq hkind id row hwritten hrow
    exact (hinv h₁ e h₂ heq hkind id row hwritten hrow).mp
      (hall h₁ e h₂ heq hkind id row hwritten hrow)
  · intro hall h₁ e h₂ heq hkind id row hwritten hrow
    exact (hinv h₁ e h₂ heq hkind id row hwritten hrow).mpr
      (hall h₁ e h₂ heq hkind id row hwritten hrow)

/-! ## A failure that is overwritten -/

section Overwritten

variable (json : JsonCodec) (f : Faults)

/-- A pass finds the instance running and its workload gone. -/
theorem runs_reconcileOnce : ∃ k, Runs (act json f) runningOnce
    (reconcileInstancesWithAgent localConfig) runningOnce
    (.call (.updateStatus sshInstance .inactive none none) k) := by
  have hrows : ∃ rows : List InstanceRow, rows.Perm runningOnce.db.instances.rows ∧
      (.ok [runningRow] : Except Error (List InstanceRow)) = .ok rows := ⟨_, .refl _, rfl⟩
  exact ⟨_, .call (.ok [runningRow]) ⟨rfl, .inl hrows⟩ (.call (.ok []) ⟨rfl, .inl rfl⟩
    (.call (0 : ℤ) rfl (.call (.ok [runningRow]) ⟨rfl, .inl hrows⟩ (.call (.ok []) ⟨rfl, .inl rfl⟩
      (.call (.ok []) ⟨rfl, .inl ⟨_, rfl⟩⟩ .refl)))))⟩

/-- The Agent refuses to stop the workload, which is recorded in the row. -/
theorem runs_undeployOnce (hagent : f.agent) : ∃ s r row, Runs (act json f) runningOnce
    (undeployInstance none sshInstance) s (.ret r) ∧ s.db.selectInstance sshInstance = some row ∧
    row.status = .error := by
  let failed : InstanceRow := { runningRow with
    status := .error
    errorMessage := some [] }
  let t : System := { runningOnce with locks := insert sshInstance runningOnce.locks }
  have hfailed : (t.db.updateStatus sshInstance .error (some "w-1") (some [])).selectInstance
      sshInstance = some failed := by
    rw [Database.selectInstance_updateStatus, show t.db.selectInstance sshInstance =
      _ from runningOnce_row]
    rfl
  refine ⟨_, _, failed, .call () ⟨Set.notMem_empty _, rfl⟩
    (.call (.ok (some runningRow)) ⟨rfl, .inl ?_⟩
    (.call (.ok []) ⟨rfl, .inl rfl⟩ (.call (.error (.ofMessage [])) (.inr ⟨rfl, hagent, _, rfl⟩)
      (.call (.ok ()) (.inl ⟨rfl, rfl⟩) (.call (.ok (some failed)) ⟨rfl, .inl ?_⟩
        (.call (.ok []) ⟨rfl, .inl rfl⟩
          (.call (.ok ()) (.inl ⟨rfl, rfl⟩) (.call () rfl .refl)))))))),
    hfailed, rfl⟩
  · exact congrArg Except.ok runningOnce_row.symm
  · exact congrArg Except.ok hfailed.symm

end Overwritten

/-- A pass reads the rows, a request fails to undeploy the instance, and the pass goes on. -/
theorem reachable_overwritten (json : JsonCodec) : ∃ c,
    Reachable (record (act json ⟨False, True, False⟩) fun _ _ => True)
      (recordLaunch (ReconcileLaunch localConfig)) (Pool.start (.start runningOnce)) c ∧
    ¬ LosesNothing c.state.history := by
  obtain ⟨k, hpass⟩ := runs_reconcileOnce json ⟨False, True, False⟩
  obtain ⟨s, r, row, hundeploy, hrow, hstatus⟩ :=
    runs_undeployOnce json ⟨False, True, False⟩ trivial
  -- the pass is call 0, and call 1 undeploys once the pass has read the rows
  have h₀ : Reachable (record (act json ⟨False, True, False⟩) fun _ _ => True)
      (recordLaunch (ReconcileLaunch localConfig)) (Pool.start (.start runningOnce)) _ :=
    .tail .refl (.launch 0 rfl ⟨.reconcile, _, _, .reconcile, rfl, rfl⟩)
  obtain ⟨done, hpass⟩ := (hpass.bind fun _ => ret ()).recordAll 0 ReconcileKind.reconcile [] 1
  have h₁ := Reachable.runs 0 h₀ (Function.update_self ..) hpass
  have h₂ := h₁.tail (.launch 1 rfl ⟨.undeploy, _, _, .undeploy none sshInstance, rfl, rfl⟩)
  obtain ⟨done', hundeploy⟩ := (hundeploy.bind fun _ => ret ()).recordAll 1 .undeploy ([] ++ done) 2
  have h₃ := Reachable.runs 1 h₂ (Function.update_self ..) hundeploy
  have h₄ := h₃.tail (.run 0 (.ok ()) rfl ⟨_, .inl ⟨rfl, rfl⟩, trivial, rfl⟩)
  refine ⟨_, h₄, fun hall => ?_⟩
  have hactive := hall _ _ [] rfl rfl sshInstance row rfl hrow
  rw [hstatus] at hactive
  simp [InstanceStatus.Active] at hactive

theorem overwritten_disturbed : ∃ c,
    Reachable (record (act emptyObjectCodec ⟨False, True, False⟩) fun _ _ => True)
      (recordLaunch (ReconcileLaunch localConfig)) (Pool.start (.start runningOnce)) c ∧
    ¬ PassesUndisturbed c.state.history := by
  obtain ⟨c, hreach, hloses⟩ := reachable_overwritten emptyObjectCodec
  exact ⟨c, hreach, mt (losesNothing_iff_undisturbed _ _ _ _ hreach).mpr hloses⟩

/-- A pass overwrites the failure of a request that undeploys. -/
theorem failedUndeploy_overwritten :
    ¬ ∀ (json : JsonCodec) (config : Config) (f : Faults) (s : System)
    (c : Pool ReconcileState fun call : Call ReconcileKind Eff => call.effect.Answer),
    Reachable (record (act json f) fun _ _ => True) (recordLaunch (ReconcileLaunch config))
      (Pool.start (.start s)) c → LosesNothing c.state.history := by
  intro hall
  obtain ⟨c, hreach, hloses⟩ := reachable_overwritten emptyObjectCodec
  exact hloses (hall _ _ _ _ c hreach)

end ProtocolSimulation.Service
