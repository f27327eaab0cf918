import ProtocolSimulation.CaptureRuns
import ProtocolSimulation.Histories
import ProtocolSimulation.Requests

/-!
# Captures, their timers and the Agent

Captures are started, stopped and deleted by requests, by timers and by scans, under the
lock of their instance. Between two of these the row of an instance names the one capture
that the Agent may have active for it, and a call that comes late compares the capture it
was made for with that name.
-/
namespace ProtocolSimulation.Service

open ProtocolSimulation.Texts ProtocolSimulation.JsonValues ProtocolSimulation.KeyedTables
open ProtocolSimulation.Storage ProtocolSimulation.Api ProtocolSimulation.Programs
open ProtocolSimulation.Programs.Prog

inductive TimerKind where
  | startPcap
  | stopPcap
  | deletePcap
  | undeploy
  | autoStop (captureId : Text)
  | expiredScan

/-- Requests on captures, requests that undeploy, timers that have been set, and scans. -/
inductive TimerLaunch : System → TimerKind → Handler Unit → System → Prop
  | startPcap {s : System} (operationContext : Option Text) (id : Text) :
      TimerLaunch s .startPcap (startPcap operationContext id).discard s
  | stopPcap {s : System} (operationContext : Option Text) (id : Text) :
      TimerLaunch s .stopPcap (stopPcap operationContext id).discard s
  | deletePcap {s : System} (operationContext : Option Text) (id : Text) :
      TimerLaunch s .deletePcap (deletePcap operationContext id).discard s
  | undeploy {s : System} (operationContext : Option Text) (id : Text) :
      TimerLaunch s .undeploy (undeployInstance operationContext id).discard s
  | autoStop {s : System} {before after : List AutoStopTask} {task : AutoStopTask} :
      s.tasks = before ++ task :: after →
      TimerLaunch s (.autoStop task.captureId) (autoStopTask task).discard
        { s with tasks := before ++ after }
  | expiredScan {s : System} : TimerLaunch s .expiredScan finalizeExpiredPcapCaptures.discard s

abbrev TimerEntry := Entry System TimerKind Eff.Answer

abbrev TimerState := Recorded System TimerKind Eff.Answer

/-- The row of the instance says that this capture is active. -/
def Names (s : System) (id captureId : Text) : Prop :=
  ∃ row, RowIs id row s ∧ row.pcapStatus = .capturing ∧ row.pcapCaptureId = some captureId

/-- The capture that the Agent has started. -/
def handedOut : Sigma Eff.Answer → Option Text
  | ⟨.startPcap _, .ok captureId⟩ => some captureId
  | _ => none

/-- The capture that the Agent has stopped. -/
def stoppedCapture : Sigma Eff.Answer → Option Text
  | ⟨.stopPcap _ captureId, .ok _⟩ => some captureId
  | _ => none

/-- The Agent has stopped the capture. -/
def Stopped (captureId : Text) (h : List TimerEntry) : Prop :=
  ∃ e ∈ h, stoppedCapture e.did = some captureId

/-- The capture was named by a row in the beginning, or the Agent has started it. -/
def Known (s₀ : System) (captureId : Text) (h : List TimerEntry) : Prop :=
  (∃ id, Names s₀ id captureId) ∨ ∃ e ∈ h, handedOut e.did = some captureId

/-- The Agent makes up a new name for each capture it starts. -/
def FreshCaptures (s₀ : System) (h : List TimerEntry) (e : TimerEntry) : Prop :=
  ∀ captureId, handedOut e.did = some captureId → ¬ Known s₀ captureId h

/-- A timer stops no capture but its own, and changes only rows that have it. -/
def OwnCapture (e : TimerEntry) : Prop :=
  ∀ captureId, e.kind = .autoStop captureId →
    (∀ workloadId other, e.did.1 = .stopPcap workloadId other → other = captureId) ∧
    ∀ id row, RowIs id row e.before → row.pcapCaptureId ≠ some captureId → RowIs id row e.after

/-- Timers only end their own capture, the Agent never has two captures of one workload active,
and it stops no capture twice. -/
structure CapturesApart (s : TimerState) : Prop where
  own : ∀ e ∈ s.history, OwnCapture e
  single : ∀ w c c', (w, c) ∈ s.state.agent.captures → (w, c') ∈ s.state.agent.captures → c = c'
  once : EveryEntry (fun before e => ∀ c, stoppedCapture e.did = some c → ¬ Stopped c before)
    s.history

/-- The instances have workloads and captures of their own, and no file while they capture. -/
structure RowsApart (s : System) : Prop where
  workloads : ∀ id id' row row' w, RowIs id row s → RowIs id' row' s → row.workloadId = some w →
    row'.workloadId = some w → id = id'
  captures : ∀ id id' c, Names s id c → Names s id' c → id = id'
  noFile : ∀ id row, RowIs id row s → row.pcapStatus = .capturing → row.pcapFilePath = none

/-- What the Agent has active for an instance is named by its row. -/
def ActiveNamed (s : System) (id : Text) : Prop :=
  ∀ row w c, RowIs id row s → row.workloadId = some w → (w, c) ∈ s.agent.captures → Names s id c

/-- A system in which the rows and the Agent agree on the captures that are active. -/
structure CapturesAgree (s : System) : Prop where
  rows : RowsApart s
  named : ∀ id, ActiveNamed s id
  single : ∀ w c c', (w, c) ∈ s.agent.captures → (w, c') ∈ s.agent.captures → c = c'

/-! ## The discipline -/

/-- The lock of an instance, and the right to name a capture that the Agent has started. -/
inductive TimerToken where
  | lock (id : Text)
  | capture (captureId : Text)

section Discipline

variable (s₀ : System)

/-- A lock nobody holds, and a capture that has not been started yet. -/
def TimerToken.Free (s : TimerState) : TimerToken → Prop
  | lock id => id ∉ s.state.locks
  | capture captureId => ¬ Known s₀ captureId s.history

/-- The captures of an instance while nobody works on it. -/
structure Idle (id : Text) (s : TimerState) : Prop where
  named : ActiveNamed s.state id
  unstopped : ∀ c, Names s.state id c → ¬ Stopped c s.history

structure TimerInv (s : TimerState) : Prop where
  rows : RowsApart s.state
  known : ∀ id c, Names s.state id c → Known s₀ c s.history
  stopped : ∀ c, Stopped c s.history → Known s₀ c s.history
  idle : ∀ id, id ∉ s.state.locks → Idle id s
  apart : CapturesApart s

structure TimerRely (O : Set TimerToken) (s s' : TimerState) : Prop where
  row : ∀ id, .lock id ∈ O → s'.state.db.selectInstance id = s.state.db.selectInstance id
  active : ∀ id row w, .lock id ∈ O → RowIs id row s.state → row.workloadId = some w →
    ∀ c, (w, c) ∈ s'.state.agent.captures ↔ (w, c) ∈ s.state.agent.captures
  unstopped : ∀ id c, .lock id ∈ O → Names s.state id c → Stopped c s'.history → Stopped c s.history
  unnamed : ∀ c, .capture c ∈ O → (∀ id, ¬ Names s.state id c) →
    (∀ id, ¬ Names s'.state id c) ∧ (Stopped c s'.history → Stopped c s.history)
  held : Disjoint O {t | t.Free s₀ s} → Disjoint O {t | t.Free s₀ s'}

def timers : Discipline TimerState TimerToken Empty where
  inv := TimerInv s₀
  free s := {t | t.Free s₀ s}
  owed _ := ∅
  rely := TimerRely s₀
  rely_refl O s :=
    ⟨fun _ _ => rfl, fun _ _ _ _ _ _ _ => Iff.rfl, fun _ _ _ _ h => h, fun _ _ h => ⟨h, id⟩, id⟩
  rely_trans := by
    intro O s s' s'' h h'
    refine ⟨fun id hid => (h'.row id hid).trans (h.row id hid), ?_, ?_,
      ?_, fun hO => h'.held (h.held hO)⟩
    · intro id row w hid hrow hw c
      have hrow' : RowIs id row s'.state := (h.row id hid).trans hrow
      rw [h'.active id row w hid hrow' hw c, h.active id row w hid hrow hw c]
    · rintro id c hid ⟨row, hrow, hcapturing, hc⟩ hstopped
      have hrow' : RowIs id row s'.state := (h.row id hid).trans hrow
      exact h.unstopped id c hid ⟨row, hrow, hcapturing, hc⟩
        (h'.unstopped id c hid ⟨row, hrow', hcapturing, hc⟩ hstopped)
    · intro c hc hnone
      obtain ⟨hnone', hstopped⟩ := h.unnamed c hc hnone
      obtain ⟨hnone'', hstopped'⟩ := h'.unnamed c hc hnone'
      exact ⟨hnone'', fun hs => hstopped (hstopped' hs)⟩

theorem timers_guarded : (timers s₀).Guarded := fun _ _ _ hrely => hrely.held

theorem stopped_append {c : Text} {h : List TimerEntry} {e : TimerEntry} :
    Stopped c (h ++ [e]) ↔ Stopped c h ∨ stoppedCapture e.did = some c := by
  simp [Stopped, or_and_right, exists_or]

theorem known_append {s₀ : System} {c : Text} {h : List TimerEntry} {e : TimerEntry} :
    Known s₀ c (h ++ [e]) ↔ Known s₀ c h ∨ handedOut e.did = some c := by
  simp [Known, or_and_right, exists_or, or_assoc]

/-! ## What a step has to show -/

/-- A step of a call that holds `O`, and `O'` afterwards. -/
structure CaptureStep (O O' : Set TimerToken) (s : TimerState) (e : TimerEntry) : Prop where
  before : e.before = s.state
  own : OwnCapture e
  -- only the row of a locked instance changes, and no row changes its workload
  row : ∀ id, .lock id ∉ O → e.after.db.selectInstance id = s.state.db.selectInstance id
  workload : ∀ id row', RowIs id row' e.after → ∃ row, RowIs id row s.state ∧
    row.workloadId = row'.workloadId
  noFile : ∀ id row, RowIs id row e.after → row.pcapStatus = .capturing → row.pcapFilePath = none
  -- a capture is named by the call that has it from the Agent
  names : ∀ id c, Names e.after id c → Names s.state id c ∨
    (.capture c ∈ O ∧ (∀ j, ¬ Names s.state j c) ∧ ∀ j, Names e.after j c → j = id)
  -- the Agent starts and stops captures of locked instances
  active : ∀ id row w, .lock id ∉ O → RowIs id row s.state → row.workloadId = some w →
    ∀ c, (w, c) ∈ e.after.agent.captures ↔ (w, c) ∈ s.state.agent.captures
  single : ∀ w c c', (w, c) ∈ e.after.agent.captures → (w, c') ∈ e.after.agent.captures → c = c'
  stops : ∀ c, stoppedCapture e.did = some c →
    ∃ id, .lock id ∈ O ∧ Names s.state id c ∧ ¬ Stopped c s.history
  idle : ∀ id, .lock id ∈ O → id ∉ e.after.locks → Idle id (s.add e)
  locks : ∀ id, id ∉ e.after.locks → id ∉ s.state.locks ∨ .lock id ∈ O
  owns : O' ⊆ O ∪ {t | t.Free s₀ s}
  apart : Disjoint O' {t | t.Free s₀ (s.add e)}

theorem CaptureStep.idle_other {O O' : Set TimerToken} {s : TimerState} {e : TimerEntry}
    (h : CaptureStep s₀ O O' s e) (hinv : TimerInv s₀ s) {id : Text} (hid : .lock id ∉ O)
    (hlock : id ∉ e.after.locks) : Idle id (s.add e) := by
  have hidle := hinv.idle id ((h.locks id hlock).resolve_right hid)
  have hnames : ∀ c, Names e.after id c ↔ Names s.state id c := by
    intro c
    simp only [Names, RowIs, h.row id hid]
  refine ⟨?_, ?_⟩
  · intro row w c hrow hw hactive
    have hrow' : RowIs id row s.state := (h.row id hid).symm.trans hrow
    exact (hnames c).mpr (hidle.named row w c hrow' hw
      ((h.active id row w hid hrow' hw c).mp hactive))
  · intro c hc hstopped
    have hnames' := (hnames c).mp hc
    rcases stopped_append.mp hstopped with hold | hnew
    · exact hidle.unstopped c hnames' hold
    · obtain ⟨id', hid', hc', -⟩ := h.stops c hnew
      exact hid (hinv.rows.captures id id' c hnames' hc' ▸ hid')

theorem CaptureStep.inv {O O' : Set TimerToken} {s : TimerState} {e : TimerEntry}
    (h : CaptureStep s₀ O O' s e) (hinv : TimerInv s₀ s) (hO : Disjoint O {t | t.Free s₀ s}) :
    TimerInv s₀ (s.add e) := by
  refine ⟨⟨?_, ?_, h.noFile⟩, ?_, ?_, ?_, ⟨?_, h.single, ?_⟩⟩
  · intro id id' row row' w hrow hrow' hw hw'
    obtain ⟨r, hr, heq⟩ := h.workload id row hrow
    obtain ⟨r', hr', heq'⟩ := h.workload id' row' hrow'
    exact hinv.rows.workloads id id' r r' w hr hr' (heq.trans hw) (heq'.trans hw')
  · intro id id' c hc hc'
    rcases h.names id c hc with hold | ⟨-, -, honly⟩
    · rcases h.names id' c hc' with hold' | ⟨-, hnone, -⟩
      · exact hinv.rows.captures id id' c hold hold'
      · exact absurd hold (hnone id)
    · exact (honly id' hc').symm
  · intro id c hc
    refine known_append.mpr (.inl ?_)
    rcases h.names id c hc with hold | ⟨hmem, -, -⟩
    · exact hinv.known id c hold
    · by_contra hfree
      exact Set.disjoint_left.mp hO hmem hfree
  · intro c hc
    refine known_append.mpr (.inl ?_)
    rcases stopped_append.mp hc with hold | hnew
    · exact hinv.stopped c hold
    · obtain ⟨id, -, hnames, -⟩ := h.stops c hnew
      exact hinv.known id c hnames
  · intro id hlock
    by_cases hid : .lock id ∈ O
    · exact h.idle id hid hlock
    · exact h.idle_other s₀ hinv hid hlock
  · intro e' he'
    rcases List.mem_append.mp he' with he' | he'
    · exact hinv.apart.own e' he'
    · obtain rfl := List.mem_singleton.mp he'
      exact h.own
  · refine everyEntry_append.mpr ⟨hinv.apart.once, ?_⟩
    intro c hc
    obtain ⟨-, -, -, hnot⟩ := h.stops c hc
    exact hnot

theorem CaptureStep.free_subset {O O' : Set TimerToken} {s : TimerState} {e : TimerEntry}
    (h : CaptureStep s₀ O O' s e) : {t | t.Free s₀ (s.add e)} ⊆ {t | t.Free s₀ s} ∪ O := by
  rintro (id | c) hfree
  · exact h.locks id hfree
  · exact .inl fun hknown => hfree (known_append.mpr (.inl hknown))

theorem CaptureStep.rely {O O' P : Set TimerToken} {s : TimerState} {e : TimerEntry}
    (h : CaptureStep s₀ O O' s e) (hinv : TimerInv s₀ s) (hP : Disjoint O P) :
    TimerRely s₀ P s (s.add e) := by
  have hlock : ∀ {id}, .lock id ∈ P → .lock id ∉ O := fun hid hmem =>
    Set.disjoint_left.mp hP hmem hid
  refine ⟨fun id hid => h.row id (hlock hid), fun id row w hid =>
    h.active id row w (hlock hid), ?_, ?_, ?_⟩
  · intro id c hid hc hstopped
    rcases stopped_append.mp hstopped with hold | hnew
    · exact hold
    · obtain ⟨id', hid', hc', -⟩ := h.stops c hnew
      exact absurd (hinv.rows.captures id id' c hc hc' ▸ hid') (hlock hid)
  · intro c hmem hnone
    refine ⟨fun id hc => ?_, fun hstopped => ?_⟩
    · rcases h.names id c hc with hold | ⟨hc, -, -⟩
      · exact hnone id hold
      · exact Set.disjoint_left.mp hP hc hmem
    · rcases stopped_append.mp hstopped with hold | hnew
      · exact hold
      · obtain ⟨id, -, hc, -⟩ := h.stops c hnew
        exact absurd hc (hnone id)
  · intro hdisjoint
    exact Set.disjoint_of_subset_right h.free_subset
      (Set.disjoint_union_right.mpr ⟨hdisjoint, hP.symm⟩)

theorem CaptureStep.move {O O' : Set TimerToken} {s : TimerState} {e : TimerEntry}
    (h : CaptureStep s₀ O O' s e) (hinv : TimerInv s₀ s) (hO : Disjoint O {t | t.Free s₀ s}) :
    (timers s₀).Move O ∅ s (s.add e) O' ∅ :=
  ⟨h.inv s₀ hinv hO, fun _ hP _ => h.rely s₀ hinv hP, h.owns, h.apart, h.free_subset,
    Set.empty_subset _⟩

theorem Idle.of_same {s s' : TimerState} {id : Text} (h : Idle id s)
    (hdb : s'.state.db = s.state.db) (hactive : s'.state.agent.captures = s.state.agent.captures)
    (hstopped : ∀ c, Stopped c s'.history → Stopped c s.history) : Idle id s' := by
  obtain ⟨hnamed, hunstopped⟩ := h
  refine ⟨?_, ?_⟩
  · simpa only [ActiveNamed, Names, RowIs, hdb, hactive] using hnamed
  · intro c hc hs
    simp only [Names, RowIs, hdb] at hc
    exact hunstopped c hc (hstopped c hs)

theorem Idle.rely {s s' : TimerState} {id : Text} {O : Set TimerToken} (hid : .lock id ∈ O)
    (hrely : TimerRely s₀ O s s') (h : Idle id s) : Idle id s' := by
  have hnames : ∀ c, Names s'.state id c ↔ Names s.state id c := by
    intro c
    simp only [Names, RowIs, hrely.row id hid]
  refine ⟨?_, ?_⟩
  · intro row w c hrow hw hactive
    have hrow' : RowIs id row s.state := (hrely.row id hid).symm.trans hrow
    exact (hnames c).mpr (h.named row w c hrow' hw
      ((hrely.active id row w hid hrow' hw c).mp hactive))
  · intro c hc hs
    have hc' := (hnames c).mp hc
    exact h.unstopped c hc' (hrely.unstopped id c hid hc' hs)

/-! ## Steps that leave the captures alone -/

/-- The step changes no row and no capture. -/
structure Untouched (s : TimerState) (e : TimerEntry) : Prop where
  before : e.before = s.state
  db : e.after.db = s.state.db
  active : e.after.agent.captures = s.state.agent.captures
  stopped : stoppedCapture e.did = none
  own : ∀ c w c', e.kind = .autoStop c → e.did.1 = .stopPcap w c' → c' = c

theorem Untouched.unstopped {s : TimerState} {e : TimerEntry} (h : Untouched s e) (c : Text)
    (hs : Stopped c (s.add e).history) : Stopped c s.history := by
  rcases stopped_append.mp hs with hold | hnew
  · exact hold
  · exact absurd (h.stopped.symm.trans hnew) (by simp)

theorem Untouched.captureStep {O O' : Set TimerToken} {s : TimerState} {e : TimerEntry}
    (h : Untouched s e)
    (hinv : TimerInv s₀ s) (hidle : ∀ id, .lock id ∈ O → id ∉ e.after.locks → Idle id s)
    (hlocks : ∀ id, id ∉ e.after.locks → id ∉ s.state.locks ∨ .lock id ∈ O)
    (howns : O' ⊆ O ∪ {t | t.Free s₀ s}) (hapart : Disjoint O' {t | t.Free s₀ (s.add e)}) :
    CaptureStep s₀ O O' s e := by
  have hrows : ∀ id row, RowIs id row e.after ↔ RowIs id row s.state := by
    intro id row
    rw [RowIs, h.db, RowIs]
  refine ⟨h.before, ?_, fun _ _ => by rw [h.db], ?_, ?_, ?_, ?_, ?_, ?_, ?_, hlocks, howns, hapart⟩
  · intro c hkind
    refine ⟨fun w c' => h.own c w c' hkind, fun id row hrow _ => ?_⟩
    rw [h.before] at hrow
    exact (hrows id row).mpr hrow
  · exact fun id row hrow => ⟨row, (hrows id row).mp hrow, rfl⟩
  · exact fun id row hrow => hinv.rows.noFile id row ((hrows id row).mp hrow)
  · intro id c hc
    simp only [Names, hrows] at hc
    exact .inl hc
  · intro id row w _ _ _ c
    rw [h.active]
  · rw [h.active]
    exact hinv.apart.single
  · intro c hc
    exact absurd (h.stopped.symm.trans hc) (by simp)
  · exact fun id hid hlock => (hidle id hid hlock).of_same h.db h.active h.unstopped

end Discipline

section Calls

variable {s₀ : System} {json : JsonCodec} {agent : Prop} {n : ℕ} {l : TimerKind} {id : Text}
  {α β : Type}

/-- The effects of one call. The Agent may fail. -/
abbrev timerStep (s₀ : System) (json : JsonCodec) (agent : Prop) (n : ℕ) (l : TimerKind)
    (s : TimerState) (e : Eff) (r : e.Answer) (s' : TimerState) : Prop :=
  recordBy (act json ⟨False, agent, False⟩) (FreshCaptures s₀) n l s e r s'

/-- Effects that touch neither the database nor a lock nor a capture. -/
def Eff.Still : Eff → Prop
  | startPcap _ | stopPcap _ _ => False
  | e => e.Aside

theorem Eff.Silent.still {e : Eff} (he : e.Silent) : e.Still := by
  cases e with
  | getRule | selectInstances | selectInstance | selectEndpoints | platformVersion | listWorkloads
  | readFile | timestamp | hashOrder | sleep => trivial
  | _ => exact he.elim

theorem Eff.Still.aside {e : Eff} (he : e.Still) : e.Aside := by
  cases e with
  | startPcap | stopPcap => exact he.elim
  | _ => exact he

theorem act_still {f : Faults} {s t : System} {e : Eff} {r : e.Answer} (he : e.Still)
    (h : act json f s e r t) : t.agent.captures = s.agent.captures := by
  cases e with
  | startPcap | stopPcap | deleteRule | importRulePackage | insertInstanceIfPortAvailable
  | updateStatus | updatePcap | deleteInstance | nowV7 | lock | unlock => exact he.elim
  | startWorkload payload =>
    rcases h with ⟨response, -, rfl⟩ | ⟨rfl, -⟩ <;> rfl
  | stopWorkload | submitOperationEvent =>
    rcases h with ⟨-, rfl⟩ | ⟨rfl, -⟩ <;> rfl
  | writeFile name content =>
    rcases h with ⟨-, rfl⟩ | ⟨-, rfl | ⟨written, -, rfl⟩⟩ <;> rfl
  | removeFile name =>
    rcases h with ⟨-, -, rfl⟩ | ⟨-, -, rfl⟩ | ⟨rfl, -⟩ <;> rfl
  | spawnAutoStop | timestamp | sleep =>
    obtain rfl := h
    rfl
  | getRule | selectInstances | selectInstance | selectEndpoints | platformVersion | listWorkloads
  | createPcapDir | readFile | hashOrder =>
    obtain ⟨rfl, -⟩ := h
    rfl

theorem Eff.Still.untouched {s : TimerState} {t : System} {f : Faults} {e : Eff} {r : e.Answer}
    (he : e.Still) (h : act json f s.state e r t) :
    Untouched s ⟨n, l, s.state, ⟨e, r⟩, t⟩ := by
  refine ⟨rfl, (act_aside he.aside h).1, act_still he h, ?_, ?_⟩
  · cases e with
    | stopPcap => exact he.elim
    | _ => rfl
  · rintro c w c' - rfl
    exact he.elim

theorem Eff.Still.handedOut {e : Eff} {r : e.Answer} (he : e.Still) : handedOut ⟨e, r⟩ = none := by
  cases e with
  | startPcap => exact he.elim
  | _ => rfl

/-- A step that leaves the locks alone too changes nothing that others rely on. -/
theorem Untouched.steady {s : TimerState} {e : TimerEntry} {O : Set TimerToken} (h : Untouched s e)
    (hlocks : e.after.locks = s.state.locks) (hhanded : handedOut e.did = none)
    (hinv : TimerInv s₀ s) (hO : Disjoint O {t | t.Free s₀ s}) :
    (timers s₀).Move O ∅ s (s.add e) O ∅ ∧ ∀ P, TimerRely s₀ P s (s.add e) := by
  have hfree : {t : TimerToken | t.Free s₀ (s.add e)} = {t | t.Free s₀ s} := by
    ext token
    cases token with
    | lock id =>
      show id ∉ e.after.locks ↔ id ∉ s.state.locks
      rw [hlocks]
    | capture c =>
      show ¬ Known s₀ c (s.history ++ [e]) ↔ ¬ Known s₀ c s.history
      rw [known_append, hhanded]
      simp
  have hlocked : ∀ {P : Set TimerToken}, Disjoint P {t | t.Free s₀ s} → ∀ id, .lock id ∈ P →
      id ∈ s.state.locks := by
    intro P hP id hid
    by_contra hnot
    exact Set.disjoint_left.mp hP hid hnot
  have hstep : ∀ {P : Set TimerToken}, Disjoint P {t | t.Free s₀ s} → CaptureStep s₀ P P s e := by
    intro P hP
    refine h.captureStep s₀ hinv ?_ (fun id hid => .inl (hlocks ▸ hid)) Set.subset_union_left
      (hfree ▸ hP)
    intro id hid hnot
    exact absurd (hlocked hP id hid) (hlocks ▸ hnot)
  refine ⟨(hstep hO).move s₀ hinv hO, fun P => ?_⟩
  have hempty := (hstep (Set.empty_disjoint _)).rely s₀ hinv (Set.empty_disjoint P)
  exact ⟨hempty.row, hempty.active, hempty.unstopped, hempty.unnamed, hempty.held⟩

theorem timers_still {s s' : TimerState} {e : Eff} {r : e.Answer}
    {O : Set TimerToken} (he : e.Still) (hinv : TimerInv s₀ s) (hO : Disjoint O {t | t.Free s₀ s})
    (h : timerStep s₀ json agent n l s e r s') :
    (timers s₀).Move O ∅ s s' O ∅ ∧ ∀ P, TimerRely s₀ P s s' := by
  obtain ⟨t, hact, -, rfl⟩ := h
  exact Untouched.steady (he.untouched hact) (act_aside he.aside hact).2 he.handedOut hinv hO

/-- Still effects in a program of a call. -/
theorem timers_of_uses {p : Handler α} {O : Set TimerToken} {K : TimerState → Prop}
    (hK : ∀ s s', TimerRely s₀ O s s' → K s → K s') (hp : p.Uses Eff.Still) :
    (timers s₀).Hoare (timerStep s₀ json agent n l) O K p fun _ O' s => O' = O ∧ K s := by
  refine .of_uses (timers_guarded s₀) hK ?_ hp
  intro e he s r s' hs hO hinv hstep
  obtain ⟨hmove, hrely⟩ := timers_still he hinv hO hstep
  exact ⟨hmove, hK s s' (hrely O) hs⟩

/-! ## Under the lock -/

theorem timers_lock :
    (timers s₀).Hoare (timerStep s₀ json agent n l) ∅ (fun _ => True)
    (await (.lock id)) fun _ O s =>
      O = {.lock id} ∧ Idle id s := by
  refine .call (timers_guarded s₀) (fun _ _ _ _ => trivial) ?_ fun _ _ => .ret fun _ h => h
  rintro s r s' - hO hinv ⟨t, ⟨hnot, rfl⟩, -, rfl⟩
  have hstill : Untouched s ⟨n, l, s.state, ⟨.lock id, r⟩,
      { s.state with locks := insert id s.state.locks }⟩ :=
    ⟨rfl, rfl, rfl, rfl, fun c w c' _ h => absurd h (by simp)⟩
  refine ⟨{.lock id}, (hstill.captureStep s₀ hinv ?_ ?_ ?_ ?_).move s₀ hinv hO, rfl,
    (hinv.idle id hnot).of_same rfl rfl hstill.unstopped⟩
  · exact fun j hj => absurd hj (Set.notMem_empty _)
  · exact fun j hj => .inl fun hmem => hj (Set.mem_insert_of_mem _ hmem)
  · exact Set.singleton_subset_iff.mpr (.inr hnot)
  · rw [Set.disjoint_singleton_left]
    exact fun hfree => hfree (Set.mem_insert _ _)

/-- The captures of the instance are as they have to be when the lock is given back. -/
def Leaves (id : Text) (_ : α) (O : Set TimerToken) (s : TimerState) : Prop :=
  .lock id ∈ O ∧ Idle id s

theorem timers_unlock {O : Set TimerToken} :
    (timers s₀).Hoare (timerStep s₀ json agent n l) O (Leaves id () O) (await (.unlock id))
      fun _ O' _ => O' = ∅ := by
  refine .call (timers_guarded s₀) (A := fun _ O' _ => O' = ∅)
    (fun s s' hrely h => ⟨h.1, h.2.rely s₀ h.1 hrely⟩) ?_ fun _ _ => .ret fun _ h => h
  rintro s r s' ⟨hid, hidle⟩ hO hinv ⟨t, rfl, -, rfl⟩
  have hstill : Untouched s ⟨n, l, s.state, ⟨.unlock id, r⟩,
      { s.state with locks := s.state.locks \ {id} }⟩ :=
    ⟨rfl, rfl, rfl, rfl, fun c w c' _ h => absurd h (by simp)⟩
  refine ⟨∅, (hstill.captureStep s₀ hinv ?_ ?_ (Set.empty_subset _) (Set.empty_disjoint _)).move s₀
    hinv hO, rfl⟩
  · intro j hj hnot
    by_cases heq : j = id
    · exact heq ▸ hidle
    · by_contra
      refine Set.disjoint_left.mp hO hj ?_
      exact fun hmem => hnot ⟨hmem, heq⟩
  · intro j hj
    by_cases heq : j = id
    · exact .inr (heq ▸ hid)
    · exact .inl fun hmem => hj ⟨hmem, heq⟩

theorem timers_locked {body : Handler α} (hbody : (timers s₀).Hoare (timerStep s₀ json agent n l)
    {.lock id} (Idle id) body (Leaves id)) :
    Harmless (timers s₀) (timerStep s₀ json agent n l) (withLock id body) := by
  refine Discipline.Hoare.triple (timers_lock.seq fun _ => ?_)
  refine Discipline.Hoare.bind hbody fun a O => ?_
  refine Discipline.Hoare.bind timers_unlock fun _ O => ?_
  exact .ret fun _ hO => ⟨hO, trivial⟩

/-- The instance as a call finds it under the lock. -/
def Found (id : Text) (row : InstanceRow) (s : TimerState) : Prop :=
  RowIs id row s.state ∧ Idle id s

theorem Found.rely {s s' : TimerState} {row : InstanceRow} {O : Set TimerToken} (hid : .lock id ∈ O)
    (hrely : TimerRely s₀ O s s') (h : Found id row s) : Found id row s' :=
  ⟨(hrely.row id hid).trans h.1, h.2.rely s₀ hid hrely⟩

theorem timers_getInstance {k : Except Error (Option Instance) → Handler α}
    {Q : α → Set TimerToken → TimerState → Prop}
    (herror : ∀ e, (timers s₀).Hoare (timerStep s₀ json agent n l) {.lock id} (Idle id)
      (k (.error e)) Q)
    (hnone : (timers s₀).Hoare (timerStep s₀ json agent n l) {.lock id} (Idle id) (k (.ok none)) Q)
    (hsome : ∀ inst : Instance, (inst.row.pcapStatus = .capturing → inst.row.pcapFilePath = none) →
      (timers s₀).Hoare (timerStep s₀ json agent n l) {.lock id} (Found id inst.row)
        (k (.ok (some inst))) Q) :
    (timers s₀).Hoare (timerStep s₀ json agent n l) {.lock id} (Idle id)
    (getInstance id >>= k) Q := by
  rw [getInstance, await_bind, call_bind]
  refine .call (timers_guarded s₀) (A := fun r O s => O = {.lock id} ∧ Idle id s ∧
    ∀ row, r = .ok (some row) → Found id row s ∧
      (row.pcapStatus = .capturing → row.pcapFilePath = none))
        (fun s s' hrely h => h.rely s₀ (Set.mem_singleton _) hrely) ?_ ?_
  · intro s r s' hidle hO hinv hstep
    obtain ⟨hmove, hrely⟩ := timers_still (e := .selectInstance id) trivial hinv hO hstep
    have hidle' := hidle.rely s₀ (Set.mem_singleton _) (hrely {.lock id})
    refine ⟨_, hmove, rfl, hidle', ?_⟩
    obtain ⟨t, ⟨rfl, hr⟩, -, rfl⟩ := hstep
    rintro row rfl
    rcases hr with heq | ⟨hfails, -⟩
    · have hrow : RowIs id row s.state := (Except.ok.inj heq).symm
      exact ⟨⟨hrow, hidle'⟩, hinv.rows.noFile id row hrow⟩
    · exact hfails.elim
  rintro (e | _ | row) O s ⟨rfl, hidle, hfound⟩
  · exact herror e s hidle
  · exact hnone s hidle
  have hendpoints : (timers s₀).Hoare (timerStep s₀ json agent n l) {.lock id} (Found id row)
      (await (.selectEndpoints row.id)) fun _ O s => O = {.lock id} ∧ Found id row s :=
    timers_of_uses (fun s s' hrely h => h.rely (Set.mem_singleton _) hrely)
      ⟨trivial, fun _ => trivial⟩
  obtain ⟨hfound, hnoFile⟩ := hfound row rfl
  refine hendpoints.seq ?_ s hfound
  rintro (e | endpoints)
  · exact (herror e).weaken (fun _ h => h.2) fun _ _ _ h => h
  · exact hsome ⟨row, endpoints⟩ hnoFile

/-! ## Starting and stopping captures -/

theorem mem_locks {s : TimerState} {O : Set TimerToken} (hO : Disjoint O {t | t.Free s₀ s})
    (hid : .lock id ∈ O) : id ∈ s.state.locks := by
  by_contra hnot
  exact Set.disjoint_left.mp hO hid hnot

theorem apart_add {s : TimerState} {e : TimerEntry} {O : Set TimerToken}
    (hO : Disjoint O {t | t.Free s₀ s}) (hlocks : ∀ id, .lock id ∈ O → id ∈ e.after.locks) :
    Disjoint O {t | t.Free s₀ (s.add e)} := by
  rw [Set.disjoint_left]
  rintro (id | c) hmem hfree
  · exact hfree (hlocks id hmem)
  · exact Set.disjoint_left.mp hO hmem fun hknown => hfree (known_append.mpr (.inl hknown))

/-- The Agent has no capture of the instance active any more. -/
def Ended (id : Text) (row : InstanceRow) (s : TimerState) : Prop :=
  RowIs id row s.state ∧ ∀ w c, row.workloadId = some w → (w, c) ∉ s.state.agent.captures

theorem Ended.rely {s s' : TimerState} {row : InstanceRow} {O : Set TimerToken} (hid : .lock id ∈ O)
    (hrely : TimerRely s₀ O s s') (h : Ended id row s) : Ended id row s' := by
  refine ⟨(hrely.row id hid).trans h.1, ?_⟩
  intro w c hw hactive
  exact h.2 w c hw ((hrely.active id row w hid h.1 hw c).mp hactive)

/-- Without active captures the row may stay as it is if it names none. -/
theorem Ended.idle {s : TimerState} {row : InstanceRow} (h : Ended id row s)
    (hrow : row.pcapStatus ≠ .capturing) : Idle id s := by
  refine ⟨?_, ?_⟩
  · intro row' w c hrow' hw hactive
    obtain rfl := Option.some.inj (h.1.symm.trans hrow')
    exact absurd hactive (h.2 w c hw)
  · rintro c ⟨row', hrow', hcapturing, -⟩
    obtain rfl := Option.some.inj (h.1.symm.trans hrow')
    exact absurd hcapturing hrow

/-- What is known once the Agent has been asked to stop the capture of the instance. -/
def AfterStop (id : Text) (row : InstanceRow) (r : Except Error α) (s : TimerState) : Prop :=
  match r with
  | .ok _ => Ended id row s
  | .error _ => Idle id s

theorem timers_stopPcap {row : InstanceRow} {w c : Text} (hcapturing : row.pcapStatus = .capturing)
    (hw : row.workloadId = some w) (hc : row.pcapCaptureId = some c)
    (hown : ∀ c', l = .autoStop c' → c = c') :
    (timers s₀).Hoare (timerStep s₀ json agent n l) {.lock id} (Found id row)
    (await (.stopPcap w c)) fun r O s => O = {.lock id} ∧ AfterStop id row r s := by
  refine .call (timers_guarded s₀) (fun s s' hrely h => h.rely (Set.mem_singleton _) hrely) ?_
    fun _ _ => .ret fun _ h => h
  rintro s r s' ⟨hrow, hidle⟩ hO hinv ⟨t, ⟨content, rfl, rfl⟩ | ⟨rfl, -, error, rfl⟩, -, rfl⟩
  · have hnames : Names s.state id c := ⟨row, hrow, hcapturing, hc⟩
    refine ⟨{.lock id}, CaptureStep.move s₀
      (e := ⟨n, l, s.state, ⟨.stopPcap w c, .ok content⟩, { s.state with
      agent := { s.state.agent with captures := s.state.agent.captures \ {(w, c)} } }⟩)
      ?_ hinv hO, rfl, hrow, ?_⟩
    · refine ⟨rfl, ?_, fun _ _ => rfl, fun j row' h => ⟨row', h, rfl⟩, hinv.rows.noFile,
        fun j c' h => .inl h, ?_, ?_, ?_, ?_, fun j h => .inl h, Set.subset_union_left,
        apart_add hO fun j hj => mem_locks hO hj⟩
      · intro c' hkind
        refine ⟨?_, fun j row' h _ => h⟩
        rintro w' other heq
        obtain ⟨-, rfl⟩ := Eff.stopPcap.inj heq
        exact hown c' hkind
      · intro j row' w' hj hrow' hw' c'
        refine and_iff_left ?_
        rintro heq
        obtain ⟨rfl, -⟩ := Prod.ext_iff.mp heq
        exact hj (by rw [hinv.rows.workloads j id row' row w' hrow' hrow hw' hw]; rfl)
      · exact fun w' c₁ c₂ h₁ h₂ => hinv.apart.single w' c₁ c₂ h₁.1 h₂.1
      · intro c' hstopped
        obtain rfl := Option.some.inj hstopped
        exact ⟨id, rfl, hnames, hidle.unstopped c hnames⟩
      · intro j hj hnot
        exact absurd (mem_locks hO hj) hnot
    · rintro w' c' hw' ⟨hactive, hnot⟩
      obtain rfl := Option.some.inj (hw.symm.trans hw')
      obtain ⟨row', hrow', -, hc'⟩ := hidle.named row w c' hrow hw hactive
      obtain rfl := Option.some.inj (hrow.symm.trans hrow')
      obtain rfl := Option.some.inj (hc.symm.trans hc')
      exact hnot rfl
  · have hstill : Untouched s ⟨n, l, s.state, ⟨.stopPcap w c, .error error⟩, s.state⟩ := by
      refine ⟨rfl, rfl, rfl, rfl, ?_⟩
      rintro c' w' other hkind heq
      obtain ⟨-, rfl⟩ := Eff.stopPcap.inj heq
      exact hown c' hkind
    obtain ⟨hmove, hrely⟩ := Untouched.steady hstill rfl rfl hinv hO
    exact ⟨_, hmove, rfl, hidle.rely s₀ (Set.mem_singleton _) (hrely {.lock id})⟩

/-- The Agent has started a capture for the instance that no row names yet. -/
structure Begun (id : Text) (row : InstanceRow) (w c : Text) (s : TimerState) : Prop where
  rowIs : RowIs id row s.state
  workload : row.workloadId = some w
  active : ∀ c', (w, c') ∈ s.state.agent.captures → c' = c
  unnamed : ∀ j, ¬ Names s.state j c
  unstopped : ¬ Stopped c s.history

theorem Begun.rely {s s' : TimerState} {row : InstanceRow} {w c : Text} {O : Set TimerToken}
    (hid : .lock id ∈ O) (hc : .capture c ∈ O) (hrely : TimerRely s₀ O s s')
    (h : Begun id row w c s) : Begun id row w c s' := by
  obtain ⟨hunnamed, hstopped⟩ := hrely.unnamed c hc h.unnamed
  refine ⟨(hrely.row id hid).trans h.rowIs, h.workload, ?_, hunnamed, mt hstopped h.unstopped⟩
  intro c' hactive
  exact h.active c' ((hrely.active id row w hid h.rowIs h.workload c').mp hactive)

theorem timers_startPcap {row : InstanceRow} {w : Text} (hcapturing : row.pcapStatus ≠ .capturing)
    (hw : row.workloadId = some w) :
    (timers s₀).Hoare (timerStep s₀ json agent n l) {.lock id} (Found id row) (await (.startPcap w))
      fun r O s => (∀ c, r = .ok c → O = {.lock id, .capture c} ∧ Begun id row w c s) ∧
        ((∃ e, r = .error e) → O = {.lock id} ∧ Idle id s) := by
  refine .call (timers_guarded s₀) (fun s s' hrely h => h.rely (Set.mem_singleton _) hrely) ?_
    fun _ _ => .ret fun _ h => h
  rintro s r s' ⟨hrow, hidle⟩ hO hinv ⟨t, ⟨c, rfl, -, rfl⟩ | ⟨rfl, -, error, rfl⟩, hfresh, rfl⟩
  · have hnew : ¬ Known s₀ c s.history := hfresh c rfl
    have hnone : ∀ c', (w, c') ∉ s.state.agent.captures := by
      intro c' hactive
      obtain ⟨row', hrow', hcapturing', -⟩ := hidle.named row w c' hrow hw hactive
      obtain rfl := Option.some.inj (hrow.symm.trans hrow')
      exact hcapturing hcapturing'
    have hunstopped : ¬ Stopped c s.history := mt (hinv.stopped c) hnew
    refine ⟨{.lock id, .capture c}, CaptureStep.move s₀ (e := ⟨n, l, s.state, ⟨.startPcap w, .ok c⟩,
      { s.state with
        agent := { s.state.agent with captures := insert (w, c) s.state.agent.captures } }⟩)
      ?_ hinv hO, ?_, fun ⟨_, h⟩ => absurd h (by simp)⟩
    · refine ⟨rfl, fun c' _ => ⟨fun w' other h => absurd h (by simp), fun j row' h _ => h⟩,
        fun _ _ => rfl, fun j row' h => ⟨row', h, rfl⟩, hinv.rows.noFile,
        fun j c' h => .inl h, ?_, ?_, fun c' h => absurd h (by simp [stoppedCapture]), ?_,
        fun j h => .inl h, ?_, ?_⟩
      · intro j row' w' hj hrow' hw' c'
        refine or_iff_right ?_
        rintro heq
        obtain ⟨rfl, -⟩ := Prod.ext_iff.mp heq
        exact hj (by rw [hinv.rows.workloads j id row' row w' hrow' hrow hw' hw]; rfl)
      · rintro w' c₁ c₂ (h₁ | h₁) (h₂ | h₂)
        · exact (congrArg Prod.snd h₁).trans (congrArg Prod.snd h₂).symm
        · obtain ⟨rfl, -⟩ := Prod.ext_iff.mp h₁
          exact absurd h₂ (hnone c₂)
        · obtain ⟨rfl, -⟩ := Prod.ext_iff.mp h₂
          exact absurd h₁ (hnone c₁)
        · exact hinv.apart.single w' c₁ c₂ h₁ h₂
      · intro j hj hnot
        exact absurd (mem_locks hO hj) hnot
      · rintro token (rfl | rfl)
        · exact .inl rfl
        · exact .inr hnew
      · rw [Set.disjoint_left]
        rintro token (rfl | rfl) hfree
        · exact Set.disjoint_left.mp hO rfl hfree
        · exact hfree (known_append.mpr (.inr rfl))
    · rintro c' heq
      obtain rfl := Except.ok.inj heq
      refine ⟨rfl, hrow, hw, ?_, fun j hj => hnew (hinv.known j c hj), ?_⟩
      · rintro c' (heq | hactive)
        · exact congrArg Prod.snd heq
        · exact absurd hactive (hnone c')
      · intro hstopped
        rcases stopped_append.mp hstopped with hold | hnew
        · exact hunstopped hold
        · exact absurd hnew (by simp [stoppedCapture])
  · have hstill : Untouched s ⟨n, l, s.state, ⟨.startPcap w, .error error⟩, s.state⟩ :=
      ⟨rfl, rfl, rfl, rfl, fun c w c' _ h => absurd h (by simp)⟩
    obtain ⟨hmove, hrely⟩ := Untouched.steady hstill rfl rfl hinv hO
    exact ⟨_, hmove, fun _ h => absurd h (by simp),
      fun _ => ⟨rfl, hidle.rely s₀ (Set.mem_singleton _) (hrely {.lock id})⟩⟩

/-! ## Writing a row -/

/-- The row of a locked instance is rewritten or removed. A new name is one that the call has from
the Agent. -/
theorem rowChange_step {s : TimerState} {e : TimerEntry} {O : Set TimerToken} {row : InstanceRow}
    (hinv : TimerInv s₀ s) (hO : Disjoint O {t | t.Free s₀ s}) (hid : .lock id ∈ O)
    (hrow : RowIs id row s.state) (hbefore : e.before = s.state)
    (hlocks : e.after.locks = s.state.locks)
    (hactive : e.after.agent.captures = s.state.agent.captures)
    (hstopped : stoppedCapture e.did = none) (hquiet : ∀ w c, e.did.1 ≠ .stopPcap w c)
    (hown : ∀ c, e.kind = .autoStop c → row.pcapCaptureId = some c)
    (hother : ∀ j, j ≠ id → e.after.db.selectInstance j = s.state.db.selectInstance j)
    (hchanged : ∀ row', RowIs id row' e.after → row'.workloadId = row.workloadId ∧
      (row'.pcapStatus = .capturing → row'.pcapFilePath = none ∧ ∀ c, row'.pcapCaptureId = some c →
        Names s.state id c ∨ (.capture c ∈ O ∧ ∀ j, ¬ Names s.state j c))) :
    CaptureStep s₀ O O s e := by
  have hsame : ∀ j row', j ≠ id → (RowIs j row' e.after ↔ RowIs j row' s.state) := by
    intro j row' hj
    rw [RowIs, hother j hj, RowIs]
  refine ⟨hbefore, ?_, ?_, ?_, ?_, ?_, fun _ _ _ _ _ _ _ => by rw [hactive], ?_, ?_, ?_, ?_,
    Set.subset_union_left, apart_add hO ?_⟩
  · intro c hkind
    refine ⟨fun w other heq => absurd heq (hquiet w other), fun j row' hrow' hne => ?_⟩
    rw [hbefore] at hrow'
    have hj : j ≠ id := by
      rintro rfl
      obtain rfl := Option.some.inj (hrow.symm.trans hrow')
      exact hne (hown c hkind)
    exact (hsame j row' hj).mpr hrow'
  · intro j hj
    refine hother j ?_
    rintro rfl
    exact hj hid
  · intro j row' hrow'
    by_cases hj : j = id
    · subst hj
      exact ⟨row, hrow, (hchanged row' hrow').1.symm⟩
    · exact ⟨row', (hsame j row' hj).mp hrow', rfl⟩
  · intro j row' hrow' hcapturing
    by_cases hj : j = id
    · subst hj
      exact ((hchanged row' hrow').2 hcapturing).1
    · exact hinv.rows.noFile j row' ((hsame j row' hj).mp hrow') hcapturing
  · rintro j c ⟨row', hrow', hcapturing, hc⟩
    by_cases hj : j = id
    · subst hj
      refine (((hchanged row' hrow').2 hcapturing).2 c hc).imp_right fun hnew =>
        ⟨hnew.1, hnew.2, ?_⟩
      rintro i ⟨row'', hrow'', hnames⟩
      by_contra hi
      exact hnew.2 i ⟨row'', (hsame i row'' hi).mp hrow'', hnames⟩
    · exact .inl ⟨row', (hsame j row' hj).mp hrow', hcapturing, hc⟩
  · rw [hactive]
    exact hinv.apart.single
  · exact fun c h => absurd (hstopped.symm.trans h) (by simp)
  · intro j hj hnot
    exact absurd (mem_locks hO hj) (hlocks ▸ hnot)
  · exact fun j hj => .inl (hlocks ▸ hj)
  · intro j hj
    rw [hlocks]
    exact mem_locks hO hj

/-- The row as `update_pcap_state` leaves it. -/
theorem rowIs_updatePcap {s : System} {status : PcapStatus} {startTime : Option ℤ}
    {captureId filePath : Option Text} {row row' : InstanceRow} (hrow : RowIs id row s)
    (h : RowIs id row' { s with db := s.db.updatePcap id status startTime captureId filePath }) :
    row' = { row with
      pcapStatus := status
      pcapStartTime := startTime
      pcapCaptureId := captureId
      pcapFilePath := filePath } := by
  rw [RowIs, Database.selectInstance_updatePcap, show s.db.selectInstance id = _ from hrow] at h
  rw [← Option.some.inj h]
  exact if_pos rfl

/-- The end of the capture is written. -/
theorem timers_endPcap {row : InstanceRow} {status : PcapStatus} {startTime : Option ℤ}
    {captureId filePath : Option Text} (hstatus : status ≠ .capturing)
    (hown : ∀ c, l = .autoStop c → row.pcapCaptureId = some c) :
    (timers s₀).Hoare (timerStep s₀ json agent n l) {.lock id} (Ended id row)
      (await (.updatePcap id status startTime captureId filePath)) fun _ O s =>
        O = {.lock id} ∧ Idle id s := by
  refine .call (timers_guarded s₀) (fun s s' hrely h => h.rely (Set.mem_singleton _) hrely) ?_
    fun _ _ => .ret fun _ h => h
  rintro s r s' hended hO hinv ⟨t, ⟨rfl, rfl⟩ | ⟨-, hfails, -⟩, -, rfl⟩
  · have hchanged : ∀ row', RowIs id row' { s.state with
        db := s.state.db.updatePcap id status startTime captureId filePath } →
        row'.workloadId = row.workloadId ∧ row'.pcapStatus ≠ .capturing := by
      intro row' hrow'
      rw [rowIs_updatePcap hended.1 hrow']
      exact ⟨rfl, hstatus⟩
    refine ⟨_, (rowChange_step
      (e := ⟨n, l, s.state, ⟨.updatePcap id status startTime captureId filePath, .ok ()⟩,
        { s.state with db := s.state.db.updatePcap id status startTime captureId filePath }⟩)
      hinv hO rfl hended.1 rfl rfl rfl rfl (fun _ _ => by simp) hown ?_ ?_).move s₀ hinv hO,
      rfl, ?_, ?_⟩
    · intro j hj
      rw [Database.selectInstance_updatePcap, funext fun _ => if_neg hj, Option.map_id']
    · exact fun row' hrow' => ⟨(hchanged row' hrow').1, fun h => absurd h (hchanged row' hrow').2⟩
    · intro row' w c hrow' hw hactive
      exact absurd hactive (hended.2 w c ((hchanged row' hrow').1.symm.trans hw))
    · rintro c ⟨row', hrow', hcapturing, -⟩
      exact absurd hcapturing (hchanged row' hrow').2
  · exact hfails.elim

/-- The beginning of the capture is written. -/
theorem timers_beginPcap {row : InstanceRow} {w c : Text} {startTime : Option ℤ}
    (hl : ∀ c, l ≠ .autoStop c) :
    (timers s₀).Hoare (timerStep s₀ json agent n l) {.lock id, .capture c} (Begun id row w c)
      (await (.updatePcap id .capturing startTime (some c) none)) fun _ O s =>
        O = {.lock id, .capture c} ∧ Idle id s := by
  refine .call (timers_guarded s₀) (fun s s' hrely h => h.rely (.inl rfl) (.inr rfl) hrely) ?_
    fun _ _ => .ret fun _ h => h
  rintro s r s' hbegun hO hinv ⟨t, ⟨rfl, rfl⟩ | ⟨-, hfails, -⟩, -, rfl⟩
  · have hchanged : ∀ row', RowIs id row' { s.state with
        db := s.state.db.updatePcap id .capturing startTime (some c) none } →
        row' = { row with
          pcapStatus := .capturing
          pcapStartTime := startTime
          pcapCaptureId := some c
          pcapFilePath := none } := fun row' => rowIs_updatePcap hbegun.rowIs
    refine ⟨_, (rowChange_step
      (e := ⟨n, l, s.state, ⟨.updatePcap id .capturing startTime (some c) none,
      .ok ()⟩, { s.state with
        db := s.state.db.updatePcap id .capturing startTime (some c) none }⟩) hinv hO (.inl rfl)
      hbegun.rowIs rfl rfl rfl rfl (fun _ _ => by simp) (fun c h => absurd h (hl c)) ?_ ?_).move s₀
      hinv hO, rfl, ?_, ?_⟩
    · intro j hj
      rw [Database.selectInstance_updatePcap, funext fun _ => if_neg hj, Option.map_id']
    · intro row' hrow'
      rw [hchanged row' hrow']
      refine ⟨rfl, fun _ => ⟨rfl, fun c' hc' => .inr ?_⟩⟩
      obtain rfl := Option.some.inj hc'
      exact ⟨.inr rfl, hbegun.unnamed⟩
    · intro row' w' c' hrow' hw' hactive
      rw [hchanged row' hrow'] at hw'
      obtain rfl := Option.some.inj (hbegun.workload.symm.trans hw')
      obtain rfl := hbegun.active c' hactive
      refine ⟨row', hrow', ?_⟩
      rw [hchanged row' hrow']
      exact ⟨rfl, rfl⟩
    · rintro c' ⟨row', hrow', -, hc'⟩ hstopped
      rw [hchanged row' hrow'] at hc'
      obtain rfl := Option.some.inj hc'
      rcases stopped_append.mp hstopped with hold | hnew
      · exact hbegun.unstopped hold
      · exact absurd hnew (by simp [stoppedCapture])
  · exact hfails.elim

/-! ## The bodies under the lock -/

theorem timers_await {e : Eff} (he : e.Still) {A : e.Answer → Prop}
    (hA : ∀ s r t, act json ⟨False, agent, False⟩ s e r t → A r) {O : Set TimerToken}
    {K : TimerState → Prop} (hK : ∀ s s', TimerRely s₀ O s s' → K s → K s') :
    (timers s₀).Hoare (timerStep s₀ json agent n l) O K (await e) fun r O' s =>
      O' = O ∧ K s ∧ A r := by
  refine .call (timers_guarded s₀) hK ?_ fun _ _ => .ret fun _ h => h
  intro s r s' hs hO hinv hstep
  obtain ⟨hmove, hrely⟩ := timers_still he hinv hO hstep
  obtain ⟨t, hact, -, -⟩ := hstep
  exact ⟨O, hmove, rfl, hK s s' (hrely O) hs, hA _ _ _ hact⟩

/-- What is left to do does not touch the captures. -/
theorem timers_leave {p : Handler α} {O : Set TimerToken} (hid : .lock id ∈ O)
    (hp : p.Uses Eff.Still) :
    (timers s₀).Hoare (timerStep s₀ json agent n l) O (Idle id) p (Leaves id) := by
  have hidle : ∀ s s' : TimerState, TimerRely s₀ O s s' → Idle id s → Idle id s' :=
    fun s s' hrely h => h.rely s₀ hid hrely
  refine (timers_of_uses hidle hp).weaken (fun _ h => h) ?_
  rintro a O' s ⟨rfl, hs⟩
  exact ⟨hid, hs⟩

/-- Once the Agent has no capture of the instance active, its row is written. -/
theorem timers_ended {inst : Instance} {status : PcapStatus} {startTime : Option ℤ}
    {captureId filePath : Option Text} (hstatus : status ≠ .capturing)
    (hown : ∀ c, l = .autoStop c → inst.row.pcapCaptureId = some c)
    {k : Except Error (Option Instance) → Handler α}
    (hk : ∀ r, (k r).Uses Eff.Still) :
    (timers s₀).Hoare (timerStep s₀ json agent n l) {.lock id} (Ended id inst.row)
      (updatePcapState id status startTime captureId filePath >>= k) (Leaves id) := by
  have hidle : ∀ s s' : TimerState, TimerRely s₀ {.lock id} s s' → Idle id s → Idle id s' :=
    fun s s' hrely h => h.rely s₀ (Set.mem_singleton _) hrely
  have hwritten : (timers s₀).Hoare (timerStep s₀ json agent n l) {.lock id} (Ended id inst.row)
      (updatePcapState id status startTime captureId filePath) fun _ O s =>
        O = {.lock id} ∧ Idle id s := by
    unfold updatePcapState
    refine (timers_endPcap hstatus hown).seq fun r => timers_of_uses hidle ?_
    cases r with
    | error e => trivial
    | ok _ => exact uses_getInstance_silent (fun e he => he.still) id
  exact hwritten.seq fun r => timers_leave (Set.mem_singleton _) (hk r)

theorem timers_storeCapture {inst : Instance} (pcapBytes : Bytes)
    (hown : ∀ c, l = .autoStop c → inst.row.pcapCaptureId = some c) :
    (timers s₀).Hoare (timerStep s₀ json agent n l) {.lock id} (Ended id inst.row)
      (storeCapture id inst pcapBytes) (Leaves id) := by
  have hended : ∀ s s' : TimerState, TimerRely s₀ {.lock id} s s' → Ended id inst.row s →
      Ended id inst.row s' := fun s s' hrely h => h.rely (Set.mem_singleton _) hrely
  unfold storeCapture
  split
  · refine timers_ended (by decide) hown ?_
    rintro (e | updated) <;> trivial
  refine (timers_await (e := .createPcapDir) (A := (· = .ok ())) trivial ?_ hended).seq ?_
  · rintro s r t ⟨-, hr | ⟨hfails, -⟩⟩
    · exact hr
    · exact hfails.elim
  rintro (e | _)
  · exact fun s hs => absurd hs.2 (by simp)
  refine ((timers_await (e := .writeFile _ _) (A := (· = .ok ())) trivial ?_ hended).seq ?_).weaken
    (fun _ h => h.1) fun _ _ _ h => h
  · rintro s r t (⟨hr, -⟩ | ⟨⟨hfails, -⟩, -⟩)
    · exact hr
    · exact hfails.elim
  rintro (e | _)
  · exact fun s hs => absurd hs.2 (by simp)
  refine (timers_ended (by decide) hown ?_).weaken (fun _ h => h.1) fun _ _ _ h => h
  rintro (e | updated) <;> trivial

/-- A timer stops the capture that it finds if it is its own. -/
theorem timers_finalizePcapCaptureOf {inst : Instance} {expected : Option Text}
    (hown : ∀ c, l = .autoStop c → expected = some c) :
    (timers s₀).Hoare (timerStep s₀ json agent n l) {.lock id} (Found id inst.row)
      (finalizePcapCaptureOf id expected inst) (Leaves id) := by
  have hleave : ∀ a, (timers s₀).Hoare (timerStep s₀ json agent n l) {.lock id} (Found id inst.row)
      (ret a : Handler (Except Error (Option (Instance × Bool)))) (Leaves id) :=
    fun a => .ret fun s hs => ⟨rfl, hs.2⟩
  unfold finalizePcapCaptureOf
  split
  · exact hleave _
  next hmatch =>
  have hcapturing : inst.row.pcapStatus = .capturing := by
    by_contra hnot
    exact hmatch (.inl hnot)
  have hcapture : ∀ c, l = .autoStop c → inst.row.pcapCaptureId = some c := by
    intro c hl
    by_contra hnot
    exact hmatch (.inr ⟨c, hown c hl, hnot⟩)
  split
  · exact hleave _
  next w hw =>
  split
  · exact hleave _
  next c hc =>
  have hsame : ∀ c', l = .autoStop c' → c = c' :=
    fun c' hl => Option.some.inj (hc.symm.trans (hcapture c' hl))
  refine (timers_stopPcap hcapturing hw hc hsame).seq ?_
  rintro (e | pcapBytes)
  · exact .ret fun s hs => ⟨rfl, hs⟩
  · exact timers_storeCapture pcapBytes hcapture

theorem still_emitOperationEvent (event : OperationEvent) (a : α) :
    (emitOperationEvent event >>= fun _ => ret a : Handler α).Uses Eff.Still :=
  uses_bind ⟨trivial, fun _ => trivial⟩ fun _ => trivial

theorem timers_startPcapOf (operationContext : Option Text) {inst : Instance}
    (hl : ∀ c, l ≠ .autoStop c) :
    (timers s₀).Hoare (timerStep s₀ json agent n l) {.lock id} (Found id inst.row)
      (startPcapOf operationContext id inst) (Leaves id) := by
  have hleave : ∀ a, (timers s₀).Hoare (timerStep s₀ json agent n l) {.lock id} (Found id inst.row)
      (ret a : Handler (Except ApiError Instance)) (Leaves id) := fun a =>
        .ret fun s hs => ⟨rfl, hs.2⟩
  unfold startPcapOf
  split
  · exact hleave _
  split
  · exact hleave _
  next hcapturing =>
  split
  · exact hleave _
  next w hw =>
  refine (timers_startPcap hcapturing hw).bind ?_
  rintro (e | c) O
  · rintro s ⟨-, hfailed⟩
    obtain ⟨rfl, hidle⟩ := hfailed ⟨e, rfl⟩
    exact timers_leave (Set.mem_singleton _) (still_emitOperationEvent _ _) s hidle
  rintro s ⟨hstarted, -⟩
  obtain ⟨rfl, hbegun⟩ := hstarted c rfl
  have hclock : (timers s₀).Hoare (timerStep s₀ json agent n l) {.lock id, .capture c}
      (Begun id inst.row w c) (await .timestamp) fun _ O s =>
        O = {.lock id, .capture c} ∧ Begun id inst.row w c s :=
    timers_of_uses (fun s s' hrely h => h.rely (.inl rfl) (.inr rfl) hrely)
      ⟨trivial, fun _ => trivial⟩
  refine hclock.seq (fun startedAt => ?_) s hbegun
  refine (timers_beginPcap hl).seq fun r => ?_
  refine timers_leave (.inl rfl) ?_
  rcases r with e | _
  · trivial
  refine uses_bind (uses_getInstance_silent (fun e he => he.still) id) ?_
  rintro (e | updated)
  · trivial
  · exact ⟨trivial, fun _ => still_emitOperationEvent _ _⟩

/-- Deleting a capture ends it first. -/
theorem timers_stopActiveCapture {row : InstanceRow} (hl : ∀ c, l ≠ .autoStop c) :
    (timers s₀).Hoare (timerStep s₀ json agent n l) {.lock id} (Found id row)
    (stopActiveCapture row) fun r O s => O = {.lock id} ∧ AfterStop id row r s := by
  have hinactive : (∀ w c, row.pcapStatus = .capturing → row.workloadId = some w →
      row.pcapCaptureId ≠ some c) →
        (timers s₀).Hoare (timerStep s₀ json agent n l) {.lock id} (Found id row)
      (ret (.ok ())) fun (r : Except Error Unit) O s => O = {.lock id} ∧ AfterStop id row r s := by
    intro hnone
    refine .ret fun s hs => ⟨rfl, hs.1, ?_⟩
    intro w c hw hactive
    obtain ⟨row', hrow', hcapturing, hc⟩ := hs.2.named row w c hs.1 hw hactive
    obtain rfl := Option.some.inj (hs.1.symm.trans hrow')
    exact hnone w c hcapturing hw hc
  unfold stopActiveCapture
  split
  next w c hw hc =>
    split
    next hcapturing =>
      refine (timers_stopPcap hcapturing hw hc fun c' h => absurd h (hl c')).seq ?_
      rintro (e | content) <;> exact .ret fun s hs => ⟨rfl, hs⟩
    next hcapturing => exact hinactive fun _ _ h => absurd h hcapturing
  next hnone => exact hinactive fun w c _ hw hc => hnone w c hw hc

theorem still_removeCaptureFile (fileName : Option Text) :
    (removeCaptureFile fileName).Uses Eff.Still ∧
      (removeCaptureFile fileName).Returns fun r => (∃ e, r = .error e) → fileName ≠ none := by
  cases fileName with
  | none => exact ⟨trivial, fun ⟨_, h⟩ => absurd h (by simp)⟩
  | some fileName =>
    unfold removeCaptureFile
    simp only
    split
    · exact ⟨trivial, fun _ => by simp⟩
    · refine ⟨⟨trivial, ?_⟩, fun r => ?_⟩
      · rintro (_ | _ | e) <;> trivial
      · rcases r with _ | _ | e <;> exact fun _ => by simp

/-- Only a row that names no capture may have a file that cannot be removed. -/
theorem timers_deletePcapOf (operationContext : Option Text) {inst : Instance}
    (hl : ∀ c, l ≠ .autoStop c)
    (hnoFile : inst.row.pcapStatus = .capturing → inst.row.pcapFilePath = none) :
    (timers s₀).Hoare (timerStep s₀ json agent n l) {.lock id} (Found id inst.row)
      (deletePcapOf operationContext id inst) (Leaves id) := by
  unfold deletePcapOf
  refine (timers_stopActiveCapture hl).seq ?_
  rintro (e | _)
  · exact timers_leave (Set.mem_singleton _) (still_emitOperationEvent _ _)
  obtain ⟨huses, hreturns⟩ := still_removeCaptureFile inst.row.pcapFilePath
  have hremove : (timers s₀).Hoare (timerStep s₀ json agent n l) {.lock id} (Ended id inst.row)
      (removeCaptureFile inst.row.pcapFilePath) fun _ O s => O = {.lock id} ∧ Ended id inst.row s :=
    timers_of_uses (fun s s' hrely h => h.rely (Set.mem_singleton _) hrely) huses
  refine ((hremove.returns hreturns).weaken (fun _ h => h) fun r O s hs =>
    (⟨hs.1.1, hs.1.2, hs.2⟩ : O = {.lock id} ∧ Ended id inst.row s ∧ _)).seq ?_
  rintro (e | removed)
  · refine (timers_leave (Set.mem_singleton _) (still_emitOperationEvent _ _)).weaken
      ?_ fun _ _ _ h => h
    rintro s ⟨hended, hfile⟩
    exact hended.idle fun hcapturing => hfile ⟨e, rfl⟩ (hnoFile hcapturing)
  · refine (timers_ended (by decide) (fun c h => absurd h (hl c)) ?_).weaken
      (fun _ h => h.1) fun _ _ _ h => h
    rintro (e | updated)
    · trivial
    · exact still_emitOperationEvent _ _

/-- That undeploying failed is written beside the capture. -/
theorem timers_updateStatus {row : InstanceRow} {message : Text} (hl : ∀ c, l ≠ .autoStop c)
    (hnoFile : row.pcapStatus = .capturing → row.pcapFilePath = none) :
    (timers s₀).Hoare (timerStep s₀ json agent n l) {.lock id} (Found id row)
      (await (.updateStatus id .error row.workloadId (some message))) fun _ O s =>
        O = {.lock id} ∧ Idle id s := by
  refine .call (timers_guarded s₀) (fun s s' hrely h => h.rely (Set.mem_singleton _) hrely) ?_
    fun _ _ => .ret fun _ h => h
  rintro s r s' ⟨hrow, hidle⟩ hO hinv ⟨t, ⟨rfl, rfl⟩ | ⟨-, hfails, -⟩, -, rfl⟩
  · have hchanged : ∀ row', RowIs id row' { s.state with
        db := s.state.db.updateStatus id .error row.workloadId (some message) } →
        row'.workloadId = row.workloadId ∧ row'.pcapStatus = row.pcapStatus ∧
          row'.pcapCaptureId = row.pcapCaptureId ∧ row'.pcapFilePath = row.pcapFilePath := by
      intro row' hrow'
      rw [RowIs, Database.selectInstance_updateStatus,
        show s.state.db.selectInstance id = _ from hrow] at hrow'
      obtain rfl := Option.some.inj hrow'
      simp
    have hnames : ∀ c, row.pcapStatus = .capturing → row.pcapCaptureId = some c →
        Names s.state id c :=
      fun c hcapturing hc => ⟨row, hrow, hcapturing, hc⟩
    refine ⟨_, (rowChange_step (e := ⟨n, l, s.state, ⟨.updateStatus id .error row.workloadId
      (some message), .ok ()⟩, { s.state with
        db := s.state.db.updateStatus id .error row.workloadId (some message) }⟩)
      hinv hO rfl hrow rfl rfl rfl rfl (fun _ _ => by simp) (fun c h => absurd h (hl c)) ?_ ?_).move
      s₀ hinv hO, rfl, ?_, ?_⟩
    · intro j hj
      rw [Database.selectInstance_updateStatus, funext fun _ => if_neg hj, Option.map_id']
    · intro row' hrow'
      obtain ⟨hw, hstatus, hc, hfile⟩ := hchanged row' hrow'
      refine ⟨hw, fun hcapturing => ⟨?_, fun c hc' => .inl ?_⟩⟩
      · exact hfile.trans (hnoFile (hstatus.symm.trans hcapturing))
      · exact hnames c (hstatus.symm.trans hcapturing) (hc.symm.trans hc')
    · intro row' w c hrow' hw hactive
      obtain ⟨hw', hstatus, hc, -⟩ := hchanged row' hrow'
      obtain ⟨row'', hrow'', hcapturing, hc'⟩ :=
        hidle.named row w c hrow (hw'.symm.trans hw) hactive
      obtain rfl := Option.some.inj (hrow.symm.trans hrow'')
      exact ⟨row', hrow', hstatus.trans hcapturing, hc.trans hc'⟩
    · rintro c ⟨row', hrow', hcapturing, hc'⟩ hstopped
      obtain ⟨-, hstatus, hc, -⟩ := hchanged row' hrow'
      rcases stopped_append.mp hstopped with hold | hnew
      · exact hidle.unstopped c (hnames c (hstatus.symm.trans hcapturing) (hc.symm.trans hc')) hold
      · exact absurd hnew (by simp [stoppedCapture])
  · exact hfails.elim

theorem timers_deleteInstance {row : InstanceRow} (hl : ∀ c, l ≠ .autoStop c) :
    (timers s₀).Hoare (timerStep s₀ json agent n l) {.lock id} (Found id row)
      (await (.deleteInstance id)) fun _ O s => O = {.lock id} ∧ Idle id s := by
  refine .call (timers_guarded s₀) (fun s s' hrely h => h.rely (Set.mem_singleton _) hrely) ?_
    fun _ _ => .ret fun _ h => h
  rintro s r s' ⟨hrow, -⟩ hO hinv ⟨t, ⟨rfl, rfl⟩ | ⟨-, hfails, -⟩, -, rfl⟩
  · have hgone : ∀ row', ¬ RowIs id row' { s.state with db := s.state.db.deleteInstance id } := by
      intro row' hrow'
      rw [RowIs, Database.selectInstance_deleteInstance, if_pos rfl] at hrow'
      exact absurd hrow' (by simp)
    refine ⟨_, (rowChange_step (e := ⟨n, l, s.state, ⟨.deleteInstance id, _⟩, { s.state with
      db := s.state.db.deleteInstance id }⟩) hinv hO rfl hrow rfl rfl rfl rfl (fun _ _ => by simp)
      (fun c h => absurd h (hl c)) ?_ ?_).move s₀ hinv hO, rfl, ?_, ?_⟩
    · intro j hj
      rw [Database.selectInstance_deleteInstance, if_neg hj]
    · exact fun row' hrow' => absurd hrow' (hgone row')
    · exact fun row' w c hrow' => absurd hrow' (hgone row')
    · rintro c ⟨row', hrow', -⟩
      exact absurd hrow' (hgone row')
  · exact hfails.elim

theorem timers_undeployFailed (operationContext : Option Text) {inst : Instance} (err : Error)
    (code summary : Text) (hl : ∀ c, l ≠ .autoStop c)
    (hnoFile : inst.row.pcapStatus = .capturing → inst.row.pcapFilePath = none) :
    (timers s₀).Hoare (timerStep s₀ json agent n l) {.lock id} (Found id inst.row)
      (undeployFailed operationContext inst id err code summary) (Leaves id) := by
  have hwritten : (timers s₀).Hoare (timerStep s₀ json agent n l) {.lock id} (Found id inst.row)
      (updateInstanceStatus id .error inst.row.workloadId (some err.chain)) fun _ O s =>
        O = {.lock id} ∧ Idle id s := by
    unfold updateInstanceStatus
    refine (timers_updateStatus hl hnoFile).seq fun r => ?_
    have hidle : ∀ s s' : TimerState, TimerRely s₀ {.lock id} s s' → Idle id s → Idle id s' :=
      fun s s' hrely h => h.rely s₀ (Set.mem_singleton _) hrely
    refine timers_of_uses hidle ?_
    cases r with
    | error e => trivial
    | ok _ => exact uses_getInstance_silent (fun e he => he.still) id
  unfold undeployFailed
  refine hwritten.seq fun r => timers_leave (Set.mem_singleton _) ?_
  rcases r with e | updated
  · trivial
  · exact still_emitOperationEvent _ _

theorem timers_undeployInstanceOf (operationContext : Option Text) {inst : Instance}
    (hl : ∀ c, l ≠ .autoStop c)
    (hnoFile : inst.row.pcapStatus = .capturing → inst.row.pcapFilePath = none) :
    (timers s₀).Hoare (timerStep s₀ json agent n l) {.lock id} (Found id inst.row)
      (undeployInstanceOf operationContext id inst) (Leaves id) := by
  have hfound : ∀ {α : Type} {p : Handler α}, p.Uses Eff.Still →
      (timers s₀).Hoare (timerStep s₀ json agent n l) {.lock id} (Found id inst.row) p fun _ O s =>
        O = {.lock id} ∧ Found id inst.row s :=
    fun hp => timers_of_uses (fun s s' hrely h => h.rely (Set.mem_singleton _) hrely) hp
  have hstop : (stopWorkloadOf inst.row).Uses Eff.Still := by
    unfold stopWorkloadOf
    split
    · exact ⟨trivial, fun _ => trivial⟩
    · trivial
  unfold undeployInstanceOf
  refine (hfound hstop).seq ?_
  rintro (err | _)
  · exact timers_undeployFailed operationContext err _ _ hl hnoFile
  unfold undeployStopped
  refine (hfound (still_removeCaptureFile _).1).seq ?_
  rintro (err | removed)
  · exact timers_undeployFailed operationContext err _ _ hl hnoFile
  refine (timers_deleteInstance hl).seq fun r => timers_leave (Set.mem_singleton _) ?_
  rcases r with e | deleted
  · trivial
  · exact still_emitOperationEvent _ _

/-! ## The calls -/

theorem timers_finalizePcapCapture {expected : Option Text}
    (hown : ∀ c, l = .autoStop c → expected = some c) :
    Harmless (timers s₀) (timerStep s₀ json agent n l) (finalizePcapCapture id expected) :=
  timers_locked (timers_getInstance (fun _ => .ret fun _ hs => ⟨rfl, hs⟩)
    (.ret fun _ hs => ⟨rfl, hs⟩)
    fun _ _ => timers_finalizePcapCaptureOf hown)

theorem timers_startRequest (operationContext : Option Text) (hl : ∀ c, l ≠ .autoStop c) :
    Harmless (timers s₀) (timerStep s₀ json agent n l) (startPcap operationContext id) :=
  timers_locked (timers_getInstance (fun _ => .ret fun _ hs => ⟨rfl, hs⟩)
    (.ret fun _ hs => ⟨rfl, hs⟩)
    fun _ _ => timers_startPcapOf operationContext hl)

theorem timers_deleteRequest (operationContext : Option Text) (hl : ∀ c, l ≠ .autoStop c) :
    Harmless (timers s₀) (timerStep s₀ json agent n l) (deletePcap operationContext id) :=
  timers_locked (timers_getInstance (fun _ => .ret fun _ hs => ⟨rfl, hs⟩)
    (.ret fun _ hs => ⟨rfl, hs⟩)
    fun _ => timers_deletePcapOf operationContext hl)

theorem timers_undeployRequest (operationContext : Option Text) (hl : ∀ c, l ≠ .autoStop c) :
    Harmless (timers s₀) (timerStep s₀ json agent n l) (undeployInstance operationContext id) :=
  timers_locked (timers_getInstance (fun _ => .ret fun _ hs => ⟨rfl, hs⟩)
    (.ret fun _ hs => ⟨rfl, hs⟩)
    fun _ => timers_undeployInstanceOf operationContext hl)

theorem timers_passive (e : Eff) (he : e.Passive) (s : TimerState) (r : e.Answer) (s' : TimerState)
    (hinv : TimerInv s₀ s) (h : timerStep s₀ json agent n l s e r s') :
    (timers s₀).Move ∅ ∅ s s' ∅ ∅ := by
  have hstill : e.Still := by
    cases e with
    | getRule | selectInstances | selectInstance | selectEndpoints | platformVersion | listWorkloads
    | submitOperationEvent | readFile | timestamp | hashOrder | sleep => trivial
    | _ => exact he.elim
  exact (timers_still hstill hinv (Set.empty_disjoint _) h).1

theorem timers_autoStopPcap {captureId : Text} (hown : ∀ c, l = .autoStop c → captureId = c) :
    Harmless (timers s₀) (timerStep s₀ json agent n l) (autoStopPcap id captureId) :=
  harmless_autoStopPcap timers_passive
    (timers_finalizePcapCapture fun c h => congrArg some (hown c h))

end Calls

theorem launch_timers {s₀ : System} {json : JsonCodec} {agent : Prop} {s s' : TimerState}
    {p : Prog (Call TimerKind Eff) (fun c => c.effect.Answer) Unit} (hinv : TimerInv s₀ s)
    (h : recordLaunch TimerLaunch s p s') :
    (timers s₀).Starts (record (act json ⟨False, agent, False⟩) (FreshCaptures s₀)) s p s' := by
  obtain ⟨l, q, t, hlaunch, rfl, rfl⟩ := h
  have hmove : ∀ tasks, (timers s₀).Move ∅ ∅ s { s with
      state := { s.state with tasks := tasks }
      calls := s.calls + 1 } ∅ ∅ := by
    intro tasks
    refine ⟨⟨⟨hinv.rows.workloads, hinv.rows.captures, hinv.rows.noFile⟩, hinv.known, hinv.stopped,
      fun id hid => (hinv.idle id hid).of_same rfl rfl fun _ h => h,
      ⟨hinv.apart.own, hinv.apart.single, hinv.apart.once⟩⟩, ?_, Set.empty_subset _,
      Set.empty_disjoint _, Set.subset_union_left, Set.empty_subset _⟩
    intro P _ _
    exact ⟨fun _ _ => rfl, fun _ _ _ _ _ _ _ => Iff.rfl, fun _ _ _ _ h =>
      h, fun _ _ h => ⟨h, id⟩, id⟩
  have hstart : ∀ {α : Type} {l : TimerKind} {p : Handler α}, Harmless (timers s₀)
      (timerStep s₀ json agent s.calls l) p → ∀ tasks, (timers s₀).Starts
        (record (act json ⟨False, agent, False⟩) (FreshCaptures s₀)) s
          (p.discard.by s.calls l) { s with
          state := { s.state with tasks := tasks }
          calls := s.calls + 1 } := fun hp tasks =>
    Discipline.starts_by (hmove tasks) (Discipline.wp_discard (hp.settled trivial))
  cases hlaunch with
  | startPcap operationContext id =>
    exact hstart (timers_startRequest operationContext fun c => by simp) s.state.tasks
  | stopPcap operationContext id =>
    refine hstart (harmless_stopPcap timers_passive
      (timers_finalizePcapCapture ?_) operationContext) s.state.tasks
    exact fun c h => absurd h (by simp)
  | deletePcap operationContext id =>
    exact hstart (timers_deleteRequest operationContext fun c => by simp) s.state.tasks
  | undeploy operationContext id =>
    exact hstart (timers_undeployRequest operationContext fun c => by simp) s.state.tasks
  | autoStop htasks =>
    refine hstart (harmless_autoStopTask (fun e he => timers_passive e he.passive)
      (timers_autoStopPcap ?_)) _
    exact fun c h => TimerKind.autoStop.inj h
  | expiredScan =>
    refine hstart (harmless_finalizeExpiredPcapCaptures (fun e he => timers_passive e he.passive)
      fun id c => timers_autoStopPcap ?_) s.state.tasks
    exact fun c h => absurd h (by simp)

section Reachable

variable (json : JsonCodec) (agent : Prop) {s : System} (hs : CapturesAgree s)
  {c : Pool TimerState fun call : Call TimerKind Eff => call.effect.Answer}
  (h : Reachable (record (act json ⟨False, agent, False⟩) (FreshCaptures s))
    (recordLaunch TimerLaunch)
    (Pool.start (.start s)) c)
include hs h

theorem timerInv_of_reachable : TimerInv s c.state := by
  refine Discipline.inv_of_reachable (d := timers s) (fun _ _ _ hinv hl => launch_timers hinv hl)
    (s := .start s) ?_ rfl h
  refine ⟨hs.rows, fun id c hc => .inl ⟨id, hc⟩, fun c hc => ?_, fun id _ => ⟨hs.named id, ?_⟩,
    fun e he => absurd he (by simp [Recorded.start]), hs.single, everyEntry_nil⟩
  · obtain ⟨e, he, -⟩ := hc
    exact absurd he (by simp [Recorded.start])
  · rintro c - ⟨e, he, -⟩
    exact absurd he (by simp [Recorded.start])

/-- In every interleaving of requests on captures, requests that undeploy, timers and scans, and
whichever calls to the Agent fail, timers only end their own capture, the Agent never has two
captures of one workload active, and it stops no capture twice. -/
theorem capturesApart_of_reachable : CapturesApart c.state :=
  (timerInv_of_reachable json agent hs h).apart

/-- Once no instance is locked a restarted service finds what it needs to go on. -/
theorem capturesAgree_of_reachable (hlocks : c.state.state.locks = ∅) :
    CapturesAgree c.state.state := by
  have hinv := timerInv_of_reachable json agent hs h
  exact ⟨hinv.rows, fun id => (hinv.idle id (hlocks ▸ Set.notMem_empty id)).named,
    hinv.apart.single⟩

end Reachable

/-! ## A capture and its timer -/

theorem rowIs_runningOnce {id : Text} {row : InstanceRow} (h : RowIs id row runningOnce) :
    row = runningRow ∧ sshInstance = id := by
  obtain ⟨hmem, hid⟩ := Table.get_eq_some_iff.mp h
  obtain rfl := List.mem_singleton.mp hmem
  exact ⟨rfl, hid⟩

theorem not_names_runningOnce (id c : Text) : ¬ Names runningOnce id c := by
  rintro ⟨row, h, hcapturing, -⟩
  rw [(rowIs_runningOnce h).1] at hcapturing
  exact absurd hcapturing (by decide)

theorem capturesAgree_runningOnce : CapturesAgree runningOnce := by
  refine ⟨⟨?_, fun id _ c h => absurd h (not_names_runningOnce id c), ?_⟩, ?_,
    fun _ _ _ h => absurd h (Set.notMem_empty _)⟩
  · intro id id' row row' w h h' _ _
    rw [← (rowIs_runningOnce h).2, (rowIs_runningOnce h').2]
  · intro id row h _
    rw [(rowIs_runningOnce h).1]
    rfl
  · exact fun id row w c _ _ h => absurd h (Set.notMem_empty _)

section Timed

variable (json : JsonCodec) (f : Faults)

/-- The effects by which no capture is started. -/
def actOther (s : System) (e : Eff) (r : e.Answer) (s' : System) : Prop :=
  act json f s e r s' ∧ handedOut ⟨e, r⟩ = none

/-- The request to start a capture, without the step by which it is started. -/
theorem runs_startTimed : ∃ k, Runs (actOther json f) runningOnce (startPcap none sshInstance)
    { runningOnce with locks := insert sshInstance ∅ } (.call (.startPcap "w-1") k) ∧
    ∀ s, RowIs sshInstance runningRow s → ∃ s' a,
      Runs (actOther json f) s (k (.ok "c-1")) s' (ret a) ∧
      s'.tasks = s.tasks ++ [⟨sshInstance, "c-1", 0⟩] ∧ RowIs sshInstance capturingRow s' ∧
      sshInstance ∉ s'.locks := by
  have hrow : RowIs sshInstance runningRow runningOnce := runningOnce_row
  have hread := congrArg (Except.ok (ε := Error)) hrow.symm
  refine ⟨_, .call () ⟨⟨Set.notMem_empty _, rfl⟩, rfl⟩ (.call (.ok (some runningRow))
    ⟨⟨rfl, .inl hread⟩, rfl⟩ (.call (.ok []) ⟨⟨rfl, .inl rfl⟩, rfl⟩ .refl)), ?_⟩
  intro s hrow
  have hbegun : RowIs sshInstance capturingRow { s with
      db := s.db.updatePcap sshInstance .capturing (some 0) (some "c-1") none } := by
    rw [RowIs, Database.selectInstance_updatePcap,
      show s.db.selectInstance sshInstance = _ from hrow]
    rfl
  exact ⟨_, _, .call (0 : ℤ) ⟨rfl, rfl⟩ (.call (.ok ()) ⟨.inl ⟨rfl, rfl⟩, rfl⟩ (.call
    (.ok (some capturingRow)) ⟨⟨rfl, .inl (congrArg Except.ok hbegun.symm)⟩, rfl⟩ (.call
    (.ok (s.db.selectEndpoints sshInstance)) ⟨⟨rfl, .inl rfl⟩, rfl⟩ (.call () ⟨rfl, rfl⟩
    (.call (.ok ()) ⟨.inl ⟨rfl, rfl⟩, rfl⟩ (.call () ⟨rfl, rfl⟩ .refl)))))), rfl, hbegun,
    fun hmem => hmem.2 rfl⟩

/-- The timer of the capture has it stopped, and then says so in the row. -/
theorem runs_timer {s : System} (hrow : RowIs sshInstance capturingRow s)
    (hlock : sshInstance ∉ s.locks) :
    ∃ t p u, Runs (actOther json f) s (autoStopTask ⟨sshInstance, "c-1", 0⟩) t p ∧
      RowIs sshInstance capturingRow t ∧ (("w-1" : Text), ("c-1" : Text)) ∉ t.agent.captures ∧
      Runs (actOther json f) t p u (ret ()) ∧ RowIs sshInstance runningRow u ∧
      sshInstance ∉ u.locks ∧ u.agent = t.agent := by
  have hread := congrArg (Except.ok (ε := Error)) hrow.symm
  have hended : RowIs sshInstance runningRow { s with
      db := s.db.updatePcap sshInstance .idle none none none } := by
    rw [RowIs, Database.selectInstance_updatePcap,
      show s.db.selectInstance sshInstance = _ from hrow]
    rfl
  refine ⟨_, _, _, .call (300 : ℤ) ⟨rfl, rfl⟩
    (.call () ⟨rfl, rfl⟩ (.call () ⟨⟨hlock, rfl⟩, rfl⟩ (.call
    (.ok (some capturingRow)) ⟨⟨rfl, .inl hread⟩, rfl⟩
      (.call (.ok (s.db.selectEndpoints sshInstance))
    ⟨⟨rfl, .inl rfl⟩, rfl⟩ (.call (.ok []) ⟨.inl ⟨[], rfl, rfl⟩, rfl⟩ .refl))))), hrow,
    fun h => h.2 rfl, .call (.ok ()) ⟨.inl ⟨rfl, rfl⟩, rfl⟩ (.call (.ok (some runningRow))
    ⟨⟨rfl, .inl (congrArg Except.ok hended.symm)⟩, rfl⟩ (.call
    (.ok (s.db.selectEndpoints sshInstance)) ⟨⟨rfl, .inl rfl⟩, rfl⟩ (.call () ⟨rfl, rfl⟩
    (.call (.ok ()) ⟨.inl ⟨rfl, rfl⟩, rfl⟩ .refl)))), hended, fun h => h.2 rfl, rfl⟩

/-- A request to stop the capture sees it active, and stopped once it has the lock. -/
theorem runs_stopLate {t u : System} (hrow : RowIs sshInstance capturingRow t)
    (hended : RowIs sshInstance runningRow u) (hlock : sshInstance ∉ u.locks) :
    ∃ p v a, Runs (actOther json f) t (stopPcap none sshInstance) t p ∧
      Runs (actOther json f) u p v (ret a) ∧ v.agent = u.agent := by
  have hread := congrArg (Except.ok (ε := Error)) hrow.symm
  have hagain := congrArg (Except.ok (ε := Error)) hended.symm
  exact ⟨_, _, _, .call (.ok (some capturingRow)) ⟨⟨rfl, .inl hread⟩, rfl⟩ (.call
    (.ok (t.db.selectEndpoints sshInstance)) ⟨⟨rfl, .inl rfl⟩, rfl⟩ .refl),
    .call () ⟨⟨hlock, rfl⟩, rfl⟩ (.call (.ok (some runningRow)) ⟨⟨rfl, .inl hagain⟩, rfl⟩ (.call
    (.ok (u.db.selectEndpoints sshInstance)) ⟨⟨rfl, .inl rfl⟩, rfl⟩ (.call () ⟨rfl, rfl⟩
    (.call (.ok ()) ⟨.inl ⟨rfl, rfl⟩, rfl⟩ .refl)))), rfl⟩

theorem fresh_of_other {n : ℕ} {l : TimerKind} (h : List TimerEntry) {s : System} {e : Eff}
    {r : e.Answer} {s' : System} (hact : actOther json f s e r s') :
    FreshCaptures runningOnce h ⟨n, l, s, ⟨e, r⟩, s'⟩ :=
  fun _ heq => absurd (hact.2.symm.trans heq) (by simp)

/-- Nothing was started yet. -/
def NothingStarted (h : List TimerEntry) : Prop := ∀ e ∈ h, handedOut e.did = none

theorem nothingStarted_other {n : ℕ} {l : TimerKind} (h : List TimerEntry) (s : System) (e : Eff)
    (r : e.Answer) (s' : System) (hbefore : NothingStarted h) (hact : actOther json f s e r s') :
    act json f s e r s' ∧ FreshCaptures runningOnce h ⟨n, l, s, ⟨e, r⟩, s'⟩ ∧
      NothingStarted (h ++ [⟨n, l, s, ⟨e, r⟩, s'⟩]) := by
  refine ⟨hact.1, fresh_of_other json f h hact, ?_⟩
  intro e' he'
  rcases List.mem_append.mp he' with he' | he'
  · exact hbefore e' he'
  · obtain rfl := List.mem_singleton.mp he'
    exact hact.2

theorem other_record {n : ℕ} {l : TimerKind} (h : List TimerEntry) (s : System)
    (e : Eff) (r : e.Answer) (s' : System) (_ : True) (hact : actOther json f s e r s') :
    act json f s e r s' ∧ FreshCaptures runningOnce h ⟨n, l, s, ⟨e, r⟩, s'⟩ ∧ True :=
  ⟨hact.1, fresh_of_other json f h hact, trivial⟩

end Timed

/-- A capture is started and its timer has it stopped. A request to stop it still reads that it is
active, waits until the timer is done, and stops nothing. -/
theorem capturesApart_timedOnce : ∃ c,
    Reachable (record (act emptyObjectCodec ⟨False, False, False⟩) (FreshCaptures runningOnce))
      (recordLaunch TimerLaunch) (Pool.start (.start runningOnce)) c ∧
    (∃ e ∈ c.state.history, handedOut e.did = some ("c-1" : Text)) ∧
    (("w-1" : Text), ("c-1" : Text)) ∉ c.state.state.agent.captures ∧
    c.threads 0 = some (ret ()) ∧ c.threads 1 = some (ret ()) ∧ c.threads 2 = some (ret ()) ∧
    CapturesApart c.state := by
  obtain ⟨k, hlead, hrest⟩ := runs_startTimed emptyObjectCodec ⟨False, False, False⟩
  have h₀ : Reachable
      (record (act emptyObjectCodec ⟨False, False, False⟩) (FreshCaptures runningOnce))
      (recordLaunch TimerLaunch) (Pool.start (.start runningOnce)) _ :=
    .tail .refl (.launch 0 rfl ⟨.startPcap, _, _, .startPcap none sshInstance, rfl, rfl⟩)
  obtain ⟨done, hdone, hlead⟩ := Runs.record (I := NothingStarted)
    (nothingStarted_other _ _ (n := 0) (l := .startPcap)) (hlead.bind fun _ => ret ())
    (fun e he => absurd he List.not_mem_nil) 1
  have h₁ := Reachable.runs 0 h₀ (Function.update_self ..) hlead
  have hfresh : ¬ Known runningOnce "c-1" ([] ++ done) := by
    rintro (⟨id, hnames⟩ | ⟨e, he, heq⟩)
    · exact not_names_runningOnce id _ hnames
    · exact absurd ((hdone e he).symm.trans heq) (by simp)
  have h₂ := h₁.tail (.run 0 (.ok "c-1") rfl
    ⟨_, .inl ⟨"c-1", rfl, Set.notMem_empty _, rfl⟩, ?_, rfl⟩)
  · obtain ⟨s, a, hrest, htasks, hrow, hlock⟩ := hrest { runningOnce with
      locks := insert sshInstance ∅
      agent := { runningOnce.agent with
        captures := insert (("w-1" : Text), ("c-1" : Text)) runningOnce.agent.captures } }
          runningOnce_row
    obtain ⟨done', -, hrest⟩ := Runs.record (I := fun _ => True) (other_record _ _ (n := 0)
      (l := .startPcap)) (hrest.bind fun _ => ret ()) trivial 1
    have h₃ := Reachable.runs 0 h₂ (Function.update_self ..) hrest
    have h₄ := h₃.tail (.launch 1 rfl ⟨_, _, _, .autoStop htasks, rfl, rfl⟩)
    obtain ⟨t, p, u, hstop, hactive, hstopped, hended, hrunning, hfree, hagent⟩ :=
      runs_timer emptyObjectCodec ⟨False, False, False⟩
        (s := { s with tasks := [] ++ [] }) hrow hlock
    obtain ⟨q, v, r, hask, hlate, hsame⟩ :=
      runs_stopLate emptyObjectCodec ⟨False, False, False⟩ hactive hrunning hfree
    -- the Agent has stopped the capture, and the row does not say so yet
    obtain ⟨fin, -, hstop⟩ := Runs.record (I := fun _ => True) (other_record _ _ (n := 1)
      (l := .autoStop "c-1")) (hstop.bind fun _ => ret ()) trivial 2
    have h₅ := Reachable.runs 1 h₄ (Function.update_self ..) hstop
    have h₆ := h₅.tail (.launch 2 rfl ⟨.stopPcap, _, _, .stopPcap none sshInstance, rfl, rfl⟩)
    obtain ⟨fin', -, hask⟩ := Runs.record (I := fun _ => True) (other_record _ _ (n := 2)
      (l := .stopPcap)) (hask.bind fun _ => ret ()) trivial 3
    have h₇ := Reachable.runs 2 h₆ (Function.update_self ..) hask
    obtain ⟨fin'', -, hended⟩ := Runs.record (I := fun _ => True) (other_record _ _ (n := 1)
      (l := .autoStop "c-1")) (hended.bind fun _ => ret ()) trivial 3
    have h₈ := Reachable.runs 1 h₇ rfl hended
    obtain ⟨rest, -, hlate⟩ := Runs.record (I := fun _ => True) (other_record _ _ (n := 2)
      (l := .stopPcap)) (hlate.bind fun _ => ret ()) trivial 3
    have h₉ := Reachable.runs 2 h₈ rfl hlate
    refine ⟨_, h₉, ?_, ?_, rfl, rfl, rfl,
      capturesApart_of_reachable _ _ capturesAgree_runningOnce h₉⟩
    · exact ⟨⟨0, .startPcap, _, ⟨.startPcap "w-1", .ok "c-1"⟩, _⟩, List.mem_append_left _
        (List.mem_append_left _ (List.mem_append_left _ (List.mem_append_left _
        (List.mem_append_left _ (List.mem_append_right _ (List.mem_singleton_self _)))))), rfl⟩
    · exact hsame ▸ hagent ▸ hstopped
  · intro c heq
    obtain rfl := Option.some.inj heq
    exact hfresh

end ProtocolSimulation.Service
