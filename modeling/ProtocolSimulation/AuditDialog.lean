import ProtocolSimulation.Machines
import ProtocolSimulation.Texts
import Mathlib.Data.List.Nodup

/-!
# The dialog with an instance's log

The dialog loads a page when it is shown, when the user turns a page or presses the
refresh button, and every ten seconds if asked to. Answers come in any order, also
after the dialog was closed or shows another instance. Every request takes a new
version number, and an answer counts only if its request has the last one.
-/
namespace ProtocolSimulation.AuditDialog

open ProtocolSimulation.Texts ProtocolSimulation.Machines

variable {R : Type}

structure LogPage (R : Type) where
  records : List R
  total : ℕ

/-- The answer of the API, in its envelope. -/
structure Response (R : Type) where
  success : Bool
  message : Text
  data : Option (LogPage R)

/-- A call of `listInstanceAuditLogs`, with the version it was made under. -/
structure AuditRequest where
  version : ℕ
  instanceId : Text
  page : ℕ
  pageSize : ℕ
  silent : Bool

/-- The props, the refs and the variables of the dialog; the values its watchers of `page` and
`autoRefresh` saw last; the requests that are not settled; and what the shown page answers. -/
structure State (R : Type) where
  mounted : Bool
  visible : Bool
  instanceId : Option Text
  records : List R
  page : ℕ
  total : ℕ
  loading : Bool
  errorMessage : Text
  autoRefresh : Bool
  refreshTimer : Bool
  requestVersion : ℕ
  watchedPage : ℕ
  watchedAutoRefresh : Bool
  inFlight : List AuditRequest
  shown : Option (AuditRequest × LogPage R)

def State.start : State R where
  mounted := true
  visible := false
  instanceId := none
  records := []
  page := 1
  total := 0
  loading := false
  errorMessage := []
  autoRefresh := false
  refreshTimer := false
  requestVersion := 0
  watchedPage := 1
  watchedAutoRefresh := false
  inFlight := []
  shown := none

def pageSize : ℕ := 50

/-- The instance that `loadAuditLogs` asks for, if it asks at all. -/
def State.wanted (s : State R) : Option Text :=
  if s.visible then s.instanceId.filter fun id => !id.isEmpty else none

/-- `loadAuditLogs` up to its `await`. -/
def loadAuditLogs (s : State R) (silent : Bool) : State R :=
  match s.wanted with
  | none => s
  | some instanceId =>
    { s with
      requestVersion := s.requestVersion + 1
      loading := s.loading || !silent
      errorMessage := []
      inFlight := s.inFlight ++ [⟨s.requestVersion + 1, instanceId, s.page, pageSize, silent⟩] }

def State.clear (s : State R) (errorMessage : Text) : State R :=
  { s with
    errorMessage := errorMessage
    records := []
    total := 0
    shown := none }

/-- The message for an answer that is no success. -/
def failureMessage (t : Text → Text) (response : Response R) : Text :=
  if response.message = "simulation instance not found" then
    t "app.simulation.auditDialog.instanceUnavailable"
  else if response.message.isEmpty then t "app.simulation.auditDialog.loadFailed"
  else response.message

/-- The table after an answer that counts, or a failed call. -/
def State.receive (s : State R) (t : Text → Text) (request : AuditRequest) :
    Option (Response R) → State R
  | none => s.clear (t "app.simulation.auditDialog.loadFailed")
  | some response =>
    match response.success, response.data with
    | true, some data =>
      { s with
        records := data.records
        total := data.total
        shown := some (request, data) }
    | _, _ => s.clear (failureMessage t response)

/-- The spinner stops behind a load that started it. -/
def State.finish (s : State R) (silent : Bool) : State R :=
  if silent then s else { s with loading := false }

/-- `loadAuditLogs` behind its `await`. -/
def settle (t : Text → Text) (s : State R) (request : AuditRequest)
    (outcome : Option (Response R)) : State R :=
  if request.version ≠ s.requestVersion then s
  else (s.receive t request outcome).finish request.silent

/-- The timer is cleared, and set again if it is to run. -/
def syncRefreshTimer (s : State R) : State R :=
  { s with refreshTimer := s.visible && s.autoRefresh }

/-- The watcher of `page`. -/
def pageChanged (s : State R) : State R :=
  if s.visible then loadAuditLogs s false else s

/-- The watcher of `page`, if the page has changed. -/
def flushPage (s : State R) : State R :=
  if s.page = s.watchedPage then s else pageChanged { s with watchedPage := s.page }

/-- The watcher of `autoRefresh`, if this has changed. -/
def flushAutoRefresh (s : State R) : State R :=
  if s.autoRefresh = s.watchedAutoRefresh then s
  else syncRefreshTimer { s with watchedAutoRefresh := s.autoRefresh }

/-- The watchers that are due run. -/
def flush (s : State R) : State R :=
  flushAutoRefresh (flushPage s)

/-- The watcher of the props, as far as it runs for a hidden dialog too. -/
def State.reset (s : State R) : State R :=
  { s.clear [] with
    requestVersion := s.requestVersion + 1
    loading := false
    refreshTimer := false }

/-- The watcher of the props. -/
def propsChanged (s : State R) : State R :=
  let s := s.reset
  if s.visible then
    syncRefreshTimer (if s.page ≠ 1 then { s with page := 1 } else loadAuditLogs s false)
  else s

/-- What happens to the dialog. A request that is settled is told by its place. -/
inductive Action (R : Type) where
  | setProps (visible : Bool) (instanceId : Option Text)
  | setPage (page : ℕ)
  | setAutoRefresh (autoRefresh : Bool)
  | flush
  | tick
  | refresh
  | settle (place : ℕ) (outcome : Option (Response R))
  | unmount

/-- New props are seen by the watchers that are due before their own one runs. The timer only
fires, and the refresh button is only pressed, when no watcher is due; the button is disabled beside
the spinner. -/
def step (t : Text → Text) (s : State R) : Action R → Option (State R)
  | .setProps visible instanceId =>
    if s.mounted then
      some (flush (propsChanged (flush { s with
        visible := visible
        instanceId := instanceId })))
    else none
  | .setPage page => if s.mounted then some { s with page := page } else none
  | .setAutoRefresh autoRefresh =>
    if s.mounted then some { s with autoRefresh := autoRefresh } else none
  | .flush => if s.mounted then some (flush s) else none
  | .tick =>
    if s.refreshTimer ∧ s.page = s.watchedPage ∧ s.autoRefresh = s.watchedAutoRefresh then
      some (if s.loading then s else loadAuditLogs s true)
    else none
  | .refresh =>
    if s.mounted ∧ s.visible ∧ ¬s.loading ∧ s.page = s.watchedPage ∧
        s.autoRefresh = s.watchedAutoRefresh then
      some (loadAuditLogs s false)
    else none
  | .settle place outcome =>
    match s.inFlight[place]? with
    | some request =>
      some (settle t { s with inFlight := s.inFlight.eraseIdx place } request outcome)
    | none => none
  | .unmount =>
    if s.mounted then
      some { s with
        mounted := false
        requestVersion := s.requestVersion + 1
        refreshTimer := false }
    else none

/-! ## What holds of the dialog -/

/-- The request whose answer counts. -/
def State.Current (s : State R) (r : AuditRequest) : Prop :=
  r ∈ s.inFlight ∧ r.version = s.requestVersion

/-- No two requests share a version, and none is ahead of the dialog. -/
structure VersionsRight (s : State R) : Prop where
  distinct : (s.inFlight.map AuditRequest.version).Nodup
  le : ∀ r ∈ s.inFlight, r.version ≤ s.requestVersion

/-- What the table shows is the answer to a request for the instance of the dialog. -/
structure ShowsAnswer (s : State R) : Prop where
  records : s.records = (s.shown.map fun answer => answer.2.records).getD []
  total : s.total = (s.shown.map fun answer => answer.2.total).getD 0
  instanceId : ∀ answer, s.shown = some answer → s.wanted = some answer.1.instanceId

/-- The invariant of a dialog that is mounted. -/
structure Inv (s : State R) : Prop extends VersionsRight s, ShowsAnswer s where
  current : ∀ r, s.Current r →
    s.wanted = some r.instanceId ∧ r.page = s.watchedPage ∧ s.errorMessage = []
  loading : s.loading = true ↔ ∃ r, s.Current r ∧ r.silent = false
  page : ∀ answer, s.shown = some answer → s.loading = false → answer.1.page = s.watchedPage
  error : s.errorMessage ≠ [] → s.shown = none
  complete : s.wanted ≠ none → s.shown = none → s.errorMessage = [] → ∃ r, s.Current r

/-- The timer runs while the dialog is shown and asked to refresh. -/
def TimerRight (s : State R) : Prop :=
  s.refreshTimer = (s.visible && s.watchedAutoRefresh)

/-- No watcher is due. -/
def Flushed (s : State R) : Prop :=
  s.page = s.watchedPage ∧ s.autoRefresh = s.watchedAutoRefresh

/-- No request of the dialog counts any more. -/
def Quiet (s : State R) : Prop :=
  ∀ r ∈ s.inFlight, r.version < s.requestVersion

section Load

variable {s : State R} {silent : Bool} {instanceId : Text}

theorem wanted_of_hidden (h : s.visible = false) : s.wanted = none := by
  simp [State.wanted, h]

theorem loadAuditLogs_of_none (h : s.wanted = none) : loadAuditLogs s silent = s := by
  rw [loadAuditLogs, h]

theorem loadAuditLogs_of_some (h : s.wanted = some instanceId) :
    loadAuditLogs s silent = { s with
      requestVersion := s.requestVersion + 1
      loading := s.loading || !silent
      errorMessage := []
      inFlight := s.inFlight ++
        [⟨s.requestVersion + 1, instanceId, s.page, pageSize, silent⟩] } := by
  rw [loadAuditLogs, h]

theorem pageChanged_eq : pageChanged s = loadAuditLogs s false := by
  rw [pageChanged]
  split
  next => rfl
  next hhidden => rw [loadAuditLogs_of_none (wanted_of_hidden (by simpa using hhidden))]

theorem VersionsRight.load (h : VersionsRight s) : VersionsRight (loadAuditLogs s silent) := by
  cases hwanted : s.wanted with
  | none =>
    rw [loadAuditLogs_of_none hwanted]
    exact h
  | some instanceId =>
    rw [loadAuditLogs_of_some hwanted]
    refine ⟨?_, ?_⟩
    · rw [List.map_append, List.nodup_append]
      refine ⟨h.distinct, List.nodup_singleton _, ?_⟩
      intro version hversion new hnew
      obtain ⟨r, hr, rfl⟩ := List.mem_map.mp hversion
      have hle := h.le r hr
      rw [List.map_singleton, List.mem_singleton] at hnew
      dsimp only at hnew
      omega
    · intro r hr
      obtain hold | hnew := List.mem_append.mp hr
      · have hle := h.le r hold
        dsimp only
        omega
      · rw [List.mem_singleton.mp hnew]

/-- After a load the only request that counts is the new one. -/
theorem current_load (h : VersionsRight s) (hwanted : s.wanted = some instanceId)
    {r : AuditRequest} : (loadAuditLogs s silent).Current r ↔
      r = ⟨s.requestVersion + 1, instanceId, s.page, pageSize, silent⟩ := by
  rw [loadAuditLogs_of_some hwanted, State.Current]
  constructor
  · intro hcurrent
    obtain ⟨hmem, hversion⟩ := hcurrent
    obtain hold | hnew := List.mem_append.mp hmem
    · have hle := h.le r hold
      dsimp only at hversion
      omega
    · exact List.mem_singleton.mp hnew
  · rintro rfl
    exact ⟨List.mem_append_right _ (List.mem_singleton_self _), rfl⟩

/-- A load makes the invariant hold, whatever was under way before. A silent one needs that no
load with a spinner is under way, and that the right page is shown. -/
theorem Inv.of_load (hversions : VersionsRight s) (hshows : ShowsAnswer s)
    (hwanted : s.wanted = some instanceId) (hpage : s.page = s.watchedPage)
    (hsilent : silent = true → s.loading = false ∧
      ∀ answer, s.shown = some answer → answer.1.page = s.watchedPage) :
    Inv (loadAuditLogs s silent) := by
  have hcurrent : ∀ r, (loadAuditLogs s silent).Current r ↔
      r = ⟨s.requestVersion + 1, instanceId, s.page, pageSize, silent⟩ := by
    intro r
    exact current_load hversions hwanted
  have hload := @loadAuditLogs_of_some R s silent instanceId hwanted
  have hsame : (loadAuditLogs s silent).wanted = s.wanted := by
    rw [hload]
    rfl
  refine ⟨hversions.load, ⟨?_, ?_, ?_⟩, ?_, ?_, ?_, ?_, ?_⟩
  · rw [hload]
    exact hshows.records
  · rw [hload]
    exact hshows.total
  · rw [hsame, hload]
    exact hshows.instanceId
  · intro r hr
    rw [hsame, (hcurrent r).mp hr, hload]
    exact ⟨hwanted, hpage, rfl⟩
  · simp only [hcurrent, exists_eq_left]
    rw [hload]
    cases silent with
    | false => simp
    | true => simp [(hsilent rfl).1]
  · rw [hload]
    intro answer hanswer hloading
    cases silent with
    | false => simp at hloading
    | true => exact (hsilent rfl).2 answer hanswer
  · rw [hload]
    exact fun hne => absurd rfl hne
  · intro _ _ _
    exact ⟨_, (hcurrent _).mpr rfl⟩

theorem TimerRight.load (h : TimerRight s) : TimerRight (loadAuditLogs s silent) := by
  unfold loadAuditLogs
  split
  next => exact h
  next => exact h

end Load

section Steps

variable {s : State R}

/-- Where nothing is asked for, nothing counts and nothing is shown. -/
theorem Inv.idle (h : Inv s) (hwanted : s.wanted = none) :
    (∀ r, ¬s.Current r) ∧ s.shown = none := by
  refine ⟨?_, ?_⟩
  · intro r hr
    have hsome := (h.current r hr).1
    rw [hwanted] at hsome
    cases hsome
  · rw [Option.eq_none_iff_forall_ne_some]
    intro answer hanswer
    have hsome := h.instanceId answer hanswer
    rw [hwanted] at hsome
    cases hsome

/-- The page that the user turned to is loaded with a spinner, in the place of all before. -/
theorem Inv.flushPage (h : Inv s) : Inv (flushPage s) := by
  rw [AuditDialog.flushPage, pageChanged_eq]
  split
  next => exact h
  next =>
    cases hwanted : s.wanted with
    | none =>
      obtain ⟨hnone, hshown⟩ := h.idle hwanted
      rw [@loadAuditLogs_of_none R { s with watchedPage := s.page } false hwanted]
      refine ⟨⟨h.distinct, h.le⟩, ⟨h.records, h.total, h.instanceId⟩, ?_, h.loading, ?_, h.error,
        h.complete⟩
      · intro r hr
        exact absurd hr (hnone r)
      · intro answer hanswer
        rw [show s.shown = some answer from hanswer] at hshown
        cases hshown
    | some instanceId =>
      refine @Inv.of_load R { s with watchedPage := s.page } false instanceId
        ⟨h.distinct, h.le⟩ ⟨h.records, h.total, h.instanceId⟩ hwanted rfl ?_
      intro hfalse
      cases hfalse

/-- The invariant does not look at the timer, nor at a page no watcher has seen. -/
theorem Inv.frame (h : Inv s) {page : ℕ} {autoRefresh watched timer : Bool} :
    Inv { s with
      page := page
      autoRefresh := autoRefresh
      watchedAutoRefresh := watched
      refreshTimer := timer } :=
  ⟨⟨h.distinct, h.le⟩, ⟨h.records, h.total, h.instanceId⟩, h.current, h.loading, h.page, h.error,
    h.complete⟩

theorem Inv.flushAutoRefresh (h : Inv s) : Inv (flushAutoRefresh s) := by
  rw [AuditDialog.flushAutoRefresh]
  split
  next => exact h
  next => exact h.frame

theorem VersionsRight.flush (h : VersionsRight s) : VersionsRight (flush s) := by
  have hpage : VersionsRight (AuditDialog.flushPage s) := by
    rw [AuditDialog.flushPage, pageChanged_eq]
    split
    next => exact h
    next => exact VersionsRight.load ⟨h.distinct, h.le⟩
  rw [AuditDialog.flush, flushAutoRefresh]
  split
  next => exact hpage
  next => exact ⟨hpage.distinct, hpage.le⟩

theorem TimerRight.flush (h : TimerRight s) : TimerRight (flush s) := by
  have hpage : TimerRight (flushPage s) := by
    rw [flushPage, pageChanged_eq]
    split
    next => exact h
    next => exact TimerRight.load h
  rw [AuditDialog.flush, flushAutoRefresh]
  split
  next => exact hpage
  next => rfl

theorem TimerRight.sync (h : s.autoRefresh = s.watchedAutoRefresh) :
    TimerRight (syncRefreshTimer s) := by
  simp [TimerRight, syncRefreshTimer, h]

/-- A load leaves all but the requests, the spinner and the error alone. -/
theorem load_frame {silent : Bool} :
    (loadAuditLogs s silent).mounted = s.mounted ∧
    (loadAuditLogs s silent).page = s.page ∧
    (loadAuditLogs s silent).watchedPage = s.watchedPage ∧
    (loadAuditLogs s silent).autoRefresh = s.autoRefresh ∧
    (loadAuditLogs s silent).watchedAutoRefresh = s.watchedAutoRefresh := by
  unfold loadAuditLogs
  split
  next => simp
  next => simp

theorem flush_flushed : Flushed (flush s) := by
  have hpage : (flushPage s).page = (flushPage s).watchedPage := by
    rw [flushPage, pageChanged_eq]
    split
    next heq => exact heq
    next => rw [load_frame.2.1, load_frame.2.2.1]
  rw [flush, flushAutoRefresh]
  split
  next hrefresh => exact ⟨hpage, hrefresh⟩
  next => exact ⟨hpage, rfl⟩

theorem flush_of_flushed (h : Flushed s) : flush s = s := by
  simp [flush, flushPage, flushAutoRefresh, h.1, h.2]

theorem flush_mounted : (flush s).mounted = s.mounted := by
  have hpage : (flushPage s).mounted = s.mounted := by
    rw [flushPage, pageChanged_eq]
    split
    next => rfl
    next => rw [load_frame.1]
  rw [flush, flushAutoRefresh]
  split
  next => exact hpage
  next => exact hpage

/-- Nothing is shown and nothing counts. -/
structure Blank (s : State R) : Prop extends VersionsRight s where
  quiet : Quiet s
  records : s.records = []
  total : s.total = 0
  shown : s.shown = none
  loading : s.loading = false
  error : s.errorMessage = []

theorem Quiet.not_current (h : Quiet s) (r : AuditRequest) : ¬s.Current r := by
  intro hr
  have hlt := h r hr.1
  have heq := hr.2
  omega

theorem Blank.reset (h : VersionsRight s) : Blank s.reset := by
  refine ⟨⟨h.distinct, ?_⟩, ?_, rfl, rfl, rfl, rfl, rfl⟩
  · intro r hr
    exact Nat.le_succ_of_le (h.le r hr)
  · intro r hr
    exact Nat.lt_succ_of_le (h.le r hr)

/-- With no request under way that counts, the dialog shows a page or an error. -/
theorem Inv.of_quiet (hversions : VersionsRight s) (hshows : ShowsAnswer s)
    (hquiet : ∀ r, ¬s.Current r) (hloading : s.loading = false)
    (hpage : ∀ answer, s.shown = some answer → answer.1.page = s.watchedPage)
    (herror : s.errorMessage ≠ [] → s.shown = none)
    (hcomplete : s.wanted ≠ none → s.shown = none → s.errorMessage ≠ []) : Inv s := by
  refine ⟨hversions, hshows, ?_, ?_, ?_, herror, ?_⟩
  · intro r hr
    exact absurd hr (hquiet r)
  · simp [hloading, hquiet]
  · intro answer hanswer _
    exact hpage answer hanswer
  · intro hwanted hshown hnone
    exact absurd hnone (hcomplete hwanted hshown)

/-- A blank dialog asks for the page of its instance, if it is shown and has one. -/
theorem Blank.load (h : Blank s) (hpage : s.page = s.watchedPage) :
    Inv (loadAuditLogs s false) := by
  have hshows : ShowsAnswer s := by
    refine ⟨by simp [h.records, h.shown], by simp [h.total, h.shown], ?_⟩
    intro answer hanswer
    rw [h.shown] at hanswer
    cases hanswer
  cases hwanted : s.wanted with
  | none =>
    rw [loadAuditLogs_of_none hwanted]
    refine Inv.of_quiet ⟨h.distinct, h.le⟩ hshows h.quiet.not_current h.loading ?_ ?_ ?_
    · simp [h.shown]
    · simp [h.shown]
    · simp [hwanted]
  | some instanceId =>
    refine Inv.of_load ⟨h.distinct, h.le⟩ hshows hwanted hpage ?_
    intro hfalse
    cases hfalse

/-- With no watcher due, new props make the invariant hold, whatever was shown before. -/
theorem Inv.of_props (h : VersionsRight s) (hflushed : Flushed s) :
    Inv (flush (propsChanged s)) ∧ TimerRight (flush (propsChanged s)) := by
  have hblank := Blank.reset h
  cases hvisible : s.visible with
  | false =>
    have hprops : propsChanged s = s.reset := by
      simp [propsChanged, State.reset, State.clear, hvisible]
    have hwanted : s.reset.wanted = none := wanted_of_hidden hvisible
    have hinv := hblank.load hflushed.1
    rw [loadAuditLogs_of_none hwanted] at hinv
    have hsame : flush s.reset = s.reset := flush_of_flushed hflushed
    rw [hprops, hsame]
    exact ⟨hinv, by simp [TimerRight, State.reset, State.clear, hvisible]⟩
  | true =>
    by_cases hfirst : s.page = 1
    · -- The watcher asks for the first page itself, and nothing is due after it.
      have hprops : propsChanged s = syncRefreshTimer (loadAuditLogs s.reset false) := by
        simp [propsChanged, State.reset, State.clear, hvisible, hfirst]
      obtain ⟨_, hpage, hwatched, hrefresh, hwatchedRefresh⟩ := @load_frame R s.reset false
      have hsame : flush (syncRefreshTimer (loadAuditLogs s.reset false)) =
          syncRefreshTimer (loadAuditLogs s.reset false) := by
        refine flush_of_flushed ⟨?_, ?_⟩
        · exact hpage.trans (hflushed.1.trans hwatched.symm)
        · exact hrefresh.trans (hflushed.2.trans hwatchedRefresh.symm)
      rw [hprops, hsame]
      refine ⟨(hblank.load hflushed.1).frame, TimerRight.sync ?_⟩
      exact hrefresh.trans (hflushed.2.trans hwatchedRefresh.symm)
    · -- The watcher turns to the first page, and the watcher of the page asks for it.
      have hprops : propsChanged s = syncRefreshTimer { s.reset with page := 1 } := by
        simp [propsChanged, State.reset, State.clear, hvisible, hfirst]
      have hpage : AuditDialog.flushPage (syncRefreshTimer { s.reset with page := 1 }) =
          loadAuditLogs (syncRefreshTimer { s.reset with page := 1, watchedPage := 1 }) false := by
        have hwatched : ¬1 = s.watchedPage := by
          rw [← hflushed.1]
          omega
        rw [AuditDialog.flushPage, pageChanged_eq]
        exact if_neg hwatched
      have hsame : flush (propsChanged s) =
          loadAuditLogs (syncRefreshTimer { s.reset with page := 1, watchedPage := 1 }) false := by
        obtain ⟨_, _, _, hrefresh, hwatchedRefresh⟩ :=
          @load_frame R (syncRefreshTimer { s.reset with page := 1, watchedPage := 1 }) false
        rw [hprops, AuditDialog.flush, hpage, AuditDialog.flushAutoRefresh]
        exact if_pos (hrefresh.trans (hflushed.2.trans hwatchedRefresh.symm))
      rw [hsame]
      refine ⟨Blank.load ⟨⟨hblank.distinct, hblank.le⟩, hblank.quiet, rfl, rfl, rfl, rfl, rfl⟩ rfl,
        TimerRight.load (TimerRight.sync ?_)⟩
      exact hflushed.2

/-- Once a request is settled, no other has its version. -/
theorem VersionsRight.settled (h : VersionsRight s) {place : ℕ} {request : AuditRequest}
    (hget : s.inFlight[place]? = some request) :
    VersionsRight { s with inFlight := s.inFlight.eraseIdx place } ∧
    ∀ r ∈ s.inFlight.eraseIdx place, r.version ≠ request.version := by
  refine ⟨⟨?_, ?_⟩, ?_⟩
  · exact h.distinct.sublist ((List.eraseIdx_sublist ..).map _)
  · intro r hr
    exact h.le r (List.mem_of_mem_eraseIdx hr)
  · intro r hr heq
    obtain ⟨i, hne, hi⟩ := List.mem_eraseIdx_iff_getElem?.mp hr
    obtain ⟨hlt, _⟩ := List.getElem?_eq_some_iff.mp hi
    have hlt : i < (s.inFlight.map AuditRequest.version).length := by simpa using hlt
    refine hne ((List.getElem?_inj hlt h.distinct).mp ?_)
    rw [List.getElem?_map, List.getElem?_map, hi, hget, Option.map_some, Option.map_some, heq]

/-- The texts of the page have a message where the API gave none. -/
structure Translated (t : Text → Text) : Prop where
  loadFailed : t "app.simulation.auditDialog.loadFailed" ≠ []
  instanceUnavailable : t "app.simulation.auditDialog.instanceUnavailable" ≠ []

theorem failureMessage_ne_nil {t : Text → Text} (ht : Translated t) (response : Response R) :
    failureMessage t response ≠ [] := by
  rw [failureMessage]
  split
  next => exact ht.instanceUnavailable
  next =>
    split
    next => exact ht.loadFailed
    next hmessage => simpa using hmessage

/-- An answer that counts is shown, or its error is. -/
theorem receive_cases {t : Text → Text} (ht : Translated t) (request : AuditRequest)
    (outcome : Option (Response R)) :
    (∃ message data, outcome = some ⟨true, message, some data⟩ ∧ s.receive t request outcome =
      { s with
        records := data.records
        total := data.total
        shown := some (request, data) }) ∨
    ∃ message, message ≠ [] ∧ s.receive t request outcome = s.clear message := by
  cases outcome with
  | none => exact Or.inr ⟨_, ht.loadFailed, rfl⟩
  | some response =>
    have hmessage := failureMessage_ne_nil ht response
    obtain ⟨success, message, data⟩ := response
    cases success with
    | false => exact Or.inr ⟨_, hmessage, rfl⟩
    | true =>
      cases data with
      | none => exact Or.inr ⟨_, hmessage, rfl⟩
      | some data => exact Or.inl ⟨message, data, rfl, rfl⟩

/-- Two requests with one version are one request. -/
theorem VersionsRight.eq_of_version (h : VersionsRight s) {r q : AuditRequest}
    (hr : r ∈ s.inFlight) (hq : q ∈ s.inFlight) (hversion : r.version = q.version) : r = q :=
  List.inj_on_of_nodup_map h.distinct hr hq hversion

/-- The answer to a request that another has replaced changes nothing. -/
theorem Inv.settle_late (h : Inv s) {place : ℕ} {request : AuditRequest}
    (hget : s.inFlight[place]? = some request) (hlate : request.version ≠ s.requestVersion) :
    Inv { s with inFlight := s.inFlight.eraseIdx place } := by
  have hcurrent : ∀ r, State.Current { s with inFlight := s.inFlight.eraseIdx place } r ↔
      s.Current r := by
    intro r
    constructor
    · intro hr
      exact ⟨List.mem_of_mem_eraseIdx hr.1, hr.2⟩
    · intro hr
      obtain ⟨i, hi⟩ := List.mem_iff_getElem?.mp hr.1
      have hne : i ≠ place := by
        rintro rfl
        rw [hget] at hi
        obtain rfl := Option.some.inj hi
        exact hlate hr.2
      exact ⟨List.mem_eraseIdx_iff_getElem?.mpr ⟨i, hne, hi⟩, hr.2⟩
  refine ⟨(h.toVersionsRight.settled hget).1, ⟨h.records, h.total, h.instanceId⟩, ?_, ?_, h.page,
    h.error, ?_⟩
  · intro r hr
    exact h.current r ((hcurrent r).mp hr)
  · simp only [hcurrent]
    exact h.loading
  · simp only [hcurrent]
    exact h.complete

/-- A silent load that counts has no spinner to take away. -/
theorem Inv.finish {silent : Bool} (hloading : silent = true → s.loading = false)
    (h : Inv { s with loading := false }) : Inv (s.finish silent) := by
  rw [State.finish]
  split
  next hsilent =>
    rw [← hloading hsilent] at h
    exact h
  next => exact h

theorem Inv.settle (h : Inv s) {t : Text → Text} (ht : Translated t) {place : ℕ}
    {request : AuditRequest} {outcome : Option (Response R)}
    (hget : s.inFlight[place]? = some request) :
    Inv (settle t { s with inFlight := s.inFlight.eraseIdx place } request outcome) := by
  obtain ⟨hversions, hothers⟩ := h.toVersionsRight.settled hget
  have hmem : request ∈ s.inFlight := List.mem_of_getElem? hget
  rw [AuditDialog.settle]
  split
  next hlate => exact h.settle_late hget hlate
  next hcounts =>
    have hversion : request.version = s.requestVersion := by simpa using hcounts
    obtain ⟨hwanted, hpage, herror⟩ := h.current request ⟨hmem, hversion⟩
    have hquiet : ∀ r ∈ s.inFlight.eraseIdx place, r.version ≠ s.requestVersion := by
      rw [← hversion]
      exact hothers
    have hloading : request.silent = true → s.loading = false := by
      intro hsilent
      by_contra htrue
      obtain ⟨r, hr, hspinner⟩ := h.loading.mp (by simpa using htrue)
      have hsame := h.eq_of_version hr.1 hmem (hr.2.trans hversion.symm)
      rw [hsame, hsilent] at hspinner
      cases hspinner
    obtain ⟨message, data, houtcome, hreceive⟩ | ⟨message, hmessage, hreceive⟩ :=
      @receive_cases R { s with inFlight := s.inFlight.eraseIdx place } t ht request outcome
    · rw [hreceive]
      refine Inv.finish hloading (Inv.of_quiet ⟨hversions.distinct, hversions.le⟩ ⟨rfl, rfl, ?_⟩
        (fun r hr => hquiet r hr.1 hr.2) rfl ?_ ?_ ?_)
      · intro answer hanswer
        obtain rfl := Option.some.inj hanswer
        exact hwanted
      · intro answer hanswer
        obtain rfl := Option.some.inj hanswer
        exact hpage
      · intro hne
        exact absurd herror hne
      · intro _ hnone
        cases hnone
    · rw [hreceive]
      refine Inv.finish hloading (Inv.of_quiet ⟨hversions.distinct, hversions.le⟩ ⟨rfl, rfl, ?_⟩
        (fun r hr => hquiet r hr.1 hr.2) rfl ?_ (fun _ => rfl) (fun _ _ => hmessage))
      · intro answer hanswer
        cases hanswer
      · intro answer hanswer
        cases hanswer

end Steps

/-- The texts that the table shows came with an answer of the API. -/
def Answered (actions : List (Action R)) (s : State R) : Prop :=
  ∀ answer, s.shown = some answer →
    ∃ place message, Action.settle place (some ⟨true, message, some answer.2⟩) ∈ actions

/-- What the dialog owes its user, and what it owes the page once it is gone. -/
structure DialogRight (actions : List (Action R)) (s : State R) : Prop where
  answered : Answered actions s
  mounted : s.mounted = true → Inv s ∧ TimerRight s
  unmounted : s.mounted = false → Quiet s ∧ s.refreshTimer = false

section Runs

variable {t : Text → Text} {s s' : State R} {done : List (Action R)}

/-- Whatever shows no more than before, shows what was answered. -/
theorem Answered.mono {action : Action R} (h : Answered done s)
    (hshown : s'.shown = s.shown ∨ s'.shown = none) : Answered (done ++ [action]) s' := by
  intro answer hanswer
  obtain hsame | hnone := hshown
  · rw [hsame] at hanswer
    obtain ⟨place, message, hmem⟩ := h answer hanswer
    exact ⟨place, message, List.mem_append_left _ hmem⟩
  · rw [hnone] at hanswer
    cases hanswer

theorem load_shown {silent : Bool} : (loadAuditLogs s silent).shown = s.shown := by
  unfold loadAuditLogs
  split <;> rfl

theorem flush_shown : (flush s).shown = s.shown := by
  have hpage : (flushPage s).shown = s.shown := by
    rw [flushPage, pageChanged_eq]
    split
    next => rfl
    next => rw [load_shown]
  rw [flush, flushAutoRefresh]
  split
  next => exact hpage
  next => exact hpage

/-- A dialog that stays mounted only owes what a mounted one does. -/
theorem DialogRight.of_mounted {action : Action R} (hmounted : s'.mounted = true)
    (hanswered : Answered (done ++ [action]) s') (hinv : Inv s') (htimer : TimerRight s') :
    DialogRight (done ++ [action]) s' := by
  refine ⟨hanswered, fun _ => ⟨hinv, htimer⟩, ?_⟩
  intro hgone
  rw [hmounted] at hgone
  cases hgone

theorem propsChanged_shown : (propsChanged s).shown = none := by
  rw [propsChanged]
  split
  next =>
    rw [syncRefreshTimer]
    dsimp only
    split
    next => rfl
    next => rw [load_shown]; rfl
  next => rfl

theorem propsChanged_mounted : (propsChanged s).mounted = s.mounted := by
  rw [propsChanged]
  split
  next =>
    rw [syncRefreshTimer]
    dsimp only
    split
    next => rfl
    next => rw [load_frame.1]; rfl
  next => rfl

theorem step_setProps (hmounted : s.mounted = true) (h : Answered done s) (hinv : Inv s)
    {visible : Bool} {instanceId : Option Text}
    (hstep : step t s (.setProps visible instanceId) = some s') :
    DialogRight (done ++ [.setProps visible instanceId]) s' := by
  rw [step, if_pos hmounted] at hstep
  obtain rfl := Option.some.inj hstep
  have hversions : VersionsRight { s with visible := visible, instanceId := instanceId } :=
    ⟨hinv.distinct, hinv.le⟩
  obtain ⟨hprops, htimer⟩ := Inv.of_props hversions.flush flush_flushed
  refine DialogRight.of_mounted ?_ (h.mono (Or.inr ?_)) hprops htimer
  · rw [flush_mounted, propsChanged_mounted, flush_mounted]
    exact hmounted
  · rw [flush_shown, propsChanged_shown]

/-- The timer asks for the page again, unless a load with a spinner is under way. -/
theorem step_tick (hmounted : s.mounted = true) (h : Answered done s) (hinv : Inv s)
    (htimer : TimerRight s) (hstep : step t s .tick = some s') :
    DialogRight (done ++ [.tick]) s' := by
  rw [step] at hstep
  split at hstep
  next hfires =>
    obtain rfl := Option.some.inj hstep
    split
    next => exact DialogRight.of_mounted hmounted (h.mono (Or.inl rfl)) hinv htimer
    next hloading =>
      refine DialogRight.of_mounted (load_frame.1.trans hmounted) (h.mono (Or.inl load_shown)) ?_
        htimer.load
      have hidle : s.loading = false := by simpa using hloading
      cases hwanted : s.wanted with
      | none =>
        rw [loadAuditLogs_of_none hwanted]
        exact hinv
      | some instanceId =>
        refine Inv.of_load hinv.toVersionsRight hinv.toShowsAnswer hwanted hfires.2.1 ?_
        intro _
        exact ⟨hidle, fun answer hanswer => hinv.page answer hanswer hidle⟩
  next => cases hstep

/-- The user asks for the page again, with a spinner, also while the timer does. -/
theorem step_refresh (h : Answered done s) (hinv : Inv s) (htimer : TimerRight s)
    (hstep : step t s .refresh = some s') : DialogRight (done ++ [.refresh]) s' := by
  rw [step] at hstep
  split at hstep
  next hpressed =>
    obtain ⟨hmounted, _, _, hpage, _⟩ := hpressed
    obtain rfl := Option.some.inj hstep
    refine DialogRight.of_mounted (load_frame.1.trans hmounted) (h.mono (Or.inl load_shown)) ?_
      htimer.load
    cases hwanted : s.wanted with
    | none =>
      rw [loadAuditLogs_of_none hwanted]
      exact hinv
    | some instanceId =>
      refine Inv.of_load hinv.toVersionsRight hinv.toShowsAnswer hwanted hpage ?_
      intro hsilent
      cases hsilent
  next => cases hstep

theorem finish_frame {silent : Bool} :
    (s.finish silent).mounted = s.mounted ∧ (s.finish silent).visible = s.visible ∧
    (s.finish silent).watchedAutoRefresh = s.watchedAutoRefresh ∧
    (s.finish silent).refreshTimer = s.refreshTimer ∧ (s.finish silent).shown = s.shown := by
  rw [State.finish]
  split <;> simp

/-- What an answer does not touch. -/
theorem settle_frame (ht : Translated t) (s : State R) (request : AuditRequest)
    (outcome : Option (Response R)) :
    (settle t s request outcome).mounted = s.mounted ∧
    (settle t s request outcome).visible = s.visible ∧
    (settle t s request outcome).watchedAutoRefresh = s.watchedAutoRefresh ∧
    (settle t s request outcome).refreshTimer = s.refreshTimer := by
  rw [settle]
  split
  next => simp
  next =>
    obtain ⟨hmounted, hvisible, hwatched, hrefresh, _⟩ :=
      @finish_frame R (s.receive t request outcome) request.silent
    rw [hmounted, hvisible, hwatched, hrefresh]
    obtain ⟨_, _, _, hreceive⟩ | ⟨_, _, hreceive⟩ := receive_cases ht request outcome
    · rw [hreceive]
      exact ⟨rfl, rfl, rfl, rfl⟩
    · rw [hreceive]
      exact ⟨rfl, rfl, rfl, rfl⟩

theorem Answered.settle (ht : Translated t) (h : Answered done s) {place : ℕ}
    (request : AuditRequest) (outcome : Option (Response R)) :
    Answered (done ++ [.settle place outcome]) (settle t s request outcome) := by
  rw [AuditDialog.settle]
  split
  next => exact h.mono (Or.inl rfl)
  next =>
    obtain ⟨_, _, _, _, hshown⟩ := @finish_frame R (s.receive t request outcome) request.silent
    obtain ⟨message, data, houtcome, hreceive⟩ | ⟨_, _, hreceive⟩ :=
      receive_cases ht request outcome
    · intro answer hanswer
      rw [hshown, hreceive] at hanswer
      obtain rfl := Option.some.inj hanswer
      refine ⟨place, message, ?_⟩
      simp [houtcome]
    · rw [hreceive] at hshown ⊢
      exact h.mono (Or.inr hshown)

theorem step_settle (ht : Translated t) (hmounted : s.mounted = true) (h : Answered done s)
    (hinv : Inv s) (htimer : TimerRight s) {place : ℕ} {outcome : Option (Response R)}
    (hstep : step t s (.settle place outcome) = some s') :
    DialogRight (done ++ [.settle place outcome]) s' := by
  rw [step] at hstep
  split at hstep
  next request hget =>
    obtain rfl := Option.some.inj hstep
    obtain ⟨hsame, hvisible, hwatched, hrefresh⟩ :=
      settle_frame ht { s with inFlight := s.inFlight.eraseIdx place } request outcome
    have hanswered : Answered done { s with inFlight := s.inFlight.eraseIdx place } := h
    refine DialogRight.of_mounted (hsame.trans hmounted) (hanswered.settle ht request outcome)
      (hinv.settle ht hget) ?_
    rw [TimerRight, hvisible, hwatched, hrefresh]
    exact htimer
  next => cases hstep

/-- Nothing but a late answer comes to a dialog that is gone, and it changes nothing. -/
theorem step_unmounted {action : Action R} (hgone : s.mounted = false) (h : Answered done s)
    (hquiet : Quiet s) (htimer : s.refreshTimer = false) (hstep : step t s action = some s') :
    DialogRight (done ++ [action]) s' := by
  cases action with
  | settle place outcome =>
    rw [step] at hstep
    split at hstep
    next request hget =>
      have hlate : request.version ≠ s.requestVersion :=
        Nat.ne_of_lt (hquiet request (List.mem_of_getElem? hget))
      rw [settle, if_pos hlate] at hstep
      obtain rfl := Option.some.inj hstep
      refine ⟨h.mono (Or.inl rfl), ?_, ?_⟩
      · intro hmounted
        rw [show s.mounted = true from hmounted] at hgone
        cases hgone
      · intro _
        refine ⟨?_, htimer⟩
        intro r hr
        exact hquiet r (List.mem_of_mem_eraseIdx hr)
    next => cases hstep
  | _ => simp [step, hgone, htimer] at hstep

theorem step_dialogRight (ht : Translated t) {action : Action R} (h : DialogRight done s)
    (hstep : step t s action = some s') : DialogRight (done ++ [action]) s' := by
  obtain ⟨hanswered, hmounted, hunmounted⟩ := h
  cases hpresent : s.mounted with
  | false =>
    obtain ⟨hquiet, htimer⟩ := hunmounted hpresent
    exact step_unmounted hpresent hanswered hquiet htimer hstep
  | true =>
    obtain ⟨hinv, htimer⟩ := hmounted hpresent
    cases action with
    | setProps visible instanceId => exact step_setProps hpresent hanswered hinv hstep
    | setPage page =>
      rw [step, if_pos hpresent] at hstep
      obtain rfl := Option.some.inj hstep
      exact DialogRight.of_mounted hpresent (hanswered.mono (Or.inl rfl)) hinv.frame htimer
    | setAutoRefresh autoRefresh =>
      rw [step, if_pos hpresent] at hstep
      obtain rfl := Option.some.inj hstep
      exact DialogRight.of_mounted hpresent (hanswered.mono (Or.inl rfl)) hinv.frame htimer
    | flush =>
      rw [step, if_pos hpresent] at hstep
      obtain rfl := Option.some.inj hstep
      exact DialogRight.of_mounted (flush_mounted.trans hpresent)
        (hanswered.mono (Or.inl flush_shown)) hinv.flushPage.flushAutoRefresh htimer.flush
    | tick => exact step_tick hpresent hanswered hinv htimer hstep
    | refresh => exact step_refresh hanswered hinv htimer hstep
    | settle place outcome => exact step_settle ht hpresent hanswered hinv htimer hstep
    | unmount =>
      rw [step, if_pos hpresent] at hstep
      obtain rfl := Option.some.inj hstep
      refine ⟨hanswered.mono (Or.inl rfl), ?_, ?_⟩
      · intro hmounted
        cases hmounted
      · intro _
        refine ⟨?_, rfl⟩
        intro r hr
        exact Nat.lt_succ_of_le (hinv.le r hr)

theorem start_dialogRight : DialogRight [] (State.start : State R) := by
  have hanswered : Answered [] (State.start : State R) := by
    intro answer hanswer
    cases hanswer
  have hquiet : ∀ r, ¬(State.start : State R).Current r := by
    intro r hr
    cases hr.1
  refine ⟨hanswered, ?_, ?_⟩
  · intro _
    refine ⟨Inv.of_quiet ⟨List.nodup_nil, ?_⟩ ⟨rfl, rfl, ?_⟩ hquiet rfl ?_ (fun _ => rfl) ?_, rfl⟩
    · intro r hr
      cases hr
    · intro answer hanswer
      cases hanswer
    · intro answer hanswer
      cases hanswer
    · intro hwanted
      exact absurd rfl hwanted
  · intro hgone
    cases hgone

/-- In whatever order props, pages, timers, refreshes and answers come, the dialog shows the records
of one answer about its own instance, and of its own page unless it is loading; it says that it
loads exactly while a load with a spinner is under way; and it shows an error or a page once it is
done. A dialog that is gone hears of no answer. -/
theorem run_dialogRight (ht : Translated t) {actions : List (Action R)}
    (hrun : run (step t) State.start actions = some s) : DialogRight actions s :=
  run_keeps (fun _ _ _ _ h hstep => step_dialogRight ht h hstep) start_dialogRight hrun

/-- A page is turned before the first answer came. The timer asks for the second again, and before
it is answered so does the user. -/
def turnedPage : List (Action ℕ) :=
  [.setProps true (some "mysql-1"), .setPage 2, .flush,
    .settle 0 (some ⟨true, [], some ⟨[1, 2], 3⟩⟩), .settle 0 (some ⟨true, [], some ⟨[3], 3⟩⟩),
    .setAutoRefresh true, .flush, .tick, .refresh, .settle 0 none,
    .settle 0 (some ⟨true, [], some ⟨[3, 4], 4⟩⟩)]

theorem turnedPage_dialogRight : ∃ s, run (step id) State.start turnedPage = some s ∧
    s.records = [3, 4] ∧ DialogRight turnedPage s := by
  have ht : Translated id := ⟨by decide, by decide⟩
  exact ⟨_, rfl, rfl, run_dialogRight ht rfl⟩

end Runs

end ProtocolSimulation.AuditDialog
