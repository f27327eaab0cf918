import ProtocolSimulation.AuditWriter

/-!
# Audit logs of one instance beside those of the others

Two runs of the writer side by side: one on the events of all instances, and one
on the events of a single instance. What that instance sees is the same in both
exactly as long as none of its events bears an identifier that is stored for
another instance when the event is written.
-/
namespace ProtocolSimulation.Audit

open ProtocolSimulation.Texts ProtocolSimulation.JsonValues ProtocolSimulation.Storage
open ProtocolSimulation.Api ProtocolSimulation.Programs ProtocolSimulation.Retention
open ProtocolSimulation.RuntimeEvents

/-! ## Two runs -/

/-- The same events on the same channels at the same times, in another place of SQLite's
sequence. -/
def SameEvents : List AuditLogWriteRequest → List AuditLogWriteRequest → Prop :=
  List.Forall₂ fun r r' => r'.event = r.event ∧ r'.response = r.response ∧ r'.now = r.now

/-- `record_event` lets every request of the group pass. -/
structure Accepted (lib : EventLibraries) (db : Database) (instanceId : Text)
    (requests : List AuditLogWriteRequest) : Prop where
  nonempty : requests ≠ []
  size : requests.length ≤ 128
  group : ∀ r ∈ requests, r.event.instanceId = instanceId
  checked : ∀ r ∈ requests, ∃ authorization,
    checkEvent lib authorization (getInstance db instanceId) r.event = .ok ()

/-- A writer for all instances, and one that only gets the events of one of them. -/
structure TwoRuns where
  full : WriterState
  alone : WriterState

/-- One group in the full run, and what the run on its own gets of it. -/
structure GroupLabel where
  instanceId : Text
  requests : List AuditLogWriteRequest
  requestsAlone : List AuditLogWriteRequest

inductive TwoStep (lib : EventLibraries) (max : ℕ) (B : Text) :
    TwoRuns → GroupLabel → TwoRuns → Prop
  | own {s : TwoRuns} {requests requestsAlone : List AuditLogWriteRequest} :
      Accepted lib s.full.db B requests → SameEvents requests requestsAlone →
      TwoStep lib max B s ⟨B, requests, requestsAlone⟩
        ⟨(writeGroup lib.json max s.full B requests none).1,
          (writeGroup lib.json max s.alone B requestsAlone none).1⟩
  | other {s : TwoRuns} {id : Text} {requests : List AuditLogWriteRequest} : id ≠ B →
      Accepted lib s.full.db id requests →
      TwoStep lib max B s ⟨id, requests, []⟩
        ⟨(writeGroup lib.json max s.full id requests none).1, s.alone⟩

/-- Two rows read back that differ at most in their identifiers. -/
def SameLog (log log' : AuditLog) : Prop := { log with id := 0 } = { log' with id := 0 }

def SameOutcome : Except AuditLogWriteError AuditLog → Except AuditLogWriteError AuditLog → Prop
  | .ok log, .ok log' => SameLog log log'
  | .error e, .error e' => e = e'
  | _, _ => False

/-- The instance `B` is left with the same rows as on its own, its requests get the same
answers, and a row it is answered with is its own and the event's own. -/
structure Isolated (json : JsonCodec) (max : ℕ) (B : Text) (s : TwoRuns) (l : GroupLabel)
    (s' : TwoRuns) : Prop where
  rows : (logsOf s'.full.db.auditLogs B).map content = (logsOf s'.alone.db.auditLogs B).map content
  replies : l.instanceId = B → List.Forall₂ (fun a b => a.1 = b.1 ∧ SameOutcome a.2 b.2)
    (writeGroup json max s.full B l.requests none).2
    (writeGroup json max s.alone B l.requestsAlone none).2
  own : l.instanceId = B → List.Forall₂ (fun r reply => ∀ log, reply.2 = .ok log →
      log.instanceId = B ∧ log.eventId = r.event.eventId)
    l.requests (writeGroup json max s.full B l.requests none).2

/-- No event of `B` has an identifier that is stored for another instance. -/
def NoForeignEvent (B : Text) (s : TwoRuns) (l : GroupLabel) (_ : TwoRuns) : Prop :=
  l.instanceId = B → ∀ r ∈ l.requests, ∀ row ∈ s.full.db.auditLogs.rows,
    row.eventId = r.event.eventId → row.instanceId = B

/-! ## Reading back -/

/-- Every stored row can be read back. -/
def Decodes (json : JsonCodec) (t : AuditTable) : Prop :=
  ∀ r ∈ t.rows, ∃ metadata, json.parse r.metadataJson = some metadata

theorem intoLog_of_content {json : JsonCodec} {r r' : AuditLogRow} (h : content r = content r')
    {log : AuditLog} (hlog : intoLog json r = some log) :
    ∃ log', intoLog json r' = some log' ∧ SameLog log log' := by
  have hr' : r' = withId r r'.id := by
    have : withId (content r) r'.id = withId (content r') r'.id := by rw [h]
    exact this.symm
  obtain ⟨metadata, hmetadata, rfl⟩ := Option.map_eq_some_iff.mp hlog
  rw [hr']
  exact ⟨_, Option.map_eq_some_iff.mpr ⟨metadata, hmetadata, rfl⟩, rfl⟩

theorem intoLog_fields {json : JsonCodec} {r : AuditLogRow} {log : AuditLog}
    (h : intoLog json r = some log) : log.instanceId = r.instanceId ∧ log.eventId = r.eventId := by
  obtain ⟨metadata, -, rfl⟩ := Option.map_eq_some_iff.mp h
  exact ⟨rfl, rfl⟩

theorem decodes_insertOrIgnore {json : JsonCodec} {t : AuditTable} (ht : Decodes json t)
    (instanceId : Text) {request : AuditLogWriteRequest} (hjson : MetadataReadsBack json request) :
    Decodes json (insertOrIgnore t request.gap (eventRow json instanceId request)).1 := by
  rcases insertOrIgnore_spec t request.gap (eventRow json instanceId request) with
    ⟨-, heq⟩ | ⟨-, -, hrows⟩
  · rw [heq]
    exact ht
  · intro r hr
    rw [hrows] at hr
    rcases List.mem_append.mp hr with hold | hnew
    · exact ht r hold
    · rw [List.mem_singleton.mp hnew]
      exact Option.isSome_iff_exists.mp hjson

/-- Whatever is stored, the events of a batch are found again. -/
theorem insertEvents_ok {json : JsonCodec} (instanceId : Text) {t : AuditTable}
    (ht : Decodes json t) {requests : List AuditLogWriteRequest}
    (hjson : ∀ r ∈ requests, MetadataReadsBack json r) : ∃ t' logs count,
      insertEvents json instanceId t requests = .ok (t', logs, count) ∧ Decodes json t' := by
  induction requests generalizing t with
  | nil => exact ⟨t, [], 0, rfl, ht⟩
  | cons request rest ih =>
    rw [List.forall_mem_cons] at hjson
    have ht₁ := decodes_insertOrIgnore ht instanceId hjson.1
    obtain ⟨t', logs, count, hins, ht'⟩ := ih ht₁ hjson.2
    have hfound : ∃ row, findEvent (insertOrIgnore t request.gap
        (eventRow json instanceId request)).1 request.event.eventId = some row := by
      rcases insertOrIgnore_spec t request.gap (eventRow json instanceId request) with
        ⟨hstored, heq⟩ | ⟨-, -, hrows⟩
      · obtain ⟨row, hrow, hid⟩ := List.mem_map.mp hstored
        rw [heq]
        exact ⟨row, findEvent_eq_some_iff.mpr ⟨hrow, hid⟩⟩
      · refine ⟨withId (eventRow json instanceId request) (t.seq + 1 + request.gap), ?_⟩
        rw [findEvent_eq_some_iff, hrows]
        exact ⟨by simp, rfl⟩
    obtain ⟨row, hrow⟩ := hfound
    obtain ⟨metadata, hmetadata⟩ := ht₁ row (findEvent_eq_some_iff.mp hrow).1
    obtain ⟨log, hlog⟩ : ∃ log, intoLog json row = some log :=
      ⟨_, Option.map_eq_some_iff.mpr ⟨metadata, hmetadata, rfl⟩⟩
    refine ⟨t', log :: logs,
      (insertOrIgnore t request.gap (eventRow json instanceId request)).2 + count, ?_, ht'⟩
    rw [insertEvents]
    simp only [hrow, hlog, hins]

/-- An event that is stored already is answered with the stored row, whoever it belongs to. -/
theorem insertEvents_logs {json : JsonCodec} {instanceId : Text} {t t' : AuditTable}
    {requests : List AuditLogWriteRequest} {logs : List AuditLog} {count : ℕ}
    (h : insertEvents json instanceId t requests = .ok (t', logs, count)) :
    List.Forall₂ (fun r log => log.eventId = r.event.eventId ∧
      ∀ row ∈ t.rows, row.eventId = r.event.eventId → intoLog json row = some log)
        requests logs := by
  induction requests generalizing t logs count with
  | nil =>
    simp only [insertEvents, Except.ok.injEq, Prod.mk.injEq] at h
    rw [← h.2.1]
    exact .nil
  | cons request rest ih =>
    unfold insertEvents at h
    simp only at h
    split at h
    · exact absurd h (by simp)
    next row hrow =>
      split at h
      · exact absurd h (by simp)
      next log hlog =>
        split at h
        · exact absurd h (by simp)
        next t'' logs' count' hrest =>
          simp only [Except.ok.injEq, Prod.mk.injEq] at h
          obtain ⟨rfl, rfl, -⟩ := h
          have hsub : ∀ r ∈ t.rows,
              r ∈ (insertOrIgnore t request.gap (eventRow json instanceId request)).1.rows := by
            intro r hr
            rcases insertOrIgnore_spec t request.gap (eventRow json instanceId request) with
              ⟨-, heq⟩ | ⟨-, -, hrows⟩
            · rwa [heq]
            · rw [hrows]
              exact List.mem_append_left _ hr
          refine .cons ⟨?_, ?_⟩ ((ih hrest).imp fun _ _ hlogs =>
            ⟨hlogs.1, fun r hr => hlogs.2 r (hsub r hr)⟩)
          · rw [(intoLog_fields hlog).2, (findEvent_eq_some_iff.mp hrow).2]
          · intro r hr hid
            rw [findEvent_eq_some_iff.mpr ⟨hsub r hr, hid⟩] at hrow
            rw [Option.some.inj hrow]
            exact hlog

/-! ## The same group in both runs -/

/-- Up to identifiers both tables hold the same rows of `B`, and the second holds no others. -/
structure SameFor (B : Text) (t u : AuditTable) : Prop where
  logs : (logsOf t B).map content = (logsOf u B).map content
  alone : ∀ r ∈ u.rows, r.instanceId = B

theorem logsOf_alone {B : Text} {u : AuditTable} (h : ∀ r ∈ u.rows, r.instanceId = B) :
    logsOf u B = u.rows := List.filter_eq_self.mpr fun r hr => by simpa using h r hr

/-- A row of `B` in one table has its like in the other. -/
theorem SameFor.counterpart {B : Text} {t u : AuditTable} (h : SameFor B t u) {row : AuditLogRow}
    (hrow : row ∈ t.rows) (hB : row.instanceId = B) :
    ∃ row' ∈ u.rows, content row = content row' := by
  have hmem : content row ∈ (logsOf t B).map content :=
    List.mem_map_of_mem (List.mem_filter.mpr ⟨hrow, by simpa using hB⟩)
  rw [h.logs, logsOf_alone h.alone] at hmem
  obtain ⟨row', hrow', heq⟩ := List.mem_map.mp hmem
  exact ⟨row', hrow', heq.symm⟩

theorem SameFor.counterpart' {B : Text} {t u : AuditTable} (h : SameFor B t u) {row : AuditLogRow}
    (hrow : row ∈ u.rows) : ∃ row' ∈ t.rows, content row' = content row := by
  have hmem : content row ∈ (logsOf u B).map content := by
    rw [logsOf_alone h.alone]
    exact List.mem_map_of_mem hrow
  rw [← h.logs] at hmem
  obtain ⟨row', hrow', heq⟩ := List.mem_map.mp hmem
  exact ⟨row', (List.mem_filter.mp hrow').1, heq⟩

theorem eventId_of_content {r r' : AuditLogRow} (h : content r = content r') :
    r.eventId = r'.eventId := by
  have hid : (content r).eventId = (content r').eventId := by rw [h]
  exact hid

theorem instanceId_of_content {r r' : AuditLogRow} (h : content r = content r') :
    r.instanceId = r'.instanceId := by
  have hid : (content r).instanceId = (content r').instanceId := by rw [h]
  exact hid

/-- A new event of an instance is the last of its logs, and is found. -/
theorem event_added {json : JsonCodec} {B : Text} {t t' : AuditTable}
    {request : AuditLogWriteRequest} {n : ℕ}
    (hrows : t'.rows = t.rows ++ [withId (eventRow json B request) n]) :
    (∀ r ∈ t'.rows, r ∈ t.rows ∨ r.instanceId = B) ∧
      (logsOf t' B).map content = (logsOf t B).map content ++ [eventRow json B request] ∧
      findEvent t' request.event.eventId = some (withId (eventRow json B request) n) := by
  have hB : ∀ r ∈ [withId (eventRow json B request) n], r.instanceId = B := by
    intro r hr
    rw [List.mem_singleton.mp hr]
    rfl
  refine ⟨?_, ?_, ?_⟩
  · intro r hr
    rw [hrows] at hr
    rcases List.mem_append.mp hr with hold | hnew
    · exact .inl hold
    · exact .inr (hB r hnew)
  · rw [logsOf_append_added hrows hB, if_pos rfl, List.map_append]
    rfl
  · rw [findEvent_eq_some_iff, hrows]
    exact ⟨by simp, rfl⟩

/-- One event in both tables: afterwards they agree again, and it is found in both. -/
theorem insertOrIgnore_same (json : JsonCodec) {B : Text} {t u : AuditTable}
    {request request' : AuditLogWriteRequest} (hsame : SameFor B t u)
    (hevent : request'.event = request.event) (hnow : request'.now = request.now)
    (hown : ∀ row ∈ t.rows, row.eventId = request.event.eventId → row.instanceId = B) :
    SameFor B (insertOrIgnore t request.gap (eventRow json B request)).1
        (insertOrIgnore u request'.gap (eventRow json B request')).1 ∧
      (∀ q ∈ (insertOrIgnore t request.gap (eventRow json B request)).1.rows,
        q ∈ t.rows ∨ q.instanceId = B) ∧
      ∃ row found,
        findEvent (insertOrIgnore t request.gap (eventRow json B request)).1
          request.event.eventId = some row ∧
        findEvent (insertOrIgnore u request'.gap (eventRow json B request')).1
          request'.event.eventId = some found ∧ content row = content found := by
  have hsameRow : eventRow json B request' = eventRow json B request := by
    rw [eventRow, eventRow, hevent, hnow]
  rw [hsameRow, hevent]
  rcases insertOrIgnore_spec t request.gap (eventRow json B request) with
    ⟨hstored, heq⟩ | ⟨hnew, -, hrows⟩
  · obtain ⟨stored, hmem, hid⟩ := List.mem_map.mp hstored
    obtain ⟨found, hfound, hcontent⟩ := hsame.counterpart hmem (hown stored hmem hid)
    have hfid : found.eventId = request.event.eventId :=
      (eventId_of_content hcontent).symm.trans hid
    have hu : insertOrIgnore u request'.gap (eventRow json B request) = (u, 0) :=
      dif_pos (List.mem_map.mpr ⟨found, hfound, hfid⟩)
    rw [heq, hu]
    exact ⟨hsame, fun q hq => .inl hq, stored, found, findEvent_eq_some_iff.mpr ⟨hmem, hid⟩,
      findEvent_eq_some_iff.mpr ⟨hfound, hfid⟩, hcontent⟩
  · have hnewu : (eventRow json B request).eventId ∉ u.rows.map AuditLogRow.eventId := by
      intro hin
      obtain ⟨other, hother, hid⟩ := List.mem_map.mp hin
      obtain ⟨stored, hmem, hcontent⟩ := hsame.counterpart' hother
      apply hnew
      rw [← hid, ← eventId_of_content hcontent]
      exact List.mem_map_of_mem hmem
    rcases insertOrIgnore_spec u request'.gap (eventRow json B request) with
      ⟨hin, -⟩ | ⟨-, -, hrowsu⟩
    · exact absurd hin hnewu
    obtain ⟨hmemt, hlogst, hfindt⟩ := event_added hrows
    obtain ⟨hmemu, hlogsu, hfindu⟩ := event_added hrowsu
    refine ⟨⟨?_, ?_⟩, hmemt, _, _, hfindt, hfindu, rfl⟩
    · rw [hlogst, hlogsu, hsame.logs]
    · intro r hr
      rcases hmemu r hr with hold | hB
      · exact hsame.alone r hold
      · exact hB

theorem insertEvents_same {json : JsonCodec} {B : Text} {t t' u : AuditTable}
    {requests requests' : List AuditLogWriteRequest} (hsame : SameFor B t u)
    (hevents : SameEvents requests requests')
    (hown : ∀ r ∈ requests, ∀ row ∈ t.rows, row.eventId = r.event.eventId → row.instanceId = B)
    {logs : List AuditLog} {count : ℕ}
    (h : insertEvents json B t requests = .ok (t', logs, count)) :
    ∃ u' logs' count', insertEvents json B u requests' = .ok (u', logs', count') ∧
      SameFor B t' u' ∧ List.Forall₂ SameLog logs logs' ∧ ∀ log ∈ logs, log.instanceId = B := by
  induction hevents generalizing t u logs count with
  | nil =>
    simp only [insertEvents, Except.ok.injEq, Prod.mk.injEq] at h
    obtain ⟨rfl, rfl, -⟩ := h
    exact ⟨u, [], 0, rfl, hsame, .nil, by simp⟩
  | @cons request request' rest rest' hhead _ ih =>
    obtain ⟨hevent, -, hnow⟩ := hhead
    obtain ⟨hsame₁, hmem, row, found, hrow, hfound, hcontent⟩ := insertOrIgnore_same json
      hsame hevent hnow (hown request List.mem_cons_self)
    rw [insertEvents] at h
    simp only [hrow] at h
    split at h
    · exact absurd h (by simp)
    next log hlog =>
      split at h
      · exact absurd h (by simp)
      next t₂ logs₂ count₂ hrest =>
        simp only [Except.ok.injEq, Prod.mk.injEq] at h
        obtain ⟨rfl, rfl, -⟩ := h
        have hown₁ : ∀ r ∈ rest, ∀ q ∈ (insertOrIgnore t request.gap
            (eventRow json B request)).1.rows, q.eventId = r.event.eventId → q.instanceId = B := by
          intro r hr q hq hid
          rcases hmem q hq with hold | hB
          · exact hown r (List.mem_cons_of_mem _ hr) q hold hid
          · exact hB
        obtain ⟨u', logs', count', hins, hsame', hlogs, hlogsB⟩ := ih hsame₁ hown₁ hrest
        obtain ⟨log', hlog', hsamelog⟩ := intoLog_of_content hcontent hlog
        have hrowB : row.instanceId = B :=
          (instanceId_of_content hcontent).trans
            (hsame₁.alone found (findEvent_eq_some_iff.mp hfound).1)
        refine ⟨u', log' :: logs',
          (insertOrIgnore u request'.gap (eventRow json B request')).2 + count',
          ?_, hsame', .cons hsamelog hlogs, ?_⟩
        · rw [insertEvents]
          simp only [hfound, hlog', hins]
        · intro l hl
          rcases List.mem_cons.mp hl with rfl | hl
          · exact (intoLog_fields hlog).1.trans hrowB
          · exact hlogsB l hl

/-! ## Groups and runs -/

/-- A group of events that can all be read back: the table its insertions lead to, cut down
to the limit, and its rows as the answers. -/
theorem writeGroup_cut {json : JsonCodec} (max : ℕ) {w : WriterState} (hw : CountsRight w)
    (instanceId : Text)
    (hexists : w.db.selectInstance instanceId ≠ none) {requests : List AuditLogWriteRequest}
    {t : AuditTable} {logs : List AuditLog} {count : ℕ}
    (hins : insertEvents json instanceId w.db.auditLogs requests = .ok (t, logs, count)) :
    (∃ retained, BatchCut max w.db instanceId t
      (writeGroup json max w instanceId requests none).1.db retained) ∧
    (writeGroup json max w instanceId requests none).2 =
      (requests.map AuditLogWriteRequest.response).zip (logs.map .ok) := by
  obtain ⟨db', retained, hout⟩ : ∃ db' retained,
      batchOutcome json max w instanceId requests none = .ok (db', logs, retained) :=
    insertInstanceLogBatch_of_ok hexists hins
  obtain ⟨t', inserted, hins', hcut⟩ :=
    insertInstanceLogBatch_cut (fun n hn => hw.counts instanceId n hexists hn) hout
  rw [hins] at hins'
  simp only [Except.ok.injEq, Prod.mk.injEq] at hins'
  obtain ⟨rfl, -, -⟩ := hins'
  rw [writeGroup, hout]
  exact ⟨⟨retained, hcut⟩, rfl⟩

/-- What holds of the two runs as long as they agree on `B`. -/
structure SideBySide (json : JsonCodec) (B : Text) (s : TwoRuns) : Prop where
  full : CountsRight s.full
  alone : CountsRight s.alone
  instances : s.alone.db.instances = s.full.db.instances
  same : SameFor B s.full.db.auditLogs s.alone.db.auditLogs
  decodes : Decodes json s.full.db.auditLogs

theorem Accepted.exists {lib : EventLibraries} {db : Database} {id : Text}
    {requests : List AuditLogWriteRequest} (h : Accepted lib db id requests) :
    db.selectInstance id ≠ none := by
  obtain ⟨r, hr⟩ := List.exists_mem_of_ne_nil _ h.nonempty
  obtain ⟨authorization, hcheck⟩ := h.checked r hr
  intro hnone
  have hmissing : getInstance db id = none := by rw [getInstance, hnone, Option.map_none]
  rw [hmissing] at hcheck
  unfold checkEvent at hcheck
  split at hcheck
  · exact absurd hcheck (by simp)
  · exact absurd hcheck (by simp)

theorem replies_same {requests requests' : List AuditLogWriteRequest} {logs logs' : List AuditLog}
    (hevents : SameEvents requests requests') (hlogs : List.Forall₂ SameLog logs logs') :
    List.Forall₂ (fun a b => a.1 = b.1 ∧ SameOutcome a.2 b.2)
      ((requests.map AuditLogWriteRequest.response).zip (logs.map .ok))
      ((requests'.map AuditLogWriteRequest.response).zip (logs'.map .ok)) := by
  induction hevents generalizing logs logs' with
  | nil => exact .nil
  | cons hhead _ ih =>
    cases hlogs with
    | nil => exact .nil
    | cons hlog hrest => exact .cons ⟨hhead.2.1.symm, hlog⟩ (ih hrest)

/-- A row is answered on its request's channel, so what is said of rows can be said of answers. -/
theorem forall₂_answers {P : AuditLogWriteRequest → AuditLog → Prop}
    {requests : List AuditLogWriteRequest} {logs : List AuditLog}
    (hlen : requests.length = logs.length) :
    List.Forall₂ (fun r reply => ∀ log, reply.2 = .ok log → P r log)
      requests ((requests.map AuditLogWriteRequest.response).zip (logs.map .ok) : Replies) ↔
      List.Forall₂ P requests logs := by
  induction requests generalizing logs with
  | nil =>
    cases logs with
    | nil => exact iff_of_true .nil .nil
    | cons => exact absurd hlen (by simp)
  | cons r rest ih =>
    cases logs with
    | nil => exact absurd hlen (by simp)
    | cons log logs =>
      simp only [List.map_cons, List.zip_cons_cons, List.forall₂_cons]
      rw [ih (by simpa using hlen)]
      simp

/-- One group of `B`, written in both runs without meeting a row of another instance. -/
theorem own_step {json : JsonCodec} {max : ℕ} {B : Text} {s : TwoRuns}
    {requests requestsAlone : List AuditLogWriteRequest}
    (hjson : ∀ r ∈ requests, MetadataReadsBack json r) (hs : SideBySide json B s)
    (hexists : s.full.db.selectInstance B ≠ none) (hevents : SameEvents requests requestsAlone)
    (hown : ∀ r ∈ requests, ∀ row ∈ s.full.db.auditLogs.rows,
      row.eventId = r.event.eventId → row.instanceId = B) :
    let s' : TwoRuns := ⟨(writeGroup json max s.full B requests none).1,
      (writeGroup json max s.alone B requestsAlone none).1⟩
    SideBySide json B s' ∧ Isolated json max B s ⟨B, requests, requestsAlone⟩ s' := by
  obtain ⟨t, logs, count, hins, hdecodes⟩ := insertEvents_ok B hs.decodes hjson
  obtain ⟨u, logs', count', hins', hsame, hlogs, hlogsB⟩ :=
    insertEvents_same hs.same hevents hown hins
  have hexists' : s.alone.db.selectInstance B ≠ none := by
    rwa [Database.selectInstance, hs.instances]
  obtain ⟨⟨retained, hcut⟩, hreplies⟩ := writeGroup_cut max hs.full B hexists hins
  obtain ⟨⟨retained', hcut'⟩, hreplies'⟩ := writeGroup_cut max hs.alone B hexists' hins'
  have hrows : (logsOf (writeGroup json max s.full B requests none).1.db.auditLogs B).map content =
      (logsOf (writeGroup json max s.alone B requestsAlone none).1.db.auditLogs B).map content := by
    rw [hcut.own, hcut'.own, map_rtake, hsame.logs, map_rtake]
  refine ⟨⟨(writeGroup_keeps hs.full B requests none).1,
    (writeGroup_keeps hs.alone B requestsAlone none).1, ?_, ⟨hrows, ?_⟩, ?_⟩, hrows, ?_, ?_⟩
  · rw [hcut'.instances, hcut.instances, hs.instances]
  · intro r hr
    exact hsame.alone r (hcut'.rows r hr)
  · intro r hr
    exact hdecodes r (hcut.rows r hr)
  · intro _
    rw [hreplies, hreplies']
    exact replies_same hevents hlogs
  · intro _
    have hanswers := insertEvents_logs hins
    rw [hreplies, forall₂_answers (P := fun r log => log.instanceId = B ∧
      log.eventId = r.event.eventId) hanswers.length_eq]
    exact ((List.forall₂_and_left _ _).mpr ⟨hlogsB, hanswers.flip⟩).flip.imp fun r log h =>
      ⟨h.1, h.2.1⟩

/-- Groups of other instances leave what is stored for `B` alone. -/
theorem other_step {json : JsonCodec} {max : ℕ} {B id : Text} (hne : id ≠ B) {s : TwoRuns}
    (hs : SideBySide json B s) (hexists : s.full.db.selectInstance id ≠ none)
    {requests : List AuditLogWriteRequest} (hjson : ∀ r ∈ requests, MetadataReadsBack json r) :
    SideBySide json B ⟨(writeGroup json max s.full id requests none).1, s.alone⟩ := by
  obtain ⟨t, logs, count, hins, hdecodes⟩ := insertEvents_ok id hs.decodes hjson
  obtain ⟨⟨retained, hcut⟩, -⟩ := writeGroup_cut max hs.full id hexists hins
  obtain ⟨added, hrows, -, -, hinst⟩ := insertEvents_rows hins
  have hB : logsOf (writeGroup json max s.full id requests none).1.db.auditLogs B =
      logsOf s.full.db.auditLogs B := by
    rw [hcut.others B hne.symm, logsOf_append_added hrows hinst, if_neg hne.symm, List.append_nil]
  refine ⟨(writeGroup_keeps hs.full id requests none).1, hs.alone, ?_, ⟨?_, hs.same.alone⟩, ?_⟩
  · rw [hcut.instances, hs.instances]
  · rw [hB, hs.same.logs]
  · intro r hr
    exact hdecodes r (hcut.rows r hr)

/-- An answer to `B` with its own row shows that no other instance has the event stored. -/
theorem noForeignEvent_of_own {json : JsonCodec} {max : ℕ} {B : Text} {s s' : TwoRuns}
    {requests requestsAlone : List AuditLogWriteRequest}
    (hjson : ∀ r ∈ requests, MetadataReadsBack json r) (hs : SideBySide json B s)
    (hexists : s.full.db.selectInstance B ≠ none)
    (h : Isolated json max B s ⟨B, requests, requestsAlone⟩ s') :
    NoForeignEvent B s ⟨B, requests, requestsAlone⟩ s' := by
  obtain ⟨t, logs, count, hins, -⟩ := insertEvents_ok B hs.decodes hjson
  obtain ⟨-, hreplies⟩ := writeGroup_cut max hs.full B hexists hins
  have hanswers := insertEvents_logs hins
  have hown := h.own rfl
  simp only at hown
  rw [hreplies, forall₂_answers (P := fun r log => log.instanceId = B ∧
    log.eventId = r.event.eventId) hanswers.length_eq] at hown
  intro _ r hr row hrow hid
  obtain ⟨i, hi, rfl⟩ := List.mem_iff_getElem.mp hr
  have hi' : i < logs.length := hanswers.length_eq ▸ hi
  obtain ⟨-, hstored⟩ := hanswers.get hi hi'
  have hlog := (intoLog_fields (hstored row hrow hid)).1
  rw [← hlog]
  exact (hown.get hi hi').1

/-- The same tables with the audit logs of one instance only. -/
def onlyLogsOf (db : Database) (B : Text) : Database :=
  withAuditLogs db (db.auditLogs.filter fun l => l.instanceId = B) fun l hl =>
    db.log_instance l (List.mem_filter.mp hl).1

/-- The two runs, begun with what is stored for all instances and for `B`. -/
def TwoRuns.start (db : Database) (B : Text) : TwoRuns := ⟨.start db, .start (onlyLogsOf db B)⟩

theorem sideBySide_start {json : JsonCodec} {db : Database} (B : Text)
    (hdecodes : Decodes json db.auditLogs) : SideBySide json B (.start db B) := by
  refine ⟨countsRight_start db, countsRight_start _, rfl, ⟨?_, ?_⟩, hdecodes⟩
  · have hlogs : logsOf (onlyLogsOf db B).auditLogs B = logsOf db.auditLogs B := by
      unfold logsOf onlyLogsOf
      simp only [withAuditLogs, AuditTable.rows_filter, List.filter_filter, Bool.and_self]
    simp only [TwoRuns.start, WriterState.start, hlogs]
  · intro r hr
    simpa using (List.mem_filter.mp hr).2

/-- An instance sees in every step what it sees on its own, and only its own rows, exactly
when none of its events bears an identifier that is at that time stored for another instance. -/
theorem isolated_iff_noForeignEvent (lib : EventLibraries) (max : ℕ) (B : Text) (db : Database)
    (hdecodes : Decodes lib.json db.auditLogs) (run : List (GroupLabel × TwoRuns))
    (hrun : Path (TwoStep lib max B) (.start db B) run)
    (hjson : ∀ entry ∈ run, ∀ r ∈ entry.1.requests, MetadataReadsBack lib.json r) :
    EveryStep (Isolated lib.json max B) (.start db B) run ↔
      EveryStep (NoForeignEvent B) (.start db B) run := by
  have hlabelled : Path (fun s l s' => TwoStep lib max B s l s' ∧
      ∀ r ∈ l.requests, MetadataReadsBack lib.json r) (.start db B) run := hrun.labelled hjson
  refine Path.everyStep_iff ?_ ?_ (sideBySide_start B hdecodes) hlabelled
  · intro s l s' hs hstep
    obtain ⟨hstep, hread⟩ := hstep
    cases hstep with
    | own haccepted hevents =>
      constructor
      · exact noForeignEvent_of_own hread hs haccepted.exists
      · intro h
        exact (own_step hread hs haccepted.exists hevents (h rfl)).2
    | @other id requests hne haccepted =>
      have hs' : SideBySide lib.json B
          ⟨(writeGroup lib.json max s.full id requests none).1, s.alone⟩ :=
        other_step hne hs haccepted.exists hread
      refine iff_of_true ⟨hs'.same.logs, ?_, ?_⟩ ?_
      · intro hid
        exact absurd hid hne
      · intro hid
        exact absurd hid hne
      · intro hid
        exact absurd hid hne
  · intro s l s' hs hstep h
    obtain ⟨hstep, hread⟩ := hstep
    cases hstep with
    | own haccepted hevents => exact (own_step hread hs haccepted.exists hevents (h rfl)).1
    | other hne haccepted => exact other_step hne hs haccepted.exists hread

/-! ## An event of two instances -/

/-- Two instances of one rule, without any logs. -/
def twoInstances : Database where
  rules := deployedOnce.rules
  rulePackages := .empty _
  instances := ⟨[⟨"sim-1", "rule-1", "shell", "ssh", "token-1", .running, some "w-1",
    none, .idle, none,
    none, none⟩, ⟨"sim-2", "rule-1", "shell", "ssh", "token-2", .running, some "w-2",
      none, .idle, none,
    none, none⟩], by decide⟩
  instanceEndpoints := ⟨[⟨"sim-1", "main", "tcp", 2222, 22⟩,
    ⟨"sim-2", "main", "tcp", 2223, 22⟩], by decide⟩
  auditLogs := .empty
  instance_rule := by decide
  endpoint_instance := by decide
  log_instance := by simp [AuditTable.empty]

/-- Libraries that read every object as the empty one. -/
def emptyObjectLibraries : EventLibraries := ⟨emptyObjectCodec, fun _ => true⟩

/-- An event that both instances report under one identifier. -/
def sharedEvent (instanceId : Text) : AuditLogWriteRequest :=
  ⟨⟨1, "019ff3b6-bb91-7f40-bee8-fb46a1234567", instanceId, "main", "connection", "connected",
    "192.0.2.1", 40001, none, .obj [], none⟩, 0, "2026-08-11T00:00:00Z", 0⟩

theorem sharedEvent_accepted (db : Database) (hinst : db.instances = twoInstances.instances)
    (hend : db.instanceEndpoints = twoInstances.instanceEndpoints) :
    Accepted emptyObjectLibraries db "sim-1" [sharedEvent "sim-1"] ∧
      Accepted emptyObjectLibraries db "sim-2" [sharedEvent "sim-2"] := by
  have hget : ∀ id, getInstance db id = getInstance twoInstances id := by
    intro id
    simp only [getInstance, Database.selectInstance, Database.selectEndpoints, hinst, hend]
  refine ⟨⟨by simp, by simp, ?_, ?_⟩, ⟨by simp, by simp, ?_, ?_⟩⟩
  · intro r hr
    rw [List.mem_singleton.mp hr]
    rfl
  · intro r hr
    rw [List.mem_singleton.mp hr, hget]
    exact ⟨some "Bearer token-1", by decide⟩
  · intro r hr
    rw [List.mem_singleton.mp hr]
    rfl
  · intro r hr
    rw [List.mem_singleton.mp hr, hget]
    exact ⟨some "Bearer token-2", by decide⟩

def writeShared (w : WriterState) (id : Text) : WriterState :=
  (writeGroup emptyObjectCodec 10000 w id [sharedEvent id] none).1

/-- The first instance reports the event, then the second one does. -/
def sharedRun : List (GroupLabel × TwoRuns) :=
  let s := TwoRuns.start twoInstances "sim-2"
  [(⟨"sim-1", [sharedEvent "sim-1"], []⟩, ⟨writeShared s.full "sim-1", s.alone⟩),
    (⟨"sim-2", [sharedEvent "sim-2"], [sharedEvent "sim-2"]⟩,
      ⟨writeShared (writeShared s.full "sim-1") "sim-2", writeShared s.alone "sim-2"⟩)]

theorem sharedRun_path :
    Path (TwoStep emptyObjectLibraries 10000 "sim-2") (.start twoInstances "sim-2") sharedRun := by
  have hfirst := sharedEvent_accepted twoInstances rfl rfl
  have hsecond := sharedEvent_accepted (writeShared (.start twoInstances) "sim-1").db rfl rfl
  exact .cons (.other (by decide) hfirst.1)
    (.cons (.own hsecond.2 (.cons ⟨rfl, rfl, rfl⟩ .nil)) .nil)

/-- The event of the second instance is lost, and it is answered with the row of the first. -/
theorem sharedEvent_not_isolated : ¬ ∀ run,
    Path (TwoStep emptyObjectLibraries 10000 "sim-2") (.start twoInstances "sim-2") run →
      EveryStep (Isolated emptyObjectCodec 10000 "sim-2") (.start twoInstances "sim-2") run := by
  intro h
  obtain ⟨-, hsecond, -⟩ := h sharedRun sharedRun_path
  have hown := hsecond.own rfl
  rw [List.forall₂_cons_left_iff] at hown
  obtain ⟨reply, replies, hreply, -, heq⟩ := hown
  have hanswer : reply = (0, .ok ⟨1, "019ff3b6-bb91-7f40-bee8-fb46a1234567", "sim-1", "main",
      "connection", "connected", "192.0.2.1", 40001, none, .obj [], "2026-08-11T00:00:00Z"⟩) :=
    (List.cons.inj heq).1.symm
  have hinst := (hreply _ (by rw [hanswer])).1
  exact absurd hinst (by decide)

theorem sharedRun_isolated_iff :
    EveryStep (Isolated emptyObjectCodec 10000 "sim-2") (.start twoInstances "sim-2") sharedRun ↔
      EveryStep (NoForeignEvent "sim-2") (.start twoInstances "sim-2") sharedRun :=
  isolated_iff_noForeignEvent emptyObjectLibraries 10000 "sim-2" twoInstances
    (by simp [Decodes, twoInstances, AuditTable.empty]) sharedRun sharedRun_path
    (fun _ _ _ _ => rfl)

end ProtocolSimulation.Audit
