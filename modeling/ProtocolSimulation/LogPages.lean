import ProtocolSimulation.EventIntake
import ProtocolSimulation.GrowingLogs

/-!
# The pages of an instance's log

The API hands out the log of an instance in pages, from the newest row to the oldest.
Events go on coming in while a client reads one page after the other, and the oldest
rows are cut off. A row that is there all the while is on one of the pages.
-/
namespace ProtocolSimulation.Audit

open ProtocolSimulation.Texts ProtocolSimulation.JsonValues ProtocolSimulation.KeyedTables
open ProtocolSimulation.Storage ProtocolSimulation.Api ProtocolSimulation.RuntimeEvents
open ProtocolSimulation.Retention ProtocolSimulation.Fallible ProtocolSimulation.GrowingLogs

structure AuditLogQuery where
  page : UInt32
  pageSize : UInt32

/-- A query as it is decoded, with its defaults. -/
def AuditLogQuery.decode (page pageSize : Option UInt32) : AuditLogQuery where
  page := page.getD 1
  pageSize := pageSize.getD 50

structure AuditLogPage where
  total : ℕ
  page : UInt32
  pageSize : UInt32
  records : List AuditLog

def decodeRow (json : JsonCodec) (row : AuditLogRow) : Except Text AuditLog :=
  match intoLog json row with
  | some log => .ok log
  | none => .error "failed to decode audit log metadata"

/-- The rows are counted first, and selected by a second statement. -/
def listInstanceLogs (json : JsonCodec) (counted selected : AuditTable) (instanceId : Text)
    (page pageSize : UInt32) : Except Text (ℕ × List AuditLog) :=
  let offset := (page.toNat - 1) * pageSize.toNat
  let rows := ((logsOf selected instanceId).reverse.drop offset).take pageSize.toNat
  match rows.mapM (decodeRow json) with
  | .ok records => .ok ((logsOf counted instanceId).length, records)
  | .error message => .error message

/-- The handler of a page, with what its three statements find. -/
def handleListInstanceLogs (json : JsonCodec) (found : Option Instance)
    (counted selected : AuditTable) (instanceId : Text) (query : AuditLogQuery) :
    Except ApiError AuditLogPage :=
  if query.page = 0 then .error (.badRequest "page must be greater than zero")
  else if query.pageSize = 0 ∨ 200 < query.pageSize then
    .error (.badRequest "pageSize must be between 1 and 200")
  else
    match found with
    | none => .error (.notFound "simulation instance not found")
    | some _ =>
      match listInstanceLogs json counted selected instanceId query.page query.pageSize with
      | .ok (total, records) => .ok ⟨total, query.page, query.pageSize, records⟩
      | .error message => .error (.internal message)

/-! ## The log of an instance -/

/-- The rows of an instance, with the last number that was given to any row. -/
def logOf (t : AuditTable) (instanceId : Text) : Log AuditLogRow.id where
  rows := logsOf t instanceId
  seq := t.seq
  increasing := t.increasing.filter _
  assigned := fun r hr => t.assigned r (List.mem_filter.mp hr).1

theorem handle_ok {json : JsonCodec} {found : Option Instance} {counted selected : AuditTable}
    {instanceId : Text} {query : AuditLogQuery} {page : AuditLogPage}
    (h : handleListInstanceLogs json found counted selected instanceId query = .ok page) :
    List.Forall₂ (fun row log => intoLog json row = some log)
      ((logOf selected instanceId).page query.page.toNat query.pageSize.toNat) page.records := by
  unfold handleListInstanceLogs at h
  rw [check_ok_iff, check_ok_iff] at h
  obtain ⟨-, -, h⟩ := h
  split at h
  next => exact absurd h (by simp)
  next =>
    split at h
    next total records hlist =>
      obtain rfl := Except.ok.inj h
      unfold listInstanceLogs at hlist
      dsimp only at hlist
      split at hlist
      next records' hrows =>
        obtain ⟨rfl, rfl⟩ := Prod.mk.inj (Except.ok.inj hlist)
        refine (mapM_ok_iff.mp hrows).imp ?_
        intro row log hrow
        rw [decodeRow] at hrow
        split at hrow
        next hlog => rw [hlog, Except.ok.inj hrow]
        next => exact absurd hrow (by simp)
      next => exact absurd hlist (by simp)
    next => exact absurd h (by simp)

/-! ## The log grows -/

section Growth

variable {lib : EventLibraries} {max : ℕ} {s s' : Intake} {id : Text}

/-- A state of the intake that comes some time after another one. -/
def Reaches (lib : EventLibraries) (max : ℕ) : Intake → Intake → Prop :=
  Relation.ReflTransGen fun s s' => ∃ label, IntakeStep lib max s label s'

theorem insertOrIgnore_seq (t : AuditTable) (gap : ℕ) (row : AuditLogRow) :
    t.seq ≤ (insertOrIgnore t gap row).1.seq ∧
      ∀ r ∈ (insertOrIgnore t gap row).1.rows, r ∈ t.rows ∨ t.seq < r.id := by
  unfold insertOrIgnore
  split
  next => exact ⟨Nat.le_refl _, fun r hr => .inl hr⟩
  next =>
    refine ⟨by dsimp only; omega, ?_⟩
    intro r hr
    refine (List.mem_append.mp hr).imp_right ?_
    intro hnew
    rw [List.mem_singleton.mp hnew]
    simp only [withId]
    omega

/-- The rows a batch adds get numbers that were never used. -/
theorem insertEvents_seq {json : JsonCodec} {instanceId : Text} {t t' : AuditTable}
    {requests : List AuditLogWriteRequest} {logs : List AuditLog} {count : ℕ}
    (h : insertEvents json instanceId t requests = .ok (t', logs, count)) :
    t.seq ≤ t'.seq ∧ ∀ r ∈ t'.rows, r ∈ t.rows ∨ t.seq < r.id := by
  induction requests generalizing t logs count with
  | nil =>
    simp only [insertEvents, Except.ok.injEq, Prod.mk.injEq] at h
    obtain ⟨rfl, -, -⟩ := h
    exact ⟨Nat.le_refl _, fun r hr => .inl hr⟩
  | cons request rest ih =>
    unfold insertEvents at h
    simp only at h
    split at h
    · exact absurd h (by simp)
    split at h
    · exact absurd h (by simp)
    split at h
    · exact absurd h (by simp)
    next logs' count' hrest =>
      simp only [Except.ok.injEq, Prod.mk.injEq] at h
      obtain ⟨rfl, -, -⟩ := h
      obtain ⟨hone, hrows⟩ := insertOrIgnore_seq t request.gap (eventRow json instanceId request)
      obtain ⟨hseq, hall⟩ := ih hrest
      refine ⟨hone.trans hseq, ?_⟩
      intro r hr
      obtain hmiddle | hnew := hall r hr
      · exact hrows r hmiddle
      · exact .inr (by omega)

theorem insertInstanceLogBatch_seq {json : JsonCodec} {db db' : Database} {instanceId : Text}
    {requests : List AuditLogWriteRequest} {cached : Option ℕ} {logs : List AuditLog} {retained : ℕ}
    {t : AuditTable} {count : ℕ}
    (hins : insertEvents json instanceId db.auditLogs requests = .ok (t, logs, count))
    (h : insertInstanceLogBatch json max db instanceId requests cached =
      .ok (db', logs, retained)) : db'.auditLogs.seq = t.seq := by
  unfold insertInstanceLogBatch at h
  split at h
  next => exact absurd h (by simp)
  next =>
    dsimp only at h
    split at h
    next => exact absurd h (by simp)
    next hins' =>
      rw [hins] at hins'
      obtain ⟨rfl, -, -⟩ := hins'
      split at h
      · cases h
        rfl
      · cases h
        rfl

/-- A group that is written cuts off old rows of its instance and appends new ones. -/
theorem writeGroup_grows {json : JsonCodec} {w : WriterState} (hw : CountsRight w)
    (instanceId : Text) (requests : List AuditLogWriteRequest) (failure : Option Text) :
    (logOf w.db.auditLogs id).Grows
      (logOf (writeGroup json max w instanceId requests failure).1.db.auditLogs id) := by
  unfold writeGroup
  split
  next db logs retained hout =>
    obtain ⟨t, inserted, hins, hcut⟩ := batchOutcome_cut hw hout
    obtain ⟨added, hrows, -, -, hinst⟩ := insertEvents_rows hins
    obtain ⟨hseq, hnew⟩ := insertEvents_seq hins
    have hdbSeq : db.auditLogs.seq = t.seq := by
      unfold batchOutcome at hout
      split at hout
      · exact absurd hout (by simp)
      · exact insertInstanceLogBatch_seq hins hout
    have hadded : ∀ r ∈ added, w.db.auditLogs.seq < r.id := by
      intro r hr
      refine (hnew r (hrows ▸ List.mem_append_right _ hr)).resolve_left ?_
      intro hold
      have hincreasing := t.increasing
      rw [hrows, List.pairwise_append] at hincreasing
      exact absurd (hincreasing.2.2 r hold r hr) (lt_irrefl _)
    refine ⟨hseq.trans hdbSeq.ge, ?_⟩
    by_cases hid : id = instanceId
    · subst hid
      have hown : logsOf t id = logsOf w.db.auditLogs id ++ added := by
        rw [logsOf_append_added hrows hinst, if_pos rfl]
      refine ⟨(logsOf t id).length - max,
        added.drop ((logsOf t id).length - max - (logsOf w.db.auditLogs id).length), ?_, ?_⟩
      · change logsOf db.auditLogs id = (logsOf w.db.auditLogs id).drop _ ++ _
        rw [hcut.own, List.rtake, hown, List.drop_append]
      · exact fun r hr => hadded r (List.mem_of_mem_drop hr)
    · refine ⟨0, [], ?_, by simp⟩
      change logsOf db.auditLogs id = (logsOf w.db.auditLogs id).drop 0 ++ []
      rw [hcut.others id hid, logsOf_append_added hrows hinst, if_neg hid, List.append_nil,
        List.drop_zero, List.append_nil]
  next => exact .refl _
  next => exact .refl _

theorem Statement.seq {w w' : WriterState} (h : Statement w w') :
    w'.db.auditLogs.seq = w.db.auditLogs.seq := by
  cases h with
  | insertInstance row endpoints hfresh hins =>
    obtain ⟨-, -, -, hauditLogs⟩ := Database.insertInstance_spec hins
    simp only [hauditLogs]
  | _ => rfl

theorem grows_of_logs {t t' : AuditTable} (hseq : t'.seq = t.seq)
    (hlogs : logsOf t' id = logsOf t id) : (logOf t id).Grows (logOf t' id) := by
  refine ⟨hseq.ge, 0, [], ?_, by simp⟩
  change logsOf t' id = (logsOf t id).drop 0 ++ []
  rw [hlogs, List.drop_zero, List.append_nil]

/-- A step lets the log of an instance that stays grow. -/
theorem IntakeStep.grows {label : IntakeLabel} (hstep : IntakeStep lib max s label s')
    (hcounts : CountsRight s.writer) (hexists : s'.writer.db.selectInstance id ≠ none) :
    (logOf s.writer.db.auditLogs id).Grows (logOf s'.writer.db.auditLogs id) := by
  cases hstep with
  | arrive p now gap =>
    unfold recordEvent
    split <;> exact .refl _
  | writeGroup instanceId failure => exact writeGroup_grows hcounts instanceId _ failure
  | statement hstatement => exact grows_of_logs hstatement.seq (hstatement.keeps.2 id hexists)
  | _ => exact .refl _

/-- What is known of a later state of the intake. -/
structure LaterState (id : Text) (s s' : Intake) : Prop where
  counts : CountsRight s'.writer
  used : s.writer.used ⊆ s'.writer.used
  grows : id ∈ s.writer.used → s'.writer.db.selectInstance id ≠ none →
    s.writer.db.selectInstance id ≠ none ∧
      (logOf s.writer.db.auditLogs id).Grows (logOf s'.writer.db.auditLogs id)

theorem Reaches.later (h : Reaches lib max s s') (hcounts : CountsRight s.writer) :
    LaterState id s s' := by
  induction h with
  | refl => exact ⟨hcounts, fun _ hid => hid, fun _ hexists => ⟨hexists, .refl _⟩⟩
  | tail _ hstep ih =>
    obtain ⟨label, hstep⟩ := hstep
    have hkept := hstep.kept ih.counts
    refine ⟨hkept.instances.counts ih.counts, ih.used.trans hkept.instances.used, ?_⟩
    intro hid hexists
    obtain ⟨r', hr'⟩ := Option.ne_none_iff_exists'.mp hexists
    obtain ⟨r, hr, -⟩ := hkept.instances.rows id (ih.used hid) r' hr'
    obtain ⟨hfirst, hgrows⟩ := ih.grows hid (by rw [hr]; simp)
    exact ⟨hfirst, hgrows.trans (hstep.grows ih.counts hexists)⟩

/-- The log grows from each state to the next one, if the instance is there in the first and in
the last one. -/
theorem chain_grows {states : List Intake} (hchain : (s :: states).IsChain (Reaches lib max))
    (hcounts : CountsRight s.writer) (hid : id ∈ s.writer.used)
    (hlast : ∀ last, (s :: states).getLast? = some last →
      last.writer.db.selectInstance id ≠ none) :
    s.writer.db.selectInstance id ≠ none ∧
      ((s :: states).map fun s => logOf s.writer.db.auditLogs id).IsChain Log.Grows := by
  induction states generalizing s with
  | nil => exact ⟨hlast s rfl, .singleton _⟩
  | cons next rest ih =>
    obtain ⟨hone, hrest⟩ := List.isChain_cons_cons.mp hchain
    have hlater : LaterState id s next := hone.later hcounts
    obtain ⟨hnext, hgrows⟩ := ih hrest hlater.counts (hlater.used hid) (by simpa using hlast)
    obtain ⟨hfirst, hstep⟩ := hlater.grows hid hnext
    exact ⟨hfirst, .cons_cons hstep hgrows⟩

end Growth

/-! ## Reading page by page -/

/-- A page that was read: what its statements found, the state in which its rows were selected,
and the answer. -/
structure PageRead where
  found : Option Instance
  counted : AuditTable
  selected : Intake
  answer : AuditLogPage

theorem exists_of_row {db : Database} {id : Text} {row : AuditLogRow}
    (h : row ∈ logsOf db.auditLogs id) : db.selectInstance id ≠ none := by
  obtain ⟨hrow, hid⟩ := List.mem_filter.mp h
  obtain ⟨r, hr, hrid⟩ := db.log_instance row hrow
  have hget : db.selectInstance id = some r :=
    Table.get_eq_some_iff.mpr ⟨hr, by simpa [hrid] using hid⟩
  rw [hget]
  simp

theorem exists_of_forall₂ {α β : Type} {R : α → β → Prop} {as : List α} {bs : List β}
    (h : List.Forall₂ R as bs) {a : α} (ha : a ∈ as) : ∃ b ∈ bs, R a b := by
  induction h with
  | nil => simp at ha
  | @cons x y _ _ hxy _ ih =>
    obtain rfl | ha := List.mem_cons.mp ha
    · exact ⟨y, List.mem_cons_self, hxy⟩
    · obtain ⟨b, hb, hab⟩ := ih ha
      exact ⟨b, List.mem_cons_of_mem _ hb, hab⟩

/-- A client reads the first page, the second one and so on, until one is not full. Whatever
happens between the reads: a row of the log that is there at the first and at the last read was on
one of the pages. -/
theorem reads_complete (lib : EventLibraries) (max : ℕ) (db : Database) (id : Text) (size : UInt32)
    (reads : List PageRead)
    (hreach : (Intake.start db :: reads.map PageRead.selected).IsChain (Reaches lib max))
    (hreads : ∀ i read, reads[i]? = some read → ∃ page : UInt32, page.toNat = i + 1 ∧
      handleListInstanceLogs lib.json read.found read.counted read.selected.writer.db.auditLogs id
        ⟨page, size⟩ = .ok read.answer)
    (hlast : ∀ read, reads.getLast? = some read → read.answer.records.length < size.toNat)
    (first last : PageRead) (hfirst : reads.head? = some first) (hend : reads.getLast? = some last)
    (row : AuditLogRow) (hrow : row ∈ logsOf first.selected.writer.db.auditLogs id)
    (hstays : row ∈ logsOf last.selected.writer.db.auditLogs id) :
    ∃ read ∈ reads, ∃ log ∈ read.answer.records, intoLog lib.json row = some log := by
  have hpage : ∀ i read, reads[i]? = some read →
      List.Forall₂ (fun row log => intoLog lib.json row = some log)
      ((logOf read.selected.writer.db.auditLogs id).page (i + 1) size.toNat)
        read.answer.records := by
    intro i read hread
    obtain ⟨page, hnumber, hok⟩ := hreads i read hread
    exact hnumber ▸ handle_ok hok
  obtain ⟨rest, rfl⟩ := List.head?_eq_some_iff.mp hfirst
  obtain ⟨hone, hrest⟩ := List.isChain_cons_cons.mp hreach
  have hcounts := (hone.later (countsRight_start db) : LaterState id _ _).counts
  have hused := hcounts.used_of_instance id (exists_of_row hrow)
  have hexists : ∀ state, (first.selected :: rest.map PageRead.selected).getLast? = some state →
      state.writer.db.selectInstance id ≠ none := by
    intro state hstate
    rw [← List.map_cons, List.getLast?_map, hend] at hstate
    obtain rfl := Option.some.inj hstate
    exact exists_of_row hstays
  obtain ⟨-, hgrows⟩ := chain_grows hrest hcounts hused hexists
  rw [← List.map_cons, List.map_map] at hgrows
  have hall := mem_of_chain (r := row) hgrows
    (by
      intro l hl
      obtain rfl := Option.some.inj hl
      exact hrow)
    (by
      intro l hl
      rw [List.getLast?_map, hend] at hl
      obtain rfl := Option.some.inj hl
      exact hstays)
  have hreached : ∀ l, ((first :: rest).map fun read =>
      logOf read.selected.writer.db.auditLogs id).getLast? = some l →
        l.rows.length ≤ (0 + ((first :: rest).map fun read =>
          logOf read.selected.writer.db.auditLogs id).length) * size.toNat := by
    intro l hl
    rw [List.getLast?_map, hend] at hl
    obtain rfl := Option.some.inj hl
    have hget : (first :: rest)[rest.length]? = some last := by
      rw [List.getLast?_eq_getElem?] at hend
      simpa using hend
    have hnotFull := hlast last hend
    have hlength := (hpage rest.length last hget).length_eq
    rw [Log.page, List.length_take, List.length_drop, List.length_reverse,
      Nat.add_sub_cancel] at hlength
    simp only [List.length_map, List.length_cons, Nat.zero_add, Nat.add_mul, Nat.one_mul]
    omega
  have hnone : ∀ l, ((first :: rest).map fun read =>
      logOf read.selected.writer.db.auditLogs id).head? = some l →
        0 * size.toNat ≤ l.newer row := by
    simp
  obtain ⟨i, l, hi, hmem⟩ := exists_mem_page (by simp) hgrows hall hnone hreached
  rw [List.getElem?_map, Option.map_eq_some_iff] at hi
  obtain ⟨read, hread, rfl⟩ := hi
  rw [Nat.zero_add] at hmem
  obtain ⟨log, hlog, heq⟩ := exists_of_forall₂ (hpage i read hread) hmem
  exact ⟨read, List.mem_of_getElem? hread, log, hlog, heq⟩

/-- The only row of the log, as it is handed out. -/
def connectedLog : AuditLog :=
  ⟨1, "e-1", "sim-1", "main", "connection", "connected", "192.0.2.1", 40000, none, .obj [], ""⟩

/-- An event that comes in while the log is read. -/
def laterEvent : Presented := ⟨some "Bearer token", (sharedEvent "sim-1").event⟩

def laterRequest : AuditLogWriteRequest := { sharedEvent "sim-1" with response := 0 }

def laterWaiting : Intake := { Intake.start deployedOnce with
  presented := [laterEvent]
  waiting := [laterRequest] }

def laterQueued : Intake := { Intake.start deployedOnce with
  presented := [laterEvent]
  channel := [laterRequest] }

def laterTaken : Intake := { Intake.start deployedOnce with
  presented := [laterEvent]
  batch := [laterRequest] }

def laterWritten : Intake := writeNext emptyObjectLibraries 10000 laterTaken "sim-1" none

theorem reaches_laterWritten :
    Reaches emptyObjectLibraries 10000 (.start deployedOnce) laterWritten := by
  have hcheck : checkEvent emptyObjectLibraries laterEvent.authorization
      (getInstance deployedOnce laterEvent.event.instanceId) laterEvent.event = .ok () := by decide
  have hrecord : recordEvent emptyObjectLibraries (Intake.start deployedOnce) laterEvent
      "2026-08-11T00:00:00Z" 0 = laterWaiting := by
    rw [recordEvent, show (Intake.start deployedOnce).writer.db = deployedOnce from rfl, hcheck]
    rfl
  have harrive : IntakeStep emptyObjectLibraries 10000 (.start deployedOnce) (.arrive laterEvent)
      laterWaiting := hrecord ▸ .arrive laterEvent _ 0
  have henqueue : IntakeStep emptyObjectLibraries 10000 laterWaiting .enqueue laterQueued :=
    @IntakeStep.enqueue _ _ _ [] [] _ rfl (Nat.zero_lt_succ _)
  have htake : IntakeStep emptyObjectLibraries 10000 laterQueued .takeBatch laterTaken :=
    .takeBatch rfl (List.cons_ne_nil _ _)
  have hwrite : IntakeStep emptyObjectLibraries 10000 laterTaken (.writeGroup "sim-1" none)
      laterWritten := .writeGroup "sim-1" none (List.cons_ne_nil _ _)
  exact .tail (.tail (.tail (.tail .refl ⟨_, harrive⟩) ⟨_, henqueue⟩) ⟨_, htake⟩) ⟨_, hwrite⟩

/-- Pages of one row. The event is written after the first page was read and the rows for the
second one were counted, so the row is on both. -/
def threePages : List PageRead :=
  let found := getInstance deployedOnce "sim-1"
  [⟨found, deployedOnce.auditLogs, .start deployedOnce, ⟨1, 1, 1, [connectedLog]⟩⟩,
    ⟨found, deployedOnce.auditLogs, laterWritten, ⟨1, 2, 1, [connectedLog]⟩⟩,
    ⟨found, laterWritten.writer.db.auditLogs, laterWritten, ⟨2, 3, 1, []⟩⟩]

theorem threePages_complete : ∃ read ∈ threePages, ∃ log ∈ read.answer.records,
    intoLog emptyObjectCodec ⟨1, "e-1", "sim-1", "main", "connection", "connected",
      "192.0.2.1", 40000, none, "\x7b\x7d", ""⟩ = some log := by
  refine reads_complete emptyObjectLibraries 10000 deployedOnce "sim-1" 1 threePages
    (.cons_cons .refl (.cons_cons reaches_laterWritten (.cons_cons .refl (.singleton _)))) ?_ ?_ _ _
    rfl rfl _ (List.mem_singleton_self _) ?_
  · intro i read hread
    rcases i with _ | _ | _ | i
    · obtain rfl := Option.some.inj hread
      exact ⟨1, rfl, rfl⟩
    · obtain rfl := Option.some.inj hread
      exact ⟨2, rfl, rfl⟩
    · obtain rfl := Option.some.inj hread
      exact ⟨3, rfl, rfl⟩
    · exact absurd hread (by simp [threePages])
  · intro read hread
    obtain rfl := Option.some.inj hread
    decide
  · exact List.mem_cons_self

end ProtocolSimulation.Audit
