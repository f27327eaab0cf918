import ProtocolSimulation.AuditLog
import ProtocolSimulation.RuntimeEvents
import Mathlib.Data.List.Perm.Basic

/-!
# The batching writer

`run_audit_log_writer` cuts the queued events into batches, groups a batch by
instance in the order a hash map yields, and writes each group at once. As long
as no event repeats an identifier this is the same as writing every event on its
own. An event that repeats an identifier of another instance is dropped, and the
writer then answers with the other instance's row.
-/
namespace ProtocolSimulation.Audit

open ProtocolSimulation.Texts ProtocolSimulation.JsonValues ProtocolSimulation.Storage
open ProtocolSimulation.Api ProtocolSimulation.Programs ProtocolSimulation.Retention
open ProtocolSimulation.RuntimeEvents

/-! ## Batches -/

def groupOf (requests : List AuditLogWriteRequest) (instanceId : Text) :
    List AuditLogWriteRequest :=
  requests.filter fun request => request.event.instanceId = instanceId

/-- The requests taken off the queue at once, and the order in which the hash map yields
the instances they belong to. -/
structure Batch where
  requests : List AuditLogWriteRequest
  order : List Text
  size : requests.length ≤ 128
  order_nodup : order.Nodup
  order_mem : ∀ id, id ∈ order ↔ ∃ request ∈ requests, request.event.instanceId = id

/-- The loop over the groups of a batch. -/
def writeGroups (json : JsonCodec) (max : ℕ) (requests : List AuditLogWriteRequest) :
    WriterState → List Text → WriterState × Replies
  | w, [] => (w, [])
  | w, id :: order =>
    let (w', replies) := writeGroup json max w id (groupOf requests id) none
    let (w'', rest) := writeGroups json max requests w' order
    (w'', replies ++ rest)

/-- The writer's loop over the batches it cuts, when SQLite does not fail. -/
def runAuditLogWriter (json : JsonCodec) (max : ℕ) :
    WriterState → List Batch → WriterState × Replies
  | w, [] => (w, [])
  | w, batch :: batches =>
    let (w', replies) := writeGroups json max batch.requests w batch.order
    let (w'', rest) := runAuditLogWriter json max w' batches
    (w'', replies ++ rest)

/-- The requests of the batches, in the order of their arrival. -/
def arrivals (batches : List Batch) : List AuditLogWriteRequest := batches.flatMap Batch.requests

/-! ## One at a time -/

/-- The rows of an instance after its events were inserted one at a time, with the
retention limit applied after each. -/
def oneAtATime (json : JsonCodec) (max : ℕ) (instanceId : Text) (rows : List AuditLogRow)
    (requests : List AuditLogWriteRequest) : List AuditLogRow :=
  requests.foldl (fun rows request => (rows ++ [eventRow json instanceId request]).rtake max) rows

theorem oneAtATime_append (json : JsonCodec) (max : ℕ) (instanceId : Text) (rows : List AuditLogRow)
    (first rest : List AuditLogWriteRequest) :
    oneAtATime json max instanceId rows (first ++ rest) =
      oneAtATime json max instanceId (oneAtATime json max instanceId rows first) rest :=
  List.foldl_append

/-- Inserting a batch at once and cutting once is inserting one at a time. -/
theorem oneAtATime_eq_rtake (json : JsonCodec) (max : ℕ) (instanceId : Text)
    (rows : List AuditLogRow) {requests : List AuditLogWriteRequest} (h : requests ≠ []) :
    oneAtATime json max instanceId rows requests =
      (rows ++ requests.map (eventRow json instanceId)).rtake max := by
  rw [← foldl_rtake max rows (by simpa using h), List.foldl_map]
  rfl

/-- The answer is the row the request's own event is stored as. -/
def OwnLog (json : JsonCodec) (instanceId : Text) (request : AuditLogWriteRequest)
    (log : AuditLog) :
    Prop := ∃ id, intoLog json (withId (eventRow json instanceId request) id) = some log

/-- What is written of the metadata of the event can be read. -/
def MetadataReadsBack (json : JsonCodec) (request : AuditLogWriteRequest) : Prop :=
  (json.parse (json.render request.event.metadata)).isSome = true

/-- A request is answered on its channel, with its own row if its instance exists. -/
def Answered (json : JsonCodec) (db : Database) (request : AuditLogWriteRequest)
    (reply : ℕ × Except AuditLogWriteError AuditLog) : Prop :=
  reply.1 = request.response ∧
    match reply.2 with
    | .ok log => db.selectInstance request.event.instanceId ≠ none ∧
        OwnLog json request.event.instanceId request log
    | .error .instanceNotFound => db.selectInstance request.event.instanceId = none
    | .error (.internal _) => False

/-! ## A group of new events -/

/-- Events that are neither stored nor repeated are all inserted, and all read back. -/
theorem insertEvents_new {json : JsonCodec} (instanceId : Text) {t : AuditTable}
    {requests : List AuditLogWriteRequest} (hjson : ∀ r ∈ requests, MetadataReadsBack json r)
    (hdistinct : (requests.map fun r => r.event.eventId).Nodup)
    (hnew : ∀ r ∈ requests, r.event.eventId ∉ t.rows.map AuditLogRow.eventId) :
    ∃ t' logs, insertEvents json instanceId t requests = .ok (t', logs, requests.length) ∧
      List.Forall₂ (OwnLog json instanceId) requests logs ∧
      newRows json instanceId (t.rows.map AuditLogRow.eventId) requests =
        requests.map (eventRow json instanceId) := by
  induction requests generalizing t with
  | nil => exact ⟨t, [], rfl, .nil, rfl⟩
  | cons request rest ih =>
    obtain ⟨hnotin, hrest⟩ := List.nodup_cons.mp hdistinct
    have hfirst : request.event.eventId ∉ t.rows.map AuditLogRow.eventId :=
      hnew request List.mem_cons_self
    rcases insertOrIgnore_spec t request.gap (eventRow json instanceId request) with
      ⟨hstored, -⟩ | ⟨-, hone, hrows⟩
    · exact absurd hstored hfirst
    have hids : (insertOrIgnore t request.gap (eventRow json instanceId request)).1.rows.map
        AuditLogRow.eventId = t.rows.map AuditLogRow.eventId ++ [request.event.eventId] := by
      rw [hrows, List.map_append]
      rfl
    obtain ⟨t', logs, hins, hown, hnewRows⟩ := ih (t := (insertOrIgnore t request.gap
      (eventRow json instanceId request)).1) (fun r hr => hjson r (List.mem_cons_of_mem _ hr))
      hrest (by
        intro r hr
        rw [hids, List.mem_append, List.mem_singleton]
        rintro (hold | heq)
        · exact hnew r (List.mem_cons_of_mem _ hr) hold
        · exact hnotin (List.mem_map.mpr ⟨r, hr, heq⟩))
    have hfind : findEvent (insertOrIgnore t request.gap (eventRow json instanceId request)).1
        request.event.eventId =
          some (withId (eventRow json instanceId request) (t.seq + 1 + request.gap)) := by
      rw [findEvent_eq_some_iff, hrows]
      exact ⟨by simp, rfl⟩
    obtain ⟨metadata, hmetadata⟩ := Option.isSome_iff_exists.mp (hjson request List.mem_cons_self)
    have hlog : ∃ log, intoLog json (withId (eventRow json instanceId request)
        (t.seq + 1 + request.gap)) = some log := by
      refine ⟨_, Option.map_eq_some_iff.mpr ⟨metadata, hmetadata, rfl⟩⟩
    obtain ⟨log, hlog⟩ := hlog
    refine ⟨t', log :: logs, ?_, .cons ⟨_, hlog⟩ hown, ?_⟩
    · rw [insertEvents]
      simp only [hfind, hlog, hins, hone, List.length_cons]
      rw [Nat.add_comm]
    · rw [newRows, if_neg hfirst, ← hids, hnewRows]
      rfl

/-- What writing one group does when its events are new. -/
structure GroupWritten (json : JsonCodec) (max : ℕ) (w : WriterState) (instanceId : Text)
    (requests : List AuditLogWriteRequest) (w' : WriterState) (replies : Replies) : Prop where
  counts : CountsRight w'
  instances : w'.db.instances = w.db.instances
  stored : ∀ id ∈ w'.db.auditLogs.rows.map AuditLogRow.eventId,
    id ∈ w.db.auditLogs.rows.map AuditLogRow.eventId ∨ ∃ r ∈ requests, r.event.eventId = id
  own : w.db.selectInstance instanceId ≠ none → requests ≠ [] →
    (logsOf w'.db.auditLogs instanceId).map content =
      oneAtATime json max instanceId ((logsOf w.db.auditLogs instanceId).map content) requests
  others : ∀ other, other ≠ instanceId → logsOf w'.db.auditLogs other = logsOf w.db.auditLogs other
  replies : List.Forall₂ (Answered json w.db) requests replies

theorem eventId_content (r : AuditLogRow) : (content r).eventId = r.eventId := rfl

theorem answered_rejectAll {json : JsonCodec} {db : Database} {instanceId : Text}
    (hnone : db.selectInstance instanceId = none) {requests : List AuditLogWriteRequest}
    (hinst : ∀ r ∈ requests, r.event.instanceId = instanceId) :
    List.Forall₂ (Answered json db) requests (rejectAll requests .instanceNotFound) := by
  rw [rejectAll, List.forall₂_map_right_iff, List.forall₂_same]
  intro r hr
  refine ⟨rfl, ?_⟩
  simp only
  rw [hinst r hr, hnone]

theorem answered_zip {json : JsonCodec} {db : Database} {instanceId : Text}
    (hexists : db.selectInstance instanceId ≠ none) {requests : List AuditLogWriteRequest}
    {logs : List AuditLog} (hinst : ∀ r ∈ requests, r.event.instanceId = instanceId)
    (hown : List.Forall₂ (OwnLog json instanceId) requests logs) :
    List.Forall₂ (Answered json db) requests
      ((requests.map AuditLogWriteRequest.response).zip (logs.map .ok)) := by
  induction hown with
  | nil => exact .nil
  | cons hlog _ ih =>
    refine .cons ⟨rfl, ?_, ?_⟩ (ih fun r hr => hinst r (List.mem_cons_of_mem _ hr))
    · rw [hinst _ List.mem_cons_self]
      exact hexists
    · rw [hinst _ List.mem_cons_self]
      exact hlog

theorem writeGroup_new {json : JsonCodec} (max : ℕ) {w : WriterState} (hw : CountsRight w)
    {instanceId : Text} {requests : List AuditLogWriteRequest}
    (hjson : ∀ r ∈ requests, MetadataReadsBack json r)
    (hinst : ∀ r ∈ requests, r.event.instanceId = instanceId)
    (hdistinct : (requests.map fun r => r.event.eventId).Nodup)
    (hnew : ∀ r ∈ requests, r.event.eventId ∉ w.db.auditLogs.rows.map AuditLogRow.eventId) :
    GroupWritten json max w instanceId requests (writeGroup json max w instanceId requests none).1
      (writeGroup json max w instanceId requests none).2 := by
  have hcounts : CountsRight (writeGroup json max w instanceId requests none).1 :=
    (writeGroup_keeps hw instanceId requests none).1
  cases hrow : w.db.selectInstance instanceId with
  | none =>
    have hout : batchOutcome json max w instanceId requests none = .error .instanceNotFound :=
      insertInstanceLogBatch_of_none hrow
    simp only [writeGroup, hout] at hcounts ⊢
    refine ⟨hcounts, rfl, fun id hid => .inl hid, fun h => absurd hrow h, fun _ _ => rfl, ?_⟩
    exact answered_rejectAll hrow hinst
  | some row =>
    have hexists : w.db.selectInstance instanceId ≠ none := by rw [hrow]; simp
    obtain ⟨t, logs, hins, hown, hrows⟩ := insertEvents_new instanceId hjson hdistinct hnew
    obtain ⟨db', retained, hout⟩ : ∃ db' retained,
        batchOutcome json max w instanceId requests none = .ok (db', logs, retained) :=
      insertInstanceLogBatch_of_ok hexists hins
    obtain ⟨-, hcommitted⟩ := batchOutcome_committed hw hout
    simp only [writeGroup, hout] at hcounts ⊢
    refine ⟨hcounts, hcommitted.instances, ?_, ?_, hcommitted.others,
      answered_zip hexists hinst hown⟩
    · intro id hid
      obtain ⟨r, hr, rfl⟩ := List.mem_map.mp hid
      rcases hcommitted.stored r hr with hold | ⟨request, hmem, heq⟩
      · exact .inl (List.mem_map_of_mem hold)
      · right
        refine ⟨request, hmem, ?_⟩
        rw [← eventId_content r, heq]
        rfl
    · intro _ hne
      obtain ⟨added, hadded, hkept⟩ := hcommitted.kept
      simp only
      rw [oneAtATime_eq_rtake json max instanceId _ hne, hkept, map_rtake, List.map_append, hadded,
        hrows]

/-! ## A whole batch, and all batches -/

theorem perm_groups {α κ : Type} [DecidableEq κ] (key : α → κ) (l : List α) {order : List κ}
    (h : order.Nodup) :
    (order.flatMap fun k => l.filter fun x => key x = k).Perm
      (l.filter fun x => key x ∈ order) := by
  induction order with
  | nil => simp
  | cons k order ih =>
    obtain ⟨hk, horder⟩ := List.nodup_cons.mp h
    have hsplit := List.filter_append_perm (fun x => decide (key x = k))
      (l.filter fun x => key x ∈ k :: order)
    have hfirst : (l.filter fun x => key x ∈ k :: order).filter (fun x => decide (key x = k)) =
        l.filter fun x => key x = k := by
      rw [List.filter_filter]
      apply List.filter_congr
      intro x _
      by_cases hx : key x = k <;> simp [hx]
    have hrest : (l.filter fun x => key x ∈ k :: order).filter (fun x => !decide (key x = k)) =
        l.filter fun x => key x ∈ order := by
      rw [List.filter_filter]
      apply List.filter_congr
      intro x _
      by_cases hx : key x = k
      · simp [hx, hk]
      · simp [hx]
    rw [hfirst, hrest] at hsplit
    rw [List.flatMap_cons]
    exact ((ih horder).append_left _).trans hsplit

/-- What the writer has done after some groups or batches with these requests. -/
structure Written (json : JsonCodec) (max : ℕ) (w : WriterState)
    (requests : List AuditLogWriteRequest) (w' : WriterState) : Prop where
  counts : CountsRight w'
  instances : w'.db.instances = w.db.instances
  stored : ∀ id ∈ w'.db.auditLogs.rows.map AuditLogRow.eventId,
    id ∈ w.db.auditLogs.rows.map AuditLogRow.eventId ∨ ∃ r ∈ requests, r.event.eventId = id
  logs : ∀ id, w.db.selectInstance id ≠ none →
    (logsOf w'.db.auditLogs id).map content =
      oneAtATime json max id ((logsOf w.db.auditLogs id).map content) (groupOf requests id)

theorem Written.refl {json : JsonCodec} {max : ℕ} {w : WriterState} (hw : CountsRight w) :
    Written json max w [] w := ⟨hw, rfl, fun _ h => .inl h, fun _ _ => rfl⟩

theorem groupOf_append (first rest : List AuditLogWriteRequest) (id : Text) :
    groupOf (first ++ rest) id = groupOf first id ++ groupOf rest id := List.filter_append _ _

theorem Written.append {json : JsonCodec} {max : ℕ} {w w₁ w₂ : WriterState}
    {first rest : List AuditLogWriteRequest} (h₁ : Written json max w first w₁)
    (h₂ : Written json max w₁ rest w₂) : Written json max w (first ++ rest) w₂ := by
  refine ⟨h₂.counts, h₂.instances.trans h₁.instances, ?_, ?_⟩
  · intro id hid
    rcases h₂.stored id hid with hid | ⟨r, hr, heq⟩
    · rcases h₁.stored id hid with hid | ⟨r, hr, heq⟩
      · exact .inl hid
      · exact .inr ⟨r, List.mem_append_left _ hr, heq⟩
    · exact .inr ⟨r, List.mem_append_right _ hr, heq⟩
  · intro id hid
    have hid₁ : w₁.db.selectInstance id ≠ none := by
      rwa [Database.selectInstance, h₁.instances]
    rw [h₂.logs id hid₁, h₁.logs id hid, ← oneAtATime_append, groupOf_append]

theorem groupOf_groupOf (requests : List AuditLogWriteRequest) (id other : Text) :
    groupOf (groupOf requests id) other = if other = id then groupOf requests id else [] := by
  rw [groupOf, groupOf, List.filter_filter]
  split
  next h =>
    subst h
    simp
  next h =>
    rw [List.filter_eq_nil_iff]
    intro r _ hr
    simp only [Bool.and_eq_true, decide_eq_true_eq] at hr
    exact h (hr.1.symm.trans hr.2)

theorem groupOf_flatMap_groupOf (requests : List AuditLogWriteRequest) {order : List Text}
    (h : order.Nodup) (id : Text) : groupOf (order.flatMap (groupOf requests)) id =
      if id ∈ order then groupOf requests id else [] := by
  induction order with
  | nil => rfl
  | cons k order ih =>
    obtain ⟨hk, horder⟩ := List.nodup_cons.mp h
    rw [List.flatMap_cons, groupOf_append, groupOf_groupOf, ih horder]
    by_cases hid : id = k
    · subst hid
      simp [hk]
    · simp [hid]

theorem GroupWritten.written {json : JsonCodec} {max : ℕ} {w w' : WriterState} {instanceId : Text}
    {requests : List AuditLogWriteRequest} {replies : Replies}
    (h : GroupWritten json max w instanceId requests w' replies) (hne : requests ≠ [])
    (hinst : ∀ r ∈ requests, r.event.instanceId = instanceId) : Written json max w requests w' := by
  have hgroup : ∀ id, groupOf requests id = if id = instanceId then requests else [] := by
    intro id
    have hself : groupOf requests instanceId = requests := by
      rw [groupOf, List.filter_eq_self]
      intro r hr
      simpa using hinst r hr
    rw [← hself, groupOf_groupOf]
  refine ⟨h.counts, h.instances, h.stored, ?_⟩
  intro id hid
  rw [hgroup]
  split
  next heq =>
    subst heq
    exact h.own hid hne
  next hother =>
    rw [h.others id hother]
    rfl

theorem answered_of_instances {json : JsonCodec} {db db' : Database}
    (h : db'.instances = db.instances) : Answered json db' = Answered json db := by
  funext request reply
  simp only [Answered, Database.selectInstance, h]

/-- The groups of a batch, one after the other in the order the hash map yields them. -/
theorem writeGroups_new {json : JsonCodec} (max : ℕ) {requests : List AuditLogWriteRequest}
    (hjson : ∀ r ∈ requests, MetadataReadsBack json r)
    (hdistinct : (requests.map fun r => r.event.eventId).Nodup) {order : List Text}
    (horder : order.Nodup) (hgroups : ∀ id ∈ order, groupOf requests id ≠ []) {w : WriterState}
    (hw : CountsRight w) (hnew : ∀ r ∈ requests, r.event.instanceId ∈ order →
      r.event.eventId ∉ w.db.auditLogs.rows.map AuditLogRow.eventId) :
    Written json max w (order.flatMap (groupOf requests))
    (writeGroups json max requests w order).1 ∧
      List.Forall₂ (Answered json w.db) (order.flatMap (groupOf requests))
        (writeGroups json max requests w order).2 := by
  induction order generalizing w with
  | nil => exact ⟨.refl hw, .nil⟩
  | cons k order ih =>
    obtain ⟨hk, hrest⟩ := List.nodup_cons.mp horder
    have hmem : ∀ r ∈ groupOf requests k, r ∈ requests ∧ r.event.instanceId = k := by
      intro r hr
      simpa [groupOf] using hr
    have hgroup := writeGroup_new max hw (fun r hr => hjson r (hmem r hr).1)
      (fun r hr => (hmem r hr).2)
      ((List.filter_sublist.map _).nodup hdistinct)
      (fun r hr => hnew r (hmem r hr).1 ((hmem r hr).2 ▸ List.mem_cons_self))
    have hwritten := hgroup.written (hgroups k List.mem_cons_self) fun r hr => (hmem r hr).2
    obtain ⟨hlater, hreplies⟩ := ih hrest (fun id hid => hgroups id (List.mem_cons_of_mem _ hid))
      hgroup.counts (by
        intro r hr hin hstored
        rcases hgroup.stored _ hstored with hold | ⟨q, hq, heq⟩
        · exact hnew r hr (List.mem_cons_of_mem _ hin) hold
        · have hqr := List.inj_on_of_nodup_map hdistinct (hmem q hq).1 hr heq
          rw [← hqr, (hmem q hq).2] at hin
          exact hk hin)
    rw [answered_of_instances hgroup.instances] at hreplies
    exact ⟨hwritten.append hlater, List.rel_append hgroup.replies hreplies⟩

/-- One batch is the same as its requests in the order of their arrival. -/
theorem writeBatch_new {json : JsonCodec} (max : ℕ) (batch : Batch)
    (hjson : ∀ r ∈ batch.requests, MetadataReadsBack json r)
    (hdistinct : (batch.requests.map fun r => r.event.eventId).Nodup)
    {w : WriterState} (hw : CountsRight w)
    (hnew : ∀ r ∈ batch.requests, r.event.eventId ∉ w.db.auditLogs.rows.map AuditLogRow.eventId) :
    Written json max w batch.requests (writeGroups json max batch.requests w batch.order).1 ∧
      ∃ answers, List.Forall₂ (Answered json w.db) batch.requests answers ∧
        answers.Perm (writeGroups json max batch.requests w batch.order).2 := by
  have hgroups : ∀ id ∈ batch.order, groupOf batch.requests id ≠ [] := by
    intro id hid
    obtain ⟨r, hr, heq⟩ := (batch.order_mem id).mp hid
    exact List.ne_nil_of_mem (List.mem_filter.mpr ⟨hr, by simpa using heq⟩)
  obtain ⟨hwritten, hreplies⟩ := writeGroups_new max hjson hdistinct batch.order_nodup hgroups
    hw fun r hr _ => hnew r hr
  have hmem : ∀ r ∈ batch.requests, r.event.instanceId ∈ batch.order :=
    fun r hr => (batch.order_mem _).mpr ⟨r, hr, rfl⟩
  have hperm : (batch.order.flatMap (groupOf batch.requests)).Perm batch.requests := by
    have h := perm_groups (fun r : AuditLogWriteRequest => r.event.instanceId) batch.requests
      batch.order_nodup
    rwa [List.filter_eq_self.mpr fun r hr => by simpa using hmem r hr] at h
  refine ⟨⟨hwritten.counts, hwritten.instances, ?_, ?_⟩,
    List.perm_comp_forall₂ hperm.symm hreplies⟩
  · intro id hid
    rcases hwritten.stored id hid with hold | ⟨r, hr, heq⟩
    · exact .inl hold
    · exact .inr ⟨r, hperm.mem_iff.mp hr, heq⟩
  · intro id hid
    rw [hwritten.logs id hid, groupOf_flatMap_groupOf _ batch.order_nodup]
    split
    · rfl
    next hnot =>
      have hnil : groupOf batch.requests id = [] := by
        rw [groupOf, List.filter_eq_nil_iff]
        intro r hr heq
        exact hnot (of_decide_eq_true heq ▸ hmem r hr)
      rw [hnil]

theorem runAuditLogWriter_written {json : JsonCodec} (max : ℕ) (batches : List Batch)
    (hjson : ∀ r ∈ arrivals batches, MetadataReadsBack json r)
    (hdistinct : ((arrivals batches).map fun r => r.event.eventId).Nodup) {w : WriterState}
    (hw : CountsRight w)
    (hnew : ∀ r ∈ arrivals batches, r.event.eventId ∉ w.db.auditLogs.rows.map AuditLogRow.eventId) :
    Written json max w (arrivals batches) (runAuditLogWriter json max w batches).1 ∧
      ∃ answers, List.Forall₂ (Answered json w.db) (arrivals batches) answers ∧
        answers.Perm (runAuditLogWriter json max w batches).2 := by
  induction batches generalizing w with
  | nil => exact ⟨.refl hw, [], .nil, .nil⟩
  | cons batch batches ih =>
    rw [arrivals, List.flatMap_cons] at hjson hdistinct hnew ⊢
    rw [List.map_append, List.nodup_append] at hdistinct
    obtain ⟨hfirst, hrest, hapart⟩ := hdistinct
    obtain ⟨hwritten, answers, hanswers, hperm⟩ := writeBatch_new max batch
      (fun r hr => hjson r (List.mem_append_left _ hr)) hfirst hw
      fun r hr => hnew r (List.mem_append_left _ hr)
    obtain ⟨hlater, answers', hanswers', hperm'⟩ := ih
      (fun r hr => hjson r (List.mem_append_right _ hr)) hrest hwritten.counts (by
      intro r hr hstored
      rcases hwritten.stored _ hstored with hold | ⟨q, hq, heq⟩
      · exact hnew r (List.mem_append_right _ hr) hold
      · exact hapart _ (List.mem_map_of_mem hq) _ (List.mem_map_of_mem hr) heq)
    rw [answered_of_instances hwritten.instances] at hanswers'
    exact ⟨hwritten.append hlater, answers ++ answers', List.rel_append hanswers hanswers',
      hperm.append hperm'⟩

/-- When no event repeats an identifier, every request gets exactly one answer, its own
row if its instance exists, and every instance is left with the rows that inserting its
events one at a time leaves, however the batches were cut and their groups ordered. -/
theorem runAuditLogWriter_refines_oneAtATime (json : JsonCodec) (max : ℕ) (db : Database)
    (batches : List Batch) (hjson : ∀ r ∈ arrivals batches, MetadataReadsBack json r)
    (hdistinct : ((arrivals batches).map fun r => r.event.eventId).Nodup)
    (hnew : ∀ r ∈ arrivals batches, r.event.eventId ∉ db.auditLogs.rows.map AuditLogRow.eventId) :
    (∃ answers, List.Forall₂ (Answered json db) (arrivals batches) answers ∧
      answers.Perm (runAuditLogWriter json max (.start db) batches).2) ∧
    ∀ id, db.selectInstance id ≠ none →
      (logsOf (runAuditLogWriter json max (.start db) batches).1.db.auditLogs id).map content =
        oneAtATime json max id ((logsOf db.auditLogs id).map content)
          (groupOf (arrivals batches) id) := by
  obtain ⟨hwritten, hanswers⟩ := runAuditLogWriter_written max batches hjson hdistinct
    (countsRight_start db) hnew
  exact ⟨hanswers, hwritten.logs⟩

/-- Two events in one batch, the first of an instance that does not exist. -/
def mixedBatch : Batch where
  requests := [{ connectionRequest with event := { connectionRequest.event with
    eventId := "e-3"
    instanceId := "sim-2" } }, { connectionRequest with response := 1 }]
  order := ["sim-1", "sim-2"]
  size := by decide
  order_nodup := by decide
  order_mem := by
    intro id
    simp [connectionRequest, or_comm, eq_comm]

theorem mixedBatch_refines_oneAtATime :
    (∃ answers, List.Forall₂ (Answered emptyObjectCodec deployedOnce)
      (arrivals [mixedBatch]) answers ∧
      answers.Perm (runAuditLogWriter emptyObjectCodec 1 (.start deployedOnce) [mixedBatch]).2) ∧
    ∀ id, deployedOnce.selectInstance id ≠ none →
      (logsOf (runAuditLogWriter emptyObjectCodec 1 (.start deployedOnce)
        [mixedBatch]).1.db.auditLogs id).map content =
        oneAtATime emptyObjectCodec 1 id ((logsOf deployedOnce.auditLogs id).map content)
          (groupOf (arrivals [mixedBatch]) id) :=
  runAuditLogWriter_refines_oneAtATime emptyObjectCodec 1 deployedOnce [mixedBatch]
    (fun _ _ => rfl) (by decide) (by decide)

end ProtocolSimulation.Audit
