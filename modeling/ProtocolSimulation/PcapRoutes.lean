import ProtocolSimulation.Service

/-!
# Capturing packets

The handlers that start, stop, delete and download a capture, and the tasks that
stop a capture when its time is over. Everything that changes the state of a
capture runs under the lifecycle lock of its instance.
-/
namespace ProtocolSimulation.Service

open ProtocolSimulation.Texts ProtocolSimulation.Storage ProtocolSimulation.Api
open ProtocolSimulation.Programs ProtocolSimulation.Programs.Prog

def PCAP_MAX_DURATION_SECS : ℤ := 300

/-! ## Operation events -/

def captureStarted (id : Text) (result : OperationOutcome × OperationImpact)
    (operationContext : Option Text) : OperationEvent :=
  operationEvent "capture_started" "开始抓包" "Start capture" "simulation_instance" id result
    operationContext

def captureStopped (id : Text) (result : OperationOutcome × OperationImpact)
    (operationContext : Option Text) : OperationEvent :=
  operationEvent "capture_stopped" "停止抓包" "Stop capture" "simulation_instance" id result
    operationContext

def captureDeleted (id : Text) (result : OperationOutcome × OperationImpact)
    (operationContext : Option Text) : OperationEvent :=
  operationEvent "capture_deleted" "删除抓包" "Delete capture" "simulation_instance" id result
    operationContext

def captureDownloaded (id : Text) (result : OperationOutcome × OperationImpact)
    (operationContext : Option Text) : OperationEvent :=
  operationEvent "capture_downloaded" "下载抓包" "Download capture" "simulation_instance" id result
    operationContext

/-! ## Starting -/

/-- `start_pcap` once the instance was found. -/
def startPcapOf (operationContext : Option Text) (id : Text) (inst : Instance) :
    Handler (Except ApiError Instance) := do
  if inst.row.status ≠ .running then return .error (.badRequest "instance is not running")
  else if inst.row.pcapStatus = .capturing then return .ok inst
  else
    match inst.row.workloadId with
    | none => return .error (.badRequest "instance workload is missing")
    | some workloadId =>
      match ← await (.startPcap workloadId) with
      | .error e =>
        emitOperationEvent ((captureStarted id (.failure, .error) operationContext).withError
          "CAPTURE_START_FAILED" "Capture start failed")
        return .error e.toApiError
      | .ok captureId =>
        let startedAt ← await .timestamp
        match ← updatePcapState id .capturing (some startedAt) (some captureId) none with
        | .error e => return .error e.toApiError
        | .ok updated =>
          await (.spawnAutoStop id captureId startedAt)
          emitOperationEvent (captureStarted id (.success, .info) operationContext)
          return .ok (updated.getD inst)

def startPcap (operationContext : Option Text) (id : Text) : Handler (Except ApiError Instance) :=
  withLock id do
    match ← getInstance id with
    | .error e => return .error e.toApiError
    | .ok none => return .error (.notFound "instance not found")
    | .ok (some inst) => startPcapOf operationContext id inst

/-! ## Stopping -/

/-- Store the bytes of a finished capture. A capture with nothing but a PCAP header is
dropped. -/
def storeCapture (instanceId : Text) (inst : Instance) (pcapBytes : Bytes) :
    Handler (Except Error (Option (Instance × Bool))) := do
  if pcapBytes.length ≤ 24 then
    match ← updatePcapState instanceId .idle none none none with
    | .error e => return .error e
    | .ok updated => return .ok (some (updated.getD inst, true))
  else
    match ← await .createPcapDir with
    | .error e => return .error e
    | .ok () =>
      match ← await (.writeFile (Pcap.captureFileName instanceId) pcapBytes) with
      | .error e => return .error e
      | .ok () =>
        match ← updatePcapState instanceId .ready none none
            (some (Pcap.captureFileName instanceId)) with
        | .error e => return .error e
        | .ok updated => return .ok (some (updated.getD inst, true))

/-- `finalize_pcap_capture` once the instance was found. -/
def finalizePcapCaptureOf (instanceId : Text) (expectedCaptureId : Option Text) (inst : Instance) :
    Handler (Except Error (Option (Instance × Bool))) := do
  if inst.row.pcapStatus ≠ .capturing ∨
      ∃ expected ∈ expectedCaptureId, inst.row.pcapCaptureId ≠ some expected then
    return .ok (some (inst, false))
  else
    match inst.row.workloadId with
    | none => return .error (.ofMessage "instance workload is missing")
    | some workloadId =>
      match inst.row.pcapCaptureId with
      | none => return .error (.ofMessage "pcap capture id is missing")
      | some captureId =>
        match ← await (.stopPcap workloadId captureId) with
        | .error e => return .error e
        | .ok pcapBytes => storeCapture instanceId inst pcapBytes

/-- Finish a capture, unless the instance is not capturing or another capture was
expected. The flag says whether the capture was finished by this call. -/
def finalizePcapCapture (instanceId : Text) (expectedCaptureId : Option Text) :
    Handler (Except Error (Option (Instance × Bool))) :=
  withLock instanceId do
    match ← getInstance instanceId with
    | .error e => return .error e
    | .ok none => return .ok none
    | .ok (some inst) => finalizePcapCaptureOf instanceId expectedCaptureId inst

def stopPcap (operationContext : Option Text) (id : Text) : Handler (Except ApiError Instance) := do
  match ← getInstance id with
  | .error e => return .error e.toApiError
  | .ok none => return .error (.notFound "instance not found")
  | .ok (some inst) =>
    if inst.row.pcapStatus ≠ .capturing then return .ok inst
    else
      match ← finalizePcapCapture id none with
      | .ok (some (updated, _)) =>
        emitOperationEvent (captureStopped id (.success, .info) operationContext)
        return .ok updated
      | .ok none => return .error (.notFound "instance not found")
      | .error e =>
        emitOperationEvent ((captureStopped id (.failure, .error) operationContext).withError
          "CAPTURE_STOP_FAILED" "Capture stop failed")
        return .error e.toApiError

/-! ## Stopping when the time is over -/

def autoStopPcap (instanceId captureId : Text) : Handler Unit := do
  match ← finalizePcapCapture instanceId (some captureId) with
  | .ok (some (_, true)) => emitOperationEvent (captureStopped instanceId (.success, .info) none)
  | .ok _ => return ()
  | .error _ =>
    emitOperationEvent ((captureStopped instanceId (.failure, .error) none).withError
      "CAPTURE_AUTO_STOP_FAILED" "Capture auto stop failed")

/-- The value that saturating arithmetic on `i64` gives for an exact result. -/
def saturateI64 (n : ℤ) : ℤ := max (-2 ^ 63) (min n (2 ^ 63 - 1))

/-- The seconds the task of `schedule_pcap_auto_stop` sleeps, an `i64` read as a `u64`. -/
def autoStopDelay (startedAt now : ℤ) : ℕ :=
  let deadline := saturateI64 (startedAt + PCAP_MAX_DURATION_SECS)
  (saturateI64 (deadline - now) % 2 ^ 64).toNat

/-- The task that `schedule_pcap_auto_stop` spawns. -/
def autoStopTask (task : AutoStopTask) : Handler Unit := do
  let now ← await .timestamp
  await (.sleep (autoStopDelay task.startedAt now))
  autoStopPcap task.instanceId task.captureId

/-- The loop over the instances whose capture may have outlived a restart. -/
def autoStopExpired (deadline : ℤ) : List Instance → Handler Unit
  | [] => return ()
  | inst :: rest => do
    match inst.row.pcapCaptureId with
    | some captureId =>
      if inst.row.pcapStatus = .capturing ∧ ∃ started ∈ inst.row.pcapStartTime,
        started ≤ deadline then
        autoStopPcap inst.row.id captureId
        autoStopExpired deadline rest
      else autoStopExpired deadline rest
    | none => autoStopExpired deadline rest

def finalizeExpiredPcapCaptures : Handler Unit := do
  match ← listInstances with
  | .error _ => return ()
  | .ok instances =>
    let now ← await .timestamp
    autoStopExpired (now - PCAP_MAX_DURATION_SECS) instances

/-! ## Deleting and downloading -/

/-- The Agent call of `delete_pcap`, made only if there is an active capture. -/
def stopActiveCapture (row : InstanceRow) : Handler (Except Error Unit) := do
  match row.workloadId, row.pcapCaptureId with
  | some workloadId, some captureId =>
    if row.pcapStatus = .capturing then
      match ← await (.stopPcap workloadId captureId) with
      | .error e => return .error e
      | .ok _ => return .ok ()
    else return .ok ()
  | _, _ => return .ok ()

/-- `delete_pcap` once the instance was found. -/
def deletePcapOf (operationContext : Option Text) (id : Text) (inst : Instance) :
    Handler (Except ApiError Instance) := do
  match ← stopActiveCapture inst.row with
  | .error e =>
    emitOperationEvent ((captureDeleted id (.failure, .error) operationContext).withError
      "CAPTURE_DELETE_FAILED" "Capture deletion failed")
    return .error e.toApiError
  | .ok () =>
    match ← removeCaptureFile inst.row.pcapFilePath with
    | .error e =>
      emitOperationEvent ((captureDeleted id (.failure, .error) operationContext).withError
        "CAPTURE_FILE_DELETE_FAILED" "Capture file deletion failed")
      return .error e.toApiError
    | .ok _ =>
      match ← updatePcapState id .idle none none none with
      | .error e => return .error e.toApiError
      | .ok updated =>
        emitOperationEvent (captureDeleted id (.success, .warning) operationContext)
        return .ok (updated.getD inst)

def deletePcap (operationContext : Option Text) (id : Text) : Handler (Except ApiError Instance) :=
  withLock id do
    match ← getInstance id with
    | .error e => return .error e.toApiError
    | .ok none => return .error (.notFound "instance not found")
    | .ok (some inst) => deletePcapOf operationContext id inst

def emitCaptureDownloadFailure (operationContext : Option Text) (id code summary : Text) :
    Handler Unit :=
  emitOperationEvent ((captureDownloaded id (.failure, .error) operationContext).withError code
    summary)

def downloadPcap (operationContext : Option Text) (id : Text) :
    Handler (Except ApiError Bytes) := do
  match ← getInstance id with
  | .error e =>
    emitCaptureDownloadFailure operationContext id "INSTANCE_READ_FAILED"
      "Simulation instance lookup failed"
    return .error e.toApiError
  | .ok none =>
    emitCaptureDownloadFailure operationContext id "INSTANCE_NOT_FOUND"
      "Simulation instance not found"
    return .error (.notFound "instance not found")
  | .ok (some inst) =>
    match inst.row.pcapFilePath with
    | none =>
      emitCaptureDownloadFailure operationContext id "CAPTURE_NOT_READY"
        "Capture is not ready for download"
      return .error (.notFound "pcap file not found")
    | some file =>
      match ← await (.readFile file) with
      | .error _ =>
        emitCaptureDownloadFailure operationContext id "CAPTURE_READ_FAILED"
          "Capture file could not be read"
        return .error (.notFound "pcap file not found")
      | .ok content =>
        emitOperationEvent (captureDownloaded id (.success, .info) operationContext)
        return .ok content

/-! ## The effects these programs come to -/

section Uses

variable {ok : Eff → Prop} (hplain : ∀ e, e.Plain → ok e) {id : Text} {inst : Instance}
include hplain

theorem uses_startPcapOf (operationContext : Option Text)
    (h : inst.row.status = .running → inst.row.workloadId ≠ none → ∀ startedAt captureId,
      ok (.updatePcap id .capturing (some startedAt) (some captureId) none)) :
    (startPcapOf operationContext id inst).Uses ok := by
  unfold startPcapOf
  split
  · trivial
  next hstatus =>
    split
    · trivial
    split
    · trivial
    next workloadId hworkload =>
      refine uses_await (hplain _ trivial) ?_
      rintro (e | captureId)
      · exact uses_bind (uses_emitOperationEvent hplain _) fun _ => trivial
      · refine uses_await (hplain _ trivial) fun startedAt => ?_
        refine uses_bind (uses_updatePcapState hplain
          (h (not_not.mp hstatus) (by simp [hworkload]) startedAt captureId)) ?_
        rintro (e | updated)
        · trivial
        · exact uses_await (hplain _ trivial) fun _ =>
            uses_bind (uses_emitOperationEvent hplain _) fun _ => trivial

theorem uses_storeCapture (hidle : ok (.updatePcap id .idle none none none))
    (hready : ok (.updatePcap id .ready none none (some (Pcap.captureFileName id))))
    (pcapBytes : Bytes) : (storeCapture id inst pcapBytes).Uses ok := by
  unfold storeCapture
  split
  · refine uses_bind (uses_updatePcapState hplain hidle) ?_
    rintro (e | updated) <;> trivial
  · refine uses_await (hplain _ trivial) ?_
    rintro (e | _)
    · trivial
    refine uses_await (hplain _ trivial) ?_
    rintro (e | _)
    · trivial
    refine uses_bind (uses_updatePcapState hplain hready) ?_
    rintro (e | updated) <;> trivial

theorem uses_finalizePcapCaptureOf
    (hidle : inst.row.workloadId ≠ none → ok (.updatePcap id .idle none none none))
    (hready : inst.row.workloadId ≠ none →
      ok (.updatePcap id .ready none none (some (Pcap.captureFileName id))))
        (expected : Option Text) : (finalizePcapCaptureOf id expected inst).Uses ok := by
  unfold finalizePcapCaptureOf
  split
  · trivial
  split
  · trivial
  next workloadId hworkload =>
    have hsome : inst.row.workloadId ≠ none := by simp [hworkload]
    split
    · trivial
    refine uses_await (hplain _ trivial) ?_
    rintro (e | pcapBytes)
    · trivial
    · exact uses_storeCapture hplain (hidle hsome) (hready hsome) pcapBytes

theorem uses_stopActiveCapture (row : InstanceRow) : (stopActiveCapture row).Uses ok := by
  unfold stopActiveCapture
  split
  · split
    · refine uses_await (hplain _ trivial) ?_
      rintro (e | content) <;> trivial
    · trivial
  · trivial

theorem uses_deletePcapOf (operationContext : Option Text)
    (h : ok (.updatePcap id .idle none none none)) :
    (deletePcapOf operationContext id inst).Uses ok := by
  refine uses_bind (uses_stopActiveCapture hplain inst.row) ?_
  rintro (e | _)
  · exact uses_bind (uses_emitOperationEvent hplain _) fun _ => trivial
  refine uses_bind (uses_removeCaptureFile hplain _) ?_
  rintro (e | removed)
  · exact uses_bind (uses_emitOperationEvent hplain _) fun _ => trivial
  refine uses_bind (uses_updatePcapState hplain h) ?_
  rintro (e | updated)
  · trivial
  · exact uses_bind (uses_emitOperationEvent hplain _) fun _ => trivial

theorem uses_downloadPcap (operationContext : Option Text) :
    (downloadPcap operationContext id).Uses ok := by
  refine uses_bind (uses_getInstance hplain id) ?_
  rintro (e | _ | inst)
  · exact uses_bind (uses_emitOperationEvent hplain _) fun _ => trivial
  · exact uses_bind (uses_emitOperationEvent hplain _) fun _ => trivial
  simp only
  split
  · exact uses_bind (uses_emitOperationEvent hplain _) fun _ => trivial
  refine uses_await (hplain _ trivial) ?_
  rintro (e | content)
  · exact uses_bind (uses_emitOperationEvent hplain _) fun _ => trivial
  · exact uses_bind (uses_emitOperationEvent hplain _) fun _ => trivial

end Uses

end ProtocolSimulation.Service
