import ProtocolSimulation.ApiModels
import ProtocolSimulation.Fallible
import ProtocolSimulation.Identifiers

/-!
# Runtime events, from the engine to the API

The engine reports what it saw as drafts, `run_reporter` turns a draft into an
event, and the API checks the event before it stores it.
-/
namespace ProtocolSimulation.RuntimeEvents

open ProtocolSimulation.Texts ProtocolSimulation.JsonValues ProtocolSimulation.Protocols
open ProtocolSimulation.Storage ProtocolSimulation.Api ProtocolSimulation.Identifiers
open ProtocolSimulation.Fallible

/-! ## The engine's side -/

structure SimLogDraft where
  ruleId : Text
  nodeId : Text
  clientIp : Text
  clientPort : UInt16
  serverPort : UInt16
  eventType : Text
  detailSummary : Text
  payloadHex : Option Text

/-- A draft, with the endpoint it was reported for if the simulation named one. -/
structure QueuedLog where
  draft : SimLogDraft
  endpointId : Option Text

structure ReporterContext where
  callbackUrl : Text
  callbackToken : Text
  instanceId : Text
  endpoints : List BoundEndpoint

/-- The metadata of an event, in the order of its keys. -/
def draftMetadata (draft : SimLogDraft) : Json :=
  .obj [("nodeId", .str draft.nodeId), ("ruleId", .str draft.ruleId),
    ("serverPort", .num (showNat draft.serverPort.toNat))]

/-- The event `run_reporter` posts for a queued draft, as the API decodes it. -/
def reportedEvent (context : ReporterContext) (eventId : UuidV7) (now : Text) (queued : QueuedLog) :
    EventRequest where
  schemaVersion := 1
  eventId := eventId.hyphenated
  instanceId := context.instanceId
  endpointId := queued.endpointId.getD
    (((context.endpoints.find? fun e => e.containerPort = queued.draft.serverPort).map
      BoundEndpoint.endpointId).getD "main")
  eventType := queued.draft.eventType
  summary := queued.draft.detailSummary
  clientIp := queued.draft.clientIp
  clientPort := queued.draft.clientPort
  payloadHex := queued.draft.payloadHex
  metadata := draftMetadata queued.draft
  timestamp := some now

/-! ## The API's side -/

/-- What the API leaves to libraries: JSON text and RFC 3339 timestamps. -/
structure EventLibraries where
  json : JsonCodec
  isRfc3339 : Text → Bool

/-- A text that `to_rfc3339` may have written. -/
abbrev Timestamp (lib : EventLibraries) := { t : Text // lib.isRfc3339 t = true }

def isAsciiHexdigit (c : Char) : Bool :=
  isDigit c || ('a' ≤ c && c ≤ 'f') || ('A' ≤ c && c ≤ 'F')

/-- Groups of hexadecimal digits of the given sizes, with a dash between two of them. -/
def hexGroups : List ℕ → Text → Bool
  | [], t => t.isEmpty
  | [n], t => t.length == n && t.all isAsciiHexdigit
  | n :: sizes, t => (t.take n).length == n && (t.take n).all isAsciiHexdigit &&
      match t.drop n with
      | '-' :: rest => hexGroups sizes rest
      | _ => false

def isHyphenatedUuid (t : Text) : Bool := hexGroups [8, 4, 4, 4, 12] t

/-- `Uuid::parse_str` accepts the simple, hyphenated, braced and URN forms. -/
def isUuid (t : Text) : Bool :=
  (t.length == 32 && t.all isAsciiHexdigit) || isHyphenatedUuid t ||
    ((stripPrefix "\x7b" t).bind (stripSuffix "\x7d")).any isHyphenatedUuid ||
    (stripPrefix "urn:uuid:" t).any isHyphenatedUuid

def eventTypeChar (c : Char) : Bool := ('a' ≤ c && c ≤ 'z') || isDigit c || c == '_'

/-- The characters and the length the API takes for an event type. -/
def validEventType (t : Text) : Bool := !t.isEmpty && byteLen t ≤ 64 && t.all eventTypeChar

def isObject : Json → Bool
  | .obj _ => true
  | _ => false

def validateRuntimeEvent (lib : EventLibraries) (event : EventRequest) : Except ApiError Unit :=
  if event.schemaVersion ≠ 1 then
    .error (.badRequest "only simulation runtime event schemaVersion 1 is supported")
  else if !isUuid event.eventId then .error (.badRequest "eventId must be a UUID")
  else if !validEventType event.eventType then .error (.badRequest "eventType is invalid")
  else if event.summary.isEmpty || byteLen event.summary > 2048 then
    .error (.badRequest "event summary must contain between 1 and 2048 bytes")
  else if !isObject event.metadata || byteLen (lib.json.render event.metadata) > 16 * 1024 then
    .error (.badRequest "event metadata is invalid or too large")
  else if event.payloadHex.any fun payload =>
      byteLen payload > 8 * 1024 || byteLen payload % 2 ≠ 0 || !payload.all isAsciiHexdigit then
    .error (.badRequest "event payloadHex is invalid or too large")
  else if event.timestamp.any fun timestamp => !lib.isRfc3339 timestamp then
    .error (.badRequest "event timestamp must be RFC 3339")
  else .ok ()

/-- The checks of `record_event` before it hands the event to the audit writer. -/
def checkEvent (lib : EventLibraries) (authorization : Option Text) (found : Option Instance)
    (payload : EventRequest) : Except ApiError Unit :=
  match validateRuntimeEvent lib payload with
  | .error e => .error e
  | .ok () =>
    match found with
    | none => .error (.notFound "simulation instance not found")
    | some inst =>
      let presented := authorization.bind (stripPrefix "Bearer ")
      if presented ≠ some inst.row.callbackToken then
        .error (.unauthorized "invalid simulation callback token")
      else if !inst.endpoints.any fun endpoint => endpoint.endpointId = payload.endpointId then
        .error (.badRequest "event endpoint does not belong to instance")
      else .ok ()

/-! ## Which reported events are accepted -/

theorem isAsciiHexdigit_digitChar : ∀ d : Fin 16, isAsciiHexdigit (Nat.digitChar d.val) = true := by
  decide

theorem all_hexText (ds : List (Fin 16)) : (hexText ds).all isAsciiHexdigit = true := by
  rw [hexText, List.all_map, List.all_eq_true]
  intro d _
  exact isAsciiHexdigit_digitChar d

theorem hexGroups_cons {n m : ℕ} {sizes : List ℕ} {ds : List (Fin 16)} {rest : Text}
    (hlen : ds.length = n) (hrest : hexGroups (m :: sizes) rest = true) :
    hexGroups (n :: m :: sizes) (hexText ds ++ '-' :: rest) = true := by
  have htext : (hexText ds).length = n := by rw [hexText_length, hlen]
  have htake : (hexText ds ++ '-' :: rest).take n = hexText ds := by
    rw [← htext, List.take_left]
  have hdrop : (hexText ds ++ '-' :: rest).drop n = '-' :: rest := by
    rw [← htext, List.drop_left]
  rw [hexGroups, htake, hdrop, htext, all_hexText]
  · simpa using hrest
  · simp

theorem isUuid_hyphenated (u : UuidV7) : isUuid u.hyphenated = true := by
  have hlen := u.length_eq
  have hlast : hexGroups [12] (hexText (u.digits.drop 20)) = true := by
    simp [hexGroups, hexText_length, hlen, all_hexText]
  have hhyphenated : isHyphenatedUuid u.hyphenated = true := by
    refine hexGroups_cons (by simp [hlen]) ?_
    refine hexGroups_cons (by simp [hlen]) ?_
    refine hexGroups_cons (by simp [hlen]) ?_
    exact hexGroups_cons (by simp [hlen]) hlast
  simp [isUuid, hhyphenated]

theorem all_encodeHex (b : Bytes) : (encodeHex b).all isAsciiHexdigit = true := by
  rw [encodeHex, List.all_flatMap, List.all_eq_true]
  intro x _
  have hx := x.toNat_lt
  have hhigh := isAsciiHexdigit_digitChar ⟨x.toNat / 16, by omega⟩
  have hlow := isAsciiHexdigit_digitChar ⟨x.toNat % 16, by omega⟩
  simp [hhigh, hlow]

theorem isAsciiHexdigit_lt {c : Char} (h : isAsciiHexdigit c = true) : c.toNat < 128 := by
  simp only [isAsciiHexdigit, isDigit, Bool.or_eq_true, Bool.and_eq_true, decide_eq_true_eq,
    Char.le_def, UInt32.le_iff_toNat_le] at h
  have hc : c.val.toNat = c.toNat := rfl
  have h9 : '9'.val.toNat = 57 := rfl
  have hf : 'f'.val.toNat = 102 := rfl
  have hF : 'F'.val.toNat = 70 := rfl
  omega

/-- The payload of a draft is hexadecimal text of even length. -/
theorem byteLen_encodeHex (b : Bytes) : byteLen (encodeHex b) = 2 * b.length := by
  rw [byteLen_of_ascii, encodeHex_length]
  intro c hc
  exact isAsciiHexdigit_lt (List.all_eq_true.mp (all_encodeHex b) c hc)

/-- What the API asks of a draft: nothing else of a reported event can be refused. -/
structure Reportable (lib : EventLibraries) (draft : SimLogDraft) : Prop where
  eventType : validEventType draft.eventType = true
  summary_ne : draft.detailSummary ≠ []
  summary : byteLen draft.detailSummary ≤ 2048
  metadata : byteLen (lib.json.render (draftMetadata draft)) ≤ 16384
  payload : ∀ p, draft.payloadHex = some p → byteLen p ≤ 8192

/-- An event built from a draft whose payload is `encode_hex` of some bytes passes
`validate_runtime_event` exactly when the draft is reportable. -/
theorem validateRuntimeEvent_reportedEvent_iff (lib : EventLibraries) (context : ReporterContext)
    (eventId : UuidV7) (now : Timestamp lib) (queued : QueuedLog)
    (hpayload : ∀ p, queued.draft.payloadHex = some p → ∃ b, p = encodeHex b) :
    validateRuntimeEvent lib (reportedEvent context eventId now queued) = .ok () ↔
      Reportable lib queued.draft := by
  have htype : ¬ (!validEventType queued.draft.eventType) = true ↔
      validEventType queued.draft.eventType = true := by simp
  have hsummary : ¬ (queued.draft.detailSummary.isEmpty ||
      byteLen queued.draft.detailSummary > 2048) = true ↔
        queued.draft.detailSummary ≠ [] ∧ byteLen queued.draft.detailSummary ≤ 2048 := by
    simp
  have hmetadata : ¬ (!isObject (draftMetadata queued.draft) ||
      byteLen (lib.json.render (draftMetadata queued.draft)) > 16 * 1024) = true ↔
        byteLen (lib.json.render (draftMetadata queued.draft)) ≤ 16384 := by
    have hobject : isObject (draftMetadata queued.draft) = true := rfl
    simp [hobject]
  have hhex : ¬ (queued.draft.payloadHex.any fun payload =>
      byteLen payload > 8 * 1024 || byteLen payload % 2 ≠ 0 ||
        !payload.all isAsciiHexdigit) = true ↔
          ∀ p, queued.draft.payloadHex = some p → byteLen p ≤ 8192 := by
    cases hp : queued.draft.payloadHex with
    | none => simp
    | some p =>
      obtain ⟨b, rfl⟩ := hpayload p hp
      have hall := all_encodeHex b
      simp [byteLen_encodeHex, hall]
  have hnow : ¬ ((some now.val).any fun timestamp => !lib.isRfc3339 timestamp) = true := by
    simp [now.property]
  have hid : ¬ (!isUuid eventId.hyphenated) = true := by simp [isUuid_hyphenated]
  unfold validateRuntimeEvent reportedEvent
  rw [check_ok_iff, check_ok_iff, check_ok_iff, check_ok_iff, check_ok_iff, check_ok_iff,
    check_ok_iff]
  dsimp only
  rw [htype, hsummary, hmetadata, hhex]
  constructor
  · intro ⟨_, _, htype, hsummary, hmetadata, hpayload, _⟩
    exact ⟨htype, hsummary.1, hsummary.2, hmetadata, hpayload⟩
  · intro h
    exact ⟨fun hversion => hversion rfl, hid, h.eventType, ⟨h.summary_ne, h.summary⟩, h.metadata,
      h.payload, hnow, rfl⟩

end ProtocolSimulation.RuntimeEvents
