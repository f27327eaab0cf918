import ProtocolSimulation.Dns
import ProtocolSimulation.Ftp
import ProtocolSimulation.Imap
import ProtocolSimulation.Pop3
import ProtocolSimulation.Redis
import ProtocolSimulation.Smtp

/-!
# Which reports of the simulations the API accepts

A mail or FTP simulation reports a command with the whole line in its summary and
its payload, so a client that sends a long line gets its own report refused. The
same goes for the words of a Redis command and the name in a DNS query.
-/
namespace ProtocolSimulation.Engine

open ProtocolSimulation.Texts ProtocolSimulation.JsonValues ProtocolSimulation.Conversations
open ProtocolSimulation.RuntimeEvents ProtocolSimulation.Identifiers

/-! ## What a client sends, and what is reported for it -/

/-- One input of a client, with the state of the session it reaches. A mail session may go on
reading before it answers, so the input behind the line is given too. -/
inductive ClientInput where
  | smtp (ctx : SmtpContext) (peer : SocketAddr) (session : SmtpSession) (line : Text)
      (later : List ReceivedLine)
  | pop3 (ctx : Pop3Context) (peer : SocketAddr) (session : Pop3Session) (line : Text)
      (later : List ReceivedLine)
  | imap (ctx : ImapContext) (peer : SocketAddr) (session : ImapSession) (line : Text)
      (later : List ReceivedLine)
  | ftp (ctx : FtpSimulationContext) (peer : SocketAddr) (session : FtpSession) (line : Text)
      (later : List ReceivedLine)
  | redis (ctx : RedisSimulationContext) (peer : SocketAddr) (authed : Bool) (payload : RedisRead)
  | dns (runtime : DnsRuntime) (peer : SocketAddr) (query : DnsMessage)

/-- What the simulation reports for the input. -/
def ClientInput.queued (base64 : Text → Option Bytes) : ClientInput → List QueuedLog
  | .smtp ctx peer session line later =>
    reports ((handleSmtpLine base64 ctx peer session line).run later).1
  | .pop3 ctx peer session line later =>
    reports ((handlePop3Line base64 ctx peer session line).run later).1
  | .imap ctx peer session line later =>
    reports ((handleImapLine base64 ctx peer session line).run later).1
  | .ftp ctx peer session line later => reports ((handleFtpLine ctx peer session line).run later).1
  | .redis ctx peer authed payload => reports ((handleRedisRead ctx peer authed payload).run []).1
  | .dns runtime peer query =>
    match answerQuery runtime peer query with
    | .ok (_, queued) => [queued]
    | .error _ => []

/-! ## The limits -/

/-- Does what the rule and the node are called fit the metadata of an event? -/
def MetadataFits {Config : Type} (lib : EventLibraries) (ctx : SimulationContext Config) : Prop :=
  byteLen (lib.json.render (.obj [("nodeId", .str ctx.nodeId), ("ruleId", .str ctx.ruleId),
    ("serverPort", .num (showNat ctx.port.toNat))])) ≤ 16 * 1024

/-- Does a command line fit? The line is in the summary, behind `label`, and is the payload; the
built-in command that closes the session has a summary of its own. -/
structure LineFits {Config : Type} (lib : EventLibraries) (ctx : SimulationContext Config)
    (label line : Text) (custom : Option (Text × Text)) (closes : Prop) : Prop where
  metadata : MetadataFits lib ctx
  eventType : CustomTypeValid custom
  summary : ¬ closes → byteLen label + byteLen line ≤ 2048
  payload : closes → byteLen line ≤ 4096

/-- Does what is reported for the input keep the limits of the API? -/
def ClientInput.WithinLimits (lib : EventLibraries) : ClientInput → Prop
  | .smtp ctx _ _ line _ =>
    LineFits lib ctx "SMTP command: " line (smtpCustom ctx line)
      (smtpCustom ctx line = none ∧ toAsciiUppercase (smtpCommand line).1 = "QUIT")
  | .pop3 ctx _ _ line _ =>
    LineFits lib ctx "POP3 command: " line (pop3Custom ctx line)
      (pop3Custom ctx line = none ∧ (pop3Command line).1 = "QUIT")
  | .imap ctx _ _ line _ =>
    LineFits lib ctx "IMAP command: " line (imapCustom ctx line)
      (imapCustom ctx line = none ∧ imapCommand line = some "LOGOUT")
  | .ftp ctx _ _ line _ =>
    LineFits lib ctx "FTP command: " line none (toAsciiUppercase (ftpCommand line).1 = "QUIT")
  | .redis ctx _ _ payload =>
    ∀ command, parseRedisCommand payload = .ok (some command) →
      MetadataFits lib ctx ∧ CustomTypeValid (redisCustomResponse ctx.config command) ∧
        15 + byteLen command.name + (command.args.map fun arg => byteLen arg + 1).sum ≤ 2048
  | .dns runtime _ query =>
    ∀ name nameEnd, decodeName query 12 = .ok (name, nameEnd) →
      MetadataFits lib runtime.toSimulationContext ∧
        20 + byteLen (trimEndMatches isDot name) ≤ 2048

/-! ## Drafts and their limits -/

/-- The payload of a report is `encode_hex` of some bytes, and the API accepts the report exactly
when the input `fits`. -/
structure AcceptedIff (lib : EventLibraries) (fits : Prop) (queued : QueuedLog) : Prop where
  payload : ∀ p, queued.draft.payloadHex = some p → ∃ b, p = encodeHex b
  reportable : Reportable lib queued.draft ↔ fits

theorem AcceptedIff.congr {lib : EventLibraries} {fits fits' : Prop} {queued : QueuedLog}
    (h : AcceptedIff lib fits queued) (hfits : fits ↔ fits') : AcceptedIff lib fits' queued :=
  ⟨h.payload, h.reportable.trans hfits⟩

/-- What the API asks of a report whose payload is `encode_hex` of the given bytes. -/
theorem acceptedIff_encodeHex {lib : EventLibraries} {queued : QueuedLog} {b : Bytes}
    (hpayload : queued.draft.payloadHex = some (encodeHex b))
    (hsummary : queued.draft.detailSummary ≠ []) :
    AcceptedIff lib (validEventType queued.draft.eventType = true ∧
      byteLen queued.draft.detailSummary ≤ 2048 ∧
      byteLen (lib.json.render (draftMetadata queued.draft)) ≤ 16 * 1024 ∧ b.length ≤ 4096)
      queued where
  payload p hp := ⟨b, Option.some_injective _ (hp.symm.trans hpayload)⟩
  reportable := by
    have hlen := byteLen_encodeHex b
    constructor
    · intro ⟨htype, _, hshort, hmetadata, hb⟩
      have := hb _ hpayload
      exact ⟨htype, hshort, hmetadata, by omega⟩
    · intro ⟨htype, hshort, hmetadata, hb⟩
      refine ⟨htype, hsummary, hshort, hmetadata, fun p hp => ?_⟩
      obtain rfl : p = encodeHex b := Option.some_injective _ (hp.symm.trans hpayload)
      omega

/-- Whatever is read, the API accepts every report of the party exactly when the input `fits`. -/
def ReportsAcceptedIff {ι W α : Type} (lib : EventLibraries) (fits : Prop)
    (m : Talk ι (Output W) α) : Prop :=
  Talk.Says (fun _ => True)
    (fun o => ∀ queued, o = .reported queued → AcceptedIff lib fits queued) (fun _ => True) m

theorem ReportsAcceptedIff.of_mem {ι W α : Type} {lib : EventLibraries} {fits : Prop}
    {m : Talk ι (Output W) α} (h : ReportsAcceptedIff lib fits m) {input : List ι}
    {queued : QueuedLog} (hq : queued ∈ reports (m.run input).1) : AcceptedIff lib fits queued :=
  (h input fun _ _ => trivial).1 _ (mem_reports_iff.mp hq) queued rfl

/-! ## Command lines -/

section Lines

variable {Config σ : Type} {lib : EventLibraries} {ctx : SimulationContext Config}
  {peer : SocketAddr} {label closing line : Text} {custom : Option (Text × Text)} {closes : Prop}

/-- A line is reported as it should be when its summary is long only if the line is. -/
theorem acceptedIff_commandDraft {eventType summary : Text} (hsummary : summary ≠ [])
    (htype : validEventType eventType = true ↔ CustomTypeValid custom)
    (hlen : byteLen summary ≤ 2048 ∧ byteLen line ≤ 4096 ↔
      (¬ closes → byteLen label + byteLen line ≤ 2048) ∧ (closes → byteLen line ≤ 4096)) :
    AcceptedIff lib (LineFits lib ctx label line custom closes)
      ⟨commandDraft ctx peer eventType summary line, none⟩ := by
  refine (acceptedIff_encodeHex rfl hsummary).congr ?_
  constructor
  · intro ⟨hvalid, hshort, hmetadata, hline⟩
    obtain ⟨hopen, hclosed⟩ := hlen.mp ⟨hshort, hline⟩
    exact ⟨hmetadata, htype.mp hvalid, hopen, hclosed⟩
  · intro ⟨hmetadata, hvalid, hopen, hclosed⟩
    obtain ⟨hshort, hline⟩ := hlen.mpr ⟨hopen, hclosed⟩
    exact ⟨htype.mpr hvalid, hshort, hmetadata, hline⟩

theorem reportsAcceptedIff_audit (hlabel : label ≠ []) (hclosing : closing ≠ [])
    (hshort : byteLen closing ≤ 2048) {handled : Handled σ}
    (h : handled.Judged (CustomTypeValid custom) closes) :
    ReportsAcceptedIff lib (LineFits lib ctx label line custom closes)
      (audit (reportCommand ctx peer) label closing line handled) := by
  have hreport (eventType summary : Text)
      (hdraft : AcceptedIff lib (LineFits lib ctx label line custom closes)
        ⟨commandDraft ctx peer eventType summary line, none⟩) :
      ReportsAcceptedIff lib (LineFits lib ctx label line custom closes)
        (reportCommand ctx peer eventType summary line) := by
    refine Talk.says_emit ?_ trivial
    rintro queued hq
    cases hq
    exact hdraft
  cases handled with
  | ignored session => exact Talk.says_ret trivial
  | logged session eventType =>
    obtain ⟨htype, hopen⟩ := h
    refine Talk.Says.bind (hreport _ _ (acceptedIff_commandDraft ?_ htype ?_)) fun _ _ =>
      Talk.says_ret trivial
    · simp [hlabel]
    · rw [byteLen_append]
      simp only [hopen, not_false_eq_true, true_implies, false_implies, and_true]
      omega
  | closed eventType =>
    obtain ⟨htype, hclosed⟩ := h
    refine Talk.Says.bind (hreport _ _ (acceptedIff_commandDraft hclosing htype ?_)) fun _ _ =>
      Talk.says_ret trivial
    simp [hclosed, hshort]

/-- A silent answer and its audit. -/
theorem reportsAcceptedIff_line (hlabel : label ≠ []) (hclosing : closing ≠ [])
    (hshort : byteLen closing ≤ 2048) {answer : Session (Handled σ)}
    (h : Silent (Handled.Judged (CustomTypeValid custom) closes) answer) :
    ReportsAcceptedIff lib (LineFits lib ctx label line custom closes)
      (answer >>= audit (reportCommand ctx peer) label closing line) := by
  refine Talk.Says.bind (P := Handled.Judged (CustomTypeValid custom) closes) ?_
    fun handled hhandled => reportsAcceptedIff_audit hlabel hclosing hshort hhandled
  exact Talk.Says.mono h (fun _ => id) (fun o ho queued hq => absurd hq (ho queued)) fun _ => id

end Lines

/-! ## Redis commands and DNS queries -/

theorem redisResponse_eventType (config : SimRedisConfig) (command : RedisCommand) (authed : Bool) :
    validEventType (redisResponseForCommand config command authed).1.2 = true ↔
      CustomTypeValid (redisCustomResponse config command) := by
  unfold redisResponseForCommand
  cases redisCustomResponse config command with
  | some custom => simp [CustomTypeValid]
  | none =>
    have hvalid : CustomTypeValid (none : Option (Bytes × Text)) := by simp [CustomTypeValid]
    have hcommand : validEventType "redis_command" = true := rfl
    have hexploit : validEventType "exploit_attempt" = true := rfl
    have hif {c : Prop} [Decidable c] {a b : (Bytes × Text) × Bool}
        (ha : validEventType a.1.2 = true) (hb : validEventType b.1.2 = true) :
        validEventType (if c then a else b).1.2 = true := by
      split
      · exact ha
      · exact hb
    refine iff_of_true ?_ hvalid
    dsimp only
    apply hif hcommand
    apply hif hcommand
    apply hif (hif hcommand (hif hcommand hexploit))
    apply hif hcommand
    apply hif hexploit
    apply hif hexploit
    apply hif hcommand
    apply hif hcommand
    exact hif hexploit hcommand

theorem byteLen_redisSummary (command : RedisCommand) :
    byteLen (redisSummary command) =
      15 + byteLen command.name + (command.args.map fun arg => byteLen arg + 1).sum := by
  have hlabel : byteLen "Redis command: " = 15 := by decide
  have hblank : byteLen " " = 1 := by decide
  unfold redisSummary
  cases hargs : command.args with
  | nil =>
    rw [if_pos List.isEmpty_nil, byteLen_append, hlabel]
    rfl
  | cons arg args =>
    have hjoin : byteLen (joinWith " " (arg :: args)) + byteLen " " = _ :=
      byteLen_joinWith (List.cons_ne_nil arg args)
    rw [hblank] at hjoin
    rw [if_neg (by simp)]
    simp only [byteLen_append, hlabel, hblank]
    omega

theorem reportsAcceptedIff_redisRead (lib : EventLibraries) (ctx : RedisSimulationContext)
    (peer : SocketAddr) (authed : Bool) (payload : RedisRead) :
    ReportsAcceptedIff lib ((ClientInput.redis ctx peer authed payload).WithinLimits lib)
      (handleRedisRead ctx peer authed payload) := by
  have hwrote (o : Bytes) : ∀ queued, Output.wrote o = .reported queued →
      AcceptedIff lib ((ClientInput.redis ctx peer authed payload).WithinLimits lib) queued := by
    simp
  unfold handleRedisRead
  split
  · exact Talk.says_breakOff
  · exact Talk.Says.bind (P := fun _ => True) (Talk.says_emit (hwrote _) trivial) fun _ _ =>
      Talk.says_ret trivial
  · next command hcommand =>
    refine Talk.Says.bind (P := fun _ => True) (Talk.says_emit ?_ trivial) fun _ _ =>
      Talk.Says.bind (P := fun _ => True) (Talk.says_emit (hwrote _) trivial) fun _ _ =>
      Talk.says_ret trivial
    rintro queued hq
    cases hq
    have hlen := byteLen_redisSummary command
    have hsummary : redisSummary command ≠ [] := byteLen_pos_iff.mp (by omega)
    refine (acceptedIff_encodeHex rfl hsummary).congr ?_
    have hpayload : (payload.val.take 512).length ≤ 4096 := by simp
    have htype := redisResponse_eventType ctx.config command authed
    constructor
    · intro ⟨hvalid, hshort, hmetadata, _⟩ command' hcommand'
      obtain rfl : command = command' := by simpa [hcommand] using hcommand'
      exact ⟨hmetadata, htype.mp hvalid, hlen.symm.trans_le hshort⟩
    · intro hfits
      obtain ⟨hmetadata, hvalid, hshort⟩ := hfits command hcommand
      exact ⟨htype.mpr hvalid, hlen.trans_le hshort, hmetadata, hpayload⟩

theorem acceptedIff_reportQuery (lib : EventLibraries) (runtime : DnsRuntime) (peer : SocketAddr)
    (query : DnsMessage) {response : Bytes} {name : Text}
    (h : buildResponse query runtime.config = .ok (response, name)) :
    AcceptedIff lib ((ClientInput.dns runtime peer query).WithinLimits lib)
      (reportQuery runtime peer query name) := by
  obtain ⟨decoded, nameEnd, hdecoded, rfl⟩ := buildResponse_name h
  have hsummary : byteLen (reportQuery runtime peer query
      (toAsciiLowercase (trimEndMatches isDot decoded))).draft.detailSummary =
        20 + byteLen (trimEndMatches isDot decoded) := by
    have htransport : byteLen runtime.transport.asStr = 3 := by cases runtime.transport <;> decide
    have hopen : byteLen "DNS " = 4 := by decide
    have hmiddle : byteLen " A query for " = 13 := by decide
    simp only [reportQuery, byteLen_append, htransport, hopen, hmiddle, byteLen_toAsciiLowercase]
  have hne : (reportQuery runtime peer query
      (toAsciiLowercase (trimEndMatches isDot decoded))).draft.detailSummary ≠ [] :=
    byteLen_pos_iff.mp (by omega)
  refine (acceptedIff_encodeHex rfl hne).congr ?_
  have hquery : query.val.length ≤ 4096 := query.property
  rw [hsummary]
  constructor
  · intro ⟨_, hshort, hmetadata, _⟩ decoded' nameEnd' hdecoded'
    obtain ⟨rfl, _⟩ : decoded = decoded' ∧ nameEnd = nameEnd' := by
      simpa [hdecoded] using hdecoded'
    exact ⟨hmetadata, hshort⟩
  · intro hfits
    obtain ⟨hmetadata, hshort⟩ := hfits decoded nameEnd hdecoded
    exact ⟨rfl, hshort, hmetadata, hquery⟩

/-! ## Every report of a client's input -/

theorem ClientInput.acceptedIff (lib : EventLibraries) (base64 : Text → Option Bytes)
    (input : ClientInput) {queued : QueuedLog} (hq : queued ∈ input.queued base64) :
    AcceptedIff lib (input.WithinLimits lib) queued := by
  cases input with
  | smtp ctx peer session line later =>
    exact (reportsAcceptedIff_line (by decide) (by decide) (by decide)
      (silent_smtpAnswer base64 ctx session line)).of_mem hq
  | pop3 ctx peer session line later =>
    exact (reportsAcceptedIff_line (by decide) (by decide) (by decide)
      (silent_pop3Answer base64 ctx session line)).of_mem hq
  | imap ctx peer session line later =>
    exact (reportsAcceptedIff_line (by decide) (by decide) (by decide)
      (silent_imapAnswer base64 ctx session line)).of_mem hq
  | ftp ctx peer session line later =>
    have hnone : CustomTypeValid (none : Option (Text × Text)) := by simp [CustomTypeValid]
    have hanswer := silent_ftpAnswer ctx session line
    rw [← iff_true_intro hnone] at hanswer
    exact (reportsAcceptedIff_line (by decide) (by decide) (by decide) hanswer).of_mem hq
  | redis ctx peer authed payload =>
    exact (reportsAcceptedIff_redisRead lib ctx peer authed payload).of_mem hq
  | dns runtime peer query =>
    cases hbuild : buildResponse query runtime.config with
    | error e =>
      have hanswer : answerQuery runtime peer query = .error e := by
        rw [answerQuery, hbuild]
        rfl
      rw [ClientInput.queued, hanswer] at hq
      cases hq
    | ok answer =>
      have hanswer : answerQuery runtime peer query =
          .ok (answer.1, reportQuery runtime peer query answer.2) := by
        rw [answerQuery, hbuild]
        rfl
      rw [ClientInput.queued, hanswer] at hq
      obtain rfl := List.mem_singleton.mp hq
      exact acceptedIff_reportQuery lib runtime peer query hbuild

/-- For every input of a client, whatever the rule and the session, an event that is reported for
it passes `validate_runtime_event` exactly when the input is within the limits. -/
theorem validateRuntimeEvent_iff_withinLimits (lib : EventLibraries)
    (base64 : Text → Option Bytes) (context : ReporterContext) (eventId : UuidV7)
    (now : Timestamp lib) (input : ClientInput) (queued : QueuedLog)
    (hq : queued ∈ input.queued base64) :
    validateRuntimeEvent lib (reportedEvent context eventId now queued) = .ok () ↔
      input.WithinLimits lib := by
  have haccepted := input.acceptedIff lib base64 hq
  exact (validateRuntimeEvent_reportedEvent_iff lib context eventId now queued
    haccepted.payload).trans haccepted.reportable

/-! ## A short command and a long one -/

def plainSmtp : SmtpContext :=
  ⟨"smtp-rule", "node-1", 25, ⟨none, none, none, none, none, none, none⟩⟩

/-- A NOOP with an argument, as the first line of a session. -/
def noop (arg : Text) : ClientInput :=
  .smtp plainSmtp ⟨"192.0.2.7", 40000⟩ (SmtpSession.new false) (("NOOP " : Text) ++ arg) []

def noopReport (arg : Text) : QueuedLog :=
  ⟨commandDraft plainSmtp ⟨"192.0.2.7", 40000⟩ "smtp_command"
    (("SMTP command: " : Text) ++ (("NOOP " : Text) ++ arg)) (("NOOP " : Text) ++ arg), none⟩

theorem queued_noop (base64 : Text → Option Bytes) (arg : Text) :
    (noop arg).queued base64 = [noopReport arg] := by
  have htrim : ¬ (trim (("NOOP " : Text) ++ arg)).isEmpty = true := by
    rw [List.isEmpty_iff]
    exact trim_ne_nil (c := 'N') (by simp) (by decide)
  simp only [noop, ClientInput.queued, handleSmtpLine, smtpAnswer, if_neg htrim]
  rfl

def renderScalar : Json → Text
  | .str t => ("\"" : Text) ++ t ++ ("\"" : Text)
  | .num literal => literal
  | _ => []

/-- Objects of numbers and of texts that need no escapes, as `serde_json` writes them. -/
def renderFlat : Json → Text
  | .obj fields =>
    ("\x7b" : Text) ++ joinWith "," (fields.map fun (key, v) =>
      renderScalar (.str key) ++ (":" : Text) ++ renderScalar v) ++ ("\x7d" : Text)
  | v => renderScalar v

def flatLibraries : EventLibraries where
  json := ⟨fun _ => none, renderFlat, renderFlat⟩
  isRfc3339 t := t = "2026-08-01T00:00:00+00:00"

def noopContext : ReporterContext :=
  ⟨"http://192.0.2.1/api/events", "token", "sim-1", [⟨"main", .tcp, 40025, 25⟩]⟩

/-- The UUID 019ff3b6-bb91-7f40-8ee8-fb46a1234567. -/
def noopEventId : UuidV7 where
  digits := hexDigits [0, 1, 9, 15, 15, 3, 11, 6, 11, 11, 9, 1, 7, 15, 4, 0, 8, 14, 14, 8,
    15, 11, 4, 6, 10, 1, 2, 3, 4, 5, 6, 7]
  length_eq := rfl
  version := rfl
  variant := ⟨8, rfl, by decide⟩

theorem noopReport_accepted :
    validateRuntimeEvent flatLibraries (reportedEvent noopContext noopEventId
      "2026-08-01T00:00:00+00:00".toList (noopReport "now")) = .ok () := by
  refine (validateRuntimeEvent_iff_withinLimits flatLibraries (fun _ => none) noopContext
    noopEventId ⟨"2026-08-01T00:00:00+00:00".toList, by decide⟩ (noop "now") (noopReport "now")
    (by rw [queued_noop]; exact List.mem_singleton_self _)).mpr ⟨?_, ?_, ?_, ?_⟩
  · show byteLen _ ≤ 16 * 1024
    decide
  · rintro r ⟨⟩
  · exact fun _ => by decide
  · exact fun _ => by decide

theorem longNoop_refused : ∃ queued ∈ (noop (List.replicate 2100 'A')).queued (fun _ => none),
    ∀ (lib : EventLibraries) (context : ReporterContext) (eventId : UuidV7) (now : Timestamp lib),
      validateRuntimeEvent lib (reportedEvent context eventId now queued) ≠ .ok () := by
  refine ⟨noopReport (List.replicate 2100 'A'), ?_, fun lib context eventId now h => ?_⟩
  · rw [queued_noop]
    exact List.mem_singleton_self _
  · have hreportable := (validateRuntimeEvent_reportedEvent_iff lib context eventId now _
      fun p hp => ⟨_, (Option.some_injective _ hp).symm⟩).mp h
    have hlabel : byteLen "SMTP command: " = 14 := by decide
    have hline : byteLen (List.replicate 2100 'A') = 2100 := by
      rw [byteLen_of_ascii, List.length_replicate]
      intro c hc
      rw [List.eq_of_mem_replicate hc]
      decide
    have hsummary := hreportable.summary
    simp only [noopReport, commandDraft, byteLen_append, hlabel, hline] at hsummary
    omega

end ProtocolSimulation.Engine
