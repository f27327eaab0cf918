import ProtocolSimulation.EventAcceptance

/-!
# Connections whose every report is accepted

A rule whose event types are valid and a client whose lines are short get every
report of a connection through, from its first line to its last.
-/
namespace ProtocolSimulation.Engine

open ProtocolSimulation.Texts ProtocolSimulation.Conversations ProtocolSimulation.RuntimeEvents
open ProtocolSimulation.Identifiers

/-- Do all the custom responses have a valid event type? -/
def CustomTypesValid (responses : Option (List MailCustomResponse)) : Prop :=
  ∀ rs, responses = some rs → ∀ r ∈ rs, ∀ t, r.eventType = some t → validEventType t = true

theorem CustomTypesValid.customResponse {responses : Option (List MailCustomResponse)}
    (h : CustomTypesValid responses) {command commandText defaultEventType : Text}
    (hdefault : validEventType defaultEventType = true) :
    CustomTypeValid (customResponse responses command commandText defaultEventType) := by
  intro custom hcustom
  simp only [Engine.customResponse, Option.bind_eq_bind, Option.bind_eq_some_iff] at hcustom
  obtain ⟨rs, hrs, r, hfind, hr⟩ := hcustom
  cases hr
  cases htype : r.eventType with
  | none => exact hdefault
  | some t => exact h rs hrs r (List.mem_of_find?_eq_some hfind) t htype

section Connections

variable {lib : EventLibraries}

/-- While no line is longer than `n` bytes, the API accepts every report of the session. -/
def AcceptedUpTo {α : Type} (lib : EventLibraries) (n : ℕ) (m : Session α) : Prop :=
  Talk.Says (fun raw => ∀ t, raw = some t → byteLen t ≤ n)
    (fun o => ∀ queued, o = .reported queued → AcceptedIff lib True queued) (fun _ => True) m

theorem ReportsAcceptedIff.acceptedUpTo {α : Type} {n : ℕ} {fits : Prop} {m : Session α}
    (h : ReportsAcceptedIff lib fits m) (hfits : fits) : AcceptedUpTo lib n m :=
  Talk.Says.mono h (fun _ _ => trivial)
    (fun _ ho queued hq => (ho queued hq).congr (iff_true_intro hfits)) fun _ _ => trivial

theorem Silent.acceptedUpTo {α : Type} {n : ℕ} {P : α → Prop} {m : Session α} (h : Silent P m) :
    AcceptedUpTo lib n m :=
  Talk.Says.mono h (fun _ _ => trivial) (fun _ ho queued hq => absurd hq (ho queued))
    fun _ _ => trivial

/-- The loop: every line is dealt with as `turn` deals with one. -/
theorem acceptedUpTo_serveLines {σ : Type} {n : ℕ} {turn : σ → Text → Session (Option σ)}
    (hturn : ∀ session line, byteLen line ≤ n → AcceptedUpTo lib n (turn session line))
    (session : σ) : AcceptedUpTo lib n (serveLines turn session) := by
  refine Talk.says_forEach (I := fun _ => True) ?_ (fun _ _ => trivial) trivial
  intro session raw _ hraw
  refine Talk.Says.bind (P := fun line => byteLen line ≤ n) ?_ fun line hline =>
    Talk.Says.bind (hturn session line hline) fun next _ => ?_
  · cases raw with
    | none => exact Talk.says_breakOff
    | some raw =>
      exact Talk.says_ret ((byteLen_trimEndMatches_le isLineEnd raw).trans (hraw raw rfl))
  · cases next with
    | none => exact Talk.says_ret trivial
    | some session => exact Talk.says_ret trivial

variable {Config σ : Type} {ctx : SimulationContext Config} {peer : SocketAddr}

theorem acceptedUpTo_reportConnection {n : ℕ} (hmetadata : MetadataFits lib ctx) {protocol : Text}
    (hprotocol : byteLen protocol ≤ 2000) :
    AcceptedUpTo lib n (reportConnection ctx peer protocol) := by
  have hlabel : byteLen " client connected" = 17 := by decide
  refine Talk.says_emit ?_ trivial
  rintro queued hq
  cases hq
  refine ⟨by simp [connectionDraft], iff_of_true ⟨rfl, ?_, ?_, hmetadata, ?_⟩ trivial⟩
  · simp [connectionDraft]
  · rw [connectionDraft, byteLen_append, hlabel]
    omega
  · simp [connectionDraft]

theorem acceptedUpTo_connection {n : ℕ} (hmetadata : MetadataFits lib ctx) {protocol : Text}
    (hprotocol : byteLen protocol ≤ 2000) {turn : σ → Text → Session (Option σ)}
    (hturn : ∀ session line, byteLen line ≤ n → AcceptedUpTo lib n (turn session line))
    (greeting : Text) (session : σ) :
    AcceptedUpTo lib n (do
      writeLine greeting
      reportConnection ctx peer protocol
      serveLines turn session) :=
  Talk.Says.bind silent_writeLine.acceptedUpTo fun _ _ =>
    Talk.Says.bind (acceptedUpTo_reportConnection hmetadata hprotocol) fun _ _ =>
      acceptedUpTo_serveLines hturn session

theorem lineFits_of_short (hmetadata : MetadataFits lib ctx) {label line : Text}
    (hlabel : byteLen label ≤ 14) (hline : byteLen line ≤ 2034) {custom : Option (Text × Text)}
    (hcustom : CustomTypeValid custom) (closes : Prop) :
    LineFits lib ctx label line custom closes :=
  ⟨hmetadata, hcustom, fun _ => by omega, fun _ => by omega⟩

theorem AcceptedUpTo.accepted {α : Type} {n : ℕ} {m : Session α} (h : AcceptedUpTo lib n m)
    {lines : List ReceivedLine} (hlines : ∀ raw ∈ lines, ∀ t, raw = some t → byteLen t ≤ n)
    {queued : QueuedLog} (hq : queued ∈ reports (m.run lines).1) (context : ReporterContext)
    (eventId : UuidV7) (now : Timestamp lib) :
    validateRuntimeEvent lib (reportedEvent context eventId now queued) = .ok () := by
  have haccepted := (h lines hlines).1 _ (mem_reports_iff.mp hq) queued rfl
  exact (validateRuntimeEvent_reportedEvent_iff lib context eventId now queued
    haccepted.payload).mpr (haccepted.reportable.mpr trivial)

end Connections

/-! ## The simulations -/

section Mail

variable (lib : EventLibraries) (base64 : Text → Option Bytes) (peer : SocketAddr)

theorem acceptedUpTo_smtpConnection (ctx : SmtpContext) (hmetadata : MetadataFits lib ctx)
    (htypes : CustomTypesValid ctx.config.customResponses) :
    AcceptedUpTo lib 2034 (handleSmtpConnection base64 ctx peer) := by
  refine acceptedUpTo_connection hmetadata (by decide) (fun session line hline => ?_) _ _
  have hreports : ReportsAcceptedIff lib _ (handleSmtpLine base64 ctx peer session line) :=
    reportsAcceptedIff_line (by decide) (by decide) (by decide)
      (silent_smtpAnswer base64 ctx session line)
  exact hreports.acceptedUpTo (lineFits_of_short hmetadata (by decide) hline
    (htypes.customResponse validEventType_smtpCommand) _)

theorem acceptedUpTo_pop3Connection (ctx : Pop3Context) (hmetadata : MetadataFits lib ctx)
    (htypes : CustomTypesValid ctx.config.customResponses) :
    AcceptedUpTo lib 2034 (handlePop3Connection base64 ctx peer) := by
  refine acceptedUpTo_connection hmetadata (by decide) (fun session line hline => ?_) _ _
  have hreports : ReportsAcceptedIff lib _ (handlePop3Line base64 ctx peer session line) :=
    reportsAcceptedIff_line (by decide) (by decide) (by decide)
      (silent_pop3Answer base64 ctx session line)
  exact hreports.acceptedUpTo (lineFits_of_short hmetadata (by decide) hline
    (htypes.customResponse validEventType_pop3Command) _)

theorem acceptedUpTo_imapConnection (ctx : ImapContext) (hmetadata : MetadataFits lib ctx)
    (htypes : CustomTypesValid ctx.config.customResponses) :
    AcceptedUpTo lib 2034 (handleImapConnection base64 ctx peer) := by
  refine acceptedUpTo_connection hmetadata (by decide) (fun session line hline => ?_) _ _
  have hreports : ReportsAcceptedIff lib _ (handleImapLine base64 ctx peer session line) :=
    reportsAcceptedIff_line (by decide) (by decide) (by decide)
      (silent_imapAnswer base64 ctx session line)
  have hcustom : CustomTypeValid (imapCustom ctx line) := by
    intro custom h
    obtain ⟨command, _, hresponse⟩ := Option.bind_eq_some_iff.mp h
    exact htypes.customResponse validEventType_imapCommand custom hresponse
  exact hreports.acceptedUpTo (lineFits_of_short hmetadata (by decide) hline hcustom _)

theorem acceptedUpTo_ftpConnection (ctx : FtpSimulationContext) (hmetadata : MetadataFits lib ctx) :
    AcceptedUpTo lib 2034 (handleFtpConnection ctx peer) := by
  refine acceptedUpTo_connection hmetadata (by decide) (fun session line hline => ?_) _ _
  have hnone : CustomTypeValid (none : Option (Text × Text)) := by simp [CustomTypeValid]
  have hanswer := silent_ftpAnswer ctx session line
  rw [← iff_true_intro hnone] at hanswer
  have hreports : ReportsAcceptedIff lib _ (handleFtpLine ctx peer session line) :=
    reportsAcceptedIff_line (by decide) (by decide) (by decide) hanswer
  exact hreports.acceptedUpTo (lineFits_of_short hmetadata (by decide) hline hnone _)

end Mail

end ProtocolSimulation.Engine
