import ProtocolSimulation.MailLogins

/-!
# The order of an SMTP transaction

A message may be sent once a sender and then a recipient were accepted, and a
sender is accepted from a client that may send. What was accepted is read off
what was said; the session only has to agree with it.
-/
namespace ProtocolSimulation.Engine

open ProtocolSimulation.Texts ProtocolSimulation.Conversations

/-! ## What was said -/

namespace Exchange

variable (exchange : Exchange)

def smtpVerb : Text := toAsciiUppercase (smtpCommand exchange.line).1

/-- MAIL FROM was answered with 250. -/
structure AcceptsSender : Prop where
  command : exchange.smtpVerb = "MAIL"
  sender : ("FROM:" : Text) <+: toAsciiUppercase (smtpCommand exchange.line).2
  reply : ("250" : Text) <+: exchange.reply

/-- RCPT was answered with 250. -/
structure AcceptsRecipient : Prop where
  command : exchange.smtpVerb = "RCPT"
  reply : ("250" : Text) <+: exchange.reply

/-- DATA was answered with 354. -/
structure OpensData : Prop where
  command : exchange.smtpVerb = "DATA"
  reply : ("354" : Text) <+: exchange.reply

/-- RSET, or DATA with the message. -/
def EndsTransaction : Prop := exchange.smtpVerb = "RSET" ∨ exchange.OpensData

def isAuth : Bool := exchange.smtpVerb == ("AUTH" : Text)

/-- AUTH succeeded. -/
def Authenticates : Prop := LastLine "235 2.7.0 Authentication successful" exchange.reply

end Exchange

/-- The last AUTH succeeded. -/
def LoggedIn (history : List Exchange) : Prop :=
  ∃ exchange, history.find? Exchange.isAuth = some exchange ∧ exchange.Authenticates

/-- There was a point in the transaction up to which `P` held of what was said. -/
def InTransaction (P : List Exchange → Prop) (history : List Exchange) : Prop :=
  ∃ later earlier, history = later ++ earlier ∧
    (∀ exchange ∈ later, ¬ exchange.EndsTransaction) ∧ P earlier

/-- A sender was accepted in the transaction, from a client that had logged in if it had to. -/
def SenderAccepted (requireAuth : Bool) : List Exchange → Prop :=
  InTransaction fun earlier => ∃ mail before, earlier = mail :: before ∧ mail.AcceptsSender ∧
    (requireAuth = true → LoggedIn before)

/-- A recipient was accepted in the transaction, after a sender. -/
def RecipientAccepted (requireAuth : Bool) : List Exchange → Prop :=
  InTransaction fun earlier => ∃ rcpt before, earlier = rcpt :: before ∧ rcpt.AcceptsRecipient ∧
    SenderAccepted requireAuth before

section History

variable {P : List Exchange → Prop} {exchange : Exchange} {history : List Exchange}

theorem InTransaction.now (h : P history) : InTransaction P history :=
  ⟨[], history, rfl, by simp, h⟩

theorem InTransaction.later (h : InTransaction P history) (hkept : ¬ exchange.EndsTransaction) :
    InTransaction P (exchange :: history) := by
  obtain ⟨later, earlier, rfl, hlater, hearlier⟩ := h
  use exchange :: later, earlier
  refine ⟨rfl, ?_, hearlier⟩
  intro e he
  obtain rfl | he := List.mem_cons.mp he
  · exact hkept
  · exact hlater e he

theorem not_endsTransaction {verb : Text} (hverb : exchange.smtpVerb = verb) (hrset : verb ≠ "RSET")
    (hdata : verb ≠ "DATA") : ¬ exchange.EndsTransaction := by
  rintro (h | h)
  · exact hrset (hverb.symm.trans h)
  · exact hdata (hverb.symm.trans h.command)

theorem loggedIn_cons_of_ne (h : exchange.smtpVerb ≠ "AUTH") :
    LoggedIn (exchange :: history) ↔ LoggedIn history := by
  have hother : exchange.isAuth = false := beq_false_of_ne h
  rw [LoggedIn, List.find?_cons_of_neg (by rw [hother]; exact Bool.false_ne_true)]
  rfl

theorem loggedIn_cons_auth (h : exchange.smtpVerb = "AUTH") :
    LoggedIn (exchange :: history) ↔ exchange.Authenticates := by
  have hauth : exchange.isAuth = true := beq_iff_eq.mpr h
  rw [LoggedIn, List.find?_cons_of_pos hauth]
  simp

end History

/-! ## What a line does to the session -/

/-- The five ways in which a session goes on after a line. -/
inductive SmtpStep (requireAuth : Bool) (exchange : Exchange) (session : SmtpSession) :
    SmtpSession → Prop where
  | authenticated (ok : Bool) (hverb : exchange.smtpVerb = "AUTH")
      (hok : ok = true ↔ exchange.Authenticates) :
      SmtpStep requireAuth exchange session { session with authed := ok }
  | sender (address : Text) (h : exchange.AcceptsSender)
      (hauth : requireAuth = true → session.authed = true) :
      SmtpStep requireAuth exchange session { session with mailFrom := some address }
  | recipient (address : Text) (h : exchange.AcceptsRecipient)
      (hmail : session.mailFrom.isSome = true) :
      SmtpStep requireAuth exchange session
        { session with rcptTo := session.rcptTo ++ [address] }
  | reset (h : exchange.EndsTransaction) :
      SmtpStep requireAuth exchange session session.resetTransaction
  | kept (hverb : exchange.smtpVerb ≠ "AUTH") (hends : ¬ exchange.EndsTransaction) :
      SmtpStep requireAuth exchange session session

/-- The session agrees with what was said. -/
structure Transacts (requireAuth : Bool) (history : List Exchange) (session : SmtpSession) :
    Prop where
  authed : requireAuth = true → session.authed = true → LoggedIn history
  sender : session.mailFrom.isSome = true → SenderAccepted requireAuth history
  recipient : session.rcptTo ≠ [] → RecipientAccepted requireAuth history

theorem transacts_new (requireAuth : Bool) : Transacts requireAuth [] (.new requireAuth) where
  authed hrequired hauthed := by simp [SmtpSession.new, hrequired] at hauthed
  sender hsender := by simp [SmtpSession.new] at hsender
  recipient hrecipient := by simp [SmtpSession.new] at hrecipient

section Step

variable {requireAuth : Bool} {exchange : Exchange} {history : List Exchange}
  {session session' : SmtpSession}

/-- What is not ended goes on. -/
theorem Transacts.later (h : Transacts requireAuth history session)
    (hends : ¬ exchange.EndsTransaction) :
    (session.mailFrom.isSome = true → SenderAccepted requireAuth (exchange :: history)) ∧
      (session.rcptTo ≠ [] → RecipientAccepted requireAuth (exchange :: history)) :=
  ⟨fun hsender => (h.sender hsender).later hends, fun hrcpt => (h.recipient hrcpt).later hends⟩

theorem Transacts.step (h : Transacts requireAuth history session)
    (hstep : SmtpStep requireAuth exchange session session') :
    Transacts requireAuth (exchange :: history) session' := by
  cases hstep with
  | authenticated ok hverb hok =>
    obtain ⟨hsender, hrecipient⟩ :=
      h.later (not_endsTransaction hverb (by decide) (by decide))
    refine ⟨?_, hsender, hrecipient⟩
    intro _ hauthed
    rw [loggedIn_cons_auth hverb]
    exact hok.mp hauthed
  | sender address haccepts hauth =>
    have hother : exchange.smtpVerb ≠ "AUTH" := by
      rw [haccepts.command]
      decide
    obtain ⟨-, hrecipient⟩ :=
      h.later (not_endsTransaction haccepts.command (by decide) (by decide))
    refine ⟨?_, ?_, hrecipient⟩
    · rw [loggedIn_cons_of_ne hother]
      exact h.authed
    · intro _
      apply InTransaction.now
      refine ⟨exchange, history, rfl, haccepts, ?_⟩
      intro hrequired
      exact h.authed hrequired (hauth hrequired)
  | recipient address haccepts hmail =>
    have hother : exchange.smtpVerb ≠ "AUTH" := by
      rw [haccepts.command]
      decide
    obtain ⟨hsender, -⟩ :=
      h.later (not_endsTransaction haccepts.command (by decide) (by decide))
    refine ⟨?_, hsender, ?_⟩
    · rw [loggedIn_cons_of_ne hother]
      exact h.authed
    · intro _
      apply InTransaction.now
      exact ⟨exchange, history, rfl, haccepts, h.sender hmail⟩
  | reset hends =>
    have hother : exchange.smtpVerb ≠ "AUTH" := by
      intro hverb
      exact not_endsTransaction hverb (by decide) (by decide) hends
    refine ⟨?_, ?_, ?_⟩
    · rw [loggedIn_cons_of_ne hother]
      exact h.authed
    · intro hsender
      simp [SmtpSession.resetTransaction] at hsender
    · intro hrecipient
      simp [SmtpSession.resetTransaction] at hrecipient
  | kept hverb hends =>
    obtain ⟨hsender, hrecipient⟩ := h.later hends
    refine ⟨?_, hsender, hrecipient⟩
    rw [loggedIn_cons_of_ne hverb]
    exact h.authed

end Step

/-! ## What the code does -/

section Lines

variable (base64 : Text → Option Bytes) (peer : SocketAddr) {ctx : SmtpContext}
  {session session' : SmtpSession} {line : Text} {input rest : List ReceivedLine}

/-- The config has no custom responses. -/
def BuiltinOnly (ctx : SmtpContext) : Prop := ctx.config.customResponses.getD [] = []

theorem smtpCustom_eq_none (h : BuiltinOnly ctx) (line : Text) : smtpCustom ctx line = none := by
  rw [smtpCustom, customResponse]
  rw [BuiltinOnly] at h
  cases hcustom : ctx.config.customResponses with
  | none => rfl
  | some responses =>
    rw [hcustom] at h
    obtain rfl : responses = [] := h
    rfl

/-- Only five commands do anything to the session. -/
theorem smtpReply_other {upper args : Text}
    (h : upper ∉ (["AUTH", "MAIL", "RCPT", "DATA", "RSET"] : List Text)) :
    Results (fun found => found.1 = session) (smtpReply base64 ctx session upper args) := by
  simp only [List.mem_cons, List.not_mem_nil, or_false, not_or] at h
  obtain ⟨hauth, hmail, hrcpt, hdata, hrset⟩ := h
  have hreply {line : Text} {eventType : Text} : Results (fun found => found.1 = session)
      (do writeLine line; return (session, eventType) : Session (SmtpSession × Text)) :=
    results_then fun _ => results_ret rfl
  unfold smtpReply
  refine results_ite (fun _ => results_then fun _ => results_ret rfl) fun _ => ?_
  refine results_ite (fun _ => hreply) fun _ => ?_
  refine results_ite (fun h => absurd h hauth) fun _ => ?_
  refine results_ite (fun h => absurd h hmail) fun _ => ?_
  refine results_ite (fun h => absurd h hrcpt) fun _ => ?_
  refine results_ite (fun h => absurd h hdata) fun _ => ?_
  refine results_ite (fun h => absurd h hrset) fun _ => ?_
  exact results_ite (fun _ => hreply) fun _ => results_ite (fun _ => hreply) fun _ => hreply

/-- What DATA does once a recipient was accepted. -/
def sendMessage (session : SmtpSession) : Session (SmtpSession × Text) := do
  writeLine "354 End data with <CR><LF>.<CR><LF>"
  let bytes ← readData
  writeLine (("250 2.0.0 Message accepted for delivery (" : Text) ++ showNat bytes ++
    (" bytes)" : Text))
  return (session.resetTransaction, "exploit_attempt")

theorem smtpReply_data {args : Text} (h : session.rcptTo ≠ []) :
    smtpReply base64 ctx session "DATA" args = sendMessage session := by
  have hdata : smtpReply base64 ctx session "DATA" args =
      if session.rcptTo.isEmpty then do
        writeLine "503 5.5.1 Need RCPT before DATA"
        return (session, "smtp_command")
      else sendMessage session := rfl
  rw [hdata, if_neg (by simpa using h)]

theorem smtpReply_data_refused {args : Text} (h : session.rcptTo = []) :
    smtpReply base64 ctx session "DATA" args = (do
      writeLine "503 5.5.1 Need RCPT before DATA"
      return (session, "smtp_command")) := by
  have hdata : smtpReply base64 ctx session "DATA" args =
      if session.rcptTo.isEmpty then do
        writeLine "503 5.5.1 Need RCPT before DATA"
        return (session, "smtp_command")
      else sendMessage session := rfl
  rw [hdata, if_pos (by rw [h]; rfl)]

theorem opens_sendMessage (session : SmtpSession) (input : List ReceivedLine) :
    ("354" : Text) <+: (written ((sendMessage session).run input).1).flatten := by
  have hfirst (m : Session (SmtpSession × Text)) (line : Text) :
      line <+:
        (written ((do writeLine line; m : Session (SmtpSession × Text)).run input).1).flatten := by
    cases hm : m.run input with
    | mk outs result =>
      simp [writeLine, writeRaw, Talk.run_bind, hm]
  have hline := hfirst (do
    let bytes ← readData
    writeLine (("250 2.0.0 Message accepted for delivery (" : Text) ++ showNat bytes ++
      (" bytes)" : Text))
    return (session.resetTransaction, "exploit_attempt")) "354 End data with <CR><LF>.<CR><LF>"
  exact (List.isPrefixOf_iff_prefix.mp rfl).trans hline

section Reply

variable {exchange : Exchange} {eventType : Text}

theorem smtpStep_auth {args : Text} (hverb : exchange.smtpVerb = "AUTH")
    (hreply : exchange.reply =
      (written ((smtpReply base64 ctx session "AUTH" args).run input).1).flatten)
    (hrun : ((smtpReply base64 ctx session "AUTH" args).run input).2 =
      some ((session', eventType), rest)) :
    SmtpStep ctx.requireAuth exchange session session' := by
  have htruth := (tellsTruth_smtpReply_iff base64 ctx session args _ input).mpr rfl
  have hok := htruth.authed_iff session' rest (by rw [hrun]; rfl)
  have hresults : Results (fun found => found.1 = { session with authed := found.1.authed })
      (smtpReply base64 ctx session "AUTH" args) :=
    results_then fun _ => results_then fun _ => results_ret rfl
  rw [← hreply] at hok
  have hsession : session' = { session with authed := session'.authed } := hresults.of_run hrun
  rw [hsession]
  exact .authenticated _ hverb hok

theorem smtpStep_mail {args : Text} (hverb : exchange.smtpVerb = "MAIL")
    (hargs : (smtpCommand exchange.line).2 = args)
    (hreply : exchange.reply =
      (written ((smtpReply base64 ctx session "MAIL" args).run input).1).flatten)
    (hrun : ((smtpReply base64 ctx session "MAIL" args).run input).2 =
      some ((session', eventType), rest)) :
    SmtpStep ctx.requireAuth exchange session session' := by
  have hkept : SmtpStep ctx.requireAuth exchange session session := by
    refine .kept ?_ (not_endsTransaction hverb (by decide) (by decide))
    rw [hverb]
    decide
  have hmail : smtpReply base64 ctx session "MAIL" args =
      if ctx.requireAuth && !session.authed then do
        writeLine "530 5.7.0 Authentication required"
        return (session, "smtp_command")
      else if (stripPrefix "FROM:" (toAsciiUppercase args)).isSome then do
        writeLine "250 2.1.0 Sender OK"
        return ({ session with mailFrom := some args }, "smtp_command")
      else do
        writeLine "501 5.5.4 Syntax: MAIL FROM:<address>"
        return (session, "smtp_command") := rfl
  rw [hmail] at hreply hrun
  split_ifs at hreply hrun with hrefused hfrom
  · rw [run_reply] at hrun
    cases hrun
    exact hkept
  · rw [run_reply] at hrun
    cases hrun
    rw [written_reply] at hreply
    have hsender : ("FROM:" : Text) <+: toAsciiUppercase args := by
      by_contra hnone
      rw [stripPrefix, if_neg (by rwa [List.isPrefixOf_iff_prefix])] at hfrom
      exact Bool.false_ne_true hfrom
    apply SmtpStep.sender args
    · refine ⟨hverb, ?_, ?_⟩
      · rw [hargs]
        exact hsender
      · rw [hreply]
        exact List.isPrefixOf_iff_prefix.mp rfl
    · intro hrequired
      simpa [hrequired] using hrefused
  · rw [run_reply] at hrun
    cases hrun
    exact hkept

theorem smtpStep_rcpt {args : Text} (hverb : exchange.smtpVerb = "RCPT")
    (hreply : exchange.reply =
      (written ((smtpReply base64 ctx session "RCPT" args).run input).1).flatten)
    (hrun : ((smtpReply base64 ctx session "RCPT" args).run input).2 =
      some ((session', eventType), rest)) :
    SmtpStep ctx.requireAuth exchange session session' := by
  have hkept : SmtpStep ctx.requireAuth exchange session session := by
    refine .kept ?_ (not_endsTransaction hverb (by decide) (by decide))
    rw [hverb]
    decide
  have hrcpt : ∃ allowedMatch : Bool, smtpReply base64 ctx session "RCPT" args =
      if session.mailFrom.isNone then do
        writeLine "503 5.5.1 Need MAIL before RCPT"
        return (session, "smtp_command")
      else if allowedMatch then do
        writeLine "250 2.1.5 Recipient OK"
        return ({ session with rcptTo := session.rcptTo ++ [args] }, "smtp_command")
      else do
        writeLine "550 5.1.1 User unknown"
        return (session, "exploit_attempt") := ⟨_, rfl⟩
  obtain ⟨allowedMatch, hrcpt⟩ := hrcpt
  rw [hrcpt] at hreply hrun
  split_ifs at hreply hrun with hmail hallowed
  · rw [run_reply] at hrun
    cases hrun
    exact hkept
  · rw [run_reply] at hrun
    cases hrun
    rw [written_reply] at hreply
    apply SmtpStep.recipient args
    · refine ⟨hverb, ?_⟩
      rw [hreply]
      exact List.isPrefixOf_iff_prefix.mp rfl
    · rw [Option.isSome_iff_ne_none]
      simpa using hmail
  · rw [run_reply] at hrun
    cases hrun
    exact hkept

theorem smtpStep_data {args : Text} (hverb : exchange.smtpVerb = "DATA")
    (hreply : exchange.reply =
      (written ((smtpReply base64 ctx session "DATA" args).run input).1).flatten)
    (hrun : ((smtpReply base64 ctx session "DATA" args).run input).2 =
      some ((session', eventType), rest)) :
    SmtpStep ctx.requireAuth exchange session session' := by
  cases hrcpt : session.rcptTo with
  | nil =>
    rw [smtpReply_data_refused base64 hrcpt] at hreply hrun
    rw [run_reply] at hrun
    cases hrun
    rw [written_reply] at hreply
    apply SmtpStep.kept
    · rw [hverb]
      decide
    · rintro (hrset | hdata)
      · rw [hverb] at hrset
        exact absurd hrset (by decide)
      · have hopen := List.isPrefixOf_iff_prefix.mpr hdata.reply
        rw [hreply] at hopen
        exact absurd hopen (by decide)
  | cons address addresses =>
    have hne : session.rcptTo ≠ [] := by
      rw [hrcpt]
      exact List.cons_ne_nil _ _
    rw [smtpReply_data base64 hne] at hreply hrun
    have hresults : Results (fun found : SmtpSession × Text => found.1 = session.resetTransaction)
        (sendMessage session) :=
      results_then fun _ => results_then fun _ => results_then fun _ => results_ret rfl
    have hsession : session' = session.resetTransaction := hresults.of_run hrun
    rw [hsession]
    refine .reset (.inr ⟨hverb, ?_⟩)
    rw [hreply]
    exact opens_sendMessage session input

theorem smtpStep_reply
    (hreply : exchange.reply = (written ((smtpReply base64 ctx session exchange.smtpVerb
      (smtpCommand exchange.line).2).run input).1).flatten)
    (hrun : ((smtpReply base64 ctx session exchange.smtpVerb
      (smtpCommand exchange.line).2).run input).2 = some ((session', eventType), rest)) :
    SmtpStep ctx.requireAuth exchange session session' := by
  by_cases hauth : exchange.smtpVerb = "AUTH"
  · rw [hauth] at hreply hrun
    exact smtpStep_auth base64 hauth hreply hrun
  by_cases hmail : exchange.smtpVerb = "MAIL"
  · rw [hmail] at hreply hrun
    exact smtpStep_mail base64 hmail rfl hreply hrun
  by_cases hrcpt : exchange.smtpVerb = "RCPT"
  · rw [hrcpt] at hreply hrun
    exact smtpStep_rcpt base64 hrcpt hreply hrun
  by_cases hdata : exchange.smtpVerb = "DATA"
  · rw [hdata] at hreply hrun
    exact smtpStep_data base64 hdata hreply hrun
  by_cases hrset : exchange.smtpVerb = "RSET"
  · have hreset : smtpReply base64 ctx session "RSET" (smtpCommand exchange.line).2 = (do
        writeLine "250 2.0.0 Reset state"
        return (session.resetTransaction, "smtp_command")) := rfl
    rw [hrset, hreset, run_reply] at hrun
    cases hrun
    exact .reset (.inl hrset)
  · have hother : exchange.smtpVerb ∉ (["AUTH", "MAIL", "RCPT", "DATA", "RSET"] : List Text) := by
      simp only [List.mem_cons, List.not_mem_nil, or_false, not_or]
      exact ⟨hauth, hmail, hrcpt, hdata, hrset⟩
    have hsession : session' = session := (smtpReply_other base64 hother).of_run hrun
    rw [hsession]
    refine .kept hauth ?_
    rintro (h | h)
    · exact hrset h
    · exact hdata h.command

end Reply

theorem smtpAnswer_blank (hline : (trim line).isEmpty = true) :
    smtpAnswer base64 ctx session line = return .ignored session := by
  rw [smtpAnswer, if_pos hline]

theorem smtpAnswer_quit (hcustom : smtpCustom ctx line = none)
    (hquit : toAsciiUppercase (smtpCommand line).1 = "QUIT")
    (hline : (trim line).isEmpty = false) :
    smtpAnswer base64 ctx session line = (do
      writeLine "221 2.0.0 Bye"
      return .closed "smtp_command") := by
  rw [smtpAnswer, hline, if_neg Bool.false_ne_true, hcustom]
  exact if_pos hquit

theorem smtpStep_turn (hbuiltin : BuiltinOnly ctx)
    (hturn : ((handleSmtpLine base64 ctx peer session line).run input).2 =
      some (some session', rest)) :
    SmtpStep ctx.requireAuth
      ⟨line, lineReply (handleSmtpLine base64 ctx peer) session line input⟩ session session' := by
  have hcustom := smtpCustom_eq_none hbuiltin line
  cases hline : (trim line).isEmpty with
  | true =>
    have hverb {verb : Text} (hvisible : verb.any (fun c => !isWhitespace c) = true) :
        toAsciiUppercase (smtpCommand line).1 ≠ verb := by
      rintro rfl
      rw [isEmpty_trim_of_smtpCommand hvisible] at hline
      exact Bool.false_ne_true hline
    rw [handleSmtpLine, smtpAnswer_blank base64 hline] at hturn
    cases hturn
    refine .kept (hverb rfl) ?_
    rintro (h | h)
    · exact hverb rfl h
    · exact hverb rfl h.command
  | false =>
    have hquit : toAsciiUppercase (smtpCommand line).1 ≠ "QUIT" := by
      intro hquit
      rw [handleSmtpLine, smtpAnswer_quit base64 hcustom hquit hline] at hturn
      cases hturn
    obtain ⟨hreply, hresult⟩ := smtpLine_builtin base64 peer hcustom hline hquit session input
    rw [hresult] at hturn
    obtain ⟨⟨⟨_, eventType⟩, _⟩, hrun, hnext⟩ := Option.map_eq_some_iff.mp hturn
    cases hnext
    exact smtpStep_reply base64 hreply hrun

/-- Whatever was said, the session agrees with it. -/
theorem transacts_of_reaches (hbuiltin : BuiltinOnly ctx) {history : List Exchange}
    (h : Reaches (handleSmtpLine base64 ctx peer) (SmtpSession.new ctx.requireAuth) input history
      session rest) : Transacts ctx.requireAuth history session := by
  induction h with
  | started => exact transacts_new ctx.requireAuth
  | answered h hturn ih => exact ih.step (smtpStep_turn base64 peer hbuiltin hturn)

/-! ## The lines of a message -/

/-- The loop that reads the lines of a message, after so many bytes. -/
def readDataFrom (bytes : ℕ) : Session ℕ :=
  Talk.forEach
    (fun bytes raw => do
      let dataLine ← received raw
      if dataLine = "." then return .inr bytes else return .inl (bytes + byteLen dataLine))
    id bytes

/-- The lines without their line endings. -/
def dataLines (data : List Text) : List Text := data.map (trimEndMatches isLineEnd)

theorem run_readDataFrom_cons {raw : Text} (hraw : trimEndMatches isLineEnd raw ≠ ".")
    (bytes : ℕ) (input : List ReceivedLine) :
    (readDataFrom bytes).run (some raw :: input) =
      (readDataFrom (bytes + byteLen (trimEndMatches isLineEnd raw))).run input := by
  have hbody : (if trimEndMatches isLineEnd raw = "." then return .inr bytes
      else return .inl (bytes + byteLen (trimEndMatches isLineEnd raw)) : Session (ℕ ⊕ ℕ)).run
        input = ([], some (.inl (bytes + byteLen (trimEndMatches isLineEnd raw)), input)) := by
    rw [if_neg hraw]
    rfl
  have hround : (do
      let dataLine ← received (some raw)
      if dataLine = "." then return .inr bytes
      else return .inl (bytes + byteLen dataLine) : Session (ℕ ⊕ ℕ)).run input =
        ([], some (.inl (bytes + byteLen (trimEndMatches isLineEnd raw)), input)) := hbody
  rw [readDataFrom, Talk.run_forEach_cons, hround]
  rfl

theorem run_readDataFrom_append {data : List Text} (hdata : ("." : Text) ∉ dataLines data)
    (bytes : ℕ) (input : List ReceivedLine) :
    (readDataFrom bytes).run (data.map some ++ input) =
      (readDataFrom (bytes + ((dataLines data).map byteLen).sum)).run input := by
  induction data generalizing bytes with
  | nil => simp [dataLines]
  | cons raw data ih =>
    have hhead : trimEndMatches isLineEnd raw ≠ "." := by
      intro h
      apply hdata
      rw [dataLines, List.map_cons, h]
      exact List.mem_cons_self
    have htail : ("." : Text) ∉ dataLines data := fun h => hdata (List.mem_cons_of_mem _ h)
    rw [List.map_cons, List.cons_append, run_readDataFrom_cons hhead, ih htail]
    simp [dataLines, Nat.add_assoc]

/-- The message ends with a line that is a single dot, or with the input. -/
theorem run_readDataFrom_dot {dot : Text} (hdot : trimEndMatches isLineEnd dot = ".") (bytes : ℕ)
    (input : List ReceivedLine) :
    (readDataFrom bytes).run (some dot :: input) = ([], some (bytes, input)) := by
  have hround : (do
      let dataLine ← received (some dot)
      if dataLine = "." then return .inr bytes
      else return .inl (bytes + byteLen dataLine) : Session (ℕ ⊕ ℕ)).run input =
        ([], some (.inr bytes, input)) := by
    show (if trimEndMatches isLineEnd dot = "." then return .inr bytes
      else return .inl (bytes + byteLen (trimEndMatches isLineEnd dot)) : Session (ℕ ⊕ ℕ)).run
        input = _
    rw [if_pos hdot]
    rfl
  rw [readDataFrom, Talk.run_forEach_cons, hround]

theorem run_sendMessage {bytes : ℕ} (hread : readData.run input = ([], some (bytes, rest))) :
    (sendMessage session).run input =
      ([.wrote "354 End data with <CR><LF>.<CR><LF>", .wrote "\r\n",
          .wrote (("250 2.0.0 Message accepted for delivery (" : Text) ++ showNat bytes ++
            (" bytes)" : Text)), .wrote "\r\n"],
        some ((session.resetTransaction, ("exploit_attempt" : Text)), rest)) := by
  have hline : (writeLine "354 End data with <CR><LF>.<CR><LF>").run input =
      ([.wrote "354 End data with <CR><LF>.<CR><LF>", .wrote "\r\n"], some ((), input)) := rfl
  rw [sendMessage, Talk.run_bind, hline]
  simp only [Talk.run_bind, hread]
  rfl

theorem run_sendMessage_broken (hread : readData.run input = ([], none)) :
    (sendMessage session).run input =
      ([.wrote "354 End data with <CR><LF>.<CR><LF>", .wrote "\r\n"], none) := by
  have hline : (writeLine "354 End data with <CR><LF>.<CR><LF>").run input =
      ([.wrote "354 End data with <CR><LF>.<CR><LF>", .wrote "\r\n"], some ((), input)) := rfl
  rw [sendMessage, Talk.run_bind, hline]
  simp only [Talk.run_bind, hread]
  rfl

/-- What the client is told and what is reported of a message. -/
def messageAccepted (ctx : SmtpContext) (peer : SocketAddr) (line : Text) (data : List Text) :
    List (Output Text) :=
  [.wrote "354 End data with <CR><LF>.<CR><LF>", .wrote "\r\n",
    .wrote (("250 2.0.0 Message accepted for delivery (" : Text) ++
      showNat ((dataLines data).map byteLen).sum ++ (" bytes)" : Text)), .wrote "\r\n",
    .reported ⟨commandDraft ctx peer "exploit_attempt" (("SMTP command: " : Text) ++ line) line,
      none⟩]

/-- A line that is answered with 354. -/
theorem handleSmtpLine_data (hbuiltin : BuiltinOnly ctx)
    (h : Exchange.OpensData ⟨line, lineReply (handleSmtpLine base64 ctx peer) session line input⟩) :
    session.rcptTo ≠ [] ∧
      handleSmtpLine base64 ctx peer session line = (do
        let found ← sendMessage session
        audit (reportMailCommand ctx peer) "SMTP command: " "SMTP command: QUIT" line
          (.logged found.1 found.2)) := by
  have hverb : toAsciiUppercase (smtpCommand line).1 = "DATA" := h.command
  have hcustom := smtpCustom_eq_none hbuiltin line
  have hline : (trim line).isEmpty = false := by
    apply isEmpty_trim_of_smtpCommand
    rw [hverb]
    rfl
  have hquit : toAsciiUppercase (smtpCommand line).1 ≠ "QUIT" := by
    rw [hverb]
    decide
  obtain ⟨hreply, -⟩ := smtpLine_builtin base64 peer hcustom hline hquit session input
  have hrcpt : session.rcptTo ≠ [] := by
    intro hnone
    have hopen := List.isPrefixOf_iff_prefix.mpr h.reply
    dsimp only at hopen
    rw [hreply, hverb, smtpReply_data_refused base64 hnone, written_reply] at hopen
    exact absurd hopen (by decide)
  use hrcpt
  have hanswer : smtpAnswer base64 ctx session line = (do
      let found ← smtpReply base64 ctx session (toAsciiUppercase (smtpCommand line).1)
        (smtpCommand line).2
      return .logged found.1 found.2) := by
    rw [smtpAnswer, hline, if_neg Bool.false_ne_true, hcustom]
    exact if_neg hquit
  rw [handleSmtpLine, hanswer, hverb, smtpReply_data base64 hrcpt, Talk.bind_assoc]
  rfl

/-- The lines of a message are read before the next command, whatever they are. -/
theorem run_data (hbuiltin : BuiltinOnly ctx) {raw : Text} {data : List Text}
    (hdata : ("." : Text) ∉ dataLines data) (hinput : input = data.map some ++ rest)
    (h : Exchange.OpensData ⟨trimEndMatches isLineEnd raw, lineReply
      (handleSmtpLine base64 ctx peer) session (trimEndMatches isLineEnd raw) input⟩) :
    let outs := messageAccepted ctx peer (trimEndMatches isLineEnd raw) data
    let serve := serveLines (handleSmtpLine base64 ctx peer)
    let next := session.resetTransaction
    (∀ dot rest', rest = some dot :: rest' → trimEndMatches isLineEnd dot = "." →
      (serve session).run (some raw :: input) =
        (outs ++ ((serve next).run rest').1, ((serve next).run rest').2)) ∧
    (rest = [] → (serve session).run (some raw :: input) = (outs, some ((), []))) ∧
    (∀ rest', rest = none :: rest' →
      (serve session).run (some raw :: input) = (outs.take 2, none)) := by
  obtain ⟨-, hturn⟩ := handleSmtpLine_data base64 peer hbuiltin h
  intro outs serve next
  have hread : readData.run input =
      (readDataFrom ((dataLines data).map byteLen).sum).run rest := by
    have happend := run_readDataFrom_append hdata 0 rest
    rw [Nat.zero_add, ← hinput] at happend
    exact happend
  have haccepted {rest' : List ReceivedLine}
      (hbytes : readData.run input = ([], some (((dataLines data).map byteLen).sum, rest'))) :
      (serve session).run (some raw :: input) =
        (outs ++ ((serve next).run rest').1, ((serve next).run rest').2) := by
    apply run_serveLines_cons
    rw [hturn, Talk.run_bind, run_sendMessage hbytes]
    rfl
  refine ⟨?_, ?_, ?_⟩
  · rintro dot rest' rfl hdot
    exact haccepted (hread.trans (run_readDataFrom_dot hdot _ _))
  · rintro rfl
    rw [haccepted hread]
    exact congrArg (fun outs => (outs, some ((), []))) (List.append_nil outs)
  · rintro rest' rfl
    apply run_serveLines_broken
    rw [hturn, Talk.run_bind, run_sendMessage_broken hread]
    rfl

/-- DATA is answered with 354 only if a sender and then a recipient were accepted in the
transaction. What comes up to a line with a single dot is the message. -/
theorem smtp_transactionOrder (hbuiltin : BuiltinOnly ctx) (history : List Exchange)
    (h : Reaches (handleSmtpLine base64 ctx peer) (SmtpSession.new ctx.requireAuth) input history
      session rest) (raw : Text) (data : List Text) (input' rest' : List ReceivedLine)
    (hinput : input' = data.map some ++ rest') (hdata : ("." : Text) ∉ dataLines data)
    (hopen : Exchange.OpensData ⟨trimEndMatches isLineEnd raw, lineReply
      (handleSmtpLine base64 ctx peer) session (trimEndMatches isLineEnd raw) input'⟩) :
    RecipientAccepted ctx.requireAuth history ∧
    session.resetTransaction.authed = session.authed ∧
    let outs := messageAccepted ctx peer (trimEndMatches isLineEnd raw) data
    let serve := serveLines (handleSmtpLine base64 ctx peer)
    let next := session.resetTransaction
    (∀ dot more, rest' = some dot :: more → trimEndMatches isLineEnd dot = "." →
      (serve session).run (some raw :: input') =
        (outs ++ ((serve next).run more).1, ((serve next).run more).2)) ∧
    (rest' = [] → (serve session).run (some raw :: input') = (outs, some ((), []))) ∧
    (∀ more, rest' = none :: more →
      (serve session).run (some raw :: input') = (outs.take 2, none)) := by
  obtain ⟨hrcpt, -⟩ := handleSmtpLine_data base64 peer hbuiltin hopen
  exact ⟨(transacts_of_reaches base64 peer hbuiltin h).recipient hrcpt, rfl,
    run_data base64 peer hbuiltin hdata hinput hopen⟩

end Lines

/-- Authentication is required, and the user is `a` with the password `b`. -/
def relay : SmtpContext :=
  ⟨"rule-1", "local", 25, ⟨none, none, some true, some [⟨"a", "b"⟩], none, none, none⟩⟩

/-- What is said on the way to a message whose only line looks like a command. -/
def relayLines : List Text :=
  ["AUTH PLAIN AGEAYg==\r\n", "MAIL FROM:<a@x>\r\n", "RCPT TO:<b@x>\r\n", "DATA\r\n", "RSET\r\n",
    ".\r\n"]

/-- What is answered to the line with the index. -/
def relaySaid (session : SmtpSession) (index : ℕ) : Exchange :=
  let line := trimEndMatches isLineEnd ((relayLines[index]?).getD [])
  ⟨line, lineReply (handleSmtpLine loginBase64 relay imapClient) session line
    ((relayLines.drop (index + 1)).map some)⟩

def relayHistory : List Exchange :=
  [relaySaid ⟨true, some "FROM:<a@x>", []⟩ 2, relaySaid ⟨true, none, []⟩ 1,
    relaySaid ⟨false, none, []⟩ 0]

theorem reaches_relayHistory :
    Reaches (handleSmtpLine loginBase64 relay imapClient) (SmtpSession.new relay.requireAuth)
      (relayLines.map some) relayHistory ⟨true, some "FROM:<a@x>", ["TO:<b@x>"]⟩
      ((relayLines.drop 3).map some) := by
  have hauth : Reaches (handleSmtpLine loginBase64 relay imapClient)
      (SmtpSession.new relay.requireAuth) (relayLines.map some) [relaySaid ⟨false, none, []⟩ 0]
      ⟨true, none, []⟩ ((relayLines.drop 1).map some) := Reaches.answered Reaches.started rfl
  have hmail : Reaches (handleSmtpLine loginBase64 relay imapClient)
      (SmtpSession.new relay.requireAuth) (relayLines.map some)
      [relaySaid ⟨true, none, []⟩ 1, relaySaid ⟨false, none, []⟩ 0]
      ⟨true, some "FROM:<a@x>", []⟩ ((relayLines.drop 2).map some) := Reaches.answered hauth rfl
  exact Reaches.answered hmail rfl

theorem opensData_relay :
    (relaySaid ⟨true, some "FROM:<a@x>", ["TO:<b@x>"]⟩ 3).OpensData := by
  constructor
  · rfl
  · exact List.isPrefixOf_iff_prefix.mp (by decide +kernel)

theorem smtp_transactionOrder_relay :
    BuiltinOnly relay ∧ RecipientAccepted relay.requireAuth relayHistory := by
  have hbuiltin : BuiltinOnly relay := rfl
  use hbuiltin
  have hdata : ("." : Text) ∉ dataLines ["RSET\r\n"] := by decide
  exact (smtp_transactionOrder loginBase64 imapClient hbuiltin relayHistory reaches_relayHistory
    "DATA\r\n" ["RSET\r\n"] ((relayLines.drop 4).map some) [some ".\r\n"] rfl hdata
    opensData_relay).1

end ProtocolSimulation.Engine
