import ProtocolSimulation.ImapFetches

/-!
# The selected IMAP mailbox

A client can tell from the replies which mailbox it selected last. The session
keeps its name, but every answer is about the messages of the inbox.
-/
namespace ProtocolSimulation.Engine

open ProtocolSimulation.Texts ProtocolSimulation.Conversations

/-- The messages configured for a mailbox. -/
def configuredMessages (config : SimImapConfig) (name : Text) : List MailMessage :=
  if name = "INBOX" then defaultMailboxMessages config
  else (config.mailboxes.bind fun items => items.get name).getD []

/-- The index of the message that FETCH reads for the number after the given one. -/
def fetchIndex (number : ℕ) : ℕ := if number + 1 < 18446744073709551616 then number else 0

/-- FETCH of the number after the given one finds in the inbox what is configured for the
mailbox. -/
def SameMessage (ctx : ImapContext) (name : Text) (number : ℕ) : Prop :=
  if number + 1 < 18446744073709551616 then
    (configuredMessages ctx.config name)[number]?.map fetchData =
      ctx.messages[number]?.map fetchData
  else (configuredMessages ctx.config name)[number]? = none ∧ ctx.messages = []

/-! ## Replies -/

/-- How the answer to a selection starts. -/
def existsText (count : ℕ) : Text := ("* " : Text) ++ showNat count ++ (" EXISTS\r\n" : Text)

/-- The answer to SEARCH. -/
def searchText (tag : Text) (count : ℕ) : Text :=
  ("* SEARCH " : Text) ++ joinWith " " ((List.range count).map fun value => showNat (value + 1)) ++
    (("\r\n" : Text) ++ taggedText tag "OK SEARCH completed")

theorem startsWith_existsText_iff {m n : ℕ} {rest : Text} :
    (∃ more, existsText n ++ rest = existsText m ++ more) ↔ m = n := by
  constructor
  · rintro ⟨more, hmore⟩
    have hcut (count : ℕ) (more : Text) : existsText count ++ more =
        ("* " : Text) ++ (showNat count ++ ' ' :: (("EXISTS\r\n" : Text) ++ more)) := by
      rw [existsText, List.append_assoc, List.append_assoc]
      rfl
    rw [hcut, hcut] at hmore
    exact (showNat_append_inj (List.append_cancel_left hmore)).1.symm
  · rintro rfl
    exact ⟨rest, rfl⟩

def isBlank (c : Char) : Bool := c == ' '

theorem isWord_showNat (n : ℕ) : Words.IsWord isBlank (showNat n) := by
  constructor
  · exact showNat_ne_nil n
  · intro c hc
    have hblank : c ≠ ' ' := fun h => blank_notMem_showNat n (h ▸ hc)
    simpa [isBlank] using hblank

theorem searchText_inj {tag : Text} {m n : ℕ} (h : searchText tag m = searchText tag n) :
    m = n := by
  have hword (count : ℕ) : ∀ word ∈ (List.range count).map fun value => showNat (value + 1),
      Words.IsWord isBlank word := by
    intro word hmem
    obtain ⟨value, -, rfl⟩ := List.mem_map.mp hmem
    exact isWord_showNat (value + 1)
  have hjoined := congrArg (Words.words isBlank)
    (List.append_cancel_left (List.append_cancel_right h))
  have hsep : isBlank ' ' = true := rfl
  have hwords (count : ℕ) := Words.words_intercalate hsep (hword count)
  have hlength := congrArg List.length ((hwords m).symm.trans (hjoined.trans (hwords n)))
  simpa using hlength

theorem taggedText_ne {front front' tag tag' status status' : Text}
    (h : status.getLast? ≠ status'.getLast?) (hne : status ≠ []) (hne' : status' ≠ []) :
    front ++ taggedText tag status ≠ front' ++ taggedText tag' status' := by
  intro heq
  have hcut (front tag status : Text) : front ++ taggedText tag status =
      front ++ (tag ++ (" " : Text)) ++ status ++ ("\r\n" : Text) := by
    rw [taggedText, List.append_assoc front, List.append_assoc front]
  rw [hcut, hcut] at heq
  have hlast := congrArg List.getLast? (List.append_cancel_right heq)
  rw [List.getLast?_append_of_ne_nil _ hne, List.getLast?_append_of_ne_nil _ hne'] at hlast
  exact h hlast

/-- What was fetched tells its data, and that it is there. -/
theorem fetchedText_inj {tag : Text} {m n : ℕ} {found other : Option MailMessage}
    (h : fetchedText tag m found = fetchedText tag n other) :
    found.map (fetchText m) = other.map (fetchText n) := by
  have hdifferent (sequence : ℕ) (message : MailMessage) :
      fetchText sequence message ++ taggedText tag "OK FETCH completed" ≠
        [] ++ taggedText tag "NO No such message" :=
    taggedText_ne (by decide) (by decide) (by decide)
  cases found with
  | none =>
    cases other with
    | none => rfl
    | some message => exact absurd h.symm (hdifferent n message)
  | some message =>
    cases other with
    | none => exact absurd h (hdifferent m message)
    | some other => exact congrArg some (List.append_cancel_right h)

theorem fetchedText_eq_iff {tag : Text} {n : ℕ} {found other : Option MailMessage} :
    fetchedText tag n found = fetchedText tag n other ↔
      found.map fetchData = other.map fetchData := by
  have hdata (message other : MailMessage) : fetchText n message = fetchText n other ↔
      fetchData message = fetchData other := by
    constructor
    · exact fun h => (fetchText_inj h).2
    · intro h
      rw [fetchText, h, fetchText]
  have hmaps : found.map (fetchText n) = other.map (fetchText n) ↔
      found.map fetchData = other.map fetchData := by
    cases found <;> cases other <;> simp [hdata]
  rw [← hmaps]
  constructor
  · exact fetchedText_inj
  · intro h
    cases found with
    | none =>
      cases other with
      | none => rfl
      | some other => cases h
    | some message =>
      cases other with
      | none => cases h
      | some other => rw [fetchedText, Option.some.inj h, fetchedText]

theorem fetchedText_eq_iff_of_ne {tag : Text} {m n : ℕ} (hne : m ≠ n)
    {found other : Option MailMessage} :
    fetchedText tag m found = fetchedText tag n other ↔ found = none ∧ other = none := by
  constructor
  · intro h
    have hmaps := fetchedText_inj h
    cases found with
    | none => simpa [eq_comm] using hmaps
    | some message =>
      cases other with
      | none => simp at hmaps
      | some other => exact absurd (fetchText_inj (Option.some.inj hmaps)).1 hne
  · rintro ⟨rfl, rfl⟩
    rfl

/-! ## What the client can tell -/

/-- Does the reply to a selection report success? -/
def completed (reply : Text) : Bool := ("] completed\r\n" : Text).isSuffixOf reply

/-- The mailbox that the client selected with the line. -/
def Exchange.selected (exchange : Exchange) : Option Text :=
  (parseImapLine exchange.line).bind fun parsed =>
    if (parsed.2.1 = "SELECT" ∨ parsed.2.1 = "EXAMINE") ∧ completed exchange.reply then
      some (trimMatches (· == '"') parsed.2.2)
    else none

/-- The mailbox that was selected last. The last line comes first. -/
def lastSelected : List Exchange → Option Text
  | [] => none
  | exchange :: earlier => exchange.selected.or (lastSelected earlier)

theorem Exchange.selected_eq {exchange : Exchange} {tag command args : Text}
    (h : parseImapLine exchange.line = some (tag, command, args))
    (hcommand : command = "SELECT" ∨ command = "EXAMINE") :
    exchange.selected =
      if completed exchange.reply then some (trimMatches (· == '"') args) else none := by
  rw [Exchange.selected, h]
  simp only [Option.bind_some, hcommand, true_and]

theorem Exchange.exists_of_selected {exchange : Exchange} {name : Text}
    (h : exchange.selected = some name) :
    ∃ tag command args, parseImapLine exchange.line = some (tag, command, args) ∧
      (command = "SELECT" ∨ command = "EXAMINE") := by
  obtain ⟨⟨tag, command, args⟩, hparsed, hselected⟩ := Option.bind_eq_some_iff.mp h
  use tag, command, args, hparsed
  by_contra hcommand
  rw [if_neg fun hcompleted => hcommand hcompleted.1] at hselected
  cases hselected

theorem completed_append_iff {front back : Text} (h : back.length = 13) :
    completed (front ++ back) = true ↔ back = "] completed\r\n" := by
  rw [completed, List.isSuffixOf_iff_suffix]
  constructor
  · rintro ⟨more, hmore⟩
    exact (List.append_inj' hmore h.symm).2.symm
  · rintro rfl
    exact List.suffix_append front _

theorem completed_selected (front tag command : Text) :
    completed (front ++ taggedText tag (("OK [" : Text) ++ command ++ ("] completed" : Text))) =
      true := by
  have hend : front ++ taggedText tag (("OK [" : Text) ++ command ++ ("] completed" : Text)) =
      front ++ tag ++ (" OK [" : Text) ++ command ++ ("] completed\r\n" : Text) := by
    simp [taggedText]
  rw [hend, completed_append_iff rfl]

theorem completed_refused (tag : Text) :
    completed (taggedText tag "NO Authentication required") = false := by
  have hend : taggedText tag "NO Authentication required" =
      tag ++ (" NO Authenticati" : Text) ++ ("on required\r\n" : Text) := by
    simp [taggedText]
  rw [hend, ← Bool.not_eq_true, completed_append_iff rfl]
  decide

/-! ## Lines -/

/-- A line with a command is not blank. -/
theorem isEmpty_trim_of_parsed {line tag command args : Text}
    (h : parseImapLine line = some (tag, command, args))
    (hvisible : command.any (fun c => !isWhitespace c) = true) : (trim line).isEmpty = false := by
  unfold parseImapLine at h
  split at h
  · next first second rest hpieces =>
    simp only [Option.some.injEq, Prod.mk.injEq] at h
    obtain ⟨-, rfl, -⟩ := h
    obtain ⟨c, hc, hvisible⟩ := List.any_eq_true.mp hvisible
    obtain ⟨d, hd, rfl⟩ := List.mem_map.mp hc
    rw [isWhitespace_toUpper] at hvisible
    have hline : d ∈ line := mem_of_mem_splitn (by rw [hpieces]; simp) hd
    simpa using trim_ne_nil hline (by simpa using hvisible)
  · cases h

/-- The line asks for the command, and is given no custom response. -/
structure ImapAsks (ctx : ImapContext) (line tag command args : Text) : Prop where
  parsed : parseImapLine line = some (tag, command, args)
  custom : imapCustom ctx line = none

section Base64

variable (base64 : Text → Option Bytes) {ctx : ImapContext} (peer : SocketAddr)
  {session : ImapSession} {line tag command args : Text}

theorem ImapAsks.answered (h : ImapAsks ctx line tag command args) (session : ImapSession)
    (input : List ReceivedLine) (hvisible : command.any (fun c => !isWhitespace c) = true)
    (hlogout : command ≠ "LOGOUT") :
    let reply := imapReply base64 ctx session tag command args
    lineReply (handleImapLine base64 ctx peer) session line input =
        (written (reply.run input).1).flatten ∧
      ((handleImapLine base64 ctx peer session line).run input).2 =
        (reply.run input).2.map fun found => (some found.1.1, found.2) := by
  intro reply
  have hanswer : imapAnswer base64 ctx session line =
      reply >>= fun found => return .logged found.1 found.2 := by
    rw [imapAnswer, isEmpty_trim_of_parsed h.parsed hvisible, if_neg Bool.false_ne_true, h.parsed,
      h.custom]
    exact if_neg hlogout
  obtain ⟨hwritten, hresult⟩ :=
    run_builtin ctx peer "IMAP command: " "IMAP command: LOGOUT" line reply input
  rw [← hanswer] at hwritten hresult
  exact ⟨congrArg List.flatten hwritten, hresult⟩

/-! ## Selections -/

theorem imapReply_select (hcommand : command = "SELECT" ∨ command = "EXAMINE") :
    imapReply base64 ctx session tag command args = whenImapAuthed tag session (do
      writeLine (("* " : Text) ++ showNat ctx.messages.length ++ (" EXISTS" : Text))
      writeLine "* FLAGS (\\Seen \\Answered \\Flagged \\Deleted \\Draft)"
      writeTagged tag (("OK [" : Text) ++ command ++ ("] completed" : Text))
      return ({ session with selectedMailbox := some (trimMatches (· == '"') args) },
        "imap_command")) := by
  obtain rfl | rfl := hcommand <;> rfl

/-- A selection is stored, and answered with the number of messages in the inbox. -/
theorem run_select (hcommand : command = "SELECT" ∨ command = "EXAMINE")
    (hauthed : session.authed = true) (input : List ReceivedLine) :
    let reply := (imapReply base64 ctx session tag command args).run input
    (written reply.1).flatten = existsText ctx.messages.length ++
        (("* FLAGS (\\Seen \\Answered \\Flagged \\Deleted \\Draft)\r\n" : Text) ++
          taggedText tag (("OK [" : Text) ++ command ++ ("] completed" : Text))) ∧
      reply.2 = some (({ session with selectedMailbox := some (trimMatches (· == '"') args) },
        ("imap_command" : Text)), input) := by
  rw [imapReply_select base64 hcommand, whenImapAuthed_of_authed hauthed]
  constructor
  · show [_, _, _, _, _, _].flatten = _
    simp [existsText, taggedText]
  · rfl

theorem run_select_refused (hcommand : command = "SELECT" ∨ command = "EXAMINE")
    (hauthed : session.authed = false) (input : List ReceivedLine) :
    let reply := (imapReply base64 ctx session tag command args).run input
    (written reply.1).flatten = taggedText tag "NO Authentication required" ∧
      reply.2 = some ((session, ("imap_command" : Text)), input) := by
  rw [imapReply_select base64 hcommand, whenImapAuthed, requireImapAuth, hauthed]
  constructor
  · show [_, _].flatten = _
    simp [taggedText]
  · rfl

/-- No other command selects a mailbox. -/
theorem selectedMailbox_imapReply (hcommand : ¬ (command = "SELECT" ∨ command = "EXAMINE"))
    (tag args : Text) :
    Results (fun found => found.1.selectedMailbox = session.selectedMailbox)
      (imapReply base64 ctx session tag command args) := by
  have hreply {m : Session Unit} {session' : ImapSession} {eventType : Text}
      (h : session'.selectedMailbox = session.selectedMailbox) :
      Results (fun found => found.1.selectedMailbox = session.selectedMailbox)
        (m >>= fun _ => (return (session', eventType) : Session (ImapSession × Text))) :=
    results_then fun _ => results_ret h
  have hauthed {body : Session (ImapSession × Text)}
      (h : Results (fun found => found.1.selectedMailbox = session.selectedMailbox) body) :
      Results (fun found => found.1.selectedMailbox = session.selectedMailbox)
        (whenImapAuthed tag session body) :=
    results_then fun _ => results_ite (fun _ => h) fun _ => results_ret rfl
  unfold imapReply
  refine results_ite (fun _ => ?capability) fun _ => results_ite (fun _ => hreply rfl) fun _ =>
    results_ite (fun _ => hreply rfl) fun _ => results_ite (fun _ => ?authenticate) fun _ =>
    results_ite (fun _ => hauthed ?list) fun _ => results_ite (fun _ => hauthed ?status) fun _ =>
    results_ite (fun h => absurd h hcommand) fun _ =>
    results_ite (fun _ => hauthed ?search) fun _ =>
    results_ite (fun _ => hauthed (hreply rfl)) fun _ =>
    results_ite (fun _ => hauthed ?uid) fun _ =>
    results_ite (fun _ => hauthed (hreply rfl)) fun _ => hreply rfl
  case capability => exact results_then fun _ => hreply rfl
  case authenticate => exact results_then fun _ => hreply rfl
  case list => exact results_then fun _ => results_then fun _ => hreply rfl
  case status => exact results_then fun _ => hreply rfl
  case search => exact results_then fun _ => hreply rfl
  case uid => exact results_ite (fun _ => hreply rfl) fun _ => hreply rfl

/-- A line changes the mailbox only by a selection that is given no custom response. -/
theorem selectedMailbox_imapAnswer
    (h : ∀ tag command args, parseImapLine line = some (tag, command, args) →
      imapCustom ctx line = none → ¬ (command = "SELECT" ∨ command = "EXAMINE")) :
    Results
      (fun handled => ∀ session' ∈ handled.next,
        session'.selectedMailbox = session.selectedMailbox)
      (imapAnswer base64 ctx session line) := by
  have hsame : ∀ session' ∈ some session,
      session'.selectedMailbox = session.selectedMailbox := by simp
  refine results_ite (fun _ => results_ret hsame) fun _ => ?_
  cases hparsed : parseImapLine line with
  | none => exact results_then fun _ => results_ret hsame
  | some parsed =>
    obtain ⟨tag, command, args⟩ := parsed
    cases hcustom : imapCustom ctx line with
    | some found => exact results_then fun _ => results_ret hsame
    | none =>
      have hcommand := h tag command args hparsed hcustom
      have hreply : Results _ (imapReply base64 ctx session tag command args) :=
        selectedMailbox_imapReply base64 hcommand tag args
      refine results_ite (fun _ => ?logout) fun _ => hreply.bind fun found hfound => ?reply
      case logout =>
        have hclosed : ∀ session' ∈ (none : Option ImapSession),
            session'.selectedMailbox = session.selectedMailbox := by simp
        exact results_then fun _ => results_then fun _ => results_ret hclosed
      case reply => exact results_ret (by simpa [Handled.next] using hfound)

theorem selectedMailbox_of_turn {input rest : List ReceivedLine} {session' : ImapSession}
    (h : ∀ tag command args, parseImapLine line = some (tag, command, args) →
      imapCustom ctx line = none → ¬ (command = "SELECT" ∨ command = "EXAMINE"))
    (hturn : ((handleImapLine base64 ctx peer session line).run input).2 =
      some (some session', rest)) :
    session'.selectedMailbox = session.selectedMailbox := by
  obtain ⟨-, hresult⟩ := run_audited ctx peer "IMAP command: " "IMAP command: LOGOUT" line
    (imapAnswer base64 ctx session line) input
  have hnext := hresult.symm.trans hturn
  obtain ⟨⟨handled, rest'⟩, hrun, hhandled⟩ := Option.map_eq_some_iff.mp hnext
  obtain ⟨hsession, -⟩ := Prod.mk.inj hhandled
  exact (selectedMailbox_imapAnswer base64 h).of_run hrun session' hsession

/-- The session has the name of the mailbox that was selected last, and each selection was answered
with the number of messages in the inbox. -/
structure Selections (ctx : ImapContext) (history : List Exchange) (session : ImapSession) :
    Prop where
  stored : session.selectedMailbox = lastSelected history
  announced : ∀ exchange ∈ history, ∀ name, exchange.selected = some name →
    ∃ rest, exchange.reply = existsText ctx.messages.length ++ rest

theorem Selections.kept {history : List Exchange} {exchange : Exchange} {session' : ImapSession}
    (h : Selections ctx history session) (hnone : exchange.selected = none)
    (hstored : session'.selectedMailbox = session.selectedMailbox) :
    Selections ctx (exchange :: history) session' where
  stored := by rw [hstored, h.stored, lastSelected, hnone, Option.none_or]
  announced other hother name hname := by
    obtain rfl | hearlier := List.mem_cons.mp hother
    · rw [hnone] at hname
      cases hname
    · exact h.announced other hearlier name hname

theorem Selections.select {history : List Exchange} {exchange : Exchange} {session' : ImapSession}
    {name : Text} (h : Selections ctx history session) (hselected : exchange.selected = some name)
    (hreply : ∃ rest, exchange.reply = existsText ctx.messages.length ++ rest)
    (hstored : session'.selectedMailbox = some name) :
    Selections ctx (exchange :: history) session' where
  stored := by rw [hstored, lastSelected, hselected, Option.some_or]
  announced other hother name hname := by
    obtain rfl | hearlier := List.mem_cons.mp hother
    · exact hreply
    · exact h.announced other hearlier name hname

/-- A selection of the client is kept, or it is refused. -/
theorem Selections.asked {history : List Exchange} {exchange : Exchange}
    {session' : ImapSession} {input rest : List ReceivedLine} (h : Selections ctx history session)
    (hreply : exchange.reply =
      lineReply (handleImapLine base64 ctx peer) session exchange.line input)
    (hasks : ImapAsks ctx exchange.line tag command args)
    (hcommand : command = "SELECT" ∨ command = "EXAMINE")
    (hturn : ((handleImapLine base64 ctx peer session exchange.line).run input).2 =
      some (some session', rest)) : Selections ctx (exchange :: history) session' := by
  have hvisible : command.any (fun c => !isWhitespace c) = true := by
    obtain rfl | rfl := hcommand <;> rfl
  have hlogout : command ≠ "LOGOUT" := by
    obtain rfl | rfl := hcommand <;> decide
  obtain ⟨hanswer, hresult⟩ := hasks.answered base64 peer session input hvisible hlogout
  have hselected := Exchange.selected_eq hasks.parsed hcommand
  rw [hreply, hanswer] at hselected
  rw [hresult] at hturn
  cases hauthed : session.authed with
  | true =>
    obtain ⟨hwritten, hrun⟩ := run_select base64 hcommand hauthed input
    rw [hrun] at hturn
    cases hturn
    rw [hwritten, ← List.append_assoc, completed_selected, if_pos rfl] at hselected
    exact h.select hselected ⟨_, hreply.trans (hanswer.trans hwritten)⟩ rfl
  | false =>
    obtain ⟨hwritten, hrun⟩ := run_select_refused base64 hcommand hauthed input
    rw [hrun] at hturn
    cases hturn
    rw [hwritten, completed_refused, if_neg Bool.false_ne_true] at hselected
    exact h.kept hselected rfl

theorem selections_answered {history : List Exchange} {exchange : Exchange}
    {session' : ImapSession} {input rest : List ReceivedLine} (h : Selections ctx history session)
    (hreply : exchange.reply =
      lineReply (handleImapLine base64 ctx peer) session exchange.line input)
    (hcustom : exchange.selected.isSome = true → imapCustom ctx exchange.line = none)
    (hturn : ((handleImapLine base64 ctx peer session exchange.line).run input).2 =
      some (some session', rest)) : Selections ctx (exchange :: history) session' := by
  by_cases hselection : ∃ tag command args, ImapAsks ctx exchange.line tag command args ∧
      (command = "SELECT" ∨ command = "EXAMINE")
  · obtain ⟨tag, command, args, hasks, hcommand⟩ := hselection
    exact h.asked base64 peer hreply hasks hcommand hturn
  · have hstored := selectedMailbox_of_turn base64 peer
      (fun tag command args hparsed hcustom hcommand =>
        hselection ⟨tag, command, args, ⟨hparsed, hcustom⟩, hcommand⟩) hturn
    refine h.kept ?_ hstored
    cases hselected : exchange.selected with
    | none => rfl
    | some name =>
      obtain ⟨tag, command, args, hparsed, hcommand⟩ := Exchange.exists_of_selected hselected
      have hasks := hcustom (by rw [hselected]; rfl)
      exact absurd ⟨tag, command, args, ⟨hparsed, hasks⟩, hcommand⟩ hselection

/-- Whatever was said, the session has the name of the mailbox that was selected last. -/
theorem selections_of_reaches {history : List Exchange} {input rest : List ReceivedLine}
    (h : Reaches (handleImapLine base64 ctx peer) ⟨!ctx.requireAuth, none⟩ input history session
      rest)
    (hcustom : ∀ exchange ∈ history, exchange.selected.isSome = true →
      imapCustom ctx exchange.line = none) : Selections ctx history session := by
  induction h with
  | started => exact ⟨rfl, fun exchange hexchange => absurd hexchange List.not_mem_nil⟩
  | answered h hturn ih =>
    have hselections := ih fun exchange hexchange =>
      hcustom exchange (List.mem_cons_of_mem _ hexchange)
    exact selections_answered base64 peer hselections rfl (hcustom _ List.mem_cons_self) hturn

/-! ## What is served -/

theorem search_reply (h : ImapAsks ctx line tag "SEARCH" args) (hauthed : session.authed = true)
    (input : List ReceivedLine) :
    lineReply (handleImapLine base64 ctx peer) session line input =
      searchText tag ctx.messages.length := by
  have hsearch : imapReply base64 ctx session tag "SEARCH" args = (do
      writeLine (("* SEARCH " : Text) ++
        joinWith " " ((List.range ctx.messages.length).map fun value => showNat (value + 1)))
      writeTagged tag "OK SEARCH completed"
      return (session, "imap_command")) := whenImapAuthed_of_authed hauthed _
  rw [(h.answered base64 peer session input rfl (by decide)).1, hsearch]
  have houts (ids : Text) : written ((do
        writeLine (("* SEARCH " : Text) ++ ids)
        writeTagged tag "OK SEARCH completed"
        return (session, ("imap_command" : Text)) : Session (ImapSession × Text)).run input).1 =
      [("* SEARCH " : Text) ++ ids, "\r\n", tag ++ (" " : Text) ++ ("OK SEARCH completed" : Text),
        "\r\n"] := rfl
  rw [houts]
  unfold searchText taggedText
  simp only [List.flatten_cons, List.flatten_nil, List.append_nil, List.append_assoc]

theorem fetch_reply (h : ImapAsks ctx line tag "FETCH" args) (hauthed : session.authed = true)
    {number : ℕ} (hnumber : (splitWhitespace args).head? = some (showNat (number + 1)))
    (input : List ReceivedLine) :
    lineReply (handleImapLine base64 ctx peer) session line input =
      fetchedText tag (fetchIndex number + 1) ctx.messages[fetchIndex number]? := by
  have hfetch : imapReply base64 ctx session tag "FETCH" args = _ :=
    whenImapAuthed_of_authed hauthed _
  have hindex : (((splitWhitespace args).head?.bind parseUsize).getD 1) - 1 =
      fetchIndex number := by
    rw [hnumber, Option.bind_some, parseUsize_showNat_eq, fetchIndex]
    by_cases hlt : number + 1 < 18446744073709551616
    · rw [if_pos hlt, if_pos (by omega)]
      rfl
    · rw [if_neg hlt, if_neg (by omega)]
      rfl
  rw [(h.answered base64 peer session input rfl (by decide)).1, hfetch, hindex, written_fetched]

/-- What a client is told about the mailbox it selected last, and when that is about the messages
configured for it. -/
structure ServesSelected (ctx : ImapContext) (history : List Exchange) (session : ImapSession)
    (rest : List ReceivedLine) (name : Text) : Prop where
  stored : session.selectedMailbox = some name
  announced : ∀ exchange ∈ history, ∀ other, exchange.selected = some other →
    ((∃ more, exchange.reply =
        existsText (configuredMessages ctx.config other).length ++ more) ↔
      (configuredMessages ctx.config other).length = ctx.messages.length)
  search : ∀ line tag args, ImapAsks ctx line tag "SEARCH" args →
    (lineReply (handleImapLine base64 ctx peer) session line rest =
        searchText tag (configuredMessages ctx.config name).length ↔
      (configuredMessages ctx.config name).length = ctx.messages.length)
  fetch : ∀ line tag args number, ImapAsks ctx line tag "FETCH" args →
    (splitWhitespace args).head? = some (showNat (number + 1)) →
    (lineReply (handleImapLine base64 ctx peer) session line rest =
        fetchedText tag (number + 1) (configuredMessages ctx.config name)[number]? ↔
      SameMessage ctx name number)

theorem servesSelected_of_reaches {history : List Exchange} {input rest : List ReceivedLine}
    (h : Reaches (handleImapLine base64 ctx peer) ⟨!ctx.requireAuth, none⟩ input history session
      rest)
    (hcustom : ∀ exchange ∈ history, exchange.selected.isSome = true →
      imapCustom ctx exchange.line = none)
    (hauthed : session.authed = true) {name : Text} (hname : lastSelected history = some name) :
    ServesSelected base64 peer ctx history session rest name := by
  have hselections := selections_of_reaches base64 peer h hcustom
  constructor
  case stored => rw [hselections.stored, hname]
  case announced =>
    intro exchange hexchange other hother
    obtain ⟨more, hreply⟩ := hselections.announced exchange hexchange other hother
    rw [hreply, startsWith_existsText_iff]
  case search =>
    intro line tag args hasks
    rw [search_reply base64 peer hasks hauthed]
    constructor
    · exact fun heq => (searchText_inj heq).symm
    · intro hlength
      rw [hlength]
  case fetch =>
    intro line tag args number hasks hnumber
    rw [fetch_reply base64 peer hasks hauthed hnumber, SameMessage, fetchIndex]
    split_ifs with hlt
    · rw [fetchedText_eq_iff, eq_comm]
    · rw [fetchedText_eq_iff_of_ne (by omega), and_comm, ← List.head?_eq_getElem?,
        List.head?_eq_none_iff]

end Base64

/-- A message in a mailbox besides the inbox, which is empty, and no authentication. -/
def archiveMails : ImapContext :=
  ⟨"rule-1", "local", 143, ⟨none, none, none, none,
    some ⟨[("Archive", [firstUidMail])], List.pairwise_singleton _ _⟩, none, none⟩⟩

def imapClient : SocketAddr := ⟨"203.0.113.9", 40000⟩

def selectArchive : Exchange :=
  ⟨trimEndMatches isLineEnd "b SELECT Archive\r\n",
    lineReply (handleImapLine (fun _ => none) archiveMails imapClient) ⟨true, none⟩
      (trimEndMatches isLineEnd "b SELECT Archive\r\n") []⟩

theorem reaches_selectArchive :
    Reaches (handleImapLine (fun _ => none) archiveMails imapClient)
      ⟨!archiveMails.requireAuth, none⟩ [some "b SELECT Archive\r\n"] [selectArchive]
      ⟨true, some "Archive"⟩ [] := by
  refine Reaches.answered Reaches.started ?_
  rfl

theorem lastSelected_selectArchive : lastSelected [selectArchive] = some "Archive" := by
  decide +kernel

theorem servesSelected_selectArchive :
    ServesSelected (fun _ => none) imapClient archiveMails [selectArchive] ⟨true, some "Archive"⟩ []
      "Archive" := by
  have hcustom : ∀ exchange ∈ [selectArchive], exchange.selected.isSome = true →
      imapCustom archiveMails exchange.line = none := by
    intro exchange hexchange _
    rw [List.mem_singleton.mp hexchange]
    rfl
  exact servesSelected_of_reaches (fun _ => none) imapClient reaches_selectArchive hcustom rfl
    lastSelected_selectArchive

/-- LIST names the mailbox, but no message is in it once it is selected. -/
theorem select_archive :
    lineReply (handleImapLine (fun _ => none) archiveMails imapClient) ⟨true, none⟩ "a LIST" [] =
        ("* LIST (\\HasNoChildren) \"/\" \"INBOX\"\r\n" : Text) ++
          ("* LIST (\\HasNoChildren) \"/\" \"Archive\"\r\na OK LIST completed\r\n" : Text) ∧
      lastSelected [selectArchive] = some "Archive" ∧
      configuredMessages archiveMails.config "Archive" = [firstUidMail] ∧
      (¬ ∃ more, selectArchive.reply = existsText [firstUidMail].length ++ more) ∧
      lineReply (handleImapLine (fun _ => none) archiveMails imapClient) ⟨true, some "Archive"⟩
        "c SEARCH ALL" [] ≠ searchText "c" [firstUidMail].length ∧
      lineReply (handleImapLine (fun _ => none) archiveMails imapClient) ⟨true, some "Archive"⟩
        "d FETCH 1" [] = ("d NO No such message\r\n" : Text) := by
  have hreply : selectArchive.reply = existsText 0 ++
      ("* FLAGS (\\Seen \\Answered \\Flagged \\Deleted \\Draft)\r\n" ++
        "b OK [SELECT] completed\r\n" : Text) := by decide +kernel
  refine ⟨by decide +kernel, lastSelected_selectArchive, rfl, ?_, by decide +kernel,
    by decide +kernel⟩
  rw [hreply, startsWith_existsText_iff]
  decide

end ProtocolSimulation.Engine
