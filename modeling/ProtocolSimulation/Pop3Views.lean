import ProtocolSimulation.Pop3Marks
import ProtocolSimulation.Pop3Retrievals

/-!
# The views of a POP3 mailbox

STAT, LIST, UIDL, RETR and TOP are all answered from the marks in the session, so
they agree on the messages that are left.
-/
namespace ProtocolSimulation.Engine

open ProtocolSimulation.Texts ProtocolSimulation.Conversations

def messageSize (messages : List MailMessage) (number : ℕ) : ℕ :=
  ((messages[number - 1]?).map pop3MessageSize).getD 0

def messageUid (messages : List MailMessage) (number : ℕ) : Text :=
  ((messages[number - 1]?).map fun message => message.uid.getD "seclab-uid").getD []

/-- A reply that has a line for each of the numbers. -/
def listing (header : Text) (numbers : List ℕ) (describe : ℕ → Text) : Text :=
  header ++ ("\r\n" : Text) ++
    numbers.flatMap (fun number =>
      showNat number ++ (" " : Text) ++ describe number ++ ("\r\n" : Text)) ++
    (".\r\n" : Text)

/-- The message number in the arguments, however large it is. -/
def messageNumber (args : Text) : Option ℕ := (splitWhitespace args).head?.bind numeral

/-- Numbers that a `usize` holds are understood, and no others. -/
theorem parseIndex_of_messageNumber {args : Text} {number : ℕ}
    (h : messageNumber args = some number) (hpos : 0 < number) :
    parseIndex args = if number < 2 ^ 64 then some (number - 1) else none := by
  obtain ⟨first, hfirst, hnumber⟩ := Option.bind_eq_some_iff.mp h
  have hparsed := parseUsize_of_numeral hnumber
  by_cases hsmall : number < 2 ^ 64
  · rw [if_pos hsmall] at hparsed ⊢
    simp [parseIndex, hfirst, hparsed, hpos]
  · rw [if_neg hsmall] at hparsed ⊢
    simp [parseIndex, hfirst, hparsed]

/-- The line asks for the command, and is given no custom response. -/
structure Pop3Asks (ctx : Pop3Context) (line command args : Text) : Prop where
  command : pop3Command line = (command, args)
  custom : pop3Custom ctx line = none

section Marks

variable {count : ℕ} {history : List Exchange} {session : Pop3Session} {exchange : Exchange}

/-! ## What is left of the mailbox -/

theorem remaining_eq (h : Tracks count history session) :
    remaining count history =
      ((List.range count).filter fun index => !session.isDeleted index).map
        fun index => index + 1 := by
  have hmarked : ∀ index ∈ List.range count,
      (!deletedSinceReset (index + 1) history) = !session.isDeleted index := by
    intro index hindex
    rw [h.marked index (List.mem_range.mp hindex)]
  have hsucc : (fun index => 1 + index) = fun index => index + 1 := funext (Nat.add_comm 1)
  rw [remaining, List.range'_eq_map_range, hsucc, List.filter_map, ← List.filter_congr hmarked]
  rfl

theorem mem_remaining_iff (h : Tracks count history session) {index : ℕ} :
    index + 1 ∈ remaining count history ↔ index < count ∧ session.isDeleted index = false := by
  rw [remaining_eq h]
  simp

theorem remaining_of_deleted {number : ℕ} (hdeleted : exchange.deleted = some number)
    (hrset : (pop3Command exchange.line).1 ≠ "RSET") :
    remaining count (exchange :: history) =
      (remaining count history).filter fun other => other ≠ number := by
  rw [remaining, remaining, List.filter_filter]
  apply List.filter_congr
  intro other _
  rw [deletedSinceReset, if_neg hrset, hdeleted]
  simp [eq_comm]

theorem remaining_of_none (hdeleted : exchange.deleted = none)
    (hrset : (pop3Command exchange.line).1 ≠ "RSET") :
    remaining count (exchange :: history) = remaining count history := by
  rw [remaining, remaining]
  apply List.filter_congr
  intro other _
  rw [deletedSinceReset, if_neg hrset, hdeleted]
  rfl

theorem remaining_of_rset (hrset : (pop3Command exchange.line).1 = "RSET") :
    remaining count (exchange :: history) = List.range' 1 count := by
  apply List.filter_eq_self.mpr
  intro number _
  rw [deletedSinceReset, if_pos hrset]
  rfl

theorem isSome_visibleMessage_iff {messages : List MailMessage}
    (h : Tracks messages.length history session) {index : ℕ} :
    (visibleMessage messages session index).isSome = true ↔
      index + 1 ∈ remaining messages.length history := by
  rw [mem_remaining_iff h, visibleMessage, Option.isSome_filter, Option.any_eq_true]
  constructor
  · rintro ⟨message, hmessage, hvisible⟩
    exact ⟨(List.getElem?_eq_some_iff.mp hmessage).1, by simpa using hvisible⟩
  · rintro ⟨hlt, hvisible⟩
    exact ⟨messages[index], List.getElem?_eq_getElem hlt, by simpa using hvisible⟩

/-- What is said of the visible messages, in order, is said of the numbers that are left. -/
theorem map_visibleMessages {messages : List MailMessage} {β : Type} {g : ℕ × MailMessage → β}
    {g' : ℕ → β} (h : Tracks messages.length history session)
    (hg : ∀ index message, messages[index]? = some message → g (index, message) = g' (index + 1)) :
    (visibleMessages messages session).map g = (remaining messages.length history).map g' := by
  have hindices : (messages.zipIdx.map fun entry => (entry.2, entry.1)).map Prod.fst =
      List.range messages.length := by
    rw [List.map_map, List.range_eq_range', ← List.zipIdx_map_snd 0 messages]
    rfl
  have hvisible : ∀ entry ∈ visibleMessages messages session, g entry = g' (entry.1 + 1) := by
    rintro ⟨index, message⟩ hentry
    apply hg
    simpa [visibleMessages, List.mem_zipIdx_iff_getElem?] using (List.mem_filter.mp hentry).1
  rw [remaining_eq h, ← hindices, List.filter_map, List.map_map, List.map_map,
    List.map_congr_left hvisible]
  rfl

end Marks

section Base64

variable (base64 : Text → Option Bytes) {ctx : Pop3Context} (peer : SocketAddr)
  {session : Pop3Session} {line : Text} {input : List ReceivedLine}

/-! ## The replies -/

theorem Pop3Asks.answered {command args : Text} (h : Pop3Asks ctx line command args)
    (session : Pop3Session) (input : List ReceivedLine)
    (hvisible : command.any (fun c => !isWhitespace c) = true) (hquit : command ≠ "QUIT") :
    let reply := pop3Reply base64 ctx session command args
    lineReply (handlePop3Line base64 ctx peer) session line input =
        (written (reply.run input).1).flatten ∧
      ((handlePop3Line base64 ctx peer session line).run input).2 =
        (reply.run input).2.map fun found => (some found.1.1, found.2) := by
  have hcommand : (pop3Command line).1 = command := by rw [h.command]
  have hline : (trim line).isEmpty = false := by
    rw [← hcommand] at hvisible
    exact isEmpty_trim_of_command hvisible
  have hquit' : (pop3Command line).1 ≠ "QUIT" := by rwa [hcommand]
  have hbuiltin := pop3Line_builtin base64 peer h.custom hline hquit' session input
  rwa [h.command] at hbuiltin

theorem written_listing {messages : List MailMessage} {history : List Exchange} {args : Text}
    {describe : MailMessage → Text} {describe' : ℕ → Text}
    (h : Tracks messages.length history session)
    (hdescribe : ∀ index message, messages[index]? = some message →
      describe message = describe' (index + 1))
    (hindex : parseIndex args = none) (header : Text) {α : Type} (a : α) :
    (written ((do
        writeListing messages session args header describe
        return a : Session α).run input).1).flatten =
      listing header (remaining messages.length history) describe' := by
  have hentries : (visibleMessages messages session).map (fun entry =>
        showNat (entry.1 + 1) ++ (" " : Text) ++ describe entry.2) =
      (remaining messages.length history).map fun number =>
        showNat number ++ (" " : Text) ++ describe' number := by
    apply map_visibleMessages h
    intro index message hmessage
    rw [hdescribe index message hmessage]
  have hlisting : writeListing messages session args header describe = (do
      writeLine header
      writeLines ((visibleMessages messages session).map fun entry =>
        showNat (entry.1 + 1) ++ (" " : Text) ++ describe entry.2)
      writeLine ".") := by
    rw [writeListing, hindex]
  rw [hlisting, hentries, written_lines, listing, List.flatMap_map]

theorem succeeded_entry {messages : List MailMessage} {args : Text} {index : ℕ}
    (hindex : parseIndex args = some index) (header : Text) (describe : MailMessage → Text)
    {α : Type} (a : α) :
    succeeded (written ((do
        writeListing messages session args header describe
        return a : Session α).run input).1).flatten =
      (visibleMessage messages session index).isSome := by
  cases hmessage : visibleMessage messages session index with
  | none =>
    have hentry : writeListing messages session args header describe =
        writeLine "-ERR No such message" := by
      rw [writeListing, hindex]
      simp only [hmessage]
    rw [hentry, written_reply]
    rfl
  | some message =>
    have hentry : writeListing messages session args header describe = writeLine
        (("+OK " : Text) ++ (showNat (index + 1) ++ (" " : Text) ++ describe message)) := by
      rw [writeListing, hindex]
      simp only [hmessage]
    rw [hentry, written_reply]
    rfl

theorem succeeded_retr {args : Text} {index : ℕ} (hauthed : session.authed = true)
    (hindex : parseIndex args = some index) :
    succeeded (written ((pop3Reply base64 ctx session "RETR" args).run input).1).flatten =
      (visibleMessage ctx.messages session index).isSome := by
  cases hmessage : visibleMessage ctx.messages session index with
  | none =>
    have hreply : pop3Reply base64 ctx session "RETR" args = (do
        writeLine "-ERR No such message"
        return (session, "pop3_command")) := by
      apply (whenAuthed_of_authed hauthed _).trans
      simp only [hindex, hmessage]
    rw [hreply, written_reply]
    rfl
  | some message =>
    rw [written_retr base64 hauthed hindex hmessage]
    rfl

/-- A reply about one message reports success iff the message is left. -/
theorem succeeded_iff_mem_remaining {history : List Exchange} {command args : Text} {index : ℕ}
    (h : Tracks ctx.messages.length history session) (hauthed : session.authed = true)
    (hcommand : command = "LIST" ∨ command = "UIDL" ∨ command = "RETR" ∨ command = "TOP")
    (hindex : parseIndex args = some index) :
    succeeded (written ((pop3Reply base64 ctx session command args).run input).1).flatten = true ↔
      index + 1 ∈ remaining ctx.messages.length history := by
  rw [← isSome_visibleMessage_iff h]
  obtain rfl | rfl | rfl | rfl := hcommand
  · have hlist : pop3Reply base64 ctx session "LIST" args = _ := whenAuthed_of_authed hauthed _
    rw [hlist, succeeded_entry hindex]
  · have huidl : pop3Reply base64 ctx session "UIDL" args = _ := whenAuthed_of_authed hauthed _
    rw [huidl, succeeded_entry hindex]
  · rw [succeeded_retr base64 hauthed hindex]
  · have htop : pop3Reply base64 ctx session "TOP" args =
        pop3Reply base64 ctx session "RETR" args := rfl
    rw [htop, succeeded_retr base64 hauthed hindex]

/-- RETR and TOP ask for one. -/
theorem refused_retr {command args : Text} (hauthed : session.authed = true)
    (hcommand : command = "RETR" ∨ command = "TOP") (hindex : parseIndex args = none) :
    succeeded (written ((pop3Reply base64 ctx session command args).run input).1).flatten =
      false := by
  have hreply : pop3Reply base64 ctx session command args = (do
      writeLine "-ERR Message number required"
      return (session, "pop3_command")) := by
    obtain rfl | rfl := hcommand
    · apply (whenAuthed_of_authed hauthed _).trans
      simp only [hindex]
    · apply (whenAuthed_of_authed hauthed _).trans
      simp only [hindex]
  rw [hreply, written_reply]
  rfl

theorem stat_reply {history : List Exchange} {args : Text}
    (h : Tracks ctx.messages.length history session) (hauthed : session.authed = true)
    (hasks : Pop3Asks ctx line "STAT" args) :
    lineReply (handlePop3Line base64 ctx peer) session line input =
      ("+OK " : Text) ++ showNat (remaining ctx.messages.length history).length ++ (" " : Text) ++
        showNat ((remaining ctx.messages.length history).map (messageSize ctx.messages)).sum ++
        ("\r\n" : Text) := by
  have hsizes : (visibleMessages ctx.messages session).map (fun entry => pop3MessageSize entry.2) =
      (remaining ctx.messages.length history).map (messageSize ctx.messages) := by
    apply map_visibleMessages h
    intro index message hmessage
    rw [messageSize, Nat.add_sub_cancel, hmessage]
    rfl
  have hlength := congrArg List.length hsizes
  rw [List.length_map, List.length_map] at hlength
  have hstat : pop3Reply base64 ctx session "STAT" args = _ := whenAuthed_of_authed hauthed _
  rw [(hasks.answered base64 peer session input rfl (by decide)).1, hstat,
    written_reply, hlength]
  exact congrArg (fun sizes : List ℕ => _ ++ showNat sizes.sum ++ _) hsizes

theorem list_reply {history : List Exchange} {args : Text}
    (h : Tracks ctx.messages.length history session) (hauthed : session.authed = true)
    (hasks : Pop3Asks ctx line "LIST" args) (hindex : parseIndex args = none) :
    lineReply (handlePop3Line base64 ctx peer) session line input =
      listing "+OK Scan listing follows" (remaining ctx.messages.length history) fun number =>
        showNat (messageSize ctx.messages number) := by
  have hlist : pop3Reply base64 ctx session "LIST" args = _ := whenAuthed_of_authed hauthed _
  rw [(hasks.answered base64 peer session input rfl (by decide)).1, hlist]
  apply written_listing h _ hindex
  intro index message hmessage
  rw [messageSize, Nat.add_sub_cancel, hmessage]
  rfl

theorem uidl_reply {history : List Exchange} {args : Text}
    (h : Tracks ctx.messages.length history session) (hauthed : session.authed = true)
    (hasks : Pop3Asks ctx line "UIDL" args) (hindex : parseIndex args = none) :
    lineReply (handlePop3Line base64 ctx peer) session line input =
      listing "+OK Unique-ID listing follows" (remaining ctx.messages.length history)
        (messageUid ctx.messages) := by
  have huidl : pop3Reply base64 ctx session "UIDL" args = _ := whenAuthed_of_authed hauthed _
  rw [(hasks.answered base64 peer session input rfl (by decide)).1, huidl]
  apply written_listing h _ hindex
  intro index message hmessage
  rw [messageUid, Nat.add_sub_cancel, hmessage]
  rfl

theorem dele_deletes {history : List Exchange} {args : Text} {index : ℕ}
    (h : Tracks ctx.messages.length history session) (hauthed : session.authed = true)
    (hasks : Pop3Asks ctx line "DELE" args) (hindex : parseIndex args = some index)
    (hlt : index < ctx.messages.length) :
    let reply := lineReply (handlePop3Line base64 ctx peer) session line input
    succeeded reply = true ∧ remaining ctx.messages.length (⟨line, reply⟩ :: history) =
      (remaining ctx.messages.length history).filter fun number => number ≠ index + 1 := by
  intro reply
  have hcommand : (pop3Command line).1 = "DELE" := by rw [hasks.command]
  have hargs : (pop3Command line).2 = args := by rw [hasks.command]
  have hsucceeded : succeeded reply = true := by
    have hreply : reply = _ :=
      (hasks.answered base64 peer session input rfl (by decide)).1
    rw [← h.length] at hlt
    rw [hreply, pop3Reply_dele base64 hauthed hindex hlt, written_reply]
    rfl
  rw [← hargs] at hindex
  refine ⟨hsucceeded, remaining_of_deleted ?_ ?_⟩
  · exact Exchange.deleted_of_succeeded hcommand hsucceeded hindex
  · rw [hcommand]
    decide

/-- No other number is deleted, and nothing else changes. -/
theorem dele_refused {history : List Exchange} {args : Text}
    (h : Tracks ctx.messages.length history session) (hasks : Pop3Asks ctx line "DELE" args)
    (hbeyond : ∀ index, parseIndex args = some index → ctx.messages.length ≤ index) :
    let reply := lineReply (handlePop3Line base64 ctx peer) session line input
    ((handlePop3Line base64 ctx peer session line).run input).2 = some (some session, input) ∧
      remaining ctx.messages.length (⟨line, reply⟩ :: history) =
        remaining ctx.messages.length history := by
  intro reply
  have hcommand : (pop3Command line).1 = "DELE" := by rw [hasks.command]
  have hrset : (pop3Command line).1 ≠ "RSET" := by
    rw [hcommand]
    decide
  obtain ⟨hreply, hturn⟩ :=
    hasks.answered base64 peer session input rfl (by decide)
  obtain ⟨index, -, hindex, hlt, -, -⟩ | ⟨-, hrefused, hresult⟩ :=
    run_dele base64 ctx session args input
  · have hle := hbeyond index hindex
    rw [h.length] at hlt
    omega
  · rw [hturn, hresult]
    rw [← hreply] at hrefused
    refine ⟨rfl, remaining_of_none ?_ hrset⟩
    exact Exchange.deleted_of_refused hrefused

/-- LIST and UIDL answer a number that is not understood as if there was none. -/
theorem whole_reply {history : List Exchange} {command args : Text}
    (h : Tracks ctx.messages.length history session) (hauthed : session.authed = true)
    (hasks : Pop3Asks ctx line command args) (hcommand : command = "LIST" ∨ command = "UIDL")
    (hindex : parseIndex args = none) :
    succeeded (lineReply (handlePop3Line base64 ctx peer) session line input) = true := by
  obtain rfl | rfl := hcommand
  · rw [list_reply base64 peer h hauthed hasks hindex]
    rfl
  · rw [uidl_reply base64 peer h hauthed hasks hindex]
    rfl

/-- The reply about one message tells whether it is left, except that of LIST or UIDL about a number
too large for them. -/
theorem single_reply {history : List Exchange} {command args : Text} {number : ℕ}
    (h : Tracks ctx.messages.length history session) (hauthed : session.authed = true)
    (hfits : ctx.messages.length < 2 ^ 64) (hasks : Pop3Asks ctx line command args)
    (hcommand : command = "LIST" ∨ command = "UIDL" ∨ command = "RETR" ∨ command = "TOP")
    (hnumber : messageNumber args = some number) (hpos : 0 < number) :
    (succeeded (lineReply (handlePop3Line base64 ctx peer) session line input) = true ↔
        number ∈ remaining ctx.messages.length history) ↔
      number < 2 ^ 64 ∨ command = "RETR" ∨ command = "TOP" := by
  have hvisible : command.any (fun c => !isWhitespace c) = true := by
    obtain rfl | rfl | rfl | rfl := hcommand <;> rfl
  have hquit : command ≠ "QUIT" := by
    obtain rfl | rfl | rfl | rfl := hcommand <;> decide
  have hreply := (hasks.answered base64 peer session input hvisible hquit).1
  have hindex := parseIndex_of_messageNumber hnumber hpos
  by_cases hsmall : number < 2 ^ 64
  · rw [if_pos hsmall] at hindex
    have hsingle := @succeeded_iff_mem_remaining base64 ctx session input history command args _ h
      hauthed hcommand hindex
    rw [Nat.sub_add_cancel hpos] at hsingle
    rw [hreply]
    exact iff_of_true hsingle (Or.inl hsmall)
  · rw [if_neg hsmall] at hindex
    have hgone : number ∉ remaining ctx.messages.length history := by
      intro hmem
      have hrange := List.mem_range'_1.mp (List.mem_filter.mp hmem).1
      omega
    by_cases hretr : command = "RETR" ∨ command = "TOP"
    · have hrefused := @refused_retr base64 ctx session input command args hauthed hretr hindex
      rw [← hreply] at hrefused
      exact iff_of_true (by simp [hrefused, hgone]) (Or.inr hretr)
    · have hlist : command = "LIST" ∨ command = "UIDL" := by tauto
      refine iff_of_false ?_ (not_or.mpr ⟨hsmall, hretr⟩)
      intro hiff
      exact hgone (hiff.mp (whole_reply base64 peer h hauthed hasks hlist hindex))

/-! ## The views agree -/

/-- What a client is told about the mailbox, in a session with the given history. -/
structure ViewsAgree (ctx : Pop3Context) (history : List Exchange) (session : Pop3Session)
    (rest : List ReceivedLine) : Prop where
  increasing : (remaining ctx.messages.length history).Pairwise (· < ·)
  stat : ∀ line args, Pop3Asks ctx line "STAT" args →
    lineReply (handlePop3Line base64 ctx peer) session line rest =
      ("+OK " : Text) ++ showNat (remaining ctx.messages.length history).length ++ (" " : Text) ++
        showNat ((remaining ctx.messages.length history).map (messageSize ctx.messages)).sum ++
        ("\r\n" : Text)
  list : ∀ line args, Pop3Asks ctx line "LIST" args → parseIndex args = none →
    lineReply (handlePop3Line base64 ctx peer) session line rest =
      listing "+OK Scan listing follows" (remaining ctx.messages.length history) fun number =>
        showNat (messageSize ctx.messages number)
  uidl : ∀ line args, Pop3Asks ctx line "UIDL" args → parseIndex args = none →
    lineReply (handlePop3Line base64 ctx peer) session line rest =
      listing "+OK Unique-ID listing follows" (remaining ctx.messages.length history)
        (messageUid ctx.messages)
  single : ∀ line command args number, Pop3Asks ctx line command args →
    (command = "LIST" ∨ command = "UIDL" ∨ command = "RETR" ∨ command = "TOP") →
    messageNumber args = some number → 0 < number →
    ((succeeded (lineReply (handlePop3Line base64 ctx peer) session line rest) = true ↔
        number ∈ remaining ctx.messages.length history) ↔
      number < 2 ^ 64 ∨ command = "RETR" ∨ command = "TOP")
  dele : ∀ line args index, Pop3Asks ctx line "DELE" args → parseIndex args = some index →
    index < ctx.messages.length →
    let reply := lineReply (handlePop3Line base64 ctx peer) session line rest
    succeeded reply = true ∧ remaining ctx.messages.length (⟨line, reply⟩ :: history) =
      (remaining ctx.messages.length history).filter fun number => number ≠ index + 1
  outside : ∀ line args, Pop3Asks ctx line "DELE" args →
    (∀ index, parseIndex args = some index → ctx.messages.length ≤ index) →
    let reply := lineReply (handlePop3Line base64 ctx peer) session line rest
    ((handlePop3Line base64 ctx peer session line).run rest).2 = some (some session, rest) ∧
      remaining ctx.messages.length (⟨line, reply⟩ :: history) =
        remaining ctx.messages.length history
  rset : ∀ line args, Pop3Asks ctx line "RSET" args →
    let reply := lineReply (handlePop3Line base64 ctx peer) session line rest
    remaining ctx.messages.length (⟨line, reply⟩ :: history) =
      List.range' 1 ctx.messages.length

theorem viewsAgree_of_reaches {history : List Exchange} {rest : List ReceivedLine}
    (h : Reaches (handlePop3Line base64 ctx peer)
      (Pop3Session.new ctx.requireAuth ctx.messages.length) input history session rest)
    (hcustom : ∀ exchange ∈ history, pop3Custom ctx exchange.line = none)
    (hfits : ctx.messages.length < 2 ^ 64) (hauthed : session.authed = true) :
    ViewsAgree base64 peer ctx history session rest := by
  have htracks := tracks_of_reaches base64 peer h hcustom
  exact {
    increasing := List.Pairwise.filter _ List.pairwise_lt_range'
    stat := fun line args hasks => stat_reply base64 peer htracks hauthed hasks
    list := fun line args hasks hindex => list_reply base64 peer htracks hauthed hasks hindex
    uidl := fun line args hasks hindex => uidl_reply base64 peer htracks hauthed hasks hindex
    single := fun line command args number hasks hcommand hnumber hpos =>
      single_reply base64 peer htracks hauthed hfits hasks hcommand hnumber hpos
    dele := fun line args index hasks hindex hlt =>
      dele_deletes base64 peer htracks hauthed hasks hindex hlt
    outside := fun line args hasks hbeyond => dele_refused base64 peer htracks hasks hbeyond
    rset := fun line args hasks => by
      have hrset : (pop3Command line).1 = "RSET" := by rw [hasks.command]
      exact remaining_of_rset hrset }

end Base64

def mailClient : SocketAddr := ⟨"203.0.113.9", 40000⟩

/-- Two messages, and no authentication. -/
def twoMails : Pop3Context :=
  ⟨"rule-1", "local", 110, ⟨none, none, none, none, some [plainMail, dottedMail], none⟩⟩

def deleteFirst : Exchange :=
  ⟨trimEndMatches isLineEnd "DELE 1\r\n",
    lineReply (handlePop3Line (fun _ => none) twoMails mailClient) (Pop3Session.new false 2)
      (trimEndMatches isLineEnd "DELE 1\r\n") []⟩

theorem viewsAgree_deleteFirst : ViewsAgree (fun _ => none) mailClient twoMails [deleteFirst]
    ⟨none, true, [1, 0]⟩ [] := by
  have hreaches : Reaches (handlePop3Line (fun _ => none) twoMails mailClient)
      (Pop3Session.new false 2) [some "DELE 1\r\n"] [deleteFirst] ⟨none, true, [1, 0]⟩ [] := by
    refine Reaches.answered Reaches.started ?_
    rfl
  exact viewsAgree_of_reaches (fun _ => none) mailClient hreaches (fun _ _ => rfl) (by decide) rfl

/-- The first number that the program cannot read. -/
def hugeNumber : Text := showNat 18446744073709551616

/-- LIST succeeds for it, although there is one message only. -/
theorem list_hugeNumber :
    Pop3Asks (singleMail plainMail) (("LIST " : Text) ++ hugeNumber) "LIST" hugeNumber ∧
      succeeded (lineReply (handlePop3Line (fun _ => none) (singleMail plainMail) mailClient)
        (Pop3Session.new false 1) (("LIST " : Text) ++ hugeNumber) []) = true ∧
      18446744073709551616 ∉ remaining 1 [] := by
  have hasks : Pop3Asks (singleMail plainMail) (("LIST " : Text) ++ hugeNumber) "LIST" hugeNumber :=
    ⟨by decide +kernel, rfl⟩
  have htracks : Tracks (singleMail plainMail).messages.length [] (Pop3Session.new false 1) :=
    tracks_new false 1
  have hindex : parseIndex hugeNumber = none := by decide +kernel
  have hreply : lineReply _ _ _ [] = _ :=
    list_reply (fun _ => none) mailClient htracks rfl hasks hindex
  refine ⟨hasks, ?_, by decide⟩
  rw [hreply]
  rfl

end ProtocolSimulation.Engine
