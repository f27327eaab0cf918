import ProtocolSimulation.DottedTexts
import ProtocolSimulation.Pop3
import ProtocolSimulation.Words

/-!
# Retrieving a message over POP3

The stored message is written as it is, up to a line of a single dot. A client
that follows the protocol takes a dot away from every line that starts with one,
and stops at the first line that is nothing else.
-/
namespace ProtocolSimulation.Engine

open ProtocolSimulation.Texts ProtocolSimulation.Conversations ProtocolSimulation.Framing
open ProtocolSimulation.DottedTexts (Undotted IsLines lineEnd dottedStart readDotted
  readDotted_lines_iff readLine_lineEnd readLine_append_lineEnd dottedStart_infix_iff
  dottedStart_infix_joinWith_iff infix_joinWith_iff head?_joinWith infix_append_of_getLast
  infix_append_of_notMem)

/-- The octets that a status line announces. -/
def announcedOctets (status : Text) : Option ℕ := do
  let count ← stripSuffix " octets" (← stripPrefix "+OK " status)
  if count.isEmpty || !count.all isDigit then none else some (decimalValue count)

/-- What a client makes of the reply to RETR: the octets announced, and the message. -/
def readRetrieval : Reader Char (ℕ × Text) := fun input => do
  let (status, rest) ← DottedTexts.readLine input
  let octets ← announcedOctets status
  let (message, rest) ← readDotted rest
  return ((octets, message), rest)

/-- No line of a header or of the body starts with a dot. -/
def MailMessage.Undotted (message : MailMessage) : Prop :=
  (∀ text ∈ message.fromAddr :: message.subject :: (message.toAddrs ++ message.date.toList),
    ¬ dottedStart <:+: text) ∧ DottedTexts.Undotted message.body

/-- What a client of RETR is sent. -/
def retrievalText (message : MailMessage) : Text :=
  ("+OK " : Text) ++ showNat (byteLen (rfc822Message message)) ++ (" octets" : Text) ++ lineEnd ++
    (rfc822Message message ++ '.' :: lineEnd)

/-! ## The reply -/

theorem announcedOctets_status (n : ℕ) :
    announcedOctets (("+OK " : Text) ++ showNat n ++ (" octets" : Text)) = some n := by
  have hprefix : stripPrefix "+OK " (("+OK " : Text) ++ showNat n ++ (" octets" : Text)) =
      some (showNat n ++ (" octets" : Text)) :=
    stripPrefix_eq_some_iff.mpr (List.append_assoc _ _ _)
  have hsuffix : stripSuffix " octets" (showNat n ++ (" octets" : Text)) = some (showNat n) :=
    stripSuffix_eq_some_iff.mpr rfl
  have hdigits : (showNat n).all isDigit = true := List.all_eq_true.mpr fun _ => showNat_isDigit
  have hne : (showNat n).isEmpty = false := by simpa using showNat_ne_nil n
  rw [announcedOctets, read_bind hprefix, read_bind hsuffix, hdigits, hne, decimalValue_showNat]
  rfl

theorem retrieval_status (n : ℕ) :
    '\r' ∉ ("+OK " : Text) ++ showNat n ++ (" octets" : Text) := by
  have hdigits : '\r' ∉ showNat n := fun hmem => absurd (showNat_isDigit hmem) (by decide)
  simp [hdigits]

/-- Behind its status line, what the client obtains is the text up to the dot. -/
theorem readRetrieval_of_status (n : ℕ) (input : Text) :
    readRetrieval (("+OK " : Text) ++ showNat n ++ (" octets" : Text) ++ (lineEnd ++ input)) =
      (readDotted input).map fun found => ((n, found.1), found.2) := by
  have hstatus := readLine_append_lineEnd (retrieval_status n) input
  rw [List.append_assoc] at hstatus
  have hoctets := announcedOctets_status n
  rw [readRetrieval, read_bind hstatus]
  apply (read_bind hoctets).trans
  cases readDotted input <;> rfl

theorem pop3Reply_retr (base64 : Text → Option Bytes) {ctx : Pop3Context} {session : Pop3Session}
    {args : Text} {index : ℕ} {message : MailMessage} (hauthed : session.authed = true)
    (hindex : parseIndex args = some index)
    (hmessage : visibleMessage ctx.messages session index = some message) :
    pop3Reply base64 ctx session "RETR" args = (do
      writeLine (("+OK " : Text) ++ showNat (byteLen (rfc822Message message)) ++ (" octets" : Text))
      writeRaw (rfc822Message message)
      writeLine "."
      return (session, "exploit_attempt")) := by
  apply (whenAuthed_of_authed hauthed _).trans
  simp only [hindex, hmessage]

theorem written_retr (base64 : Text → Option Bytes) {ctx : Pop3Context} {session : Pop3Session}
    {args : Text} {index : ℕ} {message : MailMessage} (hauthed : session.authed = true)
    (hindex : parseIndex args = some index)
    (hmessage : visibleMessage ctx.messages session index = some message)
    (input : List ReceivedLine) :
    (written ((pop3Reply base64 ctx session "RETR" args).run input).1).flatten =
      retrievalText message := by
  rw [pop3Reply_retr base64 hauthed hindex hmessage]
  show [_, _, _, _, _].flatten = _
  unfold retrievalText
  simp [lineEnd]

/-! ## Where the dots are -/

theorem isLines_rfc822Message (message : MailMessage) : IsLines (rfc822Message message) :=
  Or.inr (List.suffix_append _ _)

theorem dottedStart_infix_header (name text : Text) (hlast : name.getLast? = some ' ')
    (hname : ¬ dottedStart <:+: name) : dottedStart <:+: name ++ text ↔ dottedStart <:+: text := by
  rw [infix_append_of_getLast, or_iff_right hname]
  rw [hlast]
  simp [dottedStart]

/-- Behind the headers and an empty line, a dot that starts the body starts a line. -/
theorem dottedStart_infix_body (body : Text) :
    dottedStart <:+: ("\r\n\r\n" : Text) ++ body ↔
      body.head? = some '.' ∨ dottedStart <:+: body := by
  have hblank : DottedTexts.readLine (("\r\n\r\n" : Text) ++ body) =
      some ([], lineEnd ++ body) := readLine_lineEnd (lineEnd ++ body)
  have hhead : ¬ (lineEnd ++ body).head? = some '.' := by simp [lineEnd]
  rw [dottedStart_infix_iff hblank, or_iff_right hhead,
    dottedStart_infix_iff (readLine_lineEnd body)]

/-- The lines in front of the body. -/
def MailMessage.headers (message : MailMessage) : List Text :=
  [("From: " : Text) ++ message.fromAddr, ("To: " : Text) ++ joinWith ", " message.toAddrs,
    ("Subject: " : Text) ++ message.subject] ++
    (message.date.map fun date => ("Date: " : Text) ++ date).toList ++
    (["MIME-Version: 1.0", "Content-Type: text/plain; charset=utf-8"] : List Text)

theorem rfc822Message_eq (message : MailMessage) : rfc822Message message =
    joinWith lineEnd message.headers ++ (("\r\n\r\n" : Text) ++ message.body) ++ lineEnd := by
  rw [← List.append_assoc]
  rfl

theorem headers_start (message : MailMessage) :
    ∀ line ∈ message.headers, ∃ c ∈ line.head?, c ∉ dottedStart := by
  cases hdate : message.date <;> simp [MailMessage.headers, hdate, dottedStart]

theorem getLast?_headers (message : MailMessage) :
    (joinWith lineEnd message.headers).getLast? = some '8' := by
  have hne : ∀ line ∈ message.headers, line ≠ [] := by
    intro line hline
    obtain ⟨c, hc, -⟩ := headers_start message line hline
    exact List.ne_nil_of_mem (List.mem_of_head? hc)
  rw [joinWith, Words.getLast?_intercalate hne, MailMessage.headers, List.flatten_append,
    List.getLast?_append_of_ne_nil _ (by simp)]
  rfl

theorem dottedStart_infix_headers (message : MailMessage) :
    dottedStart <:+: joinWith lineEnd message.headers ↔
      ∃ text ∈ message.fromAddr :: message.subject :: (message.toAddrs ++ message.date.toList),
        dottedStart <:+: text := by
  have hto : dottedStart <:+: joinWith ", " message.toAddrs ↔
      ∃ address ∈ message.toAddrs, dottedStart <:+: address :=
    infix_joinWith_iff (by simp [dottedStart]) (by simp) (by simp [dottedStart]) message.toAddrs
  have hfrom := dottedStart_infix_header "From: " message.fromAddr rfl (by decide)
  have hto' := dottedStart_infix_header "To: " (joinWith ", " message.toAddrs) rfl (by decide)
  have hsubject := dottedStart_infix_header "Subject: " message.subject rfl (by decide)
  have hdate (date : Text) := dottedStart_infix_header "Date: " date rfl (by decide)
  have hversion : ¬ dottedStart <:+: "MIME-Version: 1.0" := by decide
  have htype : ¬ dottedStart <:+: "Content-Type: text/plain; charset=utf-8" := by decide
  rw [dottedStart_infix_joinWith_iff (headers_start message), MailMessage.headers]
  cases message.date with
  | none =>
    simp only [Option.map_none, Option.toList_none, List.append_nil, List.mem_append,
      List.mem_cons, List.not_mem_nil, or_and_right, exists_or, exists_eq_left, or_false, hfrom,
      hto', hto, hsubject, hversion, htype]
    exact or_congr_right or_comm
  | some date =>
    simp only [Option.map_some, Option.toList_some, List.mem_append, List.mem_cons,
      List.not_mem_nil, or_and_right, exists_or, exists_eq_left, or_false, hfrom, hto', hto,
      hsubject, hdate, hversion, htype]
    rw [or_assoc, or_assoc]
    exact or_congr_right or_left_comm

/-- No line of the stored message starts with a dot iff none of its parts has one that does. -/
theorem undotted_rfc822Message_iff (message : MailMessage) :
    DottedTexts.Undotted (rfc822Message message) ↔ message.Undotted := by
  have hhead : (rfc822Message message).head? ≠ some '.' := by
    have hfirst : (joinWith lineEnd message.headers).head? = some 'F' :=
      (head?_joinWith (List.cons_ne_nil _ _) _).trans rfl
    rw [rfc822Message_eq, List.append_assoc, List.head?_append, hfirst]
    simp
  have hlast : ∀ c ∈ (joinWith lineEnd message.headers).getLast?, c ∉ dottedStart := by
    rw [getLast?_headers]
    intro c hc
    obtain rfl : '8' = c := Option.some.inj hc
    decide
  rw [DottedTexts.Undotted, and_iff_right hhead, rfc822Message_eq,
    infix_append_of_notMem (a := '.') rfl (by decide), infix_append_of_getLast hlast,
    dottedStart_infix_headers, dottedStart_infix_body, MailMessage.Undotted, DottedTexts.Undotted]
  simp only [not_or, not_exists, not_and, ne_eq]

/-! ## What the client obtains -/

/-- A client obtains the stored message, and its length in octets, iff no line of it starts with a
dot. -/
theorem readRetrieval_retrievalText_iff (message : MailMessage) (more : Text) :
    (∃ rest, readRetrieval (retrievalText message ++ more) =
      some ((byteLen (rfc822Message message), rfc822Message message), rest)) ↔
      message.Undotted := by
  have hdotted := readDotted_lines_iff (isLines_rfc822Message message) more
  unfold retrievalText
  rw [List.append_assoc, List.append_assoc,
    List.append_assoc (rfc822Message message), ← undotted_rfc822Message_iff, ← hdotted]
  apply exists_congr
  intro rest
  rw [readRetrieval_of_status, Option.map_eq_some_iff]
  constructor
  · rintro ⟨found, hfound, heq⟩
    obtain ⟨hresult, hrest⟩ := Prod.mk.inj heq
    rw [hfound, ← (Prod.mk.inj hresult).2, ← hrest]
  · intro hfound
    exact ⟨_, hfound, rfl⟩

/-- So it is with RETR, in every session that may retrieve the message. -/
theorem readRetrieval_retr_iff (base64 : Text → Option Bytes) {ctx : Pop3Context}
    {session : Pop3Session} {args : Text} {index : ℕ} {message : MailMessage}
    (hauthed : session.authed = true) (hindex : parseIndex args = some index)
    (hmessage : visibleMessage ctx.messages session index = some message)
    (input : List ReceivedLine) (more : Text) :
    (∃ rest, readRetrieval
        ((written ((pop3Reply base64 ctx session "RETR" args).run input).1).flatten ++ more) =
      some ((byteLen (rfc822Message message), rfc822Message message), rest)) ↔
      message.Undotted := by
  rw [written_retr base64 hauthed hindex hmessage]
  exact readRetrieval_retrievalText_iff message more

/-- A simulation with one message, and no authentication. -/
def singleMail (message : MailMessage) : Pop3Context :=
  ⟨"rule-1", "local", 110, ⟨none, none, none, none, some [message], none⟩⟩

def plainMail : MailMessage := ⟨none, "a@lab", ["b@lab"], "hello", none, "one\r\ntwo", none⟩

def dottedMail : MailMessage := { plainMail with body := "one\r\n.\r\ntwo" }

theorem parseIndex_one : parseIndex "1" = some 0 := by decide +kernel

theorem readRetrieval_plainMail : ∃ rest, readRetrieval
    ((written ((pop3Reply (fun _ => none) (singleMail plainMail) (Pop3Session.new false 1)
      "RETR" "1").run []).1).flatten ++ []) =
    some ((byteLen (rfc822Message plainMail), rfc822Message plainMail), rest) := by
  have hundotted : plainMail.Undotted := by
    constructor
    · decide
    · exact ⟨by decide, by decide⟩
  exact (readRetrieval_retr_iff (fun _ => none) rfl parseIndex_one rfl [] []).mpr hundotted

/-- The client takes the dot in the message for its end. -/
theorem readRetrieval_dottedMail : ¬ ∃ rest, readRetrieval
    ((written ((pop3Reply (fun _ => none) (singleMail dottedMail) (Pop3Session.new false 1)
      "RETR" "1").run []).1).flatten ++ []) =
    some ((byteLen (rfc822Message dottedMail), rfc822Message dottedMail), rest) := by
  have hdotted : ¬ dottedMail.Undotted := fun hundotted => absurd hundotted.2.2 (by decide)
  rw [written_retr (fun _ => none) rfl parseIndex_one rfl, readRetrieval_retrievalText_iff]
  exact hdotted

end ProtocolSimulation.Engine
