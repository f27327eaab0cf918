import ProtocolSimulation.LineHistories
import ProtocolSimulation.Imap
import ProtocolSimulation.Words

/-!
# Fetching an IMAP message by number and by uid

Both commands write the response of the message they find. Under its number, it has
its number as the sequence number; under its uid, it has the number one.
-/
namespace ProtocolSimulation.Engine

open ProtocolSimulation.Texts ProtocolSimulation.Conversations

/-! ## Responses -/

/-- What a response tells of a message, behind its sequence number. -/
def fetchData (message : MailMessage) : Text :=
  (" FETCH (UID " : Text) ++ message.uid.getD "1" ++ (" FLAGS " : Text) ++ imapFlags message ++
    (" RFC822.SIZE " : Text) ++ showNat (byteLen (rfc822Message message)) ++
    (" BODY[] \x7b" : Text) ++ showNat (byteLen (rfc822Message message)) ++
    ("\x7d\r\n" : Text) ++ rfc822Message message ++ (")" : Text) ++ ("\r\n" : Text)

/-- The untagged response. -/
def fetchText (sequence : ℕ) (message : MailMessage) : Text :=
  ("* " : Text) ++ showNat sequence ++ fetchData message

def taggedText (tag status : Text) : Text := tag ++ (" " : Text) ++ status ++ ("\r\n" : Text)

/-- The whole answer to a command that fetches the message, if there is one. -/
def fetchedText (tag : Text) (sequence : ℕ) : Option MailMessage → Text
  | some message => fetchText sequence message ++ taggedText tag "OK FETCH completed"
  | none => taggedText tag "NO No such message"

theorem written_fetched (tag : Text) (sequence : ℕ) (found : Option MailMessage) {α : Type} (a : α)
    (input : List ReceivedLine) :
    (written ((do
        writeFetched tag sequence found
        return a : Session α).run input).1).flatten = fetchedText tag sequence found := by
  cases found with
  | none =>
    show [_, _].flatten = _
    simp [fetchedText, taggedText]
  | some message =>
    have houts : written ((do
          writeFetched tag sequence (some message)
          return a : Session α).run input).1 =
        ([_, ")", "\r\n", tag ++ (" " : Text) ++ ("OK FETCH completed" : Text), "\r\n"] :
          List Text) := rfl
    rw [houts, fetchedText]
    unfold fetchText fetchData taggedText
    simp only [List.flatten_cons, List.flatten_nil, List.append_nil, List.append_assoc]

theorem showNat_injective : Function.Injective showNat := by
  intro m n h
  rw [← decimalValue_showNat m, h, decimalValue_showNat]

theorem blank_notMem_showNat (n : ℕ) : ' ' ∉ showNat n :=
  fun h => absurd (showNat_isDigit h) (by decide)

theorem showNat_append_inj {m n : ℕ} {rest rest' : Text}
    (h : showNat m ++ ' ' :: rest = showNat n ++ ' ' :: rest') : m = n ∧ rest = rest' := by
  have hsplit := congrArg (splitOnce ' ') h
  rw [splitOnce_append_cons (blank_notMem_showNat m),
    splitOnce_append_cons (blank_notMem_showNat n)] at hsplit
  obtain ⟨hshown, hrest⟩ := Prod.mk.inj (Option.some.inj hsplit)
  exact ⟨showNat_injective hshown, hrest⟩

theorem fetchText_inj {m n : ℕ} {message other : MailMessage}
    (h : fetchText m message = fetchText n other) :
    m = n ∧ fetchData message = fetchData other := by
  rw [fetchText, fetchText, List.append_assoc, List.append_assoc] at h
  have hnumbers := List.append_cancel_left h
  have hblank (message : MailMessage) : ∃ rest, fetchData message = ' ' :: rest := ⟨_, rfl⟩
  obtain ⟨rest, hrest⟩ := hblank message
  obtain ⟨rest', hrest'⟩ := hblank other
  rw [hrest, hrest'] at hnumbers ⊢
  obtain ⟨hnumber, rfl⟩ := showNat_append_inj hnumbers
  exact ⟨hnumber, rfl⟩

/-- Two answers have the same untagged response iff they have the same number and data. -/
theorem sameResponse_iff {tag tag' : Text} {m n : ℕ} {message other : MailMessage} :
    (∃ response, fetchedText tag m (some message) =
        response ++ taggedText tag "OK FETCH completed" ∧
      fetchedText tag' n (some other) = response ++ taggedText tag' "OK FETCH completed") ↔
      m = n ∧ fetchData message = fetchData other := by
  constructor
  · rintro ⟨response, hmessage, hother⟩
    have hresponse : fetchText m message = response := List.append_cancel_right hmessage
    exact fetchText_inj (hresponse.trans (List.append_cancel_right hother).symm)
  · rintro ⟨rfl, hdata⟩
    use fetchText m message, rfl
    rw [fetchedText, fetchText, fetchText, hdata]

/-! ## What is fetched -/

/-- The arguments of UID FETCH for a uid. -/
def uidFetchArgs (uid : Text) : Text := trim (("FETCH " : Text) ++ uid)

/-- The uid that they are read as. -/
def readUid (uid : Text) : Text := (splitn 3 ' ' (uidFetchArgs uid)).tail.head?.getD "1"

theorem uidFetchArgs_eq (uid : Text) : uidFetchArgs uid =
    if (uid.rdropWhile isWhitespace).isEmpty then ("FETCH" : Text)
    else ("FETCH " : Text) ++ uid.rdropWhile isWhitespace := by
  have hstart : (("FETCH " : Text) ++ uid).dropWhile isWhitespace = ("FETCH " : Text) ++ uid := by
    rfl
  rw [uidFetchArgs, trim, hstart, Words.rdropWhile_append]
  rfl

theorem head?_uidFetchArgs (uid : Text) :
    (splitn 3 ' ' (uidFetchArgs uid)).head? = some ("FETCH" : Text) := by
  rw [uidFetchArgs_eq]
  split_ifs with hblank
  · rfl
  · have hcut : ("FETCH " : Text) ++ uid.rdropWhile isWhitespace =
        ("FETCH" : Text) ++ ' ' :: uid.rdropWhile isWhitespace := rfl
    rw [hcut, splitn_append_cons (by decide)]
    rfl

/-- A uid without blanks is read as itself. -/
theorem readUid_of_visible {uid : Text} (hne : uid ≠ [])
    (hvisible : ∀ c ∈ uid, isWhitespace c = false) : readUid uid = uid := by
  have htrimmed : uid.rdropWhile isWhitespace = uid := by
    apply Words.rdropWhile_eq_self
    exact fun c hc => hvisible c (List.mem_of_getLast? hc)
  have hblank : ' ' ∉ uid := fun hmem => absurd (hvisible ' ' hmem) (by decide)
  have hcut : ("FETCH " : Text) ++ uid = ("FETCH" : Text) ++ ' ' :: uid := rfl
  rw [readUid, uidFetchArgs_eq, htrimmed, if_neg (by simpa using hne), hcut,
    splitn_append_cons (by decide), splitn_of_notMem hblank]
  rfl

/-- The message found by a uid, or else the first one, has the data of the first one iff every
message with the uid has. -/
theorem exists_found {messages : List MailMessage} {first : MailMessage}
    (hdistinct : (messages.map MailMessage.uid).Nodup) (hfirst : messages.head? = some first)
    (uid : Text) :
    ∃ found, (messages.find? fun message => message.uid = some uid).or messages.head? = some found ∧
      (fetchData found = fetchData first ↔ ∀ other ∈ messages, other.uid = some uid →
        some (fetchData first) = some (fetchData other)) := by
  cases hfind : messages.find? fun message => message.uid = some uid with
  | none =>
    have hnone : ∀ other ∈ messages, other.uid ≠ some uid := by
      simpa using List.find?_eq_none.mp hfind
    use first, hfirst
    exact iff_of_true rfl fun other hother huid => absurd huid (hnone other hother)
  | some found =>
    have hmem := List.mem_of_find?_eq_some hfind
    have hfound : found.uid = some uid := by simpa using List.find?_some hfind
    use found, rfl
    constructor
    · intro hdata other hother huid
      rw [List.inj_on_of_nodup_map hdistinct hother hmem (huid.trans hfound.symm), hdata]
    · intro hall
      exact (Option.some.inj (hall found hmem hfound)).symm

section Base64

variable (base64 : Text → Option Bytes) {ctx : ImapContext} {session : ImapSession}
  {tag args : Text} {number : ℕ}

theorem imapReply_fetch (hauthed : session.authed = true)
    (hnumber : (splitWhitespace args).head?.bind parseUsize = some (number + 1)) :
    imapReply base64 ctx session tag "FETCH" args = (do
      writeFetched tag (number + 1) ctx.messages[number]?
      return (session, "exploit_attempt")) := by
  apply (whenImapAuthed_of_authed hauthed _).trans
  rw [hnumber]
  rfl

theorem imapReply_uidFetch (hauthed : session.authed = true) (uid : Text) :
    imapReply base64 ctx session tag "UID" (uidFetchArgs uid) = (do
      writeFetched tag 1 ((ctx.messages.find? fun message => message.uid = some (readUid uid)).or
        ctx.messages.head?)
      return (session, "exploit_attempt")) := by
  have hfetch : toAsciiUppercase ((splitn 3 ' ' (uidFetchArgs uid)).head?.getD []) = "FETCH" := by
    rw [head?_uidFetchArgs]
    rfl
  apply (whenImapAuthed_of_authed hauthed _).trans
  exact if_pos hfetch

/-- UID FETCH answers as FETCH does iff the message is the first one, and the uid that is read is
not that of a message with other data. -/
theorem uidFetch_iff (hauthed : session.authed = true)
    (hdistinct : (ctx.messages.map MailMessage.uid).Nodup) {uid : Text}
    (huid : ctx.messages[number]?.bind MailMessage.uid = some uid)
    (hnumber : (splitWhitespace args).head?.bind parseUsize = some (number + 1))
    (tag tag' : Text) (input input' : List ReceivedLine) :
    (∃ response,
      (written ((imapReply base64 ctx session tag "UID" (uidFetchArgs uid)).run input).1).flatten =
          response ++ taggedText tag "OK FETCH completed" ∧
        (written ((imapReply base64 ctx session tag' "FETCH" args).run input').1).flatten =
          response ++ taggedText tag' "OK FETCH completed") ↔
      number = 0 ∧ ∀ other ∈ ctx.messages, other.uid = some (readUid uid) →
        ctx.messages.head?.map fetchData = some (fetchData other) := by
  obtain ⟨message, hmessage, -⟩ := Option.bind_eq_some_iff.mp huid
  obtain ⟨first, rest, hfirst⟩ := List.exists_cons_of_ne_nil
    (List.ne_nil_of_mem (List.mem_of_getElem? hmessage))
  have hhead : ctx.messages.head? = some first := by rw [hfirst, List.head?_cons]
  obtain ⟨found, hfound, hdata⟩ := exists_found hdistinct hhead (readUid uid)
  rw [imapReply_uidFetch base64 hauthed, imapReply_fetch base64 hauthed hnumber, written_fetched,
    written_fetched, hfound, hmessage, sameResponse_iff, hhead, Option.map_some]
  have hone : 1 = number + 1 ↔ number = 0 := by omega
  rw [hone, and_congr_right]
  rintro rfl
  rw [← List.head?_eq_getElem?, hhead] at hmessage
  rw [← Option.some.inj hmessage]
  exact hdata

end Base64

def firstUidMail : MailMessage := ⟨some "7", "a@lab", ["b@lab"], "first", none, "one", none⟩

def secondUidMail : MailMessage := ⟨some "8", "a@lab", ["b@lab"], "second", none, "two", none⟩

/-- An inbox of two messages, and no authentication. -/
def uidMails : ImapContext :=
  ⟨"rule-1", "local", 143, ⟨none, none, none, none, none, some [firstUidMail, secondUidMail], none⟩⟩

theorem uidFetch_first : ∃ response,
    (written ((imapReply (fun _ => none) uidMails ⟨true, none⟩ "a" "UID"
        (uidFetchArgs "7")).run []).1).flatten =
      response ++ taggedText "a" "OK FETCH completed" ∧
    (written ((imapReply (fun _ => none) uidMails ⟨true, none⟩ "b" "FETCH" "1").run []).1).flatten =
      response ++ taggedText "b" "OK FETCH completed" := by
  have hnumber : (splitWhitespace "1").head?.bind parseUsize = some (0 + 1) := by decide +kernel
  have hdistinct : (uidMails.messages.map MailMessage.uid).Nodup := by decide
  refine (uidFetch_iff (fun _ => none) rfl hdistinct rfl hnumber "a" "b" [] []).mpr ⟨rfl, ?_⟩
  have hread : readUid "7" = "7" :=
    readUid_of_visible (by decide) fun c hc => by rw [List.mem_singleton.mp hc]; decide
  intro other hother huid
  rw [hread] at huid
  have hmessages : uidMails.messages = [firstUidMail, secondUidMail] := rfl
  rw [hmessages, List.mem_pair] at hother
  obtain rfl | rfl := hother
  · rfl
  · exact absurd huid (by decide)

/-- The second message is given the number one by its uid. -/
theorem uidFetch_second : ¬ ∃ response,
    (written ((imapReply (fun _ => none) uidMails ⟨true, none⟩ "a" "UID"
        (uidFetchArgs "8")).run []).1).flatten =
      response ++ taggedText "a" "OK FETCH completed" ∧
    (written ((imapReply (fun _ => none) uidMails ⟨true, none⟩ "b" "FETCH" "2").run []).1).flatten =
      response ++ taggedText "b" "OK FETCH completed" := by
  have hnumber : (splitWhitespace "2").head?.bind parseUsize = some (1 + 1) := by decide +kernel
  have hread : readUid "8" = "8" :=
    readUid_of_visible (by decide) fun c hc => by rw [List.mem_singleton.mp hc]; decide
  have hfound : uidMails.messages.find? (fun message => message.uid = some (readUid "8")) =
      some secondUidMail := by
    rw [hread]
    rfl
  have hmessage : uidMails.messages[1]? = some secondUidMail := rfl
  rw [imapReply_uidFetch (fun _ => none) rfl, imapReply_fetch (fun _ => none) rfl hnumber,
    written_fetched, written_fetched, hfound, hmessage, Option.some_or, sameResponse_iff]
  decide

end ProtocolSimulation.Engine
