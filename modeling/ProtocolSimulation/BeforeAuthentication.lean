import ProtocolSimulation.TwoTalks
import ProtocolSimulation.Imap
import ProtocolSimulation.Pop3
import ProtocolSimulation.Redis

/-!
# What is said before the client is authenticated

As long as a client that has to authenticate has not done so, the mails of POP3 and
IMAP and the keys of Redis make no difference to anything a connection says: two
simulations that differ in nothing else put out the same.
-/
namespace ProtocolSimulation.Engine

open ProtocolSimulation.Texts ProtocolSimulation.Conversations ProtocolSimulation.Conversations.Talk
  ProtocolSimulation.RuntimeEvents

/-! ## Line sessions side by side -/

section Lines

variable {σ τ : Type} {turn : σ → Text → Session (Option σ)} {turn' : τ → Text → Session (Option τ)}

/-- One round of the loop of a connection. -/
def lineRound (turn : σ → Text → Session (Option σ)) (session : σ) (raw : ReceivedLine) :
    Session (σ ⊕ Unit) := do
  match ← turn session (← received raw) with
  | some session => return .inl session
  | none => return .inr ()

theorem serveLines_eq_forEach (session : σ) :
    serveLines turn session = Talk.forEach (lineRound turn) (fun _ => ()) session := rfl

/-- Two connections agree if they answer each line alike, in related sessions of which the first
is `good`, as long as the first one only comes to good sessions. -/
theorem agreesOn_serveLines {I : σ → τ → Prop} {good : σ → Prop}
    (hturn : ∀ s t line, I s t → good s → Agrees (Option.Rel I) (turn s line) (turn' t line))
    {s : σ} {t : τ} (hI : I s t) {input : List ReceivedLine}
    (hgood : ∀ session, Visits (lineRound turn) s input session → good session) :
    AgreesOn input (fun _ _ => True) (serveLines turn s) (serveLines turn' t) := by
  rw [serveLines_eq_forEach, serveLines_eq_forEach]
  apply agreesOn_forEach _ (fun _ _ _ => trivial) hI hgood
  intro s t raw hI hs
  apply agrees_then
  intro line
  apply (hturn s t line hI hs).bind
  intro next next' hnext
  cases hnext with
  | none => exact agrees_ret (.inr trivial)
  | some hsessions => exact agrees_ret (.inl hsessions)

/-- How two answers to a line leave related sessions. -/
inductive HandledAlike (I : σ → τ → Prop) : Handled σ → Handled τ → Prop where
  | ignored {s : σ} {t : τ} (h : I s t) : HandledAlike I (.ignored s) (.ignored t)
  | logged {s : σ} {t : τ} (eventType : Text) (h : I s t) :
      HandledAlike I (.logged s eventType) (.logged t eventType)
  | closed (eventType : Text) : HandledAlike I (.closed eventType) (.closed eventType)

theorem agrees_audit {I : σ → τ → Prop} {report : Text → Text → Text → Session Unit}
    {label closing line : Text} {handled : Handled σ} {handled' : Handled τ}
    (h : HandledAlike I handled handled') :
    Agrees (Option.Rel I) (audit report label closing line handled)
      (audit report label closing line handled') := by
  cases h with
  | ignored hsessions => exact agrees_ret (.some hsessions)
  | logged eventType hsessions => exact agrees_then fun _ => agrees_ret (.some hsessions)
  | closed eventType => exact agrees_then fun _ => agrees_ret .none

theorem agrees_customOr {I : σ → τ → Prop} {custom : Option (Text × Text)} {render : Text → Text}
    {s : σ} {t : τ} {builtin : Session (Handled σ)} {builtin' : Session (Handled τ)} (hI : I s t)
    (h : Agrees (HandledAlike I) builtin builtin') :
    Agrees (HandledAlike I) (customOr custom render s builtin)
    (customOr custom render t builtin') := by
  cases custom with
  | some found => exact agrees_then fun _ => agrees_ret (.logged _ hI)
  | none => exact h

end Lines

/-! ## POP3 -/

/-- The sessions of two POP3 connections, but for the marks on their messages. -/
def Pop3Alike (s t : Pop3Session) : Prop := s.username = t.username ∧ s.authed = t.authed

/-- Two built-in replies that leave such sessions, with the same event type. -/
def Pop3RepliesAlike (r r' : Pop3Session × Text) : Prop := Pop3Alike r.1 r'.1 ∧ r.2 = r'.2

section Pop3

variable (base64 : Text → Option Bytes) {ctx : Pop3Context} {messages : Option (List MailMessage)}
  {s t : Pop3Session}

/-- The same simulation with other mails. -/
def Pop3Context.withMessages (ctx : Pop3Context) (messages : Option (List MailMessage)) :
    Pop3Context :=
  { ctx with config := { ctx.config with messages } }

theorem agrees_whenAuthed {body body' : Session (Pop3Session × Text)} (halike : Pop3Alike s t)
    (hs : s.authed = false) :
    Agrees Pop3RepliesAlike (whenAuthed s body) (whenAuthed t body') := by
  rw [whenAuthed_eq hs, whenAuthed_eq (halike.2.symm.trans hs)]
  exact agrees_then fun _ => agrees_ret ⟨halike, rfl⟩

/-- No built-in reply depends on the mails before the client is authenticated. -/
theorem agrees_pop3Reply (halike : Pop3Alike s t) (hs : s.authed = false) (command args : Text) :
    Agrees Pop3RepliesAlike (pop3Reply base64 ctx s command args)
      (pop3Reply base64 (ctx.withMessages messages) t command args) := by
  have hrefused (body body' : Session (Pop3Session × Text)) :
      Agrees Pop3RepliesAlike (whenAuthed s body) (whenAuthed t body') :=
        agrees_whenAuthed halike hs
  have hreply (line eventType : Text) : Agrees Pop3RepliesAlike
      (do writeLine line; return (s, eventType)) (do writeLine line; return (t, eventType)) :=
    agrees_then fun _ => agrees_ret ⟨halike, rfl⟩
  refine agrees_ite (fun _ => ?capa) fun _ => agrees_ite (fun _ => ?user) fun _ =>
    agrees_ite (fun _ => ?pass) fun _ => agrees_ite (fun _ => ?auth) fun _ =>
    agrees_ite (fun _ => hrefused _ _) fun _ => agrees_ite (fun _ => hrefused _ _) fun _ =>
    agrees_ite (fun _ => hrefused _ _) fun _ => agrees_ite (fun _ => hrefused _ _) fun _ =>
    agrees_ite (fun _ => hrefused _ _) fun _ => agrees_ite (fun _ => ?rset) fun _ =>
    agrees_ite (fun _ => hreply _ _) fun _ => hreply _ _
  case capa => exact agrees_then fun _ => agrees_then fun _ => hreply _ _
  case user => exact agrees_then fun _ => agrees_ret ⟨⟨rfl, halike.2⟩, rfl⟩
  case pass =>
    rw [halike.1]
    exact agrees_then fun _ => agrees_ret ⟨⟨rfl, rfl⟩, rfl⟩
  case auth =>
    rw [halike.2]
    exact agrees_then fun authed => agrees_then fun _ => agrees_ret ⟨⟨halike.1, rfl⟩, rfl⟩
  case rset => exact agrees_then fun _ => agrees_ret ⟨⟨halike.1, halike.2⟩, rfl⟩

theorem agrees_pop3Answer (halike : Pop3Alike s t) (hs : s.authed = false) (line : Text) :
    Agrees (HandledAlike Pop3Alike) (pop3Answer base64 ctx s line)
      (pop3Answer base64 (ctx.withMessages messages) t line) := by
  apply agrees_ite (fun _ => agrees_ret (.ignored halike)) fun _ => ?_
  apply agrees_customOr halike
  apply agrees_ite (fun _ => agrees_then fun _ => agrees_ret (.closed _)) fun _ => ?_
  apply (agrees_pop3Reply base64 halike hs _ _).bind
  rintro ⟨s', eventType⟩ ⟨t', _⟩ ⟨hsessions, rfl⟩
  exact agrees_ret (.logged _ hsessions)

/-- The sessions a POP3 connection comes to on these lines. -/
def Pop3Visits (ctx : Pop3Context) (peer : SocketAddr) (input : List ReceivedLine) :
    Pop3Session → Prop :=
  Visits (lineRound (handlePop3Line base64 ctx peer))
    (Pop3Session.new ctx.requireAuth ctx.messages.length) input

theorem agreesOn_handlePop3Connection {peer : SocketAddr} {input : List ReceivedLine}
    (h : ∀ session, Pop3Visits base64 ctx peer input session → session.authed = false) :
    AgreesOn input (fun _ _ => True) (handlePop3Connection base64 ctx peer)
      (handlePop3Connection base64 (ctx.withMessages messages) peer) := by
  apply ((agrees_refl _) input).bind
  rintro _ _ _ _ hrun rfl
  cases hrun
  apply ((agrees_refl _) input).bind
  rintro _ _ _ _ hrun rfl
  cases hrun
  have hstart : Pop3Alike (Pop3Session.new ctx.requireAuth ctx.messages.length)
      (Pop3Session.new (ctx.withMessages messages).requireAuth
        (ctx.withMessages messages).messages.length) := ⟨rfl, rfl⟩
  apply agreesOn_serveLines _ hstart h
  intro s t line halike hs
  apply (agrees_pop3Answer base64 halike hs line).bind
  intro handled handled' hhandled
  exact agrees_audit hhandled

end Pop3

/-! ## IMAP -/

section Imap

variable (base64 : Text → Option Bytes) {ctx : ImapContext} {mailboxes : Option Mailboxes}
  {messages : Option (List MailMessage)} {session : ImapSession}

/-- The same simulation with other mails. -/
def ImapContext.withMessages (ctx : ImapContext) (mailboxes : Option Mailboxes)
    (messages : Option (List MailMessage)) : ImapContext :=
  { ctx with config := { ctx.config with mailboxes, messages } }

theorem whenImapAuthed_eq {tag : Text} {body : Session (ImapSession × Text)}
    (hs : session.authed = false) :
    whenImapAuthed tag session body = do
      writeTagged tag "NO Authentication required"
      return (session, "imap_command") := by
  rw [whenImapAuthed, requireImapAuth, hs, if_neg (by simp), Talk.bind_assoc]
  rfl

theorem imapReply_withMessages (hs : session.authed = false) (tag command args : Text) :
    imapReply base64 (ctx.withMessages mailboxes messages) session tag command args =
      imapReply base64 ctx session tag command args := by
  simp only [imapReply, whenImapAuthed_eq hs]
  rfl

/-- No answer depends on the mails before the client is authenticated. -/
theorem imapAnswer_withMessages (hs : session.authed = false) (line : Text) :
    imapAnswer base64 (ctx.withMessages mailboxes messages) session line =
      imapAnswer base64 ctx session line := by
  simp only [imapAnswer, imapReply_withMessages base64 hs]
  rfl

/-- The sessions an IMAP connection comes to on these lines. -/
def ImapVisits (ctx : ImapContext) (peer : SocketAddr) (input : List ReceivedLine) :
    ImapSession → Prop :=
  Visits (lineRound (handleImapLine base64 ctx peer)) ⟨!ctx.requireAuth, none⟩ input

theorem agreesOn_handleImapConnection {peer : SocketAddr} {input : List ReceivedLine}
    (h : ∀ session, ImapVisits base64 ctx peer input session → session.authed = false) :
    AgreesOn input (fun _ _ => True) (handleImapConnection base64 ctx peer)
      (handleImapConnection base64 (ctx.withMessages mailboxes messages) peer) := by
  apply ((agrees_refl _) input).bind
  rintro _ _ _ _ hrun rfl
  cases hrun
  apply ((agrees_refl _) input).bind
  rintro _ _ _ _ hrun rfl
  cases hrun
  have hstart : (⟨!ctx.requireAuth, none⟩ : ImapSession) =
      ⟨!(ctx.withMessages mailboxes messages).requireAuth, none⟩ := rfl
  apply agreesOn_serveLines _ hstart h
  rintro s _ line rfl hs
  rw [handleImapLine, handleImapLine, imapAnswer_withMessages base64 hs]
  intro input
  apply ((agrees_refl _) input).mono
  rintro next _ rfl
  cases next with
  | none => exact .none
  | some session => exact .some rfl

end Imap

/-! ## Redis -/

section Redis

variable {ctx : RedisSimulationContext} {keys serverInfo : Option (BTreeMap Text)}

/-- The same simulation with other keys and other information about the server. -/
def RedisSimulationContext.withKeys (ctx : RedisSimulationContext)
    (keys serverInfo : Option (BTreeMap Text)) : RedisSimulationContext :=
  { ctx with config := { ctx.config with keys, serverInfo } }

/-- No reply depends on the keys before the client is authenticated. -/
theorem redisResponseForCommand_withKeys (hrequire : ctx.config.requireAuth = some true)
    (command : RedisCommand) :
    redisResponseForCommand (ctx.withKeys keys serverInfo).config command false =
      redisResponseForCommand ctx.config command false := by
  have hcustom : redisCustomResponse (ctx.withKeys keys serverInfo).config command =
      redisCustomResponse ctx.config command := rfl
  have hrequire' : (ctx.withKeys keys serverInfo).config.requireAuth = some true := hrequire
  rw [redisResponseForCommand, redisResponseForCommand, hcustom, hrequire, hrequire']
  cases redisCustomResponse ctx.config command with
  | some custom => rfl
  | none =>
    apply ite_congr rfl (fun _ => rfl)
    intro hallowed
    apply ite_congr rfl (fun _ => rfl)
    intro hping
    apply ite_congr rfl (fun _ => rfl)
    intro hauth
    rw [decide_eq_false hping, decide_eq_false hauth] at hallowed
    exact absurd rfl hallowed

/-- Whether the client is authenticated, at each time between two reads of a connection. -/
def RedisVisits (ctx : RedisSimulationContext) (peer : SocketAddr) (input : List RedisRead) :
    Bool → Prop :=
  Visits (redisRound ctx peer) (!ctx.config.requireAuth.getD false) input

theorem agrees_redisRound (hrequire : ctx.config.requireAuth = some true) (peer : SocketAddr)
    (payload : RedisRead) :
    Agrees (· = ·) (redisRound ctx peer false payload)
      (redisRound (ctx.withKeys keys serverInfo) peer false payload) := by
  have hround : handleRedisRead (ctx.withKeys keys serverInfo) peer false payload =
      handleRedisRead ctx peer false payload := by
    simp only [handleRedisRead, redisResponseForCommand_withKeys hrequire]
    rfl
  rw [redisRound, redisRound, hround]
  exact agrees_refl _

theorem agreesOn_redisLoop {peer : SocketAddr} {authed : Bool} {input : List RedisRead}
    (hrequire : ctx.config.requireAuth = some true)
    (h : ∀ authed', Visits (redisRound ctx peer) authed input authed' → authed' = false) :
    AgreesOn input (fun _ _ => True) (redisLoop ctx peer authed)
      (redisLoop (ctx.withKeys keys serverInfo) peer authed) := by
  apply agreesOn_forEach (I := (· = ·)) _ (fun _ _ _ => trivial) rfl h
  rintro authed _ payload rfl rfl input
  apply (agrees_redisRound hrequire peer payload input).mono
  rintro next _ rfl
  cases next with
  | inl authed => exact .inl rfl
  | inr u => exact .inr trivial

end Redis

/-! ## All three -/

/-- If the client never gets authenticated, other mails, mailboxes, keys or information about the
server make no difference to what is put out. A client that need not authenticate counts as
authenticated from the start. -/
theorem nothingRevealed (base64 : Text → Option Bytes) (peer : SocketAddr) :
    (∀ (ctx : Pop3Context) messages input,
      (∀ session, Pop3Visits base64 ctx peer input session → session.authed = false) →
      ((handlePop3Connection base64 ctx peer).run input).1 =
        ((handlePop3Connection base64 (ctx.withMessages messages) peer).run input).1) ∧
    (∀ (ctx : ImapContext) mailboxes messages input,
      (∀ session, ImapVisits base64 ctx peer input session → session.authed = false) →
      ((handleImapConnection base64 ctx peer).run input).1 =
        ((handleImapConnection base64 (ctx.withMessages mailboxes messages) peer).run input).1) ∧
    ∀ (ctx : RedisSimulationContext) keys serverInfo input,
      (∀ authed, RedisVisits ctx peer input authed → authed = false) →
      ((handleRedisConnection ctx peer).run input).1 =
        ((handleRedisConnection (ctx.withKeys keys serverInfo) peer).run input).1 := by
  refine ⟨?_, ?_, ?_⟩
  · intro ctx messages input h
    exact (agreesOn_handlePop3Connection base64 h).1
  · intro ctx mailboxes messages input h
    exact (agreesOn_handleImapConnection base64 h).1
  · intro ctx keys serverInfo input h
    have hstart : (!ctx.config.requireAuth.getD false) = false := h _ (.here _ _)
    have hrequire : ctx.config.requireAuth = some true := by
      cases hauth : ctx.config.requireAuth with
      | none => simp [hauth] at hstart
      | some requireAuth => simpa [hauth] using hstart
    rw [run_handleRedisConnection, run_handleRedisConnection]
    exact congrArg (redisGreeting ctx peer ++ ·) (agreesOn_redisLoop hrequire h).1

def secretMail : MailMessage := ⟨none, "a@seclab", ["root@seclab"], "hello", none, "secret", none⟩

def onlyRoot : List MailCredential := [⟨"root", "root"⟩]

/-- Simulations of a mail that only root may read, and of a key behind a password. -/
def guardedPop3 : Pop3Context := ⟨"rule-1", "local", 110,
  ⟨none, some true, some onlyRoot, none, some [secretMail], none⟩⟩

def guardedImap : ImapContext := ⟨"rule-2", "local", 143,
  ⟨none, some true, some onlyRoot, none, none, some [secretMail], none⟩⟩

def guardedRedis : RedisSimulationContext := ⟨"rule-3", "local", 6379,
  ⟨none, some true, some "secret", none,
    some ⟨[("flag", "42")], List.pairwise_singleton _ _⟩, none⟩⟩

/-- Clients that guess a wrong password and go on to ask for what is guarded. -/
def pop3Guess : List ReceivedLine := [some "PASS admin\r\n", some "STAT\r\n"]

def imapGuess : List ReceivedLine := [some "a LOGIN root admin\r\n", some "b FETCH 1 RFC822\r\n"]

def redisGuess : List RedisRead :=
  [⟨utf8Encode "AUTH admin\r\n", by decide⟩, ⟨utf8Encode "KEYS *\r\n", by decide⟩]

def guesser : SocketAddr := ⟨"192.0.2.1", 40000⟩

theorem nothingRevealed_guesser :
    ((handlePop3Connection (fun _ => none) guardedPop3 guesser).run pop3Guess).1 =
      ((handlePop3Connection (fun _ => none) (guardedPop3.withMessages none) guesser).run
        pop3Guess).1 ∧
    ((handleImapConnection (fun _ => none) guardedImap guesser).run imapGuess).1 =
      ((handleImapConnection (fun _ => none) (guardedImap.withMessages none none) guesser).run
        imapGuess).1 ∧
    ((handleRedisConnection guardedRedis guesser).run redisGuess).1 =
      ((handleRedisConnection (guardedRedis.withKeys none none) guesser).run redisGuess).1 := by
  obtain ⟨hpop3, himap, hredis⟩ := nothingRevealed (fun _ => none) guesser
  refine ⟨hpop3 guardedPop3 none pop3Guess ?_, himap guardedImap none none imapGuess ?_,
    hredis guardedRedis none none redisGuess ?_⟩
  all_goals
    intro session h
    rcases visits_cons_iff.mp h with rfl | ⟨s, _, _, hround, h⟩
    · rfl
    cases hround
    rcases visits_cons_iff.mp h with rfl | ⟨s, _, _, hround, h⟩
    · rfl
    cases hround
    rw [visits_nil_iff.mp h]
    rfl

end ProtocolSimulation.Engine
