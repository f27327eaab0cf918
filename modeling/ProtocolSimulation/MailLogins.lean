import ProtocolSimulation.Smtp
import ProtocolSimulation.Pop3Views
import ProtocolSimulation.ImapSelections

/-!
# What the mail simulations say of an authentication

A client names a mechanism and sends its credentials, with the command or in the
lines that follow. An answer tells the truth if it reports success for the right
credentials only, and leaves the session authenticated if it does.
-/
namespace ProtocolSimulation.Engine

open ProtocolSimulation.Texts ProtocolSimulation.Conversations

/-! ## What a client sends -/

/-- The next line, if it can be read. -/
def nextLine : List ReceivedLine → Option Text
  | some raw :: _ => some (trimEndMatches isLineEnd raw)
  | _ => none

def authMechanism (args : Text) : Text := toAsciiUppercase ((splitWhitespace args).head?.getD [])

/-- The initial response; empty if there is none. -/
def authInitial (args : Text) : Text := (splitWhitespace args).tail.head?.getD []

/-- The payload of PLAIN. -/
def plainPayload (args : Text) (input : List ReceivedLine) : Option Text :=
  if (authInitial args).isEmpty then nextLine input else some (authInitial args)

/-- The user name and the password of LOGIN, not decoded yet. -/
def loginParts (args : Text) (input : List ReceivedLine) : Option (Text × Text) :=
  if (authInitial args).isEmpty then do
    let username ← nextLine input
    let password ← nextLine input.tail
    return (username, password)
  else (nextLine input).map fun password => (authInitial args, password)

section Base64

variable (base64 : Text → Option Bytes)

/-- The credentials that a client sends, if the mechanism is PLAIN and the payload decodes. -/
def plainCredentials (args : Text) (input : List ReceivedLine) : Option (Text × Text) :=
  if authMechanism args = "PLAIN" then (plainPayload args input).bind (decodeAuthPlain base64)
  else none

/-- The credentials that a client sends, if the mechanism is LOGIN and both parts decode. -/
def loginCredentials (args : Text) (input : List ReceivedLine) : Option (Text × Text) :=
  if authMechanism args = "LOGIN" then do
    let parts ← loginParts args input
    let username ← decodeBase64Text base64 parts.1
    let password ← decodeBase64Text base64 parts.2
    return (username, password)
  else none

end Base64

/-- Are these credentials, and are they configured? -/
def proves (credentials : List MailCredential) (sent : Option (Text × Text)) : Bool :=
  sent.any fun found => credentialsMatch credentials found.1 found.2

/-! ## Answers that tell the truth -/

/-- The text ends with the line. -/
def LastLine (line text : Text) : Prop := line ++ ("\r\n" : Text) <:+ text

/-- Success is reported exactly if the client proved who it is, and the session is authenticated
exactly if success was reported. -/
structure TellsTruth {σ : Type} (authed : σ → Bool) (success : Text) (proved : Bool)
    (reply : Text) (result : Option (Option σ × List ReceivedLine)) : Prop where
  success_iff : LastLine success reply ↔ proved = true
  authed_iff : ∀ session rest, result = some (some session, rest) →
    (authed session = true ↔ LastLine success reply)

theorem lastLine_append (front line : Text) : LastLine line (front ++ (line ++ ("\r\n" : Text))) :=
  List.suffix_append front _

/-- Lines that end differently are different. -/
theorem not_lastLine {success failure back back' : Text} (h : back <:+ success)
    (h' : back' <:+ failure) (hlength : back.length = back'.length) (hne : back ≠ back')
    (front : Text) : ¬ LastLine success (front ++ (failure ++ ("\r\n" : Text))) := by
  obtain ⟨stem, rfl⟩ := h
  obtain ⟨stem', rfl⟩ := h'
  rintro ⟨more, hmore⟩
  rw [← List.append_assoc, ← List.append_assoc, ← List.append_assoc, ← List.append_assoc] at hmore
  exact hne (List.append_inj' (List.append_cancel_right hmore) hlength).2

theorem not_lastLine_of_notMem {c : Char} {success : Text} (hc : c ∈ success)
    {outs : List (Output Text)} (h : ∀ o ∈ outs, ∀ w, o = .wrote w → c ∉ w) :
    ¬ LastLine success (written outs).flatten := by
  intro hlast
  have hmem : c ∈ (written outs).flatten := hlast.subset (List.mem_append_left _ hc)
  obtain ⟨w, hw, hcw⟩ := List.mem_flatten.mp hmem
  obtain ⟨o, ho, hwrote⟩ := List.mem_filterMap.mp hw
  cases o with
  | wrote w' =>
    obtain rfl : w' = w := by simpa using hwrote
    exact h _ ho w' rfl hcw
  | reported queued => simp at hwrote

/-! ## One exchange -/

/-- Nothing that is written has the character. -/
def Avoids {α : Type} (c : Char) (m : Session α) : Prop :=
  Talk.Says (fun _ => True) (fun o => ∀ w, o = .wrote w → c ∉ w) (fun _ => True) m

section Avoids

variable {α β : Type} {c : Char}

theorem avoids_ret {a : α} : Avoids c (return a : Session α) := Talk.says_ret trivial

theorem Avoids.bind {m : Session α} {f : α → Session β} (hm : Avoids c m)
    (hf : ∀ a, Avoids c (f a)) : Avoids c (m >>= f) :=
  Talk.Says.bind hm fun a _ => hf a

theorem avoids_ite {p : Prop} [Decidable p] {m m' : Session α} (h : Avoids c m)
    (h' : Avoids c m') : Avoids c (if p then m else m') :=
  Talk.says_ite (fun _ => h) fun _ => h'

theorem avoids_writeLine {line : Text} (hline : c ∉ line) (hend : c ∉ ("\r\n" : Text)) :
    Avoids c (writeLine line) := by
  have hwrote {w : Text} (hw : c ∉ w) : ∀ w', Output.wrote w = .wrote w' → c ∉ w' := by
    rintro w' ⟨⟩
    exact hw
  exact Talk.Says.bind (P := fun _ => True) (Talk.says_emit (hwrote hline) trivial) fun _ _ =>
    Talk.says_emit (hwrote hend) trivial

theorem avoids_readLine : Avoids c readLine := by
  refine Talk.Says.bind Talk.says_take fun raw _ => ?_
  cases raw with
  | none => exact avoids_ret
  | some raw =>
    cases raw with
    | none => exact Talk.says_breakOff
    | some raw => exact avoids_ret

end Avoids

/-- What an exchange decides, if it comes to a decision. -/
def decided (authenticate : Session Bool) (input : List ReceivedLine) : Bool :=
  (authenticate.run input).2.any fun found => found.1

/-- An answer that is given from the decision tells the truth iff the decision is right. -/
theorem tellsTruth_iff {σ : Type} {authed : σ → Bool} {store : Bool → σ}
    {authenticate : Session Bool} {success failure eventType : Text} {c : Char}
    (hstore : ∀ ok, authed (store ok) = ok)
    (hfailure : ∀ front, ¬ LastLine success (front ++ (failure ++ ("\r\n" : Text))))
    (hc : c ∈ success) (havoids : Avoids c authenticate) (proved : Bool)
    (input : List ReceivedLine) :
    let answer := (do
      let ok ← authenticate
      writeLine (if ok then success else failure)
      return (store ok, eventType) : Session (σ × Text))
    TellsTruth authed success proved (written (answer.run input).1).flatten
        ((answer.run input).2.map fun found => (some found.1.1, found.2)) ↔
      decided authenticate input = proved := by
  intro answer
  have havoided := (havoids input fun _ _ => trivial).1
  cases hrun : authenticate.run input with
  | mk outs result =>
    rw [hrun] at havoided
    cases result with
    | none =>
      have hanswer : answer.run input = (outs, none) := by
        rw [Talk.run_bind, hrun]
      have hsilent := not_lastLine_of_notMem hc havoided
      have hdecided : decided authenticate input = false := by
        rw [decided, hrun]
        rfl
      rw [hanswer, hdecided]
      constructor
      · intro h
        cases proved with
        | false => rfl
        | true => exact absurd (h.success_iff.mpr rfl) hsilent
      · rintro rfl
        exact ⟨iff_of_false hsilent Bool.false_ne_true, nofun⟩
    | some found =>
      obtain ⟨ok, rest⟩ := found
      have hanswer : answer.run input = (outs ++ [.wrote (if ok then success else failure),
          .wrote "\r\n"], some ((store ok, eventType), rest)) := by
        rw [Talk.run_bind, hrun]
        rfl
      have hdecided : decided authenticate input = ok := by
        rw [decided, hrun]
        rfl
      have hlast : LastLine success (written (answer.run input).1).flatten ↔ ok = true := by
        rw [hanswer, written_append, List.flatten_append]
        cases ok with
        | true => exact iff_of_true (lastLine_append _ success) rfl
        | false => exact iff_of_false (hfailure _) Bool.false_ne_true
      rw [hdecided]
      constructor
      · intro h
        rw [Bool.eq_iff_iff, ← hlast]
        exact h.success_iff
      · rintro rfl
        refine ⟨hlast, ?_⟩
        intro session rest' hresult
        rw [hanswer] at hresult
        cases hresult
        rw [hlast, hstore]

/-! ## What the simulations decide -/

/-- The client is asked for the payload of PLAIN, and sends a line that cannot be read. -/
def Breaks (args : Text) (input : List ReceivedLine) : Prop :=
  authMechanism args = "PLAIN" ∧ authInitial args = [] ∧ input.head? = some none

/-- No part that does not decode is taken for an empty one of configured credentials. -/
def PartsDecode (base64 : Text → Option Bytes) (credentials : List MailCredential) (args : Text)
    (input : List ReceivedLine) : Prop :=
  authMechanism args = "LOGIN" → ∀ parts, loginParts args input = some parts →
    credentialsMatch credentials ((decodeBase64Text base64 parts.1).getD [])
        ((decodeBase64Text base64 parts.2).getD []) = true →
      (decodeBase64Text base64 parts.1).isSome = true ∧
        (decodeBase64Text base64 parts.2).isSome = true

section Base64

variable (base64 : Text → Option Bytes) (credentials : List MailCredential) (args : Text)
  (input : List ReceivedLine)

theorem decided_pop3Authenticate (authed : Bool) :
    decided (pop3Authenticate base64 credentials authed args) input =
      if authMechanism args = "PLAIN" ∧ authInitial args = [] ∧ input.head? = some none then false
      else ((plainCredentials base64 args input).map fun found =>
        credentialsMatch credentials found.1 found.2).getD authed := by
  rw [decided, plainCredentials, plainPayload]
  by_cases hplain : authMechanism args = "PLAIN"
  · cases hinitial : authInitial args with
    | nil =>
      have hempty : (authInitial args).isEmpty = true := by rw [hinitial, List.isEmpty_nil]
      have hpop3 : pop3Authenticate base64 credentials authed args = _ :=
        (if_pos hplain).trans (if_pos hempty)
      simp only [hpop3, hplain, if_true, true_and, List.isEmpty_nil]
      cases input with
      | nil => rfl
      | cons raw input => cases raw <;> rfl
    | cons c initial =>
      have hgiven : ¬ (authInitial args).isEmpty = true := by simp [hinitial]
      have hpop3 : pop3Authenticate base64 credentials authed args = _ :=
        (if_pos hplain).trans (if_neg hgiven)
      have hvalue : (splitWhitespace args).tail.head?.getD [] = c :: initial := hinitial
      rw [hpop3, if_pos hplain, if_neg (by simp), hvalue]
      rfl
  · have hpop3 : pop3Authenticate base64 credentials authed args = _ := if_neg hplain
    simp only [hpop3, hplain, false_and, if_false]
    rfl

/-- PLAIN without a payload is answered as with an empty one, which has no credentials. -/
theorem decodeAuthPlain_nil (hempty : base64 [] = some []) : decodeAuthPlain base64 [] = none := by
  have htrim : trim [] = [] := rfl
  rw [decodeAuthPlain, htrim, hempty]
  rfl

theorem decided_plain (hempty : base64 [] = some []) (hplain : authMechanism args = "PLAIN") :
    decided (smtpAuthenticate base64 credentials args) input =
      proves credentials (plainCredentials base64 args input) := by
  have hsmtp : smtpAuthenticate base64 credentials args = (do
      let authValue ← authPlainValue (authInitial args)
      return ((decodeAuthPlain base64 authValue).map fun found =>
        credentialsMatch credentials found.1 found.2).getD false) := if_pos hplain
  rw [decided, hsmtp, plainCredentials, if_pos hplain, plainPayload, authPlainValue]
  have hproves (sent : Option (Text × Text)) : (sent.map fun found =>
      credentialsMatch credentials found.1 found.2).getD false = proves credentials sent := by
    cases sent <;> rfl
  cases hinitial : authInitial args with
  | nil =>
    cases input with
    | nil =>
      show ((decodeAuthPlain base64 []).map _).getD false = _
      rw [decodeAuthPlain_nil base64 hempty]
      rfl
    | cons raw input =>
      cases raw with
      | none => rfl
      | some raw => exact hproves _
  | cons c initial => exact hproves _

theorem decided_login (hlogin : authMechanism args = "LOGIN") :
    decided (smtpAuthenticate base64 credentials args) input =
      (loginParts args input).any fun parts =>
        credentialsMatch credentials ((decodeBase64Text base64 parts.1).getD [])
          ((decodeBase64Text base64 parts.2).getD []) := by
  have hplain : ¬ authMechanism args = "PLAIN" := by
    rw [hlogin]
    decide
  have hsmtp : smtpAuthenticate base64 credentials args =
      handleAuthLogin base64 credentials (authInitial args) :=
    (if_neg hplain).trans (if_pos hlogin)
  rw [decided, hsmtp, handleAuthLogin, authLoginUsername, loginParts]
  cases authInitial args with
  | nil =>
    cases input with
    | nil => rfl
    | cons raw input =>
      cases raw with
      | none => rfl
      | some raw =>
        cases input with
        | nil => rfl
        | cons raw' input => cases raw' <;> rfl
  | cons c initial =>
    cases input with
    | nil => rfl
    | cons raw input => cases raw <;> rfl

theorem decided_other (hplain : authMechanism args ≠ "PLAIN")
    (hlogin : authMechanism args ≠ "LOGIN") :
    decided (smtpAuthenticate base64 credentials args) input = false := by
  have hsmtp : smtpAuthenticate base64 credentials args = return false :=
    (if_neg hplain).trans (if_neg hlogin)
  rw [decided, hsmtp]
  rfl

theorem decided_imapAuthenticate (authed : Bool) (hargs : eqIgnoreAsciiCase args "PLAIN" = true) :
    decided (imapAuthenticate base64 credentials authed args) input =
      if input.head? = some none then false
      else (((nextLine input).bind (decodeAuthPlain base64)).map fun found =>
        credentialsMatch credentials found.1 found.2).getD authed := by
  rw [decided, imapAuthenticate, if_pos hargs]
  cases input with
  | nil => rfl
  | cons raw input =>
    cases raw with
    | none => rfl
    | some raw => rfl

theorem avoids_smtpAuthenticate (args : Text) :
    Avoids 'i' (smtpAuthenticate base64 credentials args) := by
  have hend : 'i' ∉ ("\r\n" : Text) := by decide
  have hplain (initial : Text) : Avoids 'i' (authPlainValue initial) :=
    avoids_ite ((avoids_writeLine (by decide) hend).bind fun _ => avoids_readLine.bind fun _ =>
      avoids_ret) avoids_ret
  have husername (firstArg : Text) : Avoids 'i' (authLoginUsername firstArg) :=
    avoids_ite ((avoids_writeLine (by decide) hend).bind fun _ => avoids_readLine) avoids_ret
  have hlogin (firstArg : Text) : Avoids 'i' (handleAuthLogin base64 credentials firstArg) := by
    refine (husername firstArg).bind fun username => ?_
    cases username with
    | none => exact avoids_ret
    | some username =>
      refine (avoids_writeLine (by decide) hend).bind fun _ => avoids_readLine.bind fun line => ?_
      cases line <;> exact avoids_ret
  exact avoids_ite ((hplain _).bind fun _ => avoids_ret) (avoids_ite (hlogin _) avoids_ret)

theorem avoids_pop3Authenticate (authed : Bool) (args : Text) :
    Avoids 'K' (pop3Authenticate base64 credentials authed args) := by
  refine avoids_ite (avoids_ite ?_ avoids_ret) avoids_ret
  refine (avoids_writeLine (by decide) (by decide)).bind fun _ => avoids_readLine.bind
    fun line => ?_
  cases line <;> exact avoids_ret

theorem avoids_imapAuthenticate (authed : Bool) (args : Text) :
    Avoids 'K' (imapAuthenticate base64 credentials authed args) := by
  refine avoids_ite ?_ avoids_ret
  refine (avoids_writeLine (by decide) (by decide)).bind fun _ => avoids_readLine.bind
    fun line => ?_
  cases line <;> exact avoids_ret

/-! ## When they decide right -/

theorem smtp_right_iff (hempty : base64 [] = some []) :
    decided (smtpAuthenticate base64 credentials args) input =
        proves credentials ((plainCredentials base64 args input).or
          (loginCredentials base64 args input)) ↔
      PartsDecode base64 credentials args input := by
  by_cases hplain : authMechanism args = "PLAIN"
  · have hlogin : ¬ authMechanism args = "LOGIN" := by
      rw [hplain]
      decide
    rw [decided_plain base64 credentials args input hempty hplain, loginCredentials,
      if_neg hlogin, Option.or_none]
    exact iff_of_true rfl fun h => absurd h hlogin
  rw [plainCredentials, if_neg hplain, Option.none_or, PartsDecode]
  by_cases hlogin : authMechanism args = "LOGIN"
  · rw [decided_login base64 credentials args input hlogin, loginCredentials, if_pos hlogin]
    cases loginParts args input with
    | none => simp [hlogin, proves]
    | some parts =>
      cases husername : decodeBase64Text base64 parts.1 <;>
        cases hpassword : decodeBase64Text base64 parts.2 <;>
          simp [hlogin, proves, husername, hpassword]
  · rw [decided_other base64 credentials args input hplain hlogin, loginCredentials, if_neg hlogin]
    exact iff_of_true rfl fun h => absurd h hlogin

theorem pop3_right_iff (authed : Bool) :
    decided (pop3Authenticate base64 credentials authed args) input =
        proves credentials (plainCredentials base64 args input) ↔
      authed = false ∨ (plainCredentials base64 args input).isSome = true ∨ Breaks args input := by
  rw [decided_pop3Authenticate]
  by_cases hbreaks : authMechanism args = "PLAIN" ∧ authInitial args = [] ∧ input.head? = some none
  · have hnone : plainCredentials base64 args input = none := by
      obtain ⟨hplain, hinitial, hhead⟩ := hbreaks
      obtain ⟨rest, rfl⟩ : ∃ rest, input = none :: rest := List.head?_eq_some_iff.mp hhead
      rw [plainCredentials, if_pos hplain, plainPayload, hinitial]
      rfl
    rw [if_pos hbreaks, hnone]
    exact iff_of_true rfl (.inr (.inr hbreaks))
  · have hunbroken : ¬ Breaks args input := hbreaks
    rw [if_neg hbreaks]
    cases plainCredentials base64 args input with
    | none => simp [proves, hunbroken]
    | some found => simp [proves]

/-- The arguments are the mechanism only. -/
theorem mechanism_of_eqIgnoreAsciiCase {args : Text} (h : eqIgnoreAsciiCase args "PLAIN" = true) :
    authMechanism args = "PLAIN" ∧ authInitial args = [] := by
  have hlower : toAsciiLowercase args = "plain" := beq_iff_eq.mp h
  have hword : Words.IsWord isWhitespace args := by
    constructor
    · rintro rfl
      exact absurd hlower (by decide)
    · intro c hc
      have hmem : c.toLower ∈ ("plain" : Text) := by
        rw [← hlower]
        exact List.mem_map_of_mem hc
      rw [← isWhitespace_toLower]
      have hsolid : ∀ d ∈ ("plain" : Text), isWhitespace d = false := by simp [isWhitespace]
      exact hsolid _ hmem
  have hwords : splitWhitespace args = [args] := Words.words_of_isWord hword
  have hupper : toAsciiUppercase args = toAsciiUppercase (toAsciiLowercase args) := by
    rw [toAsciiUppercase, toAsciiUppercase, toAsciiLowercase, List.map_map]
    exact List.map_congr_left fun c _ => (toUpper_toLower c).symm
  rw [authMechanism, authInitial, hwords]
  constructor
  · rw [List.head?_cons, Option.getD_some, hupper, hlower]
    rfl
  · rfl

/-- Without an initial response, IMAP decides as POP3 does; else it leaves things as they are. -/
theorem imap_right_iff (authed : Bool) :
    decided (imapAuthenticate base64 credentials authed args) input =
        proves credentials (plainCredentials base64 args input) ↔
      if eqIgnoreAsciiCase args "PLAIN" = true then
        authed = false ∨ (plainCredentials base64 args input).isSome = true ∨ Breaks args input
      else authed = proves credentials (plainCredentials base64 args input) := by
  split_ifs with hargs
  · obtain ⟨hplain, hinitial⟩ := mechanism_of_eqIgnoreAsciiCase hargs
    have hsame : decided (imapAuthenticate base64 credentials authed args) input =
        decided (pop3Authenticate base64 credentials authed args) input := by
      rw [decided_imapAuthenticate base64 credentials args input authed hargs,
        decided_pop3Authenticate, plainCredentials, plainPayload]
      simp only [hplain, hinitial, true_and, if_true]
      rfl
    rw [hsame, pop3_right_iff]
  · have himap : imapAuthenticate base64 credentials authed args = return authed := if_neg hargs
    rw [decided, himap]
    rfl

end Base64

/-! ## Lines -/

/-- The line asks for the command, and is given no custom response. -/
structure SmtpAsks (ctx : SmtpContext) (line upper args : Text) : Prop where
  command : toAsciiUppercase (smtpCommand line).1 = upper
  args : (smtpCommand line).2 = args
  custom : smtpCustom ctx line = none

/-- A line with a command is not blank. -/
theorem isEmpty_trim_of_smtpCommand {line : Text}
    (h : (toAsciiUppercase (smtpCommand line).1).any (fun c => !isWhitespace c) = true) :
    (trim line).isEmpty = false := by
  obtain ⟨c, hc, hvisible⟩ := List.any_eq_true.mp h
  obtain ⟨d, hd, rfl⟩ := List.mem_map.mp hc
  rw [isWhitespace_toUpper] at hvisible
  have hline : d ∈ line := by
    unfold smtpCommand at hd
    split at hd
    · next command args hsplit =>
      rw [splitOnce_eq_append hsplit]
      exact List.mem_append_left _ hd
    · exact hd
  simpa using trim_ne_nil hline (by simpa using hvisible)

section Lines

variable (base64 : Text → Option Bytes) (peer : SocketAddr)

theorem smtpLine_builtin {ctx : SmtpContext} {line : Text} (hcustom : smtpCustom ctx line = none)
    (hline : (trim line).isEmpty = false) (hquit : toAsciiUppercase (smtpCommand line).1 ≠ "QUIT")
    (session : SmtpSession) (input : List ReceivedLine) :
    let reply := smtpReply base64 ctx session (toAsciiUppercase (smtpCommand line).1)
      (smtpCommand line).2
    lineReply (handleSmtpLine base64 ctx peer) session line input =
        (written (reply.run input).1).flatten ∧
      ((handleSmtpLine base64 ctx peer session line).run input).2 =
        (reply.run input).2.map fun found => (some found.1.1, found.2) := by
  intro reply
  have hanswer : smtpAnswer base64 ctx session line =
      reply >>= fun found => return .logged found.1 found.2 := by
    rw [smtpAnswer, hline, if_neg Bool.false_ne_true, hcustom]
    exact if_neg hquit
  obtain ⟨hwritten, hresult⟩ :=
    run_builtin ctx peer "SMTP command: " "SMTP command: QUIT" line reply input
  rw [← hanswer] at hwritten hresult
  exact ⟨congrArg List.flatten hwritten, hresult⟩

theorem SmtpAsks.answered {ctx : SmtpContext} {line upper args : Text}
    (h : SmtpAsks ctx line upper args) (session : SmtpSession) (input : List ReceivedLine)
    (hvisible : upper.any (fun c => !isWhitespace c) = true) (hquit : upper ≠ "QUIT") :
    let reply := smtpReply base64 ctx session upper args
    lineReply (handleSmtpLine base64 ctx peer) session line input =
        (written (reply.run input).1).flatten ∧
      ((handleSmtpLine base64 ctx peer session line).run input).2 =
        (reply.run input).2.map fun found => (some found.1.1, found.2) := by
  obtain ⟨rfl, rfl, hcustom⟩ := h
  exact smtpLine_builtin base64 peer hcustom (isEmpty_trim_of_smtpCommand hvisible) hquit session
    input

theorem tellsTruth_smtpReply_iff (ctx : SmtpContext) (session : SmtpSession) (args : Text)
    (proved : Bool) (input : List ReceivedLine) :
    let reply := smtpReply base64 ctx session "AUTH" args
    TellsTruth SmtpSession.authed "235 2.7.0 Authentication successful" proved
        (written (reply.run input).1).flatten
        ((reply.run input).2.map fun found => (some found.1.1, found.2)) ↔
      decided (smtpAuthenticate base64 ctx.credentials args) input = proved := by
  have hstore (ok : Bool) : SmtpSession.authed { session with authed := ok } = ok := rfl
  have hsuccess : ("l" : Text) <:+ ("235 2.7.0 Authentication successful" : Text) := by decide
  have hfailure : ("d" : Text) <:+ ("535 5.7.8 Authentication credentials invalid" : Text) := by
    decide
  exact tellsTruth_iff hstore (not_lastLine hsuccess hfailure (by decide) (by decide)) (by decide)
    (avoids_smtpAuthenticate base64 _ args) _ input

theorem smtp_tellsTruth_iff (hempty : base64 [] = some []) {ctx : SmtpContext}
    {session : SmtpSession} {line args : Text} {input : List ReceivedLine}
    (h : SmtpAsks ctx line "AUTH" args) :
    TellsTruth SmtpSession.authed "235 2.7.0 Authentication successful"
        (proves ctx.credentials
          ((plainCredentials base64 args input).or (loginCredentials base64 args input)))
        (lineReply (handleSmtpLine base64 ctx peer) session line input)
        ((handleSmtpLine base64 ctx peer session line).run input).2 ↔
      PartsDecode base64 ctx.credentials args input := by
  obtain ⟨hreply, hresult⟩ := h.answered base64 peer session input rfl (by decide)
  rw [hreply, hresult, ← smtp_right_iff base64 _ args input hempty]
  exact tellsTruth_smtpReply_iff base64 ctx session args _ input

theorem pop3_tellsTruth_iff {ctx : Pop3Context} {session : Pop3Session} {line args : Text}
    {input : List ReceivedLine} (h : Pop3Asks ctx line "AUTH" args) :
    TellsTruth Pop3Session.authed "+OK Authentication successful"
        (proves ctx.credentials (plainCredentials base64 args input))
        (lineReply (handlePop3Line base64 ctx peer) session line input)
        ((handlePop3Line base64 ctx peer session line).run input).2 ↔
      session.authed = false ∨ (plainCredentials base64 args input).isSome = true ∨
        Breaks args input := by
  obtain ⟨hreply, hresult⟩ := h.answered base64 peer session input rfl (by decide)
  rw [hreply, hresult, ← pop3_right_iff base64 ctx.credentials]
  have hstore (ok : Bool) : Pop3Session.authed { session with authed := ok } = ok := rfl
  have hsuccess : ("l" : Text) <:+ ("+OK Authentication successful" : Text) := by decide
  have hfailure : ("d" : Text) <:+ ("-ERR Authentication failed" : Text) := by decide
  exact tellsTruth_iff hstore (not_lastLine hsuccess hfailure (by decide) (by decide)) (by decide)
    (avoids_pop3Authenticate base64 _ _ args) _ input

theorem imap_tellsTruth_iff {ctx : ImapContext} {session : ImapSession} {line tag args : Text}
    {input : List ReceivedLine} (h : ImapAsks ctx line tag "AUTHENTICATE" args) :
    TellsTruth ImapSession.authed (tag ++ (" OK AUTHENTICATE completed" : Text))
        (proves ctx.credentials (plainCredentials base64 args input))
        (lineReply (handleImapLine base64 ctx peer) session line input)
        ((handleImapLine base64 ctx peer session line).run input).2 ↔
      if eqIgnoreAsciiCase args "PLAIN" = true then
        session.authed = false ∨ (plainCredentials base64 args input).isSome = true ∨
          Breaks args input
      else session.authed = proves ctx.credentials (plainCredentials base64 args input) := by
  obtain ⟨hreply, hresult⟩ := h.answered base64 peer session input rfl (by decide)
  rw [hreply, hresult, ← imap_right_iff base64 ctx.credentials]
  have hstore (ok : Bool) : ImapSession.authed { session with authed := ok } = ok := rfl
  have hsuccess : ("pleted" : Text) <:+ tag ++ (" OK AUTHENTICATE completed" : Text) :=
    ⟨tag ++ (" OK AUTHENTICATE com" : Text), by rw [List.append_assoc]; rfl⟩
  have hfailure : ("failed" : Text) <:+ tag ++ (" NO AUTHENTICATE failed" : Text) :=
    ⟨tag ++ (" NO AUTHENTICATE " : Text), by rw [List.append_assoc]; rfl⟩
  have hreply : imapReply base64 ctx session tag "AUTHENTICATE" args = (do
      let ok ← imapAuthenticate base64 ctx.credentials session.authed args
      writeLine (if ok then tag ++ (" OK AUTHENTICATE completed" : Text)
        else tag ++ (" NO AUTHENTICATE failed" : Text))
      return ({ session with authed := ok }, "auth_attempt")) := by
    have hline (ok : Bool) :
        tag ++ (" " : Text) ++ (if ok then ("OK AUTHENTICATE completed" : Text)
          else "NO AUTHENTICATE failed") =
        if ok then tag ++ (" OK AUTHENTICATE completed" : Text)
        else tag ++ (" NO AUTHENTICATE failed" : Text) := by
      rw [List.append_assoc]
      cases ok <;> rfl
    apply congrArg (Bind.bind _)
    funext ok
    rw [← hline]
    rfl
  rw [hreply]
  have hmem : 'K' ∈ tag ++ (" OK AUTHENTICATE completed" : Text) :=
    List.mem_append_right tag (by decide)
  exact tellsTruth_iff hstore (not_lastLine hsuccess hfailure (by decide) (by decide)) hmem
    (avoids_imapAuthenticate base64 _ _ args) _ input

/-- SMTP tells the truth unless an empty part of configured credentials is at stake. POP3 does if
the session is not authenticated or credentials are sent; so does IMAP, which ignores what
comes with the command. -/
theorem logins_tellTruth_iff (hempty : base64 [] = some []) :
    (∀ (ctx : SmtpContext) (session : SmtpSession) (line args : Text)
        (input : List ReceivedLine), SmtpAsks ctx line "AUTH" args →
      (TellsTruth SmtpSession.authed "235 2.7.0 Authentication successful"
          (proves ctx.credentials
            ((plainCredentials base64 args input).or (loginCredentials base64 args input)))
          (lineReply (handleSmtpLine base64 ctx peer) session line input)
          ((handleSmtpLine base64 ctx peer session line).run input).2 ↔
        PartsDecode base64 ctx.credentials args input)) ∧
    (∀ (ctx : Pop3Context) (session : Pop3Session) (line args : Text)
        (input : List ReceivedLine), Pop3Asks ctx line "AUTH" args →
      (TellsTruth Pop3Session.authed "+OK Authentication successful"
          (proves ctx.credentials (plainCredentials base64 args input))
          (lineReply (handlePop3Line base64 ctx peer) session line input)
          ((handlePop3Line base64 ctx peer session line).run input).2 ↔
        session.authed = false ∨ (plainCredentials base64 args input).isSome = true ∨
          Breaks args input)) ∧
    (∀ (ctx : ImapContext) (session : ImapSession) (line tag args : Text)
        (input : List ReceivedLine), ImapAsks ctx line tag "AUTHENTICATE" args →
      (TellsTruth ImapSession.authed (tag ++ (" OK AUTHENTICATE completed" : Text))
          (proves ctx.credentials (plainCredentials base64 args input))
          (lineReply (handleImapLine base64 ctx peer) session line input)
          ((handleImapLine base64 ctx peer session line).run input).2 ↔
        if eqIgnoreAsciiCase args "PLAIN" = true then
          session.authed = false ∨ (plainCredentials base64 args input).isSome = true ∨
            Breaks args input
        else session.authed = proves ctx.credentials (plainCredentials base64 args input))) := by
  refine ⟨?_, ?_, ?_⟩
  · intro ctx session line args input h
    exact smtp_tellsTruth_iff base64 peer hempty h
  · intro ctx session line args input h
    exact pop3_tellsTruth_iff base64 peer h
  · intro ctx session line tag args input h
    exact imap_tellsTruth_iff base64 peer h

end Lines

/-- The user `a` with the password `b`, and no custom responses. -/
def mailbox : Pop3Context :=
  ⟨"rule-1", "local", 110, ⟨none, none, some [⟨"a", "b"⟩], none, none, none⟩⟩

/-- Base64, as far as it is needed here. -/
def loginBase64 (text : Text) : Option Bytes :=
  if text.isEmpty then some [] else if text = "AGEAYg==" then some [0, 97, 0, 98] else none

theorem pop3Asks_authPlain : Pop3Asks mailbox "AUTH PLAIN AGEAYg==" "AUTH" "PLAIN AGEAYg==" :=
  ⟨rfl, rfl⟩

theorem logins_tellTruth_authPlain :
    loginBase64 [] = some [] ∧
      (TellsTruth Pop3Session.authed "+OK Authentication successful"
          (proves mailbox.credentials (plainCredentials loginBase64 "PLAIN AGEAYg==" []))
          (lineReply (handlePop3Line loginBase64 mailbox imapClient) (Pop3Session.new false 0)
            "AUTH PLAIN AGEAYg==" [])
          ((handlePop3Line loginBase64 mailbox imapClient (Pop3Session.new false 0)
            "AUTH PLAIN AGEAYg==").run []).2 ↔
        (Pop3Session.new false 0).authed = false ∨
          (plainCredentials loginBase64 "PLAIN AGEAYg==" []).isSome = true ∨
            Breaks "PLAIN AGEAYg==" []) := by
  obtain ⟨-, hpop3, -⟩ := logins_tellTruth_iff loginBase64 imapClient rfl
  exact ⟨rfl, hpop3 mailbox _ _ _ _ pop3Asks_authPlain⟩

/-- Where no authentication is required, a mechanism that POP3 does not have succeeds. -/
theorem auth_cramMd5 :
    Pop3Asks mailbox "AUTH CRAM-MD5" "AUTH" "CRAM-MD5" ∧
      (plainCredentials loginBase64 "CRAM-MD5" []).isNone = true ∧
      lineReply (handlePop3Line loginBase64 mailbox imapClient) (Pop3Session.new false 0)
        "AUTH CRAM-MD5" [] = ("+OK Authentication successful\r\n" : Text) ∧
      ¬ TellsTruth Pop3Session.authed "+OK Authentication successful"
        (proves mailbox.credentials (plainCredentials loginBase64 "CRAM-MD5" []))
        (lineReply (handlePop3Line loginBase64 mailbox imapClient) (Pop3Session.new false 0)
          "AUTH CRAM-MD5" [])
        ((handlePop3Line loginBase64 mailbox imapClient (Pop3Session.new false 0)
          "AUTH CRAM-MD5").run []).2 := by
  have hreply : lineReply (handlePop3Line loginBase64 mailbox imapClient)
      (Pop3Session.new false 0) "AUTH CRAM-MD5" [] =
        ("+OK Authentication successful\r\n" : Text) := by decide +kernel
  refine ⟨⟨rfl, rfl⟩, by decide +kernel, hreply, ?_⟩
  intro h
  have hproved := h.success_iff.mp (by rw [hreply]; exact ⟨[], rfl⟩)
  exact absurd hproved (by decide +kernel)

end ProtocolSimulation.Engine
