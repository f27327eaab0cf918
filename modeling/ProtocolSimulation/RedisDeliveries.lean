import ProtocolSimulation.RedisArrays

/-!
# Redis commands and the reads they arrive in

A client sends its commands one after the other, and the network cuts them into
reads wherever it likes. The simulation answers each read as one command, so the
replies are those to the commands exactly if each read is one of them.
-/
namespace ProtocolSimulation.Engine

open ProtocolSimulation.Texts ProtocolSimulation.Conversations ProtocolSimulation.RuntimeEvents
open ProtocolSimulation.Fallible

/-! ## Replies -/

/-- The replies to commands one after the other. -/
def repliesInOrder (config : SimRedisConfig) : Bool → List RedisCommand → List Bytes
  | _, [] => []
  | authed, command :: rest =>
    let ((response, _), authed) := redisResponseForCommand config command authed
    response :: repliesInOrder config authed rest

/-- The replies to reads one after the other. -/
def readReplies (config : SimRedisConfig) : Bool → List RedisRead → List Bytes
  | _, [] => []
  | authed, payload :: rest =>
    match parseRedisCommand payload with
    | .error _ => []
    | .ok none => redisError "ERR Protocol error: invalid request" :: readReplies config authed rest
    | .ok (some command) =>
      let ((response, _), authed) := redisResponseForCommand config command authed
      response :: readReplies config authed rest

theorem written_redisLoop (ctx : RedisSimulationContext) (peer : SocketAddr) (authed : Bool)
    (reads : List RedisRead) :
    written ((redisLoop ctx peer authed).run reads).1 = readReplies ctx.config authed reads := by
  induction reads generalizing authed with
  | nil => rfl
  | cons payload reads ih =>
    rw [redisLoop, Talk.run_forEach_cons, readReplies, redisRound, handleRedisRead]
    cases parseRedisCommand payload with
    | error panic => rfl
    | ok parsed =>
      cases parsed with
      | none => exact congrArg (redisError _ :: ·) (ih authed)
      | some command => exact congrArg (_ :: ·) (ih _)

/-- What is written at the beginning of a connection. -/
def redisBanner (config : SimRedisConfig) : List Bytes := (config.banner.map redisSimple).toList

theorem written_handleRedisConnection (ctx : RedisSimulationContext) (peer : SocketAddr)
    (reads : List RedisRead) :
    written ((handleRedisConnection ctx peer).run reads).1 = redisBanner ctx.config ++
      readReplies ctx.config (!ctx.config.requireAuth.getD false) reads := by
  rw [run_handleRedisConnection, written_append, written_redisLoop, redisGreeting, redisBanner]
  cases ctx.config.banner <;> rfl

/-! ## Commands that get the same reply -/

/-- The text of a command in which configured responses look for arguments. -/
def commandText (command : RedisCommand) : Text :=
  toAsciiLowercase (joinWith " " (command.name :: command.args))

/-- Commands that no configuration tells apart: their names and texts are the same, and so is the
argument that is echoed, looked up or checked. -/
structure Alike (command command' : RedisCommand) : Prop where
  name : command'.name = command.name
  text : commandText command' = commandText command
  echoed : command.name = "PING" → command'.args.head? = command.args.head?
  looked : command.name = "GET" → command'.args.head? = command.args.head?
  checked : command.name = "AUTH" → command'.args.getLast?.getD [] = command.args.getLast?.getD []

theorem alike_refl (command : RedisCommand) : Alike command command := by
  constructor <;> intros <;> rfl

theorem redisResponseForCommand_of_alike {command command' : RedisCommand}
    (h : Alike command command') (config : SimRedisConfig) (authed : Bool) :
    redisResponseForCommand config command' authed =
      redisResponseForCommand config command authed := by
  have hcustom : redisCustomResponse config command' = redisCustomResponse config command := by
    have htext := h.text
    rw [commandText, commandText] at htext
    rw [redisCustomResponse, redisCustomResponse, htext, h.name]
  rw [redisResponseForCommand, redisResponseForCommand, hcustom, h.name]
  cases redisCustomResponse config command with
  | some custom => rfl
  | none =>
    apply ite_congr rfl (fun _ => rfl) fun _ => ?_
    apply ite_congr rfl (fun hping => ?_) fun _ => ?_
    · rw [h.echoed hping]
    apply ite_congr rfl (fun hauth => ?_) fun _ => ?_
    · rw [h.checked hauth]
    apply ite_congr rfl (fun _ => rfl) fun _ => ?_
    apply ite_congr rfl (fun _ => rfl) fun _ => ?_
    apply ite_congr rfl (fun _ => rfl) fun _ => ?_
    apply ite_congr rfl (fun hget => ?_) fun _ => rfl
    rw [h.looked hget]

/-! ## Configurations that tell commands apart -/

theorem redisBulk_injective : Function.Injective redisBulk := by
  intro v w h
  have htexts : ("$" : Text) ++ showNat (byteLen v) ++ ("\r\n" : Text) ++ v ++ ("\r\n" : Text) =
      ("$" : Text) ++ showNat (byteLen w) ++ ("\r\n" : Text) ++ w ++ ("\r\n" : Text) :=
    utf8Encode_injective h
  have hlines := List.append_cancel_right htexts
  simp only [List.append_assoc] at hlines
  have hlines := List.append_cancel_left hlines
  have hcount (n : ℕ) (rest : Text) :
      (showNat n ++ (("\r\n" : Text) ++ rest)).takeWhile isDigit = showNat n := by
    rw [List.takeWhile_append_of_pos fun c hc => showNat_isDigit hc]
    exact List.append_nil _
  have hcounts := congrArg (List.takeWhile isDigit) hlines
  rw [hcount, hcount] at hcounts
  rw [hcounts] at hlines
  exact List.append_cancel_left (List.append_cancel_left hlines)

/-- The bytes of the reply to a command. -/
def replyTo (config : SimRedisConfig) (command : RedisCommand) (authed : Bool) : Bytes :=
  (redisResponseForCommand config command authed).1.1

/-- The bytes of the reply to what a read was parsed as. -/
def replyToParsed (config : SimRedisConfig) : Option RedisCommand → Bool → Bytes
  | none, _ => redisError "ERR Protocol error: invalid request"
  | some command, authed => replyTo config command authed

def plainConfig : SimRedisConfig := ⟨none, none, none, none, none, none⟩

/-- The configuration that answers a command with a mark. -/
def markedConfig (command : RedisCommand) (mark : Text) : SimRedisConfig :=
  { plainConfig with
    commandResponses := some [⟨command.name, some [commandText command], mark, none⟩] }

/-- The configuration that knows one key. -/
def keyConfig (key : Text) : SimRedisConfig :=
  { plainConfig with keys := some ⟨[(key, ("x" : Text))], List.pairwise_singleton _ _⟩ }

/-- The configuration that asks for a password. -/
def passwordConfig (password : Text) : SimRedisConfig :=
  { plainConfig with requireAuth := some true, password := some password }

/-- The commands that the mark on a command answers. -/
def Marked (command command' : RedisCommand) : Prop :=
  eqIgnoreAsciiCase command.name command'.name = true ∧
    contains (commandText command') (commandText command) = true

instance decidableMarked (command command' : RedisCommand) : Decidable (Marked command command') :=
  inferInstanceAs (Decidable (_ ∧ _))

theorem marked_self (command : RedisCommand) : Marked command command := by
  constructor
  · exact beq_self_eq_true _
  · exact contains_iff.mpr List.infix_rfl

theorem redisCustomResponse_marked (command command' : RedisCommand) (mark : Text) :
    redisCustomResponse (markedConfig command mark) command' =
      if Marked command command' then
        some (redisBulk mark, ("redis_command" : Text)) else none := by
  have hneedle : toAsciiLowercase (commandText command) = commandText command :=
    toAsciiLowercase_toAsciiLowercase _
  have hmatch : (eqIgnoreAsciiCase command.name command'.name &&
      argsMatch (some [commandText command]) (commandText command')) =
      decide (Marked command command') := by
    rw [Bool.eq_iff_iff, decide_eq_true_iff]
    unfold Marked
    simp [argsMatch, hneedle]
  unfold commandText at hmatch
  unfold redisCustomResponse markedConfig commandText
  simp only [Option.bind_eq_bind, Option.bind_some, List.find?_cons, hmatch]
  by_cases h : Marked command command'
  · rw [decide_eq_true h, if_pos h]
    rfl
  · rw [decide_eq_false h, if_neg h]
    rfl

theorem replyTo_of_custom {config : SimRedisConfig} {command : RedisCommand} {custom : Bytes × Text}
    (h : redisCustomResponse config command = some custom) (authed : Bool) :
    replyTo config command authed = custom.1 := by
  unfold replyTo redisResponseForCommand
  rw [h]

theorem replyTo_marked {command command' : RedisCommand} (h : Marked command command')
    (mark : Text) (authed : Bool) :
    replyTo (markedConfig command mark) command' authed = redisBulk mark := by
  have hcustom := redisCustomResponse_marked command command' mark
  rw [if_pos h] at hcustom
  exact replyTo_of_custom hcustom authed

/-- A mark does not matter to the commands that it does not answer. -/
theorem replyTo_of_not_marked {command command' : RedisCommand} (h : ¬ Marked command command')
    (mark : Text) (authed : Bool) :
    replyTo (markedConfig command mark) command' authed = replyTo plainConfig command' authed := by
  have hcustom := redisCustomResponse_marked command command' mark
  rw [if_neg h] at hcustom
  have hplain : redisCustomResponse plainConfig command' = none := rfl
  unfold replyTo redisResponseForCommand
  rw [hcustom, hplain]
  rfl

/-- Where no password is asked for, a reply does not depend on what was sent before. -/
theorem replyTo_authed {config : SimRedisConfig} (h : config.requireAuth.getD false = false)
    (command : RedisCommand) (authed authed' : Bool) :
    replyTo config command authed = replyTo config command authed' := by
  unfold replyTo redisResponseForCommand
  cases redisCustomResponse config command with
  | some custom => rfl
  | none =>
    simp only [h, Bool.false_and, Bool.false_eq_true, if_false, Bool.not_false, if_true,
      apply_ite Prod.fst]

theorem replyTo_ping {command : RedisCommand} (h : command.name = "PING") (authed : Bool) :
    replyTo plainConfig command authed =
      (command.args.head?.map redisBulk).getD (redisSimple "PONG") := by
  have hcustom : redisCustomResponse plainConfig command = none := rfl
  unfold replyTo redisResponseForCommand
  rw [hcustom, if_neg (by simp [plainConfig]), if_pos h]

theorem replyTo_get {command : RedisCommand} (h : command.name = "GET") (key : Text)
    (authed : Bool) :
    replyTo (keyConfig key) command authed =
      if command.args.head? = some key then redisBulk "x" else redisNil := by
  have hcustom : redisCustomResponse (keyConfig key) command = none := rfl
  unfold replyTo redisResponseForCommand
  rw [hcustom]
  simp only [h]
  rw [if_neg (by simp [keyConfig, plainConfig]), if_neg (by decide), if_neg (by decide),
    if_neg (by decide), if_neg (by decide), if_neg (by decide), if_pos trivial]
  cases hhead : command.args.head? with
  | none => rfl
  | some found =>
    by_cases hfound : found = key
    · simp [keyConfig, BTreeMap.get, hfound]
    · simp [keyConfig, BTreeMap.get, hfound, Ne.symm hfound]

theorem replyTo_auth {command : RedisCommand} (h : command.name = "AUTH") (password : Text)
    (authed : Bool) :
    replyTo (passwordConfig password) command authed =
      if command.args.getLast?.getD [] = password then redisSimple "OK"
      else redisError "ERR invalid password" := by
  have hcustom : redisCustomResponse (passwordConfig password) command = none := rfl
  unfold replyTo redisResponseForCommand
  rw [hcustom]
  simp only [h]
  rw [if_neg (by simp), if_neg (by decide), if_pos trivial, if_neg (by simp [passwordConfig])]
  by_cases hprovided : command.args.getLast?.getD [] = password
  · simp [passwordConfig, hprovided]
  · simp [passwordConfig, hprovided]

theorem redisSimple_ne_redisBulk (v w : Text) : redisSimple v ≠ redisBulk w := by
  intro h
  have hhead : (redisSimple v).head? = (redisBulk w).head? := by rw [h]
  exact absurd hhead (show some (43 : UInt8) ≠ some 36 by decide)

theorem redisError_ne_redisBulk (v w : Text) : redisError v ≠ redisBulk w := by
  intro h
  have hhead : (redisError v).head? = (redisBulk w).head? := by rw [h]
  exact absurd hhead (show some (45 : UInt8) ≠ some 36 by decide)

theorem redisNil_ne_redisBulk_x : redisNil ≠ redisBulk "x" := by decide

theorem redisBulk_x_ne_y : redisBulk "x" ≠ redisBulk "y" := by decide

/-- Two marks on a command tell it apart from those the marks do not answer. -/
theorem marked_of_replies {command command' : RedisCommand}
    (h : ∀ mark, ∃ authed, replyTo (markedConfig command mark) command' authed = redisBulk mark) :
    Marked command command' := by
  by_contra hnot
  obtain ⟨authed, hx⟩ := h "x"
  obtain ⟨authed', hy⟩ := h "y"
  rw [replyTo_of_not_marked hnot] at hx hy
  have hsame : replyTo plainConfig command' authed = replyTo plainConfig command' authed' :=
    replyTo_authed rfl command' authed authed'
  rw [hx, hy] at hsame
  exact redisBulk_x_ne_y hsame

/-- The names of commands are in upper case. -/
def UpperCase (command : RedisCommand) : Prop := toAsciiUppercase command.name = command.name

theorem eq_of_eqIgnoreAsciiCase {s t : Text} (hs : toAsciiUppercase s = s)
    (ht : toAsciiUppercase t = t) (h : eqIgnoreAsciiCase s t = true) : s = t := by
  have hlower : toAsciiLowercase s = toAsciiLowercase t := eq_of_beq h
  rw [← hs, ← ht, ← toAsciiUppercase_toAsciiLowercase s, hlower,
    toAsciiUppercase_toAsciiLowercase]

theorem upperCase_of_parse {payload : Bytes} {command : RedisCommand}
    (h : parseRedisCommand payload = .ok (some command)) : UpperCase command := by
  obtain ⟨name, args, rfl, _⟩ := parts_of_parse h
  exact toAsciiUppercase_toAsciiUppercase name

theorem head?_eq_of_ping {command command' : RedisCommand} {authed authed' : Bool}
    (hping : command.name = "PING") (hping' : command'.name = "PING")
    (hreply : replyTo plainConfig command' authed = replyTo plainConfig command authed') :
    command'.args.head? = command.args.head? := by
  rw [replyTo_ping hping, replyTo_ping hping'] at hreply
  cases hargs : command.args.head? with
  | none =>
    cases hargs' : command'.args.head? with
    | none => rfl
    | some found =>
      rw [hargs, hargs'] at hreply
      exact absurd hreply.symm (redisSimple_ne_redisBulk _ _)
  | some wanted =>
    cases hargs' : command'.args.head? with
    | none =>
      rw [hargs, hargs'] at hreply
      exact absurd hreply (redisSimple_ne_redisBulk _ _)
    | some found =>
      rw [hargs, hargs'] at hreply
      exact congrArg some (redisBulk_injective hreply)

theorem head?_iff_of_get {command command' : RedisCommand} {authed authed' : Bool} {key : Text}
    (hget : command.name = "GET") (hget' : command'.name = "GET")
    (hreply : replyTo (keyConfig key) command' authed = replyTo (keyConfig key) command authed') :
    command'.args.head? = some key ↔ command.args.head? = some key := by
  rw [replyTo_get hget, replyTo_get hget'] at hreply
  by_cases hkey : command.args.head? = some key
  · by_cases hkey' : command'.args.head? = some key
    · exact iff_of_true hkey' hkey
    · rw [if_pos hkey, if_neg hkey'] at hreply
      exact absurd hreply redisNil_ne_redisBulk_x
  · by_cases hkey' : command'.args.head? = some key
    · rw [if_neg hkey, if_pos hkey'] at hreply
      exact absurd hreply.symm redisNil_ne_redisBulk_x
    · exact iff_of_false hkey' hkey

/-- Commands that every configuration answers alike are alike. -/
theorem alike_of_replies {command command' : RedisCommand} (hupper : UpperCase command)
    (hupper' : UpperCase command')
    (h : ∀ config, ∃ authed authed',
      replyTo config command' authed = replyTo config command authed') :
    Alike command command' := by
  have hmarked : Marked command command' := by
    apply marked_of_replies
    intro mark
    obtain ⟨authed, authed', hreply⟩ := h (markedConfig command mark)
    rw [replyTo_marked (marked_self command)] at hreply
    exact ⟨authed, hreply⟩
  have hmarked' : Marked command' command := by
    apply marked_of_replies
    intro mark
    obtain ⟨authed, authed', hreply⟩ := h (markedConfig command' mark)
    rw [replyTo_marked (marked_self command')] at hreply
    exact ⟨authed', hreply.symm⟩
  have hname : command'.name = command.name := eq_of_eqIgnoreAsciiCase hupper' hupper hmarked'.1
  constructor
  case name => exact hname
  case text => exact eq_of_contains hmarked.2 hmarked'.2
  case echoed =>
    intro hping
    obtain ⟨authed, authed', hreply⟩ := h plainConfig
    exact head?_eq_of_ping hping (hname.trans hping) hreply
  case looked =>
    intro hget
    apply Option.ext
    intro key
    obtain ⟨authed, authed', hreply⟩ := h (keyConfig key)
    exact head?_iff_of_get hget (hname.trans hget) hreply
  case checked =>
    intro hauth
    obtain ⟨authed, authed', hreply⟩ := h (passwordConfig (command.args.getLast?.getD []))
    rw [replyTo_auth (hname.trans hauth), replyTo_auth hauth, if_pos rfl] at hreply
    by_contra hpassword
    rw [if_neg hpassword] at hreply
    revert hreply
    decide

/-! ## Deliveries -/

/-- `char::is_control`, the Unicode category `Cc`. -/
def isControl (c : Char) : Bool := c.toNat < 0x20 || (0x7f ≤ c.toNat && c.toNat < 0xa0)

/-- A word of a command: it is not empty, without blanks and control characters. -/
structure PlainWord (word : Text) : Prop where
  ne_nil : word ≠ []
  visible : ∀ c ∈ word, isWhitespace c = false ∧ isControl c = false

/-- A command as a client sends it. -/
structure SentCommand where
  name : Text
  args : List Text
  plain : ∀ word ∈ name :: args, PlainWord word

namespace SentCommand

/-- The command as an array of bulk strings. -/
def encode (command : SentCommand) : Bytes := redisArray (command.name :: command.args)

/-- The command as the simulation is to understand it. -/
def received (command : SentCommand) : RedisCommand :=
  ⟨toAsciiUppercase command.name, command.args⟩

end SentCommand

/-! ## Arrays of plain words -/

/-- A line without blanks that is not empty. -/
def Visible (line : Text) : Prop := line ≠ [] ∧ ∀ c ∈ line, isWhitespace c = false

theorem Visible.oneLine {line : Text} (h : Visible line) : OneLine line := oneLine_of_isWord h

theorem PlainWord.isVisible {word : Text} (h : PlainWord word) : Visible word :=
  ⟨h.ne_nil, fun c hc => (h.visible c hc).1⟩

theorem parseRedisCommand_encode (command : SentCommand)
    (h : command.encode.length ≤ 4096) :
    parseRedisCommand command.encode = .ok (some command.received) := by
  have hcapacity : (command.name :: command.args).length * STRING_SIZE < 2 ^ 63 := by
    have hcount := length_le_redisArray (command.name :: command.args)
    have hfits : (redisArray (command.name :: command.args)).length ≤ 4096 := h
    rw [STRING_SIZE]
    omega
  have hvalues : ∀ value ∈ command.name :: command.args, OneLine value := fun value hvalue =>
    (command.plain value hvalue).isVisible.oneLine
  have hlast : (command.name :: command.args).getLast? ≠ some [] := fun hnil =>
    (command.plain [] (List.mem_of_getLast? hnil)).ne_nil rfl
  exact (parse_redisArray_eq_some_iff hvalues hlast).mpr ⟨hcapacity, _, _, rfl, rfl⟩

/-! ## Reads and replies -/

/-- Commands sent one after the other, and the reads in which they arrive. -/
structure Delivery where
  commands : List SentCommand
  reads : List RedisRead
  delivered : reads.flatMap (·.val) = commands.flatMap SentCommand.encode

/-- Each command is answered, in order, whatever is configured. -/
def AnsweredInOrder (d : Delivery) : Prop :=
  ∀ (ctx : RedisSimulationContext) (peer : SocketAddr),
    written ((handleRedisConnection ctx peer).run d.reads).1 = redisBanner ctx.config ++
      repliesInOrder ctx.config (!ctx.config.requireAuth.getD false)
        (d.commands.map SentCommand.received)

/-- The reads up to the one that ends the connection, if any does. -/
def answeredReads (reads : List RedisRead) : List RedisRead :=
  reads.takeWhile fun payload => (parseRedisCommand payload).isOk

/-- The read, taken alone, is the command. -/
def IsCommand (command : RedisCommand) (payload : RedisRead) : Prop :=
  ∃ parsed, parseRedisCommand payload = .ok (some parsed) ∧ Alike command parsed

/-- With this configuration, the reply to the read is one to the command. -/
def RepliesTo (config : SimRedisConfig) (command : RedisCommand) (payload : RedisRead) : Prop :=
  ∃ parsed, parseRedisCommand payload = .ok parsed ∧
    ∃ authed authed', replyToParsed config parsed authed = replyTo config command authed'

theorem forall₂_of_readReplies {config : SimRedisConfig} {authed authed' : Bool}
    {commands : List RedisCommand} {reads : List RedisRead}
    (h : readReplies config authed reads = repliesInOrder config authed' commands) :
    List.Forall₂ (RepliesTo config) commands (answeredReads reads) := by
  induction reads generalizing authed authed' commands with
  | nil =>
    cases commands with
    | nil => exact .nil
    | cons command commands => simp [readReplies, repliesInOrder] at h
  | cons payload reads ih =>
    cases hparse : parseRedisCommand payload with
    | error panic =>
      rw [readReplies, hparse] at h
      cases commands with
      | nil =>
        rw [answeredReads, List.takeWhile_cons_of_neg
          (by simp [hparse, Except.isOk, Except.toBool])]
        exact .nil
      | cons command commands => simp [repliesInOrder] at h
    | ok parsed =>
      rw [answeredReads, List.takeWhile_cons_of_pos (by simp [hparse, Except.isOk, Except.toBool])]
      cases commands with
      | nil => cases parsed <;> simp [readReplies, hparse, repliesInOrder] at h
      | cons command commands =>
        cases parsed with
        | none =>
          rw [readReplies, hparse] at h
          obtain ⟨hreply, hrest⟩ := List.cons.inj h
          exact .cons ⟨none, hparse, authed, authed', hreply⟩ (ih hrest)
        | some parsed =>
          rw [readReplies, hparse] at h
          obtain ⟨hreply, hrest⟩ := List.cons.inj h
          exact .cons ⟨some parsed, hparse, authed, authed', hreply⟩ (ih hrest)

theorem readReplies_of_forall₂ {config : SimRedisConfig} {authed : Bool}
    {commands : List RedisCommand} {reads : List RedisRead}
    (h : List.Forall₂ IsCommand commands (answeredReads reads)) :
    readReplies config authed reads = repliesInOrder config authed commands := by
  induction reads generalizing authed commands with
  | nil =>
    cases h
    rfl
  | cons payload reads ih =>
    cases hparse : parseRedisCommand payload with
    | error panic =>
      rw [answeredReads, List.takeWhile_cons_of_neg
        (by simp [hparse, Except.isOk, Except.toBool])] at h
      cases h
      rw [readReplies, hparse]
      rfl
    | ok parsed =>
      rw [answeredReads, List.takeWhile_cons_of_pos
        (by simp [hparse, Except.isOk, Except.toBool])] at h
      cases h with
      | cons hcommand hrest =>
        obtain ⟨found, hfound, halike⟩ := hcommand
        obtain rfl : parsed = some found := Except.ok.inj (hparse.symm.trans hfound)
        rw [readReplies, hparse, repliesInOrder]
        simp only [redisResponseForCommand_of_alike halike, ih hrest]

theorem forall₂_of_aligned {commands : List SentCommand} {reads : List RedisRead}
    (h : reads.map (·.val) = commands.map SentCommand.encode) :
    List.Forall₂ IsCommand (commands.map SentCommand.received) (answeredReads reads) := by
  induction reads generalizing commands with
  | nil =>
    obtain rfl : commands = [] := by simpa using h
    exact .nil
  | cons payload reads ih =>
    cases commands with
    | nil => simp at h
    | cons command commands =>
      obtain ⟨hhead, hrest⟩ := List.cons.inj h
      have hpayload : payload.val = command.encode := hhead
      have hparse : parseRedisCommand payload = .ok (some command.received) := by
        have hlength := payload.property.2
        rw [hpayload] at hlength ⊢
        exact parseRedisCommand_encode command hlength
      rw [answeredReads, List.takeWhile_cons_of_pos (by simp [hparse, Except.isOk, Except.toBool])]
      exact .cons ⟨_, hparse, alike_refl _⟩ (ih hrest)

/-- Commands that each arrive in a read of their own are answered in order. -/
theorem answeredInOrder_of_aligned {d : Delivery}
    (h : d.reads.map (·.val) = d.commands.map SentCommand.encode) : AnsweredInOrder d := by
  intro ctx peer
  rw [written_handleRedisConnection, readReplies_of_forall₂ (forall₂_of_aligned h)]

theorem isCommand_of_repliesTo {command : RedisCommand} {payload : RedisRead}
    (hupper : UpperCase command) (h : ∀ config, RepliesTo config command payload) :
    IsCommand command payload := by
  obtain ⟨parsed, hparse, -⟩ := h plainConfig
  have hreplies (config : SimRedisConfig) :
      ∃ authed authed', replyToParsed config parsed authed = replyTo config command authed' := by
    obtain ⟨found, hfound, hreply⟩ := h config
    obtain rfl : parsed = found := Except.ok.inj (hparse.symm.trans hfound)
    exact hreply
  cases parsed with
  | none =>
    obtain ⟨authed, authed', hreply⟩ := hreplies (markedConfig command "x")
    rw [replyTo_marked (marked_self command)] at hreply
    exact absurd hreply (redisError_ne_redisBulk _ _)
  | some parsed => exact ⟨parsed, hparse,
    alike_of_replies hupper (upperCase_of_parse hparse) hreplies⟩

/-- One command that arrives in two reads. -/
def splitPing : Delivery where
  commands := [⟨"PING", [], by simpa using ⟨by decide, by simp [isWhitespace, isControl]⟩⟩]
  reads := [⟨utf8Encode "*1\r\n", by decide +kernel⟩,
    ⟨utf8Encode "$4\r\nPING\r\n", by decide +kernel⟩]
  delivered := by decide +kernel

/-- Its first read is refused as a command, and the rest is taken for another one. -/
theorem splitPing_not_answeredInOrder : ¬ AnsweredInOrder splitPing := by
  intro h
  have hheader : parseRedisCommand (utf8Encode "*1\r\n") = .ok none := by
    unfold parseRedisCommand
    rw [utf8Decode_utf8Encode]
    rfl
  have hrest : parseRedisCommand (utf8Encode "$4\r\nPING\r\n") = .ok (some ⟨"$4", ["PING"]⟩) := by
    unfold parseRedisCommand
    rw [utf8Decode_utf8Encode]
    rfl
  have hwritten := h ⟨[], [], 6379, plainConfig⟩ ⟨[], 0⟩
  rw [written_handleRedisConnection] at hwritten
  have hreplies := List.append_cancel_left hwritten
  rw [splitPing, readReplies, hheader, readReplies, hrest] at hreplies
  have hlength := congrArg List.length hreplies
  simp [readReplies, repliesInOrder] at hlength

/-- The replies are those to the commands exactly if each read, taken alone, is one of them. -/
theorem answeredInOrder_iff (d : Delivery) :
    AnsweredInOrder d ↔ List.Forall₂ IsCommand (d.commands.map SentCommand.received)
      (answeredReads d.reads) := by
  constructor
  · intro h
    have hreplies (config : SimRedisConfig) :
        List.Forall₂ (RepliesTo config) (d.commands.map SentCommand.received)
          (answeredReads d.reads) := by
      have hwritten := h ⟨[], [], 6379, config⟩ ⟨[], 0⟩
      rw [written_handleRedisConnection] at hwritten
      exact forall₂_of_readReplies (List.append_cancel_left hwritten)
    obtain ⟨hlength, -⟩ := List.forall₂_iff_get.mp (hreplies plainConfig)
    refine List.forall₂_iff_get.mpr ⟨hlength, fun i hcommand hread => ?_⟩
    apply isCommand_of_repliesTo
    · rw [List.get_eq_getElem, List.getElem_map]
      exact toAsciiUppercase_toAsciiUppercase _
    · intro config
      exact (List.forall₂_iff_get.mp (hreplies config)).2 i hcommand hread
  · intro h ctx peer
    rw [written_handleRedisConnection, readReplies_of_forall₂ h]

end ProtocolSimulation.Engine
