import ProtocolSimulation.RedisDeliveries
import ProtocolSimulation.Resp

/-!
# Replies of the Redis simulation

Each reply is one value, whatever the client sent and the rule holds. What the
parser lets through has no line feed, so a name that is sent back does not end
the line it is in, and all other texts are sent with their lengths.
-/
namespace ProtocolSimulation.Engine

open ProtocolSimulation.Texts ProtocolSimulation.Framing

/-- The bytes are what is written of a value, and nothing else. -/
def IsReply (bytes : Bytes) : Prop := ∃ value : Resp.Value, value.Valid ∧ bytes = Resp.write value

theorem IsReply.read {bytes : Bytes} (h : IsReply bytes) :
    ∃ value, Resp.read bytes = some (value, []) := by
  obtain ⟨value, hvalid, rfl⟩ := h
  have hread := (Resp.readsBack hvalid).read_append []
  rw [List.append_nil] at hread
  exact ⟨value, hread⟩

/-! ## Kinds of replies -/

theorem redisSimple_eq_write (value : Text) :
    redisSimple value = Resp.write (.simple (utf8Encode value)) := by
  rw [redisSimple, utf8Encode_append, utf8Encode_append]
  rfl

theorem redisError_eq_write (value : Text) :
    redisError value = Resp.write (.error (utf8Encode value)) := by
  rw [redisError, utf8Encode_append, utf8Encode_append]
  rfl

theorem redisBulk_eq_write (value : Text) :
    redisBulk value = Resp.writeBulk (utf8Encode value) := by
  rw [redisBulk, utf8Encode_append, utf8Encode_append, utf8Encode_append, utf8Encode_append,
    Resp.writeBulk, Resp.writeCount]
  rfl

theorem redisArray_eq_write (values : List Text) :
    redisArray values = Resp.write (.array (values.map utf8Encode)) := by
  have hbulks : redisBulk = fun value => Resp.writeBulk (utf8Encode value) :=
    funext redisBulk_eq_write
  rw [redisArray, hbulks, Resp.write, List.flatMap_map, List.length_map, utf8Encode_append,
    utf8Encode_append]
  rfl

theorem isReply_redisSimple {value : Text} (h : '\n' ∉ value) : IsReply (redisSimple value) :=
  ⟨.simple (utf8Encode value), newline_notMem_utf8Encode h, redisSimple_eq_write value⟩

theorem isReply_redisError {value : Text} (h : '\n' ∉ value) : IsReply (redisError value) :=
  ⟨.error (utf8Encode value), newline_notMem_utf8Encode h, redisError_eq_write value⟩

theorem isReply_redisBulk (value : Text) : IsReply (redisBulk value) :=
  ⟨.bulk _, trivial, redisBulk_eq_write value⟩

theorem isReply_redisArray (values : List Text) : IsReply (redisArray values) :=
  ⟨.array _, trivial, redisArray_eq_write values⟩

theorem isReply_redisNil : IsReply redisNil := ⟨.nil, trivial, rfl⟩

/-! ## Every reply -/

theorem isReply_ite {c : Prop} [Decidable c] {response other : (Bytes × Text) × Bool}
    (h : c → IsReply response.1.1) (h' : ¬ c → IsReply other.1.1) :
    IsReply (if c then response else other).1.1 := by
  by_cases hc : c
  · rw [if_pos hc]
    exact h hc
  · rw [if_neg hc]
    exact h' hc

theorem isReply_of_custom {config : SimRedisConfig} {command : RedisCommand} {custom : Bytes × Text}
    (h : redisCustomResponse config command = some custom) : IsReply custom.1 := by
  unfold redisCustomResponse at h
  obtain ⟨responses, -, h⟩ := Option.bind_eq_some_iff.mp h
  obtain ⟨response, -, h⟩ := Option.bind_eq_some_iff.mp h
  obtain rfl := Option.some.inj h
  exact isReply_redisBulk response.response

theorem isReply_replyTo {command : RedisCommand} (h : '\n' ∉ command.name) (config : SimRedisConfig)
    (authed : Bool) : IsReply (replyTo config command authed) := by
  unfold replyTo redisResponseForCommand
  cases hcustom : redisCustomResponse config command with
  | some custom => exact isReply_of_custom hcustom
  | none =>
    dsimp only
    apply isReply_ite (fun _ => isReply_redisError (by decide)) fun _ => ?_
    apply isReply_ite (fun _ => ?_) fun _ => ?_
    · cases command.args.head? with
      | none => exact isReply_redisSimple (by decide)
      | some value => exact isReply_redisBulk value
    apply isReply_ite (fun _ => ?_) fun _ => ?_
    · apply isReply_ite (fun _ => isReply_redisSimple (by decide)) fun _ => ?_
      exact isReply_ite (fun _ => isReply_redisSimple (by decide)) fun _ =>
        isReply_redisError (by decide)
    apply isReply_ite (fun _ => isReply_redisBulk _) fun _ => ?_
    apply isReply_ite (fun _ => isReply_redisError (by decide)) fun _ => ?_
    apply isReply_ite (fun _ => isReply_redisArray _) fun _ => ?_
    apply isReply_ite (fun _ => ?_) fun _ => ?_
    · cases command.args.head?.bind fun key => config.keys.bind fun items => items.get key with
      | none => exact isReply_redisNil
      | some value => exact isReply_redisBulk value
    apply isReply_ite (fun _ => isReply_redisSimple (by decide)) fun _ => ?_
    apply isReply_ite (fun _ => isReply_redisError (by decide)) fun _ => ?_
    -- the name of the command is sent back in a line
    apply isReply_redisError
    simp [h]

theorem exists_values_of_readReplies (config : SimRedisConfig) (authed : Bool)
    (reads : List RedisRead) :
    ∃ values : List Resp.Value, (∀ value ∈ values, value.Valid) ∧
      readReplies config authed reads = values.map Resp.write := by
  induction reads generalizing authed with
  | nil => exact ⟨[], by simp, rfl⟩
  | cons payload reads ih =>
    rw [readReplies]
    cases hparse : parseRedisCommand payload with
    | error panic => exact ⟨[], by simp, rfl⟩
    | ok parsed =>
      cases parsed with
      | none =>
        obtain ⟨value, hvalid, hvalue⟩ :
            IsReply (redisError "ERR Protocol error: invalid request") :=
          isReply_redisError (by decide)
        obtain ⟨values, hrest, hvalues⟩ := ih authed
        refine ⟨value :: values, by simpa using ⟨hvalid, hrest⟩, ?_⟩
        rw [List.map_cons, ← hvalue, ← hvalues]
      | some command =>
        have hname := (oneLine_of_parse hparse command.name List.mem_cons_self).newline
        obtain ⟨value, hvalid, hvalue⟩ := isReply_replyTo hname config authed
        obtain ⟨values, hrest, hvalues⟩ := ih (redisResponseForCommand config command authed).2
        refine ⟨value :: values, by simpa using ⟨hvalid, hrest⟩, ?_⟩
        rw [List.map_cons, ← hvalue, ← hvalues]
        rfl

/-- What a connection writes after its banner is one value for every read that is answered. -/
theorem readAll_readReplies (config : SimRedisConfig) (authed : Bool) (reads : List RedisRead) :
    ∃ values, readAll Resp.read (readReplies config authed reads).flatten = some values ∧
      (readReplies config authed reads) = values.map Resp.write := by
  obtain ⟨values, hvalid, hvalues⟩ := exists_values_of_readReplies config authed reads
  refine ⟨values, ?_, hvalues⟩
  rw [hvalues, ← List.flatMap_def]
  exact readAll_flatMap fun value hvalue => Resp.readsBack (hvalid value hvalue)

/-! ## Stored values -/

theorem replyTo_stored {config : SimRedisConfig} {command : RedisCommand} {authed : Bool}
    (hcustom : redisCustomResponse config command = none)
    (hauth : (config.requireAuth.getD false && !authed) = false) :
    (command.name = "GET" → replyTo config command authed = (((command.args.head?.bind fun key =>
        config.keys.bind fun items => items.get key).map redisBulk).getD redisNil)) ∧
      (command.name = "KEYS" → replyTo config command authed =
        redisArray ((config.keys.map BTreeMap.keys).getD [])) := by
  unfold replyTo redisResponseForCommand
  rw [hcustom]
  simp only [hauth, Bool.false_and, Bool.false_eq_true, if_false]
  constructor
  · intro hname
    rw [hname, if_neg (by decide), if_neg (by decide), if_neg (by decide), if_neg (by decide),
      if_neg (by decide), if_pos rfl]
  · intro hname
    rw [hname, if_neg (by decide), if_neg (by decide), if_neg (by decide), if_neg (by decide),
      if_pos rfl]

theorem read_of_replyTo {config : SimRedisConfig} {command : RedisCommand} {authed : Bool}
    {v : Resp.Value} (hvalid : v.Valid) (h : replyTo config command authed = Resp.write v) :
    Resp.read (redisResponseForCommand config command authed).1.1 = some (v, []) := by
  have hread := (Resp.readsBack hvalid).read_append []
  rw [List.append_nil, ← h] at hread
  exact hread

/-- Every reply to a command of the parser is one value, and stored keys and values come back as
they are stored. -/
theorem replies_decode {input : Bytes} {command : RedisCommand}
    (hparse : parseRedisCommand input = .ok (some command)) (config : SimRedisConfig)
    (authed : Bool) :
    (∃ value, Resp.read (redisResponseForCommand config command authed).1.1 = some (value, [])) ∧
      (redisCustomResponse config command = none →
        (config.requireAuth.getD false && !authed) = false →
        (∀ items key value, command.name = "GET" → command.args.head? = some key →
          config.keys = some items → items.get key = some value →
          Resp.read (redisResponseForCommand config command authed).1.1 =
            some (.bulk (utf8Encode value), [])) ∧
        (command.name = "KEYS" →
          Resp.read (redisResponseForCommand config command authed).1.1 =
            some (.array (((config.keys.map BTreeMap.keys).getD []).map utf8Encode), []))) := by
  constructor
  · have hname := (oneLine_of_parse hparse command.name List.mem_cons_self).newline
    exact (isReply_replyTo hname config authed).read
  · intro hcustom hauth
    have hstored := replyTo_stored hcustom hauth
    constructor
    · intro items key value hname hkey hitems hget
      have hreply := hstored.1 hname
      rw [hkey, hitems, Option.bind_some, Option.bind_some, hget, Option.map_some,
        Option.getD_some, redisBulk_eq_write] at hreply
      exact read_of_replyTo (v := .bulk (utf8Encode value)) trivial hreply
    · intro hname
      have hreply := hstored.2 hname
      rw [redisArray_eq_write] at hreply
      exact read_of_replyTo trivial hreply

theorem replies_decode_get :
    (∃ value, Resp.read (redisResponseForCommand (keyConfig "k") ⟨"GET", ["k"]⟩ false).1.1 =
        some (value, [])) ∧
      Resp.read (redisResponseForCommand (keyConfig "k") ⟨"GET", ["k"]⟩ false).1.1 =
        some (.bulk (utf8Encode "x"), []) := by
  have hparse : parseRedisCommand (utf8Encode "get k\r\n") = .ok (some ⟨"GET", ["k"]⟩) := rfl
  obtain ⟨hone, hstored⟩ := replies_decode hparse (keyConfig "k") false
  exact ⟨hone, (hstored rfl rfl).1 _ "k" "x" rfl rfl rfl rfl⟩

end ProtocolSimulation.Engine
