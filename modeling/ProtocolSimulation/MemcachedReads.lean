import ProtocolSimulation.Framing
import ProtocolSimulation.Memcached

/-!
# Memcached commands and the reads they arrive in

The network cuts the commands of a client into reads wherever it likes. What is
written depends on the complete lines of the whole stream only, as long as what
is pending stays below the limit.
-/
namespace ProtocolSimulation.Engine.Memcached

open ProtocolSimulation.Texts ProtocolSimulation.Conversations ProtocolSimulation.Framing
open ProtocolSimulation.RuntimeEvents

/-- The reply to a line, if it is not blank. -/
def lineReply (config : SimMemcachedConfig) (line : Bytes) : Option Bytes :=
  let command := fromUtf8Lossy line
  if (trim command).isEmpty then none else some (utf8Encode (responseFor command config))

/-- The lines of a stream that have an end. -/
def completeLines (stream : Bytes) : List Bytes := (cut (· == 10) stream).1

/-- The replies to all complete lines that are not blank. -/
def lineReplies (config : SimMemcachedConfig) (stream : Bytes) : List Bytes :=
  (completeLines stream).filterMap (lineReply config)

/-! ## One read -/

theorem serveLines_of_none (ctx : Context) (peer : SocketAddr) {pending : Bytes} (commands : ℕ)
    (h : pending.findIdx? (· == 10) = none) :
    serveLines ctx peer pending commands = Talk.ret (.inl (pending, commands)) := by
  rw [serveLines]
  split
  · rfl
  · simp_all

theorem serveLines_of_some (ctx : Context) (peer : SocketAddr) {pending : Bytes}
    {lineEnd : ℕ} (commands : ℕ) (h : pending.findIdx? (· == 10) = some lineEnd) :
    serveLines ctx peer pending commands =
      if (trim (fromUtf8Lossy (pending.take (lineEnd + 1)))).isEmpty then
        serveLines ctx peer (pending.drop (lineEnd + 1)) commands
      else (do
        let command := fromUtf8Lossy (pending.take (lineEnd + 1))
        Talk.emit (.wrote (utf8Encode (responseFor command ctx.config)))
        Talk.emit (.reported ⟨commandDraft ctx peer command, none⟩)
        if 32 ≤ commands + 1 then return .inr ()
        else serveLines ctx peer (pending.drop (lineEnd + 1)) (commands + 1)) := by
  rw [serveLines]
  split
  · simp_all
  · rename_i found hfound
    obtain rfl : found = lineEnd := Option.some.inj (hfound.symm.trans h)
    rfl

/-- How the round goes on when so many commands were answered. -/
def nextSession (pending : Bytes) (commands : ℕ) : (Bytes × ℕ) ⊕ Unit :=
  if commands < 32 then .inl ((cut (· == 10) pending).2, commands) else .inr ()

theorem run_answer {α : Type} (response : Bytes) (queued : QueuedLog)
    (next : Talk Read (Output Bytes) α) (input : List Read) :
    (do
      Talk.emit (.wrote response)
      Talk.emit (.reported queued)
      next : Talk Read (Output Bytes) α).run input =
      (.wrote response :: .reported queued :: (next.run input).1, (next.run input).2) := rfl

theorem lineReplies_of_some (config : SimMemcachedConfig) {pending : Bytes} {lineEnd : ℕ}
    (h : pending.findIdx? (· == 10) = some lineEnd) :
    lineReplies config pending = (lineReply config (pending.take (lineEnd + 1))).toList ++
      lineReplies config (pending.drop (lineEnd + 1)) := by
  have hlines : completeLines pending =
      pending.take (lineEnd + 1) :: completeLines (pending.drop (lineEnd + 1)) := by
    rw [completeLines, cut_of_findIdx? h]
    rfl
  rw [lineReplies, hlines, List.filterMap_cons]
  cases lineReply config (pending.take (lineEnd + 1)) <;> rfl

theorem nextSession_of_some {pending : Bytes} {lineEnd : ℕ}
    (h : pending.findIdx? (· == 10) = some lineEnd) (commands : ℕ) :
    nextSession pending commands = nextSession (pending.drop (lineEnd + 1)) commands := by
  rw [nextSession, cut_of_findIdx? h]
  rfl

theorem lineReplies_of_none (config : SimMemcachedConfig) {pending : Bytes}
    (h : ∀ byte ∈ pending, (byte == 10) = false) : lineReplies config pending = [] := by
  rw [lineReplies, completeLines, cut_of_none h]
  rfl

theorem run_serveLines (ctx : Context) (peer : SocketAddr) (pending : Bytes) {commands : ℕ}
    (hcommands : commands < 32) (input : List Read) :
    ∃ outs, (serveLines ctx peer pending commands).run input =
        (outs, some (nextSession pending
          (commands + (lineReplies ctx.config pending).length), input)) ∧
      written outs = (lineReplies ctx.config pending).take (32 - commands) := by
  induction hlength : pending.length using Nat.strong_induction_on
    generalizing pending commands with
  | _ n ih =>
    cases hfind : pending.findIdx? (· == 10) with
    | none =>
      have hnone := List.findIdx?_eq_none_iff.mp hfind
      rw [serveLines_of_none ctx peer commands hfind, lineReplies_of_none ctx.config hnone,
        nextSession, cut_of_none hnone]
      exact ⟨[], by simp [hcommands], List.take_nil.symm⟩
    | some lineEnd =>
      have hshorter : (pending.drop (lineEnd + 1)).length < n := by
        have hlt := lt_length_of_findIdx? hfind
        rw [List.length_drop]
        omega
      rw [serveLines_of_some ctx peer commands hfind, lineReplies_of_some ctx.config hfind,
        nextSession_of_some hfind]
      by_cases hblank : (trim (fromUtf8Lossy (pending.take (lineEnd + 1)))).isEmpty = true
      · have hreply : lineReply ctx.config (pending.take (lineEnd + 1)) = none := if_pos hblank
        rw [if_pos hblank, hreply, Option.toList_none, List.nil_append]
        exact ih _ hshorter _ hcommands rfl
      · have hreply : lineReply ctx.config (pending.take (lineEnd + 1)) = some _ := if_neg hblank
        rw [if_neg hblank, hreply, Option.toList_some, List.singleton_append, List.length_cons]
        by_cases hlast : 32 ≤ commands + 1
        · obtain rfl : commands = 31 := by omega
          rw [if_pos hlast, run_answer, nextSession, if_neg (by omega)]
          exact ⟨_, rfl, rfl⟩
        · obtain ⟨outs, hrun, hwritten⟩ := ih _ hshorter (pending.drop (lineEnd + 1))
            (show commands + 1 < 32 by omega) rfl
          rw [if_neg hlast, run_answer, hrun, Nat.add_right_comm, Nat.add_assoc]
          refine ⟨_, rfl, ?_⟩
          rw [show 32 - commands = 32 - (commands + 1) + 1 by omega, List.take_succ_cons,
            written_wrote, written_reported, hwritten]

/-! ## All reads -/

/-- What a connection is sent. -/
def stream (reads : List Read) : Bytes := reads.flatMap (·.val)

theorem lineReplies_append (config : SimMemcachedConfig) (pending more : Bytes) :
    lineReplies config (pending ++ more) =
      lineReplies config pending ++ lineReplies config ((cut (· == 10) pending).2 ++ more) := by
  rw [lineReplies, completeLines, cut_append, List.filterMap_append]
  rfl

/-- From any point of a connection: what is pending has no line end, and the replies to come are
those to the lines that it begins, up to the limit. -/
theorem written_loop (ctx : Context) (peer : SocketAddr) {pending : Bytes} {commands : ℕ}
    {reads : List Read} (hpending : ∀ byte ∈ pending, (byte == 10) = false)
    (hcommands : commands < 32)
    (hdone : ((Talk.forEach (round ctx peer) (fun _ => ()) (pending, commands)).run reads).2 ≠
      none) :
    written ((Talk.forEach (round ctx peer) (fun _ => ()) (pending, commands)).run reads).1 =
      (lineReplies ctx.config (pending ++ stream reads)).take (32 - commands) := by
  induction reads generalizing pending commands with
  | nil =>
    rw [stream, List.flatMap_nil, List.append_nil, lineReplies_of_none ctx.config hpending,
      List.take_nil]
    rfl
  | cons chunk reads ih =>
    have hstream : pending ++ stream (chunk :: reads) = pending ++ chunk.val ++ stream reads := by
      rw [stream, List.flatMap_cons, List.append_assoc]
      rfl
    rw [Talk.run_forEach_cons, round] at hdone ⊢
    dsimp only at hdone ⊢
    by_cases hlimit : MAX_REQUEST_SIZE < (pending ++ chunk.val).length
    · rw [if_pos hlimit] at hdone
      exact absurd rfl hdone
    obtain ⟨outs, hrun, hwritten⟩ := run_serveLines ctx peer (pending ++ chunk.val) hcommands reads
    rw [if_neg hlimit, hrun] at hdone ⊢
    rw [hstream, lineReplies_append ctx.config (pending ++ chunk.val) (stream reads)]
    by_cases hmore : commands + (lineReplies ctx.config (pending ++ chunk.val)).length < 32
    · rw [nextSession, if_pos hmore] at hdone ⊢
      have hrest := ih (cut_rest _) hmore hdone
      dsimp only
      rw [written_append, hwritten, hrest, List.take_append, Nat.sub_sub]
    · rw [nextSession, if_neg hmore]
      have henough : 32 - commands ≤ (lineReplies ctx.config (pending ++ chunk.val)).length := by
        omega
      rw [List.take_append_of_le_length henough]
      exact hwritten

/-- Unless a connection is ended by the size limit, its replies are those to the first 32 complete
lines of its stream that are not blank. -/
theorem written_handle (ctx : Context) (peer : SocketAddr) {reads : List Read}
    (hdone : ((handle ctx peer).run reads).2 ≠ none) :
    written ((handle ctx peer).run reads).1 =
      (lineReplies ctx.config (stream reads)).take 32 :=
  written_loop ctx peer (List.forall_mem_nil _) (by omega) hdone

theorem loop_ends_of_short (ctx : Context) (peer : SocketAddr) {pending : Bytes} {commands : ℕ}
    {reads : List Read} (hcommands : commands < 32)
    (hshort : pending.length + (stream reads).length ≤ MAX_REQUEST_SIZE) :
    ((Talk.forEach (round ctx peer) (fun _ => ()) (pending, commands)).run reads).2 ≠ none := by
  induction reads generalizing pending commands with
  | nil => simp
  | cons chunk reads ih =>
    have hstream : (stream (chunk :: reads)).length = chunk.val.length + (stream reads).length := by
      rw [stream, List.flatMap_cons, List.length_append]
      rfl
    have hpending : (pending ++ chunk.val).length = pending.length + chunk.val.length :=
      List.length_append
    have hcut : (cut (· == 10) (pending ++ chunk.val)).2.length ≤ (pending ++ chunk.val).length :=
      cut_rest_length_le _
    obtain ⟨outs, hrun, -⟩ := run_serveLines ctx peer (pending ++ chunk.val) hcommands reads
    rw [Talk.run_forEach_cons, round]
    dsimp only
    rw [if_neg (by omega), hrun, nextSession]
    split_ifs with hmore
    · exact ih hmore (by omega)
    · simp

/-- The limit does not end a connection that is sent no more than it. -/
theorem handle_ends_of_short (ctx : Context) (peer : SocketAddr) {reads : List Read}
    (hshort : (stream reads).length ≤ MAX_REQUEST_SIZE) :
    ((handle ctx peer).run reads).2 ≠ none :=
  loop_ends_of_short ctx peer (by omega) (by simpa using hshort)

/-- However a stream is cut into reads, what is written is the same. -/
theorem replies_of_segmentation (ctx : Context) (peer : SocketAddr) {reads other : List Read}
    (hstream : stream reads = stream other) (hreads : ((handle ctx peer).run reads).2 ≠ none)
    (hother : ((handle ctx peer).run other).2 ≠ none) :
    written ((handle ctx peer).run reads).1 = written ((handle ctx peer).run other).1 ∧
      written ((handle ctx peer).run reads).1 =
        (lineReplies ctx.config (stream reads)).take 32 := by
  have hwritten := written_handle ctx peer hreads
  rw [written_handle ctx peer hother, hwritten, hstream]
  exact ⟨rfl, rfl⟩

def plainContext : Context := ⟨"rule", "node", 11211, ⟨none, none⟩⟩

def somePeer : SocketAddr := ⟨"192.0.2.1", 40000⟩

/-- A command in one read. -/
def wholeVersion : List Read := [⟨utf8Encode "version\r\n", by decide⟩]

/-- The same command in two reads. -/
def cutVersion : List Read := [⟨utf8Encode "vers", by decide⟩, ⟨utf8Encode "ion\r\n", by decide⟩]

theorem replies_of_segmentation_version :
    written ((handle plainContext somePeer).run wholeVersion).1 =
      written ((handle plainContext somePeer).run cutVersion).1 := by
  have hwhole : (stream wholeVersion).length ≤ MAX_REQUEST_SIZE := by decide
  have hcut : (stream cutVersion).length ≤ MAX_REQUEST_SIZE := by decide
  have hstream : stream wholeVersion = stream cutVersion := by decide
  exact (replies_of_segmentation plainContext somePeer hstream
    (handle_ends_of_short plainContext somePeer hwhole)
    (handle_ends_of_short plainContext somePeer hcut)).1

end ProtocolSimulation.Engine.Memcached
