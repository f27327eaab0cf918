import ProtocolSimulation.Fallible
import ProtocolSimulation.Redis
import ProtocolSimulation.Words

/-!
# Arrays of bulk strings

A command comes as an array of bulk strings, each with its length in front. The
simulation reads such an array line by line, so it understands what was sent
exactly if every value is one line that keeps its end.
-/
namespace ProtocolSimulation.Engine

open ProtocolSimulation.Texts ProtocolSimulation.Fallible ProtocolSimulation.Words

/-! ## Lines -/

/-- A value that is one line and does not end with white space. -/
structure OneLine (value : Text) : Prop where
  newline : '\n' ∉ value
  trimmed : ∀ c ∈ value.getLast?, isWhitespace c = false

theorem OneLine.trimEnd {value : Text} (h : OneLine value) : trimEnd value = value :=
  rdropWhile_eq_self h.trimmed

theorem oneLine_of_isWord {word : Text} (h : IsWord isWhitespace word) : OneLine word := by
  constructor
  · intro hnewline
    exact absurd (h.2 '\n' hnewline) (by decide)
  · exact fun c hc => h.2 c (List.mem_of_getLast? hc)

theorem toUpper_eq_newline {c : Char} : c.toUpper = '\n' ↔ c = '\n' := by
  induction c using char_of_ascii with
  | hascii n h => revert n; decide +kernel
  | hother c h => rw [toUpper_of_not_ascii h]

theorem oneLine_toAsciiUppercase_iff {value : Text} :
    OneLine (toAsciiUppercase value) ↔ OneLine value := by
  have hnewline : '\n' ∈ toAsciiUppercase value ↔ '\n' ∈ value := by
    simp [toAsciiUppercase, toUpper_eq_newline]
  have hlast : (toAsciiUppercase value).getLast? = value.getLast?.map Char.toUpper :=
    List.getLast?_map
  constructor
  · intro h
    refine ⟨fun hmem => h.newline (hnewline.mpr hmem), fun c hc => ?_⟩
    rw [← isWhitespace_toUpper]
    exact h.trimmed c.toUpper (by simpa [hlast] using ⟨c, hc, rfl⟩)
  · intro h
    refine ⟨fun hmem => h.newline (hnewline.mp hmem), fun c hc => ?_⟩
    rw [hlast] at hc
    obtain ⟨d, hd, rfl⟩ := Option.map_eq_some_iff.mp hc
    rw [isWhitespace_toUpper]
    exact h.trimmed d hd

theorem exists_of_mem_splitInclusive {α : Type} {isSep : α → Bool} {as piece : List α}
    (h : piece ∈ splitInclusive isSep as) :
    ∃ front, (∀ a ∈ front, isSep a = false) ∧
      (piece = front ∨ ∃ sep, isSep sep = true ∧ piece = front ++ [sep]) := by
  induction as generalizing piece with
  | nil => simp [splitInclusive] at h
  | cons a as ih =>
    rw [splitInclusive] at h
    cases hsep : isSep a with
    | true =>
      rw [if_pos hsep] at h
      cases h with
      | head => exact ⟨[], by simp, .inr ⟨a, hsep, rfl⟩⟩
      | tail _ h => exact ih h
    | false =>
      rw [if_neg (by simp [hsep])] at h
      cases hrest : splitInclusive isSep as with
      | nil =>
        rw [hrest] at h
        exact ⟨[a], by simp [hsep], .inl (List.mem_singleton.mp h)⟩
      | cons next pieces =>
        rw [hrest] at h ih
        cases h with
        | head =>
          obtain ⟨front, hfront, hnext⟩ := ih List.mem_cons_self
          refine ⟨a :: front, by simpa [hsep] using hfront, ?_⟩
          simpa using hnext
        | tail _ h => exact ih (List.mem_cons_of_mem next h)

theorem newline_notMem_of_mem_lines {t line : Text} (h : line ∈ lines t) : '\n' ∉ line := by
  obtain ⟨piece, hpiece, rfl⟩ := List.mem_map.mp h
  obtain ⟨front, hfront, hpiece⟩ := exists_of_mem_splitInclusive hpiece
  have hnewline : '\n' ∉ front := fun hmem => absurd (hfront '\n' hmem) (by simp)
  obtain rfl | ⟨sep, hsep, rfl⟩ := hpiece
  · cases hstrip : stripSuffix "\n" piece with
    | none => exact hnewline
    | some rest =>
      rw [stripSuffix_eq_some_iff.mp hstrip] at hnewline
      simp at hnewline
  · have hstrip : stripSuffix "\n" (front ++ [sep]) = some front := by
      rw [beq_iff_eq.mp hsep]
      exact stripSuffix_eq_some_iff.mpr rfl
    simp only [hstrip]
    cases hreturn : stripSuffix "\r" front with
    | none => exact hnewline
    | some rest =>
      rw [stripSuffix_eq_some_iff.mp hreturn] at hnewline
      exact fun hmem => hnewline (List.mem_append_left _ hmem)

theorem oneLine_of_mem_lines {t line : Text} (h : line ∈ (lines t).map trimEnd) : OneLine line := by
  obtain ⟨whole, hwhole, rfl⟩ := List.mem_map.mp h
  constructor
  · intro hmem
    exact newline_notMem_of_mem_lines hwhole ((List.rdropWhile_prefix _ _).subset hmem)
  · exact fun c hc => of_mem_getLast?_rdropWhile hc

/-! ## What an array is parsed as -/

theorem withCapacity_eq_ok_iff {elementSize capacity : ℕ} :
    withCapacity elementSize capacity = .ok () ↔ capacity * elementSize < 2 ^ 63 := by
  unfold withCapacity
  split_ifs with h
  · exact iff_of_true rfl h
  · exact iff_of_false (by simp) h

/-- The steps of a parse that finds a command. -/
theorem arrayCommand_eq_some_iff {text : Text} {command : RedisCommand} :
    arrayCommand text = .ok (some command) ↔
      ∃ header rest arrayLen name args, (lines text).map trimEnd = header :: rest ∧
        (stripPrefix "*" header).bind parseUsize = some arrayLen ∧
        arrayLen * STRING_SIZE < 2 ^ 63 ∧ readBulks rest arrayLen = some (name :: args) ∧
        command = ⟨toAsciiUppercase name, args⟩ := by
  constructor
  · intro h
    unfold arrayCommand at h
    split at h
    · simp at h
    · rename_i header rest hlines
      split at h
      · simp at h
      · rename_i arrayLen hcount
        obtain ⟨_, hcapacity, h⟩ := bind_ok_iff.mp h
        split at h
        · rename_i name args hbulks
          obtain rfl := Option.some.inj (Except.ok.inj h)
          exact ⟨header, rest, arrayLen, name, args, hlines, hcount,
            withCapacity_eq_ok_iff.mp hcapacity, hbulks, rfl⟩
        · simp at h
  · rintro ⟨header, rest, arrayLen, name, args, hlines, hcount, hcapacity, hbulks, rfl⟩
    rw [arrayCommand, hlines]
    simp only [hcount, withCapacity_eq_ok_iff.mpr hcapacity, hbulks]
    rfl

theorem mem_of_readBulks {lines values : List Text} {n : ℕ} (h : readBulks lines n = some values)
    {value : Text} (hvalue : value ∈ values) : value ∈ lines := by
  induction lines, n using readBulks.induct generalizing values with
  | case1 lines => simp_all [readBulks]
  | case2 bulkHeader next lines n hbulk => simp_all [readBulks]
  | case3 bulkHeader next lines n hbulk ih =>
    rw [readBulks, if_neg hbulk] at h
    obtain ⟨rest, hrest, rfl⟩ := Option.map_eq_some_iff.mp h
    cases hvalue with
    | head => simp
    | tail _ hvalue => simp [ih hrest hvalue]
  | case4 lines n hshort => simp_all [readBulks]

theorem length_of_readBulks {lines values : List Text} {n : ℕ}
    (h : readBulks lines n = some values) :
    2 * n ≤ lines.length := by
  induction lines, n using readBulks.induct generalizing values with
  | case1 lines => simp
  | case2 bulkHeader next lines n hbulk => simp_all [readBulks]
  | case3 bulkHeader next lines n hbulk ih =>
    rw [readBulks, if_neg hbulk] at h
    obtain ⟨rest, hrest, rfl⟩ := Option.map_eq_some_iff.mp h
    have hlength := ih hrest
    simp only [List.length_cons]
    omega
  | case4 lines n hshort => simp_all [readBulks]

/-- A command consists of words or of bulk strings, and its name is put in upper case. -/
theorem parts_of_parse {input : Bytes} {command : RedisCommand}
    (h : parseRedisCommand input = .ok (some command)) :
    ∃ name args, command = ⟨toAsciiUppercase name, args⟩ ∧
      ∀ value ∈ name :: args, OneLine value := by
  unfold parseRedisCommand at h
  split at h
  · simp at h
  · dsimp only at h
    split_ifs at h
    · simp at h
    · replace h := Except.ok.inj h
      unfold inlineCommand at h
      split at h
      · simp at h
      · rename_i name args hwords
        refine ⟨name, args, (Option.some.inj h).symm, fun value hvalue => ?_⟩
        rw [← hwords] at hvalue
        exact oneLine_of_isWord (isWord_of_mem_words hvalue)
    · obtain ⟨header, rest, arrayLen, name, args, hlines, -, -, hbulks, hcommand⟩ :=
        arrayCommand_eq_some_iff.mp h
      refine ⟨name, args, hcommand, fun value hvalue => ?_⟩
      have hmem : value ∈ header :: rest :=
        List.mem_cons_of_mem header (mem_of_readBulks hbulks hvalue)
      rw [← hlines] at hmem
      exact oneLine_of_mem_lines hmem

/-- What the parser lets through is in one line. -/
theorem oneLine_of_parse {input : Bytes} {command : RedisCommand}
    (h : parseRedisCommand input = .ok (some command)) :
    ∀ value ∈ command.name :: command.args, OneLine value := by
  obtain ⟨name, args, rfl, hvalues⟩ := parts_of_parse h
  intro value hvalue
  cases hvalue with
  | head => exact oneLine_toAsciiUppercase_iff.mpr (hvalues name List.mem_cons_self)
  | tail _ hvalue => exact hvalues value (List.mem_cons_of_mem name hvalue)

/-! ## Arrays as lines -/

/-- The lines of bulk strings. -/
def bulkLines (values : List Text) : List Text :=
  values.flatMap fun value => [("$" : Text) ++ showNat (byteLen value), value]

theorem bulkLines_cons (value : Text) (values : List Text) :
    bulkLines (value :: values) =
      (("$" : Text) ++ showNat (byteLen value)) :: value :: bulkLines values := rfl

theorem flatMap_redisBulk (line : Text) (values : List Text) :
    utf8Encode (line ++ ("\r\n" : Text)) ++ values.flatMap redisBulk =
      utf8Encode (joinWith "\r\n" (line :: bulkLines values) ++ ("\r\n" : Text)) := by
  induction values generalizing line with
  | nil => simp [bulkLines, joinWith]
  | cons value values ih =>
    have hrest := ih value
    rw [bulkLines_cons, joinWith_cons_cons, joinWith_cons_cons, List.flatMap_cons, redisBulk]
    simp only [utf8Encode_append, List.append_assoc] at hrest ⊢
    rw [hrest]

theorem length_le_redisArray (values : List Text) : values.length ≤ (redisArray values).length := by
  have hbulks : values.length ≤ (values.flatMap redisBulk).length := by
    induction values with
    | nil => simp
    | cons value values ih =>
      have hpos : 0 < (redisBulk value).length := byteLen_pos_iff.mpr (List.cons_ne_nil '$' _)
      simp only [List.flatMap_cons, List.length_append, List.length_cons]
      omega
  rw [redisArray, List.length_append]
  omega

theorem readBulks_bulkLines (values : List Text) :
    readBulks (bulkLines values) values.length = some values := by
  induction values with
  | nil => rfl
  | cons value values ih =>
    have hprefix : stripPrefix ("$" : Text) (("$" : Text) ++ showNat (byteLen value)) =
        some (showNat (byteLen value)) := stripPrefix_eq_some_iff.mpr rfl
    rw [bulkLines_cons, List.length_cons, readBulks, hprefix, ih]
    rfl

/-- The lines of an array of bulk strings. -/
def arrayLines (values : List Text) : List Text :=
  (("*" : Text) ++ showNat values.length) :: bulkLines values

theorem redisArray_eq (values : List Text) : redisArray values =
    utf8Encode (joinWith "\r\n" (arrayLines values) ++ ("\r\n" : Text)) := by
  rw [redisArray, flatMap_redisBulk, arrayLines]

/-- A line that begins with a mark and has a number behind it. -/
theorem oneLine_cons_showNat {c : Char} (hc : isWhitespace c = false) (n : ℕ) :
    OneLine (c :: showNat n) := by
  apply oneLine_of_isWord
  constructor
  · exact List.cons_ne_nil c _
  · intro d hd
    cases hd with
    | head => exact hc
    | tail _ hd => exact isWhitespace_of_isDigit (showNat_isDigit hd)

theorem oneLine_of_mem_bulkLines {values : List Text} (h : ∀ value ∈ values, OneLine value)
    {line : Text} (hline : line ∈ bulkLines values) : OneLine line := by
  obtain ⟨value, hvalue, hline⟩ := List.mem_flatMap.mp hline
  obtain rfl | rfl := List.mem_pair.mp hline
  · exact oneLine_cons_showNat (by decide) _
  · exact h line hvalue

theorem getLast?_joinWith {sep : Text} {pieces : List Text} {last : Text}
    (h : pieces.getLast? = some last) (hne : last ≠ []) :
    (joinWith sep pieces).getLast? = last.getLast? := by
  induction pieces with
  | nil => simp at h
  | cons piece pieces ih =>
    cases pieces with
    | nil => simp_all [joinWith]
    | cons next pieces =>
      have hrest := ih h
      have hjoined : joinWith sep (next :: pieces) ≠ [] := by
        intro hnil
        rw [hnil] at hrest
        exact hne (List.getLast?_eq_none_iff.mp hrest.symm)
      rw [joinWith_cons_cons, ← List.append_assoc, List.getLast?_append_of_ne_nil _ hjoined, hrest]

theorem isWhitespace_of_isLineEnd {c : Char} (h : isLineEnd c = true) : isWhitespace c = true := by
  have hc : c = '\r' ∨ c = '\n' := by simpa [isLineEnd] using h
  obtain rfl | rfl := hc
  · rfl
  · rfl

theorem not_isLineEnd {c : Char} (h : isWhitespace c = false) : isLineEnd c = false := by
  by_contra hend
  rw [isWhitespace_of_isLineEnd (by simpa using hend)] at h
  exact Bool.noConfusion h

/-- The text of an array whose header says that it has `n` values. -/
def arrayText (n : ℕ) (pieces : List Text) : Text :=
  joinWith "\r\n" ((("*" : Text) ++ showNat n) :: pieces)

section ArrayText

variable {n : ℕ} {pieces : List Text} (hpieces : ∀ piece ∈ pieces, OneLine piece)
  (hlast : ∀ last ∈ pieces.getLast?, last ≠ [])

include hpieces in
theorem oneLine_of_mem_header_cons :
    ∀ piece ∈ (("*" : Text) ++ showNat n) :: pieces, OneLine piece := by
  simpa using ⟨oneLine_cons_showNat (by decide) n, hpieces⟩

include hlast in
theorem last_ne_of_header_cons :
    ∀ last ∈ ((("*" : Text) ++ showNat n) :: pieces).getLast?, last ≠ [] := by
  cases pieces with
  | nil => simp
  | cons next rest => exact hlast

include hpieces hlast

theorem lines_arrayText :
    (lines (arrayText n pieces)).map trimEnd = (("*" : Text) ++ showNat n) :: pieces := by
  have hall := oneLine_of_mem_header_cons (n := n) hpieces
  rw [arrayText, lines_joinWith (fun piece hpiece => (hall piece hpiece).newline)
    (last_ne_of_header_cons hlast)]
  exact (List.map_congr_left fun piece hpiece => (hall piece hpiece).trimEnd).trans (List.map_id _)

theorem parseRedisCommand_arrayText {tail : Text} (htail : ∀ c ∈ tail, isLineEnd c = true) :
    parseRedisCommand (utf8Encode (arrayText n pieces ++ tail)) =
      arrayCommand (arrayText n pieces) := by
  obtain ⟨rest, hstart⟩ : ∃ rest, arrayText n pieces = '*' :: rest := by
    cases pieces with
    | nil => exact ⟨_, List.append_nil _⟩
    | cons next rest => exact ⟨_, joinWith_cons_cons _ _ _ _⟩
  have htext : trimMatches isLineEnd (arrayText n pieces ++ tail) = arrayText n pieces := by
    have hsome := List.getLast?_eq_some_getLast
      (List.cons_ne_nil (("*" : Text) ++ showNat n) pieces)
    have hne := last_ne_of_header_cons hlast _ hsome
    have hend := List.getLast?_eq_some_getLast hne
    have hline := oneLine_of_mem_header_cons hpieces _ (List.mem_of_getLast? hsome)
    have hsolid := hline.trimmed _ hend
    exact trimMatches_append (c := '*') (by rw [hstart]; rfl) (by decide)
      ((getLast?_joinWith hsome hne).trans hend) (not_isLineEnd hsolid) htail
  have hstrip : stripPrefix "*" ('*' :: rest) = some rest := stripPrefix_eq_some_iff.mpr rfl
  unfold parseRedisCommand
  rw [utf8Decode_utf8Encode]
  simp only [htext]
  rw [hstart, hstrip]
  rfl

theorem parse_arrayText_eq_some_iff {tail : Text} (htail : ∀ c ∈ tail, isLineEnd c = true)
    {command : RedisCommand} :
    parseRedisCommand (utf8Encode (arrayText n pieces ++ tail)) = .ok (some command) ↔
      n * STRING_SIZE < 2 ^ 63 ∧ ∃ name args, readBulks pieces n = some (name :: args) ∧
        command = ⟨toAsciiUppercase name, args⟩ := by
  have hheader : stripPrefix "*" (("*" : Text) ++ showNat n) = some (showNat n) :=
    stripPrefix_eq_some_iff.mpr rfl
  rw [parseRedisCommand_arrayText hpieces hlast htail, arrayCommand_eq_some_iff,
    lines_arrayText hpieces hlast]
  constructor
  · rintro ⟨header, rest, arrayLen, name, args, hlines, hcount, hcapacity, hbulks, rfl⟩
    obtain ⟨rfl, rfl⟩ := List.cons.inj hlines
    rw [hheader, Option.bind_some, parseUsize_showNat_eq] at hcount
    obtain ⟨-, hcount⟩ := Option.ite_none_right_eq_some.mp hcount
    obtain rfl := Option.some.inj hcount
    exact ⟨hcapacity, name, args, hbulks, rfl⟩
  · rintro ⟨hcapacity, name, args, hbulks, rfl⟩
    have hsmall : n < 2 ^ 64 := by
      rw [STRING_SIZE] at hcapacity
      omega
    refine ⟨_, pieces, n, name, args, rfl, ?_, hcapacity, hbulks, rfl⟩
    rw [hheader, Option.bind_some, parseUsize_showNat hsmall]

end ArrayText

/-! ## Arrays that are read back -/

theorem joinWith_concat_nil (sep piece : Text) (pieces : List Text) :
    joinWith sep (piece :: pieces ++ [[]]) = joinWith sep (piece :: pieces) ++ sep := by
  induction pieces generalizing piece with
  | nil => simp [joinWith]
  | cons next pieces ih =>
    have hrest := ih next
    rw [List.cons_append] at hrest
    rw [List.cons_append, List.cons_append, joinWith_cons_cons, hrest, joinWith_cons_cons,
      List.append_assoc, List.append_assoc]

theorem getLast?_bulkLines (values : List Text) :
    ∀ last ∈ (bulkLines values).getLast?, values.getLast? = some last := by
  cases values using List.reverseRecOn with
  | nil => simp [bulkLines]
  | append_singleton values value => simp [bulkLines]

/-- An array whose last value is empty is not understood. -/
theorem parseRedisCommand_last_nil {values : List Text} (h : ∀ value ∈ values, OneLine value)
    (command : RedisCommand) :
    parseRedisCommand (redisArray (values ++ [[]])) ≠ .ok (some command) := by
  intro hparse
  have hzero : bulkLines [[]] = [("$0" : Text), []] := rfl
  have hbulks : bulkLines (values ++ [[]]) = (bulkLines values ++ [("$0" : Text)]) ++ [[]] := by
    rw [bulkLines, List.flatMap_append, List.append_assoc]
    exact congrArg (bulkLines values ++ ·) hzero
  have htext : redisArray (values ++ [[]]) = utf8Encode (arrayText (values.length + 1)
      (bulkLines values ++ [("$0" : Text)]) ++ (("\r\n" : Text) ++ ("\r\n" : Text))) := by
    rw [redisArray_eq, arrayLines, hbulks, List.length_append, List.length_singleton,
      ← List.cons_append, joinWith_concat_nil, List.append_assoc]
    rfl
  have hpieces : ∀ piece ∈ bulkLines values ++ [("$0" : Text)], OneLine piece := by
    intro piece hpiece
    obtain hpiece | hpiece := List.mem_append.mp hpiece
    · exact oneLine_of_mem_bulkLines h hpiece
    · rw [List.mem_singleton.mp hpiece]
      exact oneLine_cons_showNat (by decide) 0
  rw [htext, parse_arrayText_eq_some_iff hpieces (by simp) (by simp [isLineEnd])] at hparse
  obtain ⟨-, name, args, hread, -⟩ := hparse
  have hlength := length_of_readBulks hread
  have hbulkLength : (bulkLines values).length = 2 * values.length := by
    simp [bulkLines, Nat.mul_comm]
  rw [List.length_append, List.length_singleton] at hlength
  omega

/-- Arrays of values in one line each, the last one of them not empty, are read back if a vector
can have as many values. -/
theorem parse_redisArray_eq_some_iff {values : List Text} (h : ∀ value ∈ values, OneLine value)
    (hlast : values.getLast? ≠ some []) {command : RedisCommand} :
    parseRedisCommand (redisArray values) = .ok (some command) ↔
      values.length * STRING_SIZE < 2 ^ 63 ∧ ∃ name args, values = name :: args ∧
        command = ⟨toAsciiUppercase name, args⟩ := by
  have hbulks : ∀ piece ∈ bulkLines values, OneLine piece := fun _ => oneLine_of_mem_bulkLines h
  have hend : ∀ last ∈ (bulkLines values).getLast?, last ≠ [] := by
    rintro last hmem rfl
    exact hlast (getLast?_bulkLines values [] hmem)
  have htail : ∀ c ∈ ("\r\n" : Text), isLineEnd c = true := by simp [isLineEnd]
  have hread := readBulks_bulkLines values
  rw [redisArray_eq]
  refine (parse_arrayText_eq_some_iff hbulks hend htail).trans ?_
  rw [hread]
  simp only [Option.some.injEq]

/-- The command that was sent is the one that is understood exactly if its values are in one line
each, the last one is not empty, and a vector can have as many values. -/
theorem parseRedisCommand_redisArray_iff (name : Text) (args : List Text) :
    parseRedisCommand (redisArray (name :: args)) = .ok (some ⟨toAsciiUppercase name, args⟩) ↔
      (∀ value ∈ name :: args, '\n' ∉ value ∧ ∀ c ∈ value.getLast?, isWhitespace c = false) ∧
        (name :: args).getLast? ≠ some [] ∧ (args.length + 1) * STRING_SIZE < 2 ^ 63 := by
  constructor
  · intro hparse
    have hvalues : ∀ value ∈ name :: args, OneLine value := by
      have hreceived := oneLine_of_parse hparse
      intro value hvalue
      cases hvalue with
      | head => exact oneLine_toAsciiUppercase_iff.mp (hreceived _ List.mem_cons_self)
      | tail _ hvalue => exact hreceived value (List.mem_cons_of_mem _ hvalue)
    have hlast : (name :: args).getLast? ≠ some [] := by
      intro hnil
      obtain ⟨init, hinit⟩ := List.getLast?_eq_some_iff.mp hnil
      rw [hinit] at hparse hvalues
      exact parseRedisCommand_last_nil (fun v hv => hvalues v (List.mem_append_left _ hv)) _ hparse
    have hcapacity := ((parse_redisArray_eq_some_iff hvalues hlast).mp hparse).1
    exact ⟨fun value hvalue => ⟨(hvalues value hvalue).newline, (hvalues value hvalue).trimmed⟩,
      hlast, hcapacity⟩
  · rintro ⟨hvalues, hlast, hcapacity⟩
    have hvalues : ∀ value ∈ name :: args, OneLine value := fun value hvalue =>
      ⟨(hvalues value hvalue).1, (hvalues value hvalue).2⟩
    exact (parse_redisArray_eq_some_iff hvalues hlast).mpr ⟨hcapacity, name, args, rfl, rfl⟩

theorem parseRedisCommand_emptyArgument :
    parseRedisCommand (redisArray ["SET", "key", ""]) ≠
      .ok (some ⟨toAsciiUppercase "SET", ["key", ""]⟩) := by
  have hvalues : ∀ value ∈ (["SET", "key"] : List Text), OneLine value := by
    intro value hvalue
    obtain rfl | rfl := List.mem_pair.mp hvalue
    · refine ⟨by decide, fun c hc => ?_⟩
      obtain rfl : 'T' = c := Option.some.inj hc
      rfl
    · refine ⟨by decide, fun c hc => ?_⟩
      obtain rfl : 'y' = c := Option.some.inj hc
      rfl
  exact parseRedisCommand_last_nil hvalues _

end ProtocolSimulation.Engine
