import ProtocolSimulation.RedisArrays

/-!
# The memory that an array announces

Before the values of an array are read, a vector is made for as many of them as
the header announces. The header is a number that the client writes, so the
vector fits the input only if the number does.
-/
namespace ProtocolSimulation.Engine

open ProtocolSimulation.Texts ProtocolSimulation.Fallible ProtocolSimulation.Words

/-- The number of values that the parser makes a vector for; zero where it makes none. -/
def reservedCapacity (input : Bytes) : ℕ :=
  match utf8Decode input with
  | none => 0
  | some decoded =>
    let text := trimMatches isLineEnd decoded
    if text.isEmpty then 0
    else if (stripPrefix "*" text).isNone then 0
    else
      match (lines text).map trimEnd with
      | [] => 0
      | header :: _ => ((stripPrefix "*" header).bind parseUsize).getD 0

/-- The input begins with the header of an array of `n` values, maybe after line ends. -/
def AnnouncesArray (input : Bytes) (n : ℕ) : Prop :=
  ∃ breaks number rest : Text, input = utf8Encode (breaks ++ '*' :: number ++ rest) ∧
    (∀ c ∈ breaks, isLineEnd c = true) ∧ '\n' ∉ number ∧ (∀ c ∈ rest.head?, c = '\n') ∧
    parseUsize (trimEnd number) = some n

/-! ## The vector and the parser -/

/-- The parser makes the vector first, and then fails no more. -/
theorem parseRedisCommand_reserves (input : Bytes) : ∃ parsed,
    parseRedisCommand input = (do
      withCapacity STRING_SIZE (reservedCapacity input)
      return parsed) := by
  unfold parseRedisCommand reservedCapacity
  cases utf8Decode input with
  | none => exact ⟨none, rfl⟩
  | some decoded =>
    dsimp only
    split_ifs with hempty hstar
    · exact ⟨none, rfl⟩
    · exact ⟨_, rfl⟩
    · unfold arrayCommand
      cases (lines (trimMatches isLineEnd decoded)).map trimEnd with
      | nil => exact ⟨none, rfl⟩
      | cons header rest =>
        dsimp only
        cases (stripPrefix "*" header).bind parseUsize with
        | none => exact ⟨none, rfl⟩
        | some arrayLen =>
          dsimp only [Option.getD_some]
          cases hbulks : readBulks rest arrayLen with
          | none => exact ⟨none, rfl⟩
          | some values =>
            cases values with
            | nil => exact ⟨none, rfl⟩
            | cons name args => exact ⟨some ⟨toAsciiUppercase name, args⟩, rfl⟩

/-! ## The header line -/

/-- The first line after the line ends, without its end. -/
def headerLine (decoded : Text) : Text :=
  trimEnd ((decoded.dropWhile isLineEnd).takeWhile fun c => c != '\n')

theorem exists_firstLine {t : Text} (h : t ≠ []) :
    ∃ rest, (lines t).map trimEnd = trimEnd (t.takeWhile fun c => c != '\n') :: rest := by
  let front := t.takeWhile fun c => c != '\n'
  have hsplit : front ++ t.dropWhile (fun c => c != '\n') = t := List.takeWhile_append_dropWhile
  have hfront : '\n' ∉ front := fun hmem => absurd (List.mem_takeWhile_imp hmem) (by simp)
  cases hback : t.dropWhile (fun c => c != '\n') with
  | nil =>
    rw [hback, List.append_nil] at hsplit
    rw [← hsplit] at h
    show ∃ rest, (lines t).map trimEnd = trimEnd front :: rest
    rw [← hsplit, lines_of_line hfront h]
    exact ⟨[], rfl⟩
  | cons c back =>
    have hc : c = '\n' := by
      have hhead := List.head?_dropWhile_not (fun c => c != '\n') t
      rw [hback] at hhead
      simpa using hhead
    have hlines : lines t = (stripSuffix "\r" front).getD front :: lines back := by
      rw [← hsplit, hback, hc, lines_append_newline hfront]
    rw [hlines]
    refine ⟨(lines back).map trimEnd, congrArg (· :: (lines back).map trimEnd) ?_⟩
    cases hreturn : stripSuffix "\r" front with
    | none => rfl
    | some line =>
      have hline : trimEnd (line ++ ['\r']) = trimEnd line :=
        List.rdropWhile_concat_pos _ _ _ (by decide)
      show trimEnd line = trimEnd front
      rw [← hline, stripSuffix_eq_some_iff.mp hreturn]
      rfl

theorem trimEnd_takeWhile_rdropWhile (t : Text) :
    trimEnd ((t.rdropWhile isLineEnd).takeWhile fun c => c != '\n') =
      trimEnd (t.takeWhile fun c => c != '\n') := by
  let kept := t.rdropWhile isLineEnd
  let breaks := t.rtakeWhile isLineEnd
  have hsplit : kept ++ breaks = t := List.rdropWhile_append_rtakeWhile
  show trimEnd (kept.takeWhile fun c => c != '\n') = _
  rw [← hsplit, List.takeWhile_append]
  split_ifs with hlength
  · have hkept := (List.takeWhile_prefix fun c => c != '\n').eq_of_length hlength
    have hblank : ∀ c ∈ breaks.takeWhile (fun c => c != '\n'), isWhitespace c = true := by
      intro c hc
      have hend : isLineEnd c = true := List.mem_rtakeWhile_imp ((List.takeWhile_subset _) hc)
      exact isWhitespace_of_isLineEnd hend
    rw [hkept]
    exact (rdropWhile_append_of_pos kept hblank).symm
  · rfl

theorem headerLine_eq (decoded : Text) : headerLine decoded =
    trimEnd ((trimMatches isLineEnd decoded).takeWhile fun c => c != '\n') :=
  (trimEnd_takeWhile_rdropWhile (decoded.dropWhile isLineEnd)).symm

theorem headerLine_prefix (decoded : Text) :
    headerLine decoded <+: trimMatches isLineEnd decoded := by
  rw [headerLine_eq]
  exact (List.rdropWhile_prefix _ _).trans (List.takeWhile_prefix _)

/-! ## What the capacity is -/

theorem reservedCapacity_utf8Encode (decoded : Text) : reservedCapacity (utf8Encode decoded) =
    ((stripPrefix "*" (headerLine decoded)).bind parseUsize).getD 0 := by
  unfold reservedCapacity
  rw [utf8Decode_utf8Encode]
  dsimp only
  split_ifs with hempty hstar
  · have hheader : headerLine decoded = [] := by
      have hstart := headerLine_prefix decoded
      rwa [List.isEmpty_iff.mp hempty, List.prefix_nil] at hstart
    rw [hheader]
    rfl
  · cases hheader : stripPrefix "*" (headerLine decoded) with
    | none => rfl
    | some number =>
      -- a header would be the beginning of the text
      obtain ⟨rest, hrest⟩ := headerLine_prefix decoded
      rw [stripPrefix_eq_some_iff.mp hheader, List.append_assoc] at hrest
      rw [stripPrefix_eq_some_iff.mpr hrest.symm] at hstar
      exact Bool.noConfusion hstar
  · obtain ⟨rest, hrest⟩ := exists_firstLine (fun hnil => hempty (List.isEmpty_iff.mpr hnil))
    rw [hrest, ← headerLine_eq]

theorem trimEnd_star (number : Text) : trimEnd ('*' :: number) = '*' :: trimEnd number :=
  rdropWhile_cons_of_neg (by decide) number

theorem reservedCapacity_of_announces {input : Bytes} {n : ℕ} (h : AnnouncesArray input n) :
    reservedCapacity input = n := by
  obtain ⟨breaks, number, rest, rfl, hbreaks, hnumber, hrest, hcount⟩ := h
  have hheader : headerLine (breaks ++ '*' :: number ++ rest) = '*' :: trimEnd number := by
    have hline : ∀ c ∈ '*' :: number, (c != '\n') = true := by
      intro c hc
      have hne : c ≠ '\n' := by
        rintro rfl
        simp [hnumber] at hc
      simpa using hne
    have hback : (rest.takeWhile fun c => c != '\n') = [] := by
      cases rest with
      | nil => rfl
      | cons c rest => simp [hrest c rfl]
    have hstar : ¬ isLineEnd '*' = true := by decide
    rw [headerLine, List.append_assoc, List.dropWhile_append_of_pos hbreaks, List.cons_append,
      List.dropWhile_cons_of_neg hstar, ← List.cons_append, List.takeWhile_append_of_pos hline,
      hback, List.append_nil, trimEnd_star]
  have hstrip : stripPrefix "*" ('*' :: trimEnd number) = some (trimEnd number) :=
    stripPrefix_eq_some_iff.mpr rfl
  rw [reservedCapacity_utf8Encode, hheader, hstrip, Option.bind_some, hcount, Option.getD_some]

theorem announces_of_headerLine {decoded trimmed : Text} {n : ℕ}
    (hheader : headerLine decoded = '*' :: trimmed) (hcount : parseUsize trimmed = some n) :
    AnnouncesArray (utf8Encode decoded) n := by
  let start := decoded.dropWhile isLineEnd
  let line := start.takeWhile fun c => c != '\n'
  have hstart : decoded.takeWhile isLineEnd ++ start = decoded :=
    List.takeWhile_append_dropWhile
  have hline : line ++ start.dropWhile (fun c => c != '\n') = start :=
    List.takeWhile_append_dropWhile
  obtain ⟨blanks, hblanks⟩ : headerLine decoded <+: line := List.rdropWhile_prefix _ _
  rw [hheader] at hblanks
  have hnumber : trimEnd (trimmed ++ blanks) = trimmed := by
    have htrimmed : trimEnd line = '*' :: trimmed := hheader
    rw [← hblanks, List.cons_append, trimEnd_star] at htrimmed
    exact (List.cons.inj htrimmed).2
  refine ⟨decoded.takeWhile isLineEnd, trimmed ++ blanks, start.dropWhile fun c => c != '\n', ?_,
    fun c => List.mem_takeWhile_imp, ?_, ?_, ?_⟩
  · have hfirst : '*' :: (trimmed ++ blanks) = line := hblanks
    rw [hfirst, List.append_assoc, hline, hstart]
  · intro hmem
    have hmemLine : '\n' ∈ line := by
      rw [← hblanks]
      exact List.mem_cons_of_mem '*' hmem
    exact absurd (List.mem_takeWhile_imp hmemLine) (by simp)
  · intro c hc
    have hhead := List.head?_dropWhile_not (fun c => c != '\n') start
    rw [hc] at hhead
    simpa using hhead
  · rw [hnumber, hcount]

theorem announces_of_reservedCapacity {input : Bytes} (h : reservedCapacity input ≠ 0) :
    AnnouncesArray input (reservedCapacity input) := by
  cases hdecode : utf8Decode input with
  | none =>
    rw [reservedCapacity, hdecode] at h
    exact absurd rfl h
  | some decoded =>
    rw [← utf8Encode_of_utf8Decode hdecode, reservedCapacity_utf8Encode] at h ⊢
    cases hcount : (stripPrefix "*" (headerLine decoded)).bind parseUsize with
    | none =>
      rw [hcount] at h
      exact absurd rfl h
    | some n =>
      obtain ⟨trimmed, hheader, hparsed⟩ := Option.bind_eq_some_iff.mp hcount
      exact announces_of_headerLine (stripPrefix_eq_some_iff.mp hheader) hparsed

/-- The vector fits the input exactly if the header does not announce more values than the input
has bytes. -/
theorem reservedCapacity_le_iff {input : Bytes} (h : input.length ≤ 4096) :
    (reservedCapacity input ≤ input.length ∧ (∃ parsed, parseRedisCommand input = .ok parsed) ∧
        reservedCapacity input * STRING_SIZE ≤ STRING_SIZE * input.length) ↔
      ∀ n, AnnouncesArray input n → n ≤ input.length := by
  constructor
  · rintro ⟨hle, -, -⟩ n hn
    rwa [← reservedCapacity_of_announces hn]
  · intro hall
    have hle : reservedCapacity input ≤ input.length := by
      by_cases hzero : reservedCapacity input = 0
      · omega
      · exact hall _ (announces_of_reservedCapacity hzero)
    obtain ⟨parsed, hparsed⟩ := parseRedisCommand_reserves input
    have hfits : withCapacity STRING_SIZE (reservedCapacity input) = .ok () := by
      rw [withCapacity_eq_ok_iff, STRING_SIZE]
      omega
    refine ⟨hle, ⟨parsed, ?_⟩, ?_⟩
    · rw [hparsed, hfits]
      rfl
    · rw [Nat.mul_comm]
      exact Nat.mul_le_mul_left STRING_SIZE hle

def pingArray : Bytes := redisArray ["PING"]

theorem reservedCapacity_pingArray :
    reservedCapacity pingArray ≤ pingArray.length ∧
      (∃ parsed, parseRedisCommand pingArray = .ok parsed) ∧
      reservedCapacity pingArray * STRING_SIZE ≤ STRING_SIZE * pingArray.length := by
  apply (reservedCapacity_le_iff (by decide)).mpr
  intro n hn
  rw [← reservedCapacity_of_announces hn]
  decide +kernel

/-- The header of an array of `usize::MAX` values, and nothing else. -/
def hugeHeader : Bytes := utf8Encode "*18446744073709551615\r\n"

theorem reservedCapacity_hugeHeader :
    hugeHeader.length = 23 ∧ reservedCapacity hugeHeader = 18446744073709551615 ∧
      parseRedisCommand hugeHeader = .error .capacityOverflow := by
  have hcapacity : reservedCapacity hugeHeader = 18446744073709551615 := by decide +kernel
  obtain ⟨parsed, hparsed⟩ := parseRedisCommand_reserves hugeHeader
  refine ⟨by decide, hcapacity, ?_⟩
  rw [hparsed, hcapacity]
  rfl

end ProtocolSimulation.Engine
