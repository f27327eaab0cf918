import ProtocolSimulation.Framing
import ProtocolSimulation.Texts

/-!
# Texts up to a line of a single dot

How the mail and news protocols end a reply of many lines: a line of a single dot
is the end, and a dot in front of any other line is taken away by the reader. A
writer that adds no dots is understood on the texts without a line that starts
with one.
-/
namespace ProtocolSimulation.DottedTexts

open ProtocolSimulation.Texts ProtocolSimulation.Framing

def lineEnd : Text := ['\r', '\n']

/-- What begins a line with a dot, behind another line. -/
def dottedStart : Text := ['\r', '\n', '.']

/-- The line up to the first line end. -/
def readLine : Reader Char Text
  | [] => none
  | c :: input =>
    if c = '\r' ∧ input.head? = some '\n' then some ([], input.tail)
    else do
      let (line, rest) ← readLine input
      return (c :: line, rest)

/-- The line without the dot in front of it. -/
def unstuff : Text → Text
  | [] => []
  | c :: line => if c = '.' then line else c :: line

/-- The lines up to the one of a single dot, of which there are no more than `n`. -/
def readUpToDot : ℕ → Reader Char Text
  | 0, _ => none
  | n + 1, input => do
    let (line, rest) ← readLine input
    if line = ['.'] then return ([], rest)
    else do
      let (text, rest) ← readUpToDot n rest
      return (unstuff line ++ lineEnd ++ text, rest)

def readDotted : Reader Char Text := fun input => readUpToDot input.length input

/-- The texts that are lines, each with its end. -/
def IsLines (text : Text) : Prop := text = [] ∨ lineEnd <:+ text

/-- No line starts with a dot. -/
def Undotted (text : Text) : Prop := text.head? ≠ some '.' ∧ ¬ dottedStart <:+: text

/-! ## Lines -/

theorem readLine_lineEnd (rest : Text) : readLine (lineEnd ++ rest) = some ([], rest) := by
  simp [lineEnd, readLine]

theorem readLine_cons {c : Char} {input line rest : Text}
    (hopen : ¬ (c = '\r' ∧ input.head? = some '\n')) (h : readLine input = some (line, rest)) :
    readLine (c :: input) = some (c :: line, rest) := by
  rw [readLine, if_neg hopen]
  exact read_bind h

theorem readLine_append_lineEnd {line : Text} (h : '\r' ∉ line) (rest : Text) :
    readLine (line ++ lineEnd ++ rest) = some (line, rest) := by
  induction line with
  | nil => exact readLine_lineEnd rest
  | cons c line ih =>
    rw [List.mem_cons, not_or] at h
    have hopen : ¬ (c = '\r' ∧ (line ++ lineEnd ++ rest).head? = some '\n') :=
      fun hend => h.1 hend.1.symm
    exact readLine_cons hopen (ih h.2)

/-- The first line is empty, or it goes on behind its first character. -/
theorem readLine_cases {input line rest : Text} (h : readLine input = some (line, rest)) :
    (line = [] ∧ input = lineEnd ++ rest) ∨
      ∃ c input' line', input = c :: input' ∧ line = c :: line' ∧
        ¬ (c = '\r' ∧ input'.head? = some '\n') ∧ readLine input' = some (line', rest) := by
  cases input with
  | nil => simp [readLine] at h
  | cons c input =>
    rw [readLine] at h
    split_ifs at h with hend
    · left
      obtain ⟨rfl, rfl⟩ : [] = line ∧ input.tail = rest := by simpa using h
      cases input with
      | nil => simp at hend
      | cons d input => simpa [lineEnd] using hend
    · right
      cases hline : readLine input with
      | none => simp [hline] at h
      | some found =>
        obtain ⟨line', rest'⟩ := found
        obtain ⟨rfl, rfl⟩ : c :: line' = line ∧ rest' = rest := by simpa [hline] using h
        exact ⟨c, input, line', rfl, rfl, hend, hline⟩

theorem readLine_eq_append {input line rest : Text} (h : readLine input = some (line, rest)) :
    input = line ++ lineEnd ++ rest := by
  induction input generalizing line with
  | nil => simp [readLine] at h
  | cons c input ih =>
    obtain ⟨rfl, hinput⟩ | ⟨d, input', line', hinput, rfl, -, hrest⟩ := readLine_cases h
    · exact hinput
    · obtain ⟨rfl, rfl⟩ := List.cons.inj hinput
      have hlines := ih hrest
      rw [hlines]
      simp

/-- What follows the first line is not looked at. -/
theorem readLine_append {input line rest : Text} (h : readLine input = some (line, rest))
    (more : Text) : readLine (input ++ more) = some (line, rest ++ more) := by
  induction input generalizing line with
  | nil => simp [readLine] at h
  | cons c input ih =>
    obtain ⟨rfl, hinput⟩ | ⟨d, input', line', hinput, rfl, hopen, hrest⟩ := readLine_cases h
    · rw [hinput, List.append_assoc]
      exact readLine_lineEnd (rest ++ more)
    · obtain ⟨rfl, rfl⟩ := List.cons.inj hinput
      have hne : input ≠ [] := by
        rintro rfl
        simp [readLine] at hrest
      apply readLine_cons _ (ih hrest)
      rwa [List.head?_append_of_ne_nil input hne]

theorem exists_readLine {text : Text} (h : lineEnd <:+ text) :
    ∃ line rest, readLine text = some (line, rest) := by
  induction text with
  | nil => simp [lineEnd] at h
  | cons c text ih =>
    by_cases hend : c = '\r' ∧ text.head? = some '\n'
    · exact ⟨[], text.tail, by rw [readLine, if_pos hend]⟩
    · obtain heq | hsuffix := List.suffix_cons_iff.mp h
      · obtain ⟨rfl, rfl⟩ := List.cons.inj heq.symm
        exact absurd ⟨rfl, rfl⟩ hend
      · obtain ⟨line, rest, hline⟩ := ih hsuffix
        exact ⟨c :: line, rest, readLine_cons hend hline⟩

/-- Behind the first line there are whole lines again. -/
theorem isLines_rest {text line rest : Text} (h : lineEnd <:+ text)
    (hline : readLine text = some (line, rest)) : IsLines rest := by
  induction text generalizing line with
  | nil => simp [readLine] at hline
  | cons c text ih =>
    obtain ⟨rfl, hinput⟩ | ⟨d, text', line', hinput, rfl, hopen, hrest⟩ := readLine_cases hline
    · rw [hinput] at h
      by_cases hlength : lineEnd.length ≤ rest.length
      · exact Or.inr (List.suffix_of_suffix_length_le h (List.suffix_append lineEnd rest) hlength)
      · left
        cases rest with
        | nil => rfl
        | cons d rest =>
          obtain rfl : rest = [] := by simpa [lineEnd] using hlength
          simp [lineEnd, List.suffix_cons_iff] at h
    · obtain ⟨rfl, rfl⟩ := List.cons.inj hinput
      obtain heq | hsuffix := List.suffix_cons_iff.mp h
      · obtain ⟨rfl, rfl⟩ := List.cons.inj heq.symm
        exact absurd ⟨rfl, rfl⟩ hopen
      · exact ih hsuffix hrest

/-- A dot starts a line of the text iff it starts what follows the first line, or a line behind. -/
theorem dottedStart_infix_iff {text line rest : Text} (h : readLine text = some (line, rest)) :
    dottedStart <:+: text ↔ rest.head? = some '.' ∨ dottedStart <:+: rest := by
  induction text generalizing line with
  | nil => simp [readLine] at h
  | cons c text ih =>
    obtain ⟨rfl, hinput⟩ | ⟨d, text', line', hinput, rfl, hopen, hrest⟩ := readLine_cases h
    · have hhead : dottedStart <+: lineEnd ++ rest ↔ rest.head? = some '.' := by
        cases rest with
        | nil => simp [lineEnd, dottedStart]
        | cons d rest => simp [lineEnd, dottedStart, eq_comm]
      have hnext : ¬ dottedStart <+: '\n' :: rest := by simp [dottedStart]
      rw [hinput, lineEnd, List.cons_append, List.cons_append, List.nil_append, List.infix_cons_iff,
        List.infix_cons_iff, or_iff_right hnext, ← hhead]
      rfl
    · obtain ⟨rfl, rfl⟩ := List.cons.inj hinput
      have hhead : ¬ dottedStart <+: c :: text := by
        intro hstart
        obtain ⟨hc, htail⟩ := List.cons_prefix_cons.mp hstart
        obtain ⟨after, rfl⟩ := htail
        exact hopen ⟨hc.symm, rfl⟩
      rw [List.infix_cons_iff, or_iff_right hhead]
      exact ih hrest

/-! ## Reading up to the dot -/

theorem unstuff_length_le (line : Text) : (unstuff line).length ≤ line.length := by
  cases line with
  | nil => exact Nat.le_refl 0
  | cons c line =>
    rw [unstuff]
    split_ifs
    · simp
    · exact Nat.le_refl _

theorem unstuff_eq_self_iff (line : Text) : unstuff line = line ↔ line.head? ≠ some '.' := by
  cases line with
  | nil => simp [unstuff]
  | cons c line =>
    by_cases hc : c = '.'
    · simp [unstuff, hc]
    · simp [unstuff, hc]

/-- No line of the text starts with a dot iff neither the first one nor one behind it does. -/
theorem undotted_iff {text line rest : Text} (h : readLine text = some (line, rest)) :
    Undotted text ↔ line.head? ≠ some '.' ∧ Undotted rest := by
  have hhead : text.head? = some '.' ↔ line.head? = some '.' := by
    rw [readLine_eq_append h]
    cases line <;> simp [lineEnd]
  rw [Undotted, Undotted, dottedStart_infix_iff h, not_or, ne_eq, hhead]

theorem readUpToDot_of_dot {input rest : Text} (n : ℕ) (h : readLine input = some (['.'], rest)) :
    readUpToDot (n + 1) input = some ([], rest) := by
  rw [readUpToDot, read_bind h]
  exact if_pos rfl

theorem readUpToDot_of_line {input line input' text rest : Text} {n : ℕ}
    (hline : readLine input = some (line, input')) (hdot : line ≠ ['.'])
    (h : readUpToDot n input' = some (text, rest)) :
    readUpToDot (n + 1) input = some (unstuff line ++ lineEnd ++ text, rest) := by
  rw [readUpToDot, read_bind hline]
  exact (if_neg hdot).trans (read_bind h)

/-- What is read of a line and what follows it is the same iff both parts are. -/
theorem unstuff_append_eq_iff {line found rest : Text} (h : found.length ≤ rest.length) :
    unstuff line ++ lineEnd ++ found = line ++ lineEnd ++ rest ↔
      unstuff line = line ∧ found = rest := by
  constructor
  · intro heq
    have hle := unstuff_length_le line
    have hlengths := congrArg List.length heq
    simp only [List.length_append] at hlengths
    rw [List.append_assoc, List.append_assoc] at heq
    obtain ⟨hstart, hend⟩ := List.append_inj heq (by omega)
    exact ⟨hstart, List.append_cancel_left hend⟩
  · rintro ⟨hstart, rfl⟩
    rw [hstart]

/-- Lines are read as a text that is no longer, and is the same iff none of them starts with a
dot. -/
theorem readUpToDot_lines {text : Text} {n : ℕ} (h : IsLines text) (hn : text.length < n)
    (more : Text) :
    ∃ found rest, readUpToDot n (text ++ ('.' :: lineEnd ++ more)) = some (found, rest) ∧
      found.length ≤ text.length ∧ (found = text ↔ Undotted text) := by
  induction n generalizing text with
  | zero => omega
  | succ n ih =>
    rcases h with rfl | hsuffix
    · use [], more
      have hline : readLine ('.' :: lineEnd ++ more) = some (['.'], more) :=
        readLine_cons (by simp) (readLine_lineEnd more)
      constructor
      · exact readUpToDot_of_dot n hline
      · simp [Undotted, dottedStart]
    · obtain ⟨line, rest, hline⟩ := exists_readLine hsuffix
      have happend := readLine_append hline ('.' :: lineEnd ++ more)
      have htext := readLine_eq_append hline
      have hlength := congrArg List.length htext
      have hend : lineEnd.length = 2 := rfl
      simp only [List.length_append, hend] at hlength
      rw [undotted_iff hline]
      by_cases hdot : line = ['.']
      · use [], rest ++ ('.' :: lineEnd ++ more)
        have hne : text ≠ [] := List.ne_nil_of_length_pos (by omega)
        refine ⟨?_, Nat.zero_le _, ?_⟩
        · rw [hdot] at happend
          exact readUpToDot_of_dot n happend
        · simp [hdot, hne.symm]
      · obtain ⟨found, left, hfound, hle, hsame⟩ := ih (isLines_rest hsuffix hline) (by omega)
        use unstuff line ++ lineEnd ++ found, left
        refine ⟨readUpToDot_of_line happend hdot hfound, ?_, ?_⟩
        · have hunstuff := unstuff_length_le line
          simp only [List.length_append, hend]
          omega
        · rw [← unstuff_eq_self_iff, ← hsame, htext, unstuff_append_eq_iff hle]

/-- A text of lines, written with no dots added, is read back iff no line starts with a dot. -/
theorem readDotted_lines_iff {text : Text} (h : IsLines text) (more : Text) :
    (∃ rest, readDotted (text ++ ('.' :: lineEnd ++ more)) = some (text, rest)) ↔
      Undotted text := by
  have hlength : text.length < (text ++ ('.' :: lineEnd ++ more)).length := by simp
  obtain ⟨found, rest, hread, -, hsame⟩ := readUpToDot_lines h hlength more
  rw [readDotted, hread, ← hsame]
  constructor
  · rintro ⟨rest', hrest⟩
    exact (Prod.mk.inj (Option.some.inj hrest)).1
  · rintro rfl
    exact ⟨rest, rfl⟩

/-! ## Texts in several parts -/

theorem infix_append_of_head {α : Type} {needle after : List α}
    (h : ∀ a ∈ after.head?, a ∉ needle) (before : List α) :
    needle <:+: before ++ after ↔ needle <:+: before ∨ needle <:+: after := by
  rw [List.infix_append_iff_ne_nil]
  constructor
  · rintro (hbefore | hafter | ⟨start, stop, -, hne, rfl, -, hprefix⟩)
    · exact Or.inl hbefore
    · exact Or.inr hafter
    · obtain ⟨a, stop, rfl⟩ := List.exists_cons_of_ne_nil hne
      obtain ⟨rest, rfl⟩ := hprefix
      exact absurd (by simp) (h a rfl)
  · rintro (hbefore | hafter)
    · exact Or.inl hbefore
    · exact Or.inr (Or.inl hafter)

theorem infix_append_of_getLast {α : Type} {needle before : List α}
    (h : ∀ a ∈ before.getLast?, a ∉ needle) (after : List α) :
    needle <:+: before ++ after ↔ needle <:+: before ∨ needle <:+: after := by
  rw [← List.reverse_infix, List.reverse_append, infix_append_of_head, List.reverse_infix,
    List.reverse_infix, or_comm]
  simpa using h

/-- What ends with something that is not there is found in front of it. -/
theorem infix_append_of_notMem {α : Type} {needle after : List α} {a : α}
    (ha : needle.getLast? = some a) (h : a ∉ after) (before : List α) :
    needle <:+: before ++ after ↔ needle <:+: before := by
  constructor
  · intro hpart
    induction after using List.reverseRecOn with
    | nil => rwa [List.append_nil] at hpart
    | append_singleton after b ih =>
      have hb : a ≠ b := by
        rintro rfl
        simp at h
      rw [← List.append_assoc, List.infix_concat_iff] at hpart
      apply ih (fun hmem => h (by simp [hmem]))
      obtain hsuffix | hpart := hpart
      · obtain ⟨rest, hrest⟩ := hsuffix
        have hlast := congrArg List.getLast? hrest
        rw [List.getLast?_append, ha, List.getLast?_concat] at hlast
        exact absurd (Option.some.inj hlast) hb
      · exact hpart
  · exact List.infix_append_of_infix_left

/-- What shares nothing with the separator is in one of the pieces. -/
theorem infix_joinWith_iff {needle sep : Text} (h : ∀ c ∈ sep, c ∉ needle) (hsep : sep ≠ [])
    (hneedle : needle ≠ []) (pieces : List Text) :
    needle <:+: joinWith sep pieces ↔ ∃ piece ∈ pieces, needle <:+: piece := by
  induction pieces with
  | nil => simpa [joinWith] using hneedle
  | cons piece pieces ih =>
    cases pieces with
    | nil => simp [joinWith]
    | cons next pieces =>
      have hhead : ∀ c ∈ (sep ++ joinWith sep (next :: pieces)).head?, c ∉ needle := by
        rw [List.head?_append_of_ne_nil sep hsep]
        exact fun c hc => h c (List.mem_of_head? hc)
      have hlast : ∀ c ∈ sep.getLast?, c ∉ needle := fun c hc => h c (List.mem_of_getLast? hc)
      have hinside : ¬ needle <:+: sep := by
        intro hpart
        obtain ⟨c, hc⟩ := List.exists_mem_of_ne_nil needle hneedle
        exact h c (hpart.subset hc) hc
      rw [joinWith_cons_cons, infix_append_of_head hhead, infix_append_of_getLast hlast,
        or_iff_right hinside, ih]
      simp

theorem head?_joinWith {sep piece : Text} (h : piece ≠ []) (pieces : List Text) :
    (joinWith sep (piece :: pieces)).head? = piece.head? := by
  cases pieces with
  | nil => simp [joinWith]
  | cons next pieces => rw [joinWith_cons_cons, List.head?_append_of_ne_nil piece h]

/-- Lines that start with something else have a dotted line in one of them. -/
theorem dottedStart_infix_joinWith_iff {lines : List Text}
    (h : ∀ line ∈ lines, ∃ c ∈ line.head?, c ∉ dottedStart) :
    dottedStart <:+: joinWith lineEnd lines ↔ ∃ line ∈ lines, dottedStart <:+: line := by
  induction lines with
  | nil => simp [joinWith, dottedStart]
  | cons line lines ih =>
    cases lines with
    | nil => simp [joinWith]
    | cons next lines =>
      have hrest := ih fun other hother => h other (List.mem_cons_of_mem line hother)
      have hhead : ∀ c ∈ (joinWith lineEnd (next :: lines)).head?, c ∉ dottedStart := by
        obtain ⟨c, hc, hnot⟩ := h next (by simp)
        rw [head?_joinWith (List.ne_nil_of_mem (List.mem_of_head? hc)), hc]
        intro d hd
        rwa [← Option.some.inj hd]
      rw [joinWith_cons_cons, ← List.append_assoc, infix_append_of_head hhead,
        infix_append_of_notMem (a := '.') rfl (by decide), hrest]
      simp

end ProtocolSimulation.DottedTexts
