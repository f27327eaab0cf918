import ProtocolSimulation.Databases
import ProtocolSimulation.Words

/-!
# Normal forms of queries

A rule gives responses to queries, and a query finds its response by its normal
form. White space and case do not matter to it, and what a query ends with does
not matter as long as the semicolons there stand together.
-/
namespace ProtocolSimulation.Engine

open ProtocolSimulation.Texts ProtocolSimulation.Words

theorem isSemicolon_toLower (c : Char) : isSemicolon c.toLower = isSemicolon c := by
  induction c using char_of_ascii with
  | hascii n h => revert n; decide +kernel
  | hother c h => rw [toLower_of_not_ascii h]

theorem isWhitespace_of_isSemicolon {c : Char} (h : isSemicolon c = true) :
    isWhitespace c = false := by
  rw [beq_iff_eq.mp h]
  decide

theorem isSemicolon_of_isWhitespace {c : Char} (h : isWhitespace c = true) :
    isSemicolon c = false := by
  by_contra hsemi
  rw [isWhitespace_of_isSemicolon (by simpa using hsemi)] at h
  exact Bool.noConfusion h

/-! ## Spellings -/

/-- What stands between white space, in lower case. -/
def queryTokens (query : Text) : List Text := (splitWhitespace query).map toAsciiLowercase

/-- Another spelling of a query: its tokens in any case and with any white space between them, and
white space and semicolons behind them. -/
structure Spelling (query : Text) where
  body : Text
  tail : Text
  sameTokens : queryTokens body = queryTokens query
  mixture : ∀ c ∈ tail, isWhitespace c = true ∨ isSemicolon c = true

def Spelling.text {query : Text} (spelling : Spelling query) : Text :=
  spelling.body ++ spelling.tail

/-- Does white space stand between two semicolons at the end of the query? -/
def SemicolonsApart (query : Text) : Prop :=
  ∃ front gap final blanks : Text, query = front ++ ';' :: gap ++ final ++ blanks ∧
    gap ≠ [] ∧ (∀ c ∈ gap, isWhitespace c = true) ∧
    final ≠ [] ∧ (∀ c ∈ final, isSemicolon c = true) ∧ ∀ c ∈ blanks, isWhitespace c = true

/-! ## Normal forms are made of tokens -/

theorem isWord_of_mem_queryTokens {query token : Text} (h : token ∈ queryTokens query) :
    IsWord isWhitespace token := by
  obtain ⟨word, hword, rfl⟩ := List.mem_map.mp h
  have hisWord := isWord_of_mem_words hword
  constructor
  · simpa [toAsciiLowercase] using hisWord.1
  · intro c hc
    obtain ⟨d, hd, rfl⟩ := List.mem_map.mp hc
    rw [isWhitespace_toLower]
    exact hisWord.2 d hd

/-- The query without the white space at its end, and then without the semicolons there. -/
def queryCore (query : Text) : Text := (query.rdropWhile isWhitespace).rdropWhile isSemicolon

theorem queryTokens_core (query : Text) :
    queryTokens (queryCore query) = cutLast isSemicolon (queryTokens query) := by
  have hblank : ∀ c, isSemicolon c = true → isWhitespace c = false := fun c =>
    isWhitespace_of_isSemicolon
  have hmap := congrArg (List.map (List.map Char.toLower)) (words_cut hblank query)
  rwa [← cutLast_map isSemicolon_toLower] at hmap

theorem queryTokens_stripped (query : Text) :
    queryTokens (trimEndMatches isSemicolon (trim query)) =
      cutLast isSemicolon (queryTokens query) := by
  have htokens : queryTokens (query.dropWhile isWhitespace) = queryTokens query :=
    congrArg (List.map toAsciiLowercase) (words_dropWhile query)
  rw [← htokens]
  exact queryTokens_core (query.dropWhile isWhitespace)

theorem toAsciiLowercase_joinWith_blank (ts : List Text) :
    toAsciiLowercase (joinWith " " ts) = joinWith " " (ts.map toAsciiLowercase) := by
  induction ts with
  | nil => rfl
  | cons t ts ih =>
    cases ts with
    | nil => simp [joinWith]
    | cons u ts =>
      rw [joinWith_cons_cons, List.map_cons, List.map_cons, joinWith_cons_cons, ← List.map_cons,
        ← ih]
      simp [toAsciiLowercase]

/-- The normal form of a query depends on its tokens only. -/
theorem normalizeQuery_eq (query : Text) :
    normalizeQuery query = joinWith " " (cutLast isSemicolon (queryTokens query)) := by
  rw [normalizeQuery, toAsciiLowercase_joinWith_blank, ← queryTokens_stripped]
  rfl

theorem isWord_of_mem_stripped {query token : Text}
    (h : token ∈ cutLast isSemicolon (queryTokens query)) : IsWord isWhitespace token :=
  isWord_of_mem_cutLast (fun _ => isWord_of_mem_queryTokens) token h

theorem splitWhitespace_normalizeQuery (query : Text) :
    splitWhitespace (normalizeQuery query) = cutLast isSemicolon (queryTokens query) := by
  rw [normalizeQuery_eq]
  exact words_intercalate (by decide : isWhitespace ' ' = true) fun _ => isWord_of_mem_stripped

theorem toAsciiLowercase_normalizeQuery (query : Text) :
    toAsciiLowercase (normalizeQuery query) = normalizeQuery query :=
  toAsciiLowercase_toAsciiLowercase _

theorem queryTokens_normalizeQuery (query : Text) :
    queryTokens (normalizeQuery query) = cutLast isSemicolon (queryTokens query) := by
  have hlower := words_map isWhitespace_toLower (normalizeQuery query)
  rw [← splitWhitespace_normalizeQuery]
  refine hlower.symm.trans ?_
  exact congrArg splitWhitespace (toAsciiLowercase_normalizeQuery query)

/-! ## What a normal form ends with -/

theorem normalizeQuery_eq_iff {query other : Text} : normalizeQuery query = normalizeQuery other ↔
    cutLast isSemicolon (queryTokens query) = cutLast isSemicolon (queryTokens other) := by
  constructor
  · intro h
    rw [← splitWhitespace_normalizeQuery, h, splitWhitespace_normalizeQuery]
  · intro h
    rw [normalizeQuery_eq, h, normalizeQuery_eq]

theorem getLast?_normalizeQuery (query : Text) :
    (normalizeQuery query).getLast? =
      (cutLast isSemicolon (queryTokens query)).flatten.getLast? := by
  rw [normalizeQuery_eq]
  exact getLast?_intercalate fun token htoken => (isWord_of_mem_stripped htoken).1

theorem toLower_eq_semicolon {c : Char} : c.toLower = ';' ↔ c = ';' := by
  constructor
  · intro hc
    have hsemicolon : isSemicolon c = true := by
      rw [← isSemicolon_toLower, hc]
      rfl
    exact beq_iff_eq.mp hsemicolon
  · rintro rfl
    rfl

theorem getLast?_filter_eq_some_iff {α : Type} {p : α → Bool} {as : List α} {a : α} :
    (as.filter p).getLast? = some a ↔
      p a = true ∧ ∃ front back, as = front ++ a :: back ∧ ∀ b ∈ back, p b = false := by
  rw [List.getLast?_filter, List.find?_eq_some_iff_append]
  constructor
  · rintro ⟨ha, back, front, hsplit, hback⟩
    refine ⟨ha, front.reverse, back.reverse, ?_, by simpa using hback⟩
    rw [← List.reverse_reverse as, hsplit]
    simp
  · rintro ⟨ha, front, back, rfl, hback⟩
    exact ⟨ha, back.reverse, front.reverse, by simp, by simpa using hback⟩

/-- A normal form ends with a semicolon exactly if the core does, but for white space. -/
theorem getLast?_normalizeQuery_iff_core (query : Text) :
    (normalizeQuery query).getLast? = some ';' ↔
      ∃ front gap, queryCore query = front ++ ';' :: gap ∧ ∀ c ∈ gap, isWhitespace c = true := by
  have hflatten : (queryTokens (queryCore query)).flatten =
      (words isWhitespace (queryCore query)).flatten.map Char.toLower := List.map_flatten.symm
  have hlast : (normalizeQuery query).getLast? = some ';' ↔
      ((queryCore query).filter fun c => !isWhitespace c).getLast? = some ';' := by
    rw [getLast?_normalizeQuery, ← queryTokens_core, hflatten, flatten_words, List.getLast?_map,
      Option.map_eq_some_iff]
    simp [toLower_eq_semicolon]
  have hvisible : (!isWhitespace ';') = true := by decide
  rw [hlast, getLast?_filter_eq_some_iff, hvisible]
  simp

/-- What was cut off from a query whose core ends with a blank stood apart from the core. -/
theorem semicolonsApart_of_core {query front gap : Text}
    (hcore : queryCore query = front ++ ';' :: gap) (hgap : ∀ c ∈ gap, isWhitespace c = true) :
    SemicolonsApart query := by
  let final := (query.rdropWhile isWhitespace).rtakeWhile isSemicolon
  let blanks := query.rtakeWhile isWhitespace
  have hfinal : queryCore query ++ final = query.rdropWhile isWhitespace :=
    List.rdropWhile_append_rtakeWhile
  have hblanks : query.rdropWhile isWhitespace ++ blanks = query :=
    List.rdropWhile_append_rtakeWhile
  have hend : ∀ c ∈ (queryCore query).getLast?, isSemicolon c = false := fun c hc =>
    of_mem_getLast?_rdropWhile hc
  have hgapNe : gap ≠ [] := by
    rintro rfl
    have hlast := hend ';' (by simp [hcore])
    simp [isSemicolon] at hlast
  have hfinalNe : final ≠ [] := by
    intro hnil
    rw [hnil, List.append_nil] at hfinal
    obtain ⟨c, hc⟩ := Option.isSome_iff_exists.mp (List.getLast?_isSome.mpr hgapNe)
    have hlast : c ∈ (query.rdropWhile isWhitespace).getLast? := by
      rw [← hfinal, hcore, List.append_cons, List.getLast?_append_of_ne_nil _ hgapNe]
      exact hc
    have hvisible := of_mem_getLast?_rdropWhile hlast
    simp [hgap c (List.mem_of_getLast? hc)] at hvisible
  refine ⟨front, gap, final, blanks, ?_, hgapNe, hgap, hfinalNe, ?_, ?_⟩
  · rw [← hcore, hfinal, hblanks]
  · exact fun c hc => List.mem_rtakeWhile_imp hc
  · exact fun c hc => List.mem_rtakeWhile_imp hc

/-- A normal form ends with a semicolon exactly if semicolons stand apart at the end. -/
theorem getLast?_normalizeQuery_iff (query : Text) :
    (normalizeQuery query).getLast? = some ';' ↔ SemicolonsApart query := by
  rw [getLast?_normalizeQuery_iff_core]
  constructor
  · rintro ⟨front, gap, hcore, hgap⟩
    exact semicolonsApart_of_core hcore hgap
  · rintro ⟨front, gap, final, blanks, rfl, hgap, hgapBlank, hfinal, hfinalSemi, hblanks⟩
    have hfinalLast : ∀ c ∈ (front ++ ';' :: gap ++ final).getLast?, isWhitespace c = false := by
      rw [List.getLast?_append_of_ne_nil _ hfinal]
      exact fun c hc => isWhitespace_of_isSemicolon (hfinalSemi c (List.mem_of_getLast? hc))
    have hgapLast : ∀ c ∈ (front ++ ';' :: gap).getLast?, isSemicolon c = false := by
      rw [List.append_cons, List.getLast?_append_of_ne_nil _ hgap]
      exact fun c hc => isSemicolon_of_isWhitespace (hgapBlank c (List.mem_of_getLast? hc))
    use front, gap
    constructor
    · rw [queryCore, rdropWhile_eq hfinalLast hblanks, rdropWhile_eq hgapLast hfinalSemi]
    · exact hgapBlank

/-- Another normal form of the normal form comes from a semicolon at its end. -/
theorem normalizeQuery_idempotent_iff (query : Text) :
    normalizeQuery (normalizeQuery query) = normalizeQuery query ↔
      (normalizeQuery query).getLast? ≠ some ';' := by
  rw [normalizeQuery_eq_iff, queryTokens_normalizeQuery,
    cutLast_eq_self_iff fun token htoken => (isWord_of_mem_stripped htoken).1,
    getLast?_normalizeQuery]
  cases (cutLast isSemicolon (queryTokens query)).flatten.getLast? with
  | none => simp
  | some c => simp [isSemicolon]

/-! ## What is appended -/

theorem SemicolonsApart.concat {query : Text} (h : SemicolonsApart query) {c : Char}
    (hc : isWhitespace c = true ∨ isSemicolon c = true) : SemicolonsApart (query ++ [c]) := by
  obtain ⟨front, gap, final, blanks, rfl, hgap, hgapBlank, hfinal, hfinalSemi, hblanks⟩ := h
  obtain hc | hc := hc
  · refine ⟨front, gap, final, blanks ++ [c], by simp, hgap, hgapBlank, hfinal, hfinalSemi, ?_⟩
    simpa [or_imp, forall_and, hc] using hblanks
  cases blanks with
  | nil =>
    refine ⟨front, gap, final ++ [c], [], by simp, hgap, hgapBlank, by simp, ?_, by simp⟩
    simpa [or_imp, forall_and, hc] using hfinalSemi
  | cons b blanks =>
    -- the last semicolon so far and the new one stand apart now
    obtain ⟨final, d, rfl⟩ := List.eq_nil_or_concat final |>.resolve_left hfinal
    have hd : d = ';' := beq_iff_eq.mp (hfinalSemi d (by simp))
    refine ⟨front ++ ';' :: gap ++ final, b :: blanks, [c], [], ?_, by simp, hblanks, by simp, ?_,
      by simp⟩
    · simp [hd]
    · simpa using hc

theorem normalizeQuery_blank {c : Char} (hc : isWhitespace c = true) (query : Text) :
    normalizeQuery (query ++ [c]) = normalizeQuery query := by
  have hwords : splitWhitespace (query ++ [c]) = splitWhitespace query := words_concat hc query
  rw [normalizeQuery_eq_iff, queryTokens, hwords, queryTokens]

/-- A semicolon in front of some white space would stand apart from the one behind it. -/
theorem getLast?_of_not_semicolonsApart {front blanks : Text} {c : Char}
    (h : ¬ SemicolonsApart (front ++ blanks ++ [c])) (hnil : blanks ≠ [])
    (hblanks : ∀ d ∈ blanks, isWhitespace d = true) (hc : isSemicolon c = true) :
    ∀ d ∈ front.getLast?, isSemicolon d = false := by
  intro d hd
  by_contra hsemi
  obtain ⟨start, rfl⟩ := List.getLast?_eq_some_iff.mp hd
  obtain rfl : d = ';' := by simpa [isSemicolon] using hsemi
  refine h ⟨start, blanks, [c], [], ?_, hnil, hblanks, by simp, by simpa using hc, by simp⟩
  simp

theorem queryCore_concat {c : Char} (hc : isSemicolon c = true) (query : Text) :
    queryCore (query ++ [c]) = query.rdropWhile isSemicolon := by
  have hsolid : ¬ isWhitespace c = true := by simp [isWhitespace_of_isSemicolon hc]
  rw [queryCore, List.rdropWhile_concat_neg _ _ _ hsolid, List.rdropWhile_concat_pos _ _ _ hc]

theorem normalizeQuery_semicolon {query : Text} {c : Char} (hc : isSemicolon c = true)
    (h : ¬ SemicolonsApart (query ++ [c])) :
    normalizeQuery (query ++ [c]) = normalizeQuery query := by
  rw [normalizeQuery_eq_iff, ← queryTokens_core, ← queryTokens_core, queryCore_concat hc, queryCore]
  have hwords : queryTokens (query.rdropWhile isWhitespace) = queryTokens query :=
    congrArg (List.map toAsciiLowercase) (words_rdropWhile query)
  have hquery : query.rdropWhile isWhitespace ++ query.rtakeWhile isWhitespace = query :=
    List.rdropWhile_append_rtakeWhile
  have hblanks : ∀ d ∈ query.rtakeWhile isWhitespace, isWhitespace d = true := fun d hd =>
    List.mem_rtakeWhile_imp hd
  by_cases hnil : query.rtakeWhile isWhitespace = []
  · rw [hnil, List.append_nil] at hquery
    rw [hquery]
  · have hqueryLast : ∀ d ∈ query.getLast?, isSemicolon d = false := by
      rw [← hquery, List.getLast?_append_of_ne_nil _ hnil]
      exact fun d hd => isSemicolon_of_isWhitespace (hblanks d (List.mem_of_getLast? hd))
    rw [← hquery] at h
    have htrimmedLast := getLast?_of_not_semicolonsApart h hnil hblanks hc
    rw [rdropWhile_eq_self hqueryLast, rdropWhile_eq_self htrimmedLast, hwords]

theorem normalizeQuery_concat {query : Text} {c : Char}
    (hc : isWhitespace c = true ∨ isSemicolon c = true) (h : ¬ SemicolonsApart (query ++ [c])) :
    normalizeQuery (query ++ [c]) = normalizeQuery query := by
  obtain hblank | hsemi := hc
  · exact normalizeQuery_blank hblank query
  · exact normalizeQuery_semicolon hsemi h

theorem normalizeQuery_append {query tail : Text}
    (htail : ∀ c ∈ tail, isWhitespace c = true ∨ isSemicolon c = true)
    (h : ¬ SemicolonsApart (query ++ tail)) :
    normalizeQuery (query ++ tail) = normalizeQuery query := by
  induction tail using List.reverseRecOn with
  | nil => rw [List.append_nil]
  | append_singleton tail c ih =>
    have hc := htail c (by simp)
    rw [← List.append_assoc] at h ⊢
    have hfront : ¬ SemicolonsApart (query ++ tail) := fun happart => h (happart.concat hc)
    rw [normalizeQuery_concat hc h]
    exact ih (fun d hd => htail d (List.mem_append_left _ hd)) hfront

/-! ## Spellings with the same normal form -/

theorem normalizeQuery_body {query : Text} (spelling : Spelling query) :
    normalizeQuery spelling.body = normalizeQuery query := by
  rw [normalizeQuery_eq, spelling.sameTokens, normalizeQuery_eq]

theorem configuredQueryResponse_of_eq {query other : Text}
    (h : normalizeQuery query = normalizeQuery other) (config : SimDatabaseConfig) :
    configuredQueryResponse config query = configuredQueryResponse config other := by
  rw [configuredQueryResponse, configuredQueryResponse, h]

/-- A query and a spelling of it have one normal form, which is its own, exactly if no white space
stands between the semicolons at the end of the spelling. -/
theorem normalizeQuery_canonical_iff {query : Text} (spelling : Spelling query) :
    (normalizeQuery (normalizeQuery query) = normalizeQuery query ∧
        normalizeQuery spelling.text = normalizeQuery query ∧
        ∀ config, configuredQueryResponse config spelling.text =
          configuredQueryResponse config query) ↔
      ¬ SemicolonsApart spelling.text := by
  constructor
  · rintro ⟨hidempotent, hsame, -⟩
    rw [normalizeQuery_idempotent_iff, ← hsame] at hidempotent
    rwa [← getLast?_normalizeQuery_iff]
  · intro h
    have hsame : normalizeQuery spelling.text = normalizeQuery query :=
      (normalizeQuery_append spelling.mixture h).trans (normalizeQuery_body spelling)
    refine ⟨?_, hsame, configuredQueryResponse_of_eq hsame⟩
    rwa [normalizeQuery_idempotent_iff, ← hsame, ne_eq, getLast?_normalizeQuery_iff]

/-- A rule that answers one query. -/
def selectConfig : SimDatabaseConfig :=
  { serverVersion := none, credentials := none, databases := none,
    queryResponses := some ⟨[("select 1", "one")], List.pairwise_singleton _ _⟩ }

theorem normalizeQuery_not_canonical :
    normalizeQuery (normalizeQuery "select 1; ;") ≠ normalizeQuery "select 1; ;" ∧
      normalizeQuery "select 1; ;" ≠ normalizeQuery "select 1" ∧
      configuredQueryResponse selectConfig "select 1; ;" = none ∧
      configuredQueryResponse selectConfig "select 1" = some "one" := by
  decide +kernel

end ProtocolSimulation.Engine
