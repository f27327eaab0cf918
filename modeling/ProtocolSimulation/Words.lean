import Mathlib.Data.List.DropRight

/-!
# Words between blanks

The words of a list are its longest pieces without blanks. They are found again
in any list that has them in this order with some blanks in between.
-/
namespace ProtocolSimulation.Words

variable {α : Type} {blank : α → Bool}

def words (blank : α → Bool) (as : List α) : List (List α) :=
  (as.splitOnP blank).filter fun word => !word.isEmpty

/-- A list that can stand between blanks. -/
def IsWord (blank : α → Bool) (word : List α) : Prop := word ≠ [] ∧ ∀ a ∈ word, blank a = false

/-! ## Words of parts -/

@[simp] theorem words_nil : words blank [] = [] := by simp [words]

theorem words_append_cons {a : α} (h : blank a = true) (before after : List α) :
    words blank (before ++ a :: after) = words blank before ++ words blank after := by
  rw [words, List.splitOnP_append_cons _ _ h, List.filter_append]
  rfl

theorem words_cons {a : α} (h : blank a = true) (as : List α) :
    words blank (a :: as) = words blank as := by
  simpa using words_append_cons h [] as

theorem words_concat {a : α} (h : blank a = true) (as : List α) :
    words blank (as ++ [a]) = words blank as := by
  simpa using words_append_cons h as []

theorem words_of_isWord {word : List α} (h : IsWord blank word) : words blank word = [word] := by
  rw [words, List.splitOnP_eq_singleton h.2]
  simpa using h.1

theorem words_dropWhile (as : List α) : words blank (as.dropWhile blank) = words blank as := by
  induction as with
  | nil => rfl
  | cons a as ih =>
    cases h : blank a with
    | true => rw [List.dropWhile_cons_of_pos h, ih, words_cons h]
    | false => rw [List.dropWhile_cons_of_neg (by simp [h])]

theorem words_rdropWhile (as : List α) : words blank (as.rdropWhile blank) = words blank as := by
  induction as using List.reverseRecOn with
  | nil => rfl
  | append_singleton as a ih =>
    cases h : blank a with
    | true => rw [List.rdropWhile_concat_pos _ _ _ h, ih, words_concat h]
    | false => rw [List.rdropWhile_concat_neg _ _ _ (by simp [h])]

/-! ## What words consist of -/

theorem flatten_splitOnP (as : List α) :
    (as.splitOnP blank).flatten = as.filter fun a => !blank a := by
  induction as with
  | nil => rfl
  | cons a as ih =>
    rw [List.splitOnP_cons_eq_if_modifyHead]
    obtain ⟨piece, pieces, hpieces⟩ := List.exists_cons_of_ne_nil (List.splitOnP_ne_nil blank as)
    rw [hpieces] at ih ⊢
    cases h : blank a <;> simp [← ih, h]

/-- The words have all that is not blank, in order. -/
theorem flatten_words (as : List α) : (words blank as).flatten = as.filter fun a => !blank a := by
  rw [words, List.flatten_filter_not_isEmpty, flatten_splitOnP]

theorem isWord_of_mem_words {as word : List α} (h : word ∈ words blank as) : IsWord blank word := by
  constructor
  · have hfilter := (List.mem_filter.mp h).2
    simpa using hfilter
  · intro a ha
    have hmem : a ∈ (words blank as).flatten := List.mem_flatten.mpr ⟨word, h, ha⟩
    rw [flatten_words] at hmem
    simpa using (List.mem_filter.mp hmem).2

theorem words_intercalate {sep : α} (hsep : blank sep = true) {ws : List (List α)}
    (h : ∀ word ∈ ws, IsWord blank word) : words blank ([sep].intercalate ws) = ws := by
  induction ws with
  | nil => simp
  | cons word ws ih =>
    have hword := words_of_isWord (h word List.mem_cons_self)
    cases ws with
    | nil => simpa using hword
    | cons next ws =>
      have hrest := ih fun other hother => h other (List.mem_cons_of_mem word hother)
      rw [List.intercalate_cons_cons, List.append_assoc, List.singleton_append,
        words_append_cons hsep, hword, hrest]
      rfl

theorem splitOnP_map {f : α → α} (hf : ∀ a, blank (f a) = blank a) (as : List α) :
    (as.map f).splitOnP blank = (as.splitOnP blank).map (List.map f) := by
  induction as with
  | nil => rfl
  | cons a as ih =>
    rw [List.map_cons, List.splitOnP_cons_eq_if_modifyHead, List.splitOnP_cons_eq_if_modifyHead, hf,
      ih]
    obtain ⟨piece, pieces, hpieces⟩ := List.exists_cons_of_ne_nil (List.splitOnP_ne_nil blank as)
    cases blank a <;> simp [hpieces]

theorem words_map {f : α → α} (hf : ∀ a, blank (f a) = blank a) (as : List α) :
    words blank (as.map f) = (words blank as).map (List.map f) := by
  rw [words, splitOnP_map hf, words, List.filter_map]
  congr 1
  apply List.filter_congr
  intro word _
  simp

/-! ## The end of the last word -/

theorem rdropWhile_append (p : α → Bool) (as bs : List α) :
    (as ++ bs).rdropWhile p =
      if (bs.rdropWhile p).isEmpty then as.rdropWhile p else as ++ bs.rdropWhile p := by
  simp only [List.rdropWhile, List.reverse_append, List.dropWhile_append, List.isEmpty_reverse]
  split_ifs <;> simp

theorem rdropWhile_cons_of_neg {p : α → Bool} {a : α} (h : p a = false) (as : List α) :
    (a :: as).rdropWhile p = a :: as.rdropWhile p := by
  have hsingle : [a].rdropWhile p = [a] := by rw [List.rdropWhile_singleton, h]; rfl
  have happend := rdropWhile_append p [a] as
  rw [hsingle] at happend
  cases hrest : as.rdropWhile p with
  | nil => rwa [hrest] at happend
  | cons b rest => rwa [hrest] at happend

theorem of_mem_getLast?_rdropWhile {p : α → Bool} {as : List α} {a : α}
    (h : a ∈ (as.rdropWhile p).getLast?) : p a = false := by
  obtain ⟨hne, rfl⟩ := List.mem_getLast?_eq_getLast h
  simpa using List.rdropWhile_last_not p as hne

theorem rdropWhile_eq_self {p : α → Bool} {as : List α} (h : ∀ a ∈ as.getLast?, p a = false) :
    as.rdropWhile p = as := by
  rw [List.rdropWhile_eq_self_iff]
  intro hne
  simp [h _ (List.getLast_mem_getLast? hne)]

theorem rdropWhile_eq {p : α → Bool} {as bs : List α} (has : ∀ a ∈ as.getLast?, p a = false)
    (hbs : ∀ b ∈ bs, p b = true) : (as ++ bs).rdropWhile p = as := by
  rw [rdropWhile_append, List.rdropWhile_eq_nil_iff.mpr hbs, rdropWhile_eq_self has]
  rfl

/-- Cut off the end of the last word, or the whole of it. -/
def cutLast (cut : α → Bool) (ws : List (List α)) : List (List α) :=
  (ws.dropLast ++ (ws.getLast?.map (List.rdropWhile cut)).toList).filter fun word => !word.isEmpty

theorem cutLast_concat {cut : α → Bool} {ws : List (List α)} (h : ∀ word ∈ ws, word ≠ [])
    (last : List α) : cutLast cut (ws ++ [last]) =
      ws ++ [last.rdropWhile cut].filter fun word => !word.isEmpty := by
  have hws : (ws.filter fun word => !word.isEmpty) = ws :=
    List.filter_eq_self.mpr fun word hword => by simpa using h word hword
  rw [cutLast, List.dropLast_concat, List.getLast?_concat, Option.map_some, Option.toList_some,
    List.filter_append, hws]

theorem words_append_of_isWord {front word : List α} (hfront : ∀ a ∈ front.getLast?, blank a = true)
    (hword : IsWord blank word) : words blank (front ++ word) = words blank front ++ [word] := by
  rw [← words_of_isWord hword]
  cases front using List.reverseRecOn with
  | nil => simp
  | append_singleton front a =>
    have ha : blank a = true := hfront a (by simp)
    rw [List.append_assoc, List.singleton_append, words_append_cons ha, words_concat ha]

/-- A list that does not end with a blank, as its last word and what is in front of it. -/
theorem exists_lastWord {as : List α} (h : as.rdropWhile blank ≠ []) :
    ∃ front last, as.rdropWhile blank = front ++ last ∧ IsWord blank last ∧
      ∀ a ∈ front.getLast?, blank a = true := by
  let solid : α → Bool := fun a => !blank a
  let front := (as.rdropWhile blank).rdropWhile solid
  let last := (as.rdropWhile blank).rtakeWhile solid
  have happend : as.rdropWhile blank = front ++ last :=
    List.rdropWhile_append_rtakeWhile.symm
  have hlast : IsWord blank last := by
    constructor
    · intro hnil
      have hend := List.rdropWhile_last_not blank as h
      have hsolid := List.rtakeWhile_eq_nil_iff.mp hnil h
      simp [solid, hend] at hsolid
    · intro a ha
      simpa [solid] using List.mem_rtakeWhile_imp ha
  have hfront : ∀ a ∈ front.getLast?, blank a = true := by
    intro a ha
    simpa [solid] using of_mem_getLast?_rdropWhile ha
  exact ⟨front, last, happend, hlast, hfront⟩

theorem isWord_of_mem_cutLast {cut : α → Bool} {ws : List (List α)}
    (h : ∀ word ∈ ws, IsWord blank word) : ∀ word ∈ cutLast cut ws, IsWord blank word := by
  intro word hword
  obtain ⟨hmem, hne⟩ := List.mem_filter.mp hword
  constructor
  · simpa using hne
  · rw [List.mem_append, Option.mem_toList, Option.map_eq_some_iff] at hmem
    obtain hmem | ⟨last, hlast, rfl⟩ := hmem
    · exact (h word (List.dropLast_subset ws hmem)).2
    · intro a ha
      have hword := h last (List.mem_of_getLast? hlast)
      exact hword.2 a ((List.rdropWhile_prefix cut last).subset ha)

theorem rdropWhile_map {p : α → Bool} {f : α → α} (hf : ∀ a, p (f a) = p a) (as : List α) :
    (as.map f).rdropWhile p = (as.rdropWhile p).map f := by
  have hp : p ∘ f = p := funext hf
  rw [List.rdropWhile, ← List.map_reverse, List.dropWhile_map, hp, ← List.map_reverse]
  rfl

theorem cutLast_map {cut : α → Bool} {f : α → α} (hf : ∀ a, cut (f a) = cut a)
    (ws : List (List α)) :
    cutLast cut (ws.map (List.map f)) = (cutLast cut ws).map (List.map f) := by
  have hlast : (ws.map (List.map f)).getLast?.map (List.rdropWhile cut) =
      (ws.getLast?.map (List.rdropWhile cut)).map (List.map f) := by
    rw [List.getLast?_map, Option.map_map, Option.map_map]
    apply congrArg (Option.map · _)
    exact funext fun last => rdropWhile_map hf last
  rw [cutLast, hlast, cutLast, ← List.map_dropLast, Option.toList_map, ← List.map_append,
    List.filter_map]
  congr 1
  apply List.filter_congr
  intro word _
  simp

/-- What is cut off at the end of a list without the blanks there is cut off its last word. -/
theorem words_cut {cut : α → Bool} (hcut : ∀ a, cut a = true → blank a = false) (as : List α) :
    words blank ((as.rdropWhile blank).rdropWhile cut) = cutLast cut (words blank as) := by
  by_cases h : as.rdropWhile blank = []
  · rw [← words_rdropWhile as, h]
    rfl
  · obtain ⟨front, last, happend, hlast, hfront⟩ := exists_lastWord h
    have hne : ∀ word ∈ words blank front, word ≠ [] := fun word hword =>
      (isWord_of_mem_words hword).1
    rw [← words_rdropWhile as, happend, words_append_of_isWord hfront hlast, cutLast_concat hne,
      rdropWhile_append]
    cases hrest : last.rdropWhile cut with
    | nil =>
      have hkept : ∀ a ∈ front.getLast?, cut a = false := by
        intro a ha
        have hblank := hfront a ha
        by_contra hcutA
        rw [hcut a (by simpa using hcutA)] at hblank
        exact Bool.noConfusion hblank
      simp [rdropWhile_eq_self hkept]
    | cons a rest =>
      have hword : IsWord blank (a :: rest) := by
        constructor
        · exact List.cons_ne_nil a rest
        · intro b hb
          rw [← hrest] at hb
          exact hlast.2 b ((List.rdropWhile_prefix cut last).subset hb)
      simp [words_append_of_isWord hfront hword]

theorem getLast?_intercalate {sep : List α} {ws : List (List α)} (h : ∀ word ∈ ws, word ≠ []) :
    (sep.intercalate ws).getLast? = ws.flatten.getLast? := by
  induction ws with
  | nil => rfl
  | cons word ws ih =>
    cases ws with
    | nil => simp
    | cons next ws =>
      have hrest := ih fun other hother => h other (List.mem_cons_of_mem word hother)
      have hnext : next ++ ws.flatten ≠ [] := by simp [h next]
      have hjoined : sep.intercalate (next :: ws) ≠ [] := by
        intro hnil
        rw [hnil, List.flatten_cons] at hrest
        exact hnext (List.getLast?_eq_none_iff.mp hrest.symm)
      rw [List.intercalate_cons_cons, List.getLast?_append_of_ne_nil _ hjoined, hrest]
      exact (List.getLast?_append_of_ne_nil word hnext).symm

theorem cutLast_eq_self_iff {cut : α → Bool} {ws : List (List α)} (h : ∀ word ∈ ws, word ≠ []) :
    cutLast cut ws = ws ↔ ∀ a ∈ ws.flatten.getLast?, cut a = false := by
  cases ws using List.reverseRecOn with
  | nil => simp [cutLast]
  | append_singleton ws last =>
    have hlast : last ≠ [] := h last (by simp)
    have hfilter : ([last.rdropWhile cut].filter fun word => !word.isEmpty) = [last] ↔
        last.rdropWhile cut = last := by
      cases hcut : last.rdropWhile cut with
      | nil => simp [Ne.symm hlast]
      | cons a rest => simp
    rw [cutLast_concat fun word hword => h word (List.mem_append_left _ hword),
      List.append_right_inj, hfilter, List.rdropWhile_eq_self_iff, List.flatten_concat,
      List.getLast?_append_of_ne_nil _ hlast, List.getLast?_eq_some_getLast hlast]
    simp [hlast]

end ProtocolSimulation.Words
