import Mathlib.Data.List.Chain
import Mathlib.Data.List.Pairwise

/-!
# Pages of a log that grows

The rows of a log are numbered, and no number is used twice. New rows are appended,
and the oldest ones may be cut off. A reader takes the pages from the newest row to
the oldest while the log goes on growing: rows move to later pages, so none that
stays in the log is passed over.
-/
namespace ProtocolSimulation.GrowingLogs

variable {α : Type} {key : α → ℕ}

/-- A log, with the last number that was used. -/
structure Log (key : α → ℕ) where
  rows : List α
  seq : ℕ
  increasing : rows.Pairwise fun a b => key a < key b
  assigned : ∀ r ∈ rows, key r ≤ seq

/-- The page of that number, counted from 1, of the rows from the newest to the oldest. -/
def Log.page (l : Log key) (number size : ℕ) : List α :=
  (l.rows.reverse.drop ((number - 1) * size)).take size

/-- The second log is the first one with its oldest rows cut off and newer ones appended. -/
structure Log.Grows (l l' : Log key) : Prop where
  seq : l.seq ≤ l'.seq
  rows : ∃ k newer, l'.rows = l.rows.drop k ++ newer ∧ ∀ r ∈ newer, l.seq < key r

theorem Log.Grows.refl (l : Log key) : l.Grows l :=
  ⟨Nat.le_refl _, 0, [], by simp, by simp⟩

theorem Log.Grows.trans {l₁ l₂ l₃ : Log key} (h : l₁.Grows l₂) (h' : l₂.Grows l₃) :
    l₁.Grows l₃ := by
  obtain ⟨k, newer, hrows, hnewer⟩ := h.rows
  obtain ⟨k', newer', hrows', hnewer'⟩ := h'.rows
  refine ⟨h.seq.trans h'.seq, k + k', newer.drop (k' - (l₁.rows.drop k).length) ++ newer', ?_, ?_⟩
  · rw [hrows', hrows, List.drop_append, List.drop_drop, List.append_assoc]
  · intro r hr
    obtain hold | hnew := List.mem_append.mp hr
    · exact hnewer r (List.mem_of_mem_drop hold)
    · exact lt_of_le_of_lt h.seq (hnewer' r hnew)

/-- How many rows of the log are newer than the row. -/
def Log.newer (l : Log key) (r : α) : ℕ := l.rows.countP fun q => key r < key q

theorem Log.newer_eq {l : Log key} {r : α} {front back : List α} (h : l.rows = front ++ r :: back) :
    l.newer r = back.length := by
  have hincreasing := l.increasing
  rw [h, List.pairwise_append] at hincreasing
  obtain ⟨-, hback, hfront⟩ := hincreasing
  have hnone : front.countP (fun q => key r < key q) = 0 := by
    rw [List.countP_eq_zero]
    intro q hq
    have hlt := hfront q hq r List.mem_cons_self
    simp only [decide_eq_true_eq]
    omega
  have hall : back.countP (fun q => key r < key q) = back.length := by
    rw [List.countP_eq_length]
    intro q hq
    simpa using (List.pairwise_cons.mp hback).1 q hq
  rw [Log.newer, h, List.countP_append, List.countP_cons_of_neg (by simp), hnone,
    hall, Nat.zero_add]

theorem Log.newer_lt {l : Log key} {r : α} (h : r ∈ l.rows) : l.newer r < l.rows.length := by
  obtain ⟨front, back, hrows⟩ := List.append_of_mem h
  rw [l.newer_eq hrows, hrows, List.length_append, List.length_cons]
  omega

/-- The row is on the page with one page fewer before it than rows newer than it. -/
theorem Log.mem_page {l : Log key} {r : α} {read size : ℕ} (h : r ∈ l.rows)
    (hfirst : read * size ≤ l.newer r) (hlast : l.newer r < (read + 1) * size) :
    r ∈ l.page (read + 1) size := by
  obtain ⟨front, back, hrows⟩ := List.append_of_mem h
  rw [l.newer_eq hrows] at hfirst hlast
  rw [Nat.add_mul, Nat.one_mul] at hlast
  have hget : l.rows.reverse[back.length]? = some r := by simp [hrows]
  have hpage : (l.page (read + 1) size)[back.length - read * size]? = some r := by
    rw [Log.page, Nat.add_sub_cancel, List.getElem?_take, if_pos (by omega), List.getElem?_drop,
      Nat.add_sub_cancel' hfirst, hget]
  exact List.mem_of_getElem? hpage

/-- A row that stays in a growing log gets newer rows, and loses none. -/
theorem Log.Grows.newer_le {l l' : Log key} (h : l.Grows l') {r : α} (hr : r ∈ l.rows)
    (hr' : r ∈ l'.rows) : l.newer r ≤ l'.newer r := by
  obtain ⟨k, added, hrows, hadded⟩ := h.rows
  obtain ⟨front, back, hsplit⟩ := List.append_of_mem hr
  have hkept : r ∈ l.rows.drop k := by
    rw [hrows] at hr'
    refine (List.mem_append.mp hr').resolve_right ?_
    intro hnew
    have hlt := hadded r hnew
    have hle := l.assigned r hr
    omega
  obtain ⟨front', back', hdrop⟩ := List.append_of_mem hkept
  have hall : l.rows = (l.rows.take k ++ front') ++ r :: back' := by
    rw [List.append_assoc, ← hdrop, List.take_append_drop]
  have hall' : l'.rows = front' ++ r :: (back' ++ added) := by
    rw [hrows, hdrop, List.append_assoc, List.cons_append]
  rw [l.newer_eq hall, l'.newer_eq hall', List.length_append]
  omega

/-- What a growing log lost does not come back. -/
theorem Log.Grows.mem_of_mem {l₁ l₂ l₃ : Log key} (h : l₁.Grows l₂) (h' : l₂.Grows l₃) {r : α}
    (hr : r ∈ l₁.rows) (hr' : r ∈ l₃.rows) : r ∈ l₂.rows := by
  obtain ⟨k, newer, hrows, hnewer⟩ := h'.rows
  rw [hrows] at hr'
  obtain hold | hnew := List.mem_append.mp hr'
  · exact List.mem_of_mem_drop hold
  · have hlt := hnewer r hnew
    have hle := l₁.assigned r hr
    have hseq := h.seq
    omega

/-- A row that stays in all of the logs is on the page that is read of one of them, if the pages
read of the last one reach down to its oldest row. -/
theorem exists_mem_page {size : ℕ} {r : α} {logs : List (Log key)} (hne : logs ≠ [])
    (hgrows : logs.IsChain Log.Grows) (hall : ∀ l ∈ logs, r ∈ l.rows) {read : ℕ}
    (hread : ∀ l, logs.head? = some l → read * size ≤ l.newer r)
    (hreach : ∀ l, logs.getLast? = some l → l.rows.length ≤ (read + logs.length) * size) :
    ∃ (i : ℕ) (l : Log key), logs[i]? = some l ∧ r ∈ l.page (read + i + 1) size := by
  induction logs generalizing read with
  | nil => exact absurd rfl hne
  | cons first rest ih =>
    have hmem := hall first List.mem_cons_self
    have hfirst := hread first rfl
    by_cases hseen : first.newer r < (read + 1) * size
    · exact ⟨0, first, rfl, Log.mem_page hmem hfirst hseen⟩
    · cases rest with
      | nil =>
        have hlt := Log.newer_lt hmem
        have hbound := hreach first rfl
        rw [List.length_singleton] at hbound
        omega
      | cons second rest =>
        obtain ⟨hone, hrest⟩ := List.isChain_cons_cons.mp hgrows
        have hle := hone.newer_le hmem (hall second (by simp))
        have hnext : ∀ l, (second :: rest).head? = some l → (read + 1) * size ≤ l.newer r := by
          intro l hl
          obtain rfl := Option.some.inj hl
          omega
        have hbound : ∀ l, (second :: rest).getLast? = some l →
            l.rows.length ≤ (read + 1 + (second :: rest).length) * size := by
          intro l hl
          have hlength := hreach l (by simpa using hl)
          rwa [List.length_cons, Nat.add_comm _ 1, ← Nat.add_assoc] at hlength
        obtain ⟨i, l, hi, hpage⟩ := ih (List.cons_ne_nil _ _) hrest
          (fun l hl => hall l (List.mem_cons_of_mem _ hl)) hnext hbound
        refine ⟨i + 1, l, hi, ?_⟩
        rwa [show read + (i + 1) + 1 = read + 1 + i + 1 by omega]

/-- A row that is in the first and in the last of growing logs is in all of them. -/
theorem mem_of_chain {r : α} {logs : List (Log key)} (hgrows : logs.IsChain Log.Grows)
    (hfirst : ∀ l, logs.head? = some l → r ∈ l.rows)
    (hlast : ∀ l, logs.getLast? = some l → r ∈ l.rows) : ∀ l ∈ logs, r ∈ l.rows := by
  have htrans : IsTrans (Log key) Log.Grows := ⟨fun _ _ _ => Log.Grows.trans⟩
  intro l hl
  cases logs with
  | nil => simp at hl
  | cons first rest =>
    have hmem := hfirst first rfl
    obtain rfl | hl := List.mem_cons.mp hl
    · exact hmem
    obtain rfl | ⟨middle, last, hrest⟩ := List.eq_nil_or_concat rest
    · simp at hl
    rw [List.concat_eq_append] at hrest
    subst hrest
    have hend := hlast last (by rw [← List.cons_append, List.getLast?_concat])
    obtain hl | hl := List.mem_append.mp hl
    · obtain ⟨hone, hrest⟩ := List.pairwise_cons.mp hgrows.pairwise
      have hnext := (List.pairwise_append.mp hrest).2.2 l hl last (List.mem_singleton_self _)
      exact (hone l (List.mem_append_left _ hl)).mem_of_mem hnext hmem hend
    · rwa [List.mem_singleton.mp hl]

end ProtocolSimulation.GrowingLogs
