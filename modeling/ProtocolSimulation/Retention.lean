import Mathlib.Data.List.DropRight
import Mathlib.Data.List.Nodup

/-!
# Keeping the last elements of a log

A log that only keeps its last `n` elements may be cut after every element or
once after many: the same elements remain. A store that deletes the oldest rows
of one owner by their keys keeps the last rows of that owner and all of the
others.
-/
namespace ProtocolSimulation.Retention

variable {α β κ : Type}

/-! ## Cutting now or later -/

@[simp] theorem length_rtake (l : List α) (n : ℕ) : (l.rtake n).length = min l.length n := by
  rw [List.rtake, List.length_drop]
  omega

theorem rtake_of_length_le {l : List α} {n : ℕ} (h : l.length ≤ n) : l.rtake n = l := by
  rw [List.rtake, Nat.sub_eq_zero_of_le h, List.drop_zero]

theorem map_rtake (f : α → β) (l : List α) (n : ℕ) : (l.rtake n).map f = (l.map f).rtake n := by
  rw [List.rtake, List.rtake, List.map_drop, List.length_map]

/-- What was cut off before does not matter for what remains in the end. -/
theorem rtake_append_rtake (l m : List α) (n : ℕ) :
    (l.rtake n ++ m).rtake n = (l ++ m).rtake n := by
  have hle : l.length - n ≤ l.length := Nat.sub_le _ _
  simp only [List.rtake]
  rw [← List.drop_append_of_le_length hle, List.drop_drop, List.length_drop, List.length_append]
  congr 1
  omega

/-- Cutting after every element leaves what one cut after the last leaves. -/
theorem foldl_rtake (n : ℕ) (l : List α) {m : List α} (h : m ≠ []) :
    m.foldl (fun kept x => (kept ++ [x]).rtake n) l = (l ++ m).rtake n := by
  induction m generalizing l with
  | nil => exact absurd rfl h
  | cons x m ih =>
    cases m with
    | nil => rfl
    | cons y m =>
      have hne : y :: m ≠ [] := by simp
      rw [List.foldl_cons, ih _ hne, rtake_append_rtake, List.append_assoc]
      rfl

/-! ## Deleting the oldest rows of one owner -/

section Prune

variable [DecidableEq κ] (key : α → κ) (owned : α → Bool)

/-- Delete the first `k` rows that satisfy `owned`, by their keys. -/
def prune (k : ℕ) (rows : List α) : List α :=
  rows.filter fun r => !(((rows.filter owned).take k).map key).contains (key r)

variable {key owned} {rows : List α} (hkey : (rows.map key).Nodup)
include hkey

theorem contains_taken_iff {k : ℕ} {r : α} (hr : r ∈ rows) :
    (((rows.filter owned).take k).map key).contains (key r) = true ↔
      r ∈ (rows.filter owned).take k := by
  rw [List.contains_iff_mem, List.mem_map]
  constructor
  · intro ⟨q, hq, hqr⟩
    have hq' : q ∈ rows := (List.mem_filter.mp (List.mem_of_mem_take hq)).1
    rw [← List.inj_on_of_nodup_map hkey hq' hr hqr]
    exact hq
  · intro h
    exact ⟨r, h, rfl⟩

/-- The owner keeps the rows after the first `k`. -/
theorem filter_owned_prune (k : ℕ) :
    (prune key owned k rows).filter owned = (rows.filter owned).drop k := by
  have hnodup : (rows.filter owned).Nodup := (List.Nodup.of_map key hkey).filter owned
  have hmem : ∀ r ∈ rows.filter owned, r ∈ rows := fun r hr => (List.mem_filter.mp hr).1
  have htaken : ∀ r ∈ rows.filter owned,
      (((rows.filter owned).take k).map key).contains (key r) = true ↔
        r ∈ (rows.filter owned).take k :=
    fun r hr => contains_taken_iff hkey (hmem r hr)
  have hsplit := (List.take_append_drop k (rows.filter owned)).symm
  rw [hsplit] at hnodup
  have hapart := (List.nodup_append.mp hnodup).2.2
  rw [prune, List.filter_comm]
  conv_lhs =>
    arg 2
    rw [hsplit]
  rw [List.filter_append, List.filter_eq_nil_iff.mpr, List.filter_eq_self.mpr, List.nil_append]
  · intro r hr
    have hnot : ¬ r ∈ (rows.filter owned).take k := fun h => hapart r h r hr rfl
    rw [Bool.eq_false_iff.mpr fun h => hnot ((htaken r (List.mem_of_mem_drop hr)).mp h)]
    rfl
  · intro r hr
    rw [(htaken r (List.mem_of_mem_take hr)).mpr hr]
    simp

/-- Whoever owns none of the owner's rows keeps all of theirs. -/
theorem filter_other_prune {other : α → Bool} (hother : ∀ r, other r = true → owned r = false)
    (k : ℕ) : (prune key owned k rows).filter other = rows.filter other := by
  rw [prune, List.filter_comm]
  apply List.filter_eq_self.mpr
  intro r hr
  obtain ⟨hmem, hr⟩ := List.mem_filter.mp hr
  have hnot : r ∉ (rows.filter owned).take k := by
    intro h
    have hown := (List.mem_filter.mp (List.mem_of_mem_take h)).2
    rw [hother r hr] at hown
    exact absurd hown (by simp)
  have hfalse := Bool.eq_false_iff.mpr fun h => hnot ((contains_taken_iff hkey hmem).mp h)
  rw [hfalse]
  rfl

end Prune
end ProtocolSimulation.Retention
