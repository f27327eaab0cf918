import Mathlib.Data.List.Nodup
import Mathlib.Data.Option.Basic

/-!
# Tables with a primary key

A table is a list of rows with pairwise distinct keys. Reading by key, filtering,
changing one row in place and inserting are described by what they do to the
partial map from keys to rows.
-/
namespace ProtocolSimulation.KeyedTables

variable {α κ : Type}

/-- Rows in the order of their insertion, no two with the same key. -/
structure Table (key : α → κ) where
  rows : List α
  distinct : (rows.map key).Nodup

namespace Table

variable {key : α → κ}

@[ext] theorem ext {t u : Table key} (h : t.rows = u.rows) : t = u := by
  cases t
  cases u
  subst h
  rfl

def empty (key : α → κ) : Table key := ⟨[], List.nodup_nil⟩

@[simp] theorem rows_empty : (empty key).rows = [] := rfl

/-- Two rows of a table with the same key are the same row. -/
theorem eq_of_key_eq {t : Table key} {r q : α} (hr : r ∈ t.rows) (hq : q ∈ t.rows)
    (h : key r = key q) : r = q :=
  List.inj_on_of_nodup_map t.distinct hr hq h

/-- Keep the rows that satisfy `p`. -/
def filter (t : Table key) (p : α → Bool) : Table key :=
  ⟨t.rows.filter p, (List.filter_sublist.map key).nodup t.distinct⟩

@[simp] theorem mem_filter {t : Table key} {p : α → Bool} {r : α} :
    r ∈ (t.filter p).rows ↔ r ∈ t.rows ∧ p r = true := List.mem_filter

theorem filter_eq_self {t : Table key} {p : α → Bool} (h : ∀ r ∈ t.rows, p r = true) :
    t.filter p = t := by
  ext1
  exact List.filter_eq_self.mpr h

variable [DecidableEq κ]

/-- The row with key `k`, if there is one. -/
def get (t : Table key) (k : κ) : Option α := t.rows.find? fun r => key r = k

theorem get_eq_some_iff {t : Table key} {k : κ} {r : α} :
    t.get k = some r ↔ r ∈ t.rows ∧ key r = k := by
  constructor
  · intro h
    have hkey := List.find?_some h
    exact ⟨List.mem_of_find?_eq_some h, by simpa using hkey⟩
  · intro ⟨hr, hkey⟩
    cases hget : t.get k with
    | none =>
      have hnone := List.find?_eq_none.mp hget r hr
      exact absurd hkey (by simpa using hnone)
    | some q =>
      have hq := List.mem_of_find?_eq_some hget
      have hqk : key q = k := by simpa using List.find?_some hget
      rw [eq_of_key_eq hq hr (hqk.trans hkey.symm)]

theorem get_eq_none_iff {t : Table key} {k : κ} : t.get k = none ↔ ∀ r ∈ t.rows, key r ≠ k := by
  simp [get]

theorem get_of_mem {t : Table key} {r : α} (hr : r ∈ t.rows) : t.get (key r) = some r :=
  get_eq_some_iff.mpr ⟨hr, rfl⟩

theorem key_of_get {t : Table key} {k : κ} {r : α} (h : t.get k = some r) : key r = k :=
  (get_eq_some_iff.mp h).2

@[simp] theorem get_empty (k : κ) : (empty key).get k = none := rfl

theorem get_filter (t : Table key) (p : α → Bool) (k : κ) :
    (t.filter p).get k = (t.get k).filter p := by
  ext r
  rw [get_eq_some_iff, mem_filter, Option.filter_eq_some_iff, get_eq_some_iff]
  exact and_right_comm

/-- Without one of its rows a table has one row less. -/
theorem length_filter_key_ne {t : Table key} {r : α} (hr : r ∈ t.rows) :
    (t.filter fun q => key q ≠ key r).rows.length + 1 = t.rows.length := by
  have hkeys : (t.filter fun q => key q ≠ key r).rows.map key = (t.rows.map key).erase (key r) := by
    rw [t.distinct.erase_eq_filter, List.filter_map, filter]
    congr 1
    apply List.filter_congr
    intro q _
    by_cases h : key q = key r <;> simp [h]
  have hmem : key r ∈ t.rows.map key := List.mem_map_of_mem hr
  have hlength := congrArg List.length hkeys
  rw [List.length_map, List.length_erase_of_mem hmem, List.length_map] at hlength
  have hpos := List.length_pos_of_mem hr
  omega

/-- Change the row with key `k` in place, if there is one. -/
def modify (t : Table key) (k : κ) (f : α → α) (hf : ∀ r, key (f r) = key r) : Table key :=
  ⟨t.rows.map fun r => if key r = k then f r else r, by
    have hkeys : (t.rows.map fun r => if key r = k then f r else r).map key = t.rows.map key := by
      rw [List.map_map]
      apply List.map_congr_left
      intro r _
      by_cases h : key r = k <;> simp [h, hf]
    rw [hkeys]
    exact t.distinct⟩

theorem mem_modify {t : Table key} {k : κ} {f : α → α} {hf : ∀ r, key (f r) = key r} {r : α} :
    r ∈ (t.modify k f hf).rows ↔ ∃ q ∈ t.rows, (if key q = k then f q else q) = r := List.mem_map

theorem get_modify (t : Table key) (k : κ) (f : α → α) (hf : ∀ r, key (f r) = key r) (j : κ) :
    (t.modify k f hf).get j = (t.get j).map fun r => if j = k then f r else r := by
  ext r
  rw [get_eq_some_iff, mem_modify, Option.map_eq_some_iff]
  constructor
  · intro ⟨⟨q, hq, hqr⟩, hkey⟩
    by_cases hk : key q = k
    · rw [if_pos hk] at hqr
      have hj : j = key q := by rw [← hkey, ← hqr, hf]
      exact ⟨q, get_eq_some_iff.mpr ⟨hq, hj.symm⟩, by rw [if_pos (hj.trans hk), hqr]⟩
    · rw [if_neg hk] at hqr
      subst hqr
      exact ⟨q, get_eq_some_iff.mpr ⟨hq, hkey⟩, if_neg (hkey ▸ hk)⟩
  · intro ⟨q, hget, hqr⟩
    obtain ⟨hq, rfl⟩ := get_eq_some_iff.mp hget
    refine ⟨⟨q, hq, hqr⟩, ?_⟩
    by_cases hk : key q = k
    · rw [if_pos hk] at hqr
      rw [← hqr, hf]
    · rw [if_neg hk] at hqr
      rw [← hqr]

/-- Insert a row. A row with its key makes the insertion fail. -/
def insert (t : Table key) (r : α) : Option (Table key) :=
  if h : t.get (key r) = none then
    some ⟨t.rows ++ [r], by
      have hnot := get_eq_none_iff.mp h
      rw [List.map_append, List.nodup_append]
      refine ⟨t.distinct, by simp, ?_⟩
      intro a ha b hb
      obtain ⟨q, hq, rfl⟩ := List.mem_map.mp ha
      simp only [List.map_cons, List.map_nil, List.mem_singleton] at hb
      rw [hb]
      exact hnot q hq⟩
  else none

theorem insert_eq_some_iff {t u : Table key} {r : α} :
    t.insert r = some u ↔ t.get (key r) = none ∧ u.rows = t.rows ++ [r] := by
  unfold insert
  split
  next h =>
    simp only [Option.some.injEq, h, true_and]
    constructor
    · intro heq
      rw [← heq]
    · intro hrows
      ext1
      rw [hrows]
  next h => simp [h]

theorem get_insert {t u : Table key} {r : α} (h : t.insert r = some u) (k : κ) :
    u.get k = if k = key r then some r else t.get k := by
  obtain ⟨hnone, hrows⟩ := insert_eq_some_iff.mp h
  unfold get at hnone ⊢
  rw [hrows, List.find?_append]
  by_cases hk : k = key r
  · subst hk
    rw [hnone]
    simp
  · have hk' : ¬ key r = k := fun heq => hk heq.symm
    simp [hk, hk']

/-- Insert a row, or change the row that has its key. -/
def upsert (t : Table key) (r : α) (f : α → α) (hf : ∀ q, key (f q) = key q) : Table key :=
  (t.insert r).getD (t.modify (key r) f hf)

theorem get_upsert (t : Table key) (r : α) (f : α → α) (hf : ∀ q, key (f q) = key q) (k : κ) :
    (t.upsert r f hf).get k =
      if k = key r then some ((t.get k).elim r f) else t.get k := by
  unfold upsert
  cases hins : t.insert r with
  | some u =>
    have hnone := (insert_eq_some_iff.mp hins).1
    rw [Option.getD_some, get_insert hins]
    by_cases hk : k = key r
    · subst hk
      simp [hnone]
    · simp [hk]
  | none =>
    have hsome : t.get (key r) ≠ none := by
      intro hnone
      simp [insert, hnone] at hins
    rw [Option.getD_none, get_modify]
    by_cases hk : k = key r
    · subst hk
      cases hget : t.get (key r) with
      | none => exact absurd hget hsome
      | some q => simp
    · cases hget : t.get k <;> simp [hk]

end Table
end ProtocolSimulation.KeyedTables
