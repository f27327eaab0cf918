import Mathlib.Data.List.Chain
import Mathlib.Data.List.Sort
import Mathlib.Order.Bounds.Basic

/-!
# Maps in the order of their keys

A map is the list of its entries with strictly increasing keys. Besides reading
and inserting, an entry with the least key above a given one can be asked for;
asking again from each answer lists all entries above the first key.
-/
namespace ProtocolSimulation.SortedMaps

variable {κ α : Type}

structure SortedMap (κ α : Type) [LT κ] where
  entries : List (κ × α)
  sorted : (entries.map Prod.fst).Pairwise (· < ·)

variable [LinearOrder κ]

/-- Put an entry where its key belongs; it replaces one with the same key. -/
def insertEntry (k : κ) (v : α) : List (κ × α) → List (κ × α)
  | [] => [(k, v)]
  | (k', v') :: rest =>
    if k < k' then (k, v) :: (k', v') :: rest
    else if k = k' then (k, v) :: rest
    else (k', v') :: insertEntry k v rest

theorem mem_keys_insertEntry {k : κ} {v : α} {l : List (κ × α)} {k' : κ} :
    k' ∈ (insertEntry k v l).map Prod.fst ↔ k' = k ∨ k' ∈ l.map Prod.fst := by
  induction l with
  | nil => simp [insertEntry]
  | cons e rest ih =>
    obtain ⟨k₀, v₀⟩ := e
    rw [insertEntry]
    split_ifs with hlt heq
    · simp
    · subst heq
      simp
    · simp only [List.map_cons, List.mem_cons, ih]
      tauto

theorem insertEntry_sorted {k : κ} {v : α} {l : List (κ × α)}
    (h : (l.map Prod.fst).Pairwise (· < ·)) :
    ((insertEntry k v l).map Prod.fst).Pairwise (· < ·) := by
  induction l with
  | nil => simp [insertEntry]
  | cons e rest ih =>
    obtain ⟨k₀, v₀⟩ := e
    obtain ⟨hhead, htail⟩ := List.pairwise_cons.mp h
    rw [insertEntry]
    split_ifs with hlt heq
    · apply List.pairwise_cons.mpr ⟨?_, h⟩
      intro k' hk'
      rcases List.mem_cons.mp hk' with rfl | hk'
      · exact hlt
      · exact hlt.trans (hhead k' hk')
    · subst heq
      exact h
    · apply List.pairwise_cons.mpr ⟨?_, ih htail⟩
      intro k' hk'
      rcases mem_keys_insertEntry.mp hk' with rfl | hk'
      · exact lt_of_le_of_ne (not_lt.mp hlt) (Ne.symm heq)
      · exact hhead k' hk'

theorem find?_insertEntry (k k' : κ) (v : α) (l : List (κ × α)) :
    ((insertEntry k v l).find? (·.1 = k')).map Prod.snd =
      if k = k' then some v else (l.find? (·.1 = k')).map Prod.snd := by
  induction l with
  | nil => by_cases h : k = k' <;> simp [insertEntry, h]
  | cons e rest ih =>
    obtain ⟨k₀, v₀⟩ := e
    rw [insertEntry]
    by_cases hk : k = k'
    · subst hk
      rw [if_pos rfl] at ih ⊢
      split_ifs with hlt heq
      · simp
      · simp
      · rw [List.find?_cons_of_neg (by simpa using Ne.symm heq), ih]
    · rw [if_neg hk] at ih ⊢
      split_ifs with hlt heq
      · rw [List.find?_cons_of_neg (by simpa using hk)]
      · subst heq
        simp [hk]
      · by_cases hk₀ : k₀ = k'
        · simp [hk₀]
        · rw [List.find?_cons_of_neg (by simpa using hk₀),
            List.find?_cons_of_neg (by simpa using hk₀),
            ih]

namespace SortedMap

def empty : SortedMap κ α := ⟨[], List.Pairwise.nil⟩

def keys (m : SortedMap κ α) : List κ := m.entries.map Prod.fst

def get (m : SortedMap κ α) (k : κ) : Option α := (m.entries.find? (·.1 = k)).map Prod.snd

def insert (m : SortedMap κ α) (k : κ) (v : α) : SortedMap κ α :=
  ⟨insertEntry k v m.entries, insertEntry_sorted m.sorted⟩

/-- The entry with the least key above `k`. -/
def next (m : SortedMap κ α) (k : κ) : Option (κ × α) := m.entries.find? (k < ·.1)

theorem get_insert (m : SortedMap κ α) (k k' : κ) (v : α) :
    (m.insert k v).get k' = if k = k' then some v else m.get k' :=
  find?_insertEntry k k' v m.entries

theorem mem_keys_insert {m : SortedMap κ α} {k k' : κ} {v : α} :
    k' ∈ (m.insert k v).keys ↔ k' = k ∨ k' ∈ m.keys := mem_keys_insertEntry

theorem nodup_keys (m : SortedMap κ α) : m.keys.Nodup := m.sorted.imp ne_of_lt

/-- An entry of the map is what reading its key gives. -/
theorem get_eq_some_iff {m : SortedMap κ α} {k : κ} {v : α} :
    m.get k = some v ↔ (k, v) ∈ m.entries := by
  constructor
  · intro h
    obtain ⟨⟨k', v'⟩, hfound, hv⟩ := Option.map_eq_some_iff.mp h
    have hkey : k' = k := by simpa using List.find?_some hfound
    have hval : v' = v := hv
    subst hkey hval
    exact List.mem_of_find?_eq_some hfound
  · intro h
    cases hfound : m.entries.find? (·.1 = k) with
    | none => simpa using List.find?_eq_none.mp hfound (k, v) h
    | some e =>
      have hkey : e.1 = k := by simpa using List.find?_some hfound
      have heq : e = (k, v) :=
        List.inj_on_of_nodup_map m.nodup_keys (List.mem_of_find?_eq_some hfound) h hkey
      rw [get, hfound, heq]
      rfl

/-! ## What lies above a key -/

/-- The entries with a key above `k`, in order. -/
def above (m : SortedMap κ α) (k : κ) : List (κ × α) := m.entries.filter (k < ·.1)

theorem mem_above {m : SortedMap κ α} {k : κ} {e : κ × α} :
    e ∈ m.above k ↔ e ∈ m.entries ∧ k < e.1 := by simp [above]

/-- The keys above `k`, in order. -/
def keysAbove (m : SortedMap κ α) (k : κ) : List κ := m.keys.filter (k < ·)

theorem mem_keysAbove {m : SortedMap κ α} {k k' : κ} :
    k' ∈ m.keysAbove k ↔ k' ∈ m.keys ∧ k < k' := by simp [keysAbove]

theorem keysAbove_sorted (m : SortedMap κ α) (k : κ) : (m.keysAbove k).Pairwise (· < ·) :=
  m.sorted.sublist List.filter_sublist

theorem map_fst_above (m : SortedMap κ α) (k : κ) : (m.above k).map Prod.fst = m.keysAbove k := by
  rw [above, keysAbove, keys, List.filter_map]
  rfl

theorem next_eq_head? (m : SortedMap κ α) (k : κ) : m.next k = (m.above k).head? := by
  rw [next, above, List.head?_filter]

theorem next_eq_none_iff {m : SortedMap κ α} {k : κ} :
    m.next k = none ↔ ∀ k' ∈ m.keys, k' ≤ k := by
  simp [next, keys]

/-- `k'` is the least of the keys above `k`. -/
def IsNext (m : SortedMap κ α) (k k' : κ) : Prop := IsLeast {k'' | k'' ∈ m.keys ∧ k < k''} k'

theorem isNext_of_next {m : SortedMap κ α} {k : κ} {e : κ × α} (h : m.next k = some e) :
    m.IsNext k e.1 := by
  rw [next_eq_head?] at h
  obtain ⟨rest, habove⟩ := List.head?_eq_some_iff.mp h
  have hkeys := m.map_fst_above k
  rw [habove, List.map_cons] at hkeys
  have hsorted := m.keysAbove_sorted k
  rw [← hkeys, List.pairwise_cons] at hsorted
  constructor
  · apply mem_keysAbove.mp
    rw [← hkeys]
    exact List.mem_cons_self
  · intro k' hk'
    have hmem := mem_keysAbove.mpr hk'
    rw [← hkeys, List.mem_cons] at hmem
    rcases hmem with rfl | hmem
    · exact le_rfl
    · exact (hsorted.1 k' hmem).le

theorem next_of_isNext {m : SortedMap κ α} {k k' : κ} (h : m.IsNext k k') :
    ∃ v, m.next k = some (k', v) := by
  cases hnext : m.next k with
  | none =>
    have hle := next_eq_none_iff.mp hnext k' h.1.1
    exact absurd h.1.2 (not_lt.mpr hle)
  | some e =>
    have heq := (isNext_of_next hnext).unique h
    exact ⟨e.2, by rw [← heq]⟩

theorem mem_entries_of_next {m : SortedMap κ α} {k : κ} {e : κ × α} (h : m.next k = some e) :
    e ∈ m.entries := List.mem_of_find?_eq_some h

theorem mem_keys_of_get {m : SortedMap κ α} {k : κ} {v : α} (h : m.get k = some v) : k ∈ m.keys :=
  List.mem_map_of_mem (get_eq_some_iff.mp h)

/-- A key is the next one after the greatest key below it. -/
theorem isNext_of_isGreatest {m : SortedMap κ α} {k previous : κ} (hk : k ∈ m.keys)
    (h : IsGreatest {k' | k' ∈ m.keys ∧ k' < k} previous) : m.IsNext previous k := by
  constructor
  · exact ⟨hk, h.1.2⟩
  · intro k' hk'
    by_contra hlt
    exact not_lt.mpr (h.2 ⟨hk'.1, not_le.mp hlt⟩) hk'.2

/-- Above the least key above `k` lie the others. -/
theorem above_head {m : SortedMap κ α} {k : κ} {e : κ × α} {rest : List (κ × α)}
    (h : m.above k = e :: rest) : m.above e.1 = rest := by
  have hsorted := m.keysAbove_sorted k
  have hk : k < e.1 := (mem_above.mp (h ▸ List.mem_cons_self)).2
  rw [← map_fst_above, h, List.map_cons, List.pairwise_cons] at hsorted
  calc m.above e.1 = (m.above k).filter (e.1 < ·.1) := by
        rw [above, above, List.filter_filter]
        apply List.filter_congr
        intro e' _
        by_cases he' : e.1 < e'.1
        · simp [he', hk.trans he']
        · simp [he']
    _ = rest := by
        rw [h, List.filter_cons_of_neg (by simp)]
        apply List.filter_eq_self.mpr
        intro e' he'
        exact decide_eq_true (hsorted.1 e'.1 (List.mem_map_of_mem he'))

/-- At most `n` entries, each the next one after the one before. -/
def follow (m : SortedMap κ α) : ℕ → κ → List (κ × α)
  | 0, _ => []
  | n + 1, k =>
    match m.next k with
    | none => []
    | some e => e :: m.follow n e.1

theorem follow_eq_take (m : SortedMap κ α) (n : ℕ) (k : κ) :
    m.follow n k = (m.above k).take n := by
  induction n generalizing k with
  | zero => simp [follow]
  | succ n ih =>
    rw [follow, next_eq_head?]
    cases habove : m.above k with
    | nil => simp
    | cons e rest => simp [ih, above_head habove]

/-- Each key above `k` is the next one after the one before. -/
theorem isChain_keysAbove (m : SortedMap κ α) (k : κ) :
    List.IsChain m.IsNext (k :: m.keysAbove k) := by
  rw [← map_fst_above]
  generalize habove : m.above k = entries
  induction entries generalizing k with
  | nil => exact .singleton k
  | cons e rest ih =>
    have hnext : m.next k = some e := by rw [next_eq_head?, habove, List.head?_cons]
    exact .cons_cons (isNext_of_next hnext) (ih e.1 (above_head habove))

/-- Behind the last of the keys above `k` there is none. -/
theorem next_getLastD (m : SortedMap κ α) (k : κ) : m.next ((m.keysAbove k).getLastD k) = none := by
  rw [← map_fst_above]
  generalize habove : m.above k = entries
  induction entries generalizing k with
  | nil => rw [List.map_nil, List.getLastD_nil, next_eq_head?, habove, List.head?_nil]
  | cons e rest ih =>
    rw [List.map_cons, List.getLastD_cons]
    exact ih e.1 (above_head habove)

end SortedMap

end ProtocolSimulation.SortedMaps
