import Mathlib.Data.Finset.Card
import Mathlib.Logic.Function.Basic

/-!
# Counted pointers

Objects are shared by owners each of which points to one object or to none. An object
lives as long as its count is positive. Weak pointers are names of objects: they keep
nothing alive, and can be upgraded while the object lives.
-/
namespace ProtocolSimulation.RefCounts

/-- How many strong pointers each object has, and which objects were allocated. -/
structure Arcs where
  strong : ℕ → ℕ
  next : ℕ

namespace Arcs

def empty : Arcs := ⟨fun _ => 0, 0⟩

/-- `Arc::new`. -/
def new (h : Arcs) : ℕ × Arcs := (h.next, ⟨Function.update h.strong h.next 1, h.next + 1⟩)

/-- `Arc::clone`. -/
def clone (h : Arcs) (a : ℕ) : Arcs :=
  { h with strong := Function.update h.strong a (h.strong a + 1) }

/-- An `Arc` is dropped. -/
def drop (h : Arcs) (a : ℕ) : Arcs :=
  { h with strong := Function.update h.strong a (h.strong a - 1) }

/-- `Weak::upgrade`. -/
def upgrade (h : Arcs) (a : ℕ) : Option (ℕ × Arcs) :=
  if 0 < h.strong a then some (a, h.clone a) else none

/-- Every count is the number of owners that point to the object, and they point to objects
that were allocated. -/
structure Counts {Owner : Type} (h : Arcs) (points : Owner → Option ℕ) : Prop where
  counted : ∀ a, ∃ owners : Finset Owner, owners.card = h.strong a ∧
    ∀ o, o ∈ owners ↔ points o = some a
  allocated : ∀ o a, points o = some a → a < h.next

variable {Owner : Type} {h : Arcs} {points : Owner → Option ℕ} {o : Owner} {a : ℕ}

theorem counts_empty : empty.Counts fun _ : Owner => none := by
  refine ⟨fun a => ⟨∅, rfl, ?_⟩, ?_⟩ <;> simp

/-- An object lives just if an owner points to it. -/
theorem Counts.alive_iff (hc : h.Counts points) : 0 < h.strong a ↔ ∃ o, points o = some a := by
  obtain ⟨owners, hcard, howners⟩ := hc.counted a
  rw [← hcard, Finset.card_pos]
  exact exists_congr howners

theorem Counts.strong_next (hc : h.Counts points) : h.strong h.next = 0 := by
  by_contra hne
  obtain ⟨o, ho⟩ := hc.alive_iff.mp (Nat.pos_of_ne_zero hne)
  exact absurd (hc.allocated o _ ho) (lt_irrefl _)

variable [DecidableEq Owner]

/-- An owner that points to nothing yet takes a pointer. -/
theorem Counts.clone (hc : h.Counts points) (ho : points o = none) (ha : a < h.next) :
    (h.clone a).Counts (Function.update points o (some a)) := by
  refine ⟨fun b => ?_, fun o' b hb => ?_⟩
  · obtain ⟨owners, hcard, howners⟩ := hc.counted b
    by_cases hab : b = a
    · subst hab
      have hnot : o ∉ owners := by
        rw [howners, ho]
        simp
      refine ⟨insert o owners, ?_, fun o' => ?_⟩
      · rw [Finset.card_insert_of_notMem hnot, hcard]
        simp [Arcs.clone]
      · by_cases hoo : o' = o <;> simp [hoo, howners]
    · refine ⟨owners, by simpa [Arcs.clone, hab] using hcard, fun o' => ?_⟩
      by_cases hoo : o' = o
      · subst hoo
        simp [howners, ho, Ne.symm hab]
      · simp [hoo, howners]
  · by_cases hoo : o' = o
    · subst hoo
      simp only [Function.update_self, Option.some.injEq] at hb
      exact hb ▸ ha
    · rw [Function.update_of_ne hoo] at hb
      exact hc.allocated o' b hb

/-- An owner that points to nothing yet allocates an object. -/
theorem Counts.new (hc : h.Counts points) (ho : points o = none) :
    h.new.2.Counts (Function.update points o (some h.next)) := by
  let room : Arcs := { h with next := h.next + 1 }
  have hroom : room.Counts points :=
    ⟨hc.counted, fun o' b hb => (hc.allocated o' b hb).trans (Nat.lt_succ_self _)⟩
  have hclone := hroom.clone ho (Nat.lt_succ_self h.next)
  have heq : room.clone h.next = h.new.2 := by
    simp [room, Arcs.clone, Arcs.new, hc.strong_next]
  rwa [heq] at hclone

/-- An owner gives its pointer back. -/
theorem Counts.drop (hc : h.Counts points) (ho : points o = some a) :
    (h.drop a).Counts (Function.update points o none) := by
  refine ⟨fun b => ?_, fun o' b hb => ?_⟩
  · obtain ⟨owners, hcard, howners⟩ := hc.counted b
    by_cases hab : b = a
    · subst hab
      have hmem : o ∈ owners := (howners o).mpr ho
      refine ⟨owners.erase o, ?_, fun o' => ?_⟩
      · rw [Finset.card_erase_of_mem hmem, hcard]
        simp [Arcs.drop]
      · by_cases hoo : o' = o <;> simp [hoo, howners]
    · refine ⟨owners, by simpa [Arcs.drop, hab] using hcard, fun o' => ?_⟩
      by_cases hoo : o' = o
      · subst hoo
        simp [howners, ho, Ne.symm hab]
      · simp [hoo, howners]
  · by_cases hoo : o' = o
    · subst hoo
      simp at hb
    · rw [Function.update_of_ne hoo] at hb
      exact hc.allocated o' b hb

end Arcs
end ProtocolSimulation.RefCounts
