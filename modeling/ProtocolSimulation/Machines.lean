import Mathlib.Data.List.Basic

/-!
# Machines

A machine takes actions one after the other. An action that cannot be taken where
it comes ends the run.
-/
namespace ProtocolSimulation.Machines

variable {S A : Type} {step : S → A → Option S} {s s' : S}

/-- The state after the actions, if every one of them can be taken where it comes. -/
def run (step : S → A → Option S) : S → List A → Option S
  | s, [] => some s
  | s, action :: actions => (step s action).bind fun s' => run step s' actions

theorem run_cons {action : A} {actions : List A} :
    run step s (action :: actions) = some s' ↔
      ∃ t, step s action = some t ∧ run step t actions = some s' := by
  simp [run, Option.bind_eq_some_iff]

/-- What every step keeps holds after the run. The invariant sees the actions taken so far. -/
theorem run_keeps {I : List A → S → Prop}
    (hstep : ∀ done s action s', I done s → step s action = some s' → I (done ++ [action]) s')
    {done actions : List A} (hs : I done s) (h : run step s actions = some s') :
    I (done ++ actions) s' := by
  induction actions generalizing s done with
  | nil =>
    cases h
    rwa [List.append_nil]
  | cons action actions ih =>
    obtain ⟨t, hone, hrest⟩ := run_cons.mp h
    have ht := ih (hstep done s action t hs hone) hrest
    rwa [List.append_assoc, List.singleton_append] at ht

/-- The part of a machine that changes, between the parts that stay. -/
theorem exists_split {P : Type} {parts : List P} {i : ℕ} {old : P} (h : parts[i]? = some old)
    (new : P) : ∃ front back, parts = front ++ old :: back ∧ front.length = i ∧
      parts.set i new = front ++ new :: back := by
  obtain ⟨hi, hold⟩ := List.getElem?_eq_some_iff.mp h
  obtain ⟨front, back, hparts, hlength, hset⟩ :
      ∃ front back, parts = front ++ parts[i] :: back ∧ front.length = i ∧
        parts.set i new = front ++ new :: back := List.exists_of_set hi
  exact ⟨front, back, hold ▸ hparts, hlength, hset⟩

theorem countP_replace_le {P : Type} {counted : P → Bool} {old : P} (h : counted old = true)
    (new : P) (front back : List P) :
    (front ++ new :: back).countP counted ≤ (front ++ old :: back).countP counted := by
  rw [List.countP_append, List.countP_append, List.countP_cons_of_pos h, List.countP_cons]
  split <;> omega

end ProtocolSimulation.Machines
