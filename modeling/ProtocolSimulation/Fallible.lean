import Mathlib.Data.List.Forall2

/-!
# Computations that may fail

When a sequence of fallible steps succeeds, and with what result.
-/
namespace ProtocolSimulation.Fallible

variable {ε α β : Type}

@[simp] theorem ok_bind (a : α) (next : α → Except ε β) : (Except.ok a >>= next) = next a := rfl

@[simp] theorem error_bind (e : ε) (next : α → Except ε β) :
    ((Except.error e : Except ε α) >>= next) = .error e := rfl

@[simp] theorem pure_eq_ok (a : α) : (pure a : Except ε α) = .ok a := rfl

theorem bind_ok_iff {r : Except ε α} {next : α → Except ε β} {b : β} :
    (r >>= next) = .ok b ↔ ∃ a, r = .ok a ∧ next a = .ok b := by
  cases r <;> simp

/-- A check is passed if its condition for failing is not met. -/
theorem check_ok_iff {failing : Prop} [Decidable failing] {e : ε} {r : Except ε α} {a : α} :
    (if failing then .error e else r) = .ok a ↔ ¬failing ∧ r = .ok a := by
  by_cases h : failing <;> simp [h]

/-- A step for every element of a list succeeds if each of them does. -/
theorem mapM_ok_iff {step : α → Except ε β} {as : List α} {bs : List β} :
    as.mapM step = .ok bs ↔ List.Forall₂ (fun a b => step a = .ok b) as bs := by
  induction as generalizing bs with
  | nil => simp [eq_comm]
  | cons a as ih =>
    rw [List.mapM_cons, bind_ok_iff]
    constructor
    · intro h
      obtain ⟨b, hb, h⟩ := h
      obtain ⟨rest, hrest, hbs⟩ := bind_ok_iff.mp h
      cases hbs
      exact .cons hb (ih.mp hrest)
    · intro h
      cases h with
      | cons hb hrest => exact ⟨_, hb, bind_ok_iff.mpr ⟨_, ih.mpr hrest, rfl⟩⟩

theorem forM_ok_iff {step : α → Except ε Unit} {as : List α} :
    as.forM step = .ok () ↔ ∀ a ∈ as, step a = .ok () := by
  induction as with
  | nil => exact iff_of_true rfl (by simp)
  | cons a as ih =>
    show (step a >>= fun _ => as.forM step) = _ ↔ _
    rw [bind_ok_iff, List.forall_mem_cons]
    constructor
    · intro h
      obtain ⟨_, ha, has⟩ := h
      exact ⟨ha, ih.mp has⟩
    · intro h
      exact ⟨(), h.1, ih.mpr h.2⟩

theorem exists_mapM_ok_iff {step : α → Except ε β} {as : List α} :
    (∃ bs, as.mapM step = .ok bs) ↔ ∀ a ∈ as, ∃ b, step a = .ok b := by
  simp only [mapM_ok_iff]
  constructor
  · intro h
    obtain ⟨bs, hall⟩ := h
    induction hall with
    | nil => simp
    | cons hb _ ih => simpa using ⟨⟨_, hb⟩, ih⟩
  · intro h
    induction as with
    | nil => exact ⟨[], .nil⟩
    | cons a as ih =>
      obtain ⟨b, hb⟩ := h a List.mem_cons_self
      obtain ⟨bs, hbs⟩ := ih fun a' ha' => h a' (List.mem_cons_of_mem a ha')
      exact ⟨b :: bs, .cons hb hbs⟩

end ProtocolSimulation.Fallible
