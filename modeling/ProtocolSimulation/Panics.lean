import ProtocolSimulation.Fallible
import Mathlib.Algebra.Ring.Nat

/-!
# Computations that could panic

A computation succeeds, fails with an error that it reports, or panics: at an
index or a slice out of bounds, or at a sum that its type does not hold. It is
safe if it does not panic; what holds of its result is carried along.
-/
namespace ProtocolSimulation.Panics

open ProtocolSimulation.Fallible

inductive Fault (ε : Type) where
  | failed (e : ε)
  | outOfRange
  | overflow

abbrev Checked (ε α : Type) := Except (Fault ε) α

variable {ε α β : Type}

def fail (e : ε) : Checked ε α := .error (.failed e)

/-- A value that has to be there. -/
def orFail (e : ε) : Option α → Checked ε α
  | some a => .ok a
  | none => fail e

def ensure (c : Prop) [Decidable c] (e : ε) : Checked ε Unit := if c then .ok () else fail e

/-- `xs[i]`. -/
def index (xs : List α) (i : ℕ) : Checked ε α :=
  match xs[i]? with
  | some x => .ok x
  | none => .error .outOfRange

/-- `xs.get(i..j)`. -/
def getRange (xs : List α) (i j : ℕ) : Option (List α) :=
  if i ≤ j ∧ j ≤ xs.length then some ((xs.take j).drop i) else none

/-- `xs[i..j]`. -/
def slice (xs : List α) (i j : ℕ) : Checked ε (List α) :=
  match getRange xs i j with
  | some range => .ok range
  | none => .error .outOfRange

/-- A sum of two numbers of 64 bits. -/
def add (a b : ℕ) : Checked ε ℕ := if a + b < 2 ^ 64 then .ok (a + b) else .error .overflow

/-! ## Results -/

@[simp] theorem fail_ne_ok (e : ε) (a : α) : (fail e : Checked ε α) ≠ .ok a := by
  simp [fail]

@[simp] theorem orFail_ok_iff {e : ε} {o : Option α} {a : α} :
    (orFail e o : Checked ε α) = .ok a ↔ o = some a := by
  cases o <;> simp [orFail]

@[simp] theorem ensure_ok_iff {c : Prop} [Decidable c] {e : ε} {u : Unit} :
    (ensure c e : Checked ε Unit) = .ok u ↔ c := by
  unfold ensure
  split_ifs with h <;> simp [h]

@[simp] theorem index_ok_iff {xs : List α} {i : ℕ} {x : α} :
    (index xs i : Checked ε α) = .ok x ↔ xs[i]? = some x := by
  unfold index
  cases xs[i]? <;> simp

@[simp] theorem slice_ok_iff {xs range : List α} {i j : ℕ} :
    (slice xs i j : Checked ε (List α)) = .ok range ↔ getRange xs i j = some range := by
  unfold slice
  cases getRange xs i j <;> simp

@[simp] theorem add_ok_iff {a b c : ℕ} :
    (add a b : Checked ε ℕ) = .ok c ↔ a + b < 2 ^ 64 ∧ a + b = c := by
  unfold add
  split_ifs with h
  · exact ⟨fun hc => ⟨h, Except.ok.inj hc⟩, fun hc => congrArg Except.ok hc.2⟩
  · exact ⟨fun hc => absurd hc (by simp), fun hc => absurd hc.1 h⟩

theorem getRange_of_le {xs : List α} {i j : ℕ} (hij : i ≤ j) (hj : j ≤ xs.length) :
    getRange xs i j = some ((xs.take j).drop i) := if_pos ⟨hij, hj⟩

theorem length_of_getRange {xs range : List α} {i j : ℕ} (h : getRange xs i j = some range) :
    i ≤ j ∧ j ≤ xs.length ∧ range.length = j - i := by
  unfold getRange at h
  split_ifs at h with hbounds
  cases h
  refine ⟨hbounds.1, hbounds.2, ?_⟩
  rw [List.length_drop, List.length_take]
  omega

theorem drop_of_getRange {xs range : List α} {i j : ℕ} (h : getRange xs i j = some range) :
    xs.drop i = range ++ xs.drop j := by
  obtain ⟨hij, hj, _⟩ := length_of_getRange h
  rw [getRange_of_le hij hj] at h
  have hlength : (xs.take j).length = j := List.length_take_of_le hj
  rw [← Option.some.inj h, ← List.drop_append_of_le_length (by omega), List.take_append_drop]

theorem drop_of_getElem? {xs : List α} {i : ℕ} {x : α} (h : xs[i]? = some x) :
    xs.drop i = x :: xs.drop (i + 1) := by
  obtain ⟨hlt, rfl⟩ := List.getElem?_eq_some_iff.mp h
  exact List.drop_eq_getElem_cons hlt

/-- A range in the middle. -/
theorem getRange_append (xs range ys : List α) :
    getRange (xs ++ range ++ ys) xs.length (xs.length + range.length) = some range := by
  rw [getRange_of_le (by omega) (by simp), List.take_left' (by simp), List.drop_left]

/-! ## Safe computations -/

/-- The computation does not panic, and `P` holds of its result if there is one. -/
def Safe (P : α → Prop) (r : Checked ε α) : Prop :=
  (∀ a, r = .ok a → P a) ∧ ∀ fault, r = .error fault → ∃ e, fault = .failed e

variable {P Q : α → Prop}

theorem safe_ok {a : α} (h : P a) : Safe P (.ok a : Checked ε α) := by
  constructor
  · rintro _ ⟨⟩
    exact h
  · intro fault hfault
    cases hfault

theorem safe_fail (e : ε) : Safe P (fail e : Checked ε α) := by
  constructor
  · intro a ha
    cases ha
  · rintro _ ⟨⟩
    exact ⟨e, rfl⟩

theorem Safe.mono {r : Checked ε α} (h : Safe P r) (hPQ : ∀ a, P a → Q a) : Safe Q r :=
  ⟨fun a ha => hPQ a (h.1 a ha), h.2⟩

theorem Safe.bind {r : Checked ε α} {next : α → Checked ε β} {Q : β → Prop} (h : Safe P r)
    (hnext : ∀ a, P a → Safe Q (next a)) : Safe Q (r >>= next) := by
  cases r with
  | ok a => exact hnext a (h.1 a rfl)
  | error fault =>
    obtain ⟨e, rfl⟩ := h.2 fault rfl
    exact safe_fail e

theorem safe_ite {c : Prop} [Decidable c] {r r' : Checked ε α} (h : c → Safe P r)
    (h' : ¬ c → Safe P r') : Safe P (if c then r else r') := by
  split_ifs with hc
  · exact h hc
  · exact h' hc

theorem safe_orFail (e : ε) (a : Option α) : Safe (fun x => a = some x) (orFail e a) := by
  cases a with
  | none => exact safe_fail e
  | some a => exact safe_ok rfl

theorem safe_ensure (c : Prop) [Decidable c] (e : ε) : Safe (fun _ => c) (ensure c e) := by
  rw [ensure]
  split_ifs with h
  · exact safe_ok h
  · exact safe_fail e

theorem safe_index {xs : List α} {i : ℕ} (h : i < xs.length) :
    Safe (fun _ => True) (index xs i : Checked ε α) := by
  rw [index, List.getElem?_eq_getElem h]
  exact safe_ok trivial

theorem safe_slice {xs : List α} {i j : ℕ} (hij : i ≤ j) (hj : j ≤ xs.length) :
    Safe (fun range => range.length = j - i) (slice xs i j : Checked ε (List α)) := by
  rw [slice, getRange_of_le hij hj]
  apply safe_ok
  rw [List.length_drop, List.length_take]
  omega

theorem safe_add {a b : ℕ} (h : a + b < 2 ^ 64) :
    Safe (fun c => c = a + b) (add a b : Checked ε ℕ) := by
  rw [add, if_pos h]
  exact safe_ok rfl

end ProtocolSimulation.Panics
