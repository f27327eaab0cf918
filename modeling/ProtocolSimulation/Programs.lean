import Mathlib.Data.Set.Lattice
import Mathlib.Logic.Relation

/-!
# Effect programs, atomic executions and interleavings

A program is a tree of atomic effects. The same tree is run in two ways: to its
end without interruption (`Exec`, for bodies that hold a lock), or as one of
many threads of which any may perform its next effect (`Step`). What an effect
does to the shared state, and which answers it may give, is a parameter.
-/
namespace ProtocolSimulation.Programs

/-- A program either returns, or performs one effect and goes on with its answer. -/
inductive Prog (E : Type) (R : E → Type) (α : Type) where
  | ret (a : α) : Prog E R α
  | call (e : E) (k : R e → Prog E R α) : Prog E R α

variable {E : Type} {R : E → Type} {S L α β : Type}

namespace Prog

def bind : Prog E R α → (α → Prog E R β) → Prog E R β
  | ret a, f => f a
  | call e k, f => call e fun r => (k r).bind f

instance : Monad (Prog E R) where
  pure := ret
  bind := bind

/-- The program that performs one effect and returns its answer. -/
def perform (e : E) : Prog E R (R e) := call e ret

/-- Run a program for its effects only, as a thread does. -/
def discard (p : Prog E R α) : Prog E R Unit := p.bind fun _ => ret ()

@[simp] theorem pure_eq (a : α) : (pure a : Prog E R α) = ret a := rfl

@[simp] theorem ret_bind (a : α) (f : α → Prog E R β) : (ret a >>= f) = f a := rfl

@[simp] theorem call_bind (e : E) (k : R e → Prog E R α) (f : α → Prog E R β) :
    (call e k >>= f) = call e fun r => k r >>= f := rfl

@[simp] theorem perform_bind (e : E) (f : R e → Prog E R β) : (perform e >>= f) = call e f := rfl

@[simp] theorem bind_ret (p : Prog E R α) : (p >>= ret) = p := by
  induction p with
  | ret a => rfl
  | call e k ih => rw [call_bind, funext ih]

theorem bind_eq (p : Prog E R α) (f : α → Prog E R β) : p.bind f = p >>= f := rfl

/-- Every effect that the program can come to satisfies `ok`, whatever the answers. -/
def Uses (ok : E → Prop) : Prog E R α → Prop
  | ret _ => True
  | call e k => ok e ∧ ∀ r, (k r).Uses ok

@[simp] theorem uses_ret (ok : E → Prop) (a : α) : (ret a : Prog E R α).Uses ok := trivial

@[simp] theorem uses_call (ok : E → Prop) (e : E) (k : R e → Prog E R α) :
    (call e k).Uses ok ↔ ok e ∧ ∀ r, (k r).Uses ok := Iff.rfl

@[simp] theorem uses_perform (ok : E → Prop) (e : E) :
    (perform e : Prog E R (R e)).Uses ok ↔ ok e := by simp [perform]

theorem uses_bind {ok : E → Prop} {p : Prog E R α} {f : α → Prog E R β}
    (hp : p.Uses ok) (hf : ∀ a, (f a).Uses ok) : (p >>= f).Uses ok := by
  induction p with
  | ret a => exact hf a
  | call e k ih => exact ⟨hp.1, fun r => ih r (hp.2 r)⟩

theorem Uses.mono {ok ok' : E → Prop} {p : Prog E R α} (hp : p.Uses ok) (h : ∀ e, ok e → ok' e) :
    p.Uses ok' := by
  induction p with
  | ret a => trivial
  | call e k ih => exact ⟨h e hp.1, fun r => ih r (hp.2 r)⟩

/-- Whatever the answers, the program returns something that satisfies `P`. -/
def Returns (P : α → Prop) : Prog E R α → Prop
  | ret a => P a
  | call _ k => ∀ r, (k r).Returns P

theorem returns_bind {P : α → Prop} {P' : β → Prop} {p : Prog E R α} {f : α → Prog E R β}
    (hp : p.Returns P) (hf : ∀ a, P a → (f a).Returns P') : (p >>= f).Returns P' := by
  induction p with
  | ret a => exact hf a hp
  | call e k ih => exact fun r => ih r (hp r)

/-- The effects of what comes after a program whose results are known. -/
theorem uses_bind_returns {ok : E → Prop} {P : α → Prop} {p : Prog E R α} {f : α → Prog E R β}
    (hp : p.Uses ok) (hreturns : p.Returns P) (hf : ∀ a, P a → (f a).Uses ok) :
    (p >>= f).Uses ok := by
  induction p with
  | ret a => exact hf a hreturns
  | call e k ih => exact ⟨hp.1, fun r => ih r (hp.2 r) (hreturns r)⟩

end Prog

/-! ## Uninterrupted executions -/

/-- What a program did: the effects it performed, each with the answer it got. -/
abbrev Trace (R : E → Type) := List (Sigma R)

/-- `p` runs alone from `s` to `s'`, performs the trace and returns `a`. -/
inductive Exec (act : S → (e : E) → R e → S → Prop) :
    S → Prog E R α → Trace R → S → α → Prop
  | ret {s : S} {a : α} : Exec act s (.ret a) [] s a
  | call {s s' s'' : S} {e : E} {r : R e} {k : R e → Prog E R α} {tr : Trace R} {a : α} :
      act s e r s' → Exec act s' (k r) tr s'' a → Exec act s (.call e k) (⟨e, r⟩ :: tr) s'' a

variable {act : S → (e : E) → R e → S → Prop}

@[simp] theorem exec_ret_iff {s s' : S} {a b : α} {tr : Trace R} :
    Exec act s (.ret a : Prog E R α) tr s' b ↔ tr = [] ∧ s' = s ∧ b = a := by
  constructor
  · rintro ⟨⟩; exact ⟨rfl, rfl, rfl⟩
  · rintro ⟨rfl, rfl, rfl⟩; exact .ret

theorem exec_call_iff {s s'' : S} {e : E} {k : R e → Prog E R α} {tr : Trace R} {a : α} :
    Exec act s (.call e k) tr s'' a ↔
      ∃ r s' tr', tr = ⟨e, r⟩ :: tr' ∧ act s e r s' ∧ Exec act s' (k r) tr' s'' a := by
  constructor
  · rintro ⟨⟩; exact ⟨_, _, _, rfl, ‹_›, ‹_›⟩
  · rintro ⟨r, s', tr', rfl, hact, hk⟩; exact .call hact hk

theorem exec_bind_iff {s s'' : S} {p : Prog E R α} {f : α → Prog E R β} {tr : Trace R} {b : β} :
    Exec act s (p >>= f) tr s'' b ↔
      ∃ tr₁ tr₂ s' a, tr = tr₁ ++ tr₂ ∧ Exec act s p tr₁ s' a ∧ Exec act s' (f a) tr₂ s'' b := by
  induction p generalizing s tr with
  | ret a => simp
  | call e k ih =>
    simp only [Prog.call_bind, exec_call_iff, ih]
    constructor
    · rintro ⟨r, s₁, _, rfl, hact, tr₁, tr₂, s', a, rfl, hk, hf⟩
      exact ⟨_, tr₂, s', a, rfl, ⟨r, s₁, tr₁, rfl, hact, hk⟩, hf⟩
    · rintro ⟨_, tr₂, s', a, rfl, ⟨r, s₁, tr₁, rfl, hact, hk⟩, hf⟩
      exact ⟨r, s₁, _, rfl, hact, tr₁, tr₂, s', a, rfl, hk, hf⟩

/-- What a program performs is among what it can come to. -/
theorem Exec.uses {ok : E → Prop} {s s' : S} {p : Prog E R α} {tr : Trace R} {a : α}
    (h : Exec act s p tr s' a) (hp : p.Uses ok) : ∀ x ∈ tr, ok x.1 := by
  induction h with
  | ret => simp
  | call _ _ ih => exact List.forall_mem_cons.mpr ⟨hp.1, ih (hp.2 _)⟩

/-- An execution, seen through a map of the states. -/
theorem Exec.map {S' : Type} {act' : S' → (e : E) → R e → S' → Prop} {f : S → S'}
    (hact : ∀ s e r s', act s e r s' → act' (f s) e r (f s')) {s s' : S} {p : Prog E R α}
    {tr : Trace R} {a : α} (h : Exec act s p tr s' a) : Exec act' (f s) p tr (f s') a := by
  induction h with
  | ret => exact .ret
  | call h _ ih => exact .call (hact _ _ _ _ h) ih

/-! ## Postconditions -/

/-- However `p` runs from `s`, it ends as `Q` says. -/
def Ensures (act : S → (e : E) → R e → S → Prop) (s : S) (p : Prog E R α)
    (Q : Trace R → S → α → Prop) : Prop := ∀ tr s' a, Exec act s p tr s' a → Q tr s' a

section Ensures

variable {s : S} {Q Q' : Trace R → S → α → Prop}

theorem ensures_ret {a : α} : Ensures act s (.ret a : Prog E R α) Q ↔ Q [] s a := by
  constructor
  · intro h
    exact h _ _ _ .ret
  · rintro h tr s' b hexec
    obtain ⟨rfl, rfl, rfl⟩ := exec_ret_iff.mp hexec
    exact h

theorem ensures_call {e : E} {k : R e → Prog E R α} :
    Ensures act s (.call e k) Q ↔
      ∀ r s', act s e r s' → Ensures act s' (k r) fun tr => Q (⟨e, r⟩ :: tr) := by
  constructor
  · intro h r s' hact tr s'' a hexec
    exact h _ _ _ (.call hact hexec)
  · intro h tr s'' a hexec
    obtain ⟨r, s', tr', rfl, hact, hk⟩ := exec_call_iff.mp hexec
    exact h r s' hact tr' s'' a hk

theorem Ensures.mono {p : Prog E R α} (h : Ensures act s p Q)
    (hQ : ∀ tr s' a, Q tr s' a → Q' tr s' a) : Ensures act s p Q' :=
  fun tr s' a hexec => hQ tr s' a (h tr s' a hexec)

theorem Ensures.bind {p : Prog E R β} {f : β → Prog E R α} {P : Trace R → S → β → Prop}
    (hp : Ensures act s p P)
    (hf : ∀ tr s' b, P tr s' b → Ensures act s' (f b) fun tr' => Q (tr ++ tr')) :
    Ensures act s (p >>= f) Q := by
  intro tr s'' a hexec
  obtain ⟨tr₁, tr₂, s', b, rfl, h₁, h₂⟩ := exec_bind_iff.mp hexec
  exact hf tr₁ s' b (hp tr₁ s' b h₁) tr₂ s'' a h₂

end Ensures

/-! ## Labelled runs -/

/-- A run from `s`, as the labels taken and the states they led to. -/
inductive Path (step : S → L → S → Prop) : S → List (L × S) → Prop
  | nil {s : S} : Path step s []
  | cons {s s' : S} {l : L} {rest : List (L × S)} :
      step s l s' → Path step s' rest → Path step s ((l, s') :: rest)

/-- Every step of the run, seen with the state before it, satisfies `C`. -/
def EveryStep (C : S → L → S → Prop) : S → List (L × S) → Prop
  | _, [] => True
  | s, (l, s') :: rest => C s l s' ∧ EveryStep C s' rest

/-- An invariant that every step keeps holds along every run. -/
theorem Path.everyStep {step P : S → L → S → Prop} {inv : S → Prop}
    (hstep : ∀ s l s', inv s → step s l s' → inv s' ∧ P s l s')
    {s : S} {run : List (L × S)} (hs : inv s) (hrun : Path step s run) : EveryStep P s run := by
  induction hrun with
  | nil => trivial
  | cons hst _ ih =>
    obtain ⟨hinv, hP⟩ := hstep _ _ _ hs hst
    exact ⟨hP, ih hinv⟩

/-- What holds of all labels of a run can be asked of each step. -/
theorem Path.labelled {step : S → L → S → Prop} {P : L → Prop} {s : S} {run : List (L × S)}
    (hrun : Path step s run) (h : ∀ entry ∈ run, P entry.1) :
    Path (fun s l s' => step s l s' ∧ P l) s run := by
  induction hrun with
  | nil => exact .nil
  | cons hstep _ ih =>
    rw [List.forall_mem_cons] at h
    exact .cons ⟨hstep, h.1⟩ (ih h.2)

/-- When every good step keeps the invariant, and from an invariant state a step is
good exactly when it meets the side condition, a run is good exactly when all its
steps meet it. -/
theorem Path.everyStep_iff {step C P : S → L → S → Prop} {inv : S → Prop}
    (hgood : ∀ s l s', inv s → step s l s' → (P s l s' ↔ C s l s'))
    (hinv : ∀ s l s', inv s → step s l s' → C s l s' → inv s')
    {s : S} {run : List (L × S)} (hs : inv s) (hrun : Path step s run) :
    EveryStep P s run ↔ EveryStep C s run := by
  induction hrun with
  | nil => exact Iff.rfl
  | cons hst _ ih =>
    simp only [EveryStep, hgood _ _ _ hs hst]
    exact and_congr_right fun hC => ih (hinv _ _ _ hs hst hC)

end ProtocolSimulation.Programs
