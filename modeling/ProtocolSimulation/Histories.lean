import ProtocolSimulation.Ownership

/-!
# Threads with a history

The threads of a pool are calls of several kinds, numbered as they are launched, and
everything they do is recorded: who did it, what was answered, and the state before
and after. What is to be shown of single steps is then shown of the entries of the
history.
-/
namespace ProtocolSimulation.Programs

variable {E : Type} {R : E → Type} {S L Tok Debt α β : Type}

/-- An effect together with the number and the kind of the call that performs it. -/
structure Call (L E : Type) where
  number : ℕ
  kind : L
  effect : E

/-- An effect that was performed, with its answer. -/
structure Entry (S L : Type) (R : E → Type) where
  number : ℕ
  kind : L
  before : S
  did : Sigma R
  after : S

/-- The shared state, all that was done so far, and how many calls were launched. -/
structure Recorded (S L : Type) (R : E → Type) where
  state : S
  history : List (Entry S L R)
  calls : ℕ

/-- The program of a call, with its name on every effect. -/
def Prog.by (n : ℕ) (l : L) : Prog E R α → Prog (Call L E) (fun c => R c.effect) α
  | ret a => ret a
  | call e k => call ⟨n, l, e⟩ fun r => (k r).by n l

/-- An effect of a call is performed and recorded. `ok` says which entries may follow on
a history. -/
def record (act : S → (e : E) → R e → S → Prop) (ok : List (Entry S L R) → Entry S L R → Prop)
    (s : Recorded S L R) (c : Call L E) (r : R c.effect) (s' : Recorded S L R) : Prop :=
  ∃ t, act s.state c.effect r t ∧ ok s.history ⟨c.number, c.kind, s.state, ⟨c.effect, r⟩, t⟩ ∧
    s' = { s with
      state := t
      history := s.history ++ [⟨c.number, c.kind, s.state, ⟨c.effect, r⟩, t⟩] }

/-- A call is launched under the next number. -/
def recordLaunch (launch : S → L → Prog E R Unit → S → Prop) (s : Recorded S L R)
    (p : Prog (Call L E) (fun c => R c.effect) Unit) (s' : Recorded S L R) : Prop :=
  ∃ l q t, launch s.state l q t ∧ p = q.by s.calls l ∧ s' = { s with
    state := t
    calls := s.calls + 1 }

/-- The effects of one call. -/
abbrev recordBy (act : S → (e : E) → R e → S → Prop)
    (ok : List (Entry S L R) → Entry S L R → Prop) (n : ℕ) (l : L) (s : Recorded S L R) (e : E)
    (r : R e) (s' : Recorded S L R) : Prop := record act ok s ⟨n, l, e⟩ r s'

/-- The history before anything was done. -/
def Recorded.start (s : S) : Recorded S L R := ⟨s, [], 0⟩

/-- What the entry says is done and recorded. -/
def Recorded.add (s : Recorded S L R) (e : Entry S L R) : Recorded S L R :=
  { s with
    state := e.after
    history := s.history ++ [e] }

/-- Every entry satisfies `G`, seen with what was done before it. -/
def EveryEntry (G : List (Entry S L R) → Entry S L R → Prop) (h : List (Entry S L R)) : Prop :=
  ∀ h₁ e h₂, h = h₁ ++ e :: h₂ → G h₁ e

section EveryEntry

variable {G : List (Entry S L R) → Entry S L R → Prop}

theorem everyEntry_nil : EveryEntry G [] := by simp [EveryEntry]

theorem everyEntry_append {h : List (Entry S L R)} {e : Entry S L R} :
    EveryEntry G (h ++ [e]) ↔ EveryEntry G h ∧ G h e := by
  constructor
  · intro hall
    refine ⟨?_, hall h e [] rfl⟩
    intro h₁ e' h₂ heq
    exact hall h₁ e' (h₂ ++ [e]) (by simp [heq])
  · rintro ⟨hall, he⟩ h₁ e' h₂ heq
    rcases List.eq_nil_or_concat h₂ with rfl | ⟨h₃, e'', rfl⟩
    · obtain ⟨rfl, hlast⟩ := List.append_inj' heq rfl
      rwa [← List.singleton_inj.mp hlast]
    · have hinit : h ++ [e] = (h₁ ++ e' :: h₃) ++ [e''] := by simp [heq]
      exact hall h₁ e' h₃ (List.append_inj' hinit rfl).1

end EveryEntry

/-! ## Runs of one call -/

section Runs

variable {act : S → (e : E) → R e → S → Prop} {ok : List (Entry S L R) → Entry S L R → Prop}

@[simp] theorem Prog.by_call (n : ℕ) (l : L) (e : E) (k : R e → Prog E R α) :
    (Prog.call e k).by n l = .call ⟨n, l, e⟩ fun r => (k r).by n l := rfl

@[simp] theorem Prog.by_ret (n : ℕ) (l : L) (a : α) :
    (Prog.ret a : Prog E R α).by n l = .ret a := rfl

/-- What one call does without interruption is recorded after what was done before. `I` is what
is known of the history. -/
theorem Runs.record {act' : S → (e : E) → R e → S → Prop} {I : List (Entry S L R) → Prop}
    {n : ℕ} {l : L}
    (hok : ∀ h s e r s', I h → act' s e r s' → act s e r s' ∧ ok h ⟨n, l, s, ⟨e, r⟩, s'⟩ ∧
      I (h ++ [⟨n, l, s, ⟨e, r⟩, s'⟩]))
    {s s' : S} {p p' : Prog E R α} (h : Runs act' s p s' p') {before : List (Entry S L R)}
    (hbefore : I before) (calls : ℕ) :
    ∃ done, I (before ++ done) ∧ Runs (Programs.record act ok) ⟨s, before, calls⟩ (p.by n l)
      ⟨s', before ++ done, calls⟩ (p'.by n l) := by
  induction h generalizing before with
  | refl => exact ⟨[], by rwa [List.append_nil], by rw [List.append_nil]; exact .refl⟩
  | @call s s₁ s₂ e k p r hact _ ih =>
    obtain ⟨hact, hentry, hafter⟩ := hok before s e r s₁ hbefore hact
    obtain ⟨done, hI, hdone⟩ := ih hafter
    refine ⟨⟨n, l, s, ⟨e, r⟩, s₁⟩ :: done, ?_, .call r ⟨s₁, hact, hentry, rfl⟩ ?_⟩
    · rwa [List.append_assoc] at hI
    · rw [List.append_assoc] at hdone
      exact hdone

theorem Runs.recordAll {s s' : S} {p p' : Prog E R α} (h : Runs act s p s' p') (n : ℕ) (l : L)
    (before : List (Entry S L R)) (calls : ℕ) :
    ∃ done, Runs (Programs.record act fun _ _ => True) ⟨s, before, calls⟩ (p.by n l)
      ⟨s', before ++ done, calls⟩ (p'.by n l) := by
  have hrun : ∃ done, True ∧ Runs (Programs.record act fun _ _ => True)
      ⟨s, before, calls⟩ (p.by n l)
      ⟨s', before ++ done, calls⟩ (p'.by n l) :=
    Runs.record (I := fun _ => True) (fun _ _ _ _ _ _ hact => ⟨hact, trivial, trivial⟩)
      h trivial calls
  exact hrun.imp fun _ hdone => hdone.2

end Runs

/-! ## Reasoning about one call -/

namespace Discipline

variable {d : Discipline (Recorded S L R) Tok Debt} {act : S → (e : E) → R e → S → Prop}
  {ok : List (Entry S L R) → Entry S L R → Prop} {n : ℕ} {l : L}

theorem wp_by {Q : α → Set Tok → Set Debt → Recorded S L R → Prop} {p : Prog E R α} {O : Set Tok}
    {D : Set Debt} {s : Recorded S L R} (h : d.wp (recordBy act ok n l) Q p O D s) :
    d.wp (record act ok) Q (p.by n l) O D s := by
  induction p generalizing O D s with
  | ret a => exact h
  | call e k ih =>
    intro s₁ r s₂ hrely hinv hact
    obtain ⟨O', D', hmove, hk⟩ := h s₁ r s₂ hrely hinv hact
    exact ⟨O', D', hmove, ih r hk⟩

/-- A launch is sound when the call is safe under its number and its kind. -/
theorem starts_by {s s' : Recorded S L R} {q : Prog E R Unit} {O : Set Tok}
    (hmove : d.Move ∅ ∅ s s' O ∅) (h : d.wp (recordBy act ok n l) Settled q O ∅ s') :
    d.Starts (record act ok) s (q.by n l) s' := ⟨O, ∅, hmove, wp_by h⟩

end Discipline
end ProtocolSimulation.Programs
