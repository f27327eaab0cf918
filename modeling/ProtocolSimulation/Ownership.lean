import ProtocolSimulation.Programs
import Mathlib.Order.CompletePartialOrder

/-!
# Threads that own tokens and owe debts

Any number of threads run effect programs over one shared state, and any thread
may take the next step. A thread holds a set of tokens, exclusively, and carries
a set of debts. Tokens nobody holds are free in the shared state; debts nobody
carries must be settled in it. `rely O` is what a thread holding `O` may see the
others do, and a step is sound when it keeps the reliance of every thread whose
tokens are apart from the mover's. The rule `Discipline.reachable` then reasons
about one program at a time.
-/
namespace ProtocolSimulation.Programs

variable {E : Type} {R : E → Type} {S Tok Debt α β : Type}

/-- The shared state and the threads started so far. A thread that has ended
stays in its place as a program that only returns. -/
structure Pool (S : Type) (R : E → Type) where
  state : S
  threads : ℕ → Option (Prog E R Unit)

/-- One step: a new thread is launched, or one thread performs its next effect. -/
inductive Step (act : S → (e : E) → R e → S → Prop) (launch : S → Prog E R Unit → S → Prop) :
    Pool S R → Pool S R → Prop
  | launch {c : Pool S R} {s' : S} {p : Prog E R Unit} (t : ℕ) :
      c.threads t = none → launch c.state p s' →
      Step act launch c ⟨s', Function.update c.threads t (some p)⟩
  | run {c : Pool S R} {s' : S} {e : E} {k : R e → Prog E R Unit} (t : ℕ) (r : R e) :
      c.threads t = some (.call e k) → act c.state e r s' →
      Step act launch c ⟨s', Function.update c.threads t (some (k r))⟩

/-- Every interleaving, as the pools it can lead to. -/
abbrev Reachable (act : S → (e : E) → R e → S → Prop) (launch : S → Prog E R Unit → S → Prop) :
    Pool S R → Pool S R → Prop := Relation.ReflTransGen (Step act launch)

/-- One program runs for a while, and the rest of it is left. -/
inductive Runs (act : S → (e : E) → R e → S → Prop) : S → Prog E R α → S → Prog E R α → Prop
  | refl {s : S} {p : Prog E R α} : Runs act s p s p
  | call {s s' s'' : S} {e : E} {k : R e → Prog E R α} {p : Prog E R α} (r : R e) :
      act s e r s' → Runs act s' (k r) s'' p → Runs act s (.call e k) s'' p

theorem Runs.trans {act : S → (e : E) → R e → S → Prop} {s s' s'' : S} {p p' p'' : Prog E R α}
    (h : Runs act s p s' p') (h' : Runs act s' p' s'' p'') : Runs act s p s'' p'' := by
  induction h with
  | refl => exact h'
  | call r hact _ ih => exact .call r hact (ih h')

theorem Runs.bind {act : S → (e : E) → R e → S → Prop} {s s' : S} {p p' : Prog E R α}
    (h : Runs act s p s' p') (f : α → Prog E R β) : Runs act s (p >>= f) s' (p' >>= f) := by
  induction h with
  | refl => exact .refl
  | call r hact _ ih => exact .call r hact ih

theorem Runs.mono {act act' : S → (e : E) → R e → S → Prop}
    (hsub : ∀ s e r s', act s e r s' → act' s e r s') {s s' : S} {p p' : Prog E R α}
    (h : Runs act s p s' p') : Runs act' s p s' p' := by
  induction h with
  | refl => exact .refl
  | call r hact _ ih => exact .call r (hsub _ _ _ _ hact) ih

/-- A thread may run for a while without any other taking a step. -/
theorem Reachable.runs {act : S → (e : E) → R e → S → Prop} {launch : S → Prog E R Unit → S → Prop}
    {c₀ : Pool S R} {s s' : S} {p p' : Prog E R Unit} {threads : ℕ → Option (Prog E R Unit)} (t : ℕ)
    (hc : Reachable act launch c₀ ⟨s, threads⟩) (ht : threads t = some p) (h : Runs act s p s' p') :
    Reachable act launch c₀ ⟨s', Function.update threads t (some p')⟩ := by
  induction h generalizing threads with
  | refl => rwa [← ht, Function.update_eq_self]
  | call r hact _ ih =>
    have hstep := hc.tail (.run t r ht hact)
    have hrest := ih hstep (Function.update_self t _ threads)
    rwa [Function.update_idem] at hrest

/-- No thread is in flight. -/
def Pool.Quiescent (c : Pool S R) : Prop :=
  ∀ t p, c.threads t = some p → p = .ret ()

/-- A pool in which no thread was started. -/
def Pool.start (s : S) : Pool S R := ⟨s, fun _ => none⟩

/-- One thread alone may run to its end. -/
theorem Reachable.alone {act : S → (e : E) → R e → S → Prop} {launch : S → Prog E R Unit → S → Prop}
    {s s₁ s' : S} {p : Prog E R Unit} (hl : launch s p s₁) (h : Runs act s₁ p s' (.ret ())) :
    ∃ c, Reachable act launch (Pool.start s) c ∧ c.state = s' ∧ c.Quiescent := by
  have h₀ : Reachable act launch (Pool.start s) ⟨s₁, Function.update (fun _ => none) 0 (some p)⟩ :=
    .tail .refl (.launch 0 rfl hl)
  refine ⟨_, Reachable.runs 0 h₀ (Function.update_self ..) h, rfl, ?_⟩
  intro t q ht
  by_cases h0 : t = 0
  · subst h0
    exact (Option.some.inj ht).symm
  · simp [h0] at ht

/-- The shared invariant, the free tokens, the unsettled debts, and what a thread
may rely on. -/
structure Discipline (S Tok Debt : Type) where
  inv : S → Prop
  free : S → Set Tok
  owed : S → Set Debt
  rely : Set Tok → S → S → Prop
  rely_refl : ∀ O s, rely O s s
  rely_trans : ∀ {O s s' s''}, rely O s s' → rely O s' s'' → rely O s s''

namespace Discipline

/-- A thread holding `O` and carrying `D` may move the state from `s` to `s'`,
holding `O'` and carrying `D'` afterwards. -/
structure Move (d : Discipline S Tok Debt) (O : Set Tok) (D : Set Debt) (s s' : S)
    (O' : Set Tok) (D' : Set Debt) : Prop where
  inv : d.inv s'
  rely : ∀ P, Disjoint O P → Disjoint P (d.free s) → d.rely P s s'
  owns : O' ⊆ O ∪ d.free s
  apart : Disjoint O' (d.free s')
  freed : d.free s' ⊆ d.free s ∪ O
  owes : d.owed s' ⊆ d.owed s \ D ∪ D'

variable {d : Discipline S Tok Debt} {act : S → (e : E) → R e → S → Prop}

/-- Weakest precondition of a program run by a thread among others: before each of
its effects the others may have moved the state as far as `rely` allows. -/
def wp (d : Discipline S Tok Debt) (act : S → (e : E) → R e → S → Prop)
    (Q : α → Set Tok → Set Debt → S → Prop) :
    Prog E R α → Set Tok → Set Debt → S → Prop
  | .ret a, O, D, s => Q a O D s
  | .call e k, O, D, s => ∀ s₁ r s₂, d.rely O s s₁ → d.inv s₁ → act s₁ e r s₂ →
      ∃ O' D', d.Move O D s₁ s₂ O' D' ∧ wp d act Q (k r) O' D' s₂

/-- A thread may end with tokens, which then stay unused, but not with debts. -/
def Settled (_ : α) (_ : Set Tok) (D : Set Debt) (_ : S) : Prop := D = ∅

section Rules

variable {Q Q' : α → Set Tok → Set Debt → S → Prop} {O O' : Set Tok} {D D' : Set Debt} {s s' : S}

@[simp] theorem wp_ret (a : α) : d.wp act Q (.ret a : Prog E R α) O D s ↔ Q a O D s := Iff.rfl

theorem wp_call {e : E} {k : R e → Prog E R α} :
    d.wp act Q (.call e k) O D s ↔ ∀ s₁ r s₂, d.rely O s s₁ → d.inv s₁ → act s₁ e r s₂ →
      ∃ O' D', d.Move O D s₁ s₂ O' D' ∧ d.wp act Q (k r) O' D' s₂ := Iff.rfl

theorem wp_bind {p : Prog E R β} {f : β → Prog E R α} :
    d.wp act Q (p >>= f) O D s ↔ d.wp act (fun b => d.wp act Q (f b)) p O D s := by
  induction p generalizing O D s with
  | ret a => exact Iff.rfl
  | call e k ih => simp only [Prog.call_bind, wp_call, ih]

theorem wp_mono {p : Prog E R α} (h : ∀ a O D s, Q a O D s → Q' a O D s)
    (hp : d.wp act Q p O D s) : d.wp act Q' p O D s := by
  induction p generalizing O D s with
  | ret a => exact h _ _ _ _ hp
  | call e k ih =>
    intro s₁ r s₂ hrely hinv hact
    obtain ⟨O', D', hmove, hk⟩ := hp s₁ r s₂ hrely hinv hact
    exact ⟨O', D', hmove, ih r hk⟩

/-- What a program returns whatever the answers, it returns among others. -/
theorem wp_returns {P : α → Prop} {p : Prog E R α} (hreturns : p.Returns P)
    (hp : d.wp act Q p O D s) : d.wp act (fun a O D s => Q a O D s ∧ P a) p O D s := by
  induction p generalizing O D s with
  | ret a => exact ⟨hp, hreturns⟩
  | call e k ih =>
    intro s₁ r s₂ hrely hinv hact
    obtain ⟨O', D', hmove, hk⟩ := hp s₁ r s₂ hrely hinv hact
    exact ⟨O', D', hmove, ih r (hreturns r) hk⟩

theorem wp_discard {p : Prog E R α} (hp : d.wp act Settled p O D s) :
    d.wp act Settled p.discard O D s := by
  rw [Prog.discard, Prog.bind_eq, wp_bind]
  exact wp_mono (fun _ _ _ _ h => h) hp

/-- What others do in the meantime does not spoil a program yet to be run. -/
theorem wp_rely {p : Prog E R α} (hp : d.wp act Settled p O D s) (h : d.rely O s s') :
    d.wp act Settled p O D s' := by
  cases p with
  | ret a => exact hp
  | call e k =>
    intro s₁ r s₂ hrely hinv hact
    exact hp s₁ r s₂ (d.rely_trans h hrely) hinv hact

/-- A step that frees no token and leaves no new debt. -/
theorem Move.keep (hinv : d.inv s')
    (hrely : ∀ P, Disjoint O P → Disjoint P (d.free s) → d.rely P s s')
    (hO : Disjoint O (d.free s')) (hfree : d.free s' ⊆ d.free s) (howed : d.owed s' ⊆ d.owed s) :
    d.Move O D s s' O D := by
  refine ⟨hinv, hrely, Set.subset_union_left, hO, hfree.trans Set.subset_union_left, ?_⟩
  intro x hx
  by_cases hxD : x ∈ D
  · exact .inr hxD
  · exact .inl ⟨howed hx, hxD⟩

end Rules

/-! ## Programs that hold nothing -/

/-- What a thread without tokens and debts can rely on once it knows it. -/
def Stable (d : Discipline S Tok Debt) (K : S → Prop) : Prop := ∀ s s', d.rely ∅ s s' → K s → K s'

/-- Started from knowledge `K` with nothing in hand, `p` is safe and ends with knowledge
`Q` and nothing in hand. -/
def Triple (d : Discipline S Tok Debt) (act : S → (e : E) → R e → S → Prop) (K : S → Prop)
    (p : Prog E R α) (Q : α → S → Prop) : Prop :=
  ∀ s, K s → d.wp act (fun a O D s' => O = ∅ ∧ D = ∅ ∧ Q a s') p ∅ ∅ s

section Triples

variable {K : S → Prop} {Q : α → S → Prop}

theorem stable_true : d.Stable fun _ => True := fun _ _ _ h => h

theorem Stable.and {K' : S → Prop} (h : d.Stable K) (h' : d.Stable K') :
    d.Stable fun s => K s ∧ K' s := fun s s' hrely hK => ⟨h s s' hrely hK.1, h' s s' hrely hK.2⟩

/-- What one step of a thread with nothing in hand lets others rely on, it can rely on itself. -/
theorem Move.rely_empty {s s' : S} {D D' : Set Debt} {O' : Set Tok} (h : d.Move ∅ D s s' O' D') :
    d.rely ∅ s s' := h.rely ∅ (Set.disjoint_empty _) (Set.empty_disjoint _)

theorem Triple.ret {a : α} (h : ∀ s, K s → Q a s) : d.Triple act K (.ret a : Prog E R α) Q :=
  fun s hK => ⟨rfl, rfl, h s hK⟩

/-- The rule for an effect: it must be a move, and its answer may add to what is known. -/
theorem Triple.call {e : E} {k : R e → Prog E R α} {A : R e → S → Prop} (hK : d.Stable K)
    (hstep : ∀ s r s', K s → d.inv s → act s e r s' → d.Move ∅ ∅ s s' ∅ ∅ ∧ A r s')
    (hk : ∀ r, d.Triple act (A r) (k r) Q) : d.Triple act K (.call e k) Q := by
  intro s hs s₁ r s₂ hrely hinv hact
  obtain ⟨hmove, hA⟩ := hstep s₁ r s₂ (hK s s₁ hrely hs) hinv hact
  exact ⟨∅, ∅, hmove, hk r s₂ hA⟩

theorem Triple.bind {p : Prog E R β} {f : β → Prog E R α} {Q' : β → S → Prop}
    (hp : d.Triple act K p Q') (hf : ∀ b, d.Triple act (Q' b) (f b) Q) :
    d.Triple act K (p >>= f) Q := by
  intro s hs
  rw [wp_bind]
  refine wp_mono ?_ (hp s hs)
  rintro b O D s' ⟨rfl, rfl, hQ'⟩
  exact hf b s' hQ'

theorem Triple.weaken {J : S → Prop} {P : α → S → Prop} {p : Prog E R α} (h : d.Triple act J p P)
    (hK : ∀ s, K s → J s) (hQ : ∀ a s, P a s → Q a s) : d.Triple act K p Q := by
  intro s hs
  exact wp_mono (fun a _ _ s' hpost => ⟨hpost.1, hpost.2.1, hQ a s' hpost.2.2⟩) (h s (hK s hs))

theorem Triple.returns {P : α → Prop} {p : Prog E R α} (h : d.Triple act K p Q) (hp : p.Returns P) :
    d.Triple act K p fun a s => Q a s ∧ P a := by
  intro s hs
  refine wp_mono ?_ (wp_returns hp (h s hs))
  rintro a O D s' ⟨⟨hO, hD, hQ⟩, hP⟩
  exact ⟨hO, hD, hQ, hP⟩

/-- A program all of whose effects are moves under what is known keeps that knowledge. -/
theorem Triple.of_uses {p : Prog E R α} {ok : E → Prop} (hK : d.Stable K)
    (hok : ∀ e, ok e → ∀ s r s', K s → d.inv s → act s e r s' → d.Move ∅ ∅ s s' ∅ ∅)
    (hp : p.Uses ok) : d.Triple act K p fun _ => K := by
  induction p with
  | ret a => exact .ret fun _ h => h
  | call e k ih =>
    refine .call hK (A := fun _ => K) ?_ fun r => ih r (hp.2 r)
    intro s r s' hs hinv hact
    have hmove := hok e hp.1 s r s' hs hinv hact
    exact ⟨hmove, hK s s' hmove.rely_empty hs⟩

theorem Triple.settled {p : Prog E R α} (h : d.Triple act K p Q) {s : S} (hs : K s) :
    d.wp act Settled p ∅ ∅ s := wp_mono (fun _ _ _ _ hpost => hpost.2.1) (h s hs)

end Triples

/-! ## Programs that hold tokens -/

/-- What a thread holds does not become free behind its back. -/
def Guarded (d : Discipline S Tok Debt) : Prop :=
  ∀ O s s', d.rely O s s' → Disjoint O (d.free s) → Disjoint O (d.free s')

/-- Started from knowledge `K` with the tokens `O` and no debts, `p` is safe. It ends without
debts, and `Q` says what it then knows and holds. -/
def Hoare (d : Discipline S Tok Debt) (act : S → (e : E) → R e → S → Prop) (O : Set Tok)
    (K : S → Prop) (p : Prog E R α) (Q : α → Set Tok → S → Prop) : Prop :=
  ∀ s, K s → Disjoint O (d.free s) →
    d.wp act (fun a O' D s' => D = ∅ ∧ Disjoint O' (d.free s') ∧ Q a O' s') p O ∅ s

section Hoare

variable {O : Set Tok} {K : S → Prop} {Q : α → Set Tok → S → Prop}

theorem Hoare.ret {a : α} (h : ∀ s, K s → Q a O s) : d.Hoare act O K (.ret a : Prog E R α) Q :=
  fun s hK hO => ⟨rfl, hO, h s hK⟩

theorem Hoare.bind {p : Prog E R β} {f : β → Prog E R α} {P : β → Set Tok → S → Prop}
    (hp : d.Hoare act O K p P) (hf : ∀ b O', d.Hoare act O' (P b O') (f b) Q) :
    d.Hoare act O K (p >>= f) Q := by
  intro s hs hO
  rw [wp_bind]
  refine wp_mono ?_ (hp s hs hO)
  rintro b O' D s' ⟨rfl, hO', hP⟩
  exact hf b O' s' hP hO'

/-- What the thread holds after the first part is known. -/
theorem Hoare.seq {O₁ : Set Tok} {p : Prog E R β} {f : β → Prog E R α} {P : β → S → Prop}
    (hp : d.Hoare act O K p fun b O' s => O' = O₁ ∧ P b s)
    (hf : ∀ b, d.Hoare act O₁ (P b) (f b) Q) : d.Hoare act O K (p >>= f) Q := by
  refine hp.bind ?_
  rintro b O' s ⟨rfl, hs⟩ hO
  exact hf b s hs hO

theorem Hoare.weaken {J : S → Prop} {P : α → Set Tok → S → Prop} {p : Prog E R α}
    (h : d.Hoare act O J p P) (hK : ∀ s, K s → J s) (hQ : ∀ a O s, P a O s → Q a O s) :
    d.Hoare act O K p Q := by
  intro s hs hO
  exact wp_mono (fun a O' _ s' hpost => ⟨hpost.1, hpost.2.1, hQ a O' s' hpost.2.2⟩)
    (h s (hK s hs) hO)

theorem Hoare.returns {P : α → Prop} {p : Prog E R α} (h : d.Hoare act O K p Q) (hp : p.Returns P) :
    d.Hoare act O K p fun a O s => Q a O s ∧ P a := by
  intro s hs hO
  refine wp_mono ?_ (wp_returns hp (h s hs hO))
  rintro a O' D s' ⟨⟨hD, hO', hQ⟩, hP⟩
  exact ⟨hD, hO', hQ, hP⟩

theorem Hoare.settled {p : Prog E R α} (h : d.Hoare act O K p Q) {s : S} (hs : K s)
    (hO : Disjoint O (d.free s)) : d.wp act Settled p O ∅ s :=
  wp_mono (fun _ _ _ _ hpost => hpost.1) (h s hs hO)

theorem Hoare.triple {Q : α → S → Prop} {p : Prog E R α}
    (h : d.Hoare act ∅ K p fun a O s => O = ∅ ∧ Q a s) : d.Triple act K p Q := by
  intro s hs
  exact wp_mono (fun _ _ _ _ hpost => ⟨hpost.2.2.1, hpost.1, hpost.2.2.2⟩)
    (h s hs (Set.empty_disjoint _))

/-- The rule for an effect: it must be a move, and its answer may add to what is known. -/
theorem Hoare.call (hd : d.Guarded) {e : E} {k : R e → Prog E R α} {A : R e → Set Tok → S → Prop}
    (hK : ∀ s s', d.rely O s s' → K s → K s')
    (hstep : ∀ s r s', K s → Disjoint O (d.free s) → d.inv s → act s e r s' →
      ∃ O', d.Move O ∅ s s' O' ∅ ∧ A r O' s')
    (hk : ∀ r O', d.Hoare act O' (A r O') (k r) Q) : d.Hoare act O K (.call e k) Q := by
  intro s hs hO s₁ r s₂ hrely hinv hact
  obtain ⟨O', hmove, hA⟩ := hstep s₁ r s₂ (hK s s₁ hrely hs) (hd O s s₁ hrely hO) hinv hact
  exact ⟨O', ∅, hmove, hk r O' s₂ hA hmove.apart⟩

/-- A program all of whose effects are moves that keep what is known and held. -/
theorem Hoare.of_uses (hd : d.Guarded) {p : Prog E R α} {ok : E → Prop}
    (hK : ∀ s s', d.rely O s s' → K s → K s')
    (hok : ∀ e, ok e → ∀ s r s', K s → Disjoint O (d.free s) → d.inv s → act s e r s' →
      d.Move O ∅ s s' O ∅ ∧ K s') (hp : p.Uses ok) :
    d.Hoare act O K p fun _ O' s => O' = O ∧ K s := by
  induction p with
  | ret a => exact .ret fun _ h => ⟨rfl, h⟩
  | call e k ih =>
    refine .call hd hK (A := fun _ O' s => O' = O ∧ K s) ?_ ?_
    · intro s r s' hs hO hinv hact
      obtain ⟨hmove, hs'⟩ := hok e hp.1 s r s' hs hO hinv hact
      exact ⟨O, hmove, rfl, hs'⟩
    · intro r O' s hs
      obtain ⟨rfl, hs⟩ := hs
      exact ih r (hp.2 r) s hs

end Hoare

/-! ## Soundness over every interleaving -/

/-- Tokens and debts can be dealt out to the threads of a pool. -/
structure Accounted (d : Discipline S Tok Debt) (act : S → (e : E) → R e → S → Prop)
    (c : Pool S R) (O : ℕ → Set Tok) (D : ℕ → Set Debt) : Prop where
  inv : d.inv c.state
  apart : ∀ t u, t ≠ u → Disjoint (O t) (O u)
  held : ∀ t, Disjoint (O t) (d.free c.state)
  owed : d.owed c.state ⊆ ⋃ t, D t
  idle : ∀ t, c.threads t = none → O t = ∅ ∧ D t = ∅
  safe : ∀ t p, c.threads t = some p → d.wp act Settled p (O t) (D t) c.state

/-- What a launch has to guarantee: it is a move of a thread that holds nothing, and
the program launched is safe when it starts with nothing. -/
structure Launches (d : Discipline S Tok Debt) (act : S → (e : E) → R e → S → Prop)
    (s : S) (p : Prog E R Unit) (s' : S) : Prop where
  move : d.Move ∅ ∅ s s' ∅ ∅
  safe : d.wp act Settled p ∅ ∅ s'

/-- The thread `t` moves; every other thread keeps its tokens, debts and safety. -/
theorem Accounted.step {c : Pool S R} {O : ℕ → Set Tok} {D : ℕ → Set Debt}
    (h : d.Accounted act c O D) (t : ℕ) {s' : S} {p : Prog E R Unit} {O' : Set Tok} {D' : Set Debt}
    (hmove : d.Move (O t) (D t) c.state s' O' D') (hp : d.wp act Settled p O' D' s') :
    d.Accounted act ⟨s', Function.update c.threads t (some p)⟩
      (Function.update O t O') (Function.update D t D') := by
  have hother : ∀ u, u ≠ t → Disjoint O' (O u) := by
    intro u hu
    refine Set.disjoint_of_subset_left hmove.owns
      (Set.disjoint_union_left.mpr ⟨h.apart t u hu.symm, ?_⟩)
    exact (h.held u).symm
  refine ⟨hmove.inv, ?_, ?_, ?_, ?_, ?_⟩
  · intro u v huv
    by_cases hu : u = t <;> by_cases hv : v = t
    · exact absurd (hu.trans hv.symm) huv
    · subst hu; simpa [hv] using hother v hv
    · subst hv; simpa [hu] using (hother u hu).symm
    · simpa [hu, hv] using h.apart u v huv
  · intro u
    by_cases hu : u = t
    · subst hu; simpa using hmove.apart
    · simp only [ne_eq, hu, not_false_eq_true, Function.update_of_ne]
      exact Set.disjoint_of_subset_right hmove.freed
        (Set.disjoint_union_right.mpr ⟨h.held u, h.apart u t hu⟩)
  · intro x hx
    rcases hmove.owes hx with ⟨hold, hnot⟩ | hnew
    · obtain ⟨u, hu⟩ := Set.mem_iUnion.mp (h.owed hold)
      have hut : u ≠ t := by rintro rfl; exact hnot hu
      exact Set.mem_iUnion.mpr ⟨u, by simpa [hut] using hu⟩
    · exact Set.mem_iUnion.mpr ⟨t, by simpa using hnew⟩
  · intro u hu
    by_cases hut : u = t
    · subst hut; simp at hu
    · simp only [ne_eq, hut, not_false_eq_true, Function.update_of_ne] at hu ⊢
      exact h.idle u hu
  · intro u q hu
    by_cases hut : u = t
    · subst hut
      simp only [Function.update_self, Option.some.injEq] at hu ⊢
      subst hu; exact hp
    · simp only [ne_eq, hut, not_false_eq_true, Function.update_of_ne] at hu ⊢
      exact wp_rely (h.safe u q hu) (hmove.rely _ (h.apart t u (Ne.symm hut)) (h.held u))

/-- What a launch has to guarantee at least: the thread may start with tokens of its own. -/
def Starts (d : Discipline S Tok Debt) (act : S → (e : E) → R e → S → Prop) (s : S)
    (p : Prog E R Unit) (s' : S) : Prop :=
  ∃ O D, d.Move ∅ ∅ s s' O D ∧ d.wp act Settled p O D s'

theorem Launches.starts {s s' : S} {p : Prog E R Unit} (h : d.Launches act s p s') :
    d.Starts act s p s' := ⟨∅, ∅, h.move, h.safe⟩

theorem Accounted.advance {launch : S → Prog E R Unit → S → Prop}
    (hlaunch : ∀ s p s', d.inv s → launch s p s' → d.Starts act s p s')
    {c c' : Pool S R} (hstep : Step act launch c c') {O : ℕ → Set Tok} {D : ℕ → Set Debt}
    (h : d.Accounted act c O D) :
    (∃ O' D', d.Accounted act c' O' D') ∧ d.rely ∅ c.state c'.state := by
  cases hstep with
  | launch t hnone hl =>
    obtain ⟨O', D', hmove, hsafe⟩ := hlaunch _ _ _ h.inv hl
    obtain ⟨hO, hD⟩ := h.idle t hnone
    exact ⟨⟨_, _, h.step t (by rw [hO, hD]; exact hmove) hsafe⟩, hmove.rely_empty⟩
  | run t r hsome hact =>
    obtain ⟨O', D', hmove, hk⟩ := h.safe t _ hsome _ r _ (d.rely_refl _ _) h.inv hact
    exact ⟨⟨_, _, h.step t hmove hk⟩, hmove.rely ∅ (Set.disjoint_empty _) (Set.empty_disjoint _)⟩

/-- Programs that are safe one by one keep their tokens and debts apart in every
interleaving. -/
theorem accounted_of_reachable {launch : S → Prog E R Unit → S → Prop}
    (hlaunch : ∀ s p s', d.inv s → launch s p s' → d.Starts act s p s')
    {s : S} (hinv : d.inv s) (howed : d.owed s = ∅) {c : Pool S R}
    (h : Reachable act launch (Pool.start s) c) : ∃ O D, d.Accounted act c O D := by
  induction h with
  | refl =>
    refine ⟨fun _ => ∅, fun _ => ∅, ⟨hinv, ?_, ?_, ?_, ?_, ?_⟩⟩ <;> simp [Pool.start, howed]
  | tail _ hstep ih =>
    obtain ⟨O, D, hacc⟩ := ih
    exact (hacc.advance hlaunch hstep).1

theorem inv_of_reachable {launch : S → Prog E R Unit → S → Prop}
    (hlaunch : ∀ s p s', d.inv s → launch s p s' → d.Starts act s p s')
    {s : S} (hinv : d.inv s) (howed : d.owed s = ∅) {c : Pool S R}
    (h : Reachable act launch (Pool.start s) c) : d.inv c.state := by
  obtain ⟨O, D, hacc⟩ := accounted_of_reachable hlaunch hinv howed h
  exact hacc.inv

/-- From one moment of an interleaving to a later one the state moves as far as a thread
with nothing in hand has to expect. -/
theorem rely_of_reachable {launch : S → Prog E R Unit → S → Prop}
    (hlaunch : ∀ s p s', d.inv s → launch s p s' → d.Starts act s p s')
    {s : S} (hinv : d.inv s) (howed : d.owed s = ∅) {c c' : Pool S R}
    (h : Reachable act launch (Pool.start s) c) (h' : Reachable act launch c c') :
    d.rely ∅ c.state c'.state := by
  induction h' with
  | refl => exact d.rely_refl _ _
  | tail hmid hstep ih =>
    obtain ⟨O, D, hacc⟩ := accounted_of_reachable hlaunch hinv howed (h.trans hmid)
    exact d.rely_trans ih (hacc.advance hlaunch hstep).2

/-- Programs that are safe one by one are safe together: in every interleaving the
invariant holds, and once no thread is in flight nothing is owed. -/
theorem reachable {launch : S → Prog E R Unit → S → Prop}
    (hlaunch : ∀ s p s', d.inv s → launch s p s' → d.Launches act s p s')
    {s : S} (hinv : d.inv s) (howed : d.owed s = ∅) {c : Pool S R}
    (h : Reachable act launch (Pool.start s) c) :
    d.inv c.state ∧ (c.Quiescent → d.owed c.state = ∅) := by
  obtain ⟨O, D, hacc⟩ := accounted_of_reachable
    (fun s p s' hinv hl => (hlaunch s p s' hinv hl).starts) hinv howed h
  refine ⟨hacc.inv, fun hq => ?_⟩
  refine Set.eq_empty_of_subset_empty (hacc.owed.trans (Set.iUnion_subset fun t => ?_))
  cases ht : c.threads t with
  | none => exact (hacc.idle t ht).2.subset
  | some p =>
    have hp := hacc.safe t p ht
    rw [hq t p ht] at hp
    exact hp.subset

/-! ## A further invariant -/

/-- The same discipline, with more that holds of the shared state. -/
def also (d : Discipline S Tok Debt) (I : S → Prop) : Discipline S Tok Debt where
  inv s := d.inv s ∧ I s
  free := d.free
  owed := d.owed
  rely := d.rely
  rely_refl := d.rely_refl
  rely_trans := d.rely_trans

section Also

variable {I : S → Prop} {K : S → Prop} {ok : E → Prop}

theorem Move.also {O O' : Set Tok} {D D' : Set Debt} {s s' : S} (h : d.Move O D s s' O' D')
    (hI : I s') : (d.also I).Move O D s s' O' D' :=
  ⟨⟨h.inv, hI⟩, h.rely, h.owns, h.apart, h.freed, h.owes⟩

/-- A program all of whose effects keep the further invariant is safe as before. -/
theorem wp_also {Q : α → Set Tok → Set Debt → S → Prop} {p : Prog E R α} {O : Set Tok}
    {D : Set Debt} {s : S}
    (hok : ∀ e, ok e → ∀ s r s', d.inv s → I s → act s e r s' → I s') (hp : p.Uses ok)
    (h : d.wp act Q p O D s) : (d.also I).wp act Q p O D s := by
  induction p generalizing O D s with
  | ret a => exact h
  | call e k ih =>
    intro s₁ r s₂ hrely hinv hact
    obtain ⟨O', D', hmove, hk⟩ := h s₁ r s₂ hrely hinv.1 hact
    exact ⟨O', D', hmove.also (hok e hp.1 s₁ r s₂ hinv.1 hinv.2 hact), ih r (hp.2 r) hk⟩

theorem Triple.also {Q : α → S → Prop} {p : Prog E R α}
    (hok : ∀ e, ok e → ∀ s r s', d.inv s → I s → act s e r s' → I s') (hp : p.Uses ok)
    (h : d.Triple act K p Q) : (d.also I).Triple act K p Q :=
  fun s hK => wp_also hok hp (h s hK)

end Also

end Discipline
end ProtocolSimulation.Programs
