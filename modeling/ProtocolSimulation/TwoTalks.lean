import ProtocolSimulation.Conversations
import Mathlib.Data.Sum.Basic

/-!
# Two conversations side by side

Two parties agree on some inputs if they put out the same, read as far, and end
with related results. Two loops agree as long as their rounds do, so it is enough
to compare rounds at the states that one of the loops comes to.
-/
namespace ProtocolSimulation.Conversations.Talk

variable {ι ω σ τ α β γ δ : Type}

/-- On these inputs both put out the same and leave the same inputs, with related results. -/
def AgreesOn (input : List ι) (R : α → β → Prop) (m : Talk ι ω α) (m' : Talk ι ω β) : Prop :=
  (m.run input).1 = (m'.run input).1 ∧
    Option.Rel (fun r r' => R r.1 r'.1 ∧ r.2 = r'.2) (m.run input).2 (m'.run input).2

/-- They agree on all inputs. -/
def Agrees (R : α → β → Prop) (m : Talk ι ω α) (m' : Talk ι ω β) : Prop :=
  ∀ input, AgreesOn input R m m'

variable {input : List ι} {R : α → β → Prop} {S : γ → δ → Prop}

theorem agrees_ret {a : α} {b : β} (h : R a b) : Agrees R (ret a : Talk ι ω α) (ret b) := by
  intro input
  exact ⟨rfl, .some ⟨h, rfl⟩⟩

theorem agrees_refl (m : Talk ι ω α) : Agrees (· = ·) m m := by
  intro input
  refine ⟨rfl, ?_⟩
  cases (m.run input).2 with
  | none => exact .none
  | some r => exact .some ⟨rfl, rfl⟩

theorem AgreesOn.mono {R' : α → β → Prop} {m : Talk ι ω α} {m' : Talk ι ω β}
    (h : AgreesOn input R m m') (hR : ∀ a b, R a b → R' a b) : AgreesOn input R' m m' := by
  obtain ⟨houts, hresult⟩ := h
  refine ⟨houts, ?_⟩
  generalize (m.run input).2 = result, (m'.run input).2 = result' at hresult ⊢
  cases hresult with
  | none => exact .none
  | some hrel => exact .some ⟨hR _ _ hrel.1, hrel.2⟩

theorem AgreesOn.bind {m : Talk ι ω α} {m' : Talk ι ω β} {f : α → Talk ι ω γ}
    {f' : β → Talk ι ω δ} (hm : AgreesOn input R m m')
    (hf : ∀ outs a b rest, m.run input = (outs, some (a, rest)) → R a b →
      AgreesOn rest S (f a) (f' b)) : AgreesOn input S (m >>= f) (m' >>= f') := by
  obtain ⟨houts, hresult⟩ := hm
  rw [AgreesOn, run_bind, run_bind]
  cases hm : m.run input with
  | mk outs result =>
    cases hm' : m'.run input with
    | mk outs' result' =>
      rw [hm, hm'] at houts hresult
      obtain rfl : outs = outs' := houts
      cases hresult with
      | none => exact ⟨rfl, .none⟩
      | @some found found' hrel =>
        obtain ⟨a, rest⟩ := found
        obtain ⟨b, rest'⟩ := found'
        obtain ⟨hab, rfl⟩ : R a b ∧ rest = rest' := hrel
        obtain ⟨houts', hresult'⟩ := hf outs a b rest hm hab
        exact ⟨congrArg (outs ++ ·) houts', hresult'⟩

theorem Agrees.bind {m : Talk ι ω α} {m' : Talk ι ω β} {f : α → Talk ι ω γ}
    {f' : β → Talk ι ω δ} (hm : Agrees R m m') (hf : ∀ a b, R a b → Agrees S (f a) (f' b)) :
    Agrees S (m >>= f) (m' >>= f') :=
  fun input => (hm input).bind fun _ a b rest _ hab => hf a b hab rest

/-- What follows a common beginning. -/
theorem agrees_then {m : Talk ι ω α} {f : α → Talk ι ω γ} {f' : α → Talk ι ω δ}
    (hf : ∀ a, Agrees S (f a) (f' a)) : Agrees S (m >>= f) (m >>= f') := by
  apply (agrees_refl m).bind
  intro a b hab
  subst hab
  exact hf a

theorem agrees_ite {c : Prop} [Decidable c] {m n : Talk ι ω α} {m' n' : Talk ι ω β}
    (h : c → Agrees R m m') (h' : ¬ c → Agrees R n n') :
    Agrees R (if c then m else n) (if c then m' else n') := by
  by_cases hc : c
  · rw [if_pos hc, if_pos hc]
    exact h hc
  · rw [if_neg hc, if_neg hc]
    exact h' hc

/-! ## Two loops -/

/-- The states a loop comes to between two of its rounds. -/
inductive Visits (body : σ → ι → Talk ι ω (σ ⊕ α)) : σ → List ι → σ → Prop where
  | here (s : σ) (input : List ι) : Visits body s input s
  | later {s s' s'' : σ} {x : ι} {input rest : List ι} {outs : List ω}
      (hround : (body s x).run input = (outs, some (.inl s', rest)))
      (hlater : Visits body s' rest s'') : Visits body s (x :: input) s''

theorem visits_nil_iff {body : σ → ι → Talk ι ω (σ ⊕ α)} {s v : σ} :
    Visits body s [] v ↔ v = s := by
  constructor
  · intro h
    cases h
    rfl
  · rintro rfl
    exact .here v []

theorem visits_cons_iff {body : σ → ι → Talk ι ω (σ ⊕ α)} {s v : σ} {x : ι} {input : List ι} :
    Visits body s (x :: input) v ↔ v = s ∨ ∃ s' outs rest,
      (body s x).run input = (outs, some (.inl s', rest)) ∧ Visits body s' rest v := by
  constructor
  · intro h
    cases h with
    | here => exact .inl rfl
    | later hround hlater => exact .inr ⟨_, _, _, hround, hlater⟩
  · rintro (rfl | ⟨s', outs, rest, hround, hlater⟩)
    · exact .here v _
    · exact .later hround hlater

/-- Two loops agree if their rounds do, at related states of which the first is `good`, as long as
the first loop only comes to good states. -/
theorem agreesOn_forEach {body : σ → ι → Talk ι ω (σ ⊕ α)} {body' : τ → ι → Talk ι ω (τ ⊕ β)}
    {atEnd : σ → α} {atEnd' : τ → β} {I : σ → τ → Prop} {good : σ → Prop}
    (hbody : ∀ s t x, I s t → good s → Agrees (Sum.LiftRel I R) (body s x) (body' t x))
    (hend : ∀ s t, I s t → R (atEnd s) (atEnd' t)) {s : σ} {t : τ} (hI : I s t) {input : List ι}
    (hgood : ∀ v, Visits body s input v → good v) :
    AgreesOn input R (forEach body atEnd s) (forEach body' atEnd' t) := by
  induction hn : input.length using Nat.strong_induction_on generalizing s t input with
  | _ n ih =>
    rw [forEach_eq, forEach_eq]
    cases input with
    | nil =>
      apply ((agrees_refl take) []).bind
      rintro _ _ _ _ hrun rfl
      cases hrun
      exact agrees_ret (hend s t hI) []
    | cons x input =>
      apply ((agrees_refl take) (x :: input)).bind
      rintro _ _ _ _ hrun rfl
      cases hrun
      apply (hbody s t x hI (hgood s (.here _ _)) input).bind
      intro outs next next' rest hround hnext
      cases hnext with
      | inl hstates =>
        have hrest : rest.length ≤ input.length :=
          ((body s x).suffix (congrArg Prod.snd hround)).length_le
        rw [List.length_cons] at hn
        exact ih rest.length (by omega) hstates (fun v hv => hgood v (.later hround hv)) rfl
      | inr hresults => exact agrees_ret hresults rest

end ProtocolSimulation.Conversations.Talk
