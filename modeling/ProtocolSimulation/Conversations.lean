import Mathlib.Data.List.Infix

/-!
# Conversations

One party of a conversation reads the inputs that come in, puts out what it has
to say, and ends with a result, unless it breaks off. Inputs, outputs and
results are of any type. The loop reads one input a round, so it ends with them.
-/
namespace ProtocolSimulation.Conversations

/-- What a party does with the inputs still to come: its outputs, and, unless it
breaks off, its result with the inputs it leaves. It leaves an end of them. -/
structure Talk (ι ω α : Type) where
  run : List ι → List ω × Option (α × List ι)
  suffix : ∀ {input rest : List ι} {a : α}, (run input).2 = some (a, rest) → rest <:+ input

variable {ι ω σ α β : Type}

namespace Talk

@[ext] theorem ext {m m' : Talk ι ω α} (h : ∀ input, m.run input = m'.run input) : m = m' := by
  cases m
  cases m'
  congr
  exact funext h

def ret (a : α) : Talk ι ω α where
  run input := ([], some (a, input))
  suffix h := by
    obtain ⟨rfl, rfl⟩ : a = _ ∧ _ = _ := by simpa using h
    exact List.suffix_rfl

def bind (m : Talk ι ω α) (f : α → Talk ι ω β) : Talk ι ω β where
  run input :=
    match m.run input with
    | (outs, none) => (outs, none)
    | (outs, some (a, rest)) => (outs ++ ((f a).run rest).1, ((f a).run rest).2)
  suffix {input _ _} h := by
    cases hm : m.run input with
    | mk outs result =>
      cases result with
      | none => simp [hm] at h
      | some found =>
        obtain ⟨a, rest⟩ := found
        simp only [hm] at h
        have hfirst : rest <:+ input := m.suffix (a := a) (by rw [hm])
        exact ((f a).suffix h).trans hfirst

instance : Monad (Talk ι ω) where
  pure := ret
  bind := bind

/-- Read the next input, if there is one. -/
def take : Talk ι ω (Option ι) where
  run
    | [] => ([], some (none, []))
    | x :: rest => ([], some (some x, rest))
  suffix {input rest _} h := by
    cases input with
    | nil => simp_all
    | cons x input =>
      obtain ⟨_, rfl⟩ : some x = _ ∧ input = rest := by simpa using h
      exact List.suffix_cons x input

def emit (o : ω) : Talk ι ω Unit where
  run input := ([o], some ((), input))
  suffix h := by
    obtain rfl : _ = _ := by simpa using h
    exact List.suffix_rfl

def breakOff : Talk ι ω α := ⟨fun _ => ([], none), fun h => by simp at h⟩

@[simp] theorem pure_eq (a : α) : (pure a : Talk ι ω α) = ret a := rfl

@[simp] theorem run_ret (a : α) (input : List ι) :
    (ret a : Talk ι ω α).run input = ([], some (a, input)) := rfl

@[simp] theorem run_emit (o : ω) (input : List ι) :
    (emit o : Talk ι ω Unit).run input = ([o], some ((), input)) := rfl

@[simp] theorem run_take_nil : (take : Talk ι ω (Option ι)).run [] = ([], some (none, [])) := rfl

@[simp] theorem run_take_cons (x : ι) (input : List ι) :
    (take : Talk ι ω (Option ι)).run (x :: input) = ([], some (some x, input)) := rfl

theorem run_bind (m : Talk ι ω α) (f : α → Talk ι ω β) (input : List ι) :
    (m >>= f).run input = match m.run input with
      | (outs, none) => (outs, none)
      | (outs, some (a, rest)) => (outs ++ ((f a).run rest).1, ((f a).run rest).2) := rfl

/-- What follows a talk that says nothing starts from what this one found. -/
theorem run_bind_of_silent {m : Talk ι ω α} {f : α → Talk ι ω β} {input : List ι}
    (hm : (m.run input).1 = []) (hf : ∀ a rest, ((f a).run rest).1 = []) :
    (m >>= f).run input =
      ([], (m.run input).2.bind fun found => ((f found.1).run found.2).2) := by
  rw [run_bind]
  cases hrun : m.run input with
  | mk outs result =>
    rw [hrun] at hm
    obtain rfl : outs = [] := hm
    cases result with
    | none => rfl
    | some found =>
      dsimp only
      rw [hf]
      rfl

@[simp] theorem ret_bind (a : α) (f : α → Talk ι ω β) : ret a >>= f = f a := by
  ext1 input
  simp [run_bind]

theorem bind_assoc {γ : Type} (m : Talk ι ω α) (f : α → Talk ι ω β) (g : β → Talk ι ω γ) :
    m >>= f >>= g = m >>= fun a => f a >>= g := by
  ext1 input
  simp only [run_bind]
  cases m.run input with
  | mk outs result =>
    cases result with
    | none => rfl
    | some found =>
      obtain ⟨a, rest⟩ := found
      cases hf : (f a).run rest with
      | mk outs' result' =>
        cases result' with
        | none => simp [hf]
        | some found' => simp [hf]

/-! ## Loops -/

/-- At most `n` rounds of a loop: each reads an input and either goes on or is over. -/
def rounds (body : σ → ι → Talk ι ω (σ ⊕ β)) (atEnd : σ → β) : ℕ → σ → Talk ι ω β
  | 0, s => ret (atEnd s)
  | n + 1, s => do
    match ← take with
    | none => return atEnd s
    | some x =>
      match ← body s x with
      | .inl s' => rounds body atEnd n s'
      | .inr b => return b

theorem rounds_run_eq {body : σ → ι → Talk ι ω (σ ⊕ β)} {atEnd : σ → β} {n m : ℕ} {s : σ}
    {input : List ι} (hn : input.length ≤ n) (hm : input.length ≤ m) :
    (rounds body atEnd n s).run input = (rounds body atEnd m s).run input := by
  induction n generalizing m s input with
  | zero =>
    obtain rfl : input = [] := List.length_eq_zero_iff.mp (by omega)
    cases m with
    | zero => rfl
    | succ m => simp [rounds, run_bind]
  | succ n ih =>
    cases input with
    | nil => cases m <;> simp [rounds, run_bind]
    | cons x input =>
      obtain ⟨m, rfl⟩ : ∃ m', m = m' + 1 := ⟨m - 1, by simp only [List.length_cons] at hm; omega⟩
      simp only [List.length_cons] at hn hm
      simp only [rounds, run_bind, run_take_cons, List.nil_append]
      cases hb : (body s x).run input with
      | mk outs result =>
        cases result with
        | none => rfl
        | some found =>
          obtain ⟨next, rest⟩ := found
          have hrest : rest.length ≤ input.length :=
            ((body s x).suffix (a := next) (by rw [hb])).length_le
          have hn' : rest.length ≤ n := hrest.trans (by omega)
          have hm' : rest.length ≤ m := hrest.trans (by omega)
          cases next with
          | inl s' => simp only [ih (s := s') hn' hm']
          | inr b => rfl

/-- Read inputs round by round until the body is done or there are no more. -/
def forEach (body : σ → ι → Talk ι ω (σ ⊕ β)) (atEnd : σ → β) (s : σ) : Talk ι ω β where
  run input := (rounds body atEnd input.length s).run input
  suffix h := (rounds body atEnd _ s).suffix h

/-- The loop is one round and the loop again. -/
theorem forEach_eq (body : σ → ι → Talk ι ω (σ ⊕ β)) (atEnd : σ → β) (s : σ) :
    forEach body atEnd s = (do
      match ← take with
      | none => return atEnd s
      | some x =>
        match ← body s x with
        | .inl s' => forEach body atEnd s'
        | .inr b => return b) := by
  ext1 input
  cases input with
  | nil => simp [forEach, rounds, run_bind]
  | cons x input =>
    simp only [forEach, List.length_cons, rounds, run_bind, run_take_cons, List.nil_append]
    cases hb : (body s x).run input with
    | mk outs result =>
      cases result with
      | none => rfl
      | some found =>
        obtain ⟨next, rest⟩ := found
        have hrest : rest.length ≤ input.length :=
          ((body s x).suffix (a := next) (by rw [hb])).length_le
        cases next with
        | inl s' => simp only [rounds_run_eq (s := s') hrest le_rfl]
        | inr b => rfl

@[simp] theorem run_forEach_nil (body : σ → ι → Talk ι ω (σ ⊕ β)) (atEnd : σ → β) (s : σ) :
    (forEach body atEnd s).run [] = ([], some (atEnd s, [])) := rfl

theorem run_forEach_cons (body : σ → ι → Talk ι ω (σ ⊕ β)) (atEnd : σ → β) (s : σ) (x : ι)
    (input : List ι) :
    (forEach body atEnd s).run (x :: input) = match (body s x).run input with
      | (outs, none) => (outs, none)
      | (outs, some (.inl s', rest)) =>
        (outs ++ ((forEach body atEnd s').run rest).1, ((forEach body atEnd s').run rest).2)
      | (outs, some (.inr b, rest)) => (outs, some (b, rest)) := by
  rw [forEach_eq]
  simp only [run_bind, run_take_cons, List.nil_append]
  cases (body s x).run input with
  | mk outs result =>
    cases result with
    | none => rfl
    | some found =>
      obtain ⟨next, rest⟩ := found
      cases next with
      | inl s' => rfl
      | inr b => simp

/-- Read exactly `n` inputs, if there are that many. -/
def takeExactly : (n : ℕ) → Talk ι ω (Option { xs : List ι // xs.length = n })
  | 0 => return some ⟨[], rfl⟩
  | n + 1 => do
    match ← take with
    | none => return none
    | some x =>
      match ← takeExactly n with
      | none => return none
      | some xs => return some ⟨x :: xs.val, by rw [List.length_cons, xs.property]⟩

theorem run_takeExactly_append {n : ℕ} {xs : List ι} (h : xs.length = n) (rest : List ι) :
    (takeExactly n : Talk ι ω _).run (xs ++ rest) = ([], some (some ⟨xs, h⟩, rest)) := by
  induction n generalizing xs with
  | zero =>
    obtain rfl := List.length_eq_zero_iff.mp h
    rfl
  | succ n ih =>
    cases xs with
    | nil => simp at h
    | cons x xs =>
      have hrest := ih (Nat.succ_injective h)
      simp [takeExactly, run_bind, hrest]

theorem run_takeExactly_of_lt {n : ℕ} {input : List ι} (h : input.length < n) :
    (takeExactly n : Talk ι ω _).run input = ([], some (none, [])) := by
  induction n generalizing input with
  | zero => exact absurd h (Nat.not_lt_zero _)
  | succ n ih =>
    cases input with
    | nil => simp [takeExactly, run_bind]
    | cons x input =>
      have hrest := ih (Nat.lt_of_succ_lt_succ h)
      simp [takeExactly, run_bind, hrest]

/-! ## What a party says -/

/-- While the inputs are as `given`, every output satisfies `ok`, and so does the result `P`
if there is one. -/
def Says (given : ι → Prop) (ok : ω → Prop) (P : α → Prop) (m : Talk ι ω α) : Prop :=
  ∀ input, (∀ x ∈ input, given x) →
    (∀ o ∈ (m.run input).1, ok o) ∧ ∀ a rest, (m.run input).2 = some (a, rest) → P a

variable {given : ι → Prop} {ok : ω → Prop} {P : α → Prop} {Q : β → Prop}

theorem says_ret {a : α} (h : P a) : Says given ok P (ret a : Talk ι ω α) := by
  intro input _
  simp [h]

theorem says_emit {o : ω} {P : Unit → Prop} (ho : ok o) (h : P ()) :
    Says given ok P (emit o : Talk ι ω Unit) := by
  intro input _
  simp [ho, h]

theorem says_take : Says given ok (fun x => ∀ y, x = some y → given y)
    (take : Talk ι ω (Option ι)) := by
  intro input hinput
  cases input with
  | nil => simp
  | cons x input => simpa using hinput x List.mem_cons_self

theorem says_breakOff : Says given ok P (breakOff : Talk ι ω α) := by
  intro input _
  simp [breakOff]

theorem Says.bind {m : Talk ι ω α} {f : α → Talk ι ω β} (hm : Says given ok P m)
    (hf : ∀ a, P a → Says given ok Q (f a)) : Says given ok Q (m >>= f) := by
  intro input hinput
  rw [run_bind]
  obtain ⟨houts, hresult⟩ := hm input hinput
  cases h : m.run input with
  | mk outs result =>
    rw [h] at houts hresult
    cases result with
    | none => exact ⟨houts, by simp⟩
    | some found =>
      obtain ⟨a, rest⟩ := found
      have hrest : ∀ x ∈ rest, given x := by
        intro x hx
        have hsuffix : rest <:+ input := m.suffix (a := a) (by rw [h])
        exact hinput x (hsuffix.subset hx)
      obtain ⟨houts', hresult'⟩ := hf a (hresult a rest rfl) rest hrest
      refine ⟨fun o ho => ?_, hresult'⟩
      rcases List.mem_append.mp ho with ho | ho
      · exact houts o ho
      · exact houts' o ho

theorem Says.mono {m : Talk ι ω α} {given' : ι → Prop} {ok' : ω → Prop} {P' : α → Prop}
    (hm : Says given ok P m) (hgiven : ∀ x, given' x → given x) (hok : ∀ o, ok o → ok' o)
    (hP : ∀ a, P a → P' a) : Says given' ok' P' m := by
  intro input hinput
  obtain ⟨houts, hresult⟩ := hm input fun x hx => hgiven x (hinput x hx)
  exact ⟨fun o ho => hok o (houts o ho), fun a rest h => hP a (hresult a rest h)⟩

theorem says_ite {c : Prop} [Decidable c] {m m' : Talk ι ω α} (h : c → Says given ok P m)
    (h' : ¬ c → Says given ok P m') : Says given ok P (if c then m else m') := by
  split_ifs with hc
  · exact h hc
  · exact h' hc

/-- An invariant of the rounds holds of the whole loop. -/
theorem says_forEach {body : σ → ι → Talk ι ω (σ ⊕ β)} {atEnd : σ → β} {I : σ → Prop}
    (hbody : ∀ s x, I s → given x → Says given ok (Sum.elim I Q) (body s x))
    (hend : ∀ s, I s → Q (atEnd s)) {s : σ} (hs : I s) :
    Says given ok Q (forEach body atEnd s) := by
  have hrounds : ∀ n s, I s → Says given ok Q (rounds body atEnd n s) := by
    intro n
    induction n with
    | zero =>
      intro s hs
      exact says_ret (hend s hs)
    | succ n ih =>
      intro s hs
      refine Says.bind says_take fun x hx => ?_
      cases x with
      | none => exact says_ret (hend s hs)
      | some x =>
        refine Says.bind (hbody s x hs (hx x rfl)) fun next hnext => ?_
        cases next with
        | inl s' => exact ih s' hnext
        | inr b => exact says_ret hnext
  intro input
  exact hrounds input.length s hs input

end Talk

end ProtocolSimulation.Conversations
