import ProtocolSimulation.Conversations

/-!
# Loops over frames

The inputs of a loop may come in frames of which each round takes one. Then the
loop serves one frame after the other, up to the first that ends it, whatever may
follow this one.
-/
namespace ProtocolSimulation.Conversations.Talk

variable {ι ω σ β π : Type}

/-- Whatever follows the frame, a round puts out `outs`, and goes on behind the frame or ends the
loop. -/
structure TakesFrame (body : σ → ι → Talk ι ω (σ ⊕ β)) (s : σ) (frame : List ι) (outs : List ω)
    (goesOn : Bool) : Prop where
  round : ∀ rest, ∃ x tail result, frame ++ rest = x :: tail ∧
    (body s x).run tail = (outs, result) ∧
    if goesOn then result = some (.inl s, rest) else ∀ s' left, result ≠ some (.inl s', left)

/-- The frames up to the first that ends the loop. -/
def throughFirst (goesOn : π → Bool) : List π → List π
  | [] => []
  | p :: ps => if goesOn p then p :: throughFirst goesOn ps else [p]

variable {body : σ → ι → Talk ι ω (σ ⊕ β)} {atEnd : σ → β} {s : σ} {frame : π → List ι}
  {outs : π → List ω} {goesOn : π → Bool}

/-- The loop is served by its frames. -/
theorem run_forEach_frames {ps : List π}
    (h : ∀ p ∈ ps, TakesFrame body s (frame p) (outs p) (goesOn p)) :
    ((forEach body atEnd s).run (ps.flatMap frame)).1 = (throughFirst goesOn ps).flatMap outs := by
  induction ps with
  | nil => rfl
  | cons p ps ih =>
    obtain ⟨x, tail, result, hinput, hrun, hnext⟩ :=
      (h p List.mem_cons_self).round (ps.flatMap frame)
    rw [List.flatMap_cons, hinput, run_forEach_cons, hrun, throughFirst]
    cases hgoes : goesOn p with
    | true =>
      rw [hgoes, if_pos rfl] at hnext
      rw [hnext, if_pos rfl, List.flatMap_cons,
        ← ih fun other hother => h other (List.mem_cons_of_mem p hother)]
    | false =>
      rw [hgoes, if_neg Bool.false_ne_true] at hnext
      rw [if_neg Bool.false_ne_true, List.flatMap_singleton]
      cases result with
      | none => rfl
      | some found =>
        obtain ⟨next, left⟩ := found
        cases next with
        | inl s' => exact absurd rfl (hnext s' left)
        | inr b => rfl

/-- Where the frame that ends the loop is not answered, only the frames before it count. -/
theorem throughFirst_flatMap {ps : List π} (h : ∀ p ∈ ps, goesOn p = false → outs p = []) :
    (throughFirst goesOn ps).flatMap outs = (ps.takeWhile goesOn).flatMap outs := by
  induction ps with
  | nil => rfl
  | cons p ps ih =>
    have hrest := ih fun other hother => h other (List.mem_cons_of_mem p hother)
    rw [throughFirst, List.takeWhile_cons]
    cases hgoes : goesOn p with
    | true => simp [hrest]
    | false => simp [h p List.mem_cons_self hgoes]

end ProtocolSimulation.Conversations.Talk
