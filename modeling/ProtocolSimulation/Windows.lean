import Mathlib.Data.List.Infix

/-!
# Windows of a list

The stretches of a fixed size, one from each position that has enough behind it.
-/
namespace ProtocolSimulation.Windows

variable {α β : Type} {size : ℕ}

def windows (size : ℕ) : List α → List (List α)
  | [] => []
  | x :: rest =>
    if size ≤ (x :: rest).length then (x :: rest).take size :: windows size rest else []

theorem windows_cons {x : α} {rest : List α} (h : size ≤ (x :: rest).length) :
    windows size (x :: rest) = (x :: rest).take size :: windows size rest := by
  rw [windows, if_pos h]

/-- What is found first is found behind a part where no window that is looked for starts. -/
theorem findSome?_windows_append {f : List α → Option β} {front back : List α}
    (h : ∀ rest, rest <:+ front → rest ≠ [] → f ((rest ++ back).take size) = none)
    (hback : size ≤ back.length) :
    (windows size (front ++ back)).findSome? f = (windows size back).findSome? f := by
  induction front with
  | nil => rfl
  | cons x front ih =>
    have hlength : size ≤ (x :: (front ++ back)).length := by
      simp only [List.length_cons, List.length_append]
      omega
    have hhead := h (x :: front) List.suffix_rfl (List.cons_ne_nil x front)
    rw [List.cons_append, windows_cons hlength]
    rw [List.cons_append] at hhead
    rw [List.findSome?_cons_of_isNone (by rw [hhead]; rfl)]
    exact ih fun rest hrest hne => h rest (hrest.trans (List.suffix_cons x front)) hne

end ProtocolSimulation.Windows
