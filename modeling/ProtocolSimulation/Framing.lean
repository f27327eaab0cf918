import Mathlib.Data.List.Basic

/-!
# Values one after the other

A reader takes a value from the front of its input and leaves the rest. Where it
reads back what a writer writes, whatever follows, it reads a stream of values
back to its end.
-/
namespace ProtocolSimulation.Framing

variable {ι α : Type}

abbrev Reader (ι α : Type) := List ι → Option (α × List ι)

/-- What is read is passed on. -/
theorem read_bind {β : Type} {found : Option α} {a : α} {next : α → Option β}
    (h : found = some a) : (found >>= next) = next a := by
  rw [h]
  rfl

/-- Read values until the input is used up, but no more than `n`. -/
def readUpTo (read : Reader ι α) : ℕ → List ι → Option (List α)
  | _, [] => some []
  | 0, _ :: _ => none
  | n + 1, x :: input => do
    let (a, rest) ← read (x :: input)
    return a :: (← readUpTo read n rest)

/-- Every value of the input, if the input ends with one. -/
def readAll (read : Reader ι α) (input : List ι) : Option (List α) :=
  readUpTo read input.length input

/-- The reader takes from the front of the input what was written of the value, and no more. -/
structure ReadsBack (read : Reader ι α) (write : α → List ι) (a : α) : Prop where
  nonempty : write a ≠ []
  read_append : ∀ rest, read (write a ++ rest) = some (a, rest)

theorem readUpTo_flatMap {read : Reader ι α} {write : α → List ι} {as : List α} {n : ℕ}
    (h : ∀ a ∈ as, ReadsBack read write a) (hn : (as.flatMap write).length ≤ n) :
    readUpTo read n (as.flatMap write) = some as := by
  induction as generalizing n with
  | nil => cases n <;> rfl
  | cons a as ih =>
    have ha := h a List.mem_cons_self
    obtain ⟨x, written, hx⟩ := List.exists_cons_of_ne_nil ha.nonempty
    have hread := ha.read_append (as.flatMap write)
    rw [List.flatMap_cons, hx] at hn ⊢
    rw [hx] at hread
    simp only [List.cons_append, List.length_cons, List.length_append] at hn hread ⊢
    obtain ⟨n, rfl⟩ : ∃ m, n = m + 1 := ⟨n - 1, by omega⟩
    have hrest := ih (fun b hb => h b (List.mem_cons_of_mem a hb)) (by omega : _ ≤ n)
    simp [readUpTo, hread, hrest]

theorem readAll_flatMap {read : Reader ι α} {write : α → List ι} {as : List α}
    (h : ∀ a ∈ as, ReadsBack read write a) : readAll read (as.flatMap write) = some as :=
  readUpTo_flatMap h (Nat.le_refl _)

/-- The same where what is read is only told by what was written. -/
theorem readUpTo_flatMap_map {β : Type} {read : Reader ι α} {write : β → List ι} {value : β → α}
    {bs : List β} {n : ℕ}
    (h : ∀ b ∈ bs, write b ≠ [] ∧ ∀ rest, read (write b ++ rest) = some (value b, rest))
    (hn : (bs.flatMap write).length ≤ n) :
    readUpTo read n (bs.flatMap write) = some (bs.map value) := by
  induction bs generalizing n with
  | nil => cases n <;> rfl
  | cons b bs ih =>
    obtain ⟨hne, hread⟩ := h b List.mem_cons_self
    obtain ⟨x, written, hx⟩ := List.exists_cons_of_ne_nil hne
    have hfirst := hread (bs.flatMap write)
    rw [List.flatMap_cons, hx] at hn ⊢
    rw [hx] at hfirst
    simp only [List.cons_append, List.length_cons, List.length_append] at hn hfirst ⊢
    obtain ⟨n, rfl⟩ : ∃ m, n = m + 1 := ⟨n - 1, by omega⟩
    have hrest := ih (fun c hc => h c (List.mem_cons_of_mem b hc)) (by omega : _ ≤ n)
    simp [readUpTo, hfirst, hrest]

theorem readAll_flatMap_map {β : Type} {read : Reader ι α} {write : β → List ι} {value : β → α}
    {bs : List β}
    (h : ∀ b ∈ bs, write b ≠ [] ∧ ∀ rest, read (write b ++ rest) = some (value b, rest)) :
    readAll read (bs.flatMap write) = some (bs.map value) :=
  readUpTo_flatMap_map h (Nat.le_refl _)

/-- Read the given number of values. -/
def readTimes (read : Reader ι α) : ℕ → Reader ι (List α)
  | 0, input => some ([], input)
  | n + 1, input => do
    let (a, input) ← read input
    let (as, input) ← readTimes read n input
    return (a :: as, input)

theorem readTimes_flatMap {read : Reader ι α} {write : α → List ι} {as : List α}
    (h : ∀ a ∈ as, ReadsBack read write a) (rest : List ι) :
    readTimes read as.length (as.flatMap write ++ rest) = some (as, rest) := by
  induction as with
  | nil => rfl
  | cons a as ih =>
    have hread := (h a List.mem_cons_self).read_append (as.flatMap write ++ rest)
    have hrest := ih fun b hb => h b (List.mem_cons_of_mem a hb)
    rw [List.flatMap_cons, List.append_assoc, List.length_cons, readTimes]
    simp [hread, hrest]

/-! ## Values that end with a separator -/

theorem splitOn_flatMap [BEq ι] [LawfulBEq ι] {sep : ι} {pieces : List (List ι)}
    (h : ∀ piece ∈ pieces, sep ∉ piece) (rest : List ι) :
    ((pieces.flatMap fun piece => piece ++ [sep]) ++ rest).splitOn sep =
      pieces ++ rest.splitOn sep := by
  induction pieces with
  | nil => rfl
  | cons piece pieces ih =>
    have hrest := ih fun other hother => h other (List.mem_cons_of_mem piece hother)
    rw [List.flatMap_cons, List.append_assoc, List.append_assoc, List.singleton_append,
      List.splitOn_append_cons_self_of_not_mem (h piece List.mem_cons_self), hrest,
      List.cons_append]

/-- The pieces that end with a separator, and what is left behind the last one. -/
def cut (isSep : ι → Bool) : List ι → List (List ι) × List ι
  | [] => ([], [])
  | x :: input =>
    let (pieces, rest) := cut isSep input
    if isSep x then ([x] :: pieces, rest)
    else
      match pieces with
      | [] => ([], x :: rest)
      | piece :: pieces => ((x :: piece) :: pieces, rest)

section Cut

variable {isSep : ι → Bool}

theorem cut_of_none {input : List ι} (h : ∀ x ∈ input, isSep x = false) :
    cut isSep input = ([], input) := by
  induction input with
  | nil => rfl
  | cons x input ih =>
    have hx : isSep x = false := h x List.mem_cons_self
    have hrest := ih fun y hy => h y (List.mem_cons_of_mem x hy)
    simp [cut, hrest, hx]

theorem cut_append_cons {piece : List ι} {sep : ι} (hpiece : ∀ x ∈ piece, isSep x = false)
    (hsep : isSep sep = true) (rest : List ι) :
    cut isSep (piece ++ sep :: rest) =
      ((piece ++ [sep]) :: (cut isSep rest).1, (cut isSep rest).2) := by
  induction piece with
  | nil => simp [cut, hsep]
  | cons x piece ih =>
    have hx : isSep x = false := hpiece x List.mem_cons_self
    have hrest := ih fun y hy => hpiece y (List.mem_cons_of_mem x hy)
    simp [cut, hrest, hx]

theorem cut_of_findIdx? {input : List ι} {i : ℕ} (h : input.findIdx? isSep = some i) :
    cut isSep input =
      (input.take (i + 1) :: (cut isSep (input.drop (i + 1))).1,
        (cut isSep (input.drop (i + 1))).2) := by
  obtain ⟨hi, hsep, hbefore⟩ := List.findIdx?_eq_some_iff_getElem.mp h
  have hpiece : ∀ x ∈ input.take i, isSep x = false := by
    intro x hx
    obtain ⟨j, hj, rfl⟩ := List.mem_take_iff_getElem.mp hx
    simpa using hbefore j (by omega)
  have hsplit : input = input.take i ++ input[i] :: input.drop (i + 1) := by
    rw [← List.drop_eq_getElem_cons hi, List.take_append_drop]
  have hcut := cut_append_cons hpiece hsep (input.drop (i + 1))
  rw [← hsplit] at hcut
  rw [hcut, List.take_append_getElem hi]

/-- What is left over has no separator. -/
theorem cut_rest (input : List ι) : ∀ x ∈ (cut isSep input).2, isSep x = false := by
  induction input with
  | nil => simp [cut]
  | cons x input ih =>
    cases hx : isSep x with
    | true => simpa [cut, hx] using ih
    | false =>
      cases hpieces : (cut isSep input).1 with
      | nil => simpa [cut, hx, hpieces] using ih
      | cons piece pieces => simpa [cut, hx, hpieces] using ih

theorem cut_rest_length_le (input : List ι) : (cut isSep input).2.length ≤ input.length := by
  induction input with
  | nil => exact Nat.le_refl 0
  | cons x input ih =>
    rw [List.length_cons]
    cases hx : isSep x with
    | true => simp [cut, hx]; omega
    | false =>
      cases hpieces : (cut isSep input).1 with
      | nil => simp [cut, hx, hpieces]; omega
      | cons piece pieces => simp [cut, hx, hpieces]; omega

/-- Input that comes in two parts is cut as a whole if what is left over of the first is kept. -/
theorem cut_append (input more : List ι) : cut isSep (input ++ more) =
    ((cut isSep input).1 ++ (cut isSep ((cut isSep input).2 ++ more)).1,
      (cut isSep ((cut isSep input).2 ++ more)).2) := by
  induction input with
  | nil => rfl
  | cons x input ih =>
    cases hx : isSep x with
    | true => simp [cut, hx, ih]
    | false =>
      cases hpieces : (cut isSep input).1 with
      | nil => simp [cut, hx, ih, hpieces]
      | cons piece pieces => simp [cut, hx, ih, hpieces]

end Cut

end ProtocolSimulation.Framing
