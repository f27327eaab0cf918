import ProtocolSimulation.Texts

/-!
# Paths

The components of a path as a text, and what joining does to them. Nothing is
looked up in a file system.
-/
namespace ProtocolSimulation.Paths

open ProtocolSimulation.Texts

inductive Component where
  | rootDir
  | curDir
  | parentDir
  | normal (name : Text)
  deriving DecidableEq

/-- The name of a component that names something. -/
def Component.name? : Component → Option Text
  | .normal name => some name
  | _ => none

/-- The parts between separators that count. -/
def parts (path : Text) : List Text :=
  (path.splitOnP (· == '/')).filter fun part => !part.isEmpty && part != ['.']

def component (part : Text) : Component := if part = ['.', '.'] then .parentDir else .normal part

/-- What a path starts from: a dot counts only there. -/
def anchor (path : Text) : List Component :=
  if path.head? = some '/' then [.rootDir]
  else if (path.splitOnP (· == '/')).head? = some ['.'] then [.curDir]
  else []

/-- `Path::components`. -/
def components (path : Text) : List Component := anchor path ++ (parts path).map component

/-- `Path::join`. -/
def join (base path : Text) : Text :=
  if path.head? = some '/' then path
  else if base = [] ∨ base.getLast? = some '/' then base ++ path
  else base ++ '/' :: path

theorem parts_append_cons (front back : Text) :
    parts (front ++ '/' :: back) = parts front ++ parts back := by
  rw [parts, List.splitOnP_append_cons front back (by decide), List.filter_append]
  rfl

@[simp] theorem parts_nil : parts [] = [] := rfl

theorem anchor_append_cons {front : Text} (h : front ≠ []) (back : Text) :
    anchor (front ++ '/' :: back) = anchor front := by
  rw [anchor, anchor, List.head?_append_of_ne_nil front h,
    List.splitOnP_append_cons front back (by decide),
    List.head?_append_of_ne_nil _ (List.splitOnP_ne_nil _ front)]

/-- A relative path adds its parts to the components of what it is joined to. -/
theorem components_join {base path : Text} (hbase : base ≠ []) (hpath : path.head? ≠ some '/') :
    components (join base path) = components base ++ (parts path).map component := by
  rw [join, if_neg hpath]
  split
  next h =>
    obtain ⟨front, rfl⟩ := List.getLast?_eq_some_iff.mp (h.resolve_left hbase)
    rw [List.append_assoc, List.singleton_append]
    by_cases hfront : front = []
    · subst hfront
      rfl
    · rw [components, components, anchor_append_cons hfront, anchor_append_cons hfront,
        parts_append_cons, parts_append_cons, parts_nil, List.append_nil, List.map_append,
        List.append_assoc]
  next =>
    rw [components, anchor_append_cons hbase, parts_append_cons, List.map_append,
      ← List.append_assoc, components]

theorem splitOnP_of_no_slash {name : Text} (h : '/' ∉ name) :
    name.splitOnP (· == '/') = [name] := by
  apply List.splitOnP_eq_singleton
  intro c hc
  simpa using ne_of_mem_of_not_mem hc h

theorem parts_of_no_slash {name : Text} (hslash : '/' ∉ name) (hne : name ≠ [])
    (hdot : name ≠ ['.']) : parts name = [name] := by
  simp [parts, splitOnP_of_no_slash hslash, hne, hdot]

theorem anchor_of_no_slash {name : Text} (hslash : '/' ∉ name) (hdot : name ≠ ['.']) :
    anchor name = [] := by
  have hhead : name.head? ≠ some '/' := fun h => hslash (List.mem_of_head? h)
  rw [anchor, if_neg hhead, splitOnP_of_no_slash hslash, List.head?_cons,
    if_neg (fun h => hdot (Option.some.inj h))]

theorem component_of_ne {part : Text} (h : part ≠ ['.', '.']) : component part = .normal part :=
  if_neg h

theorem join_ne_nil {base path : Text} (h : path ≠ []) : join base path ≠ [] := by
  rw [join]
  split_ifs <;> simp [h]

end ProtocolSimulation.Paths
