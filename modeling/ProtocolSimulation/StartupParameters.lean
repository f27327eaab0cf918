import ProtocolSimulation.Framing
import ProtocolSimulation.Postgresql

/-!
# Startup parameters of PostgreSQL clients

A client gives its user, its database and more in its first message, as keys and
values that end with a zero byte each. The value that the simulation finds is
the one that was sent unless an empty value comes before it.
-/
namespace ProtocolSimulation.Engine.Postgresql

open ProtocolSimulation.Texts ProtocolSimulation.Framing

structure StartupParameter where
  key : Text
  value : Text
  key_ne : key ≠ []
  key_nul : '\x00' ∉ key
  value_nul : '\x00' ∉ value

/-- A key and its value as they are sent, without their zero bytes. -/
def StartupParameter.pieces (parameter : StartupParameter) : List Bytes :=
  [utf8Encode parameter.key, utf8Encode parameter.value]

/-- The message after its length. -/
def startupPacket (parameters : List StartupParameter) : Bytes :=
  PROTOCOL_VERSION_3 ++
    ((parameters.flatMap StartupParameter.pieces).flatMap fun piece => piece ++ [0]) ++ [0]

/-- Has the parameter a value that is not empty? -/
def StartupParameter.valued (parameter : StartupParameter) : Bool := !parameter.value.isEmpty

theorem utf8Encode_isEmpty (t : Text) : (utf8Encode t).isEmpty = t.isEmpty := by
  cases t with
  | nil => rfl
  | cons c t =>
    have hne : utf8Encode (c :: t) ≠ [] := by
      have hpos : 0 < byteLen (c :: t) := byteLen_pos_iff.mpr (List.cons_ne_nil c t)
      exact List.ne_nil_of_length_pos hpos
    simpa using hne

/-! ## What is found -/

theorem splitOn_startupPacket (parameters : List StartupParameter) :
    ((startupPacket parameters).drop 4).splitOn 0 =
      parameters.flatMap StartupParameter.pieces ++ [[], []] := by
  have hpieces : ∀ piece ∈ parameters.flatMap StartupParameter.pieces, 0 ∉ piece := by
    intro piece hpiece
    obtain ⟨parameter, -, hpiece⟩ := List.mem_flatMap.mp hpiece
    simp only [StartupParameter.pieces, List.mem_cons, List.not_mem_nil, or_false] at hpiece
    obtain rfl | rfl := hpiece
    · exact zero_notMem_utf8Encode parameter.key_nul
    · exact zero_notMem_utf8Encode parameter.value_nul
  have hdrop : (startupPacket parameters).drop 4 =
      ((parameters.flatMap StartupParameter.pieces).flatMap fun piece => piece ++ [0]) ++ [0] := rfl
  rw [hdrop, splitOn_flatMap hpieces]
  rfl

/-- Reading stops at the first empty value, and the key of that value is left over. -/
theorem pairs_takeWhile_pieces (parameters : List StartupParameter) (rest : List Bytes) :
    pairs ((parameters.flatMap StartupParameter.pieces ++ [] :: rest).takeWhile
        fun value => !value.isEmpty) =
      (parameters.takeWhile StartupParameter.valued).map fun parameter =>
        (utf8Encode parameter.key, utf8Encode parameter.value) := by
  induction parameters with
  | nil => rfl
  | cons parameter parameters ih =>
    have hkey : (utf8Encode parameter.key).isEmpty = false := by
      rw [utf8Encode_isEmpty]
      simpa using parameter.key_ne
    cases hvalue : parameter.value.isEmpty with
    | true =>
      have hempty : (utf8Encode parameter.value).isEmpty = true := by
        rw [utf8Encode_isEmpty, hvalue]
      simp [StartupParameter.pieces, StartupParameter.valued, hkey, hempty,
        hvalue, pairs]
    | false =>
      have hne : (utf8Encode parameter.value).isEmpty = false := by
        rw [utf8Encode_isEmpty, hvalue]
      simp [StartupParameter.pieces, StartupParameter.valued, hkey, hne,
        hvalue, pairs, ← ih]

/-- The value of the first parameter with that key. -/
def firstValue (parameters : List StartupParameter) (name : Text) : Option Text :=
  (parameters.find? fun parameter => parameter.key = name).map StartupParameter.value

theorem startupParameter_startupPacket (parameters : List StartupParameter) (name : Text) :
    startupParameter (startupPacket parameters) name =
      firstValue (parameters.takeWhile StartupParameter.valued) name := by
  have hversion : (startupPacket parameters).take 4 = PROTOCOL_VERSION_3 := rfl
  rw [startupParameter, if_pos hversion, splitOn_startupPacket, pairs_takeWhile_pieces,
    firstValue]
  induction parameters.takeWhile StartupParameter.valued with
  | nil => rfl
  | cons parameter parameters ih =>
    rw [List.map_cons, List.findSome?_cons, List.find?_cons, ih]
    by_cases hkey : parameter.key = name
    · rw [if_pos (congrArg utf8Encode hkey), utf8Decode_utf8Encode, decide_eq_true hkey]
      rfl
    · rw [if_neg (utf8Encode_injective.ne hkey), decide_eq_false hkey]

/-! ## When it is what was sent -/

section Cut

variable {α β : Type} {found? kept : α → Bool} {as before after : List α} {hit : α}

theorem find?_takeWhile_of_kept (hhit : found? hit = true)
    (hbefore : ∀ a ∈ before, found? a = false) (h : ∀ a ∈ before ++ [hit], kept a = true) :
    ((before ++ hit :: after).takeWhile kept).find? found? = some hit := by
  rw [List.append_cons, List.takeWhile_append_of_pos h, List.find?_append, List.find?_append,
    List.find?_eq_none.mpr (by simpa using hbefore), List.find?_singleton, if_pos hhit]
  rfl

theorem find?_takeWhile_of_cut (hbefore : ∀ a ∈ before, found? a = false)
    (h : ¬ ∀ a ∈ before ++ [hit], kept a = true) :
    ((before ++ hit :: after).takeWhile kept).find? found? = none := by
  induction before with
  | nil =>
    have hcut : ¬ kept hit = true := by simpa using h
    rw [List.nil_append, List.takeWhile_cons_of_neg hcut, List.find?_nil]
  | cons b before ih =>
    rw [List.cons_append]
    by_cases hkept : kept b = true
    · rw [List.takeWhile_cons_of_pos hkept, List.find?_cons_of_neg (by simp [hbefore b])]
      apply ih fun a ha => hbefore a (List.mem_cons_of_mem b ha)
      intro hall
      exact h (by simpa [hkept] using hall)
    · rw [List.takeWhile_cons_of_neg hkept, List.find?_nil]

/-- Cutting a list off does not change what is found in it exactly if nothing is cut off up to the
first hit. -/
theorem find?_takeWhile_iff {f : α → β} :
    ((as.takeWhile kept).find? found?).map f = (as.find? found?).map f ↔
      ∀ before hit after, as = before ++ hit :: after → found? hit = true →
        (∀ a ∈ before, found? a = false) → ∀ a ∈ before ++ [hit], kept a = true := by
  constructor
  · rintro heq before hit after rfl hhit hbefore
    have hfind : (before ++ hit :: after).find? found? = some hit :=
      List.find?_eq_some_iff_append.mpr ⟨hhit, before, after, rfl, by simpa using hbefore⟩
    by_contra hcut
    rw [hfind, find?_takeWhile_of_cut hbefore hcut] at heq
    cases heq
  · intro hall
    cases hfind : as.find? found? with
    | none =>
      have hmissed := List.find?_eq_none.mp hfind
      rw [List.find?_eq_none.mpr fun a ha => hmissed a (List.takeWhile_subset kept ha)]
    | some hit =>
      obtain ⟨hhit, before, after, rfl, hbefore⟩ := List.find?_eq_some_iff_append.mp hfind
      have hbefore : ∀ a ∈ before, found? a = false := by simpa using hbefore
      rw [find?_takeWhile_of_kept hhit hbefore (hall before hit after rfl hhit hbefore)]

end Cut

/-- The parameters are read faithfully exactly if none up to the first with the key is empty. -/
theorem startupParameter_iff (parameters : List StartupParameter) (name : Text) :
    startupParameter (startupPacket parameters) name = firstValue parameters name ↔
      ∀ before hit after, parameters = before ++ hit :: after → hit.key = name →
        (∀ parameter ∈ before, parameter.key ≠ name) →
        ∀ parameter ∈ before ++ [hit], parameter.value ≠ [] := by
  rw [startupParameter_startupPacket, firstValue, firstValue, find?_takeWhile_iff]
  simp [StartupParameter.valued]

def unnamedApplication : StartupParameter :=
  ⟨"application_name", "", by decide, by decide, by decide⟩

def postgresUser : StartupParameter := ⟨"user", "postgres", by decide, by decide, by decide⟩

theorem startupParameter_afterEmptyValue :
    startupParameter (startupPacket [unnamedApplication, postgresUser]) "user" = none ∧
      firstValue [unnamedApplication, postgresUser] "user" = some "postgres" := by
  rw [startupParameter_startupPacket]
  decide

end ProtocolSimulation.Engine.Postgresql
