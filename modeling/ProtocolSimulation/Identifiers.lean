import ProtocolSimulation.Texts
import Mathlib.Data.Fin.Basic

/-!
# Identifiers

Instances and user rules are named after version 7 UUIDs, packaged rules after
their number in the ruleset. The texts of distinct identifiers are distinct.
-/
namespace ProtocolSimulation.Identifiers

open ProtocolSimulation.Texts

/-- The 32 hexadecimal digits of a `Uuid::now_v7()`. -/
structure UuidV7 where
  digits : List (Fin 16)
  length_eq : digits.length = 32
  version : digits[12]? = some 7
  variant : ∃ v ∈ digits[16]?, 8 ≤ v.val ∧ v.val < 12
deriving DecidableEq

/-- Digits by their values. -/
def hexDigits (values : List ℕ) : List (Fin 16) := values.map (Fin.ofNat 16)

def hexText (ds : List (Fin 16)) : Text := ds.map fun d => Nat.digitChar d.val

theorem digitChar_injective : Function.Injective fun d : Fin 16 => Nat.digitChar d.val := by
  have h : ∀ a b : Fin 16, Nat.digitChar a.val = Nat.digitChar b.val → a = b := by decide
  intro a b hab
  exact h a b hab

theorem hexText_injective : Function.Injective hexText :=
  List.map_injective_iff.mpr digitChar_injective

/-- `Uuid::to_string`: the digits in groups of 8, 4, 4, 4 and 12. -/
def UuidV7.hyphenated (u : UuidV7) : Text :=
  hexText (u.digits.take 8) ++ '-' ::
    (hexText ((u.digits.drop 8).take 4) ++ '-' ::
      (hexText ((u.digits.drop 12).take 4) ++ '-' ::
        (hexText ((u.digits.drop 16).take 4) ++ '-' :: hexText (u.digits.drop 20))))

theorem hexText_length (ds : List (Fin 16)) : (hexText ds).length = ds.length := by simp [hexText]

theorem hyphenated_injective : Function.Injective UuidV7.hyphenated := by
  intro u v h
  have hu := u.length_eq
  have hv := v.length_eq
  have hsplit : ∀ {a b : Text} {x y : Text}, a.length = b.length → a ++ '-' :: x = b ++ '-' :: y →
      a = b ∧ x = y := by
    intro a b x y hlen hab
    obtain ⟨ha, hx⟩ := List.append_inj hab hlen
    exact ⟨ha, (List.cons.inj hx).2⟩
  obtain ⟨h₁, h⟩ := hsplit (by simp [hexText_length, hu, hv]) h
  obtain ⟨h₂, h⟩ := hsplit (by simp [hexText_length, hu, hv]) h
  obtain ⟨h₃, h⟩ := hsplit (by simp [hexText_length, hu, hv]) h
  obtain ⟨h₄, h₅⟩ := hsplit (by simp [hexText_length, hu, hv]) h
  have hwhole : ∀ ds : List (Fin 16), ds = ds.take 8 ++ ((ds.drop 8).take 4 ++
      ((ds.drop 12).take 4 ++ ((ds.drop 16).take 4 ++ ds.drop 20))) := by
    intro ds
    have h20 : ds.drop 20 = (ds.drop 16).drop 4 := by simp
    have h16 : ds.drop 16 = (ds.drop 12).drop 4 := by simp
    have h12 : ds.drop 12 = (ds.drop 8).drop 4 := by simp
    rw [h20, List.take_append_drop, h16, List.take_append_drop, h12, List.take_append_drop,
      List.take_append_drop]
  have hdigits : u.digits = v.digits := by
    rw [hwhole u.digits, hwhole v.digits, hexText_injective h₁, hexText_injective h₂,
      hexText_injective h₃, hexText_injective h₄, hexText_injective h₅]
  cases u
  cases v
  subst hdigits
  rfl

/-- `format!("sim-{}", Uuid::now_v7())`, the identifier `deploy_instance` picks. -/
def instanceId (u : UuidV7) : Text := ("sim-" : Text) ++ u.hyphenated

theorem instanceId_injective : Function.Injective instanceId := by
  intro u v h
  exact hyphenated_injective (List.append_cancel_left h)

/-- The rule identifiers the backend stores: of a packaged rule, which the ruleset
numbers from 1 to 999999, or of a rule a user created. -/
inductive RuleId where
  | packaged (n : ℕ) (pos : 1 ≤ n) (bound : n < 1000000)
  | user (uuid : UuidV7)
deriving DecidableEq

def RuleId.text : RuleId → Text
  | packaged n _ _ => ("sim-rule-" : Text) ++ showNat n
  | user uuid => ("rule-" : Text) ++ uuid.hyphenated

def RuleId.IsPackaged : RuleId → Prop
  | packaged _ _ _ => True
  | user _ => False

instance : DecidablePred RuleId.IsPackaged := fun r =>
  match r with
  | .packaged _ _ _ => .isTrue trivial
  | .user _ => .isFalse id

theorem RuleId.text_injective : Function.Injective RuleId.text := by
  intro r q h
  cases r with
  | packaged n _ _ =>
    cases q with
    | packaged m _ _ =>
      have hshow : showNat n = showNat m := List.append_cancel_left h
      have hval := congrArg decimalValue hshow
      simp only [decimalValue_showNat] at hval
      simp [hval]
    | user v =>
      have hhead : some 's' = some 'r' := congrArg List.head? h
      exact absurd hhead (by decide)
  | user u =>
    cases q with
    | packaged m _ _ =>
      have hhead : some 'r' = some 's' := congrArg List.head? h
      exact absurd hhead (by decide)
    | user v => rw [hyphenated_injective (List.append_cancel_left h)]

end ProtocolSimulation.Identifiers
