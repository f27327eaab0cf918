import ProtocolSimulation.EngineConfigs
import ProtocolSimulation.Fallible

/-!
# The VNC simulation

What the simulation makes of its configuration before it starts.
-/
namespace ProtocolSimulation.Engine

open ProtocolSimulation.Texts ProtocolSimulation.Fallible

/-- The number of a security type, by its name. -/
def securityType (name : Text) : Except Text UInt8 :=
  let lowered := toAsciiLowercase (trim name)
  if lowered = "none" then .ok 1
  else if lowered = "vnc_auth" ∨ lowered = "vnc-auth" then .ok 2
  else .error (("unsupported VNC security type: " : Text) ++ name)

/-- The loop that collects the security types, each of them once. -/
def securityTypes : List UInt8 → List Text → Except Text (List UInt8)
  | types, [] => .ok types
  | types, name :: names => do
    let value ← securityType name
    securityTypes (if types.contains value then types else types ++ [value]) names

def normalizeConfig (config : SimVncConfig) : Except Text (Text × List UInt8) := do
  let version := config.protocolVersion.getD "3.8"
  if ¬ (version = "3.3" ∨ version = "3.7" ∨ version = "3.8") then
    .error "VNC protocol_version must be 3.3, 3.7, or 3.8"
  else
    let types ← securityTypes [] (config.securityTypes.getD ["none"])
    if types.isEmpty then .error "VNC security_types cannot be empty"
    else return (version, types)

/-! ## What is accepted -/

/-- The name of a security type. -/
def SecurityName (name : Text) : Prop :=
  toAsciiLowercase (trim name) = "none" ∨ toAsciiLowercase (trim name) = "vnc_auth" ∨
    toAsciiLowercase (trim name) = "vnc-auth"

theorem securityType_ok_iff {name : Text} :
    (∃ value, securityType name = .ok value) ↔ SecurityName name := by
  unfold securityType SecurityName
  dsimp only
  split_ifs with hnone hauth
  · exact iff_of_true ⟨1, rfl⟩ (.inl hnone)
  · exact iff_of_true ⟨2, rfl⟩ (.inr hauth)
  · apply iff_of_false
    · rintro ⟨value, hvalue⟩
      exact absurd hvalue (by simp)
    · exact not_or.mpr ⟨hnone, hauth⟩

theorem securityTypes_ok_iff {types : List UInt8} {names : List Text} :
    (∃ types', securityTypes types names = .ok types') ↔ ∀ name ∈ names, SecurityName name := by
  induction names generalizing types with
  | nil => simp [securityTypes]
  | cons name names ih =>
    rw [List.forall_mem_cons, ← securityType_ok_iff]
    simp only [securityTypes, bind_ok_iff]
    constructor
    · rintro ⟨types', value, hvalue, hrest⟩
      exact ⟨⟨value, hvalue⟩, ih.mp ⟨types', hrest⟩⟩
    · rintro ⟨⟨value, hvalue⟩, hrest⟩
      obtain ⟨types', htypes⟩ := ih.mpr hrest
      exact ⟨types', value, hvalue, htypes⟩

/-- Types that were collected stay. -/
theorem securityTypes_ne_nil {types types' : List UInt8} {names : List Text}
    (h : securityTypes types names = .ok types') (hne : types ≠ [] ∨ names ≠ []) : types' ≠ [] := by
  induction names generalizing types with
  | nil =>
    cases h
    simpa using hne
  | cons name names ih =>
    obtain ⟨value, -, hrest⟩ := bind_ok_iff.mp h
    apply ih hrest
    left
    split_ifs with hseen
    · rintro rfl
      simp at hseen
    · simp

/-- The version and the security types of a configuration are such that the simulation starts
with them. -/
structure SimVncConfig.Startable (config : SimVncConfig) : Prop where
  version : ∀ version ∈ config.protocolVersion, version = "3.3" ∨ version = "3.7" ∨ version = "3.8"
  types : ∀ names ∈ config.securityTypes, names ≠ [] ∧ ∀ name ∈ names, SecurityName name

theorem normalizeConfig_ok_iff {config : SimVncConfig} :
    (∃ normalized, normalizeConfig config = .ok normalized) ↔ config.Startable := by
  have hversion : (∀ version ∈ config.protocolVersion,
      version = "3.3" ∨ version = "3.7" ∨ version = "3.8") ↔
      config.protocolVersion.getD "3.8" = "3.3" ∨ config.protocolVersion.getD "3.8" = "3.7" ∨
        config.protocolVersion.getD "3.8" = "3.8" := by
    cases config.protocolVersion with
    | none => exact iff_of_true (fun _ h => absurd h (by simp)) (.inr (.inr rfl))
    | some version => simp only [Option.mem_some_iff, forall_eq', Option.getD_some]
  have htypes : (∀ names ∈ config.securityTypes, names ≠ [] ∧ ∀ name ∈ names, SecurityName name) ↔
      ∃ types, securityTypes [] (config.securityTypes.getD ["none"]) = .ok types ∧ types ≠ [] := by
    cases config.securityTypes with
    | none => exact iff_of_true (fun _ h => absurd h (by simp)) ⟨[1], by decide, by simp⟩
    | some names =>
      simp only [Option.mem_some_iff, forall_eq', Option.getD_some]
      constructor
      · rintro ⟨hne, hnames⟩
        obtain ⟨types, htypes⟩ := securityTypes_ok_iff.mpr hnames
        exact ⟨types, htypes, securityTypes_ne_nil htypes (.inr hne)⟩
      · rintro ⟨types, htypes, hne⟩
        refine ⟨?_, securityTypes_ok_iff.mp ⟨types, htypes⟩⟩
        rintro rfl
        cases htypes
        exact hne rfl
  have hstartable : config.Startable ↔ _ ∧ _ := ⟨fun h => ⟨h.version, h.types⟩, fun h => ⟨h.1, h.2⟩⟩
  rw [hstartable, hversion, htypes]
  unfold normalizeConfig
  by_cases hv : config.protocolVersion.getD "3.8" = "3.3" ∨
      config.protocolVersion.getD "3.8" = "3.7" ∨ config.protocolVersion.getD "3.8" = "3.8"
  · rw [and_iff_right hv, if_neg (not_not.mpr hv)]
    simp only [bind_ok_iff]
    constructor
    · rintro ⟨normalized, types, htypes, hresult⟩
      refine ⟨types, htypes, ?_⟩
      rintro rfl
      simp at hresult
    · rintro ⟨types, htypes, hne⟩
      exact ⟨_, types, htypes, if_neg (by simpa using hne)⟩
  · rw [if_pos hv]
    apply iff_of_false
    · rintro ⟨normalized, hresult⟩
      exact absurd hresult (by simp)
    · exact fun h => hv h.1

end ProtocolSimulation.Engine
