import ProtocolSimulation.EngineConfigs
import ProtocolSimulation.Fallible
import ProtocolSimulation.JsonValues
import ProtocolSimulation.SortedMaps
import Mathlib.Data.Char
import Mathlib.Data.List.Lex

/-!
# The shapes of behaviour configurations

What the API checks of a configured behaviour: that it can be read as the
configuration of its protocol. It stores what it read, written out again.
-/
namespace ProtocolSimulation.Engine

open ProtocolSimulation.Texts ProtocolSimulation.JsonValues ProtocolSimulation.SortedMaps

/-! ## Reading and writing fields -/

/-- A field that has to be there. -/
def readRequired {α : Type} (read : Json → Option α) (field : Option Json) : Option α :=
  field.bind read

/-- A field that may be missing or null. -/
def readOptional {α : Type} (read : Json → Option α) : Option Json → Option (Option α)
  | none | some .null => some none
  | some value => (read value).map some

def writeOptional {α : Type} (write : α → Json) : Option α → Json
  | none => .null
  | some a => write a

def readU32 : Json → Option UInt32
  | .num literal =>
    if literal.isEmpty || !literal.all isDigit then none
    else if decimalValue literal < 2 ^ 32 then some (UInt32.ofNat (decimalValue literal))
    else none
  | _ => none

def writeU32 (n : UInt32) : Json := .num (showNat n.toNat)

def readTexts : Json → Option (List Text)
  | .arr items => items.mapM Json.asStr
  | _ => none

def writeTexts (texts : List Text) : Json := .arr (texts.map Json.str)

/-- Put entries into a map one after the other. -/
def collectEntries (collected : List (Text × Text)) : List (Text × Text) → List (Text × Text)
  | [] => collected
  | (key, text) :: rest => collectEntries (insertEntry key text collected) rest

theorem collectEntries_sorted {collected : List (Text × Text)} (entries : List (Text × Text))
    (h : (collected.map Prod.fst).Pairwise (· < ·)) :
    ((collectEntries collected entries).map Prod.fst).Pairwise (· < ·) := by
  induction entries generalizing collected with
  | nil => exact h
  | cons entry rest ih => exact ih (insertEntry_sorted h)

def readEntry (field : Text × Json) : Option (Text × Text) :=
  field.2.asStr.map fun text => (field.1, text)

/-- `BTreeMap<String, String>`. -/
def readTextMap : Json → Option (BTreeMap Text)
  | .obj fields => (fields.mapM readEntry).map fun entries =>
      ⟨collectEntries [] entries, collectEntries_sorted entries .nil⟩
  | _ => none

def writeTextMap (m : BTreeMap Text) : Json :=
  .obj (m.entries.map fun entry => (entry.1, .str entry.2))

/-- The fields of a struct: those of an object by their names, or all of them in an array. -/
def structFields (names : List Text) : Json → Option (List (Option Json))
  | .obj fields => some (names.map fun name => (Json.obj fields).get name)
  | .arr items => if items.length = names.length then some (items.map some) else none
  | _ => none

/-! ## What was written is read back -/

theorem readOptional_writeOptional {α : Type} {read : Json → Option α} {write : α → Json}
    (hread : ∀ a, read (write a) = some a) (hnull : ∀ a, write a ≠ .null) (a : Option α) :
    readOptional read (some (writeOptional write a)) = some a := by
  cases a with
  | none => rfl
  | some a =>
    rw [writeOptional, readOptional, hread a]
    · rfl
    · exact fun h => hnull a h

@[simp] theorem readText_writeOptional (text : Option Text) :
    readOptional Json.asStr (some (writeOptional .str text)) = some text :=
  readOptional_writeOptional (fun t => show Json.asStr (.str t) = some t from rfl)
    (fun _ => Json.noConfusion) text

theorem readU32_writeU32 (n : UInt32) : readU32 (writeU32 n) = some n := by
  have hdigits : (showNat n.toNat).all isDigit = true :=
    List.all_eq_true.mpr fun c hc => showNat_isDigit hc
  have hnonempty : (showNat n.toNat).isEmpty = false :=
    List.isEmpty_eq_false_iff.mpr (showNat_ne_nil n.toNat)
  rw [writeU32, readU32, decimalValue_showNat, hdigits, hnonempty]
  simp [n.toNat_lt]

@[simp] theorem readU32_writeOptional (n : Option UInt32) :
    readOptional readU32 (some (writeOptional writeU32 n)) = some n :=
  readOptional_writeOptional readU32_writeU32 (fun _ => Json.noConfusion) n

theorem mapM_map {α β : Type} {read : β → Option α} {write : α → β}
    (h : ∀ a, read (write a) = some a) (as : List α) : (as.map write).mapM read = some as := by
  induction as with
  | nil => rfl
  | cons a as ih => simp [h, ih]

theorem readTexts_writeTexts (texts : List Text) : readTexts (writeTexts texts) = some texts :=
  mapM_map (fun t => show Json.asStr (.str t) = some t from rfl) texts

@[simp] theorem readTexts_writeOptional (texts : Option (List Text)) :
    readOptional readTexts (some (writeOptional writeTexts texts)) = some texts :=
  readOptional_writeOptional readTexts_writeTexts (fun _ => Json.noConfusion) texts

theorem insertEntry_of_lt {key text : Text} {entries : List (Text × Text)}
    (h : ∀ k ∈ entries.map Prod.fst, k < key) :
    insertEntry key text entries = entries ++ [(key, text)] := by
  induction entries with
  | nil => rfl
  | cons entry rest ih =>
    have hlt : entry.1 < key := h entry.1 (by simp)
    rw [insertEntry, if_neg hlt.not_gt, if_neg hlt.ne', ih fun k hk => h k (by simp [hk])]
    rfl

theorem collectEntries_of_sorted {collected entries : List (Text × Text)}
    (h : ((collected ++ entries).map Prod.fst).Pairwise (· < ·)) :
    collectEntries collected entries = collected ++ entries := by
  induction entries generalizing collected with
  | nil => rw [collectEntries, List.append_nil]
  | cons entry rest ih =>
    rw [List.map_append, List.pairwise_append] at h
    have hlt : ∀ k ∈ collected.map Prod.fst, k < entry.1 := by
      intro k hk
      exact h.2.2 k hk entry.1 (by simp)
    rw [collectEntries, insertEntry_of_lt hlt, ih, List.append_assoc, List.singleton_append]
    rw [List.append_assoc, List.singleton_append, List.map_append, List.pairwise_append]
    exact h

@[simp] theorem readTextMap_writeTextMap (m : BTreeMap Text) :
    readTextMap (writeTextMap m) = some m := by
  have hcollected : collectEntries [] m.entries = m.entries := collectEntries_of_sorted m.sorted
  have hread := mapM_map (fun entry : Text × Text => show readEntry (entry.1, .str entry.2) =
    some entry from rfl) m.entries
  rw [writeTextMap, readTextMap, hread]
  simp [hcollected]

@[simp] theorem readTextMap_writeOptional (m : Option (BTreeMap Text)) :
    readOptional readTextMap (some (writeOptional writeTextMap m)) = some m :=
  readOptional_writeOptional readTextMap_writeTextMap (fun _ => Json.noConfusion) m

/-! ## Configurations -/

def SimDnsConfig.fromValue (value : Json) : Option SimDnsConfig := do
  match ← structFields ["records", "default_ipv4", "ttl"] value with
  | [records, defaultIpv4, ttl] =>
    return ⟨← readRequired readTextMap records, ← readOptional Json.asStr defaultIpv4,
      ← readOptional readU32 ttl⟩
  | _ => none

def SimDnsConfig.toValue (config : SimDnsConfig) : Json :=
  .obj [("default_ipv4", writeOptional .str config.defaultIpv4),
    ("records", writeTextMap config.records), ("ttl", writeOptional writeU32 config.ttl)]

def SimSnmpConfig.fromValue (value : Json) : Option SimSnmpConfig := do
  match ← structFields ["community", "system_description", "system_name", "system_location",
      "oids"] value with
  | [community, systemDescription, systemName, systemLocation, oids] =>
    return ⟨← readOptional Json.asStr community, ← readOptional Json.asStr systemDescription,
      ← readOptional Json.asStr systemName, ← readOptional Json.asStr systemLocation,
      ← readOptional readTextMap oids⟩
  | _ => none

def SimSnmpConfig.toValue (config : SimSnmpConfig) : Json :=
  .obj [("community", writeOptional .str config.community),
    ("oids", writeOptional writeTextMap config.oids),
    ("system_description", writeOptional .str config.systemDescription),
    ("system_location", writeOptional .str config.systemLocation),
    ("system_name", writeOptional .str config.systemName)]

def SimVncConfig.fromValue (value : Json) : Option SimVncConfig := do
  match ← structFields ["protocol_version", "security_types"] value with
  | [protocolVersion, securityTypes] =>
    return ⟨← readOptional Json.asStr protocolVersion, ← readOptional readTexts securityTypes⟩
  | _ => none

def SimVncConfig.toValue (config : SimVncConfig) : Json :=
  .obj [("protocol_version", writeOptional .str config.protocolVersion),
    ("security_types", writeOptional writeTexts config.securityTypes)]

theorem SimDnsConfig.fromValue_toValue (config : SimDnsConfig) :
    SimDnsConfig.fromValue config.toValue = some config := by
  have hfields : structFields ["records", "default_ipv4", "ttl"] config.toValue =
      some [some (writeTextMap config.records), some (writeOptional .str config.defaultIpv4),
        some (writeOptional writeU32 config.ttl)] := by
    rfl
  rw [SimDnsConfig.fromValue, hfields]
  simp only [Option.bind_eq_bind, Option.bind_some, readRequired, readTextMap_writeTextMap,
    readText_writeOptional, readU32_writeOptional]
  rfl

theorem SimSnmpConfig.fromValue_toValue (config : SimSnmpConfig) :
    SimSnmpConfig.fromValue config.toValue = some config := by
  have hfields : structFields ["community", "system_description", "system_name",
      "system_location", "oids"] config.toValue =
      some [some (writeOptional .str config.community),
        some (writeOptional .str config.systemDescription),
        some (writeOptional .str config.systemName),
        some (writeOptional .str config.systemLocation),
        some (writeOptional writeTextMap config.oids)] := by
    rfl
  rw [SimSnmpConfig.fromValue, hfields]
  simp only [Option.bind_eq_bind, Option.bind_some, readText_writeOptional,
    readTextMap_writeOptional]
  rfl

theorem SimVncConfig.fromValue_toValue (config : SimVncConfig) :
    SimVncConfig.fromValue config.toValue = some config := by
  have hfields : structFields ["protocol_version", "security_types"] config.toValue =
      some [some (writeOptional .str config.protocolVersion),
        some (writeOptional writeTexts config.securityTypes)] := by
    rfl
  rw [SimVncConfig.fromValue, hfields]
  simp only [Option.bind_eq_bind, Option.bind_some, readText_writeOptional,
    readTexts_writeOptional]
  rfl

/-- What `validate_behavior` makes of a behaviour: it is read and written out again. -/
def roundTrip {α : Type} (fromValue : Json → Option α) (toValue : α → Json) (value : Json) :
    Option Json := (fromValue value).map toValue

/-- What is stored is read as the configuration that was given. -/
theorem fromValue_roundTrip {α : Type} {fromValue : Json → Option α} {toValue : α → Json}
    (hinverse : ∀ config, fromValue (toValue config) = some config) {value stored : Json}
    (h : roundTrip fromValue toValue value = some stored) :
    ∃ config, fromValue value = some config ∧ fromValue stored = some config := by
  obtain ⟨config, hconfig, hstored⟩ := Option.map_eq_some_iff.mp h
  exact ⟨config, hconfig, by rw [← hstored, hinverse]⟩

end ProtocolSimulation.Engine
