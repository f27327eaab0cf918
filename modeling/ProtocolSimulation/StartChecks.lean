import ProtocolSimulation.BehaviorShapes
import ProtocolSimulation.Dns
import ProtocolSimulation.SnmpValues
import ProtocolSimulation.Vnc

/-!
# Rules that are stored and rules that start

The API checks the shape of a configured behaviour, the engine what it means. So
not every rule that is stored starts; which of them do is decided here for DNS,
VNC and SNMP.
-/
namespace ProtocolSimulation.Engine

open ProtocolSimulation.Texts ProtocolSimulation.JsonValues ProtocolSimulation.Fallible

/-! ## DNS -/

/-- No name is blank, and the addresses are addresses. -/
structure SimDnsConfig.Startable (config : SimDnsConfig) : Prop where
  records : ∀ record ∈ config.records.entries,
    trim record.1 ≠ [] ∧ ∃ address, parseIpv4Addr record.2 = some address
  default : ∀ text ∈ config.defaultIpv4, ∃ address, parseIpv4Addr text = some address

theorem checkRecords_ok_iff {records : List (Text × Text)} : checkRecords records = .ok () ↔
    ∀ record ∈ records, trim record.1 ≠ [] ∧ ∃ address, parseIpv4Addr record.2 = some address := by
  induction records with
  | nil => simp [checkRecords]
  | cons record rest ih =>
    obtain ⟨name, text⟩ := record
    rw [checkRecords, List.forall_mem_cons, ← Option.isSome_iff_exists]
    by_cases hname : trim name = []
    · simp [hname]
    rw [if_neg (by simpa using hname)]
    cases haddress : parseIpv4Addr text with
    | none => simp
    | some address => simp [hname, ih]

theorem validateDnsConfig_ok_iff {config : SimDnsConfig} :
    validateDnsConfig config = .ok () ↔ config.Startable := by
  have hstartable : config.Startable ↔ _ ∧ _ :=
    ⟨fun h => ⟨h.records, h.default⟩, fun h => ⟨h.1, h.2⟩⟩
  rw [hstartable, ← checkRecords_ok_iff, validateDnsConfig, bind_ok_iff, Unique.exists_iff]
  cases hdefault : config.defaultIpv4 with
  | none => simp
  | some text =>
    simp only [Option.mem_some_iff, forall_eq']
    cases haddress : parseIpv4Addr text <;> simp

/-! ## SNMP -/

/-- The text denotes an OID: its parts are numbers below `2 ^ 32`. -/
def OidText (text : Text) : Prop :=
  ∀ part ∈ ((trim text).dropWhile (· == '.')).splitOn '.', ∃ component,
    Snmp.parseU32 part = some component

theorem parseOidText_ok_iff {text : Text} :
    (∃ oid, Snmp.parseOidText text = .ok oid) ↔ OidText text := by
  have hcomponent (part : Text) : (∃ component, Snmp.parseComponent part = .ok component) ↔
      ∃ component, Snmp.parseU32 part = some component := by
    unfold Snmp.parseComponent
    cases Snmp.parseU32 part with
    | none => simp
    | some component => exact iff_of_true ⟨component, rfl⟩ ⟨component, rfl⟩
  rw [Snmp.parseOidText, exists_mapM_ok_iff, OidText]
  simp only [hcomponent]

theorem insertCustom_ok_iff {values : Snmp.SnmpValues} {entries : List (Text × Text)} :
    (∃ values', Snmp.insertCustom values entries = .ok values') ↔
      ∀ entry ∈ entries, OidText entry.1 := by
  induction entries generalizing values with
  | nil => simp [Snmp.insertCustom]
  | cons entry rest ih =>
    obtain ⟨text, value⟩ := entry
    rw [List.forall_mem_cons, ← parseOidText_ok_iff]
    simp only [Snmp.insertCustom, bind_ok_iff]
    constructor
    · rintro ⟨values', oid, hoid, hrest⟩
      exact ⟨⟨oid, hoid⟩, ih.mp ⟨values', hrest⟩⟩
    · rintro ⟨⟨oid, hoid⟩, hrest⟩
      obtain ⟨values', hvalues⟩ := ih.mpr hrest
      exact ⟨values', oid, hoid, hvalues⟩

/-- The configured OIDs are OIDs. -/
def SimSnmpConfig.Startable (config : SimSnmpConfig) : Prop :=
  ∀ custom ∈ config.oids, ∀ entry ∈ custom.entries, OidText entry.1

theorem buildValues_ok_iff {config : SimSnmpConfig} :
    (∃ values, Snmp.buildValues config = .ok values) ↔ config.Startable := by
  rw [Snmp.buildValues_eq, insertCustom_ok_iff, SimSnmpConfig.Startable]
  cases config.oids with
  | none => simp
  | some custom => simp

/-! ## Stored behaviours -/

/-- A behaviour that is stored is the one that was given, and the simulation starts with it if
and only if its texts mean something. -/
theorem startChecks_ok_iff :
    (∀ value stored, roundTrip SimDnsConfig.fromValue SimDnsConfig.toValue value = some stored →
      ∃ config, SimDnsConfig.fromValue value = some config ∧
        SimDnsConfig.fromValue stored = some config ∧
        (validateDnsConfig config = .ok () ↔ config.Startable)) ∧
    (∀ value stored, roundTrip SimVncConfig.fromValue SimVncConfig.toValue value = some stored →
      ∃ config, SimVncConfig.fromValue value = some config ∧
        SimVncConfig.fromValue stored = some config ∧
        ((∃ normalized, normalizeConfig config = .ok normalized) ↔ config.Startable)) ∧
    (∀ value stored, roundTrip SimSnmpConfig.fromValue SimSnmpConfig.toValue value = some stored →
      ∃ config, SimSnmpConfig.fromValue value = some config ∧
        SimSnmpConfig.fromValue stored = some config ∧
        ((∃ values, Snmp.buildValues config = .ok values) ↔ config.Startable)) := by
  refine ⟨?_, ?_, ?_⟩
  · intro value stored h
    obtain ⟨config, hvalue, hstored⟩ := fromValue_roundTrip SimDnsConfig.fromValue_toValue h
    exact ⟨config, hvalue, hstored, validateDnsConfig_ok_iff⟩
  · intro value stored h
    obtain ⟨config, hvalue, hstored⟩ := fromValue_roundTrip SimVncConfig.fromValue_toValue h
    exact ⟨config, hvalue, hstored, normalizeConfig_ok_iff⟩
  · intro value stored h
    obtain ⟨config, hvalue, hstored⟩ := fromValue_roundTrip SimSnmpConfig.fromValue_toValue h
    exact ⟨config, hvalue, hstored, buildValues_ok_iff⟩

/-- A record with a blank name. -/
def blankRecord : SimDnsConfig where
  records := ⟨[([], "192.0.2.1")], List.pairwise_singleton _ _⟩
  defaultIpv4 := none
  ttl := none

/-- A list of security types without any. -/
def noSecurityTypes : SimVncConfig where
  protocolVersion := none
  securityTypes := some []

/-- An OID with a part that is not a number. -/
def wordOid : SimSnmpConfig where
  community := none
  systemDescription := none
  systemName := none
  systemLocation := none
  oids := some ⟨[("1.x", "text")], List.pairwise_singleton _ _⟩

theorem startChecks_ok_iff_examples :
    (∃ config, SimDnsConfig.fromValue blankRecord.toValue = some config ∧
      (validateDnsConfig config = .ok () ↔ config.Startable)) ∧
    (∃ config, SimVncConfig.fromValue noSecurityTypes.toValue = some config ∧
      ((∃ normalized, normalizeConfig config = .ok normalized) ↔ config.Startable)) ∧
    (∃ config, SimSnmpConfig.fromValue wordOid.toValue = some config ∧
      ((∃ values, Snmp.buildValues config = .ok values) ↔ config.Startable)) := by
  obtain ⟨hdns, hvnc, hsnmp⟩ := startChecks_ok_iff
  refine ⟨?_, ?_, ?_⟩
  · obtain ⟨config, -, hconfig⟩ := hdns blankRecord.toValue blankRecord.toValue
      (by rw [roundTrip, SimDnsConfig.fromValue_toValue, Option.map_some])
    exact ⟨config, hconfig⟩
  · obtain ⟨config, -, hconfig⟩ := hvnc noSecurityTypes.toValue noSecurityTypes.toValue
      (by rw [roundTrip, SimVncConfig.fromValue_toValue, Option.map_some])
    exact ⟨config, hconfig⟩
  · obtain ⟨config, -, hconfig⟩ := hsnmp wordOid.toValue wordOid.toValue
      (by rw [roundTrip, SimSnmpConfig.fromValue_toValue, Option.map_some])
    exact ⟨config, hconfig⟩

/-- They are stored, but the simulations do not start with them. -/
theorem stored_not_started :
    (∃ value stored config,
      roundTrip SimDnsConfig.fromValue SimDnsConfig.toValue value = some stored ∧
      SimDnsConfig.fromValue stored = some config ∧ validateDnsConfig config ≠ .ok ()) ∧
    (∃ value stored config,
      roundTrip SimVncConfig.fromValue SimVncConfig.toValue value = some stored ∧
      SimVncConfig.fromValue stored = some config ∧
      ¬∃ normalized, normalizeConfig config = .ok normalized) ∧
    (∃ value stored config,
      roundTrip SimSnmpConfig.fromValue SimSnmpConfig.toValue value = some stored ∧
      SimSnmpConfig.fromValue stored = some config ∧
      ¬∃ values, Snmp.buildValues config = .ok values) := by
  refine ⟨⟨blankRecord.toValue, _, blankRecord, ?_, SimDnsConfig.fromValue_toValue _, ?_⟩,
    ⟨noSecurityTypes.toValue, _, noSecurityTypes, ?_, SimVncConfig.fromValue_toValue _, ?_⟩,
    ⟨wordOid.toValue, _, wordOid, ?_, SimSnmpConfig.fromValue_toValue _, ?_⟩⟩
  · rw [roundTrip, SimDnsConfig.fromValue_toValue, Option.map_some]
  · rw [Ne, validateDnsConfig_ok_iff]
    intro hstartable
    exact (hstartable.records _ List.mem_cons_self).1 rfl
  · rw [roundTrip, SimVncConfig.fromValue_toValue, Option.map_some]
  · rw [normalizeConfig_ok_iff]
    intro hstartable
    exact (hstartable.types [] rfl).1 rfl
  · rw [roundTrip, SimSnmpConfig.fromValue_toValue, Option.map_some]
  · rw [buildValues_ok_iff]
    intro hstartable
    have hword : OidText "1.x" := hstartable _ rfl _ List.mem_cons_self
    have hparts : "x".toList ∈ ((trim ("1.x" : Text)).dropWhile (· == '.')).splitOn '.' := by
      decide +kernel
    have hnone : Snmp.parseU32 "x".toList = none := by decide +kernel
    obtain ⟨component, hcomponent⟩ := hword _ hparts
    rw [hnone] at hcomponent
    exact absurd hcomponent (by simp)

end ProtocolSimulation.Engine
