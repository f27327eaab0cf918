import ProtocolSimulation.LaunchedEndpoints
import ProtocolSimulation.RuleArchives
import ProtocolSimulation.RuleRoutes

/-!
# Default ports that can be deployed

The port that is stored with a rule is offered for its endpoints. A deployment
takes it unless it is zero, which is only refused there.
-/
namespace ProtocolSimulation.Service

open ProtocolSimulation.Texts ProtocolSimulation.JsonValues ProtocolSimulation.Identifiers
open ProtocolSimulation.Protocols
open ProtocolSimulation.Storage ProtocolSimulation.Api ProtocolSimulation.RulePackages
open ProtocolSimulation.Engine

/-! ## Deploying on one port -/

/-- A binding of every endpoint of the protocol to the port. -/
def bindingsAt (protocol : ProtocolId) (port : UInt16) : List EndpointBindingRequest :=
  (protocolEndpoints protocol).map fun spec => ⟨spec.id, port⟩

theorem map_endpointId_bindingsAt (protocol : ProtocolId) (port : UInt16) :
    (bindingsAt protocol port).map EndpointBindingRequest.endpointId =
      (protocolEndpoints protocol).map EndpointSpec.id := by
  rw [bindingsAt, List.map_map]
  rfl

theorem admissible_bindingsAt_iff {protocol : ProtocolId} {port : UInt16} :
    Admissible protocol (bindingsAt protocol port) ↔ port ≠ 0 := by
  constructor
  · intro h
    obtain ⟨spec, hspec⟩ := protocolEndpoints_nonempty protocol
    exact h.nonzero ⟨spec.id, port⟩ (List.mem_map_of_mem hspec)
  · intro hport
    constructor
    · rw [map_endpointId_bindingsAt]
      exact protocolEndpoints_distinct protocol
    · intro b hb
      obtain ⟨spec, hspec, rfl⟩ := List.mem_map.mp hb
      exact ⟨spec, hspec, rfl⟩
    · intro b hb
      obtain ⟨spec, _, rfl⟩ := List.mem_map.mp hb
      exact hport
    · intro spec hspec _
      exact ⟨_, List.mem_map_of_mem hspec, rfl⟩

/-- The stored port passes the validation of a deployment on every endpoint of the protocol, in
whatever order the hash map yields them. -/
def Deployable (protocol : Text) (defaultPort : ℤ) : Prop :=
  ∃ id, ProtocolId.fromStr protocol = .ok id ∧ ∃ port : UInt16, port.toNat = defaultPort ∧
    ∀ order : List Text, order.Perm ((bindingsAt id port).map EndpointBindingRequest.endpointId) →
      ∃ endpoints, checkBindings id (bindingsAt id port) order = .ok endpoints

theorem deployable_iff {protocol : Text} {id : ProtocolId} {port : UInt16}
    (hprotocol : ProtocolId.fromStr protocol = .ok id) :
    Deployable protocol port.toNat ↔ port ≠ 0 := by
  constructor
  · intro h
    obtain ⟨id, _, other, hport, hcheck⟩ := h
    obtain rfl : other = port := UInt16.toNat_inj.mp (by exact_mod_cast hport)
    obtain ⟨endpoints, hendpoints⟩ := hcheck _ (.refl _)
    exact admissible_bindingsAt_iff.mp ((checkBindings_ok_iff (.refl _)).mp hendpoints).1
  · intro hport
    refine ⟨id, hprotocol, port, rfl, ?_⟩
    intro order horder
    exact ⟨_, (checkBindings_ok_iff horder).mpr ⟨admissible_bindingsAt_iff.mpr hport, rfl⟩⟩

/-! ## Ports of packaged rules -/

/-- The rule declares a port that there is. -/
def DeclaresPort (rule : SimRuleProto) (port : ℤ) : Prop :=
  ∃ declared, rule.defaultPort = some declared ∧ declared.toInt = port ∧ 1 ≤ port ∧ port ≤ 65535

/-- The declared port, or else that of the main or first endpoint. -/
def PortOf (rule : SimRuleProto) (port : ℤ) : Prop :=
  DeclaresPort rule port ∨ (¬ ∃ declared, DeclaresPort rule declared) ∧
    ∃ endpoint, mainEndpoint rule = some endpoint ∧ endpoint.defaultHostPort.toInt = port

/-- A port from 1 to 65535 is declared, or none from 0 to 65535 and the main or first endpoint has
another one than zero. -/
def PortUsable (rule : SimRuleProto) : Prop :=
  (∃ port, DeclaresPort rule port) ∨
    (∀ declared, rule.defaultPort = some declared → declared.toInt < 0 ∨ 65535 < declared.toInt) ∧
      ∃ endpoint, mainEndpoint rule = some endpoint ∧ endpoint.defaultHostPort.toInt ≠ 0

theorem u16TryFrom_eq_some {n : ℤ} {port : UInt16} (h : u16TryFrom n = some port) :
    n = port.toNat := by
  rw [u16TryFrom] at h
  split at h
  next hrange =>
    cases h
    rw [UInt16.toNat_ofNat']
    omega
  next => cases h

theorem range_of_u16TryFrom_none {n : ℤ} (h : u16TryFrom n = none) : n < 0 ∨ 65535 < n := by
  rw [u16TryFrom] at h
  split at h
  next => cases h
  next hrange => omega

/-- Where the port of a rule comes from. -/
theorem source_of_defaultRuleHostPort {rule : SimRuleProto} {port : UInt16}
    (h : defaultRuleHostPort rule = some port) :
    (∃ declared, rule.defaultPort = some declared ∧ declared.toInt = port.toNat) ∨
      (∀ declared, rule.defaultPort = some declared →
        declared.toInt < 0 ∨ 65535 < declared.toInt) ∧
      ∃ endpoint, mainEndpoint rule = some endpoint ∧
        endpoint.defaultHostPort.toInt = port.toNat := by
  rw [defaultRuleHostPort, Option.or_eq_some_iff] at h
  obtain hdeclared | ⟨hnone, hmain⟩ := h
  · obtain ⟨declared, hdeclared, hport⟩ := Option.bind_eq_some_iff.mp hdeclared
    exact .inl ⟨declared, hdeclared, u16TryFrom_eq_some hport⟩
  · obtain ⟨endpoint, hendpoint, hport⟩ := Option.bind_eq_some_iff.mp hmain
    refine .inr ⟨?_, endpoint, hendpoint, u16TryFrom_eq_some hport⟩
    intro declared hdeclared
    rw [hdeclared, Option.bind_some] at hnone
    exact range_of_u16TryFrom_none hnone

theorem portOf_iff_portUsable {rule : SimRuleProto} {port : UInt16}
    (h : defaultRuleHostPort rule = some port) :
    port ≠ 0 ∧ PortOf rule port.toNat ↔ PortUsable rule := by
  have hlt := port.toNat_lt
  have hzero : port ≠ 0 ↔ port.toNat ≠ 0 := by
    rw [Ne, Ne, ← UInt16.toNat_inj]
    rfl
  rw [hzero]
  obtain ⟨declared, hdeclared, hport⟩ | ⟨hrange, endpoint, hendpoint, hport⟩ :=
    source_of_defaultRuleHostPort h
  · constructor
    · intro hof
      obtain ⟨hne, _⟩ := hof
      exact .inl ⟨port.toNat, declared, hdeclared, hport, by omega, by omega⟩
    · intro husable
      obtain ⟨other, given, hgiven, hother, hpositive, hbound⟩ | ⟨hnone, _⟩ := husable
      · obtain rfl := Option.some.inj (hdeclared.symm.trans hgiven)
        refine ⟨by omega, .inl ⟨declared, hdeclared, hport, by omega, by omega⟩⟩
      · have hout := hnone declared hdeclared
        omega
  · have hundeclared : ¬ ∃ other, DeclaresPort rule other := by
      rintro ⟨other, given, hgiven, hother, hpositive, hbound⟩
      have hout := hrange given hgiven
      omega
    constructor
    · intro hof
      obtain ⟨hne, _⟩ := hof
      exact .inr ⟨hrange, endpoint, hendpoint, by omega⟩
    · intro husable
      obtain hdeclared | ⟨_, other, hother, hne⟩ := husable
      · exact absurd hdeclared hundeclared
      · obtain rfl := Option.some.inj (hendpoint.symm.trans hother)
        exact ⟨by omega, .inr ⟨hundeclared, endpoint, hendpoint, hport⟩⟩

/-- The port of a packaged rule passes a deployment, and is the one that was declared, exactly if
there is such a port. -/
theorem deployable_imported_iff {libraries : Libraries} {rule : SimRuleProto}
    {imported : ImportedRule} (h : Imports libraries rule imported) :
    Deployable imported.protocol imported.defaultPort.toNat ∧
      PortOf rule imported.defaultPort.toNat ↔ PortUsable rule := by
  obtain ⟨protocol, hprotocol, _⟩ := h.protocol
  rw [← h.protocolText] at hprotocol
  rw [deployable_iff hprotocol]
  exact portOf_iff_portUsable h.defaultPort

/-- A rule that a user creates can be deployed on its port unless this is zero, and one of a package
if the package names a port for it. -/
theorem defaultPort_deployable_iff (libraries : Libraries) :
    (∀ validateBehavior uuid now db db' payload stored,
      createRule libraries.json validateBehavior uuid now db payload = .ok (db', stored) →
      (Deployable stored.protocol stored.defaultPort ↔ payload.defaultPort ≠ 0)) ∧
    ∀ entries publicKeyText package,
      parseSlrpWithPublicKey libraries entries publicKeyText = .ok package →
      ∃ rulesBin signatureText proto, readArchive entries = .ok (rulesBin, signatureText) ∧
        libraries.decode rulesBin = some proto ∧
        List.Forall₂ (fun rule imported =>
          (Deployable imported.protocol imported.defaultPort.toNat ∧
            PortOf rule imported.defaultPort.toNat ↔ PortUsable rule)) proto.rules
          package.rules := by
  constructor
  · intro validateBehavior uuid now db db' payload stored h
    obtain ⟨⟨protocol, hprotocol⟩, hport, _⟩ := createRule_ok h
    rw [hport]
    exact deployable_iff hprotocol
  · intro entries publicKeyText package h
    obtain ⟨rulesBin, signatureText, proto, hpacks, _, hproto, hpackage⟩ := parseSlrp_ok_iff.mp h
    obtain ⟨hall, _, _⟩ := readRules_ok (readRules_of_readPackage hpackage)
    refine ⟨rulesBin, signatureText, proto, readArchive_ok_iff.mpr hpacks, hproto, ?_⟩
    exact hall.imp fun rule imported himports => deployable_imported_iff himports.2

def validateVnc (_ : ProtocolId) (value : Json) : Except Text Json :=
  context "invalid type" (roundTrip SimVncConfig.fromValue SimVncConfig.toValue value)

def vncPayload (defaultPort : UInt16) : CreateRuleRequest where
  name := "desk"
  protocol := "vnc"
  defaultPort := defaultPort
  configJson := .obj []

theorem createRule_vncPayload (defaultPort : UInt16) : ∃ db' stored,
    createRule sampleLibraries.json validateVnc (uuidEnding 0) "now" .init
      (vncPayload defaultPort) = .ok (db', stored) :=
  ⟨_, _, rfl⟩

theorem parseSlrp_sampleEntries :
    parseSlrpWithPublicKey sampleLibraries sampleEntries sampleKeyText = .ok samplePackage :=
  parseSlrp_ok_iff.mpr ⟨_, _, _, packs_sampleEntries, verify_sample, rfl, readPackage_sample⟩

/-- The port of VNC, of a rule that is created and of one that is imported. -/
theorem defaultPort_deployable_vnc :
    (∃ db' stored, createRule sampleLibraries.json validateVnc (uuidEnding 0) "now" .init
        (vncPayload 5900) = .ok (db', stored) ∧
      (Deployable stored.protocol stored.defaultPort ↔ (vncPayload 5900).defaultPort ≠ 0)) ∧
    ∃ rulesBin signatureText proto,
      readArchive sampleEntries = .ok (rulesBin, signatureText) ∧
      sampleLibraries.decode rulesBin = some proto ∧
      List.Forall₂ (fun rule imported =>
        (Deployable imported.protocol imported.defaultPort.toNat ∧
          PortOf rule imported.defaultPort.toNat ↔ PortUsable rule)) proto.rules
        samplePackage.rules := by
  obtain ⟨hcreated, himported⟩ := defaultPort_deployable_iff sampleLibraries
  obtain ⟨db', stored, h⟩ := createRule_vncPayload 5900
  exact ⟨⟨db', stored, h, hcreated _ _ _ _ _ _ _ h⟩, himported _ _ _ parseSlrp_sampleEntries⟩

theorem not_deployable_zero {protocol : Text} {id : ProtocolId}
    (hprotocol : ProtocolId.fromStr protocol = .ok id) : ¬ Deployable protocol 0 := by
  have hzero := @deployable_iff _ _ 0 hprotocol
  intro h
  exact hzero.mp h rfl

/-- A rule with port zero is stored and imported, but not deployed. -/
theorem defaultPort_zero_refused :
    (∃ db' stored, createRule sampleLibraries.json validateVnc (uuidEnding 0) "now" .init
        (vncPayload 0) = .ok (db', stored) ∧ ¬ Deployable stored.protocol stored.defaultPort) ∧
    ∃ imported, readRule sampleLibraries { sampleRule with defaultPort := some 0 } = .ok imported ∧
      ¬ Deployable imported.protocol imported.defaultPort.toNat := by
  have hvnc : ProtocolId.fromStr "vnc" = .ok .vnc := rfl
  constructor
  · obtain ⟨db', stored, h⟩ := createRule_vncPayload 0
    obtain ⟨⟨protocol, hprotocol⟩, hport, _⟩ := createRule_ok h
    refine ⟨db', stored, h, ?_⟩
    rw [hport]
    exact not_deployable_zero hprotocol
  · exact ⟨_, rfl, not_deployable_zero hvnc⟩

end ProtocolSimulation.Service
