import ProtocolSimulation.RulePackages

/-!
# The endpoints that a packaged rule declares

Only their number is compared, and each expected one is looked up by its name.
With distinct names this leaves no room for an endpoint that is repeated or not
expected.
-/
namespace ProtocolSimulation.RulePackages

open ProtocolSimulation.Texts ProtocolSimulation.Protocols ProtocolSimulation.KeyedTables
open ProtocolSimulation.Fallible

/-- What has to be the same in a declaration and in the descriptor. -/
structure Agrees (actual : RuleEndpointProto) (endpoint : EndpointSpec) : Prop where
  transport : actual.transport = endpoint.transport.asStr
  containerPort : actual.containerPort.toInt = endpoint.containerPort.toNat
  required : actual.required = endpoint.required
  defaultHostPort : 0 ≤ actual.defaultHostPort.toInt ∧ actual.defaultHostPort.toInt ≤ 65535

theorem isSome_u16TryFrom_iff {n : ℤ} : (u16TryFrom n).isSome = true ↔ 0 ≤ n ∧ n ≤ 65535 := by
  rw [u16TryFrom]
  split
  next hrange => simp only [Option.isSome_some, true_iff]; omega
  next hrange => simp only [Option.isSome_none, Bool.false_eq_true, false_iff]; omega

theorem validateRuleEndpoint_ok_iff {rule : SimRuleProto} {endpoint : EndpointSpec} :
    validateRuleEndpoint rule endpoint = .ok () ↔ ∃ actual,
      (rule.endpoints.find? fun candidate => candidate.id = endpoint.id) = some actual ∧
        Agrees actual endpoint := by
  simp only [validateRuleEndpoint, bind_ok_iff, context_ok_iff, ensure_ok_iff,
    isSome_u16TryFrom_iff]
  constructor
  · intro h
    obtain ⟨actual, hfound, htransport, hport, hrequired, hdefault⟩ := h
    exact ⟨actual, hfound, htransport, hport, hrequired, hdefault⟩
  · intro h
    obtain ⟨actual, hfound, hagrees⟩ := h
    exact ⟨actual, hfound, hagrees.transport, hagrees.containerPort, hagrees.required,
      hagrees.defaultHostPort⟩

theorem validateRuleEndpoints_eq_ok_iff {rule : SimRuleProto} {expected : List EndpointSpec} :
    validateRuleEndpoints rule expected = .ok () ↔ rule.endpoints.length = expected.length ∧
      ∀ endpoint ∈ expected, validateRuleEndpoint rule endpoint = .ok () := by
  simp only [validateRuleEndpoints, bind_ok_iff, ensure_ok_iff, forM_ok_iff]
  constructor
  · intro h
    obtain ⟨_, hlength, hall⟩ := h
    exact ⟨hlength, hall⟩
  · intro h
    exact ⟨(), h⟩

/-- As many keys as are wanted, with every wanted one among them, are the wanted ones. -/
theorem perm_of_covered {κ : Type} {wanted keys : List κ} (hdistinct : wanted.Nodup)
    (hcovered : wanted ⊆ keys) (hlength : keys.length = wanted.length) : keys.Perm wanted :=
  ((List.subperm_of_subset hdistinct hcovered).perm_of_length_le hlength.le).symm

theorem find?_endpoint_iff {rule : SimRuleProto} {id : Text} {actual : RuleEndpointProto}
    (hdistinct : (rule.endpoints.map RuleEndpointProto.id).Nodup) :
    (rule.endpoints.find? fun candidate => candidate.id = id) = some actual ↔
      actual ∈ rule.endpoints ∧ actual.id = id :=
  Table.get_eq_some_iff (t := ⟨rule.endpoints, hdistinct⟩)

/-- The declarations that are accepted are those of the expected endpoints, in any order. -/
theorem validateRuleEndpoints_ok_iff {rule : SimRuleProto} {expected : List EndpointSpec}
    (hexpected : (expected.map EndpointSpec.id).Nodup) :
    validateRuleEndpoints rule expected = .ok () ↔
      (rule.endpoints.map RuleEndpointProto.id).Perm (expected.map EndpointSpec.id) ∧
        ∀ endpoint ∈ expected, ∀ actual ∈ rule.endpoints, actual.id = endpoint.id →
          Agrees actual endpoint := by
  rw [validateRuleEndpoints_eq_ok_iff]
  constructor
  · intro h
    obtain ⟨hlength, hall⟩ := h
    have hfound : ∀ endpoint ∈ expected, ∃ actual,
        (rule.endpoints.find? fun candidate => candidate.id = endpoint.id) = some actual ∧
          Agrees actual endpoint := by
      intro endpoint hendpoint
      exact validateRuleEndpoint_ok_iff.mp (hall endpoint hendpoint)
    have hcovered : expected.map EndpointSpec.id ⊆ rule.endpoints.map RuleEndpointProto.id := by
      intro id hid
      obtain ⟨endpoint, hendpoint, rfl⟩ := List.mem_map.mp hid
      obtain ⟨actual, hactual, _⟩ := hfound endpoint hendpoint
      have hsame : actual.id = endpoint.id := by simpa using List.find?_some hactual
      exact hsame ▸ List.mem_map_of_mem (List.mem_of_find?_eq_some hactual)
    have hperm := perm_of_covered hexpected hcovered (by simpa using hlength)
    refine ⟨hperm, ?_⟩
    intro endpoint hendpoint actual hactual hid
    obtain ⟨other, hother, hagrees⟩ := hfound endpoint hendpoint
    rw [(find?_endpoint_iff (hperm.nodup_iff.mpr hexpected)).mpr ⟨hactual, hid⟩] at hother
    cases hother
    exact hagrees
  · intro h
    obtain ⟨hperm, hagrees⟩ := h
    refine ⟨by simpa using hperm.length_eq, ?_⟩
    intro endpoint hendpoint
    have hid : endpoint.id ∈ rule.endpoints.map RuleEndpointProto.id :=
      hperm.mem_iff.mpr (List.mem_map_of_mem hendpoint)
    obtain ⟨actual, hactual, hid⟩ := List.mem_map.mp hid
    exact validateRuleEndpoint_ok_iff.mpr
      ⟨actual, (find?_endpoint_iff (hperm.nodup_iff.mpr hexpected)).mpr ⟨hactual, hid⟩,
        hagrees endpoint hendpoint actual hactual hid⟩

/-- A rule for DNS with the given endpoints. -/
def dnsRule (endpoints : List RuleEndpointProto) : SimRuleProto where
  id := 7
  name := "dns"
  nameEn := "dns"
  cve := none
  category := []
  descriptionZh := []
  descriptionEn := []
  protocol := "dns"
  defaultPort := none
  configJson := "\x7b\x7d"
  endpoints := endpoints

/-- The two endpoints of DNS may come in the other order, but not one of them twice. -/
theorem validateRuleEndpoints_dns :
    (validateRuleEndpoints (dnsRule [⟨"dns-udp", "udp", 53, 0, true⟩,
        ⟨"dns-tcp", "tcp", 53, 65535, true⟩]) (protocolEndpoints .dns) = .ok () ∧
      (["dns-udp", "dns-tcp"] : List Text).Perm ((protocolEndpoints .dns).map EndpointSpec.id)) ∧
    validateRuleEndpoints (dnsRule [⟨"dns-udp", "udp", 53, 0, true⟩,
      ⟨"dns-udp", "udp", 53, 0, true⟩]) (protocolEndpoints .dns) ≠ .ok () := by
  have hdns := protocolEndpoints_distinct .dns
  constructor
  · have hok : validateRuleEndpoints (dnsRule [⟨"dns-udp", "udp", 53, 0, true⟩,
        ⟨"dns-tcp", "tcp", 53, 65535, true⟩]) (protocolEndpoints .dns) = .ok () := by
      decide
    exact ⟨hok, ((validateRuleEndpoints_ok_iff hdns).mp hok).1⟩
  · intro h
    have hperm := ((validateRuleEndpoints_ok_iff hdns).mp h).1
    exact absurd (hperm.nodup_iff.mpr hdns) (by decide)

end ProtocolSimulation.RulePackages
