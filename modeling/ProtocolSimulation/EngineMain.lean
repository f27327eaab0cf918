import ProtocolSimulation.KeyedTables
import ProtocolSimulation.Protocols

/-!
# The start of the engine

What the engine checks of the endpoints it is launched with.
-/
namespace ProtocolSimulation.Engine

open ProtocolSimulation.Texts ProtocolSimulation.KeyedTables ProtocolSimulation.Protocols

/-- The loop of `validated_endpoints`; `seen` are the names it has met. -/
def checkEndpoints (protocol : ProtocolId) : List Text → List BoundEndpoint →
    Except Text (List Text)
  | seen, [] => .ok seen
  | seen, endpoint :: rest =>
    if seen.contains endpoint.endpointId then
      .error (("duplicate simulation endpoint: " : Text) ++ endpoint.endpointId)
    else
      match (protocolEndpoints protocol).find? (·.id = endpoint.endpointId) with
      | none => .error (("unknown simulation endpoint: " : Text) ++ endpoint.endpointId)
      | some expected =>
        if endpoint.transport ≠ expected.transport ∨
            endpoint.containerPort ≠ expected.containerPort then
          .error (("simulation endpoint " : Text) ++ endpoint.endpointId ++
            (" does not match the " : Text) ++ protocol.asStr ++ (" protocol descriptor" : Text))
        else checkEndpoints protocol (endpoint.endpointId :: seen) rest

def validatedEndpoints (config : EngineLaunchConfig) : Except Text (List BoundEndpoint) :=
  if config.endpoints.isEmpty then
    .error "simulation launch config does not contain an endpoint"
  else
    match checkEndpoints config.protocol [] config.endpoints with
    | .error message => .error message
    | .ok seen =>
      match (protocolEndpoints config.protocol).find? fun expected =>
          expected.required && !seen.contains expected.id with
      | some expected =>
        .error (("required simulation endpoint is missing: " : Text) ++ expected.id)
      | none => .ok config.endpoints

/-! ## What is accepted -/

/-- The endpoint is one that the protocol declares. -/
def Declared (protocol : ProtocolId) (endpoint : BoundEndpoint) : Prop :=
  ∃ spec ∈ protocolEndpoints protocol, spec.id = endpoint.endpointId ∧
    endpoint.transport = spec.transport ∧ endpoint.containerPort = spec.containerPort

/-- The endpoints of a protocol, by their names. -/
def endpointTable (protocol : ProtocolId) : Table EndpointSpec.id :=
  ⟨protocolEndpoints protocol, protocolEndpoints_distinct protocol⟩

theorem find?_protocolEndpoints {protocol : ProtocolId} {id : Text} {spec : EndpointSpec} :
    (protocolEndpoints protocol).find? (·.id = id) = some spec ↔
      spec ∈ protocolEndpoints protocol ∧ spec.id = id :=
  Table.get_eq_some_iff (t := endpointTable protocol)

theorem not_declared_of_find? {protocol : ProtocolId} {endpoint : BoundEndpoint}
    (h : (protocolEndpoints protocol).find? (·.id = endpoint.endpointId) = none) :
    ¬ Declared protocol endpoint := by
  intro hdeclared
  obtain ⟨spec, hmem, hid, -⟩ := hdeclared
  rw [find?_protocolEndpoints.mpr ⟨hmem, hid⟩] at h
  simp at h

theorem declared_iff_of_find? {protocol : ProtocolId} {endpoint : BoundEndpoint}
    {expected : EndpointSpec}
    (h : (protocolEndpoints protocol).find? (·.id = endpoint.endpointId) = some expected) :
    Declared protocol endpoint ↔ endpoint.transport = expected.transport ∧
      endpoint.containerPort = expected.containerPort := by
  obtain ⟨hmem, hid⟩ := find?_protocolEndpoints.mp h
  constructor
  · intro hdeclared
    obtain ⟨spec, hmem', hid', hsame⟩ := hdeclared
    obtain rfl := Table.eq_of_key_eq (t := endpointTable protocol) hmem' hmem
      (hid'.trans hid.symm)
    exact hsame
  · intro hsame
    exact ⟨expected, hmem, hid, hsame⟩

/-- The loop passes endpoints that the protocol declares, each of them once. -/
theorem checkEndpoints_ok_iff {protocol : ProtocolId} {seen seen' : List Text}
    {endpoints : List BoundEndpoint} : checkEndpoints protocol seen endpoints = .ok seen' ↔
      (∀ e ∈ endpoints, e.endpointId ∉ seen ∧ Declared protocol e) ∧
        (endpoints.map BoundEndpoint.endpointId).Nodup ∧
        seen' = (endpoints.map BoundEndpoint.endpointId).reverse ++ seen := by
  induction endpoints generalizing seen with
  | nil => simp [checkEndpoints, eq_comm]
  | cons endpoint rest ih =>
    rw [checkEndpoints]
    by_cases hseen : endpoint.endpointId ∈ seen
    · simp [hseen]
    rw [if_neg (by simpa using hseen)]
    cases hfind : (protocolEndpoints protocol).find? (·.id = endpoint.endpointId) with
    | none => simp [not_declared_of_find? hfind]
    | some expected =>
      have hdeclared := declared_iff_of_find? hfind
      by_cases hsame : endpoint.transport = expected.transport ∧
          endpoint.containerPort = expected.containerPort
      · have hpass : ¬ (endpoint.transport ≠ expected.transport ∨
            endpoint.containerPort ≠ expected.containerPort) := by
          rw [not_or, not_not, not_not]
          exact hsame
        have hhead : endpoint.endpointId ∉ seen ∧ Declared protocol endpoint :=
          ⟨hseen, hdeclared.mpr hsame⟩
        rw [List.forall_mem_cons, and_iff_right hhead, List.map_cons, List.nodup_cons,
          List.reverse_cons, List.append_assoc _ _ seen, List.singleton_append]
        simp only [if_neg hpass, ih, List.mem_cons, not_or, List.mem_map]
        constructor
        · rintro ⟨hrest, hnodup, rfl⟩
          refine ⟨fun e he => ⟨(hrest e he).1.2, (hrest e he).2⟩, ⟨?_, hnodup⟩, rfl⟩
          rintro ⟨e, he, heq⟩
          exact (hrest e he).1.1 heq
        · rintro ⟨hrest, ⟨hfresh, hnodup⟩, rfl⟩
          refine ⟨fun e he => ⟨⟨?_, (hrest e he).1⟩, (hrest e he).2⟩, hnodup, rfl⟩
          intro heq
          exact hfresh ⟨e, he, heq⟩
      · have hmismatch : endpoint.transport ≠ expected.transport ∨
            endpoint.containerPort ≠ expected.containerPort := by
          rw [← not_and_or]
          exact hsame
        have hnot : ¬ Declared protocol endpoint := fun h => hsame (hdeclared.mp h)
        simp [hmismatch, hnot]

theorem validatedEndpoints_ok_iff {config : EngineLaunchConfig} {endpoints : List BoundEndpoint} :
    validatedEndpoints config = .ok endpoints ↔
      config.endpoints ≠ [] ∧ (∀ e ∈ config.endpoints, Declared config.protocol e) ∧
        (config.endpoints.map BoundEndpoint.endpointId).Nodup ∧
        (∀ spec ∈ protocolEndpoints config.protocol, spec.required = true →
          ∃ e ∈ config.endpoints, e.endpointId = spec.id) ∧
        endpoints = config.endpoints := by
  unfold validatedEndpoints
  by_cases hempty : config.endpoints = []
  · simp [hempty]
  rw [if_neg (by simpa using hempty)]
  cases hcheck : checkEndpoints config.protocol [] config.endpoints with
  | error message =>
    have hnot (hdeclared : ∀ e ∈ config.endpoints, Declared config.protocol e)
        (hdistinct : (config.endpoints.map BoundEndpoint.endpointId).Nodup) : False := by
      have hok := checkEndpoints_ok_iff.mpr
        ⟨fun e he => ⟨List.not_mem_nil, hdeclared e he⟩, hdistinct, rfl⟩
      rw [hok] at hcheck
      simp at hcheck
    simp only [reduceCtorEq, false_iff]
    rintro ⟨-, hdeclared, hdistinct, -⟩
    exact hnot hdeclared hdistinct
  | ok seen =>
    obtain ⟨hall, hdistinct, rfl⟩ := checkEndpoints_ok_iff.mp hcheck
    have hdeclared : ∀ e ∈ config.endpoints, Declared config.protocol e := fun e he => (hall e he).2
    have hcovered : ((protocolEndpoints config.protocol).find? fun expected => expected.required &&
        !((config.endpoints.map BoundEndpoint.endpointId).reverse ++ []).contains expected.id) =
          none ↔
        ∀ spec ∈ protocolEndpoints config.protocol, spec.required = true →
          ∃ e ∈ config.endpoints, e.endpointId = spec.id := by
      simp [List.find?_eq_none]
    cases hmissing : (protocolEndpoints config.protocol).find? fun expected => expected.required &&
        !((config.endpoints.map BoundEndpoint.endpointId).reverse ++ []).contains expected.id with
    | some missing =>
      have hnot := mt hcovered.mpr (by rw [hmissing]; simp)
      simp only [hmissing, reduceCtorEq, false_iff]
      rintro ⟨-, -, -, hall', -⟩
      exact hnot hall'
    | none =>
      have hall' := hcovered.mp hmissing
      simp only [hmissing, Except.ok.injEq]
      constructor
      · intro h
        exact ⟨hempty, hdeclared, hdistinct, hall', h.symm⟩
      · rintro ⟨-, -, -, -, rfl⟩
        rfl

end ProtocolSimulation.Engine
