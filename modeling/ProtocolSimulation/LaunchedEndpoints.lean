import ProtocolSimulation.DeployRuns
import ProtocolSimulation.EngineMain
import ProtocolSimulation.Fallible

/-!
# The endpoints an engine is launched with

What `deploy_instance` lets pass, and that the engine accepts the endpoints that it
is then launched with.
-/
namespace ProtocolSimulation.Service

open ProtocolSimulation.Texts ProtocolSimulation.JsonValues ProtocolSimulation.Identifiers
open ProtocolSimulation.Protocols
open ProtocolSimulation.Storage ProtocolSimulation.Api ProtocolSimulation.Engine
open ProtocolSimulation.Fallible ProtocolSimulation.Programs ProtocolSimulation.Programs.Prog

/-! ## The requested bindings -/

/-- The bindings name endpoints of the protocol, each with a port and none of them twice,
and among them are all that are required. -/
structure Admissible (protocol : ProtocolId) (bindings : List EndpointBindingRequest) : Prop where
  distinct : (bindings.map EndpointBindingRequest.endpointId).Nodup
  known : ∀ b ∈ bindings, ∃ spec ∈ protocolEndpoints protocol, spec.id = b.endpointId
  nonzero : ∀ b ∈ bindings, b.hostPort ≠ 0
  covered : ∀ spec ∈ protocolEndpoints protocol, spec.required = true →
    ∃ b ∈ bindings, b.endpointId = spec.id

/-- The bindings as the hash map holds them. -/
def requestedBindings (bindings : List EndpointBindingRequest) : Bindings :=
  bindings.map fun b => (b.endpointId, b.hostPort)

theorem lookup_isSome_iff {requested : Bindings} {id : Text} :
    (requested.lookup id).isSome = true ↔ id ∈ requested.map Prod.fst := by
  simp only [List.lookup_isSome_iff, beq_iff_eq, List.mem_map]
  constructor
  · rintro ⟨entry, hentry, rfl⟩
    exact ⟨entry, hentry, rfl⟩
  · rintro ⟨entry, hentry, rfl⟩
    exact ⟨entry, hentry, rfl⟩

theorem map_fst_requestedBindings (bindings : List EndpointBindingRequest) :
    (requestedBindings bindings).map Prod.fst = bindings.map EndpointBindingRequest.endpointId := by
  simp [requestedBindings]

theorem collectBindings_ok_iff {requested result : Bindings}
    {bindings : List EndpointBindingRequest} : collectBindings requested bindings = .ok result ↔
      (∀ b ∈ bindings, b.hostPort ≠ 0 ∧ b.endpointId ∉ requested.map Prod.fst) ∧
        (bindings.map EndpointBindingRequest.endpointId).Nodup ∧
        result = requested ++ requestedBindings bindings := by
  induction bindings generalizing requested with
  | nil => simp [collectBindings, requestedBindings, eq_comm]
  | cons binding rest ih =>
    rw [collectBindings]
    by_cases hzero : binding.hostPort = 0
    · simp [hzero]
    by_cases hseen : binding.endpointId ∈ requested.map Prod.fst
    · have htaken := lookup_isSome_iff.mpr hseen
      simp only [hzero, if_false, htaken, if_true, reduceCtorEq, false_iff]
      rintro ⟨hfresh, -⟩
      exact (hfresh binding List.mem_cons_self).2 hseen
    · have hfree : ¬ (requested.lookup binding.endpointId).isSome = true :=
        fun h => hseen (lookup_isSome_iff.mp h)
      have hhead : binding.hostPort ≠ 0 ∧ binding.endpointId ∉ requested.map Prod.fst :=
        ⟨hzero, hseen⟩
      rw [if_neg hzero, if_neg hfree, ih, List.forall_mem_cons, and_iff_right hhead, List.map_cons,
        List.nodup_cons, requestedBindings, requestedBindings, List.map_cons, List.append_assoc,
        List.singleton_append]
      simp only [List.map_append, List.map_cons, List.map_nil, List.mem_append, List.mem_singleton,
        not_or, List.mem_map]
      constructor
      · rintro ⟨hrest, hnodup, rfl⟩
        refine ⟨fun b hb => ⟨(hrest b hb).1, (hrest b hb).2.1⟩, ⟨?_, hnodup⟩, rfl⟩
        rintro ⟨b, hb, heq⟩
        exact (hrest b hb).2.2 heq
      · rintro ⟨hrest, ⟨hfresh, hnodup⟩, rfl⟩
        refine ⟨fun b hb => ⟨(hrest b hb).1, (hrest b hb).2, ?_⟩, hnodup, rfl⟩
        intro heq
        exact hfresh ⟨b, hb, heq⟩

/-- The endpoints that `deploy_instance` makes of the bindings. -/
def boundEndpoints (specs : List EndpointSpec) (requested : Bindings) : List InstanceEndpoint :=
  specs.filterMap fun endpoint => (requested.lookup endpoint.id).map fun hostPort =>
    ⟨[], endpoint.id, endpoint.transport.asStr, hostPort.toNat, endpoint.containerPort.toNat⟩

theorem bindEndpoints_ok_iff {specs : List EndpointSpec} {requested : Bindings} {order : List Text}
    {endpoints : List InstanceEndpoint} : bindEndpoints specs requested order = .ok endpoints ↔
      (∀ id ∈ order, id ∈ specs.map EndpointSpec.id) ∧
        (∀ spec ∈ specs, spec.required = true → spec.id ∈ requested.map Prod.fst) ∧
        endpoints = boundEndpoints specs requested := by
  have hknown : (order.find? fun id => !(specs.map EndpointSpec.id).contains id) = none ↔
      ∀ id ∈ order, id ∈ specs.map EndpointSpec.id := by
    simp only [List.find?_eq_none, Bool.not_eq_true', Bool.not_eq_false, List.contains_iff_mem]
  have hcovered : (specs.find? fun endpoint =>
      endpoint.required && (requested.lookup endpoint.id).isNone) = none ↔
      ∀ spec ∈ specs, spec.required = true → spec.id ∈ requested.map Prod.fst := by
    simp only [List.find?_eq_none, Bool.and_eq_true, not_and, ← Option.isSome_eq_false_iff,
      Bool.not_eq_false, lookup_isSome_iff]
  unfold bindEndpoints
  cases hunknown : order.find? fun id => !(specs.map EndpointSpec.id).contains id with
  | some unknown =>
    have hnot := mt hknown.mpr (by rw [hunknown]; simp)
    simp only [reduceCtorEq, false_iff]
    rintro ⟨hall, -⟩
    exact hnot hall
  | none =>
    cases hmissing : specs.find? fun endpoint =>
        endpoint.required && (requested.lookup endpoint.id).isNone with
    | some missing =>
      have hnot := mt hcovered.mpr (by rw [hmissing]; simp)
      simp only [reduceCtorEq, false_iff]
      rintro ⟨-, hall, -⟩
      exact hnot hall
    | none =>
      rw [and_iff_right (hknown.mp hunknown), and_iff_right (hcovered.mp hmissing),
        boundEndpoints, Except.ok.injEq, eq_comm]

/-- The checks that `deploy_instance` makes of the bindings. -/
def checkBindings (protocol : ProtocolId) (bindings : List EndpointBindingRequest)
    (order : List Text) : Except ApiError (List InstanceEndpoint) := do
  let requested ← collectBindings [] bindings
  bindEndpoints (protocolEndpoints protocol) requested order

/-- The checks pass the bindings that are admissible, in whatever order the hash map yields
them. -/
theorem checkBindings_ok_iff {protocol : ProtocolId} {bindings : List EndpointBindingRequest}
    {order : List Text} (horder : order.Perm (bindings.map EndpointBindingRequest.endpointId))
    {endpoints : List InstanceEndpoint} :
    checkBindings protocol bindings order = .ok endpoints ↔ Admissible protocol bindings ∧
      endpoints = boundEndpoints (protocolEndpoints protocol) (requestedBindings bindings) := by
  simp only [checkBindings, bind_ok_iff, collectBindings_ok_iff, bindEndpoints_ok_iff,
    List.map_nil, List.not_mem_nil, not_false_eq_true, and_true, List.nil_append]
  constructor
  · rintro ⟨requested, ⟨hnonzero, hdistinct, rfl⟩, hknown, hcovered, rfl⟩
    rw [map_fst_requestedBindings] at hcovered
    refine ⟨⟨hdistinct, fun b hb => ?_, hnonzero, fun spec hspec hrequired => ?_⟩, rfl⟩
    · exact List.mem_map.mp (hknown _ (horder.mem_iff.mpr (List.mem_map_of_mem hb)))
    · exact List.mem_map.mp (hcovered spec hspec hrequired)
  · rintro ⟨h, rfl⟩
    refine ⟨_, ⟨h.nonzero, h.distinct, rfl⟩, fun id hid => ?_, fun spec hspec hrequired => ?_, rfl⟩
    · obtain ⟨b, hb, rfl⟩ := List.mem_map.mp (horder.mem_iff.mp hid)
      exact List.mem_map.mpr (h.known b hb)
    · rw [map_fst_requestedBindings]
      exact List.mem_map.mpr (h.covered spec hspec hrequired)

theorem not_admissible_of_checkBindings {protocol : ProtocolId}
    {bindings : List EndpointBindingRequest} {order : List Text} {e : ApiError}
    (horder : order.Perm (bindings.map EndpointBindingRequest.endpointId))
    (h : checkBindings protocol bindings order = .error e) : ¬ Admissible protocol bindings := by
  intro hadmissible
  rw [(checkBindings_ok_iff horder).mpr ⟨hadmissible, rfl⟩] at h
  simp at h

theorem not_admissible_of_collectBindings {protocol : ProtocolId}
    {bindings : List EndpointBindingRequest} {e : ApiError}
    (h : collectBindings [] bindings = .error e) : ¬ Admissible protocol bindings := by
  apply not_admissible_of_checkBindings (.refl _)
  rw [checkBindings, h]
  rfl

/-! ## The round trip through the instance -/

theorem boundTransport_asStr (transport : TransportProtocol) :
    boundTransport transport.asStr = transport := by
  cases transport <;> decide

theorem asU16_toNat (port : UInt16) : asU16 port.toNat = port := by
  have hport : port.toNat < 65536 := port.toNat_lt
  have hmod : ((port.toNat : ℤ) % 65536).toNat = port.toNat := by omega
  rw [asU16, hmod, UInt16.ofNat_toNat]

/-- The endpoints of the launch configuration, straight from the bindings. -/
theorem launchConfig_endpoints (json : JsonCodec) (config : Config) (protocol : ProtocolId)
    (rule : Rule) (row : InstanceRow) (specs : List EndpointSpec) (requested : Bindings)
    (id : Text) :
    (launchConfig json config protocol rule row
      ((boundEndpoints specs requested).map fun e => { e with instanceId := id })).endpoints =
      specs.filterMap fun spec => (requested.lookup spec.id).map fun hostPort =>
        ⟨spec.id, spec.transport, hostPort, spec.containerPort⟩ := by
  rw [launchConfig, boundEndpoints, List.map_map, List.map_filterMap]
  dsimp only
  congr 1
  funext spec
  rw [Option.map_map]
  congr 1
  funext hostPort
  simp [boundTransport_asStr, asU16_toNat]

theorem lookup_requestedBindings {bindings : List EndpointBindingRequest}
    (hdistinct : (bindings.map EndpointBindingRequest.endpointId).Nodup) {id : Text}
    {hostPort : UInt16} : (requestedBindings bindings).lookup id = some hostPort ↔
      ⟨id, hostPort⟩ ∈ bindings := by
  induction bindings with
  | nil => simp [requestedBindings]
  | cons binding rest ih =>
    obtain ⟨hfresh, hrest⟩ := List.nodup_cons.mp hdistinct
    rw [requestedBindings] at ih
    rw [requestedBindings, List.map_cons, List.lookup_cons, List.mem_cons]
    by_cases hid : id = binding.endpointId
    · subst hid
      have hnot : ⟨binding.endpointId, hostPort⟩ ∉ rest :=
        fun h => hfresh (List.mem_map.mpr ⟨_, h, rfl⟩)
      obtain ⟨endpointId, port⟩ := binding
      simp [hnot, eq_comm]
    · have hne : (⟨id, hostPort⟩ : EndpointBindingRequest) ≠ binding := by
        rintro rfl
        exact hid rfl
      rw [beq_false_of_ne hid, ih hrest]
      simp [hne]

theorem boundEndpoints_ne_nil {protocol : ProtocolId} {bindings : List EndpointBindingRequest}
    (h : Admissible protocol bindings) :
    boundEndpoints (protocolEndpoints protocol) (requestedBindings bindings) ≠ [] := by
  obtain ⟨spec, hspec⟩ := protocolEndpoints_nonempty protocol
  obtain ⟨b, hb, hid⟩ := h.covered spec hspec (protocolEndpoints_required hspec)
  have hlookup : (requestedBindings bindings).lookup spec.id = some b.hostPort := by
    rw [lookup_requestedBindings h.distinct, ← hid]
    exact hb
  apply List.ne_nil_of_mem
  rw [boundEndpoints, List.mem_filterMap]
  exact ⟨spec, hspec, by rw [hlookup]; rfl⟩

theorem map_filterMap_sublist {α β γ : Type} {f : α → Option β} {g : β → γ} {h : α → γ}
    (hf : ∀ a b, f a = some b → g b = h a) (l : List α) :
    ((l.filterMap f).map g).Sublist (l.map h) := by
  induction l with
  | nil => exact .slnil
  | cons a l ih =>
    rw [List.filterMap_cons, List.map_cons]
    cases hfa : f a with
    | none => exact ih.cons _
    | some b =>
      rw [List.map_cons, hf a b hfa]
      exact ih.cons_cons _

/-- The endpoints are those of the bindings, as the protocol declares them. -/
def Carries (protocol : ProtocolId) (bindings : List EndpointBindingRequest)
    (endpoints : List BoundEndpoint) : Prop :=
  ∀ e, e ∈ endpoints ↔ ∃ spec ∈ protocolEndpoints protocol, ∃ b ∈ bindings,
    b.endpointId = spec.id ∧ e = ⟨spec.id, spec.transport, b.hostPort, spec.containerPort⟩

section Launched

variable {protocol : ProtocolId} {bindings : List EndpointBindingRequest}
  {launch : EngineLaunchConfig} (hlaunch : launch.endpoints =
    (protocolEndpoints protocol).filterMap fun spec =>
      ((requestedBindings bindings).lookup spec.id).map fun hostPort =>
        ⟨spec.id, spec.transport, hostPort, spec.containerPort⟩)
include hlaunch

theorem carries_launched (h : Admissible protocol bindings) :
    Carries protocol bindings launch.endpoints := by
  intro e
  simp only [hlaunch, List.mem_filterMap, Option.map_eq_some_iff,
    lookup_requestedBindings h.distinct]
  constructor
  · rintro ⟨spec, hspec, hostPort, hb, rfl⟩
    exact ⟨spec, hspec, _, hb, rfl, rfl⟩
  · rintro ⟨spec, hspec, b, hb, hid, rfl⟩
    refine ⟨spec, hspec, b.hostPort, ?_, rfl⟩
    rw [← hid]
    exact hb

theorem validated_launched (hprotocol : launch.protocol = protocol)
    (h : Admissible protocol bindings) : validatedEndpoints launch = .ok launch.endpoints := by
  have hcarries := carries_launched hlaunch h
  have hcovered : ∀ spec ∈ protocolEndpoints protocol, spec.required = true →
      ∃ e ∈ launch.endpoints, e.endpointId = spec.id := by
    intro spec hspec hrequired
    obtain ⟨b, hb, hid⟩ := h.covered spec hspec hrequired
    exact ⟨_, (hcarries _).mpr ⟨spec, hspec, b, hb, hid, rfl⟩, rfl⟩
  rw [validatedEndpoints_ok_iff, hprotocol]
  refine ⟨?_, ?_, ?_, hcovered, rfl⟩
  · obtain ⟨spec, hspec⟩ := protocolEndpoints_nonempty protocol
    obtain ⟨e, he, -⟩ := hcovered spec hspec (protocolEndpoints_required hspec)
    exact List.ne_nil_of_mem he
  · intro e he
    obtain ⟨spec, hspec, b, hb, hid, rfl⟩ := (hcarries e).mp he
    exact ⟨spec, hspec, rfl, rfl, rfl⟩
  · apply List.Sublist.nodup _ (protocolEndpoints_distinct protocol)
    rw [hlaunch]
    apply map_filterMap_sublist
    rintro spec e he
    obtain ⟨hostPort, -, rfl⟩ := Option.map_eq_some_iff.mp he
    rfl

end Launched

/-! ## Executions -/

/-- The answers that an effect may get in some state: a hash map yields each of its keys
once, and all else depends on the state. -/
def AnyAnswer (_ : Unit) : (e : Eff) → e.Answer → Unit → Prop
  | .hashOrder keys, order, _ => order.Perm keys
  | _, _, _ => True

theorem exec_anyAnswer {json : JsonCodec} {f : Faults} {s s' : System} {α : Type} {p : Handler α}
    {tr : Trace Eff.Answer} {a : α} (h : Exec (act json f) s p tr s' a) :
    Exec AnyAnswer () p tr () a := by
  apply h.map (f := fun _ => ())
  intro s e r s' hact
  cases e with
  | hashOrder keys => exact hact.2
  | _ => trivial

/-- The effect inserts no instance, and if it starts a workload, then with these endpoints. -/
def StartsWith (protocol : ProtocolId) (endpoints : List BoundEndpoint) : Eff → Prop
  | .insertInstanceIfPortAvailable _ _ => False
  | .startWorkload request =>
    request.configJson.protocol = protocol ∧ request.configJson.endpoints = endpoints
  | _ => True

theorem startsWith_recordDeploy (protocol : ProtocolId) (endpoints : List BoundEndpoint)
    (operationContext : Option Text) (id : Text) (answer : Except Error StartWorkloadResponse) :
    (recordDeploy operationContext id answer).Uses (StartsWith protocol endpoints) := by
  apply uses_recordDeploy
  · intro e he
    cases e with
    | insertInstanceIfPortAvailable | startWorkload => exact he.elim
    | _ => trivial
  · exact fun _ => trivial
  · exact fun _ => trivial
  · trivial

/-- What `deploy_instance` performs once the bindings have passed. -/
theorem exec_deployEndpoints {json : JsonCodec} {config : Config} {operationContext : Option Text}
    {rule : Rule} {protocol : ProtocolId} {endpoints : List InstanceEndpoint}
    {tr : Trace Eff.Answer} {a : Except ApiError Instance} (hne : endpoints ≠ [])
    (h : Exec AnyAnswer () (deployEndpoints json config operationContext rule protocol endpoints)
      tr () a) :
    ∃ uuid token inserted rest, tr = ⟨.nowV7, uuid⟩ :: ⟨.nowV7, token⟩ ::
        ⟨.insertInstanceIfPortAvailable (newInstance (instanceId uuid) rule token.hyphenated)
          (endpoints.map fun e => { e with instanceId := instanceId uuid }), inserted⟩ :: rest ∧
      (inserted = .ok true → ∃ request answer, ⟨.startWorkload request, answer⟩ ∈ rest) ∧
      ∀ x ∈ rest, StartsWith protocol (launchConfig json config protocol rule
        (newInstance (instanceId uuid) rule token.hyphenated)
        (endpoints.map fun e => { e with instanceId := instanceId uuid })).endpoints x.1 := by
  obtain ⟨uuid, _, _, rfl, -, h⟩ := exec_call_iff.mp h
  obtain ⟨token, _, _, rfl, -, h⟩ := exec_call_iff.mp h
  obtain ⟨inserted, _, rest, rfl, -, h⟩ := exec_call_iff.mp h
  refine ⟨uuid, token, inserted, rest, rfl, ?_⟩
  cases inserted with
  | error e =>
    obtain ⟨rfl, -⟩ := exec_ret_iff.mp h
    simp
  | ok done =>
    cases done with
    | false =>
      obtain ⟨rfl, -⟩ := exec_ret_iff.mp h
      simp
    | true =>
      obtain ⟨primary, others, hprimary⟩ :=
        List.exists_cons_of_ne_nil (mt List.map_eq_nil_iff.mp hne : endpoints.map (fun e =>
          { e with instanceId := instanceId uuid }) ≠ [])
      simp only [hprimary, List.head?_cons] at h
      obtain ⟨answer, _, rest, rfl, -, h⟩ := exec_call_iff.mp h
      constructor
      · intro _
        exact ⟨_, answer, List.mem_cons_self⟩
      · rw [List.forall_mem_cons, hprimary]
        exact ⟨⟨rfl, rfl⟩, h.uses (startsWith_recordDeploy _ _ _ _ _)⟩

/-- The bindings pass if and only if they are admissible: only then does the deployment come to
insert the instance. What it then starts carries the requested bindings, and the engine
accepts it. -/
theorem deployed_accepted (json : JsonCodec) (config : Config) (operationContext : Option Text)
    (payload : DeployInstanceRequest) (rule : Rule) (protocol : ProtocolId)
    (hprotocol : rule.protocol = protocol.asStr) (tr : Trace Eff.Answer)
    (a : Except ApiError Instance)
    (h : Exec AnyAnswer () (deployInstance json config operationContext payload)
      (⟨.getRule payload.ruleId, .ok (some rule)⟩ :: tr) () a) :
    ((∃ row endpoints inserted, ⟨.insertInstanceIfPortAvailable row endpoints, inserted⟩ ∈ tr) ↔
        Admissible protocol payload.endpointBindings) ∧
      ((∃ row endpoints, ⟨.insertInstanceIfPortAvailable row endpoints, .ok true⟩ ∈ tr) →
        ∃ request answer, ⟨.startWorkload request, answer⟩ ∈ tr) ∧
      ∀ request answer, ⟨.startWorkload request, answer⟩ ∈ tr →
        Carries protocol payload.endpointBindings request.configJson.endpoints ∧
          validatedEndpoints request.configJson = .ok request.configJson.endpoints := by
  obtain ⟨found, _, _, hcons, -, h⟩ := exec_call_iff.mp h
  obtain ⟨hfound, rfl⟩ := List.cons.inj hcons
  obtain rfl : Except.ok (some rule) = found := eq_of_heq (Sigma.mk.inj hfound).2
  have hparsed : ProtocolId.fromStr rule.protocol = .ok protocol :=
    ProtocolId.fromStr_eq_ok_iff.mpr hprotocol
  simp only [bind_eq, ret_bind, hparsed] at h
  cases hcollect : collectBindings [] payload.endpointBindings with
  | error e =>
    rw [hcollect] at h
    obtain ⟨rfl, -⟩ := exec_ret_iff.mp h
    simp [not_admissible_of_collectBindings hcollect]
  | ok requested =>
    rw [hcollect] at h
    obtain ⟨order, _, tr, rfl, hkeys, h⟩ := exec_call_iff.mp h
    obtain ⟨-, -, rfl⟩ := collectBindings_ok_iff.mp hcollect
    have horder : order.Perm (payload.endpointBindings.map EndpointBindingRequest.endpointId) := by
      rw [← map_fst_requestedBindings]
      exact hkeys
    have hchecked : checkBindings protocol payload.endpointBindings order =
        bindEndpoints (protocolEndpoints protocol) (requestedBindings payload.endpointBindings)
          order := by
      rw [checkBindings, hcollect]
      rfl
    simp only [bind_eq, ret_bind, List.nil_append, ← hchecked] at h
    cases hcheck : checkBindings protocol payload.endpointBindings order with
    | error e =>
      rw [hcheck] at h
      obtain ⟨rfl, -⟩ := exec_ret_iff.mp h
      simp [not_admissible_of_checkBindings horder hcheck]
    | ok endpoints =>
      obtain ⟨hadmissible, rfl⟩ := (checkBindings_ok_iff horder).mp hcheck
      rw [hcheck] at h
      obtain ⟨uuid, token, inserted, rest, rfl, hstarted, hrest⟩ :=
        exec_deployEndpoints (boundEndpoints_ne_nil hadmissible) h
      rw [launchConfig_endpoints] at hrest
      simp only [List.mem_cons, Sigma.mk.injEq, reduceCtorEq, false_and, false_or]
      refine ⟨iff_of_true ⟨_, _, inserted, .inl ⟨rfl, .rfl⟩⟩ hadmissible, ?_, ?_⟩
      · rintro ⟨row, endpoints, ⟨hsame, hanswer⟩ | hlate⟩
        · obtain ⟨rfl, rfl⟩ := Eff.insertInstanceIfPortAvailable.inj hsame
          exact hstarted (eq_of_heq hanswer).symm
        · exact (hrest _ hlate).elim
      · intro request answer hrequest
        obtain ⟨hlaunched, hendpoints⟩ := hrest _ hrequest
        exact ⟨carries_launched hendpoints hadmissible,
          validated_launched hendpoints hlaunched hadmissible⟩

/-- A rule for SSH is deployed, and its one endpoint is launched as it was requested. -/
theorem deployed_accepted_ssh : ∃ tr a request answer,
    Exec AnyAnswer () (deployInstance emptyObjectCodec localConfig none sshPayload)
      (⟨.getRule "rule-1", .ok (some ⟨"rule-1", "shell", "ssh", 22, "{}", "", ""⟩)⟩ :: tr) () a ∧
    ⟨.startWorkload request, answer⟩ ∈ tr ∧
    Carries .ssh sshPayload.endpointBindings request.configJson.endpoints ∧
    validatedEndpoints request.configJson = .ok request.configJson.endpoints := by
  let rule : Rule := ⟨"rule-1", "shell", "ssh", 22, "{}", "", ""⟩
  have hrecord : ∃ tr a, Exec AnyAnswer ()
      (recordDeploy none sshInstance (.ok ⟨some "w-1"⟩)) tr () a := by
    rw [recordDeploy, updateInstanceStatus]
    exact ⟨_, _, exec_call_iff.mpr ⟨.error (.ofMessage []), (), _, rfl, trivial, .ret⟩⟩
  obtain ⟨tr, a, hrecord⟩ := hrecord
  have hexec : ∃ tr a, Exec AnyAnswer ()
      (deployInstance emptyObjectCodec localConfig none sshPayload)
      (⟨.getRule "rule-1", .ok (some rule)⟩ :: ⟨.hashOrder ["main"], ["main"]⟩ ::
        ⟨.nowV7, uuidEnding 0⟩ :: ⟨.nowV7, uuidEnding 1⟩ ::
        ⟨.insertInstanceIfPortAvailable (newInstance sshInstance rule (uuidEnding 1).hyphenated)
          [⟨sshInstance, "main", "tcp", 2222, 22⟩], .ok true⟩ :: tr) () a := by
    exact ⟨_, a, exec_call_iff.mpr ⟨.ok (some rule), (), _, rfl, trivial,
      exec_call_iff.mpr ⟨["main"], (), _, rfl, .refl _,
      exec_call_iff.mpr ⟨uuidEnding 0, (), _, rfl, trivial,
      exec_call_iff.mpr ⟨uuidEnding 1, (), _, rfl, trivial,
      exec_call_iff.mpr ⟨.ok true, (), _, rfl, trivial,
      exec_call_iff.mpr ⟨.ok ⟨some "w-1"⟩, (), _, rfl, trivial, hrecord⟩⟩⟩⟩⟩⟩⟩
  obtain ⟨tr, a, hexec⟩ := hexec
  obtain ⟨-, hstarted, hlaunched⟩ := deployed_accepted _ _ _ _ rule .ssh rfl _ a hexec
  obtain ⟨request, answer, hrequest⟩ := hstarted ⟨_, _, List.mem_cons_of_mem _
    (List.mem_cons_of_mem _ (List.mem_cons_of_mem _ List.mem_cons_self))⟩
  exact ⟨_, a, request, answer, hexec, hrequest, hlaunched request answer hrequest⟩

end ProtocolSimulation.Service
