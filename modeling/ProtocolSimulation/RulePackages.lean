import ProtocolSimulation.RuleTables
import ProtocolSimulation.Fallible

/-!
# Rule packages

A package is an archive with the rules and a detached signature over them. Reading
it goes from the entries of the archive to the rules that are imported.
-/
namespace ProtocolSimulation.RulePackages

open ProtocolSimulation.Texts ProtocolSimulation.JsonValues ProtocolSimulation.Protocols
open ProtocolSimulation.Storage ProtocolSimulation.Fallible

def RULESET_FORMAT_VERSION : Int32 := 1

def PACKAGE_SCHEMA_VERSION : Int32 := 1

def MAX_RULES_BIN_BYTES : ℕ := 16 * 1024 * 1024

def MAX_SIGNATURE_BYTES : ℕ := 32 * 1024

def MAX_RULE_COUNT : ℕ := 100000

structure RuleEndpointProto where
  id : Text
  transport : Text
  containerPort : Int32
  defaultHostPort : Int32
  required : Bool

structure SimRuleProto where
  id : Int64
  name : Text
  nameEn : Text
  cve : Option Text
  category : Text
  descriptionZh : Text
  descriptionEn : Text
  protocol : Text
  defaultPort : Option Int64
  configJson : Text
  endpoints : List RuleEndpointProto

structure RulePackageManifestProto where
  packageId : Text
  version : Text
  rulesetFormatVersion : Int32
  minSeclabVersion : Text
  generatedAt : Int64
  ruleCount : Int32
  schemaVersion : Int32

structure SimRulePackageProto where
  manifest : Option RulePackageManifestProto
  rules : List SimRuleProto

/-! ## What libraries do -/

/-- Standard base64: what is decoded is shorter than its text. -/
structure Base64 where
  decode : Text → Option Bytes
  shorter : ∀ text bytes, decode text = some bytes → text ≠ [] → bytes.length < text.length

structure Libraries where
  base64 : Base64
  /-- BLAKE2b with 64 bytes. -/
  blake2b : Bytes → Bytes
  /-- Ed25519: the key, the message and the signature. -/
  verify : Bytes → Bytes → Bytes → Bool
  /-- `SimRulePackageProto::decode`. -/
  decode : Bytes → Option SimRulePackageProto
  /-- `semver::Version::parse` succeeds. -/
  isVersion : Text → Bool
  /-- The RFC 3339 text of a timestamp, if it is in range, and of the current time. -/
  rfc3339 : Int64 → Option Text
  now : Text
  json : JsonCodec
  validateBehavior : ProtocolId → Json → Option Json

def ensure (c : Prop) [Decidable c] (message : Text) : Except Text Unit :=
  if c then .ok () else .error message

/-- `Context::context`. -/
def context {α : Type} (message : Text) : Option α → Except Text α
  | some a => .ok a
  | none => .error message

theorem ensure_ok_iff {c : Prop} [Decidable c] {message : Text} {u : Unit} :
    ensure c message = .ok u ↔ c := by
  rw [ensure]
  split <;> simp [*]

theorem context_ok_iff {α : Type} {message : Text} {o : Option α} {a : α} :
    context message o = .ok a ↔ o = some a := by
  cases o <;> simp [context]

/-! ## The archive -/

/-- An entry of the archive: its path, whether it is a regular file, and its bytes. -/
structure TarEntry where
  path : Text
  isFile : Bool
  content : Bytes
  deriving DecidableEq

/-- The loop over the entries, with the paths and the contents found so far. -/
def readEntries : List TarEntry → (seenEntries : List Text) → (rulesBin : Option Bytes) →
    (signatureText : Option Text) → Except Text (Option Bytes × Option Text)
  | [], _, rulesBin, signatureText => .ok (rulesBin, signatureText)
  | entry :: rest, seenEntries, rulesBin, signatureText =>
    let path := replace ['\\'] "/" entry.path
    if seenEntries.contains path then
      .error (("duplicate rule package entry: " : Text) ++ path)
    else if !entry.isFile then
      .error (("rule package entry is not a regular file: " : Text) ++ path)
    else if path = "rules.bin" then
      let content := entry.content.take (MAX_RULES_BIN_BYTES + 1)
      if MAX_RULES_BIN_BYTES < content.length then
        .error "rules.bin exceeds the v1 size limit"
      else readEntries rest (path :: seenEntries) (some content) signatureText
    else if path = "rules.bin.sig" then do
      let content ← context "failed to read rules.bin.sig"
        (utf8Decode (entry.content.take (MAX_SIGNATURE_BYTES + 1)))
      if MAX_SIGNATURE_BYTES < byteLen content then
        .error "rules.bin.sig exceeds the v1 size limit"
      else readEntries rest (path :: seenEntries) rulesBin (some content)
    else .error (("unexpected rule package entry: " : Text) ++ path)

/-- The contents of the archive, if both are there. -/
def readArchive (entries : List TarEntry) : Except Text (Bytes × Text) := do
  let (rulesBin, signatureText) ← readEntries entries [] none none
  let rulesBin ← context "rules.bin is missing from rule package" rulesBin
  let signatureText ← context "rules.bin.sig is missing from rule package" signatureText
  return (rulesBin, signatureText)

/-! ## The signature -/

/-- The first line that is neither empty nor starts with one of the prefixes. -/
def payloadLine (comments : List Text) (text : Text) : Option Text :=
  ((lines text).map trim).find? fun line =>
    !line.isEmpty && !comments.any fun comment => comment.isPrefixOf line

theorem length_payloadLine {comments : List Text} {text payload : Text}
    (h : payloadLine comments text = some payload) :
    payload ≠ [] ∧ payload.length ≤ text.length := by
  have hfound := List.find?_some h
  obtain ⟨line, hline, rfl⟩ := List.mem_map.mp (List.mem_of_find?_eq_some h)
  constructor
  · intro hempty
    rw [hempty] at hfound
    simp at hfound
  · exact (length_trim_le line).trans (length_le_of_mem_lines hline)

def publicKeyPayload (text : Text) : Option Text := payloadLine ["untrusted comment:"] text

/-- Another text with a key that the decoded bytes hold. -/
def nestedKey (decoded : Bytes) : Option Text :=
  (utf8Decode decoded).filter fun nested => contains nested "minisign public key"

theorem length_nestedKey {decoded : Bytes} {nested : Text} (h : nestedKey decoded = some nested) :
    nested.length ≤ decoded.length := by
  obtain ⟨hdecode, _⟩ := Option.filter_eq_some_iff.mp h
  rw [← utf8Encode_of_utf8Decode hdecode]
  exact length_le_byteLen nested

/-- The key in the payload, which may be a text with a payload of its own. -/
def decodePublicKey (base64 : Base64) (text : Text) : Except Text Bytes :=
  match _hpayload : publicKeyPayload text with
  | none => .error "public key payload is missing"
  | some payload =>
    match _hdecoded : base64.decode payload with
    | none => .error "invalid base64"
    | some decoded =>
      match _hnested : nestedKey decoded with
      | some nested => decodePublicKey base64 nested
      | none =>
        if decoded.length = 32 then .ok decoded
        else if decoded.length = 42 &&
            ((utf8Encode "Ed").isPrefixOf decoded || (utf8Encode "ED").isPrefixOf decoded) then
          .ok (decoded.drop 10)
        else .error "public key payload is invalid"
termination_by text.length
decreasing_by
  obtain ⟨hne, hle⟩ := length_payloadLine _hpayload
  have hshorter := base64.shorter payload decoded _hdecoded hne
  have hlength := length_nestedKey _hnested
  omega

/-- The signature, and whether it is over the hash of the message. -/
def decodeSignature (base64 : Base64) (text : Text) : Except Text (Bytes × Bool) := do
  let payload ← context "signature payload is missing"
    (payloadLine ["untrusted comment:", "trusted comment:"] text)
  let decoded ← context "invalid base64" (base64.decode payload)
  if decoded.length = 64 then return (decoded, false)
  else if 74 ≤ decoded.length && (utf8Encode "Ed").isPrefixOf decoded then
    return ((decoded.take 74).drop 10, false)
  else if 74 ≤ decoded.length && (utf8Encode "ED").isPrefixOf decoded then
    return ((decoded.take 74).drop 10, true)
  else .error "signature payload is invalid"

def verifyDetachedSignature (libraries : Libraries) (publicKeyText : Text) (message : Bytes)
    (signatureText : Text) : Except Text Unit := do
  let publicKey ← decodePublicKey libraries.base64 publicKeyText
  let (signature, prehashed) ← decodeSignature libraries.base64 signatureText
  let verifiedMessage := if prehashed then libraries.blake2b message else message
  ensure (libraries.verify publicKey verifiedMessage signature) "Ed25519 signature is invalid"

/-! ## Rules -/

/-- `u16::try_from` of a signed number. -/
def u16TryFrom (n : ℤ) : Option UInt16 :=
  if 0 ≤ n ∧ n < 65536 then some (UInt16.ofNat n.toNat) else none

/-- The endpoint whose port a rule without a port of its own gets. -/
def mainEndpoint (rule : SimRuleProto) : Option RuleEndpointProto :=
  (rule.endpoints.find? fun endpoint => endpoint.id = ("main" : Text)).or rule.endpoints.head?

def defaultRuleHostPort (rule : SimRuleProto) : Option UInt16 :=
  (rule.defaultPort.bind fun port => u16TryFrom port.toInt).or
    ((mainEndpoint rule).bind fun endpoint => u16TryFrom endpoint.defaultHostPort.toInt)

def ruleText (rule : SimRuleProto) : Text := ("rule " : Text) ++ showInt rule.id.toInt

/-- The check of one endpoint that the protocol declares. -/
def validateRuleEndpoint (rule : SimRuleProto) (endpoint : EndpointSpec) : Except Text Unit := do
  let actual ← context (ruleText rule ++ (" is missing endpoint " : Text) ++ endpoint.id)
    (rule.endpoints.find? fun candidate => candidate.id = endpoint.id)
  ensure (actual.transport = endpoint.transport.asStr ∧
      actual.containerPort.toInt = endpoint.containerPort.toNat ∧
      actual.required = endpoint.required ∧ (u16TryFrom actual.defaultHostPort.toInt).isSome)
    (ruleText rule ++ (" endpoint " : Text) ++ endpoint.id ++ (" is invalid" : Text))

def validateRuleEndpoints (rule : SimRuleProto) (expected : List EndpointSpec) :
    Except Text Unit := do
  ensure (rule.endpoints.length = expected.length)
    (ruleText rule ++ (" endpoint declaration does not match protocol descriptor" : Text))
  expected.forM (validateRuleEndpoint rule)

def importedConfig (rule : SimRuleProto) (behavior : Json) : Json :=
  .obj [("behavior", behavior), ("category", .str rule.category),
    ("cve", (rule.cve.map Json.str).getD .null), ("description", .str rule.descriptionZh),
    ("descriptionEn", .str rule.descriptionEn), ("nameEn", .str rule.nameEn)]

/-- What a rule of the package is imported as, after the checks of its number. -/
def readRule (libraries : Libraries) (rule : SimRuleProto) : Except Text ImportedRule := do
  let protocol ← ProtocolId.fromStr rule.protocol
  validateRuleEndpoints rule (protocolEndpoints protocol)
  let defaultPort ← context "rule does not contain a valid default host port"
    (defaultRuleHostPort rule)
  let behavior ← context (ruleText rule ++ (" config_json is invalid JSON" : Text))
    (libraries.json.parse rule.configJson)
  let behavior ← context (ruleText rule ++ (" behavior does not match protocol schema" : Text))
    (libraries.validateBehavior protocol behavior)
  return {
    id := ("sim-rule-" : Text) ++ showInt rule.id.toInt
    name := rule.name
    nameEn := rule.nameEn
    protocol := rule.protocol
    defaultPort
    configJson := libraries.json.renderPretty (importedConfig rule behavior) }

/-- The loop over the rules, with the numbers seen so far. -/
def readRules (libraries : Libraries) :
    List SimRuleProto → (ruleIds : List Int64) → Except Text (List ImportedRule)
  | [], _ => .ok []
  | rule :: rest, ruleIds => do
    ensure (1 ≤ rule.id.toInt ∧ rule.id.toInt < 1000000)
      (ruleText rule ++ (" is outside the official v1 ID partition" : Text))
    ensure (ruleIds.contains rule.id = false)
      (("duplicate rule id: " : Text) ++ showInt rule.id.toInt)
    let imported ← readRule libraries rule
    let others ← readRules libraries rest (rule.id :: ruleIds)
    return imported :: others

/-- What the checks of a rule establish. -/
structure Imports (libraries : Libraries) (rule : SimRuleProto) (imported : ImportedRule) : Prop
    where
  protocol : ∃ protocol, ProtocolId.fromStr rule.protocol = .ok protocol ∧
    validateRuleEndpoints rule (protocolEndpoints protocol) = .ok () ∧
    ∃ value behavior, libraries.json.parse rule.configJson = some value ∧
      libraries.validateBehavior protocol value = some behavior ∧
      imported.configJson = libraries.json.renderPretty (importedConfig rule behavior)
  id : imported.id = ("sim-rule-" : Text) ++ showInt rule.id.toInt
  nameEn : imported.nameEn = rule.nameEn
  protocolText : imported.protocol = rule.protocol
  defaultPort : defaultRuleHostPort rule = some imported.defaultPort

theorem imports_of_readRule {libraries : Libraries} {rule : SimRuleProto} {imported : ImportedRule}
    (h : readRule libraries rule = .ok imported) : Imports libraries rule imported := by
  unfold readRule at h
  simp only [bind_ok_iff, context_ok_iff] at h
  obtain ⟨protocol, hprotocol, _, hendpoints, port, hport, value, hvalue, behavior, hbehavior, h⟩ :=
    h
  cases h
  exact ⟨⟨protocol, hprotocol, hendpoints, value, behavior, hvalue, hbehavior, rfl⟩, rfl, rfl, rfl,
    hport⟩

/-- The rules of a package have numbers of their own, and each is imported. -/
theorem readRules_ok {libraries : Libraries} {rules : List SimRuleProto} {ruleIds : List Int64}
    {imported : List ImportedRule} (h : readRules libraries rules ruleIds = .ok imported) :
    List.Forall₂ (fun rule imported => 1 ≤ rule.id.toInt ∧ Imports libraries rule imported) rules
        imported ∧
      (rules.map SimRuleProto.id).Nodup ∧ ∀ rule ∈ rules, rule.id ∉ ruleIds := by
  induction rules generalizing ruleIds imported with
  | nil =>
    cases h
    simp
  | cons rule rest ih =>
    unfold readRules at h
    simp only [bind_ok_iff, ensure_ok_iff] at h
    obtain ⟨_, hrange, _, hnew, first, hfirst, others, hothers, h⟩ := h
    cases h
    obtain ⟨hall, hdistinct, hfresh⟩ := ih hothers
    refine ⟨.cons ⟨hrange.1, imports_of_readRule hfirst⟩ hall, ?_, ?_⟩
    · rw [List.map_cons, List.nodup_cons]
      refine ⟨?_, hdistinct⟩
      intro hmem
      obtain ⟨other, hother, hid⟩ := List.mem_map.mp hmem
      exact hfresh other hother (hid ▸ List.mem_cons_self)
    · intro other hother
      obtain rfl | hother := List.mem_cons.mp hother
      · simpa using hnew
      · exact fun hseen => hfresh other hother (List.mem_cons_of_mem _ hseen)

def readPackage (libraries : Libraries) (package : SimRulePackageProto) :
    Except Text ImportedRulePackage := do
  let manifest ← context "rule package manifest is missing" package.manifest
  ensure (manifest.schemaVersion = PACKAGE_SCHEMA_VERSION)
    (("unsupported rule package schemaVersion: " : Text) ++ showInt manifest.schemaVersion.toInt)
  ensure (manifest.rulesetFormatVersion = RULESET_FORMAT_VERSION)
    (("unsupported rulesetFormatVersion: " : Text) ++ showInt manifest.rulesetFormatVersion.toInt ++
      (" (only v1 is supported during alpha)" : Text))
  ensure (manifest.ruleCount = Int32.ofNat package.rules.length)
    (("rule package manifest declares " : Text) ++ showInt manifest.ruleCount.toInt ++
      (" rules but payload contains " : Text) ++ showNat package.rules.length)
  ensure (package.rules.length ≤ MAX_RULE_COUNT) "rule package exceeds the v1 rule count limit"
  ensure (package.rules ≠ []) "rule package must contain at least one rule"
  ensure (manifest.packageId = "seclab-sim-rules")
    (("unsupported rule package id: " : Text) ++ manifest.packageId)
  ensure (libraries.isVersion manifest.version) "rule package version is invalid"
  ensure (libraries.isVersion manifest.minSeclabVersion)
    "rule package minSeclabVersion is invalid"
  let rules ← readRules libraries package.rules []
  return {
    packageId := manifest.packageId
    version := manifest.version
    rulesetFormatVersion := manifest.rulesetFormatVersion.toInt
    minSeclabVersion := manifest.minSeclabVersion
    generatedAt := (libraries.rfc3339 manifest.generatedAt).getD libraries.now
    rules }

theorem readRules_of_readPackage {libraries : Libraries} {proto : SimRulePackageProto}
    {package : ImportedRulePackage} (h : readPackage libraries proto = .ok package) :
    readRules libraries proto.rules [] = .ok package.rules := by
  unfold readPackage at h
  simp only [bind_ok_iff] at h
  obtain ⟨_, _, _, _, _, _, _, _, _, _, _, _, _, _, _, _, _, _, rules, hrules, h⟩ := h
  cases h
  exact hrules

/-- What is imported of the entries of an archive, once the signature was verified. -/
def parseSlrpWithPublicKey (libraries : Libraries) (entries : List TarEntry)
    (publicKeyText : Text) : Except Text ImportedRulePackage := do
  let (rulesBin, signatureText) ← readArchive entries
  match verifyDetachedSignature libraries publicKeyText rulesBin signatureText with
  | .error _ => .error "rule package signature verification failed"
  | .ok () => do
    let package ← context "failed to decode rule package payload" (libraries.decode rulesBin)
    readPackage libraries package

end ProtocolSimulation.RulePackages
