import ProtocolSimulation.Identifiers
import ProtocolSimulation.JsonValues
import Mathlib.Data.Nat.Size

/-!
# Rule identifiers in the API client

The user interface numbers the rules. The number of a rule is read off its
backend identifier, and two maps lead between the two. The maps keep the last
identifier that was remembered under a number, so the client finds every rule
again exactly when the numbers of the loaded rules are distinct.
-/
namespace ProtocolSimulation.RuleClient

open ProtocolSimulation.Texts ProtocolSimulation.Identifiers ProtocolSimulation.JsonValues

/-! ## The client's functions -/

/-- The double nearest to a natural number, ties to even: what `Number` makes of digits. -/
def toDouble (n : ℕ) : ℕ :=
  let ulp := 2 ^ (Nat.size n - 53)
  if n % ulp * 2 < ulp ∨ (n % ulp * 2 = ulp ∧ n / ulp % 2 = 0) then n / ulp * ulp
  else (n / ulp + 1) * ulp

theorem toDouble_of_lt {n : ℕ} (h : n < 2 ^ 53) : toDouble n = n := by
  have hsize : Nat.size n - 53 = 0 := by
    have := Nat.size_le.mpr h
    omega
  simp [toDouble, hsize, Nat.mod_one]

/-- `ch.charCodeAt(0)`: the first UTF-16 code unit of a character. -/
def charCode (c : Char) : ℕ :=
  if c.toNat < 0x10000 then c.toNat else 0xd800 + (c.toNat - 0x10000) / 0x400

def rollingHash (id : Text) : ℕ := id.foldl (fun hash ch => (hash * 31 + charCode ch) % 2 ^ 32) 0

def uiRuleId (id : Text) : ℕ :=
  match id.rtakeWhile isDigit with
  | [] => 1000000 + rollingHash id % 900000000
  | matched => toDouble (decimalValue matched)

/-- The module's two maps. -/
structure RuleIds where
  backendRuleIdToUi : Text → Option ℕ
  ruleIdToBackend : ℕ → Option Text

def rememberRuleId (maps : RuleIds) (backendId : Text) : RuleIds × ℕ :=
  let id := uiRuleId backendId
  (⟨Function.update maps.backendRuleIdToUi backendId (some id),
    Function.update maps.ruleIdToBackend id (some backendId)⟩, id)

structure SuiteRule where
  id : Text
  name : Text
  protocol : Text
  defaultPort : ℤ
  configJson : Text
  createdAt : Text
  updatedAt : Text

structure ParsedConfig where
  nameEn : Option Text
  cve : Option Text
  category : Text
  descriptionZh : Text
  descriptionEn : Text
  configYaml : Text

def parseConfig (json : JsonCodec) (rule : SuiteRule) : ParsedConfig :=
  let text (raw : Json) (key : Text) := (raw.get key).bind Json.asStr
  match json.parse rule.configJson with
  -- a member access on `null` throws, as a parse error does
  | none | some .null => ⟨none, none, "custom", "", "", "{}"⟩
  | some raw =>
    let behavior := match raw.get "behavior" with
      | some (.obj fields) => .obj fields
      | some (.arr items) => .arr items
      | _ => raw
    ⟨text raw "nameEn", text raw "cve", (text raw "category").getD "custom",
      (text raw "description").getD "", (text raw "descriptionEn").getD "",
      json.renderPretty behavior⟩

structure SimRule where
  id : ℕ
  name : Text
  nameEn : Text
  cve : Option Text
  category : Text
  descriptionZh : Text
  descriptionEn : Text
  protocol : Text
  defaultPort : ℤ
  configYaml : Text
  createdAt : Text
  updatedAt : Text

/-- `value || fallback` on strings: the empty string counts as missing. -/
def orElse (value : Option Text) (fallback : Text) : Text :=
  match value with
  | none | some [] => fallback
  | some t => t

def mapRule (json : JsonCodec) (maps : RuleIds) (rule : SuiteRule) : RuleIds × SimRule :=
  let parsed := parseConfig json rule
  let (maps, id) := rememberRuleId maps rule.id
  (maps, ⟨id, rule.name, orElse parsed.nameEn rule.name, parsed.cve, parsed.category,
    parsed.descriptionZh, parsed.descriptionEn, rule.protocol, rule.defaultPort,
    parsed.configYaml, rule.createdAt, rule.updatedAt⟩)

/-- `res.data.map(mapRule)`, from the first rule to the last. -/
def mapRules (json : JsonCodec) : RuleIds → List SuiteRule → RuleIds × List SimRule
  | maps, [] => (maps, [])
  | maps, rule :: rest =>
    let (maps, mapped) := mapRule json maps rule
    let (maps, others) := mapRules json maps rest
    (maps, mapped :: others)

structure ApiEnvelope (α : Type) where
  success : Bool
  data : Option α
  message : Option Text
  messageKey : Option Text

def listRules (json : JsonCodec) (maps : RuleIds) (res : ApiEnvelope (List SuiteRule)) :
    RuleIds × ApiEnvelope (List SimRule) :=
  match res.success, res.data with
  | true, some rules =>
    let (maps, mapped) := mapRules json maps rules
    (maps, ⟨true, some mapped, none, none⟩)
  | _, _ => (maps, ⟨false, none, res.message, res.messageKey⟩)

structure EndpointBinding where
  endpointId : Text
  hostPort : ℕ

structure DeploySimReq where
  ruleId : ℕ
  endpointBindings : List EndpointBinding

structure DeployBody where
  ruleId : Text
  endpointBindings : List EndpointBinding

structure Request (β : Type) where
  url : Text
  method : Text
  body : Option β

/-- `path.replace(/^\/+/, "")`. -/
def apiUrl (path : Text) : Text := path.dropWhile (· == '/')

def upperHex (n : ℕ) : Char := (Nat.digitChar n).toUpper

def isUnreserved (c : Char) : Bool :=
  c.isAlphanum || ("-_.!~*'()" : Text).contains c

def encodeURIComponent (t : Text) : Text :=
  t.flatMap fun c =>
    if isUnreserved c then [c]
    else (utf8Encode [c]).flatMap fun b => ['%', upperHex (b.toNat / 16), upperHex (b.toNat % 16)]

/-- The backend identifier a number stands for, else the number itself as text. -/
def backendRuleId (maps : RuleIds) (id : ℕ) : Text :=
  orElse (maps.ruleIdToBackend id) (showNat id)

def deleteRule (maps : RuleIds) (id : ℕ) : Request Unit :=
  ⟨apiUrl (("/api/rules/" : Text) ++ encodeURIComponent (backendRuleId maps id)), "DELETE", none⟩

def deploySimulation (maps : RuleIds) (data : DeploySimReq) : Request DeployBody :=
  ⟨apiUrl ("/api/instances/deploy" : Text), "POST",
    some ⟨backendRuleId maps data.ruleId, data.endpointBindings⟩⟩

def BUILTIN_RULE_MAX_ID : ℕ := 999999

/-- The guard of `handleDeleteRule`: what it asks the backend to delete, if anything. -/
def handleDeleteRule (maps : RuleIds) (id : ℕ) : Option (Request Unit) :=
  if id ≤ BUILTIN_RULE_MAX_ID then none else some (deleteRule maps id)

/-! ## What remembering does to the maps -/

/-- Remember a list of identifiers in turn. -/
def rememberAll (maps : RuleIds) (ids : List Text) : RuleIds :=
  ids.foldl (fun maps id => (rememberRuleId maps id).1) maps

theorem mapRules_fst (json : JsonCodec) (maps : RuleIds) (rules : List SuiteRule) :
    (mapRules json maps rules).1 = rememberAll maps (rules.map SuiteRule.id) := by
  induction rules generalizing maps with
  | nil => rfl
  | cons rule rest ih => exact ih _

theorem mapRules_ids (json : JsonCodec) (maps : RuleIds) (rules : List SuiteRule) :
    (mapRules json maps rules).2.map SimRule.id = rules.map fun rule => uiRuleId rule.id := by
  induction rules generalizing maps with
  | nil => rfl
  | cons rule rest ih => exact congrArg (uiRuleId rule.id :: ·) (ih _)

/-- Remembering identifiers of one set on which the numbers are distinct never
overwrites the entry of another member of it. -/
theorem rememberAll_lookup {known : Set Text} (hinj : Set.InjOn uiRuleId known) {id : Text}
    (hid : id ∈ known) (maps : RuleIds) (ids : List Text) (hids : ∀ x ∈ ids, x ∈ known)
    (h : id ∈ ids ∨ maps.ruleIdToBackend (uiRuleId id) = some id) :
    (rememberAll maps ids).ruleIdToBackend (uiRuleId id) = some id := by
  induction ids generalizing maps with
  | nil => simpa [rememberAll] using h
  | cons x rest ih =>
    apply ih
    · intro y hy
      exact hids y (List.mem_cons_of_mem x hy)
    · by_cases hx : uiRuleId id = uiRuleId x
      · have : id = x := hinj hid (hids x List.mem_cons_self) hx
        subst this
        right
        simp [rememberRuleId]
      · rcases h with h | h
        · rcases List.mem_cons.mp h with rfl | h
          · exact absurd rfl hx
          · exact .inl h
        · right
          simpa [rememberRuleId, hx] using h

/-! ## The numbers of packaged and of user rules -/

theorem rtakeWhile_append_cons {p : Char → Bool} {c : Char} (hc : p c = false) (s t : Text) :
    (s ++ c :: t).rtakeWhile p = t.rtakeWhile p := by
  have h : ∀ l : Text, (l ++ c :: s.reverse).takeWhile p = l.takeWhile p := by
    intro l
    induction l with
    | nil => simp [hc]
    | cons d l ih => by_cases hd : p d <;> simp [hd, ih]
  simp [List.rtakeWhile, h]

theorem rtakeWhile_of_all {p : Char → Bool} {t : Text} (h : ∀ c ∈ t, p c = true) :
    t.rtakeWhile p = t := by
  rw [List.rtakeWhile, List.takeWhile_eq_self_iff.mpr, List.reverse_reverse]
  intro c hc
  exact h c (List.mem_reverse.mp hc)

theorem uiRuleId_packaged {n : ℕ} (pos : 1 ≤ n) (bound : n < 1000000) :
    uiRuleId (RuleId.packaged n pos bound).text = n := by
  have htext : (RuleId.packaged n pos bound).text = ("sim-rule" : Text) ++ '-' :: showNat n := rfl
  have hdigits : (RuleId.packaged n pos bound).text.rtakeWhile isDigit = showNat n := by
    rw [htext, rtakeWhile_append_cons (by decide)]
    exact rtakeWhile_of_all fun c hc => showNat_isDigit hc
  have hne : showNat n ≠ [] := Nat.toDigits_ne_nil
  rw [uiRuleId, hdigits]
  split
  · exact absurd ‹_› hne
  · rw [decimalValue_showNat, toDouble_of_lt (by omega)]

/-- The decimal digits a UUID ends with. -/
def trailingDigits (u : UuidV7) : List (Fin 16) :=
  (u.digits.drop 20).rtakeWhile fun d => decide (d.val < 10)

/-- The number the text of a UUID ends with, if its last digit is a decimal one. -/
def trailingNumber (u : UuidV7) : Option ℕ :=
  if trailingDigits u = [] then none
  else some (Nat.ofDigits 10 ((trailingDigits u).reverse.map Fin.val))

/-- The polynomial in 31 of the characters of a user rule's identifier, as it is spread
over the numbers from 1000000. -/
def spread (u : UuidV7) : ℕ :=
  Nat.ofDigits 31 ((RuleId.user u).text.reverse.map charCode) % 2 ^ 32 % 900000000

theorem rollingHash_eq_ofDigits (id : Text) :
    rollingHash id = Nat.ofDigits 31 (id.reverse.map charCode) % 2 ^ 32 := by
  have h : ∀ (t : Text), t.reverse.foldl (fun hash ch => (hash * 31 + charCode ch) % 2 ^ 32) 0 =
      Nat.ofDigits 31 (t.map charCode) % 2 ^ 32 := by
    intro t
    induction t with
    | nil => rfl
    | cons c t ih =>
      rw [List.reverse_cons, List.foldl_append, ih]
      simp only [List.foldl_cons, List.foldl_nil, List.map_cons, Nat.ofDigits_cons]
      omega
  simpa [rollingHash] using h id.reverse

theorem isDigit_digitChar (d : Fin 16) : isDigit (Nat.digitChar d.val) = decide (d.val < 10) := by
  revert d; decide

theorem digitValue_digitChar {d : Fin 16} (h : d.val < 10) :
    digitValue (Nat.digitChar d.val) = d.val := by
  rw [digitValue, Nat.toNat_digitChar_of_lt_ten h]
  simp

theorem rtakeWhile_hexText (ds : List (Fin 16)) :
    (hexText ds).rtakeWhile isDigit = hexText (ds.rtakeWhile fun d => decide (d.val < 10)) := by
  have hp : (isDigit ∘ fun d : Fin 16 => Nat.digitChar d.val) = fun d => decide (d.val < 10) :=
    funext isDigit_digitChar
  rw [hexText, List.rtakeWhile, ← List.map_reverse, List.takeWhile_map, hp, ← List.map_reverse]
  rfl

/-- Whatever a UUID is appended to, the digits at the end are those of its last group. -/
theorem rtakeWhile_hyphenated (s : Text) (u : UuidV7) :
    (s ++ u.hyphenated).rtakeWhile isDigit = hexText (trailingDigits u) := by
  have hdash : isDigit '-' = false := by decide
  rw [UuidV7.hyphenated, ← List.append_assoc, rtakeWhile_append_cons hdash,
    rtakeWhile_append_cons hdash, rtakeWhile_append_cons hdash, rtakeWhile_append_cons hdash,
    rtakeWhile_hexText, trailingDigits]

theorem trailing_text (u : UuidV7) :
    (RuleId.user u).text.rtakeWhile isDigit = hexText (trailingDigits u) :=
  rtakeWhile_hyphenated _ u

theorem trailingDigits_lt {u : UuidV7} {d : Fin 16} (h : d ∈ trailingDigits u) : d.val < 10 := by
  simpa using List.mem_rtakeWhile_imp h

theorem decimalValue_trailing (u : UuidV7) :
    decimalValue (hexText (trailingDigits u)) =
      Nat.ofDigits 10 ((trailingDigits u).reverse.map Fin.val) := by
  rw [decimalValue_eq_ofDigits, hexText, ← List.map_reverse, List.map_map]
  congr 1
  apply List.map_congr_left
  intro d hd
  exact digitValue_digitChar (trailingDigits_lt (List.mem_reverse.mp hd))

/-- At most twelve digits follow the last dash, so `Number` is exact on them. -/
theorem trailing_lt (u : UuidV7) :
    Nat.ofDigits 10 ((trailingDigits u).reverse.map Fin.val) < 2 ^ 53 := by
  have hlen : ((trailingDigits u).reverse.map Fin.val).length ≤ 12 := by
    have hsuffix := (List.rtakeWhile_suffix (fun d : Fin 16 => decide (d.val < 10))
      (u.digits.drop 20)).length_le
    have := u.length_eq
    simp only [List.length_map, List.length_reverse]
    simp only [trailingDigits, List.length_drop] at hsuffix ⊢
    omega
  have hlt := Nat.ofDigits_lt_base_pow_length (b := 10)
    (l := (trailingDigits u).reverse.map Fin.val) (by omega) (by
      intro x hx
      obtain ⟨d, hd, rfl⟩ := List.mem_map.mp hx
      exact trailingDigits_lt (List.mem_reverse.mp hd))
  calc Nat.ofDigits 10 ((trailingDigits u).reverse.map Fin.val)
      < 10 ^ ((trailingDigits u).reverse.map Fin.val).length := hlt
    _ ≤ 10 ^ 12 := Nat.pow_le_pow_right (by omega) hlen
    _ < 2 ^ 53 := by norm_num

theorem uiRuleId_user (u : UuidV7) :
    uiRuleId (RuleId.user u).text = (trailingNumber u).getD (1000000 + spread u) := by
  rw [uiRuleId, trailing_text, trailingNumber, spread, rollingHash_eq_ofDigits]
  cases hds : trailingDigits u with
  | nil => rfl
  | cons d ds =>
    have hval := decimalValue_trailing u
    have hlt := trailing_lt u
    rw [hds] at hval hlt
    simp only [reduceCtorEq, if_false, Option.getD_some]
    rw [← hval] at hlt ⊢
    exact toDouble_of_lt hlt

/-! ## Which tables of rules the client keeps apart -/

/-- The rules a backend holds: the texts of distinct rule identifiers, in any order. -/
structure RuleTable where
  rules : List SuiteRule
  ids : List RuleId
  ids_eq : rules.map SuiteRule.id = ids.map RuleId.text
  distinct : ids.Nodup

/-- The client's state after `listRules` answered the table to a client in state
`maps`, and after it then saw rules and instances of the table again, in any order. -/
def RuleTable.afterListing (t : RuleTable) (json : JsonCodec) (maps : RuleIds)
    (later : List Text) : RuleIds :=
  rememberAll (listRules json maps ⟨true, some t.rules, none, none⟩).1 later

/-- The rule `r` of the table was given the number `id`. -/
def RuleTable.Numbered (t : RuleTable) (json : JsonCodec) (maps : RuleIds) (r : RuleId) (id : ℕ) :
    Prop :=
  ∃ mapped, (listRules json maps ⟨true, some t.rules, none, none⟩).2.data = some mapped ∧
    (r, id) ∈ t.ids.zip (mapped.map SimRule.id)

/-- The number of every rule leads back to it, and tells the packaged rules. -/
structure Identifies (t : RuleTable) : Prop where
  injective : ∀ r ∈ t.ids, ∀ q ∈ t.ids, uiRuleId r.text = uiRuleId q.text → r = q
  deletes : ∀ json maps later, later ⊆ t.ids.map RuleId.text → ∀ r id, t.Numbered json maps r id →
    deleteRule (t.afterListing json maps later) id =
      ⟨apiUrl (("/api/rules/" : Text) ++ encodeURIComponent r.text), "DELETE", none⟩
  deploys : ∀ json maps later, later ⊆ t.ids.map RuleId.text → ∀ r id, t.Numbered json maps r id →
    ∀ bindings, deploySimulation (t.afterListing json maps later) ⟨id, bindings⟩ =
      ⟨apiUrl ("/api/instances/deploy" : Text), "POST", some ⟨r.text, bindings⟩⟩
  builtin : ∀ json maps r id, t.Numbered json maps r id → (id ≤ BUILTIN_RULE_MAX_ID ↔ r.IsPackaged)

/-- What the digits of the user rules' UUIDs have to satisfy. -/
structure Separable (t : RuleTable) : Prop where
  large : ∀ u n, .user u ∈ t.ids → trailingNumber u = some n → 1000000 ≤ n
  numbers : ∀ u v n, .user u ∈ t.ids → .user v ∈ t.ids → u ≠ v →
    trailingNumber u = some n → trailingNumber v ≠ some n
  spreads : ∀ u v, .user u ∈ t.ids → .user v ∈ t.ids → u ≠ v →
    trailingNumber u = none → trailingNumber v = none → spread u ≠ spread v
  mixed : ∀ u v n, .user u ∈ t.ids → .user v ∈ t.ids →
    trailingNumber u = some n → trailingNumber v = none → n ≠ 1000000 + spread v

theorem numbered_iff {t : RuleTable} {json : JsonCodec} {maps : RuleIds} {r : RuleId} {id : ℕ} :
    t.Numbered json maps r id ↔ r ∈ t.ids ∧ id = uiRuleId r.text := by
  have hids : (mapRules json maps t.rules).2.map SimRule.id =
      t.ids.map fun q => uiRuleId q.text := by
    rw [mapRules_ids]
    have := congrArg (List.map uiRuleId) t.ids_eq
    simpa [List.map_map, Function.comp_def] using this
  simp only [RuleTable.Numbered, listRules, Option.some.injEq, exists_eq_left', hids]
  constructor
  · intro h
    obtain ⟨i, hi, hget⟩ := List.getElem_of_mem h
    simp only [List.getElem_zip, List.getElem_map, Prod.mk.injEq] at hget
    obtain ⟨rfl, rfl⟩ := hget
    exact ⟨List.getElem_mem _, rfl⟩
  · intro ⟨hr, hid⟩
    obtain ⟨i, hi, rfl⟩ := List.getElem_of_mem hr
    subst hid
    exact List.mem_iff_getElem.mpr ⟨i, by simpa using hi, by simp⟩

theorem orElse_text (r : RuleId) (fallback : Text) : orElse (some r.text) fallback = r.text := by
  cases r <;> rfl

/-- A client in which the loaded numbers are distinct finds every loaded rule. -/
theorem backendRuleId_afterListing {t : RuleTable}
    (hinj : ∀ r ∈ t.ids, ∀ q ∈ t.ids, uiRuleId r.text = uiRuleId q.text → r = q)
    {json : JsonCodec} {maps : RuleIds} {later : List Text} (hlater : later ⊆ t.ids.map RuleId.text)
    {r : RuleId} (hr : r ∈ t.ids) :
    backendRuleId (t.afterListing json maps later) (uiRuleId r.text) = r.text := by
  have hknown : Set.InjOn uiRuleId {x | x ∈ t.ids.map RuleId.text} := by
    intro x hx y hy hxy
    obtain ⟨r, hr, rfl⟩ := List.mem_map.mp hx
    obtain ⟨q, hq, rfl⟩ := List.mem_map.mp hy
    rw [hinj r hr q hq hxy]
  have hmem : r.text ∈ t.ids.map RuleId.text := List.mem_map_of_mem hr
  have hlisted : (listRules json maps ⟨true, some t.rules, none, none⟩).1 =
      rememberAll maps (t.ids.map RuleId.text) := by
    rw [← t.ids_eq, ← mapRules_fst json]
    rfl
  have hload := rememberAll_lookup hknown hmem maps (t.ids.map RuleId.text)
    (fun _ h => h) (.inl hmem)
  have hfind := rememberAll_lookup hknown hmem _ later (fun _ h => hlater h) (.inr hload)
  rw [backendRuleId, RuleTable.afterListing, hlisted, hfind, orElse_text]

theorem injective_of_separable {t : RuleTable} (h : Separable t) :
    ∀ r ∈ t.ids, ∀ q ∈ t.ids, uiRuleId r.text = uiRuleId q.text → r = q := by
  have hlarge : ∀ u, .user u ∈ t.ids → 1000000 ≤ uiRuleId (RuleId.user u).text := by
    intro u hu
    rw [uiRuleId_user]
    cases hn : trailingNumber u with
    | none => simp
    | some n => exact h.large u n hu hn
  intro r hr q hq heq
  cases r with
  | packaged n pos bound =>
    cases q with
    | packaged m _ _ =>
      rw [uiRuleId_packaged, uiRuleId_packaged] at heq
      subst heq
      rfl
    | user v =>
      have := hlarge v hq
      rw [uiRuleId_packaged] at heq
      omega
  | user u =>
    cases q with
    | packaged m _ bound =>
      have := hlarge u hr
      rw [uiRuleId_packaged] at heq
      omega
    | user v =>
      by_contra hne
      have huv : u ≠ v := fun huv => hne (by rw [huv])
      rw [uiRuleId_user, uiRuleId_user] at heq
      cases hu : trailingNumber u with
      | none =>
        cases hv : trailingNumber v with
        | none =>
          rw [hu, hv, Option.getD_none, Option.getD_none] at heq
          exact h.spreads u v hr hq huv hu hv (by omega)
        | some m =>
          rw [hu, hv, Option.getD_none, Option.getD_some] at heq
          exact h.mixed v u m hq hr hv hu heq.symm
      | some n =>
        cases hv : trailingNumber v with
        | none =>
          rw [hu, hv, Option.getD_none, Option.getD_some] at heq
          exact h.mixed u v n hr hq hu hv heq
        | some m =>
          rw [hu, hv, Option.getD_some, Option.getD_some] at heq
          exact h.numbers u v n hr hq huv hu (by rw [hv, heq])

/-- Numbers that keep the rules apart, and packaged rules from others, leave nothing to collide. -/
theorem separable_of_injective {t : RuleTable}
    (hinj : ∀ r ∈ t.ids, ∀ q ∈ t.ids, uiRuleId r.text = uiRuleId q.text → r = q)
    (hlarge : ∀ u, .user u ∈ t.ids → BUILTIN_RULE_MAX_ID < uiRuleId (RuleId.user u).text) :
    Separable t := by
  have hne : ∀ {u v}, u ≠ v → RuleId.user u ≠ RuleId.user v := by
    intro u v huv heq
    exact huv (RuleId.user.inj heq)
  refine ⟨?_, ?_, ?_, ?_⟩
  · intro u n hu hn
    have hbound := hlarge u hu
    rw [uiRuleId_user, hn, Option.getD_some] at hbound
    simp only [BUILTIN_RULE_MAX_ID] at hbound
    omega
  · intro u v n hu hv huv hun hvn
    apply hne huv
    apply hinj _ hu _ hv
    rw [uiRuleId_user, uiRuleId_user, hun, hvn, Option.getD_some, Option.getD_some]
  · intro u v hu hv huv hun hvn hspread
    apply hne huv
    apply hinj _ hu _ hv
    rw [uiRuleId_user, uiRuleId_user, hun, hvn, hspread]
  · intro u v n hu hv hun hvn hn
    have huv : u ≠ v := by
      rintro rfl
      rw [hun] at hvn
      exact absurd hvn (by simp)
    apply hne huv
    apply hinj _ hu _ hv
    rw [uiRuleId_user, uiRuleId_user, hun, hvn, Option.getD_some, Option.getD_none, hn]

/-- The numbers of packaged rules are those up to the limit. -/
theorem isPackaged_of_separable {t : RuleTable} (h : Separable t) {r : RuleId} (hr : r ∈ t.ids) :
    uiRuleId r.text ≤ BUILTIN_RULE_MAX_ID ↔ r.IsPackaged := by
  cases r with
  | packaged n pos bound =>
    rw [uiRuleId_packaged]
    simp only [BUILTIN_RULE_MAX_ID, RuleId.IsPackaged, iff_true]
    omega
  | user u =>
    rw [uiRuleId_user]
    simp only [BUILTIN_RULE_MAX_ID, RuleId.IsPackaged, iff_false]
    cases hn : trailingNumber u with
    | none => simp only [Option.getD_none]; omega
    | some n =>
      have := h.large u n hr hn
      simp only [Option.getD_some]
      omega

/-- The client keeps the rules of a table apart exactly when every user rule that ends
in a decimal digit ends in a number of at least 1000000, and the numbers and the spread
hashes of the user rules are all distinct. -/
theorem identifies_iff_separable (t : RuleTable) : Identifies t ↔ Separable t := by
  constructor
  · intro h
    refine separable_of_injective h.injective ?_
    intro u hu
    have hnum : t.Numbered ⟨fun _ => none, fun _ => [], fun _ => []⟩ ⟨fun _ => none, fun _ => none⟩
        (.user u) (uiRuleId (RuleId.user u).text) := numbered_iff.mpr ⟨hu, rfl⟩
    exact not_le.mp fun hle => (h.builtin _ _ _ _ hnum).mp hle
  · intro h
    have hinj := injective_of_separable h
    refine ⟨hinj, ?_, ?_, ?_⟩
    · intro json maps later hlater r id hnum
      obtain ⟨hr, rfl⟩ := numbered_iff.mp hnum
      rw [deleteRule, backendRuleId_afterListing hinj hlater hr]
    · intro json maps later hlater r id hnum bindings
      obtain ⟨hr, rfl⟩ := numbered_iff.mp hnum
      simp only [deploySimulation]
      rw [backendRuleId_afterListing hinj hlater hr]
    · intro json maps r id hnum
      obtain ⟨hr, rfl⟩ := numbered_iff.mp hnum
      exact isPackaged_of_separable h hr

/-- The UUIDs 019ff3b6-bb91-7f40-bee8-fb46a1234567 and 019ff3b7-0c21-7d11-9a02-0d30c1234567. -/
def firstUuid : UuidV7 where
  digits := hexDigits [0, 1, 9, 15, 15, 3, 11, 6, 11, 11, 9, 1, 7, 15, 4, 0, 11, 14, 14, 8,
    15, 11, 4, 6, 10, 1, 2, 3, 4, 5, 6, 7]
  length_eq := rfl
  version := rfl
  variant := ⟨11, rfl, by decide⟩

def secondUuid : UuidV7 where
  digits := hexDigits [0, 1, 9, 15, 15, 3, 11, 7, 0, 12, 2, 1, 7, 13, 1, 1, 9, 10, 0, 2,
    0, 13, 3, 0, 12, 1, 2, 3, 4, 5, 6, 7]
  length_eq := rfl
  version := rfl
  variant := ⟨9, rfl, by decide⟩

def collidingRules : RuleTable where
  rules := [⟨(RuleId.user firstUuid).text, "ftp", "ftp", 21, "{}", "", ""⟩,
    ⟨(RuleId.user secondUuid).text, "mail", "smtp", 25, "{}", "", ""⟩]
  ids := [.user firstUuid, .user secondUuid]
  ids_eq := rfl
  distinct := by decide

/-- Both rules are numbered 1234567, so asking to delete one deletes the other. -/
theorem collidingRules_not_identified : ¬ Identifies collidingRules := by
  intro h
  have hfirst : trailingNumber firstUuid = some 1234567 := by decide
  have hsecond : trailingNumber secondUuid = some 1234567 := by decide
  have hnum : uiRuleId (RuleId.user firstUuid).text = uiRuleId (RuleId.user secondUuid).text := by
    rw [uiRuleId_user, uiRuleId_user, hfirst, hsecond, Option.getD_some, Option.getD_some]
  have heq := h.injective (.user firstUuid) (by decide) (.user secondUuid) (by decide) hnum
  exact absurd heq (by decide)

end ProtocolSimulation.RuleClient
