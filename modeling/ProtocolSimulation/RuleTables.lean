import ProtocolSimulation.Database

/-!
# Editing the rules

Creating, deleting and importing rules. An instance refers to its rule, so deleting
a rule reaches the instances, their endpoints and their audit logs by cascade.
-/
namespace ProtocolSimulation.Storage

open ProtocolSimulation.Texts ProtocolSimulation.JsonValues ProtocolSimulation.KeyedTables

structure ImportedRule where
  id : Text
  name : Text
  nameEn : Text
  protocol : Text
  defaultPort : UInt16
  configJson : Text

structure ImportedRulePackage where
  packageId : Text
  version : Text
  rulesetFormatVersion : ℤ
  minSeclabVersion : Text
  generatedAt : Text
  rules : List ImportedRule

/-! ## Statements on `rules` and `rule_packages` -/

namespace Database

/-- Put a table of rules in place that lacks none of the rules before. -/
def withRules (db : Database) (rules : Table Rule.id)
    (h : ∀ q ∈ db.rules.rows, ∃ q' ∈ rules.rows, q'.id = q.id) : Database :=
  { db with
    rules := rules
    instance_rule := by
      intro r hr
      obtain ⟨q, hq, heq⟩ := db.instance_rule r hr
      obtain ⟨q', hq', heq'⟩ := h q hq
      exact ⟨q', hq', heq'.trans heq⟩ }

theorem withRules_sameInstances (db : Database) (rules : Table Rule.id)
    (h : ∀ q ∈ db.rules.rows, ∃ q' ∈ rules.rows, q'.id = q.id) :
    SameInstances db (db.withRules rules h) := ⟨rfl, rfl, rfl⟩

/-- The `INSERT` of `insert_rule`; both timestamps are SQLite's current time. -/
def insertRule (db : Database) (rule : Rule) : Option Database :=
  match h : db.rules.insert rule with
  | some rules => some (db.withRules rules (by
      intro q hq
      rw [(Table.insert_eq_some_iff.mp h).2]
      exact ⟨q, List.mem_append_left _ hq, rfl⟩))
  | none => none

/-- `INSERT … ON CONFLICT(id) DO UPDATE`: the row keeps its `created_at`. -/
def upsertRule (db : Database) (rule : Rule) : Database :=
  db.withRules
    (db.rules.upsert rule (fun q => { q with
      name := rule.name
      protocol := rule.protocol
      defaultPort := rule.defaultPort
      configJson := rule.configJson
      updatedAt := rule.updatedAt }) (fun _ => rfl)) (by
    intro q hq
    have hget := Table.get_upsert db.rules rule (fun q => { q with
      name := rule.name
      protocol := rule.protocol
      defaultPort := rule.defaultPort
      configJson := rule.configJson
      updatedAt := rule.updatedAt }) (fun _ => rfl) q.id
    by_cases hid : q.id = rule.id
    · rw [if_pos hid] at hget
      obtain ⟨hmem, hkey⟩ := Table.get_eq_some_iff.mp hget
      exact ⟨_, hmem, hkey⟩
    · rw [if_neg hid, Table.get_of_mem hq] at hget
      obtain ⟨hmem, hkey⟩ := Table.get_eq_some_iff.mp hget
      exact ⟨_, hmem, hkey⟩)

theorem upsertRule_sameInstances (db : Database) (rule : Rule) :
    SameInstances db (db.upsertRule rule) := withRules_sameInstances _ _ _

/-- `DELETE FROM rules WHERE id = ?1 AND NOT EXISTS (SELECT 1 FROM instances …)`. -/
def deleteUnusedRule (db : Database) (id : Text) : Database :=
  if db.instances.rows.any fun r => r.ruleId = id then db else db.deleteRule id

theorem deleteUnusedRule_sameInstances (db : Database) (id : Text) :
    SameInstances db (db.deleteUnusedRule id) := by
  unfold deleteUnusedRule
  split
  · exact .refl db
  next h =>
    have hnone : ∀ r ∈ db.instances.rows, decide (r.ruleId = id) = false := by
      intro r hr
      have := List.any_eq_false.mp (Bool.not_eq_true _ ▸ h) r hr
      simpa using this
    obtain ⟨hi, he, hl⟩ := dropInstances_sameInstances hnone
    exact ⟨hi, he, hl⟩

def upsertRulePackage (db : Database) (summary : RulePackageSummary) : Database :=
  { db with rulePackages := db.rulePackages.upsert summary (fun p => { p with
      version := summary.version
      rulesetFormatVersion := summary.rulesetFormatVersion
      minSeclabVersion := summary.minSeclabVersion
      ruleCount := summary.ruleCount
      generatedAt := summary.generatedAt
      importedAt := summary.importedAt }) (fun _ => rfl) }

/-- The package imported last; of several with that time, the one that is stored first. -/
def getCurrentRulePackage (db : Database) : Option RulePackageSummary :=
  db.rulePackages.rows.foldl (fun best p =>
    match best with
    | none => some p
    | some q => if q.importedAt < p.importedAt then some p else some q) none

end Database

/-! ## `import_rule_package` -/

def ruleConfigWithNameEn (json : JsonCodec) (configJson nameEn : Text) : Except Text Text :=
  match json.parse configJson with
  | none => .error "failed to parse imported rule config metadata"
  | some (.obj fields) => .ok (json.renderPretty (.obj (Json.insert fields "nameEn" (.str nameEn))))
  | some value => .ok (json.renderPretty value)

/-- `id LIKE 'sim-rule-%'`, which ignores the case of ASCII letters. -/
def likeSimRule (id : Text) : Bool := eqIgnoreAsciiCase (id.take 9) "sim-rule-"

/-- The loop over the package's rules. -/
def importRules (json : JsonCodec) (importedAt : Text) :
    Database → List ImportedRule → Except Text Database
  | db, [] => .ok db
  | db, rule :: rest =>
    match ruleConfigWithNameEn json rule.configJson rule.nameEn with
    | .error message => .error message
    | .ok configJson => importRules json importedAt
        (db.upsertRule ⟨rule.id, rule.name, rule.protocol, rule.defaultPort.toNat, configJson,
          importedAt, importedAt⟩) rest

/-- The loop over the packaged rules that were stored before. -/
def removeStaleRules (imported : List Text) (db : Database) (previous : List Text) : Database :=
  previous.foldl (fun db id => if imported.contains id then db else db.deleteUnusedRule id) db

/-- The transaction of `import_rule_package`, up to its commit. -/
def importTransaction (json : JsonCodec) (importedAt : Text) (db : Database)
    (package : ImportedRulePackage) : Except Text Database :=
  match importRules json importedAt db package.rules with
  | .error message => .error message
  | .ok db =>
    let previous := (db.rules.rows.map Rule.id).filter likeSimRule
    let db := removeStaleRules (package.rules.map ImportedRule.id) db previous
    .ok (db.upsertRulePackage ⟨package.packageId, package.version, package.rulesetFormatVersion,
      package.minSeclabVersion, package.rules.length, package.generatedAt, importedAt⟩)

/-- The database after `import_rule_package`, and its answer. An error before the
commit rolls the transaction back. -/
def importRulePackage (json : JsonCodec) (importedAt : Text) (db : Database)
    (package : ImportedRulePackage) : Database × Except Text RulePackageSummary :=
  match importTransaction json importedAt db package with
  | .error message => (db, .error message)
  | .ok db' =>
    match db'.getCurrentRulePackage with
    | some summary => (db', .ok summary)
    | none => (db', .error "imported rule package was not found")

open Database (SameInstances)

theorem importRules_sameInstances {json : JsonCodec} {importedAt : Text} {db db' : Database}
    {rules : List ImportedRule} (h : importRules json importedAt db rules = .ok db') :
    SameInstances db db' := by
  induction rules generalizing db with
  | nil =>
    rw [← Except.ok.inj h]
    exact .refl db
  | cons rule rest ih =>
    unfold importRules at h
    split at h
    · exact absurd h (by simp)
    · exact (Database.upsertRule_sameInstances db _).trans (ih h)

theorem removeStaleRules_sameInstances (imported : List Text) (db : Database)
    (previous : List Text) : SameInstances db (removeStaleRules imported db previous) := by
  unfold removeStaleRules
  induction previous generalizing db with
  | nil => exact .refl db
  | cons id rest ih =>
    rw [List.foldl_cons]
    split
    · exact ih db
    · exact (Database.deleteUnusedRule_sameInstances db id).trans (ih _)

/-- Importing a package touches no instance and nothing that belongs to one. -/
theorem importRulePackage_sameInstances (json : JsonCodec) (importedAt : Text) (db : Database)
    (package : ImportedRulePackage) :
    SameInstances db (importRulePackage json importedAt db package).1 := by
  have htransaction : ∀ db', importTransaction json importedAt db package = .ok db' →
      SameInstances db db' := by
    intro db' h
    unfold importTransaction at h
    split at h
    · exact absurd h (by simp)
    next db₁ himport =>
      rw [← Except.ok.inj h]
      have hstale := removeStaleRules_sameInstances (package.rules.map ImportedRule.id) db₁
        ((db₁.rules.rows.map Rule.id).filter likeSimRule)
      exact (importRules_sameInstances himport).trans ⟨hstale.1, hstale.2, hstale.3⟩
  unfold importRulePackage
  split
  · exact .refl db
  next db' h =>
    have hsame := htransaction db' h
    split <;> exact hsame

/-! ## What editing rules does to active instances -/

/-- The operations on the rule tables. -/
inductive RuleEdit where
  | deleteRule (id : Text)
  | importRulePackage (package : ImportedRulePackage)

def RuleEdit.run (json : JsonCodec) (now : Text) (db : Database) : RuleEdit → Database
  | deleteRule id => db.deleteRule id
  | importRulePackage package => (Storage.importRulePackage json now db package).1

/-- Every deploying or running instance keeps its row, its endpoints and its logs. -/
structure KeepsActive (db db' : Database) : Prop where
  row : ∀ id r, db.selectInstance id = some r → r.status.Active → db'.selectInstance id = some r
  endpoints : ∀ id r, db.selectInstance id = some r → r.status.Active →
    db'.selectEndpoints id = db.selectEndpoints id
  logs : ∀ id r, db.selectInstance id = some r → r.status.Active →
    db'.auditLogs.rows.filter (fun l => l.instanceId = id) =
      db.auditLogs.rows.filter fun l => l.instanceId = id

theorem Database.SameInstances.keepsActive {db db' : Database} (h : SameInstances db db') :
    KeepsActive db db' := by
  obtain ⟨hi, he, hl⟩ := h
  refine ⟨?_, ?_, ?_⟩
  · intro id r hr _
    rwa [Database.selectInstance, hi]
  · intro id r _ _
    rw [Database.selectEndpoints, he, Database.selectEndpoints]
  · intro id r _ _
    rw [hl]

/-- No deploying or running instance refers to the rule that is deleted. -/
def RuleEdit.SparesActive (db : Database) : RuleEdit → Prop
  | deleteRule id => ∀ r ∈ db.instances.rows, r.ruleId = id → ¬ r.status.Active
  | importRulePackage _ => True

/-- An import always keeps the active instances; deleting a rule keeps them exactly when
none of them refers to it. -/
theorem keepsActive_iff_sparesActive (json : JsonCodec) (now : Text) (db : Database)
    (edit : RuleEdit) : KeepsActive db (edit.run json now db) ↔ edit.SparesActive db := by
  cases edit with
  | importRulePackage package =>
    have h := (importRulePackage_sameInstances json now db package).keepsActive
    exact iff_of_true h trivial
  | deleteRule id =>
    constructor
    · intro h r hr hrule hactive
      have hget : db.selectInstance r.id = some r := Table.get_of_mem hr
      have hkept := h.row r.id r hget hactive
      rw [RuleEdit.run, Database.selectInstance_deleteRule, hget] at hkept
      simp [hrule] at hkept
    · intro h
      have hkept : ∀ i r, db.selectInstance i = some r → r.status.Active →
          decide (r.ruleId = id) = false := by
        intro i r hr hactive
        have hmem := (Table.get_eq_some_iff.mp hr).1
        simpa using fun hrule => h r hmem hrule hactive
      refine ⟨?_, ?_, ?_⟩
      · intro i r hr hactive
        exact (Database.dropInstances_of_kept hr (hkept i r hr hactive)).1
      · intro i r hr hactive
        exact (Database.dropInstances_of_kept hr (hkept i r hr hactive)).2.1
      · intro i r hr hactive
        exact (Database.dropInstances_of_kept hr (hkept i r hr hactive)).2.2

/-- Deleting the rule drops the running instance. -/
theorem deployedOnce_not_kept :
    ¬ KeepsActive deployedOnce (deployedOnce.deleteRule "rule-1") := by
  intro h
  have hrow := h.row "sim-1" _ rfl (.inr rfl)
  have hgone : (deployedOnce.deleteRule "rule-1").selectInstance "sim-1" = none := by decide
  rw [hgone] at hrow
  exact absurd hrow (by simp)

end ProtocolSimulation.Storage
