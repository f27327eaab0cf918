import ProtocolSimulation.RuleArchives

/-!
# What an import leaves behind

The packaged rules are those of the package and those that instances still refer
to. Nothing else changes, and a second import only changes times.
-/
namespace ProtocolSimulation.Storage

open ProtocolSimulation.Texts ProtocolSimulation.JsonValues ProtocolSimulation.KeyedTables
open Database (SameInstances)

def Packaged (id : Text) : Prop := ("sim-rule-" : Text) <+: id

/-- An instance refers to the rule. -/
def Database.Referenced (db : Database) (id : Text) : Prop :=
  ∃ row ∈ db.instances.rows, row.ruleId = id

/-- A field `nameEn` in place, if the value is an object. -/
def withNameEn (nameEn : Text) : Json → Json
  | .obj fields => .obj (Json.insert fields "nameEn" (.str nameEn))
  | value => value

theorem ruleConfigWithNameEn_ok_iff {json : JsonCodec} {configJson nameEn config : Text} :
    ruleConfigWithNameEn json configJson nameEn = .ok config ↔
      ∃ value, json.parse configJson = some value ∧
        config = json.renderPretty (withNameEn nameEn value) := by
  unfold ruleConfigWithNameEn
  cases hparse : json.parse configJson with
  | none => simp
  | some value => cases value <;> simp [withNameEn, eq_comm]

/-! ## Rows -/

/-- The row that a rule is imported as, over the one that was there. -/
structure ImportedAs (json : JsonCodec) (importedAt : Text) (rule : ImportedRule)
    (old : Option Rule) (row : Rule) : Prop where
  id : row.id = rule.id
  name : row.name = rule.name
  protocol : row.protocol = rule.protocol
  defaultPort : row.defaultPort = rule.defaultPort.toNat
  config : ∃ value, json.parse rule.configJson = some value ∧
    row.configJson = json.renderPretty (withNameEn rule.nameEn value)
  createdAt : row.createdAt = (old.map Rule.createdAt).getD importedAt
  updatedAt : row.updatedAt = importedAt

theorem get_upsertRule (db : Database) (rule : Rule) (id : Text) :
    (db.upsertRule rule).rules.get id =
      if id = rule.id then some { rule with
        createdAt := ((db.rules.get id).map Rule.createdAt).getD rule.createdAt }
      else db.rules.get id := by
  have hget := Table.get_upsert db.rules rule (fun q => { q with
    name := rule.name
    protocol := rule.protocol
    defaultPort := rule.defaultPort
    configJson := rule.configJson
    updatedAt := rule.updatedAt }) (fun _ => rfl) id
  refine Eq.trans hget ?_
  by_cases hid : id = rule.id
  · rw [if_pos hid, if_pos hid]
    cases hold : db.rules.get id with
    | none => rfl
    | some old =>
      have hkey := Table.key_of_get hold
      show some _ = some _
      rw [Option.elim_some, hkey, hid]
      rfl
  · rw [if_neg hid, if_neg hid]

/-- One step of the loop over the rules of a package. -/
theorem importRules_cons {json : JsonCodec} {importedAt : Text} {db db' : Database}
    {rule : ImportedRule} {rest : List ImportedRule}
    (h : importRules json importedAt db (rule :: rest) = .ok db') :
    ∃ db₁ row, importRules json importedAt db₁ rest = .ok db' ∧
      db₁.rulePackages = db.rulePackages ∧
      ImportedAs json importedAt rule (db.rules.get rule.id) row ∧
      ∀ id, db₁.rules.get id = if id = rule.id then some row else db.rules.get id := by
  unfold importRules at h
  split at h
  next => cases h
  next config hconfig =>
    let row : Rule := ⟨rule.id, rule.name, rule.protocol, rule.defaultPort.toNat, config,
      ((db.rules.get rule.id).map Rule.createdAt).getD importedAt, importedAt⟩
    refine ⟨_, row, h, rfl, ?_, ?_⟩
    · exact ⟨rfl, rfl, rfl, rfl, ruleConfigWithNameEn_ok_iff.mp hconfig, rfl, rfl⟩
    · intro id
      rw [get_upsertRule]
      by_cases hid : id = rule.id
      · rw [if_pos hid, if_pos hid, hid]
      · rw [if_neg hid, if_neg hid]

/-- The loop imports every rule of the package and leaves the others as they are. -/
theorem importRules_get {json : JsonCodec} {importedAt : Text} {db db' : Database}
    {rules : List ImportedRule} (h : importRules json importedAt db rules = .ok db')
    (hdistinct : (rules.map ImportedRule.id).Nodup) :
    db'.rulePackages = db.rulePackages ∧
      (∀ id, id ∉ rules.map ImportedRule.id → db'.rules.get id = db.rules.get id) ∧
      ∀ rule ∈ rules, ∃ row, db'.rules.get rule.id = some row ∧
        ImportedAs json importedAt rule (db.rules.get rule.id) row := by
  induction rules generalizing db with
  | nil =>
    cases h
    simp
  | cons rule rest ih =>
    obtain ⟨db₁, row, hrest, hpackages, hrow, hget⟩ := importRules_cons h
    obtain ⟨hnew, hdistinct⟩ := List.nodup_cons.mp hdistinct
    obtain ⟨hpackages', hothers, himported⟩ := ih hrest hdistinct
    refine ⟨hpackages'.trans hpackages, ?_, ?_⟩
    · intro id hid
      obtain ⟨hne, hid⟩ := List.ne_and_not_mem_of_not_mem_cons hid
      rw [hothers id hid, hget, if_neg hne]
    · intro other hother
      obtain rfl | hother := List.mem_cons.mp hother
      · refine ⟨row, ?_, hrow⟩
        rw [hothers _ hnew, hget, if_pos rfl]
      · obtain ⟨row', hrow', hinserted⟩ := himported other hother
        have hne : other.id ≠ rule.id := by
          intro heq
          exact hnew (heq ▸ List.mem_map_of_mem hother)
        rw [hget, if_neg hne] at hinserted
        exact ⟨row', hrow', hinserted⟩

/-- The loop fails only where a configuration is no JSON. -/
theorem importRules_ok {json : JsonCodec} {importedAt : Text} {db : Database}
    {rules : List ImportedRule}
    (h : ∀ rule ∈ rules, ∃ value, json.parse rule.configJson = some value) :
    ∃ db', importRules json importedAt db rules = .ok db' := by
  induction rules generalizing db with
  | nil => exact ⟨db, rfl⟩
  | cons rule rest ih =>
    obtain ⟨value, hvalue⟩ := h rule List.mem_cons_self
    have hconfig : ruleConfigWithNameEn json rule.configJson rule.nameEn = .ok _ :=
      ruleConfigWithNameEn_ok_iff.mpr ⟨value, hvalue, rfl⟩
    unfold importRules
    rw [hconfig]
    exact ih fun other hother => h other (List.mem_cons_of_mem rule hother)

/-! ## Stale rules -/

theorem get_deleteRule (db : Database) (id other : Text) :
    (db.deleteRule id).rules.get other = if other = id then none else db.rules.get other := by
  have hget : (db.deleteRule id).rules.get other =
      (db.rules.get other).filter fun row => row.id ≠ id := Table.get_filter _ _ _
  rw [hget]
  cases hrow : db.rules.get other with
  | none => simp
  | some row =>
    have hkey := Table.key_of_get hrow
    by_cases hid : other = id <;> simp [hkey, hid]

theorem deleteUnusedRule_of_referenced {db : Database} {id : Text} (h : db.Referenced id) :
    db.deleteUnusedRule id = db := by
  obtain ⟨row, hrow, hid⟩ := h
  apply if_pos
  rw [List.any_eq_true]
  exact ⟨row, hrow, by simpa using hid⟩

theorem deleteUnusedRule_of_not_referenced {db : Database} {id : Text} (h : ¬ db.Referenced id) :
    db.deleteUnusedRule id = db.deleteRule id := by
  apply if_neg
  rw [List.any_eq_true]
  intro hany
  obtain ⟨row, hrow, hid⟩ := hany
  exact h ⟨row, hrow, by simpa using hid⟩

/-- Not imported, and no instance refers to it. -/
def Stale (imported : List Text) (db : Database) (id : Text) : Prop :=
  id ∉ imported ∧ ¬ db.Referenced id

theorem stale_congr (imported : List Text) {db db' : Database} (h : SameInstances db db')
    (id : Text) : Stale imported db' id ↔ Stale imported db id := by
  unfold Stale Database.Referenced
  rw [h.instances]

/-- One step of the loop over the rules that were packaged before. -/
def removeStaleRule (imported : List Text) (db : Database) (id : Text) : Database :=
  if imported.contains id then db else db.deleteUnusedRule id

theorem removeStaleRule_sameInstances (imported : List Text) (db : Database) (id : Text) :
    SameInstances db (removeStaleRule imported db id) := by
  unfold removeStaleRule
  split
  · exact .refl db
  · exact Database.deleteUnusedRule_sameInstances db id

theorem rulePackages_removeStaleRule (imported : List Text) (db : Database) (id : Text) :
    (removeStaleRule imported db id).rulePackages = db.rulePackages := by
  unfold removeStaleRule Database.deleteUnusedRule
  split
  · rfl
  · split <;> rfl

theorem removeStaleRule_of_stale {imported : List Text} {db : Database} {id : Text}
    (h : Stale imported db id) : removeStaleRule imported db id = db.deleteRule id := by
  have hnew : ¬ imported.contains id = true := mt List.contains_iff_mem.mp h.1
  unfold removeStaleRule
  rw [if_neg hnew, deleteUnusedRule_of_not_referenced h.2]

theorem removeStaleRule_of_not_stale {imported : List Text} {db : Database} {id : Text}
    (h : ¬ Stale imported db id) : removeStaleRule imported db id = db := by
  unfold removeStaleRule
  split
  · rfl
  next hnew =>
    have href : db.Referenced id := by
      by_contra hnone
      exact h ⟨mt List.contains_iff_mem.mpr hnew, hnone⟩
    exact deleteUnusedRule_of_referenced href

/-- The loop removes the stale ones among the rules that were packaged before. -/
theorem get_removeStaleRules (imported : List Text) (db : Database) (previous : List Text)
    (id : Text) :
    (id ∈ previous ∧ Stale imported db id →
      (removeStaleRules imported db previous).rules.get id = none) ∧
    (¬ (id ∈ previous ∧ Stale imported db id) →
      (removeStaleRules imported db previous).rules.get id = db.rules.get id) := by
  induction previous generalizing db with
  | nil =>
    constructor
    · intro h
      simp at h
    · intro _
      rfl
  | cons first rest ih =>
    have hstep : removeStaleRules imported db (first :: rest) =
        removeStaleRules imported (removeStaleRule imported db first) rest := rfl
    have hstale := stale_congr imported (removeStaleRule_sameInstances imported db first) id
    obtain ⟨hremoved, hkept⟩ := ih (removeStaleRule imported db first)
    rw [hstep]
    constructor
    · intro h
      obtain ⟨hid, hid'⟩ := h
      by_cases hrest : id ∈ rest
      · exact hremoved ⟨hrest, hstale.mpr hid'⟩
      · obtain rfl | hmem := List.mem_cons.mp hid
        · rw [hkept fun h => hrest h.1, removeStaleRule_of_stale hid', get_deleteRule, if_pos rfl]
        · exact absurd hmem hrest
    · intro h
      rw [hkept fun hrest => h ⟨List.mem_cons_of_mem first hrest.1, hstale.mp hrest.2⟩]
      by_cases hfirst : Stale imported db first
      · have hne : id ≠ first := by
          rintro rfl
          exact h ⟨List.mem_cons_self, hfirst⟩
        rw [removeStaleRule_of_stale hfirst, get_deleteRule, if_neg hne]
      · rw [removeStaleRule_of_not_stale hfirst]

theorem rulePackages_removeStaleRules (imported : List Text) (db : Database)
    (previous : List Text) :
    (removeStaleRules imported db previous).rulePackages = db.rulePackages := by
  induction previous generalizing db with
  | nil => rfl
  | cons first rest ih =>
    exact (ih (removeStaleRule imported db first)).trans
      (rulePackages_removeStaleRule imported db first)

/-! ## Identifiers -/

/-- The identifiers that the program gives to rules. -/
def WellNamed (db : Database) : Prop :=
  ∀ row ∈ db.rules.rows, Packaged row.id ∨ ("rule-" : Text) <+: row.id

theorem likeSimRule_of_packaged {id : Text} (h : Packaged id) : likeSimRule id = true := by
  obtain ⟨rest, rfl⟩ := h
  unfold likeSimRule
  rw [List.take_left' (by rfl)]
  decide

theorem likeSimRule_of_user {id : Text} (h : ("rule-" : Text) <+: id) : likeSimRule id = false := by
  obtain ⟨rest, rfl⟩ := h
  unfold likeSimRule eqIgnoreAsciiCase
  rw [beq_eq_false_iff_ne]
  intro hsame
  have hhead := congrArg List.head? hsame
  have hrule : (toAsciiLowercase ((("rule-" : Text) ++ rest).take 9)).head? = some 'r' := rfl
  have hsim : (toAsciiLowercase ("sim-rule-" : Text)).head? = some 's' := rfl
  rw [hrule, hsim] at hhead
  simp at hhead

/-- In a database with such identifiers the pattern selects the packaged rules. -/
theorem likeSimRule_iff {db : Database} (h : WellNamed db) {id : Text} {row : Rule}
    (hrow : db.rules.get id = some row) : likeSimRule id = true ↔ Packaged id := by
  obtain ⟨hmem, rfl⟩ := Table.get_eq_some_iff.mp hrow
  constructor
  · intro hlike
    obtain hpackaged | huser := h row hmem
    · exact hpackaged
    · rw [likeSimRule_of_user huser] at hlike
      cases hlike
  · exact likeSimRule_of_packaged

/-! ## The whole import -/

/-- The summary of the package is stored in place of the one before. -/
def summaryOf (importedAt : Text) (package : ImportedRulePackage) : RulePackageSummary where
  packageId := package.packageId
  version := package.version
  rulesetFormatVersion := package.rulesetFormatVersion
  minSeclabVersion := package.minSeclabVersion
  ruleCount := package.rules.length
  generatedAt := package.generatedAt
  importedAt := importedAt

/-- What is in the database after the import of a package. -/
structure Replaced (json : JsonCodec) (importedAt : Text) (package : ImportedRulePackage)
    (db db' : Database) : Prop where
  imported : ∀ rule ∈ package.rules, ∃ row, db'.rules.get rule.id = some row ∧
    ImportedAs json importedAt rule (db.rules.get rule.id) row
  user : ∀ id, ¬ Packaged id → db'.rules.get id = db.rules.get id
  removed : ∀ id, Packaged id → id ∉ package.rules.map ImportedRule.id → ¬ db.Referenced id →
    db'.rules.get id = none
  kept : ∀ id, Packaged id → id ∉ package.rules.map ImportedRule.id → db.Referenced id →
    db'.rules.get id = db.rules.get id
  summaries : ∀ id, db'.rulePackages.get id =
    if id = package.packageId then some (summaryOf importedAt package) else db.rulePackages.get id
  instances : SameInstances db db'

theorem get_upsertRulePackage (db : Database) (summary : RulePackageSummary) (id : Text) :
    (db.upsertRulePackage summary).rulePackages.get id =
      if id = summary.packageId then some summary else db.rulePackages.get id := by
  have hget := Table.get_upsert db.rulePackages summary (fun p => { p with
    version := summary.version
    rulesetFormatVersion := summary.rulesetFormatVersion
    minSeclabVersion := summary.minSeclabVersion
    ruleCount := summary.ruleCount
    generatedAt := summary.generatedAt
    importedAt := summary.importedAt }) (fun _ => rfl) id
  refine Eq.trans hget ?_
  by_cases hid : id = summary.packageId
  · rw [if_pos hid, if_pos hid]
    cases hold : db.rulePackages.get id with
    | none => rfl
    | some old =>
      have hkey := Table.key_of_get hold
      rw [Option.elim_some, hkey, hid]
  · rw [if_neg hid, if_neg hid]

/-- The parts of a transaction that commits. -/
theorem parts_of_importTransaction {json : JsonCodec} {importedAt : Text} {db db' : Database}
    {package : ImportedRulePackage}
    (h : importTransaction json importedAt db package = .ok db') :
    ∃ db₁, importRules json importedAt db package.rules = .ok db₁ ∧
      db' = (removeStaleRules (package.rules.map ImportedRule.id) db₁
        ((db₁.rules.rows.map Rule.id).filter likeSimRule)).upsertRulePackage
          (summaryOf importedAt package) := by
  unfold importTransaction at h
  split at h
  next => cases h
  next db₁ himport =>
    cases h
    exact ⟨db₁, himport, rfl⟩

theorem mem_previous_iff {db : Database} {id : Text} :
    id ∈ (db.rules.rows.map Rule.id).filter likeSimRule ↔
      (∃ row, db.rules.get id = some row) ∧ likeSimRule id = true := by
  rw [List.mem_filter, List.mem_map]
  constructor
  · intro h
    obtain ⟨⟨row, hrow, rfl⟩, hlike⟩ := h
    exact ⟨⟨row, Table.get_of_mem hrow⟩, hlike⟩
  · intro h
    obtain ⟨⟨row, hrow⟩, hlike⟩ := h
    obtain ⟨hmem, hid⟩ := Table.get_eq_some_iff.mp hrow
    exact ⟨⟨row, hmem, hid⟩, hlike⟩

theorem replaced_of_importTransaction {json : JsonCodec} {importedAt : Text} {db db' : Database}
    {package : ImportedRulePackage} (hnamed : WellNamed db)
    (hpackaged : ∀ rule ∈ package.rules, Packaged rule.id)
    (hdistinct : (package.rules.map ImportedRule.id).Nodup)
    (h : importTransaction json importedAt db package = .ok db') :
    Replaced json importedAt package db db' := by
  obtain ⟨db₁, himport, rfl⟩ := parts_of_importTransaction h
  obtain ⟨hpackages, hothers, himported⟩ := importRules_get himport hdistinct
  have hsame := importRules_sameInstances himport
  have hstale := stale_congr (package.rules.map ImportedRule.id) hsame
  have hget := get_removeStaleRules (package.rules.map ImportedRule.id) db₁
    ((db₁.rules.rows.map Rule.id).filter likeSimRule)
  have hrules (id : Text) : ((removeStaleRules (package.rules.map ImportedRule.id) db₁
      ((db₁.rules.rows.map Rule.id).filter likeSimRule)).upsertRulePackage
        (summaryOf importedAt package)).rules.get id =
      (removeStaleRules (package.rules.map ImportedRule.id) db₁
        ((db₁.rules.rows.map Rule.id).filter likeSimRule)).rules.get id := rfl
  constructor
  · intro rule hrule
    obtain ⟨row, hrow, hinserted⟩ := himported rule hrule
    refine ⟨row, ?_, hinserted⟩
    rw [hrules, (hget rule.id).2, hrow]
    intro hremoved
    exact hremoved.2.1 (List.mem_map_of_mem hrule)
  · intro id hid
    have hother : id ∉ package.rules.map ImportedRule.id := by
      intro hmem
      obtain ⟨rule, hrule, rfl⟩ := List.mem_map.mp hmem
      exact hid (hpackaged rule hrule)
    rw [hrules, (hget id).2, hothers id hother]
    intro hremoved
    obtain ⟨⟨row, hrow⟩, hlike⟩ := mem_previous_iff.mp hremoved.1
    rw [hothers id hother] at hrow
    exact hid ((likeSimRule_iff hnamed hrow).mp hlike)
  · intro id hid hother hunused
    have hstale := hstale id |>.mpr ⟨hother, hunused⟩
    rw [hrules]
    by_cases hprevious : id ∈ (db₁.rules.rows.map Rule.id).filter likeSimRule
    · exact (hget id).1 ⟨hprevious, hstale⟩
    · rw [(hget id).2 fun hremoved => hprevious hremoved.1]
      cases hrow : db₁.rules.get id with
      | none => rfl
      | some row =>
        exact absurd (mem_previous_iff.mpr ⟨⟨row, hrow⟩, likeSimRule_of_packaged hid⟩) hprevious
  · intro id _ hother hused
    rw [hrules, (hget id).2, hothers id hother]
    intro hremoved
    exact ((hstale id).mp hremoved.2).2 hused
  · intro id
    rw [get_upsertRulePackage, rulePackages_removeStaleRules, hpackages]
    rfl
  · have hremoved := removeStaleRules_sameInstances (package.rules.map ImportedRule.id) db₁
      ((db₁.rules.rows.map Rule.id).filter likeSimRule)
    exact hsame.trans ⟨hremoved.1, hremoved.2, hremoved.3⟩

/-! ## Importing again -/

/-- The databases differ in times at most. -/
structure SameButTimes (db db' : Database) : Prop where
  rules : ∀ id, ∃ time, db'.rules.get id =
    (db.rules.get id).map fun row => { row with updatedAt := time }
  summaries : ∀ id, ∃ time, db'.rulePackages.get id =
    (db.rulePackages.get id).map fun summary => { summary with importedAt := time }
  instances : SameInstances db db'

theorem eq_of_importedAs {json : JsonCodec} {first second : Text} {rule : ImportedRule}
    {old : Option Rule} {row row' : Rule} (h : ImportedAs json first rule old row)
    (h' : ImportedAs json second rule (some row) row') :
    row' = { row with updatedAt := second } := by
  obtain ⟨value, hvalue, hconfig⟩ := h.config
  obtain ⟨value', hvalue', hconfig'⟩ := h'.config
  obtain rfl : value = value' := Option.some.inj (hvalue.symm.trans hvalue')
  obtain ⟨id, name, protocol, defaultPort, configJson, createdAt, updatedAt⟩ := row'
  have hid : id = row.id := h'.id.trans h.id.symm
  have hname : name = row.name := h'.name.trans h.name.symm
  have hprotocol : protocol = row.protocol := h'.protocol.trans h.protocol.symm
  have hport : defaultPort = row.defaultPort := h'.defaultPort.trans h.defaultPort.symm
  have hsame : configJson = row.configJson := hconfig'.trans hconfig.symm
  have hcreated : createdAt = row.createdAt := h'.createdAt
  have hupdated : updatedAt = second := h'.updatedAt
  rw [hid, hname, hprotocol, hport, hsame, hcreated, hupdated]

/-- The rule of a row after an import was there before, or was imported. -/
theorem Replaced.wellNamed {json : JsonCodec} {importedAt : Text} {package : ImportedRulePackage}
    {db db' : Database} (h : Replaced json importedAt package db db') (hnamed : WellNamed db) :
    WellNamed db' := by
  intro row hrow
  have hget : db'.rules.get row.id = some row := Table.get_of_mem hrow
  by_cases hid : Packaged row.id
  · exact .inl hid
  · rw [h.user row.id hid] at hget
    exact hnamed row (Table.get_eq_some_iff.mp hget).1

theorem exists_time (row : Option Rule) :
    ∃ time, row = row.map fun row => { row with updatedAt := time } := by
  cases row with
  | none => exact ⟨[], rfl⟩
  | some row => exact ⟨row.updatedAt, rfl⟩

theorem Replaced.sameButTimes {json : JsonCodec} {first second : Text}
    {package : ImportedRulePackage} {db db' db'' : Database}
    (h : Replaced json first package db db') (h' : Replaced json second package db' db'') :
    SameButTimes db' db'' := by
  have hreferenced (id : Text) : db'.Referenced id ↔ db.Referenced id := by
    rw [Database.Referenced, Database.Referenced, h.instances.instances]
  constructor
  · intro id
    by_cases hid : Packaged id
    · by_cases hmem : id ∈ package.rules.map ImportedRule.id
      · obtain ⟨rule, hrule, rfl⟩ := List.mem_map.mp hmem
        obtain ⟨row, hrow, himported⟩ := h.imported rule hrule
        obtain ⟨row', hrow', himported'⟩ := h'.imported rule hrule
        rw [hrow] at himported'
        use second
        rw [hrow, hrow', eq_of_importedAs himported himported']
        rfl
      · by_cases hused : db.Referenced id
        · rw [h'.kept id hid hmem ((hreferenced id).mpr hused)]
          exact exists_time _
        · rw [h.removed id hid hmem hused, h'.removed id hid hmem (mt (hreferenced id).mp hused)]
          exact ⟨[], rfl⟩
    · rw [h'.user id hid]
      exact exists_time _
  · intro id
    rw [h'.summaries id, h.summaries id]
    by_cases hid : id = package.packageId
    · rw [if_pos hid, if_pos hid]
      exact ⟨second, rfl⟩
    · rw [if_neg hid, if_neg hid]
      cases hsummary : db.rulePackages.get id with
      | none => exact ⟨[], rfl⟩
      | some summary => exact ⟨summary.importedAt, rfl⟩
  · exact h'.instances

theorem importTransaction_ok {json : JsonCodec} {importedAt : Text} {db : Database}
    {package : ImportedRulePackage}
    (h : ∀ rule ∈ package.rules, ∃ value, json.parse rule.configJson = some value) :
    ∃ db', importTransaction json importedAt db package = .ok db' := by
  obtain ⟨db₁, himport⟩ := @importRules_ok json importedAt db _ h
  unfold importTransaction
  rw [himport]
  exact ⟨_, rfl⟩

/-- A second import of the package commits as well. -/
theorem Replaced.again {json : JsonCodec} {importedAt : Text} {package : ImportedRulePackage}
    {db db' : Database} (h : Replaced json importedAt package db db') (later : Text) :
    ∃ db'', importTransaction json later db' package = .ok db'' := by
  apply importTransaction_ok
  intro rule hrule
  obtain ⟨row, _, himported⟩ := h.imported rule hrule
  obtain ⟨value, hvalue, _⟩ := himported.config
  exact ⟨value, hvalue⟩

/-! ## Packages that were read -/

open RulePackages Fallible

/-- What is written of a behaviour that was accepted is read back. -/
def ReadsBack (libraries : Libraries) (proto : SimRulePackageProto) : Prop :=
  ∀ rule ∈ proto.rules, ∀ protocol value behavior,
    libraries.json.parse rule.configJson = some value →
    libraries.validateBehavior protocol value = some behavior →
    libraries.json.parse (libraries.json.renderPretty (importedConfig rule behavior)) =
      some (importedConfig rule behavior)

theorem withNameEn_importedConfig (rule : SimRuleProto) (behavior : Json) :
    withNameEn rule.nameEn (importedConfig rule behavior) = importedConfig rule behavior := by
  rfl

theorem showInt_injective {m n : ℤ} (hm : 1 ≤ m) (hn : 1 ≤ n) (h : showInt m = showInt n) :
    m = n := by
  rw [showInt, if_neg (by omega), showInt, if_neg (by omega)] at h
  have hvalue := congrArg decimalValue h
  rw [decimalValue_showNat, decimalValue_showNat] at hvalue
  omega

/-- What is known of a rule of a package that was read. -/
structure Importable (libraries : Libraries) (rule : ImportedRule) : Prop where
  packaged : Packaged rule.id
  config : ∃ value, libraries.json.parse rule.configJson = some value ∧
    withNameEn rule.nameEn value = value ∧ value.get "nameEn" = some (.str rule.nameEn)

theorem importable_of_imports {libraries : Libraries} {rule : SimRuleProto}
    {imported : ImportedRule} {proto : SimRulePackageProto} (h : Imports libraries rule imported)
    (hread : ReadsBack libraries proto) (hrule : rule ∈ proto.rules) :
    Importable libraries imported := by
  obtain ⟨protocol, _, _, value, behavior, hvalue, hbehavior, hconfig⟩ := h.protocol
  constructor
  · rw [h.id]
    exact List.prefix_append _ _
  · refine ⟨importedConfig rule behavior, ?_, ?_, ?_⟩
    · rw [hconfig]
      exact hread rule hrule protocol value behavior hvalue hbehavior
    · rw [h.nameEn]
      exact withNameEn_importedConfig rule behavior
    · rw [h.nameEn]
      rfl

/-- The identifiers of rules that were read one by one. -/
theorem ids_of_imports {libraries : Libraries} {rules : List SimRuleProto}
    {imported : List ImportedRule}
    (h : List.Forall₂ (fun rule imported => 1 ≤ rule.id.toInt ∧ Imports libraries rule imported)
      rules imported) :
    (imported.map ImportedRule.id =
        (rules.map SimRuleProto.id).map fun id => ("sim-rule-" : Text) ++ showInt id.toInt) ∧
      ∀ id ∈ rules.map SimRuleProto.id, 1 ≤ id.toInt := by
  induction h with
  | nil => simp
  | cons hfirst _ ih =>
    obtain ⟨hids, hpositive⟩ := ih
    constructor
    · rw [List.map_cons, List.map_cons, List.map_cons, hfirst.2.id, hids]
    · intro id hid
      obtain rfl | hid := List.mem_cons.mp hid
      · exact hfirst.1
      · exact hpositive id hid

/-- The identifiers of the rules of a package that was read are distinct. -/
theorem distinct_of_readPackage {libraries : Libraries} {proto : SimRulePackageProto}
    {package : ImportedRulePackage} (h : readPackage libraries proto = .ok package) :
    (package.rules.map ImportedRule.id).Nodup := by
  obtain ⟨hall, hdistinct, _⟩ := readRules_ok (readRules_of_readPackage h)
  obtain ⟨hids, hpositive⟩ := ids_of_imports hall
  rw [hids]
  apply List.Nodup.map_on _ hdistinct
  intro id hid other hother hsame
  have hshown := showInt_injective (hpositive id hid) (hpositive other hother)
    (List.append_cancel_left hsame)
  exact Int64.toInt_inj.mp hshown

/-- Every rule of a package that was read can be imported. -/
theorem importable_of_readPackage {libraries : Libraries} {proto : SimRulePackageProto}
    {package : ImportedRulePackage} (h : readPackage libraries proto = .ok package)
    (hread : ReadsBack libraries proto) : ∀ rule ∈ package.rules, Importable libraries rule := by
  obtain ⟨hall, _, _⟩ := readRules_ok (readRules_of_readPackage h)
  intro rule hrule
  obtain ⟨i, hi, rfl⟩ := List.mem_iff_getElem.mp hrule
  have hlength := hall.length_eq
  have hget := List.forall₂_iff_get.mp hall |>.2 i (by omega) hi
  exact importable_of_imports hget.2 hread (List.getElem_mem _)

/-- An import replaces the packaged rules by those of the package, but for the ones that instances
refer to, and a second one changes times only. -/
theorem import_replaces {libraries : Libraries} {importedAt : Text} {db db' : Database}
    {package : ImportedRulePackage} (hnamed : WellNamed db)
    (hpackaged : ∀ rule ∈ package.rules, Packaged rule.id)
    (hdistinct : (package.rules.map ImportedRule.id).Nodup)
    (h : importTransaction libraries.json importedAt db package = .ok db') :
    Replaced libraries.json importedAt package db db' ∧
    (importRulePackage libraries.json importedAt db package).1 = db' ∧
    (∀ later, ∃ db'', importTransaction libraries.json later db' package = .ok db'' ∧
      SameButTimes db' db'') ∧
    ∀ proto, readPackage libraries proto = .ok package → ReadsBack libraries proto →
      ∀ rule ∈ package.rules, Importable libraries rule := by
  have hreplaced := replaced_of_importTransaction hnamed hpackaged hdistinct h
  refine ⟨hreplaced, ?_, ?_, ?_⟩
  · unfold importRulePackage
    rw [h]
    dsimp only
    split <;> rfl
  · intro later
    obtain ⟨db'', hagain⟩ := hreplaced.again later
    exact ⟨db'', hagain, hreplaced.sameButTimes
      (replaced_of_importTransaction (hreplaced.wellNamed hnamed) hpackaged hdistinct hagain)⟩
  · intro proto hproto hread
    exact importable_of_readPackage hproto hread

/-- A rule that is referred to, and a packaged one that is not. -/
def beforeImport : Database :=
  deployedOnce.upsertRule ⟨"sim-rule-2", "old", "vnc", 5900, "\x7b\x7d", "t", "t"⟩

theorem wellNamed_beforeImport : WellNamed beforeImport := by
  have hids : beforeImport.rules.rows.map Rule.id = ["rule-1", "sim-rule-2"] := rfl
  intro row hrow
  have hid := List.mem_map_of_mem (f := Rule.id) hrow
  rw [hids] at hid
  obtain hrule | hid := List.mem_cons.mp hid
  · rw [hrule]
    exact .inr ⟨"1", rfl⟩
  · rw [List.mem_singleton.mp hid]
    exact .inl ⟨"2", rfl⟩

theorem parse_sampleConfigText : sampleLibraries.json.parse sampleConfigText =
    some (importedConfig sampleRule (Engine.SimVncConfig.toValue ⟨none, none⟩)) := by
  have hother : sampleConfigText ≠ "\x7b\x7d" := by decide
  have hparse : sampleLibraries.json.parse = sampleParse := rfl
  rw [hparse]
  unfold sampleParse
  rw [if_neg hother, if_pos rfl]

theorem readsBack_sample : ReadsBack sampleLibraries samplePackageProto := by
  intro rule hrule protocol value behavior hvalue hbehavior
  obtain rfl := List.mem_singleton.mp hrule
  have hparsed : sampleLibraries.json.parse sampleRule.configJson = some (.obj []) := rfl
  obtain rfl : .obj [] = value := Option.some.inj (hparsed.symm.trans hvalue)
  cases hbehavior
  exact parse_sampleConfigText

/-- The packaged rule of before is removed, and the one of the package is there. -/
theorem import_replaces_sample : ∃ db',
    importTransaction sampleLibraries.json "now" beforeImport samplePackage = .ok db' ∧
    Replaced sampleLibraries.json "now" samplePackage beforeImport db' ∧
    (∃ db'', importTransaction sampleLibraries.json "later" db' samplePackage = .ok db'' ∧
      SameButTimes db' db'') ∧
    ∀ rule ∈ samplePackage.rules, Importable sampleLibraries rule := by
  have hpackaged : ∀ rule ∈ samplePackage.rules, Packaged rule.id := by
    intro rule hrule
    rw [List.mem_singleton.mp hrule]
    exact ⟨"1", rfl⟩
  obtain ⟨db', h⟩ := @importTransaction_ok sampleLibraries.json "now" beforeImport samplePackage (by
    intro rule hrule
    rw [List.mem_singleton.mp hrule]
    exact ⟨_, parse_sampleConfigText⟩)
  obtain ⟨hreplaced, _, hagain, hread⟩ :=
    import_replaces wellNamed_beforeImport hpackaged (List.nodup_singleton _) h
  exact ⟨db', h, hreplaced, hagain "later", hread _ readPackage_sample readsBack_sample⟩

end ProtocolSimulation.Storage
