import ProtocolSimulation.SnmpResponses

/-!
# The values the SNMP simulation serves

The map of values starts with four entries of its own; the configured ones are
put in after them, in the order of their texts. Each of them is served unless a
later text denotes the same OID, except for the time since the start, which is
always the same.
-/
namespace ProtocolSimulation.Engine.Snmp

open ProtocolSimulation.Texts ProtocolSimulation.Fallible ProtocolSimulation.SortedMaps

def sysDescrOid : Oid := [1, 3, 6, 1, 2, 1, 1, 1, 0]

def sysNameOid : Oid := [1, 3, 6, 1, 2, 1, 1, 5, 0]

def sysLocationOid : Oid := [1, 3, 6, 1, 2, 1, 1, 6, 0]

/-- The entries of the simulation's own. -/
def builtInValues (config : SimSnmpConfig) : SnmpValues :=
  (((SortedMap.empty.insert sysDescrOid
    (config.systemDescription.getD "Linux seclab-snmp 6.8.0")).insert sysUpTimeOid "360000").insert
    sysNameOid (config.systemName.getD "snmp-seclab")).insert
    sysLocationOid (config.systemLocation.getD "SecLab")

theorem buildValues_eq (config : SimSnmpConfig) :
    buildValues config =
      insertCustom (builtInValues config) ((config.oids.map BTreeMap.entries).getD []) := by
  have hdescr : parseOidText "1.3.6.1.2.1.1.1.0" = .ok sysDescrOid := by decide
  have htime : parseOidText "1.3.6.1.2.1.1.3.0" = .ok sysUpTimeOid := by decide
  have hname : parseOidText "1.3.6.1.2.1.1.5.0" = .ok sysNameOid := by decide
  have hlocation : parseOidText "1.3.6.1.2.1.1.6.0" = .ok sysLocationOid := by decide
  simp only [buildValues, hdescr, htime, hname, hlocation, ok_bind]
  cases config.oids <;> rfl

/-! ## Configured entries -/

theorem insertCustom_append {values : SnmpValues} {before after : List (Text × Text)} :
    insertCustom values (before ++ after) =
      insertCustom values before >>= fun values => insertCustom values after := by
  induction before generalizing values with
  | nil => rfl
  | cons entry before ih =>
    obtain ⟨text, value⟩ := entry
    rw [List.cons_append, insertCustom, insertCustom]
    cases parseOidText text with
    | error e => rfl
    | ok oid => exact ih

/-- What is in the map stays there if no later text denotes the same OID. -/
theorem get_insertCustom {values values' : SnmpValues} {entries : List (Text × Text)} {oid : Oid}
    (h : insertCustom values entries = .ok values')
    (hentries : ∀ entry ∈ entries, parseOidText entry.1 ≠ .ok oid) :
    values'.get oid = values.get oid := by
  induction entries generalizing values with
  | nil =>
    cases h
    rfl
  | cons entry entries ih =>
    obtain ⟨text, value⟩ := entry
    rw [insertCustom] at h
    obtain ⟨other, hother, h⟩ := bind_ok_iff.mp h
    have hne : other ≠ oid := by
      rintro rfl
      exact hentries (text, value) List.mem_cons_self hother
    rw [ih h fun e he => hentries e (List.mem_cons_of_mem _ he), SortedMap.get_insert, if_neg hne]

theorem mem_keys_insertCustom {values values' : SnmpValues}
    {entries : List (Text × Text)} {oid : Oid}
    (h : insertCustom values entries = .ok values') (hoid : oid ∈ values.keys) :
    oid ∈ values'.keys := by
  induction entries generalizing values with
  | nil =>
    cases h
    exact hoid
  | cons entry entries ih =>
    obtain ⟨text, value⟩ := entry
    rw [insertCustom] at h
    obtain ⟨other, _, h⟩ := bind_ok_iff.mp h
    exact ih h (SortedMap.mem_keys_insert.mpr (.inr hoid))

theorem sysLocation_mem_keys {config : SimSnmpConfig} {values : SnmpValues}
    (h : buildValues config = .ok values) : sysLocationOid ∈ values.keys := by
  rw [buildValues_eq] at h
  exact mem_keys_insertCustom h (SortedMap.mem_keys_insert.mpr (.inl rfl))

/-- A configured text is in the map. -/
theorem get_buildValues {config : SimSnmpConfig} {values : SnmpValues} {custom : BTreeMap Text}
    {before after : List (Text × Text)} {text value : Text} {oid : Oid}
    (hvalues : buildValues config = .ok values) (hcustom : config.oids = some custom)
    (hentries : custom.entries = before ++ (text, value) :: after)
    (hoid : parseOidText text = .ok oid)
    (hlater : ∀ entry ∈ after, parseOidText entry.1 ≠ .ok oid) : values.get oid = some value := by
  rw [buildValues_eq, hcustom, Option.map_some, Option.getD_some, hentries,
    insertCustom_append] at hvalues
  obtain ⟨middle, _, hrest⟩ := bind_ok_iff.mp hvalues
  rw [insertCustom, hoid, ok_bind] at hrest
  rw [get_insertCustom hrest hlater, SortedMap.get_insert, if_pos rfl]

/-! ## What is served -/

theorem answered_get {request : SnmpRequest} {values : SnmpValues} (htag : request.pduTag = 0xa0)
    (hne : request.oids ≠ []) (hoids : ∀ oid ∈ request.oids, Encodable oid) :
    Answered values request (request.oids.map fun oid => said (oid, values.get oid)) := by
  have hanswers : answers request values = request.oids.map fun oid => (oid, values.get oid) :=
    if_pos htag
  have h := @answered_of_encodable request values (by simp [htag]) hne
  rw [hanswers, List.map_map, List.forall_mem_map] at h
  exact h hoids

theorem answered_getNext {request : SnmpRequest} {values : SnmpValues} {oid : Oid}
    (htag : request.pduTag = 0xa1) (hoids : request.oids = [oid])
    (hencodable : Encodable (nextAnswer values oid).1) :
    Answered values request [said (nextAnswer values oid)] := by
  have hanswers : answers request values = [nextAnswer values oid] := by
    simp [answers, htag, hoids]
  have h := @answered_of_encodable request values (by simp [htag]) (by simp [hoids])
  rw [hanswers] at h
  exact h (by simpa using hencodable)

/-- How a configured text is served. -/
def configuredValue (oid : Oid) (text : Text) : SnmpValue :=
  if oid = sysUpTimeOid then .timeTicks 360000 else .octetString (utf8Encode text)

/-- A configured text is served as an octet string, to whoever asks for its OID or for what follows
the key before it. The time since the start is served instead of a text configured for it. -/
theorem configured_served {config : SimSnmpConfig} {values : SnmpValues} {custom : BTreeMap Text}
    {before after : List (Text × Text)} {text value : Text} {oid : Oid}
    (hvalues : buildValues config = .ok values) (hcustom : config.oids = some custom)
    (hentries : custom.entries = before ++ (text, value) :: after)
    (hoid : parseOidText text = .ok oid)
    (hlater : ∀ entry ∈ after, parseOidText entry.1 ≠ .ok oid) (hencodable : Encodable oid) :
    (∀ request : SnmpRequest, request.pduTag = 0xa0 → (∀ other ∈ request.oids, Encodable other) →
      ∀ i : ℕ, request.oids[i]? = some oid → ∃ held, Answered values request held ∧
        held[i]? = some (oid, configuredValue oid value)) ∧
    (∀ previous, IsGreatest {key | key ∈ values.keys ∧ key < oid} previous →
      ∀ request : SnmpRequest, request.pduTag = 0xa1 → request.oids = [previous] →
        Answered values request [(oid, configuredValue oid value)]) := by
  have hget := get_buildValues hvalues hcustom hentries hoid hlater
  constructor
  · intro request htag hoids i hi
    have hne : request.oids ≠ [] := by
      intro hnil
      simp [hnil] at hi
    refine ⟨_, answered_get htag hne hoids, ?_⟩
    rw [List.getElem?_map, hi, Option.map_some, hget]
    rfl
  · intro previous hprevious request htag hoids
    have hisNext := SortedMap.isNext_of_isGreatest (SortedMap.mem_keys_of_get hget) hprevious
    obtain ⟨found, hnext⟩ := SortedMap.next_of_isNext hisNext
    have hfound := SortedMap.get_eq_some_iff.mpr (SortedMap.mem_entries_of_next hnext)
    rw [hget, Option.some.injEq] at hfound
    have hanswer : nextAnswer values previous = (oid, some value) := by
      rw [nextAnswer, hnext, hfound]
    have h := @answered_getNext request values previous htag hoids
    rw [hanswer] at h
    exact h hencodable

/-- A configuration of one OID. -/
def oneOidConfig (oid value : Text) : SimSnmpConfig where
  community := none
  systemDescription := none
  systemName := none
  systemLocation := none
  oids := some ⟨[(oid, value)], List.pairwise_singleton _ _⟩

/-- A GET request for one OID. -/
def getRequest (oid : Oid) : SnmpRequest where
  version := 1
  community := utf8Encode "public"
  pduTag := 0xa0
  requestId := 7
  maxRepetitions := 1
  oids := [oid]

theorem configured_rack :
    ∃ values held, buildValues (oneOidConfig ".1.3.6.1.4.1.9.0" "rack 7") = .ok values ∧
      Answered values (getRequest [1, 3, 6, 1, 4, 1, 9, 0]) held ∧
      held[0]? = some ([1, 3, 6, 1, 4, 1, 9, 0], .octetString (utf8Encode "rack 7")) := by
  have hvalues : ∃ values, buildValues (oneOidConfig ".1.3.6.1.4.1.9.0" "rack 7") = .ok values :=
    ⟨_, rfl⟩
  obtain ⟨values, hvalues⟩ := hvalues
  have hoid : parseOidText ".1.3.6.1.4.1.9.0" = .ok [1, 3, 6, 1, 4, 1, 9, 0] := by decide
  obtain ⟨hget, _⟩ := @configured_served _ _ _ [] _ _ _ _ hvalues rfl rfl hoid (by simp) (by decide)
  obtain ⟨held, hanswered, hheld⟩ :=
    hget (getRequest [1, 3, 6, 1, 4, 1, 9, 0]) rfl (by decide) 0 rfl
  exact ⟨values, held, hvalues, hanswered, hheld⟩

/-- A text configured for the time since the start is not served. -/
theorem configured_upTime :
    ∃ values response, buildValues (oneOidConfig "1.3.6.1.2.1.1.3.0" "5") = .ok values ∧
      values.get sysUpTimeOid = some "5" ∧ Encodable sysUpTimeOid ∧
      buildResponse (getRequest sysUpTimeOid) values = .ok response ∧
      readResponse response = .ok
        { version := 1, community := utf8Encode "public", requestId := 7, errorStatus := 0,
          errorIndex := 0, varbinds := [(sysUpTimeOid, .timeTicks 360000)] } :=
  ⟨_, _, rfl, rfl, by decide, rfl, by decide⟩

end ProtocolSimulation.Engine.Snmp
