import ProtocolSimulation.SnmpValues

/-!
# Walks through the values

A client that asks for the OID after each answer it gets walks through all keys
above the one it starts from, in order, and is then told that there is no more.
A GETBULK request is answered with the beginning of the same walk.
-/
namespace ProtocolSimulation.Engine.Snmp

open ProtocolSimulation.Texts ProtocolSimulation.Fallible ProtocolSimulation.SortedMaps

/-- A GETNEXT request for one OID is answered with another one and a value. -/
def GetNextGives (values : SnmpValues) (oid next : Oid) (value : SnmpValue) : Prop :=
  ∀ request : SnmpRequest, request.pduTag = 0xa1 → request.oids = [oid] →
    Answered values request [(next, value)]

/-- What a key of the map is served as. -/
def keyValue (values : SnmpValues) (key : Oid) : SnmpValue := servedValue (key, values.get key)

/-- One step of a walk. -/
theorem getNextGives_of_isNext {values : SnmpValues} {oid next : Oid} (h : values.IsNext oid next)
    (hencodable : Encodable next) : GetNextGives values oid next (keyValue values next) := by
  obtain ⟨text, hnext⟩ := SortedMap.next_of_isNext h
  have hget := SortedMap.get_eq_some_iff.mpr (SortedMap.mem_entries_of_next hnext)
  have hanswer : nextAnswer values oid = (next, values.get next) := by
    rw [nextAnswer, hnext, hget]
  intro request htag hoids
  have hanswered := @answered_getNext request values oid htag hoids
  rw [hanswer] at hanswered
  exact hanswered hencodable

/-- The end of a walk. -/
theorem getNextGives_of_next_eq_none {values : SnmpValues} {oid : Oid} (h : values.next oid = none)
    (htime : oid ≠ sysUpTimeOid) (hencodable : Encodable oid) :
    GetNextGives values oid oid .null := by
  have hanswer : nextAnswer values oid = (oid, none) := by
    rw [nextAnswer, h]
  have hnull : said (oid, none) = (oid, .null) := by
    rw [said, servedValue, if_neg htime]
  intro request htag hoids
  have hanswered := @answered_getNext request values oid htag hoids
  rw [hanswer, hnull] at hanswered
  exact hanswered hencodable

theorem answers_getBulk {request : SnmpRequest} {values : SnmpValues} {first : Oid}
    (htag : request.pduTag = 0xa5) (hfirst : request.oids.head? = some first) :
    answers request values =
      ((values.above first).take (max request.maxRepetitions 1)).map entryAnswer := by
  obtain ⟨rest, hoids⟩ := List.head?_eq_some_iff.mp hfirst
  simp [answers, htag, hoids]

/-- A GETBULK request is answered with the first keys above its first OID. -/
theorem answered_getBulk {request : SnmpRequest} {values : SnmpValues} {first : Oid}
    (htag : request.pduTag = 0xa5) (hfirst : request.oids.head? = some first)
    (hkeys : ∀ key ∈ values.keys, Encodable key) :
    Answered values request (((values.keysAbove first).take (max request.maxRepetitions 1)).map
      fun key => (key, keyValue values key)) := by
  have hne : request.oids ≠ [] := by
    intro hnil
    simp [hnil] at hfirst
  have hsaid : (answers request values).map said =
      ((values.keysAbove first).take (max request.maxRepetitions 1)).map
        fun key => (key, keyValue values key) := by
    rw [answers_getBulk htag hfirst, ← SortedMap.map_fst_above, ← List.map_take, List.map_map,
      List.map_map]
    apply List.map_congr_left
    intro entry hentry
    have habove := SortedMap.mem_above.mp (List.mem_of_mem_take hentry)
    have hget : values.get entry.1 = some entry.2 := SortedMap.get_eq_some_iff.mpr habove.1
    simp only [Function.comp_apply, keyValue, hget]
    rfl
  rw [← hsaid]
  apply answered_of_encodable (by simp [htag]) hne
  intro answer hanswer
  rw [answers_getBulk htag hfirst] at hanswer
  obtain ⟨entry, hentry, rfl⟩ := List.mem_map.mp hanswer
  have habove := SortedMap.mem_above.mp (List.mem_of_mem_take hentry)
  exact hkeys entry.1 (List.mem_map_of_mem habove.1)

/-- From every OID that can be asked for there is one walk: the keys above it in order. Repeated
GETNEXT requests follow it to its end and are then answered without a value, and GETBULK requests
are answered with as much of it as they ask for. -/
theorem walk_of_parseRequest {config : SimSnmpConfig} {values : SnmpValues} {message : Bytes}
    {request : SnmpRequest} {oid : Oid} (hvalues : buildValues config = .ok values)
    (hkeys : ∀ key ∈ values.keys, ∃ code, encodeOid key = .ok code)
    (hparse : parseRequest message = .ok request) (hoid : oid ∈ request.oids) :
    ∃ walk : List Oid, walk.Pairwise (· < ·) ∧
      (∀ key, key ∈ walk ↔ key ∈ values.keys ∧ oid < key) ∧
      List.IsChain (fun current next => GetNextGives values current next (keyValue values next))
        (oid :: walk) ∧
      GetNextGives values (walk.getLastD oid) (walk.getLastD oid) .null ∧
      ∀ bulk : SnmpRequest, bulk.pduTag = 0xa5 → bulk.oids.head? = some oid →
        Answered values bulk ((walk.take (min (max bulk.maxRepetitions 1) walk.length)).map
          fun key => (key, keyValue values key)) := by
  have hencodable : ∀ key ∈ values.keys, Encodable key :=
    fun key hkey => exists_encodeOid_iff.mp (hkeys key hkey)
  obtain ⟨_, _, hoids⟩ := request_of_parseRequest hparse
  refine ⟨values.keysAbove oid, values.keysAbove_sorted oid, fun key => SortedMap.mem_keysAbove,
    ?_, ?_, ?_⟩
  · apply (values.isChain_keysAbove oid).imp
    intro current next hnext
    exact getNextGives_of_isNext hnext (hencodable next hnext.1.1)
  · have hlast := values.next_getLastD oid
    apply getNextGives_of_next_eq_none hlast
    · intro htime
      rw [htime] at hlast
      have hle := SortedMap.next_eq_none_iff.mp hlast _ (sysLocation_mem_keys hvalues)
      exact absurd hle (by decide)
    · have hmem : (values.keysAbove oid).getLastD oid ∈ oid :: values.keysAbove oid :=
        List.getLastD_mem_cons
      rcases List.mem_cons.mp hmem with hlast | hlast
      · rw [hlast]
        exact hoids oid hoid
      · exact hencodable _ (SortedMap.mem_keysAbove.mp hlast).1
  · intro bulk htag hfirst
    rw [← List.take_eq_take_min]
    exact answered_getBulk htag hfirst hencodable

/-- A configuration that leaves everything to the simulation. -/
def defaultConfig : SimSnmpConfig where
  community := none
  systemDescription := none
  systemName := none
  systemLocation := none
  oids := none

theorem walk_of_sampleBulk :
    ∃ walk : List Oid, walk.Pairwise (· < ·) ∧
      (∀ key, key ∈ walk ↔ key ∈ (builtInValues defaultConfig).keys ∧ sysDescrOid < key) ∧
      List.IsChain (fun current next => GetNextGives (builtInValues defaultConfig) current next
        (keyValue (builtInValues defaultConfig) next)) (sysDescrOid :: walk) ∧
      GetNextGives (builtInValues defaultConfig) (walk.getLastD sysDescrOid)
        (walk.getLastD sysDescrOid) .null ∧
      Answered (builtInValues defaultConfig) sampleBulkRequest ((walk.take (min 10 walk.length)).map
        fun key => (key, keyValue (builtInValues defaultConfig) key)) := by
  have hvalues : buildValues defaultConfig = .ok (builtInValues defaultConfig) := buildValues_eq _
  have hencodable : ∀ key ∈ (builtInValues defaultConfig).keys, Encodable key := by decide
  have hkeys : ∀ key ∈ (builtInValues defaultConfig).keys, ∃ code, encodeOid key = .ok code :=
    fun key hkey => exists_encodeOid_iff.mpr (hencodable key hkey)
  have hparse : parseRequest sampleBulk = .ok sampleBulkRequest := by decide
  obtain ⟨walk, hsorted, hmem, hchain, hlast, hbulk⟩ :=
    walk_of_parseRequest hvalues hkeys hparse List.mem_cons_self
  exact ⟨walk, hsorted, hmem, hchain, hlast, hbulk sampleBulkRequest rfl rfl⟩

end ProtocolSimulation.Engine.Snmp
