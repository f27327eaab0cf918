import ProtocolSimulation.RulePackages
import ProtocolSimulation.BehaviorShapes
import Mathlib.Data.List.Permutation

/-!
# Which archives are rule packages

Two files in either order and nothing else. A package is decoded from the bytes
whose signature was verified.
-/
namespace ProtocolSimulation.RulePackages

open ProtocolSimulation.Texts ProtocolSimulation.JsonValues ProtocolSimulation.Protocols
open ProtocolSimulation.Storage ProtocolSimulation.Engine ProtocolSimulation.Fallible

/-! ## Entries -/

/-- The entry with slashes in its path. -/
def TarEntry.normalized (entry : TarEntry) : TarEntry :=
  { entry with path := replace ['\\'] "/" entry.path }

def rulesEntry (rulesBin : Bytes) : TarEntry := ⟨"rules.bin", true, rulesBin⟩

def signatureEntry (signatureText : Text) : TarEntry :=
  ⟨"rules.bin.sig", true, utf8Encode signatureText⟩

/-- The entries are the two files of a package, within their limits. -/
structure Packs (entries : List TarEntry) (rulesBin : Bytes) (signatureText : Text) : Prop where
  files : (entries.map TarEntry.normalized).Perm [rulesEntry rulesBin, signatureEntry signatureText]
  rulesSize : rulesBin.length ≤ MAX_RULES_BIN_BYTES
  signatureSize : byteLen signatureText ≤ MAX_SIGNATURE_BYTES

theorem rulesPath_ne_signaturePath : ("rules.bin" : Text) ≠ "rules.bin.sig" := by decide

/-- Bytes that are read up to one more than a limit. -/
theorem take_succ_of_le {content : Bytes} {limit : ℕ}
    (h : ¬ limit < (content.take (limit + 1)).length) :
    content.take (limit + 1) = content ∧ content.length ≤ limit := by
  rw [List.length_take] at h
  constructor
  · apply List.take_of_length_le
    omega
  · omega

/-- What an entry with the path of the rules leads to. -/
theorem readEntries_rules {entry : TarEntry} {rest : List TarEntry} {seenEntries : List Text}
    {rulesBin : Option Bytes} {signatureText : Option Text} {found : Option Bytes × Option Text}
    (hfresh : replace ['\\'] "/" entry.path ∉ seenEntries) (hfile : entry.isFile = true)
    (hpath : replace ['\\'] "/" entry.path = "rules.bin") :
    readEntries (entry :: rest) seenEntries rulesBin signatureText = .ok found ↔
      entry.content.length ≤ MAX_RULES_BIN_BYTES ∧
        readEntries rest (("rules.bin" : Text) :: seenEntries) (some entry.content)
          signatureText = .ok found := by
  have hnew : ¬ seenEntries.contains (replace ['\\'] "/" entry.path) = true :=
    mt List.contains_iff_mem.mp hfresh
  have hregular : ¬ (!entry.isFile) = true := by simp [hfile]
  rw [readEntries]
  dsimp only
  rw [if_neg hnew, if_neg hregular, if_pos hpath]
  split
  next hlong =>
    have hsize : ¬ entry.content.length ≤ MAX_RULES_BIN_BYTES := by
      rw [List.length_take] at hlong
      omega
    simp [hsize]
  next hshort =>
    obtain ⟨htake, hsize⟩ := take_succ_of_le hshort
    rw [htake, and_iff_right hsize, hpath]

/-- What an entry with the path of the signature leads to. -/
theorem readEntries_signature {entry : TarEntry} {rest : List TarEntry} {seenEntries : List Text}
    {rulesBin : Option Bytes} {signatureText : Option Text} {found : Option Bytes × Option Text}
    (hfresh : replace ['\\'] "/" entry.path ∉ seenEntries) (hfile : entry.isFile = true)
    (hpath : replace ['\\'] "/" entry.path = "rules.bin.sig") :
    readEntries (entry :: rest) seenEntries rulesBin signatureText = .ok found ↔
      ∃ text, entry.content = utf8Encode text ∧ byteLen text ≤ MAX_SIGNATURE_BYTES ∧
        readEntries rest (("rules.bin.sig" : Text) :: seenEntries) rulesBin (some text) =
          .ok found := by
  have hnew : ¬ seenEntries.contains (replace ['\\'] "/" entry.path) = true :=
    mt List.contains_iff_mem.mp hfresh
  have hregular : ¬ (!entry.isFile) = true := by simp [hfile]
  have hother : ¬ replace ['\\'] "/" entry.path = "rules.bin" := fun hrules =>
    rulesPath_ne_signaturePath (hrules.symm.trans hpath)
  rw [readEntries]
  dsimp only
  rw [if_neg hnew, if_neg hregular, if_neg hother, if_pos hpath, hpath, bind_ok_iff]
  constructor
  · intro h
    obtain ⟨text, htext, h⟩ := h
    obtain ⟨hsize, h⟩ := check_ok_iff.mp h
    have hbytes := utf8Encode_of_utf8Decode (context_ok_iff.mp htext)
    have hlength : ¬ MAX_SIGNATURE_BYTES <
        (entry.content.take (MAX_SIGNATURE_BYTES + 1)).length := by
      rw [← hbytes]
      exact hsize
    rw [(take_succ_of_le hlength).1] at hbytes
    exact ⟨text, hbytes.symm, Nat.le_of_not_lt hsize, h⟩
  · intro h
    obtain ⟨text, hbytes, hsize, h⟩ := h
    refine ⟨text, ?_, ?_⟩
    · rw [context_ok_iff, List.take_of_length_le, hbytes, utf8Decode_utf8Encode]
      rw [hbytes]
      exact Nat.le_succ_of_le hsize
    · rw [if_neg (Nat.not_lt_of_le hsize)]
      exact h

theorem normalized_eq_rulesEntry_iff {entry : TarEntry} {content : Bytes} :
    entry.normalized = rulesEntry content ↔ replace ['\\'] "/" entry.path = "rules.bin" ∧
      entry.isFile = true ∧ entry.content = content := by
  unfold TarEntry.normalized rulesEntry
  constructor
  · exact TarEntry.mk.inj
  · intro h
    rw [h.1, h.2.1, h.2.2]

theorem normalized_eq_signatureEntry_iff {entry : TarEntry} {text : Text} :
    entry.normalized = signatureEntry text ↔ replace ['\\'] "/" entry.path = "rules.bin.sig" ∧
      entry.isFile = true ∧ entry.content = utf8Encode text := by
  unfold TarEntry.normalized signatureEntry
  constructor
  · exact TarEntry.mk.inj
  · intro h
    rw [h.1, h.2.1, h.2.2]

/-- Any other entry is an error. -/
theorem normalized_of_readEntries {entry : TarEntry} {rest : List TarEntry}
    {seenEntries : List Text} {rulesBin : Option Bytes} {signatureText : Option Text}
    {found : Option Bytes × Option Text}
    (h : readEntries (entry :: rest) seenEntries rulesBin signatureText = .ok found) :
    replace ['\\'] "/" entry.path ∉ seenEntries ∧ entry.isFile = true ∧
      (replace ['\\'] "/" entry.path = "rules.bin" ∨
        replace ['\\'] "/" entry.path = "rules.bin.sig") := by
  rw [readEntries] at h
  dsimp only at h
  rw [check_ok_iff, check_ok_iff] at h
  obtain ⟨hnew, hregular, h⟩ := h
  refine ⟨mt List.contains_iff_mem.mpr hnew, by simpa using hregular, ?_⟩
  split at h
  next hrules => exact .inl hrules
  next =>
    split at h
    next hsignature => exact .inr hsignature
    next => cases h

/-- A file is taken if it is new and one of the two. -/
theorem readEntries_cons_ok_iff {entry : TarEntry} {rest : List TarEntry}
    {seenEntries : List Text} {rulesBin : Option Bytes} {signatureText : Option Text}
    {found : Option Bytes × Option Text} :
    readEntries (entry :: rest) seenEntries rulesBin signatureText = .ok found ↔
      (∃ content, entry.normalized = rulesEntry content ∧ ("rules.bin" : Text) ∉ seenEntries ∧
        content.length ≤ MAX_RULES_BIN_BYTES ∧
        readEntries rest (("rules.bin" : Text) :: seenEntries) (some content) signatureText =
          .ok found) ∨
      ∃ text, entry.normalized = signatureEntry text ∧
        ("rules.bin.sig" : Text) ∉ seenEntries ∧ byteLen text ≤ MAX_SIGNATURE_BYTES ∧
        readEntries rest (("rules.bin.sig" : Text) :: seenEntries) rulesBin (some text) =
          .ok found := by
  constructor
  · intro h
    obtain ⟨hfresh, hfile, hpath | hpath⟩ := normalized_of_readEntries h
    · obtain ⟨hsize, h⟩ := (readEntries_rules hfresh hfile hpath).mp h
      have hentry := normalized_eq_rulesEntry_iff.mpr ⟨hpath, hfile, rfl⟩
      rw [hpath] at hfresh
      exact .inl ⟨entry.content, hentry, hfresh, hsize, h⟩
    · obtain ⟨text, hcontent, hsize, h⟩ := (readEntries_signature hfresh hfile hpath).mp h
      have hentry := normalized_eq_signatureEntry_iff.mpr ⟨hpath, hfile, hcontent⟩
      rw [hpath] at hfresh
      exact .inr ⟨text, hentry, hfresh, hsize, h⟩
  · intro h
    obtain ⟨content, hentry, hfresh, hsize, h⟩ | ⟨text, hentry, hfresh, hsize, h⟩ := h
    · obtain ⟨hpath, hfile, rfl⟩ := normalized_eq_rulesEntry_iff.mp hentry
      rw [← hpath] at hfresh
      exact (readEntries_rules hfresh hfile hpath).mpr ⟨hsize, h⟩
    · obtain ⟨hpath, hfile, hcontent⟩ := normalized_eq_signatureEntry_iff.mp hentry
      rw [← hpath] at hfresh
      exact (readEntries_signature hfresh hfile hpath).mpr ⟨text, hcontent, hsize, h⟩

/-! ## Archives -/

theorem readArchive_ok_iff_readEntries {entries : List TarEntry} {rulesBin : Bytes}
    {signatureText : Text} : readArchive entries = .ok (rulesBin, signatureText) ↔
      readEntries entries [] none none = .ok (some rulesBin, some signatureText) := by
  unfold readArchive
  rw [bind_ok_iff]
  constructor
  · intro h
    obtain ⟨⟨foundRules, foundSignature⟩, hfound, h⟩ := h
    obtain ⟨_, hrules, h⟩ := bind_ok_iff.mp h
    obtain ⟨_, hsignature, h⟩ := bind_ok_iff.mp h
    cases h
    rw [hfound, context_ok_iff.mp hrules, context_ok_iff.mp hsignature]
  · intro h
    exact ⟨_, h, rfl⟩

/-- After both files there is no other. -/
theorem readEntries_both {entries : List TarEntry} {seenEntries : List Text}
    {rulesBin : Option Bytes} {signatureText : Option Text} {found : Option Bytes × Option Text}
    (hrules : ("rules.bin" : Text) ∈ seenEntries)
    (hsignature : ("rules.bin.sig" : Text) ∈ seenEntries)
    (h : readEntries entries seenEntries rulesBin signatureText = .ok found) :
    entries = [] ∧ found = (rulesBin, signatureText) := by
  cases entries with
  | nil =>
    cases h
    exact ⟨rfl, rfl⟩
  | cons entry rest =>
    obtain ⟨_, _, hfresh, _⟩ | ⟨_, _, hfresh, _⟩ := readEntries_cons_ok_iff.mp h
    · exact absurd hrules hfresh
    · exact absurd hsignature hfresh

/-- The second file, after the one with the rules. -/
theorem readEntries_after_rules {entries : List TarEntry} {content rulesBin : Bytes}
    {signatureText : Text} :
    readEntries entries ["rules.bin"] (some content) none =
        .ok (some rulesBin, some signatureText) ↔
      entries.map TarEntry.normalized = [signatureEntry signatureText] ∧ content = rulesBin ∧
        byteLen signatureText ≤ MAX_SIGNATURE_BYTES := by
  cases entries with
  | nil => simp [readEntries]
  | cons entry rest =>
    rw [readEntries_cons_ok_iff]
    constructor
    · intro h
      obtain ⟨_, _, hfresh, _⟩ | ⟨text, hentry, _, hsize, h⟩ := h
      · exact absurd List.mem_cons_self hfresh
      · obtain ⟨rfl, hfound⟩ := readEntries_both (List.mem_cons_of_mem _ List.mem_cons_self)
          List.mem_cons_self h
        obtain ⟨hrules, hsignature⟩ := Prod.mk.inj hfound
        cases hrules
        cases hsignature
        rw [List.map_singleton, hentry]
        exact ⟨rfl, rfl, hsize⟩
    · intro h
      obtain ⟨hentries, rfl, hsize⟩ := h
      rw [List.map_cons, List.cons.injEq, List.map_eq_nil_iff] at hentries
      obtain ⟨hentry, rfl⟩ := hentries
      refine .inr ⟨signatureText, hentry, ?_, hsize, rfl⟩
      rw [List.mem_singleton]
      exact rulesPath_ne_signaturePath.symm

/-- The second file, after the signature. -/
theorem readEntries_after_signature {entries : List TarEntry} {rulesBin : Bytes}
    {text signatureText : Text} :
    readEntries entries ["rules.bin.sig"] none (some text) =
        .ok (some rulesBin, some signatureText) ↔
      entries.map TarEntry.normalized = [rulesEntry rulesBin] ∧ text = signatureText ∧
        rulesBin.length ≤ MAX_RULES_BIN_BYTES := by
  cases entries with
  | nil => simp [readEntries]
  | cons entry rest =>
    rw [readEntries_cons_ok_iff]
    constructor
    · intro h
      obtain ⟨content, hentry, _, hsize, h⟩ | ⟨_, _, hfresh, _⟩ := h
      · obtain ⟨rfl, hfound⟩ := readEntries_both List.mem_cons_self
          (List.mem_cons_of_mem _ List.mem_cons_self) h
        obtain ⟨hrules, hsignature⟩ := Prod.mk.inj hfound
        cases hrules
        cases hsignature
        rw [List.map_singleton, hentry]
        exact ⟨rfl, rfl, hsize⟩
      · exact absurd List.mem_cons_self hfresh
    · intro h
      obtain ⟨hentries, rfl, hsize⟩ := h
      rw [List.map_cons, List.cons.injEq, List.map_eq_nil_iff] at hentries
      obtain ⟨hentry, rfl⟩ := hentries
      refine .inl ⟨rulesBin, hentry, ?_, hsize, rfl⟩
      rw [List.mem_singleton]
      exact rulesPath_ne_signaturePath

/-- The archives that get as far as the signature. -/
theorem readArchive_ok_iff {entries : List TarEntry} {rulesBin : Bytes} {signatureText : Text} :
    readArchive entries = .ok (rulesBin, signatureText) ↔ Packs entries rulesBin signatureText := by
  rw [readArchive_ok_iff_readEntries]
  constructor
  · intro h
    cases entries with
    | nil => cases h
    | cons entry rest =>
      obtain ⟨content, hentry, _, hsize, h⟩ | ⟨text, hentry, _, hsize, h⟩ :=
        readEntries_cons_ok_iff.mp h
      · obtain ⟨hrest, rfl, hsignature⟩ := readEntries_after_rules.mp h
        refine ⟨?_, hsize, hsignature⟩
        rw [List.map_cons, hentry, hrest]
      · obtain ⟨hrest, rfl, hrules⟩ := readEntries_after_signature.mp h
        refine ⟨?_, hrules, hsize⟩
        rw [List.map_cons, hentry, hrest]
        exact List.Perm.swap _ _ _
  · intro h
    cases entries with
    | nil => simpa using h.files.length_eq
    | cons entry rest =>
      rw [readEntries_cons_ok_iff]
      obtain hfiles | hfiles := List.perm_pair.mp h.files
      · obtain ⟨hentry, hrest⟩ := List.cons.inj hfiles
        exact .inl ⟨rulesBin, hentry, List.not_mem_nil, h.rulesSize,
          readEntries_after_rules.mpr ⟨hrest, rfl, h.signatureSize⟩⟩
      · obtain ⟨hentry, hrest⟩ := List.cons.inj hfiles
        exact .inr ⟨signatureText, hentry, List.not_mem_nil, h.signatureSize,
          readEntries_after_signature.mpr ⟨hrest, rfl, h.rulesSize⟩⟩

/-- The order of the entries does not matter. -/
theorem Packs.perm {entries entries' : List TarEntry} {rulesBin : Bytes} {signatureText : Text}
    (h : Packs entries rulesBin signatureText) (horder : entries.Perm entries') :
    Packs entries' rulesBin signatureText :=
  ⟨(horder.map _).symm.trans h.files, h.rulesSize, h.signatureSize⟩

theorem toOption_readArchive {entries entries' : List TarEntry} (h : entries.Perm entries') :
    (readArchive entries).toOption = (readArchive entries').toOption := by
  cases hfound : readArchive entries with
  | ok contents =>
    have hpacks := readArchive_ok_iff.mp hfound
    rw [readArchive_ok_iff.mpr (hpacks.perm h)]
  | error message =>
    cases hother : readArchive entries' with
    | ok contents =>
      have hpacks := readArchive_ok_iff.mp hother
      rw [readArchive_ok_iff.mpr (hpacks.perm h.symm)] at hfound
      cases hfound
    | error other => rfl

/-- A signature counts if it is one of the message under the key, or of the digest of the message
where the signature says that it was made of that. -/
theorem verifyDetachedSignature_ok_iff {libraries : Libraries} {publicKeyText : Text}
    {message : Bytes} {signatureText : Text} :
    verifyDetachedSignature libraries publicKeyText message signatureText = .ok () ↔
      ∃ publicKey signature prehashed,
        decodePublicKey libraries.base64 publicKeyText = .ok publicKey ∧
        decodeSignature libraries.base64 signatureText = .ok (signature, prehashed) ∧
        libraries.verify publicKey (if prehashed then libraries.blake2b message else message)
          signature = true := by
  simp only [verifyDetachedSignature, bind_ok_iff, ensure_ok_iff, Prod.exists]
  constructor
  · intro h
    obtain ⟨publicKey, hkey, signature, prehashed, hsignature, hverify⟩ := h
    exact ⟨publicKey, signature, prehashed, hkey, hsignature, hverify⟩
  · intro h
    obtain ⟨publicKey, signature, prehashed, hkey, hsignature, hverify⟩ := h
    exact ⟨publicKey, hkey, signature, prehashed, hsignature, hverify⟩

/-- A package is returned once its signature was verified, from the same bytes. -/
theorem parseSlrp_ok_iff {libraries : Libraries} {entries : List TarEntry} {publicKeyText : Text}
    {package : ImportedRulePackage} :
    parseSlrpWithPublicKey libraries entries publicKeyText = .ok package ↔
      ∃ rulesBin signatureText proto, Packs entries rulesBin signatureText ∧
        verifyDetachedSignature libraries publicKeyText rulesBin signatureText = .ok () ∧
        libraries.decode rulesBin = some proto ∧ readPackage libraries proto = .ok package := by
  rw [parseSlrpWithPublicKey, bind_ok_iff]
  constructor
  · intro h
    obtain ⟨⟨rulesBin, signatureText⟩, harchive, h⟩ := h
    dsimp only at h
    split at h
    next => cases h
    next hverified =>
      obtain ⟨proto, hproto, h⟩ := bind_ok_iff.mp h
      exact ⟨rulesBin, signatureText, proto, readArchive_ok_iff.mp harchive, hverified,
        context_ok_iff.mp hproto, h⟩
  · intro h
    obtain ⟨rulesBin, signatureText, proto, hpacks, hverified, hproto, h⟩ := h
    refine ⟨(rulesBin, signatureText), readArchive_ok_iff.mpr hpacks, ?_⟩
    dsimp only
    rw [hverified]
    exact bind_ok_iff.mpr ⟨proto, context_ok_iff.mpr hproto, h⟩

theorem parseSlrp_congr {libraries : Libraries} {entries entries' : List TarEntry}
    {publicKeyText : Text} (h : readArchive entries = readArchive entries') :
    parseSlrpWithPublicKey libraries entries publicKeyText =
      parseSlrpWithPublicKey libraries entries' publicKeyText := by
  rw [parseSlrpWithPublicKey, h, parseSlrpWithPublicKey]

theorem toOption_parseSlrp {libraries : Libraries} {entries entries' : List TarEntry}
    {publicKeyText : Text} (h : entries.Perm entries') :
    (parseSlrpWithPublicKey libraries entries publicKeyText).toOption =
      (parseSlrpWithPublicKey libraries entries' publicKeyText).toOption := by
  have harchive := toOption_readArchive h
  cases hfound : readArchive entries with
  | ok contents =>
    have hpacks := readArchive_ok_iff.mp hfound
    have hother := readArchive_ok_iff.mpr (hpacks.perm h)
    rw [parseSlrp_congr (hfound.trans hother.symm)]
  | error message =>
    cases hother : readArchive entries' with
    | ok contents =>
      rw [hfound, hother] at harchive
      cases harchive
    | error other =>
      rw [parseSlrpWithPublicKey, hfound, parseSlrpWithPublicKey, hother]
      rfl

/-- Archives are accepted by one grammar, whatever the order of their entries, and a package is
returned for the bytes that were verified. -/
theorem slrp_archive :
    (∀ entries rulesBin signatureText, readArchive entries = .ok (rulesBin, signatureText) ↔
      Packs entries rulesBin signatureText) ∧
    (∀ libraries publicKeyText entries entries', entries.Perm entries' →
      (readArchive entries).toOption = (readArchive entries').toOption ∧
      (parseSlrpWithPublicKey libraries entries publicKeyText).toOption =
        (parseSlrpWithPublicKey libraries entries' publicKeyText).toOption ∧
      ∀ contents, readArchive entries = .ok contents →
        parseSlrpWithPublicKey libraries entries publicKeyText =
          parseSlrpWithPublicKey libraries entries' publicKeyText) ∧
    ∀ libraries publicKeyText entries package,
      parseSlrpWithPublicKey libraries entries publicKeyText = .ok package ↔
        ∃ rulesBin signatureText proto, Packs entries rulesBin signatureText ∧
          verifyDetachedSignature libraries publicKeyText rulesBin signatureText = .ok () ∧
          libraries.decode rulesBin = some proto ∧ readPackage libraries proto = .ok package := by
  refine ⟨?_, ?_, ?_⟩
  · intro entries rulesBin signatureText
    exact readArchive_ok_iff
  · intro libraries publicKeyText entries entries' h
    refine ⟨toOption_readArchive h, toOption_parseSlrp h, ?_⟩
    intro contents hcontents
    have hpacks := readArchive_ok_iff.mp hcontents
    exact parseSlrp_congr (hcontents.trans (readArchive_ok_iff.mpr (hpacks.perm h)).symm)
  · intro libraries publicKeyText entries package
    exact parseSlrp_ok_iff

/-! ## A signed package -/

def sampleKeyText : Text := "gTl3Dqh9F19Wo1Rmw0x+zMuNipG07jeiXfYPW4/Js5Q="

def sampleKey : Bytes :=
  [129, 57, 119, 14, 168, 125, 23, 95, 86, 163, 84, 102, 195, 76, 126, 204, 203, 141, 138, 145, 180,
    238, 55, 162, 93, 246, 15, 91, 143, 201, 179, 148]

def sampleSignatureText : Text :=
  "kRmm8fY67hMT91qbzkhvcsxxYwJL4wkPV7PtGXyHguxwBj58FeApfHQty+PBBkJDo1eokvh4t11WEfuswBo2DA=="

def sampleSignature : Bytes :=
  [145, 25, 166, 241, 246, 58, 238, 19, 19, 247, 90, 155, 206, 72, 111, 114, 204, 113, 99, 2, 75,
    227, 9, 15, 87, 179, 237, 25, 124, 135, 130, 236, 112, 6, 62, 124, 21, 224, 41, 124, 116, 45,
    203, 227, 193, 6, 66, 67, 163, 87, 168, 146, 248, 120, 183, 93, 86, 17, 251, 172, 192, 26, 54,
    12]

def sampleRulesBin : Bytes :=
  [10, 38, 10, 16, 115, 101, 99, 108, 97, 98, 45, 115, 105, 109, 45, 114, 117, 108, 101, 115, 18, 5,
    48, 46, 49, 46, 48, 24, 1, 34, 5, 48, 46, 49, 46, 48, 48, 1, 56, 1, 18, 41, 8, 1, 18, 1, 118,
    26, 1, 118, 66, 3, 118, 110, 99, 72, 140, 46, 82, 2, 123, 125, 90, 19, 10, 4, 109, 97, 105, 110,
    18, 3, 116, 99, 112, 24, 140, 46, 32, 140, 46, 40, 1]

def sampleRule : SimRuleProto where
  id := 1
  name := "v"
  nameEn := "v"
  cve := none
  category := []
  descriptionZh := []
  descriptionEn := []
  protocol := "vnc"
  defaultPort := some 5900
  configJson := "\x7b\x7d"
  endpoints := [⟨"main", "tcp", 5900, 5900, true⟩]

def samplePackageProto : SimRulePackageProto where
  manifest := some ⟨"seclab-sim-rules", "0.1.0", 1, "0.1.0", 0, 1, 1⟩
  rules := [sampleRule]

/-- The configuration with the behaviour of VNC that has no field. -/
def sampleConfigText : Text := joinWith "\n"
  ["\x7b", "  \"behavior\": \x7b", "    \"protocol_version\": null,",
    "    \"security_types\": null", "  \x7d,", "  \"category\": \"\",", "  \"cve\": null,",
    "  \"description\": \"\",", "  \"descriptionEn\": \"\",", "  \"nameEn\": \"v\"", "\x7d"]

def sampleDecode (text : Text) : Option Bytes :=
  if text = sampleKeyText then some sampleKey
  else if text = sampleSignatureText then some sampleSignature
  else none

theorem sampleDecode_shorter (text : Text) (bytes : Bytes) (h : sampleDecode text = some bytes) :
    bytes.length < text.length := by
  unfold sampleDecode at h
  split at h
  next hkey =>
    cases h
    rw [hkey]
    decide
  next =>
    split at h
    next hsignature =>
      cases h
      rw [hsignature]
      decide
    next => cases h

def sampleParse (text : Text) : Option Json :=
  if text = "\x7b\x7d" then some (.obj [])
  else if text = sampleConfigText then
    some (importedConfig sampleRule (SimVncConfig.toValue ⟨none, none⟩))
  else none

/-- The libraries on the texts and the bytes of this package. -/
def sampleLibraries : Libraries where
  base64 := ⟨sampleDecode, fun text bytes h _ => sampleDecode_shorter text bytes h⟩
  blake2b := id
  verify := fun key message signature =>
    key = sampleKey && message = sampleRulesBin && signature = sampleSignature
  decode := fun bytes => if bytes = sampleRulesBin then some samplePackageProto else none
  isVersion := fun text => text = "0.1.0"
  rfc3339 := fun timestamp => if timestamp = 0 then some "1970-01-01T00:00:00+00:00" else none
  now := "2024-01-01T00:00:00+00:00"
  json :=
    { parse := sampleParse
      render := fun _ => []
      renderPretty := fun _ => sampleConfigText }
  validateBehavior := fun _ => roundTrip SimVncConfig.fromValue SimVncConfig.toValue

def samplePackage : ImportedRulePackage where
  packageId := "seclab-sim-rules"
  version := "0.1.0"
  rulesetFormatVersion := 1
  minSeclabVersion := "0.1.0"
  generatedAt := "1970-01-01T00:00:00+00:00"
  rules := [⟨"sim-rule-1", "v", "v", "vnc", 5900, sampleConfigText⟩]

theorem decodePublicKey_sampleKeyText :
    decodePublicKey sampleLibraries.base64 sampleKeyText = .ok sampleKey := by
  have hpayload : publicKeyPayload sampleKeyText = some sampleKeyText := by decide
  have hdecoded : sampleLibraries.base64.decode sampleKeyText = some sampleKey := rfl
  have hnested : nestedKey sampleKey = none := by
    have hbytes : utf8Decode sampleKey = none := utf8Decode_broken (by decide) (by decide) _
    rw [nestedKey, hbytes]
    rfl
  rw [decodePublicKey]
  split
  next hnone =>
    rw [hpayload] at hnone
    cases hnone
  next payload hfound =>
    rw [hpayload] at hfound
    cases hfound
    split
    next hnone =>
      rw [hdecoded] at hnone
      cases hnone
    next decoded hbytes =>
      rw [hdecoded] at hbytes
      cases hbytes
      split
      next nested hfound =>
        rw [hnested] at hfound
        cases hfound
      next => rfl

theorem verify_sample :
    verifyDetachedSignature sampleLibraries sampleKeyText sampleRulesBin sampleSignatureText =
      .ok () := by
  have hsignature : decodeSignature sampleLibraries.base64 sampleSignatureText =
      .ok (sampleSignature, false) := by decide
  exact verifyDetachedSignature_ok_iff.mpr
    ⟨_, sampleSignature, false, decodePublicKey_sampleKeyText, hsignature, rfl⟩

theorem readPackage_sample :
    readPackage sampleLibraries samplePackageProto = .ok samplePackage := by
  rfl

def sampleEntries : List TarEntry :=
  [signatureEntry sampleSignatureText, rulesEntry sampleRulesBin]

theorem packs_sampleEntries : Packs sampleEntries sampleRulesBin sampleSignatureText where
  files := List.Perm.swap _ _ _
  rulesSize := by decide
  signatureSize := by decide

/-- The signature in front of the rules, and behind them. -/
theorem slrp_archive_sample :
    readArchive sampleEntries = .ok (sampleRulesBin, sampleSignatureText) ∧
    parseSlrpWithPublicKey sampleLibraries sampleEntries sampleKeyText = .ok samplePackage ∧
    parseSlrpWithPublicKey sampleLibraries sampleEntries.reverse sampleKeyText =
      .ok samplePackage := by
  obtain ⟨hgrammar, horder, hparse⟩ := slrp_archive
  have harchive := (hgrammar _ _ _).mpr packs_sampleEntries
  have hread : sampleLibraries.decode sampleRulesBin = some samplePackageProto := rfl
  have hpackage := (hparse _ _ _ _).mpr ⟨_, _, _, packs_sampleEntries, verify_sample, hread,
    readPackage_sample⟩
  obtain ⟨_, _, hsame⟩ := horder sampleLibraries sampleKeyText sampleEntries
    sampleEntries.reverse (List.reverse_perm _).symm
  exact ⟨harchive, hpackage, (hsame _ harchive).symm.trans hpackage⟩

end ProtocolSimulation.RulePackages
