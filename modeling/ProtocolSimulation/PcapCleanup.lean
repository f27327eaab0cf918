import ProtocolSimulation.KeyedTables
import ProtocolSimulation.Paths
import ProtocolSimulation.PcapNames

/-!
# Capture files on the disk

Where the name of a capture file leads, and the files that are removed at startup
because no instance refers to them.
-/
namespace ProtocolSimulation.Pcap

open ProtocolSimulation.Texts ProtocolSimulation.Paths ProtocolSimulation.KeyedTables

/-! ## The directory -/

inductive FileType where
  | file
  | directory
  | symlink
  | other
  deriving DecidableEq

inductive ErrorKind where
  | notFound
  | other
  deriving DecidableEq

structure IoError where
  kind : ErrorKind
  message : Text
  deriving DecidableEq

/-- An entry of a directory; a name is bytes, which need not be text. -/
structure DirEntry where
  fileName : Bytes
  fileType : FileType
  deriving DecidableEq

/-- A directory has no two entries of one name. -/
abbrev Directory := Table DirEntry.fileName

/-- The operations on entries that fail, with their errors. -/
structure Faults where
  fileType : DirEntry → Option IoError
  removeFile : DirEntry → Option IoError

/-- `remove_file` in the directory. -/
def removeFile (faults : Faults) (dir : Directory) (name : Bytes) :
    Except IoError Unit × Directory :=
  match dir.get name with
  | none => (.error ⟨.notFound, "No such file or directory"⟩, dir)
  | some entry =>
    match faults.removeFile entry with
    | some error => (.error error, dir)
    | none =>
      if entry.fileType = .directory then (.error ⟨.other, "Is a directory"⟩, dir)
      else (.ok (), dir.filter fun other => other.fileName ≠ name)

/-! ## The functions -/

structure OrphanCleanupReport where
  removed : ℕ
  failures : List (Text × Text)
  deriving DecidableEq

/-- An error with the context it was given, if any. -/
structure CleanupError where
  context : Option Text
  error : IoError
  deriving DecidableEq

/-- `capture_file_path`, with the directory in front. -/
def captureFilePathIn (dataDir fileName : Text) : Except Text Text :=
  (captureFilePath fileName).map fun name => join (join dataDir "pcap") name

/-- The loop over what `next_entry` yields. -/
def cleanupEntries (faults : Faults) (referencedFiles : List Text) :
    List (Except IoError DirEntry) → OrphanCleanupReport → Directory →
      Except CleanupError OrphanCleanupReport × Directory
  | [], report, dir => (.ok report, dir)
  | .error error :: _, _, dir => (.error ⟨none, error⟩, dir)
  | .ok entry :: rest, report, dir =>
    match utf8Decode entry.fileName with
    | none => cleanupEntries faults referencedFiles rest report dir
    | some fileName =>
      if referencedFiles.contains fileName || !isManagedCaptureFile fileName then
        cleanupEntries faults referencedFiles rest report dir
      else
        match faults.fileType entry with
        | some error => (.error ⟨none, error⟩, dir)
        | none =>
          if entry.fileType ≠ .file then cleanupEntries faults referencedFiles rest report dir
          else
            match removeFile faults dir entry.fileName with
            | (.ok (), dir') =>
              cleanupEntries faults referencedFiles rest
                { report with removed := report.removed + 1 } dir'
            | (.error error, dir') =>
              if error.kind = .notFound then cleanupEntries faults referencedFiles rest report dir'
              else
                cleanupEntries faults referencedFiles rest
                  { report with failures := report.failures ++ [(fileName, error.message)] } dir'

/-- What `read_dir` yields is an error, or what `next_entry` yields one after the other. -/
def cleanupOrphanedCaptureFiles (faults : Faults) (dataDir : Text)
    (readDir : Except IoError (List (Except IoError DirEntry))) (referencedFiles : List Text)
    (dir : Directory) : Except CleanupError OrphanCleanupReport × Directory :=
  match readDir with
  | .error error =>
    if error.kind = .notFound then (.ok ⟨0, []⟩, dir)
    else
      (.error ⟨some (("failed to read pcap directory " : Text) ++ join dataDir "pcap"), error⟩, dir)
  | .ok entries => cleanupEntries faults referencedFiles entries ⟨0, []⟩ dir

/-! ## Names and paths -/

/-- One or more letters, digits and dashes. -/
def PlainId (id : Text) : Prop := id ≠ [] ∧ ∀ c ∈ id, c.isAlphanum = true ∨ c = '-'

theorem managedChar_iff {c : Char} : managedChar c = true ↔ c.isAlphanum = true ∨ c = '-' := by
  simp [managedChar]

theorem isManagedCaptureFile_iff_plainId {fileName : Text} :
    isManagedCaptureFile fileName = true ↔ ∃ id, PlainId id ∧ captureFileName id = fileName := by
  rw [isManagedCaptureFile_iff]
  constructor
  · intro h
    obtain ⟨id, hname, hne, hchars⟩ := h
    exact ⟨id, ⟨hne, fun c hc => managedChar_iff.mp (hchars c hc)⟩, hname.symm⟩
  · intro h
    obtain ⟨id, ⟨hne, hchars⟩, hname⟩ := h
    exact ⟨id, hname.symm, hne, fun c hc => managedChar_iff.mpr (hchars c hc)⟩

/-- The names that are accepted are those of capture files. -/
theorem captureFilePath_ok_iff {fileName path : Text} :
    captureFilePath fileName = .ok path ↔
      isManagedCaptureFile fileName = true ∧ path = fileName := by
  constructor
  · intro h
    rw [captureFilePath] at h
    split at h
    next => cases h
    next hmanaged =>
      cases h
      simp only [Bool.or_eq_true, Bool.not_eq_true', decide_eq_true_eq, not_or] at hmanaged
      exact ⟨by simpa using hmanaged.1, rfl⟩
  · intro h
    obtain ⟨hmanaged, rfl⟩ := h
    obtain ⟨id, hname, hne, hchars⟩ := isManagedCaptureFile_iff.mp hmanaged
    rw [hname]
    exact captureFilePath_captureFileName hne hchars

theorem captureFilePathIn_ok_iff {dataDir fileName path : Text} :
    captureFilePathIn dataDir fileName = .ok path ↔
      isManagedCaptureFile fileName = true ∧ path = join (join dataDir "pcap") fileName := by
  rw [captureFilePathIn]
  cases h : captureFilePath fileName with
  | error message =>
    have hrefused : ¬ isManagedCaptureFile fileName = true := by
      intro hmanaged
      rw [captureFilePath_ok_iff.mpr ⟨hmanaged, rfl⟩] at h
      cases h
    constructor
    · intro hpath
      cases hpath
    · intro hpath
      exact absurd hpath.1 hrefused
  | ok name =>
    obtain ⟨hmanaged, rfl⟩ := captureFilePath_ok_iff.mp h
    constructor
    · intro hpath
      cases hpath
      exact ⟨hmanaged, rfl⟩
    · intro hpath
      rw [hpath.2]
      rfl

theorem captureFileName_ne_dots {id dots : Text} (h : dots.head? ≠ some 'p') :
    captureFileName id ≠ dots := by
  intro hname
  apply h
  rw [← hname]
  rfl

/-- No character of a name separates components, on any system. -/
theorem no_separator {id : Text} (h : PlainId id) :
    ∀ c ∈ captureFileName id, c ≠ '/' ∧ c ≠ '\\' := by
  have hopen : ∀ c ∈ ("pcap_" : Text), c ≠ '/' ∧ c ≠ '\\' := by simp
  have hclose : ∀ c ∈ (".pcap" : Text), c ≠ '/' ∧ c ≠ '\\' := by simp
  intro c hc
  obtain hc | hc := List.mem_append.mp hc
  · obtain hc | hc := List.mem_append.mp hc
    · exact hopen c hc
    · obtain halphanum | rfl := h.2 c hc
      · constructor
        · rintro rfl
          exact absurd halphanum (by decide)
        · rintro rfl
          exact absurd halphanum (by decide)
      · decide
  · exact hclose c hc

theorem components_captureFileName {id : Text} (h : PlainId id) :
    (parts (captureFileName id)).map component = [.normal (captureFileName id)] ∧
      components (captureFileName id) = [.normal (captureFileName id)] := by
  have hslash : '/' ∉ captureFileName id := fun hmem => (no_separator h '/' hmem).1 rfl
  have hne : captureFileName id ≠ [] := captureFileName_ne_dots (by decide)
  have hdot : captureFileName id ≠ ['.'] := captureFileName_ne_dots (by decide)
  have hdots : captureFileName id ≠ ['.', '.'] := captureFileName_ne_dots (by decide)
  have hparts : (parts (captureFileName id)).map component = [.normal (captureFileName id)] := by
    rw [parts_of_no_slash hslash hne hdot, List.map_singleton, component_of_ne hdots]
  refine ⟨hparts, ?_⟩
  rw [components, hparts, anchor_of_no_slash hslash hdot]
  rfl

/-- The path of a name leads to an entry of the directory itself. -/
theorem components_captureFilePathIn {dataDir id : Text} (h : PlainId id) :
    components (join (join dataDir "pcap") (captureFileName id)) =
      components (join dataDir "pcap") ++ [.normal (captureFileName id)] := by
  have hbase : join dataDir "pcap" ≠ [] := join_ne_nil (by decide)
  have hfirst : (captureFileName id).head? = some 'p' := rfl
  have hhead : (captureFileName id).head? ≠ some '/' := by
    rw [hfirst]
    decide
  rw [components_join hbase hhead, (components_captureFileName h).1]

/-- `Path::file_name` is the last component if that is a name. -/
theorem pathFileName_eq (path : Text) :
    pathFileName path = (components path).getLast?.bind Component.name? := by
  show (parts path).getLast?.filter _ = _
  rw [components, List.getLast?_append, List.getLast?_map]
  cases (parts path).getLast? with
  | none =>
    rw [anchor]
    split_ifs <;> rfl
  | some part =>
    rw [Option.map_some, Option.some_or, Option.bind_some, component]
    split
    next hdots =>
      subst hdots
      rfl
    next hdots => simp [Option.filter, hdots, Component.name?]

/-! ## What is removed -/

/-- A regular file with a name that is accepted and not referred to. -/
def Orphan (referencedFiles : List Text) (entry : DirEntry) : Prop :=
  entry.fileType = .file ∧ ∃ fileName, utf8Decode entry.fileName = some fileName ∧
    (∃ path, captureFilePath fileName = .ok path) ∧ fileName ∉ referencedFiles

section Cleanup

variable {faults : Faults} {referencedFiles : List Text} {entry : DirEntry}
  {rest : List (Except IoError DirEntry)} {report : OrphanCleanupReport} {dir : Directory}

theorem orphan_iff {fileName : Text} (hname : utf8Decode entry.fileName = some fileName) :
    Orphan referencedFiles entry ↔ entry.fileType = .file ∧
      ¬ (referencedFiles.contains fileName || !isManagedCaptureFile fileName) = true := by
  have haccepted : (∃ path, captureFilePath fileName = .ok path) ↔
      isManagedCaptureFile fileName = true := by
    simp [captureFilePath_ok_iff]
  rw [Orphan, hname]
  simp [haccepted, and_comm]

theorem not_orphan_of_none (hname : utf8Decode entry.fileName = none) :
    ¬ Orphan referencedFiles entry := by
  intro h
  obtain ⟨_, fileName, hfound, _⟩ := h
  rw [hname] at hfound
  cases hfound

/-- What is no orphan stays. -/
theorem cleanupEntries_of_not_orphan (h : ¬ Orphan referencedFiles entry)
    (htype : faults.fileType entry = none) :
    cleanupEntries faults referencedFiles (.ok entry :: rest) report dir =
      cleanupEntries faults referencedFiles rest report dir := by
  rw [cleanupEntries]
  cases hname : utf8Decode entry.fileName with
  | none => rfl
  | some fileName =>
    rw [orphan_iff hname, not_and] at h
    dsimp only
    split
    next => rfl
    next hkept =>
      rw [htype]
      exact if_pos fun hfile => h hfile hkept

theorem removeFile_of_mem (hmem : entry ∈ dir.rows) (hfile : entry.fileType = .file)
    (hremove : faults.removeFile entry = none) :
    removeFile faults dir entry.fileName =
      (.ok (), dir.filter fun other => other.fileName ≠ entry.fileName) := by
  have hnot : ¬ entry.fileType = .directory := by
    rw [hfile]
    decide
  rw [removeFile, Table.get_of_mem hmem]
  dsimp only
  rw [hremove]
  exact if_neg hnot

/-- An orphan is removed. -/
theorem cleanupEntries_of_orphan (h : Orphan referencedFiles entry) (hmem : entry ∈ dir.rows)
    (htype : faults.fileType entry = none) (hremove : faults.removeFile entry = none) :
    cleanupEntries faults referencedFiles (.ok entry :: rest) report dir =
      cleanupEntries faults referencedFiles rest { report with removed := report.removed + 1 }
        (dir.filter fun other => other.fileName ≠ entry.fileName) := by
  rw [cleanupEntries]
  cases hname : utf8Decode entry.fileName with
  | none => exact absurd h (not_orphan_of_none hname)
  | some fileName =>
    obtain ⟨hfile, hkept⟩ := (orphan_iff hname).mp h
    dsimp only
    rw [if_neg hkept, htype]
    dsimp only
    rw [if_neg (not_not.mpr hfile), removeFile_of_mem hmem hfile hremove]

/-- What is kept when an orphan is removed before the rest of a listing. -/
theorem kept_of_orphan {first : DirEntry} {listing : List DirEntry}
    (h : Orphan referencedFiles first) (hfirst : first ∈ dir.rows) :
    entry ∈ (dir.filter fun other => other.fileName ≠ first.fileName).rows ∧
        ¬ (entry ∈ listing ∧ Orphan referencedFiles entry) ↔
      entry ∈ dir.rows ∧ ¬ (entry ∈ first :: listing ∧ Orphan referencedFiles entry) := by
  rw [Table.mem_filter, decide_eq_true_eq, List.mem_cons]
  constructor
  · intro hkept
    obtain ⟨⟨hentry, hne⟩, hkept⟩ := hkept
    refine ⟨hentry, ?_⟩
    intro hgone
    obtain ⟨rfl | hlisted, horphan⟩ := hgone
    · exact hne rfl
    · exact hkept ⟨hlisted, horphan⟩
  · intro hkept
    obtain ⟨hentry, hkept⟩ := hkept
    refine ⟨⟨hentry, ?_⟩, fun hgone => hkept ⟨.inr hgone.1, hgone.2⟩⟩
    intro hsame
    obtain rfl := Table.eq_of_key_eq hentry hfirst hsame
    exact hkept ⟨.inl rfl, h⟩

theorem kept_of_not_orphan {first : DirEntry} {listing : List DirEntry}
    (h : ¬ Orphan referencedFiles first) :
    entry ∈ listing ∧ Orphan referencedFiles entry ↔
      entry ∈ first :: listing ∧ Orphan referencedFiles entry := by
  rw [List.mem_cons]
  constructor
  · intro hgone
    exact ⟨.inr hgone.1, hgone.2⟩
  · intro hgone
    obtain ⟨rfl | hlisted, horphan⟩ := hgone
    · exact absurd horphan h
    · exact ⟨hlisted, horphan⟩

/-- The orphans of a listing are removed, and nothing else. -/
theorem cleanupEntries_listing {listing : List DirEntry}
    (hdistinct : (listing.map DirEntry.fileName).Nodup) (hmem : ∀ entry ∈ listing, entry ∈ dir.rows)
    (htype : ∀ entry ∈ listing, faults.fileType entry = none)
    (hremove : ∀ entry ∈ listing, Orphan referencedFiles entry →
      faults.removeFile entry = none) :
    ∃ report' dir', cleanupEntries faults referencedFiles (listing.map .ok) report dir =
        (.ok report', dir') ∧
      report'.failures = report.failures ∧
      report'.removed + dir'.rows.length = report.removed + dir.rows.length ∧
      ∀ entry, entry ∈ dir'.rows ↔
        entry ∈ dir.rows ∧ ¬ (entry ∈ listing ∧ Orphan referencedFiles entry) := by
  induction listing generalizing report dir with
  | nil => exact ⟨report, dir, rfl, rfl, rfl, by simp⟩
  | cons first listing ih =>
    obtain ⟨hfirst, hlisting⟩ := List.forall_mem_cons.mp hmem
    obtain ⟨hnew, hdistinct⟩ := List.nodup_cons.mp hdistinct
    obtain ⟨htypeFirst, htypes⟩ := List.forall_mem_cons.mp htype
    obtain ⟨hremoveFirst, hremoves⟩ := List.forall_mem_cons.mp hremove
    rw [List.map_cons]
    by_cases horphan : Orphan referencedFiles first
    · have hother : ∀ entry ∈ listing,
          entry ∈ (dir.filter fun other => other.fileName ≠ first.fileName).rows := by
        intro entry hentry
        rw [Table.mem_filter, decide_eq_true_eq]
        refine ⟨hlisting entry hentry, ?_⟩
        intro hsame
        exact hnew (hsame ▸ List.mem_map_of_mem hentry)
      obtain ⟨report', dir', hrun, hfailures, hcount, hrows⟩ :=
        @ih { report with removed := report.removed + 1 } _ hdistinct hother htypes hremoves
      refine ⟨report', dir', ?_, hfailures, ?_, ?_⟩
      · rw [cleanupEntries_of_orphan horphan hfirst htypeFirst (hremoveFirst horphan)]
        exact hrun
      · have hlength := Table.length_filter_key_ne hfirst
        dsimp only at hcount
        omega
      · intro entry
        rw [hrows, kept_of_orphan horphan hfirst]
    · obtain ⟨report', dir', hrun, hfailures, hcount, hrows⟩ :=
        @ih report dir hdistinct hlisting htypes hremoves
      refine ⟨report', dir', ?_, hfailures, hcount, ?_⟩
      · rw [cleanupEntries_of_not_orphan horphan htypeFirst]
        exact hrun
      · intro entry
        rw [hrows, kept_of_not_orphan horphan]

/-- Removing a file by its name touches no other one. -/
theorem rows_removeFile {name : Bytes} {result : Except IoError Unit} {dir' : Directory}
    (h : removeFile faults dir name = (result, dir')) (entry : DirEntry) :
    (entry ∈ dir'.rows → entry ∈ dir.rows) ∧
      (entry ∈ dir.rows → entry ∉ dir'.rows → entry.fileName = name) := by
  have hkept : (entry ∈ dir.rows → entry ∈ dir.rows) ∧
      (entry ∈ dir.rows → entry ∉ dir.rows → entry.fileName = name) :=
    ⟨id, fun hmem hgone => absurd hmem hgone⟩
  rw [removeFile] at h
  split at h
  next =>
    cases h
    exact hkept
  next =>
    split at h
    next =>
      cases h
      exact hkept
    next =>
      split at h
      next =>
        cases h
        exact hkept
      next =>
        cases h
        constructor
        · intro hmem
          exact (Table.mem_filter.mp hmem).1
        · intro hmem hgone
          by_contra hne
          exact hgone (Table.mem_filter.mpr ⟨hmem, decide_eq_true hne⟩)

/-- Whatever fails, only orphans are removed. -/
theorem orphan_of_removed {listing : List (Except IoError DirEntry)} {whole : Directory}
    (hlisting : ∀ entry, .ok entry ∈ listing → entry ∈ whole.rows)
    (hdir : ∀ entry ∈ dir.rows, entry ∈ whole.rows) (hmem : entry ∈ dir.rows)
    (hgone : entry ∉ (cleanupEntries faults referencedFiles listing report dir).2.rows) :
    Orphan referencedFiles entry := by
  induction listing generalizing report dir with
  | nil => exact absurd hmem hgone
  | cons next listing ih =>
    have hrest : ∀ entry, .ok entry ∈ listing → entry ∈ whole.rows :=
      fun other hother => hlisting other (List.mem_cons_of_mem _ hother)
    cases next with
    | error error => exact absurd hmem hgone
    | ok first =>
      rw [cleanupEntries] at hgone
      split at hgone
      next => exact ih hrest hdir hmem hgone
      next fileName hname =>
        split at hgone
        next => exact ih hrest hdir hmem hgone
        next hkept =>
          split at hgone
          next => exact absurd hmem hgone
          next =>
            split at hgone
            next => exact ih hrest hdir hmem hgone
            next hfile =>
              have hfirst : Orphan referencedFiles first :=
                (orphan_iff hname).mpr ⟨not_not.mp hfile, hkept⟩
              cases hremoved : removeFile faults dir first.fileName with
              | mk result dir' =>
                rw [hremoved] at hgone
                have hdir' : ∀ entry ∈ dir'.rows, entry ∈ whole.rows :=
                  fun other hother => hdir other ((rows_removeFile hremoved other).1 hother)
                by_cases hmem' : entry ∈ dir'.rows
                · cases result with
                  | ok _ => exact ih hrest hdir' hmem' hgone
                  | error error =>
                    dsimp only at hgone
                    split at hgone
                    next => exact ih hrest hdir' hmem' hgone
                    next => exact ih hrest hdir' hmem' hgone
                · have hname := (rows_removeFile hremoved entry).2 hmem hmem'
                  have hwhole := hlisting first List.mem_cons_self
                  exact Table.eq_of_key_eq (hdir entry hmem) hwhole hname ▸ hfirst

end Cleanup

/-- The names of capture files are accepted, tell the instances apart and lead into the directory
only; what is removed from it are the files with such a name that are not referred to. -/
theorem captureFiles_managed :
    (∀ id, PlainId id → ∀ dataDir, ∃ path,
      captureFilePathIn dataDir (captureFileName id) = .ok path) ∧
    Function.Injective captureFileName ∧
    (∀ dataDir fileName path, captureFilePathIn dataDir fileName = .ok path →
      (∃! id, PlainId id ∧ captureFileName id = fileName) ∧
      (∀ c ∈ fileName, c ≠ '/' ∧ c ≠ '\\') ∧ .parentDir ∉ components fileName ∧
      components path = components (join dataDir "pcap") ++ [.normal fileName]) ∧
    ∀ (faults : Faults) (dataDir : Text) (referencedFiles : List Text) (dir : Directory)
      (listing : List DirEntry), listing.Perm dir.rows →
      (∀ entry ∈ listing, faults.fileType entry = none) →
      (∀ entry ∈ listing, Orphan referencedFiles entry → faults.removeFile entry = none) →
      ∃ report dir', cleanupOrphanedCaptureFiles faults dataDir (.ok (listing.map .ok))
          referencedFiles dir = (.ok report, dir') ∧
        report.failures = [] ∧ report.removed + dir'.rows.length = dir.rows.length ∧
        ∀ entry, entry ∈ dir'.rows ↔ entry ∈ dir.rows ∧ ¬ Orphan referencedFiles entry := by
  refine ⟨?_, captureFileName_injective, ?_, ?_⟩
  · intro id hid dataDir
    have hmanaged := isManagedCaptureFile_iff_plainId.mpr ⟨id, hid, rfl⟩
    exact ⟨_, captureFilePathIn_ok_iff.mpr ⟨hmanaged, rfl⟩⟩
  · intro dataDir fileName path h
    obtain ⟨hmanaged, rfl⟩ := captureFilePathIn_ok_iff.mp h
    obtain ⟨id, hid, rfl⟩ := isManagedCaptureFile_iff_plainId.mp hmanaged
    refine ⟨⟨id, ⟨hid, rfl⟩, ?_⟩, no_separator hid, ?_, components_captureFilePathIn hid⟩
    · intro other hother
      exact captureFileName_injective hother.2
    · rw [(components_captureFileName hid).2]
      simp
  · intro faults dataDir referencedFiles dir listing hperm htype hremove
    have hdistinct : (listing.map DirEntry.fileName).Nodup :=
      (hperm.map _).nodup_iff.mpr dir.distinct
    obtain ⟨report, dir', hrun, hfailures, hcount, hrows⟩ :=
      @cleanupEntries_listing faults referencedFiles ⟨0, []⟩ dir listing hdistinct
        (fun entry hentry => hperm.mem_iff.mp hentry) htype hremove
    refine ⟨report, dir', hrun, hfailures, by simpa using hcount, ?_⟩
    intro entry
    rw [hrows, hperm.mem_iff]
    tauto

/-- The directory of the tests, with a file that an instance refers to and one that none does. -/
def sampleDirectory : Directory where
  rows := [⟨utf8Encode "pcap_instance-live.pcap", .file⟩,
    ⟨utf8Encode "pcap_instance-orphan.pcap", .file⟩, ⟨utf8Encode "notes.txt", .file⟩,
    ⟨utf8Encode "pcap_instance-directory.pcap", .directory⟩]
  distinct := by decide

/-- In the directory of the tests one file is removed. -/
theorem captureFiles_managed_sample :
    (∃ path, captureFilePathIn "/data" (captureFileName "sim-1") = .ok path ∧
      components path = components (join "/data" "pcap") ++ [.normal (captureFileName "sim-1")]) ∧
    ∃ report dir', cleanupOrphanedCaptureFiles ⟨fun _ => none, fun _ => none⟩ "/data"
        (.ok (sampleDirectory.rows.map .ok)) ["pcap_instance-live.pcap"] sampleDirectory =
          (.ok report, dir') ∧
      report.failures = [] ∧
      (⟨utf8Encode "pcap_instance-orphan.pcap", .file⟩ : DirEntry) ∉ dir'.rows ∧
      (⟨utf8Encode "pcap_instance-live.pcap", .file⟩ : DirEntry) ∈ dir'.rows := by
  obtain ⟨haccepted, _, hpaths, hcleanup⟩ := captureFiles_managed
  constructor
  · obtain ⟨path, hpath⟩ := haccepted "sim-1" ⟨by decide, by simp⟩ "/data"
    exact ⟨path, hpath, (hpaths _ _ _ hpath).2.2.2⟩
  · obtain ⟨report, dir', hrun, hfailures, _, hrows⟩ :=
      hcleanup ⟨fun _ => none, fun _ => none⟩ "/data" ["pcap_instance-live.pcap"] sampleDirectory
        sampleDirectory.rows (.refl _) (fun _ _ => rfl) (fun _ _ _ => rfl)
    have horphan : isManagedCaptureFile "pcap_instance-orphan.pcap" = true := by decide
    refine ⟨report, dir', hrun, hfailures, ?_, ?_⟩
    · intro hkept
      apply ((hrows _).mp hkept).2
      exact ⟨rfl, _, utf8Decode_utf8Encode _, ⟨_, captureFilePath_ok_iff.mpr ⟨horphan, rfl⟩⟩,
        by decide⟩
    · refine (hrows _).mpr ⟨List.mem_cons_self, ?_⟩
      intro h
      obtain ⟨_, fileName, hname, _, hreferenced⟩ := h
      rw [utf8Decode_utf8Encode] at hname
      cases hname
      exact hreferenced List.mem_cons_self

end ProtocolSimulation.Pcap
