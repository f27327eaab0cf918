import ProtocolSimulation.Identifiers

/-!
# Names of capture files

A capture of an instance is stored under a name made from the instance's
identifier, and only names of that form are ever removed.
-/
namespace ProtocolSimulation.Pcap

open ProtocolSimulation.Texts ProtocolSimulation.Identifiers

def captureFileName (instanceId : Text) : Text := ("pcap_" : Text) ++ instanceId ++ (".pcap" : Text)

def managedChar (c : Char) : Bool := c.isAlphanum || c == '-'

def isManagedCaptureFile (fileName : Text) : Bool :=
  ((stripPrefix "pcap_" fileName).bind (stripSuffix ".pcap")).any fun value =>
    !value.isEmpty && value.all managedChar

/-- `Path::file_name`: the last component, if it is a proper name. -/
def pathFileName (path : Text) : Option Text :=
  ((path.splitOnP (· == '/')).filter fun part => !part.isEmpty && part != ['.']).getLast?.filter
    (· != ['.', '.'])

/-- The name under `data_dir/pcap` that a stored file name stands for. -/
def captureFilePath (fileName : Text) : Except Text Text :=
  if !isManagedCaptureFile fileName || pathFileName fileName ≠ some fileName then
    .error "invalid managed pcap file name"
  else .ok fileName

theorem captureFileName_injective : Function.Injective captureFileName := by
  intro i j h
  exact List.append_cancel_left (List.append_cancel_right h)

theorem isManagedCaptureFile_iff {fileName : Text} : isManagedCaptureFile fileName = true ↔
    ∃ value, fileName = captureFileName value ∧ value ≠ [] ∧ ∀ c ∈ value, managedChar c = true := by
  unfold isManagedCaptureFile captureFileName
  rw [Option.any_eq_true]
  constructor
  · intro ⟨value, hvalue, hchars⟩
    obtain ⟨rest, hrest, hsuffix⟩ := Option.bind_eq_some_iff.mp hvalue
    rw [stripPrefix_eq_some_iff] at hrest
    rw [stripSuffix_eq_some_iff] at hsuffix
    refine ⟨value, by rw [hrest, hsuffix, List.append_assoc], ?_⟩
    simpa using hchars
  · intro ⟨value, hname, hne, hchars⟩
    refine ⟨value, Option.bind_eq_some_iff.mpr ⟨value ++ (".pcap" : Text), ?_, ?_⟩, ?_⟩
    · rw [stripPrefix_eq_some_iff, hname, List.append_assoc]
    · rw [stripSuffix_eq_some_iff]
    · simpa [hne] using hchars

theorem managedChar_ne_slash {c : Char} (h : managedChar c = true) : c ≠ '/' := by
  rintro rfl
  exact absurd h (by decide)

theorem pathFileName_of_no_slash {name : Text} (hslash : ∀ c ∈ name, c ≠ '/') (hne : name ≠ [])
    (hdot : name ≠ ['.']) (hdots : name ≠ ['.', '.']) : pathFileName name = some name := by
  have hsplit : name.splitOnP (· == '/') = [name] := by
    apply List.splitOnP_eq_singleton
    intro c hc
    simpa using hslash c hc
  simp [pathFileName, hsplit, hne, hdot, hdots, Option.filter]

/-- Names made from an identifier of letters, digits and dashes can be removed again. -/
theorem captureFilePath_captureFileName {id : Text} (hne : id ≠ [])
    (hchars : ∀ c ∈ id, managedChar c = true) :
    captureFilePath (captureFileName id) = .ok (captureFileName id) := by
  have hmanaged : isManagedCaptureFile (captureFileName id) = true :=
    isManagedCaptureFile_iff.mpr ⟨id, rfl, hne, hchars⟩
  have hslash : ∀ c ∈ captureFileName id, c ≠ '/' := by
    intro c hc
    unfold captureFileName at hc
    rw [List.mem_append, List.mem_append] at hc
    rcases hc with (hc | hc) | hc
    · have hopen : ("pcap_" : Text).all (· != '/') = true := by decide
      simpa using List.all_eq_true.mp hopen c hc
    · exact managedChar_ne_slash (hchars c hc)
    · have hclose : (".pcap" : Text).all (· != '/') = true := by decide
      simpa using List.all_eq_true.mp hclose c hc
  have hhead : ∀ name : Text, name.head? ≠ some 'p' → captureFileName id ≠ name := by
    rintro name hname rfl
    exact hname rfl
  have hpath : pathFileName (captureFileName id) = some (captureFileName id) :=
    pathFileName_of_no_slash hslash (hhead _ (by decide)) (hhead _ (by decide))
      (hhead _ (by decide))
  simp [captureFilePath, hmanaged, hpath]

theorem managedChar_digitChar : ∀ d : Fin 16, managedChar (Nat.digitChar d.val) = true := by decide

/-- Identifiers of deployed instances consist of letters, digits and dashes. -/
theorem managedChar_instanceId {u : UuidV7} {c : Char} (h : c ∈ instanceId u) :
    managedChar c = true := by
  have hhex : ∀ (ds : List (Fin 16)), c ∈ hexText ds → managedChar c = true := by
    intro ds hc
    obtain ⟨d, -, rfl⟩ := List.mem_map.mp hc
    exact managedChar_digitChar d
  have hdash : managedChar '-' = true := by decide
  have hsim : ("sim-" : Text).all managedChar = true := by decide
  rw [instanceId, UuidV7.hyphenated] at h
  simp only [List.mem_append, List.mem_cons] at h
  rcases h with h | h | rfl | h | rfl | h | rfl | h | rfl | h
  · exact List.all_eq_true.mp hsim c h
  · exact hhex _ h
  · exact hdash
  · exact hhex _ h
  · exact hdash
  · exact hhex _ h
  · exact hdash
  · exact hhex _ h
  · exact hdash
  · exact hhex _ h

theorem captureFilePath_instanceId (u : UuidV7) :
    captureFilePath (captureFileName (instanceId u)) = .ok (captureFileName (instanceId u)) :=
  captureFilePath_captureFileName (by simp [instanceId]) fun _ hc => managedChar_instanceId hc

end ProtocolSimulation.Pcap
