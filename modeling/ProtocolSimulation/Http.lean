import ProtocolSimulation.LineSessions
import Mathlib.Logic.Function.Basic

/-!
# The HTTP simulation

Every request is reported and answered: as the first configured path it hits is to be
answered, or with the page. Of the headers that are configured the last valid one of a
name counts, and the server header is set over all of them.
-/
namespace ProtocolSimulation.Engine.Http

open ProtocolSimulation.Texts ProtocolSimulation.RuntimeEvents

structure HttpExploitPathConfig where
  path : Text
  triggerMethod : Option Text
  responseStatus : UInt16
  responseBody : Text
  responseHeaders : Option (BTreeMap Text)

structure SimHttpConfig where
  serverHeader : Option Text
  headers : Option (BTreeMap Text)
  html : Option Text
  exploitPaths : Option (List HttpExploitPathConfig)

abbrev Context := SimulationContext SimHttpConfig

/-- The method and the path of a request, as the library reads them. -/
structure Request where
  method : Text
  path : Text

/-! ## The library -/

/-- What the HTTP library makes of texts, and its constants. Names of headers are compared as it
reads them. -/
structure HttpLibrary (Name Value : Type) where
  toUppercase : Text → Text
  headerName : Text → Option Name
  headerValue : Text → Option Value
  contentType : Name
  server : Name
  textHtml : Value

/-- The values of a header map; `insert` puts a value in the place of all that were there. -/
abbrev HeaderMap (Name Value : Type) := Name → Option Value

variable {Name Value : Type} [DecidableEq Name]

def HeaderMap.empty : HeaderMap Name Value := fun _ => none

def HeaderMap.insert (headers : HeaderMap Name Value) (name : Name) (value : Value) :
    HeaderMap Name Value :=
  Function.update headers name (some value)

structure Response (Name Value : Type) where
  status : ℕ
  headers : HeaderMap Name Value
  body : Text

/-- `StatusCode::from_u16`. -/
def statusCode (code : UInt16) : Option ℕ :=
  if 100 ≤ code.toNat ∧ code.toNat < 1000 then some code.toNat else none

/-! ## The handler -/

/-- Does a request hit the path? -/
def HttpExploitPathConfig.hit (lib : HttpLibrary Name Value) (exp : HttpExploitPathConfig)
    (req : Request) : Bool :=
  exp.path = req.path &&
    (exp.triggerMethod.map fun method =>
      decide (lib.toUppercase method = lib.toUppercase req.method)).getD true

variable (lib : HttpLibrary Name Value)

/-- A configured header is set, if its name and its value are valid. -/
def insertHeader (headers : HeaderMap Name Value) (entry : Text × Text) : HeaderMap Name Value :=
  match lib.headerName entry.1, lib.headerValue entry.2 with
  | some name, some value => headers.insert name value
  | _, _ => headers

def insertHeaders (headers : HeaderMap Name Value) (configured : Option (BTreeMap Text)) :
    HeaderMap Name Value :=
  ((configured.map BTreeMap.entries).getD []).foldl (insertHeader lib) headers

def overwriteServer (headers : HeaderMap Name Value) (server : Option Text) :
    HeaderMap Name Value :=
  match server.bind lib.headerValue with
  | some value => headers.insert lib.server value
  | none => headers

def draft (ctx : Context) (peer : SocketAddr) (eventType summary : Text) : SimLogDraft where
  ruleId := ctx.ruleId
  nodeId := ctx.nodeId
  clientIp := peer.ip
  clientPort := peer.port
  serverPort := ctx.port
  eventType := eventType
  detailSummary := summary
  payloadHex := none

def exploitDraft (ctx : Context) (peer : SocketAddr) (req : Request) (exp : HttpExploitPathConfig) :
    SimLogDraft :=
  draft ctx peer "exploit_attempt"
    (("Exploit attempt triggered: " : Text) ++ lib.toUppercase req.method ++ (" " : Text) ++
      req.path ++ (" - Returned custom status " : Text) ++ showNat exp.responseStatus.toNat)

def accessDraft (ctx : Context) (peer : SocketAddr) (req : Request) : SimLogDraft :=
  draft ctx peer "http_request"
    (("Normal HTTP access: " : Text) ++ lib.toUppercase req.method ++ (" " : Text) ++ req.path)

/-- The answer to a request that hits the path. -/
def exploitResponse (config : SimHttpConfig) (exp : HttpExploitPathConfig) :
    Response Name Value where
  status := (statusCode exp.responseStatus).getD 500
  headers := overwriteServer lib (insertHeaders lib HeaderMap.empty exp.responseHeaders)
    config.serverHeader
  body := exp.responseBody

/-- The page that every other request gets. -/
def page (defaultHtml : Text) (config : SimHttpConfig) : Response Name Value where
  status := 200
  headers := overwriteServer lib
    (insertHeaders lib (HeaderMap.empty.insert lib.contentType lib.textHtml) config.headers)
    config.serverHeader
  body := config.html.getD defaultHtml

/-- The answer to a request, with what is reported before it. -/
def simulationHandler (defaultHtml : Text) (ctx : Context) (peer : SocketAddr) (req : Request) :
    QueuedLog × Response Name Value :=
  match (ctx.config.exploitPaths.getD []).find? fun exp => exp.hit lib req with
  | some exp => (⟨exploitDraft lib ctx peer req exp, none⟩, exploitResponse lib ctx.config exp)
  | none => (⟨accessDraft lib ctx peer req, none⟩, page lib defaultHtml ctx.config)

/-! ## Headers -/

/-- The value that an entry gives to a header. -/
def entryValue (name : Name) (entry : Text × Text) : Option Value :=
  if lib.headerName entry.1 = some name then lib.headerValue entry.2 else none

/-- The value that counts of all that are configured for a header. -/
def configuredValue (configured : Option (BTreeMap Text)) (name : Name) : Option Value :=
  ((configured.map BTreeMap.entries).getD []).reverse.findSome? (entryValue lib name)

variable {lib}

theorem insertHeader_apply (headers : HeaderMap Name Value) (entry : Text × Text) (name : Name) :
    insertHeader lib headers entry name = (entryValue lib name entry).or (headers name) := by
  rw [insertHeader, entryValue]
  cases hname : lib.headerName entry.1 with
  | none => simp
  | some found =>
    cases hvalue : lib.headerValue entry.2 with
    | none => simp
    | some value =>
      by_cases hsame : found = name
      · simp [hsame, HeaderMap.insert]
      · have hother : name ≠ found := fun h => hsame h.symm
        simp [hsame, HeaderMap.insert, hother]

/-- Of the entries for a header the last valid one counts. -/
theorem foldl_insertHeader_apply (entries : List (Text × Text)) (headers : HeaderMap Name Value)
    (name : Name) : entries.foldl (insertHeader lib) headers name =
      (entries.reverse.findSome? (entryValue lib name)).or (headers name) := by
  induction entries generalizing headers with
  | nil => simp
  | cons entry rest ih =>
    rw [List.foldl_cons, ih, insertHeader_apply, List.reverse_cons, List.findSome?_append,
      List.findSome?_singleton, Option.or_assoc]

theorem insertHeaders_apply (headers : HeaderMap Name Value)
    (configured : Option (BTreeMap Text)) (name : Name) :
    insertHeaders lib headers configured name =
      (configuredValue lib configured name).or (headers name) :=
  foldl_insertHeader_apply _ headers name

theorem overwriteServer_apply (headers : HeaderMap Name Value) (server : Option Text)
    (name : Name) : overwriteServer lib headers server name =
      if name = lib.server then (server.bind lib.headerValue).or (headers name)
      else headers name := by
  rw [overwriteServer]
  cases server.bind lib.headerValue with
  | none => simp
  | some value =>
    by_cases hserver : name = lib.server
    · simp [hserver, HeaderMap.insert]
    · simp [hserver, HeaderMap.insert]

/-! ## Answers -/

/-- The value of a header in a response: the banner, or what is configured, or what was there. -/
def finalValue (lib : HttpLibrary Name Value) (config : SimHttpConfig)
    (configured : Option (BTreeMap Text)) (before : HeaderMap Name Value) (name : Name) :
    Option Value :=
  if name = lib.server ∧ (config.serverHeader.bind lib.headerValue).isSome then
    config.serverHeader.bind lib.headerValue
  else (configuredValue lib configured name).or (before name)

theorem finalValue_eq (config : SimHttpConfig) (configured : Option (BTreeMap Text))
    (before : HeaderMap Name Value) (name : Name) :
    overwriteServer lib (insertHeaders lib before configured) config.serverHeader name =
      finalValue lib config configured before name := by
  rw [overwriteServer_apply, insertHeaders_apply, finalValue]
  by_cases hserver : name = lib.server
  · cases config.serverHeader.bind lib.headerValue <;> simp [hserver]
  · simp [hserver]

/-- The path of the configuration that answers a request: it is hit, and none before it is. -/
structure Answers (lib : HttpLibrary Name Value) (config : SimHttpConfig) (req : Request)
    (exp : HttpExploitPathConfig) : Prop where
  hit : exp.hit lib req = true
  first : ∃ front back, config.exploitPaths = some (front ++ exp :: back) ∧
    ∀ other ∈ front, other.hit lib req = false

/-- What a request is told, and what is told about it. -/
structure RequestRight (lib : HttpLibrary Name Value) (defaultHtml : Text) (ctx : Context)
    (peer : SocketAddr) (req : Request) (queued : QueuedLog) (response : Response Name Value) :
    Prop where
  /-- The first path that is hit gives body, headers and status, which is 500 if what is configured
  is no status code, and an attempt is reported. -/
  exploit : ∀ exp, Answers lib ctx.config req exp →
    queued = ⟨exploitDraft lib ctx peer req exp, none⟩ ∧ response.body = exp.responseBody ∧
    response.status = (if 100 ≤ exp.responseStatus.toNat ∧ exp.responseStatus.toNat < 1000 then
      exp.responseStatus.toNat else 500) ∧
    ∀ name, response.headers name =
      finalValue lib ctx.config exp.responseHeaders HeaderMap.empty name
  /-- A request that hits none gets the page, as if there were no such paths. -/
  ordinary : (∀ exp, ¬Answers lib ctx.config req exp) →
    (queued, response) = simulationHandler lib defaultHtml
      { ctx with config := { ctx.config with exploitPaths := none } } peer req ∧
    response.status = 200 ∧ ∀ name, response.headers name =
      finalValue lib ctx.config ctx.config.headers
        (HeaderMap.empty.insert lib.contentType lib.textHtml) name

omit [DecidableEq Name] in
/-- The loop over the paths finds the one that answers. -/
theorem find?_eq_some_iff {config : SimHttpConfig} {req : Request} {exp : HttpExploitPathConfig} :
    ((config.exploitPaths.getD []).find? fun exp => exp.hit lib req) = some exp ↔
      Answers lib config req exp := by
  rw [List.find?_eq_some_iff_append]
  constructor
  · intro h
    obtain ⟨hhit, front, back, hpaths, hfront⟩ := h
    refine ⟨hhit, front, back, ?_, by simpa using hfront⟩
    cases hconfig : config.exploitPaths with
    | none => simp [hconfig] at hpaths
    | some paths =>
      rw [hconfig] at hpaths
      exact congrArg some hpaths
  · intro h
    obtain ⟨front, back, hpaths, hfront⟩ := h.first
    refine ⟨h.hit, front, back, ?_, by simpa using hfront⟩
    rw [hpaths]
    rfl

/-- Every request is reported once and answered by the first path it hits, or by the page. No
header is set twice: the banner comes before what is configured, and of that the last counts. -/
theorem simulationHandler_requestRight (defaultHtml : Text) (ctx : Context) (peer : SocketAddr)
    (req : Request) : RequestRight lib defaultHtml ctx peer req
      (simulationHandler lib defaultHtml ctx peer req).1
      (simulationHandler lib defaultHtml ctx peer req).2 := by
  rw [simulationHandler]
  split
  next exp hfind =>
    have hanswers := find?_eq_some_iff.mp hfind
    refine ⟨?_, fun hnone => absurd hanswers (hnone exp)⟩
    intro other hother
    rw [find?_eq_some_iff.mpr hother] at hfind
    obtain rfl := Option.some.inj hfind
    refine ⟨rfl, rfl, ?_, finalValue_eq _ _ _⟩
    rw [exploitResponse, statusCode]
    split
    next => rfl
    next => rfl
  next hfind =>
    refine ⟨?_, fun _ => ⟨rfl, rfl, finalValue_eq _ _ _⟩⟩
    intro exp hanswers
    rw [find?_eq_some_iff.mpr hanswers] at hfind
    cases hfind

end ProtocolSimulation.Engine.Http
