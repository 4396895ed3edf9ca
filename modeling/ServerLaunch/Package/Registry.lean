import ServerLaunch.Json.Reader
import ServerLaunch.Package.Source
import ServerLaunch.Settings
import ServerLaunch.Text.Lines
import ServerLaunch.Text.Utf8

/-!
# The package registry

Asking a registry for the latest version of a package. The answer has to be a document
that is an object with the version as a text.

## Main definitions

* `Registry`: the address and the time-out.
* `QueryFlaw`: why a query gives no version.
* `Registry.latest`: the query.
-/
namespace ServerLaunch

/-- A registry. Its address does not end in a slash. -/
structure Registry where
  address : String
  timeout : Number.Binary64
deriving DecidableEq, Repr

/-- Why a query gives no version: the exchange failed, the answer is no document that can be
held, or no version is in it. -/
inductive QueryFlaw where
  | exchange (fault : Fault)
  | document (fault : Fault)
  | noVersion
deriving DecidableEq, Repr

namespace QueryFlaw

/-- The report of a flaw in a query at an address. -/
def report (url : String) : QueryFlaw → String
  | exchange fault => "request to " ++ url ++ " failed: " ++ fault.message
  | document _ => "invalid JSON from " ++ url
  | noVersion => "no version in registry response from " ++ url

/-- The fault that a flaw stands for. -/
def cause? : QueryFlaw → Option Fault
  | exchange fault => some fault
  | document fault => some fault
  | noVersion => none

/-- The failure of a query for a package. -/
def toFailure (package url : String) (flaw : QueryFlaw) : Failure :=
  .launch (.versionQuery package (flaw.report url) flaw.cause?)

end QueryFlaw

namespace Response

/-- Whose fault a status of the error range is. -/
def blame? (status : Int) : Option String :=
  if 400 ≤ status && status < 500 then some "Client"
  else if 500 ≤ status && status < 600 then some "Server"
  else none

/-- The answer to a request at an address, or the fault that its status reports. The report
names the address that the answer has for its own. -/
def accepted (r : Response) (url : String) : Except Fault Response :=
  match blame? r.status with
  | none => .ok r
  | some party =>
    .error (.transport .http (toString r.status ++ " " ++ party ++ " Error: "
      ++ r.reason?.getD "None" ++ " for url: " ++ r.address?.getD url))

end Response

/-- The fault of an integer with more digits than are read. -/
def integerTooLong : Fault := .value "integer with too many digits"

/-- What is said of a container that is nested too deeply. -/
def Json.Container.tooDeepReport (container : Json.Container) : String :=
  let name := match container with
    | array => "array"
    | object => "object"
  Fault.nestingReport ++ " while decoding a JSON " ++ name ++ " from a unicode string"

/-- The fault of a text that is no document. -/
def Json.ReadError.fault (text : List Char) : Json.ReadError → Fault
  | flawed flaw => .malformedDocument (flaw.message text)
  | integerTooLong => ServerLaunch.integerTooLong
  | tooDeep container => .tooDeep container.tooDeepReport

/-- The document that a text is, nested at most `depth` deep, or the fault that keeps it from
being one. -/
def Json.ofText (depth : Nat) (text : List Char) : Except Fault Json :=
  (Json.parse depth text).mapError (Json.ReadError.fault text)

/-- An answer whose body is declared to be UTF-8. It is read as a document nested at most `depth`
deep, with a replacement character for what is damaged. -/
def Response.declaredUtf8 (depth : Nat) (status : Int) (reason? : Option String)
    (body : List UInt8) : Response :=
  { status, reason?
    address? := none
    document := Json.ofText depth (Text.Utf8.decodeLossy body) }

@[simp] theorem Response.status_declaredUtf8 (depth : Nat) (status : Int) (reason? : Option String)
    (body : List UInt8) : (declaredUtf8 depth status reason? body).status = status := rfl

/-- The version that a document states, if it is a text. -/
def Json.version? (document : Json) : Option Version :=
  ((document.member? "version").bind Json.text?).map Version.mk

namespace Registry

/-- A registry by its address, slashes at the end being left away. -/
def ofText (address : String) (timeout : Number.Binary64) : Registry :=
  ⟨Settings.plainRegistry address, timeout⟩

/-- Where the latest version of a package is found. -/
def latestUrl (registry : Registry) (package : String) : String :=
  registry.address ++ "/" ++ package ++ "/latest"

/-- What a fault in a query is to the caller. One that belongs neither to the exchange nor to
a value is passed on. -/
def queryFailure (package url : String) (fault : Fault) : Failure :=
  if fault.isRequestFault then (QueryFlaw.exchange fault).toFailure package url
  else if fault.isValueFault then (QueryFlaw.document fault).toFailure package url
  else .fault fault

/-- A failure in a query, as the caller sees it. -/
def explain (package url : String) : Failure → Failure
  | .fault fault => queryFailure package url fault
  | failure => failure

/-- Ask for the document about the latest version of a package. -/
def document {σ : Type} (registry : Registry) (package : String) : Action (World σ) Json := do
  let url := registry.latestUrl package
  let response ← World.request url registry.timeout
  .observe fun _ => ((response.accepted url).bind (·.document)).mapError .fault

/-- The latest version of a package; an empty one is none. -/
def latest {σ : Type} (registry : Registry) (package : String) : Action (World σ) Version := do
  let url := registry.latestUrl package
  let document ← (registry.document package).mapFailure (explain package url)
  match document.version?.filter (· != .empty) with
  | some version => pure version
  | none => .fail (QueryFlaw.noVersion.toFailure package url)

end Registry

end ServerLaunch
