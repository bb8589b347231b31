import NodeIdentity.Api.Address
import NodeIdentity.Metrics.Measurement
import NodeIdentity.Resource.Child

/-!
# API client

How resources are read from and written to an API server: the addresses of collections and objects,
which requests are refused before they are sent, and what an answer means.
-/

namespace NodeIdentity

/-- A script that may give up with the cause of a failure. -/
abbrev ApiAction : Type → Type :=
  ExceptT Cause ApiScript

namespace Client

variable {σ τ α : Type}

/-- The name under which the operator writes. -/
def fieldManager : String := "nodenet-controller"

/-- How many objects a page of a list holds at most. -/
def pageLimit : Nat := 100

/-- The address of the collection of a kind in a namespace. -/
def collectionPath (kind : Kind) (ns : String) : String :=
  "/apis/" ++ apiVersion ++ "/namespaces/" ++ ns ++ "/" ++ kind.plural

/-- The address of the collection of a kind in all namespaces. -/
def wholePath (kind : Kind) : String :=
  "/apis/" ++ apiVersion ++ "/" ++ kind.plural

/-- The address of an object. -/
def objectPath (kind : Kind) (ns name : String) : String :=
  collectionPath kind ns ++ "/" ++ name

/-- The value that the body of an answer gives. -/
def readAs (format : Format α) (body : Body) : Except Unreadable α :=
  match body with
  | .text words => format.readText words
  | .document value =>
      match format.decode value with
      | .ok value => .ok value
      | .error _ => format.readText body.words

/-- The status that the body of a failure reports; a body that reports none becomes its message. -/
def statusOfFailure (code : Nat) (body : Body) : ApiStatus :=
  match readAs ApiStatus.format body with
  | .ok status => status
  | .error _ =>
      { summary := some .failure, code := code, message := body.words,
        reason := "Failed to parse error data" }

/-- The value that the body of an answer holds. -/
def readBody (format : Format α) (body : Body) : Except Cause α :=
  (readAs format body).mapError .unreadable

/-- Whether an answer with a code reports a failure. -/
def isFailure (code : Nat) : Bool :=
  400 ≤ code && code < 600

/-- What an answer means to a caller that expects a value. -/
def readAnswer (format : Format α) : ApiAnswer → Except Cause α
  | .unreachable words => .error (.service words)
  | .response code body =>
      if isFailure code then .error (.api (statusOfFailure code body)) else readBody format body

/-- Send a request as it goes out, unless it cannot be built, and read the answer. -/
def send (format : Format α) (request : ApiRequest) : ApiAction α :=
  ExceptT.mk
    (match request.fault? with
    | some cause => .done (.error cause)
    | none => .send request.outgoing (fun answer => .done (readAnswer format answer)))

/-- Give up where an object that is to be addressed has no name. -/
def requireName (name : String) : ApiAction Unit :=
  if name.isEmpty then throw (.invalidRequest "A non-empty name is required") else pure ()

/-- Read an object. -/
def get (type : ResourceType σ τ) (ns name : String) : ApiAction (Resource σ τ) := do
  requireName name
  send type.format { method := .get, path := objectPath type.kind ns name }

/-- The payload that holds a whole resource. -/
def wholePayload (type : ResourceType σ τ) (resource : Resource σ τ) : Payload where
  contentType := "application/json"
  document := type.format.encode resource

/-- Create an object. -/
def create (type : ResourceType σ τ) (ns : String) (resource : Resource σ τ) :
    ApiAction (Resource σ τ) :=
  send type.format
    { method := .post
      path := collectionPath type.kind ns
      query := [("fieldManager", fieldManager)]
      payload := some (wholePayload type resource) }

/-- Replace an object. -/
def replace (type : ResourceType σ τ) (ns name : String) (resource : Resource σ τ) :
    ApiAction (Resource σ τ) := do
  requireName name
  send type.format
    { method := .put
      path := objectPath type.kind ns name
      query := [("fieldManager", fieldManager)]
      payload := some (wholePayload type resource) }

/-- Take over the status of an object. -/
def applyStatus (type : ResourceType σ τ) (ns name : String) (status : Json) :
    ApiAction (Resource σ τ) := do
  requireName name
  send type.format
    { method := .patch
      path := objectPath type.kind ns name ++ "/status"
      query := [("fieldManager", fieldManager), ("force", "true")]
      payload := some
        { contentType := "application/apply-patch+yaml"
          document := .obj (type.header ++ [("status", status)]) } }

/-- A page of a list: some objects, and the token for the next page, if more follow. -/
structure Page (α : Type) where
  token : Option String
  items : List α

/-- The items of a page, which may be null where there are none. -/
def itemsFormat (items : Format α) : Format (List α) :=
  let list := Format.list items
  { list with
    decode := fun
      | .null => .ok []
      | document => list.decode document
    scan := .orNull list.scan }

/-- How pages are read.  An empty token is none. -/
def pageFormat (items : Format α) : Format (Page α) :=
  .recordOf .gathering "ObjectList"
    ((Fields.start (fun (metadata : ListMeta) items =>
        Page.mk (metadata.token.filter (!·.isEmpty)) items))
      |>.and (.defaulted "metadata" none ListMeta.format {}
        (fun page => { token := page.token }))
      |>.and (.mandatory "items" none (itemsFormat items) Page.items))

/-- Read a page of the objects of a collection. -/
def listPage (type : ResourceType σ τ) (ns : String) (token : Option String) :
    ApiAction (Page (Resource σ τ)) :=
  send (pageFormat type.format)
    { method := .get
      path := collectionPath type.kind ns
      query := (token.map (fun token => ("continue", token))).toList ++
        [("limit", toString pageLimit)] }

/-- Collect the items of all pages, from the page with a token on, `fuel` pages at most. -/
def collectPages (fetch : Option String → ApiAction (Page α)) :
    Nat → Option String → ApiAction (List α)
  | 0, _ => throw .uncountablePages
  | fuel + 1, token => do
      let page ← fetch token
      match page.token with
      | none => pure page.items
      | some token =>
          let rest ← collectPages fetch fuel (some token)
          pure (page.items ++ rest)

/-- The first number of pages that the count of them does not hold. -/
def pageCountLimit : Nat := 4294967296

/-- Read all objects of a collection, page by page. -/
def listAll (type : ResourceType σ τ) (ns : String) : ApiAction (List (Resource σ τ)) :=
  collectPages (listPage type ns) (pageCountLimit - 1) none

/-- The reason of a failure that says that an object does not exist. -/
def absentReason : String := "NotFound"

/-- Whether a failure says that an object does not exist; its code alone does not. -/
def saysAbsent : Cause → Bool
  | .api status => status.reason = absentReason
  | _ => false

/-- Read an object that need not exist. -/
def getOptional (type : ResourceType σ τ) (ns name : String) : ApiAction (Option (Resource σ τ)) :=
  ExceptT.mk ((get type ns name).run.bind (fun answer =>
    .done
      (match answer with
      | .ok resource => .ok (some resource)
      | .error cause => if saysAbsent cause then .ok none else .error cause)))

/--
Make an object as it is wanted: create it where it does not exist, and else replace it, unless it is
as wanted already.  The replacement carries the version that was read, so that a server can refuse
it when the object has changed since.
-/
def createOrReplace (type : ResourceType σ τ) (ns name : String) (blank : σ)
    (change : Resource σ τ → Resource σ τ) : ApiAction UpsertOutcome := do
  match ← getOptional type ns name with
  | none =>
      let fresh : Resource σ τ :=
        { metadata := { name := some name, ns := some ns }, spec := blank, status := none }
      let _ ← create type ns (change fresh)
      pure .created
  | some current =>
      let desired := change current
      if type.needsWrite current desired then
        let _ ← replace type ns name desired
        pure .updated
      else
        pure .unchanged

end Client

end NodeIdentity
