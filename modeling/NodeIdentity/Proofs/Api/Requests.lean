import NodeIdentity.Api.Client
import NodeIdentity.Proofs.Api.Addresses
import NodeIdentity.Proofs.Api.Execution

/-!
# Requests of the client

Each operation on an object sends one request, or none where the object has no name or the request
cannot be built.  Whether to create or to replace depends on what a read found, so an upsert sends a
read, and behind it at most one write.  The requests are given as they are written; they go out so
where no mark in a name or a namespace ends an address.
-/

namespace NodeIdentity.Client

variable {σ τ α β : Type}

/-! ## Requests -/

/-- The request that reads an object. -/
def readRequest (kind : Kind) (ns name : String) : ApiRequest where
  method := .get
  path := objectPath kind ns name

/-- The request that creates an object. -/
def createRequest (type : ResourceType σ τ) (ns : String) (resource : Resource σ τ) :
    ApiRequest where
  method := .post
  path := collectionPath type.kind ns
  query := [("fieldManager", fieldManager)]
  payload := some (wholePayload type resource)

/-- The request that replaces an object. -/
def replaceRequest (type : ResourceType σ τ) (ns name : String) (resource : Resource σ τ) :
    ApiRequest where
  method := .put
  path := objectPath type.kind ns name
  query := [("fieldManager", fieldManager)]
  payload := some (wholePayload type resource)

/-- The request that takes over a status. -/
def statusRequest (type : ResourceType σ τ) (ns name : String) (status : Json) : ApiRequest where
  method := .patch
  path := objectPath type.kind ns name ++ "/status"
  query := [("fieldManager", fieldManager), ("force", "true")]
  payload := some
    { contentType := "application/apply-patch+yaml"
      document := .obj (type.header ++ [("status", status)]) }

/-- The request for a page of a list. -/
def pageRequest (kind : Kind) (ns : String) (token : Option String) : ApiRequest where
  method := .get
  path := collectionPath kind ns
  query := (token.map (fun token => ("continue", token))).toList ++ [("limit", toString pageLimit)]

/-- The request for a page of a list as it goes out. -/
def pageSent (kind : Kind) (ns : String) (token : Option String) : ApiRequest :=
  (pageRequest kind ns token).outgoing

/-- A request that reads an object, whatever stands behind its path. -/
structure IsReadOf (request : ApiRequest) (kind : Kind) (ns name : String) : Prop where
  method : request.method = .get
  path : request.path = objectPath kind ns name

/-- A request that creates an object, whatever stands behind its path. -/
structure IsCreateOf (request : ApiRequest) (type : ResourceType σ τ) (ns : String)
    (resource : Resource σ τ) : Prop where
  method : request.method = .post
  path : request.path = collectionPath type.kind ns
  payload : request.payload = some (wholePayload type resource)

/-- A request that replaces an object, whatever stands behind its path. -/
structure IsReplaceOf (request : ApiRequest) (type : ResourceType σ τ) (ns name : String)
    (resource : Resource σ τ) : Prop where
  method : request.method = .put
  path : request.path = objectPath type.kind ns name
  payload : request.payload = some (wholePayload type resource)

/-- Why a request about an object with a name is not sent, if it is not. -/
def refusal? (name : String) (request : ApiRequest) : Option Cause :=
  if name.isEmpty then some (.invalidRequest "A non-empty name is required") else request.fault?

/-- Send a request about an object with a name, unless it is refused, and read the answer. -/
def sendNamed (format : Format α) (name : String) (request : ApiRequest) :
    ApiScript (Except Cause α) :=
  match refusal? name request with
  | some cause => .done (.error cause)
  | none => .send request.outgoing (fun answer => .done (readAnswer format answer))

theorem readAnswer_document {format : Format α} {code : Nat} {document : Json} {value : α}
    (hcode : isFailure code = false) (decodes : format.decode document = .ok value) :
    readAnswer format (.response code (.document document)) = .ok value := by
  have hread : readAs format (.document document) = .ok value := by simp [readAs, decodes]
  have hbody : readBody format (.document document) = .ok value := by
    unfold readBody
    rw [hread]
    rfl
  simp [readAnswer, hcode, hbody]

/-! ## Addresses -/

theorem toList_plural (kind : Kind) :
    kind.plural.toList = kind.name.toList.map Char.toLower ++ ['s'] := by
  have hlower : kind.name.toLower = kind.name.map Char.toLower := rfl
  simp [Kind.plural, Kind.singular, hlower]

/-- The address of a collection is plain exactly where its namespace is. -/
theorem isPlain_collectionPath (kind : Kind) (ns : String) :
    Address.isPlain (collectionPath kind ns) = Address.isPlain ns := by
  have hgroup :
      ("/apis/" ++ apiVersion ++ "/namespaces/").toList.all Address.isPathChar = true := by
    decide
  have hkind : kind.plural.toList.all Address.isPathChar = true := by
    rw [toList_plural]
    cases kind <;> decide
  have hslash : "/".toList.all Address.isPathChar = true := by decide
  simp only [String.toList_append, List.all_append] at hgroup
  simp only [Address.isPlain, collectionPath, String.toList_append, List.all_append, hgroup, hkind,
    hslash, Bool.true_and, Bool.and_true]

theorem isPlain_objectPath (kind : Kind) (ns name : String) :
    Address.isPlain (objectPath kind ns name) = (Address.isPlain ns && Address.isPlain name) := by
  have hslash : "/".toList.all Address.isPathChar = true := by decide
  have hcollection := isPlain_collectionPath kind ns
  simp only [Address.isPlain] at hcollection ⊢
  rw [objectPath, String.toList_append, String.toList_append, List.all_append, List.all_append,
    hcollection, hslash, Bool.and_true]

theorem plural_bytes (kind : Kind) : kind.plural.utf8ByteSize ≤ 14 := by
  rw [← String.ofList_toList (s := kind.plural), toList_plural]
  cases kind <;> decide

/-- How much an address of a collection has beside its namespace. -/
theorem collectionPath_bytes (kind : Kind) (ns : String) :
    (collectionPath kind ns).utf8ByteSize ≤ ns.utf8ByteSize + 62 := by
  have hgroup : ("/apis/" ++ apiVersion ++ "/namespaces/").utf8ByteSize = 47 := by decide
  have hslash : "/".utf8ByteSize = 1 := by decide
  have hkind := plural_bytes kind
  rw [collectionPath, String.utf8ByteSize_append, String.utf8ByteSize_append,
    String.utf8ByteSize_append, hgroup, hslash]
  omega

/-- The address of the write of an object, the longest of the addresses about it. -/
def writeAddress (kind : Kind) (ns name : String) : String :=
  objectPath kind ns name ++ String.ofList (Address.parameters [("fieldManager", fieldManager)])

/-- All requests about an object can be sent, and go out as they are written. -/
structure Reachable (kind : Kind) (ns name : String) : Prop where
  named : name ≠ ""
  place : Address.isPlain ns = true
  plain : Address.isPlain name = true
  short : (writeAddress kind ns name).utf8ByteSize ≤ Address.byteLimit

/-- Beside a namespace and a name, no address about an object needs more than 96 bytes. -/
theorem reachable_of_short {kind : Kind} {ns name : String} (named : name ≠ "")
    (place : Address.isPlain ns = true) (plain : Address.isPlain name = true)
    (short : ns.utf8ByteSize + name.utf8ByteSize + 96 ≤ Address.byteLimit) :
    Reachable kind ns name := by
  have hcollection := collectionPath_bytes kind ns
  have hslash : "/".utf8ByteSize = 1 := by decide
  have hwriter :
      (String.ofList (Address.parameters [("fieldManager", fieldManager)])).utf8ByteSize = 33 := by
    decide
  refine ⟨named, place, plain, ?_⟩
  rw [writeAddress, objectPath, String.utf8ByteSize_append, String.utf8ByteSize_append,
    String.utf8ByteSize_append, hwriter, hslash]
  omega

/-- Beside its namespace and its parameters, no address of a collection needs more than 62 bytes. -/
theorem pageRequest_accepted {kind : Kind} {ns : String} {token : Option String}
    (place : Address.isPlain ns = true)
    (short : ns.utf8ByteSize + (String.ofList (Address.parameters
      (pageRequest kind ns token).query)).utf8ByteSize + 62 ≤ Address.byteLimit) :
    (pageRequest kind ns token).fault? = none := by
  have hcollection := collectionPath_bytes kind ns
  refine ApiRequest.fault?_of_plain ((isPlain_collectionPath _ _).trans place) ?_
  rw [ApiRequest.address, String.utf8ByteSize_append]
  show (collectionPath kind ns).utf8ByteSize + _ ≤ _
  omega

theorem refusal?_of_named {name : String} (named : name ≠ "") (request : ApiRequest) :
    refusal? name request = request.fault? := by
  rw [refusal?, if_neg (by simpa using named)]

section Unmarked

variable {kind : Kind} {ns name : String} {type : ResourceType σ τ}
  (place : Address.Unmarked ns.toList) (named : Address.Unmarked name.toList)

include place

theorem unmarked_collectionPath (kind : Kind) :
    Address.Unmarked (collectionPath kind ns).toList := by
  have hgroup : Address.Unmarked ("/apis/" ++ apiVersion ++ "/namespaces/").toList := by decide
  have hslash : Address.Unmarked "/".toList := by decide
  have hkind : Address.Unmarked kind.plural.toList := by
    rw [toList_plural]
    cases kind <;> decide
  rw [collectionPath, String.toList_append, String.toList_append, String.toList_append]
  exact ((hgroup.append place).append hslash).append hkind

theorem createRequest_outgoing (resource : Resource σ τ) :
    (createRequest type ns resource).outgoing = createRequest type ns resource :=
  ApiRequest.outgoing_of_unmarked (unmarked_collectionPath place type.kind) rfl

include named

theorem unmarked_objectPath (kind : Kind) :
    Address.Unmarked (objectPath kind ns name).toList := by
  have hslash : Address.Unmarked "/".toList := by decide
  rw [objectPath, String.toList_append, String.toList_append]
  exact ((unmarked_collectionPath place kind).append hslash).append named

theorem readRequest_outgoing :
    (readRequest kind ns name).outgoing = readRequest kind ns name :=
  ApiRequest.outgoing_of_unmarked (unmarked_objectPath place named kind) rfl

theorem replaceRequest_outgoing (resource : Resource σ τ) :
    (replaceRequest type ns name resource).outgoing = replaceRequest type ns name resource :=
  ApiRequest.outgoing_of_unmarked (unmarked_objectPath place named type.kind) rfl

theorem statusRequest_outgoing (status : Json) :
    (statusRequest type ns name status).outgoing = statusRequest type ns name status := by
  have hstatus : Address.Unmarked "/status".toList := by decide
  have hpath : Address.Unmarked (objectPath type.kind ns name ++ "/status").toList := by
    rw [String.toList_append]
    exact (unmarked_objectPath place named type.kind).append hstatus
  exact ApiRequest.outgoing_of_unmarked hpath rfl

end Unmarked

theorem pageSent_plain {ns : String} {kind : Kind} (place : Address.isPlain ns = true)
    (token : Option String) : pageSent kind ns token = pageRequest kind ns token :=
  ApiRequest.outgoing_of_unmarked (unmarked_collectionPath (.of_plain place) kind) rfl

section Plain

variable {ns name : String} (place : Address.isPlain ns = true)
  (plain : Address.isPlain name = true)

include place plain

theorem objectPath_plain (kind : Kind) : Address.isPlain (objectPath kind ns name) = true := by
  rw [isPlain_objectPath, place, plain, Bool.and_self]

theorem isPlain_statusPath (kind : Kind) :
    Address.isPlain (objectPath kind ns name ++ "/status") = true := by
  have hstatus : "/status".toList.all Address.isPathChar = true := by decide
  have hobject : (objectPath kind ns name).toList.all Address.isPathChar = true :=
    objectPath_plain place plain kind
  rw [Address.isPlain, String.toList_append, List.all_append, hobject, hstatus, Bool.and_self]

end Plain

/-- Beside a namespace and a name, no address of a status needs more than 114 bytes. -/
theorem statusRequest_accepted {type : ResourceType σ τ} {ns name : String} (named : name ≠ "")
    (place : Address.isPlain ns = true) (plain : Address.isPlain name = true)
    (short : ns.utf8ByteSize + name.utf8ByteSize + 114 ≤ Address.byteLimit) (status : Json) :
    refusal? name (statusRequest type ns name status) = none := by
  have hcollection := collectionPath_bytes type.kind ns
  have hslash : "/".utf8ByteSize = 1 := by decide
  have hstatus : "/status".utf8ByteSize = 7 := by decide
  have hparameters : (String.ofList (Address.parameters
      [("fieldManager", fieldManager), ("force", "true")])).utf8ByteSize = 44 := by
    decide
  rw [refusal?_of_named named]
  refine ApiRequest.fault?_of_plain (isPlain_statusPath place plain type.kind) ?_
  show (objectPath type.kind ns name ++ "/status" ++ String.ofList (Address.parameters
    [("fieldManager", fieldManager), ("force", "true")])).utf8ByteSize ≤ _
  rw [objectPath, String.utf8ByteSize_append, String.utf8ByteSize_append,
    String.utf8ByteSize_append, String.utf8ByteSize_append, hslash, hstatus, hparameters]
  omega

namespace Reachable

variable {kind : Kind} {ns name : String}

theorem read_outgoing (reachable : Reachable kind ns name) :
    (readRequest kind ns name).outgoing = readRequest kind ns name :=
  readRequest_outgoing (.of_plain reachable.place) (.of_plain reachable.plain)

theorem read (reachable : Reachable kind ns name) :
    refusal? name (readRequest kind ns name) = none := by
  have hshort := reachable.short
  rw [writeAddress, String.utf8ByteSize_append] at hshort
  rw [refusal?_of_named reachable.named]
  refine ApiRequest.fault?_of_plain (objectPath_plain reachable.place reachable.plain kind) ?_
  show (objectPath kind ns name ++ "").utf8ByteSize ≤ _
  rw [String.append_empty]
  omega

variable {type : ResourceType σ τ}

theorem replace (reachable : Reachable type.kind ns name) (resource : Resource σ τ) :
    refusal? name (replaceRequest type ns name resource) = none := by
  rw [refusal?_of_named reachable.named]
  exact ApiRequest.fault?_of_plain (objectPath_plain reachable.place reachable.plain type.kind)
    reachable.short

theorem create (reachable : Reachable type.kind ns name) (resource : Resource σ τ) :
    (createRequest type ns resource).fault? = none := by
  have hshort := reachable.short
  rw [writeAddress, objectPath, String.utf8ByteSize_append, String.utf8ByteSize_append,
    String.utf8ByteSize_append] at hshort
  refine ApiRequest.fault?_of_plain ((isPlain_collectionPath _ _).trans reachable.place) ?_
  show (collectionPath type.kind ns ++ String.ofList
    (Address.parameters [("fieldManager", fieldManager)])).utf8ByteSize ≤ _
  rw [String.utf8ByteSize_append]
  omega

end Reachable

/-! ## Operations -/

/-- A name is looked at before the address is. -/
private theorem requireName_send (format : Format α) (name : String) (request : ApiRequest) :
    (do
      requireName name
      send format request : ApiAction α).run = sendNamed format name request := by
  unfold requireName sendNamed refusal? send
  by_cases named : name.isEmpty
  · rw [if_pos named, if_pos named]
    rfl
  · rw [if_neg named, if_neg named]
    rfl

theorem send_run (format : Format α) {request : ApiRequest} (accepted : request.fault? = none) :
    (send format request).run =
      .send request.outgoing (fun answer => .done (readAnswer format answer)) := by
  show (match request.fault? with
    | some cause => _
    | none => _) = _
  rw [accepted]

theorem send_refused (format : Format α) {request : ApiRequest} {cause : Cause}
    (refused : request.fault? = some cause) : (send format request).run = .done (.error cause) := by
  show (match request.fault? with
    | some cause => _
    | none => _) = _
  rw [refused]

/-- A request either is refused, or goes out. -/
theorem send_cases (format : Format α) (request : ApiRequest) :
    (∃ cause, (send format request).run = .done (.error cause)) ∨
      (send format request).run =
        .send request.outgoing (fun answer => .done (readAnswer format answer)) := by
  cases fault : request.fault? with
  | some cause => exact Or.inl ⟨cause, send_refused format fault⟩
  | none => exact Or.inr (send_run format fault)

theorem sendNamed_cases (format : Format α) (name : String) (request : ApiRequest) :
    (∃ cause, sendNamed format name request = .done (.error cause)) ∨
      sendNamed format name request =
        .send request.outgoing (fun answer => .done (readAnswer format answer)) := by
  unfold sendNamed
  cases refusal? name request with
  | some cause => exact Or.inl ⟨cause, rfl⟩
  | none => exact Or.inr rfl

section Reachable

variable {type : ResourceType σ τ} {ns name : String} (reachable : Reachable type.kind ns name)

include reachable

theorem sendNamed_read :
    sendNamed type.format name (readRequest type.kind ns name) =
      .send (readRequest type.kind ns name) (fun answer =>
        .done (readAnswer type.format answer)) := by
  rw [sendNamed, reachable.read, reachable.read_outgoing]

theorem sendNamed_replace (resource : Resource σ τ) :
    sendNamed type.format name (replaceRequest type ns name resource) =
      .send (replaceRequest type ns name resource) (fun answer =>
        .done (readAnswer type.format answer)) := by
  rw [sendNamed, reachable.replace,
    replaceRequest_outgoing (.of_plain reachable.place) (.of_plain reachable.plain)]

theorem send_create (resource : Resource σ τ) :
    (send type.format (createRequest type ns resource)).run =
      .send (createRequest type ns resource) (fun answer =>
        .done (readAnswer type.format answer)) := by
  rw [send_run _ (reachable.create resource), createRequest_outgoing (.of_plain reachable.place)]

end Reachable

theorem get_run (type : ResourceType σ τ) (ns name : String) :
    (get type ns name).run = sendNamed type.format name (readRequest type.kind ns name) :=
  requireName_send ..

theorem replace_run (type : ResourceType σ τ) (ns name : String) (resource : Resource σ τ) :
    (replace type ns name resource).run =
      sendNamed type.format name (replaceRequest type ns name resource) :=
  requireName_send ..

theorem applyStatus_run (type : ResourceType σ τ) (ns name : String) (status : Json) :
    (applyStatus type ns name status).run =
      sendNamed type.format name (statusRequest type ns name status) :=
  requireName_send ..

/-! ## What operations may send -/

section Uses

open ApiScript

variable {allowed : ApiRequest → Prop}

theorem sendNamed_uses (format : Format α) (name : String) {request : ApiRequest}
    (h : allowed request.outgoing) : (sendNamed format name request).Uses allowed := by
  unfold sendNamed
  split
  · exact .done _
  · exact .send h (fun _ => .done _)

theorem send_uses (format : Format α) {request : ApiRequest} (h : allowed request.outgoing) :
    (send format request).run.Uses allowed := by
  unfold send
  split
  · exact .done _
  · exact .send h (fun _ => .done _)

/-- An action that goes on with another one sends the requests of both. -/
theorem andThen_uses {action : ApiAction α} {next : α → ApiAction β}
    (first : action.run.Uses allowed) (rest : ∀ value, (next value).run.Uses allowed) :
    (action >>= next).run.Uses allowed := by
  refine Uses.bind first (fun result => ?_)
  cases result with
  | ok value => exact rest value
  | error cause => exact .done _

theorem createOrReplace_uses (type : ResourceType σ τ) (ns name : String) (blank : σ)
    (change : Resource σ τ → Resource σ τ)
    (reads : allowed (readRequest type.kind ns name).outgoing)
    (creates : ∀ resource, allowed (createRequest type ns resource).outgoing)
    (replaces : ∀ resource, allowed (replaceRequest type ns name resource).outgoing) :
    (createOrReplace type ns name blank change).run.Uses allowed := by
  refine andThen_uses ?_ (fun found => ?_)
  · have hread : (get type ns name).run.Uses allowed := by
      rw [get_run]
      exact sendNamed_uses _ _ reads
    exact Uses.bind hread (fun _ => .done _)
  · cases found with
    | none => exact andThen_uses (send_uses _ (creates _)) (fun _ => .done _)
    | some current =>
        dsimp only
        split
        · refine andThen_uses ?_ (fun _ => .done _)
          rw [replace_run]
          exact sendNamed_uses _ _ (replaces _)
        · exact .done _

theorem collectPages_uses {fetch : Option String → ApiAction (Page α)}
    (fetches : ∀ token, (fetch token).run.Uses allowed) (fuel : Nat) (token : Option String) :
    (collectPages fetch fuel token).run.Uses allowed := by
  induction fuel generalizing token with
  | zero => exact .done _
  | succ fuel ih =>
      refine andThen_uses (fetches token) (fun page => ?_)
      cases page.token with
      | none => exact .done _
      | some token => exact andThen_uses (ih (some token)) (fun _ => .done _)

theorem listAll_uses (type : ResourceType σ τ) (ns : String)
    (pages : ∀ token, allowed (pageRequest type.kind ns token).outgoing) :
    (listAll type ns).run.Uses allowed :=
  collectPages_uses (fun token => send_uses _ (pages token)) _ none

end Uses

end NodeIdentity.Client
