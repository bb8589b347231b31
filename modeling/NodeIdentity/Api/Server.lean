import NodeIdentity.Api.Objects
import NodeIdentity.Api.Route

/-!
# API server

An API server that stores objects.  Every store of an object gets a revision of its own, which the
object carries as its version, so that a replacement that was made from an older version is refused.
A status is kept by replacements of the object, and written by requests of its own.

Beside the requests of clients there are steps of others: they store, delete and report, and they
can arrange for faults, by which requests fail or meet a race with further steps.
-/

namespace NodeIdentity

mutual

/-- Something that happens at a server beside the requests of its clients. -/
inductive ServerStep
  /-- Store an object under the key that it states. -/
  | put (object : Json)
  /-- Report a status of an object, or take it away. -/
  | setStatus (key : ObjectKey) (status : Option Json)
  | delete (key : ObjectKey)
  /-- Choose how many objects a page holds, none meaning no bound, and how its last one ends. -/
  | paging (size : Nat) (blankToken : Bool)
  | clearFaults
  /-- Arrange a fault for the requests whose line contains a text. -/
  | fault (needle : String) (effect : FaultEffect) (skip times : Nat)

/-- What happens to a request that meets a fault. -/
inductive FaultEffect
  /-- It is answered with a failure. -/
  | status (code : Nat) (reason message : String)
  /-- It is answered with a code and a text. -/
  | raw (code : Nat) (body : String)
  /-- It does not reach the server. -/
  | unreachable (words : String)
  /-- It is served after some steps of others. -/
  | race (steps : List ServerStep)

end

/-- A fault that waits for requests. -/
structure Fault where
  /-- A text that the line of a request must contain. -/
  needle : String
  effect : FaultEffect
  /-- How many matching requests pass before the first that meets the fault. -/
  skip : Nat
  /-- How many requests are still to meet the fault. -/
  times : Nat

/-- A request that was sent, and its answer. -/
structure Exchange where
  request : ApiRequest
  answer : ApiAnswer

/-- An API server. -/
structure Server where
  objects : ObjectTable := ∅
  /-- How many times an object was stored. -/
  revision : Nat := 0
  /-- How many objects a page holds at most; no bound if zero. -/
  pageSize : Nat := 0
  /-- Whether the last page carries an empty token rather than none. -/
  blankToken : Bool := false
  faults : List Fault := []
  /-- All requests and answers, in order. -/
  exchanges : List Exchange := []
  /-- The objects that were stored or deleted, in order. -/
  events : List Json := []

/-- What a step comes to. -/
inductive StepResult
  /-- An object was stored at a revision. -/
  | stored (revision : Nat)
  /-- There is no such object. -/
  | missing
  | deleted (found : Bool)
  /-- So many faults are arranged. -/
  | faults (count : Nat)
  | done
deriving DecidableEq, Repr

namespace Server

/-- The version that an object carries. -/
def versionOf (object : Json) : Option Json :=
  object.path? ["metadata", "resourceVersion"]

/-- An object with its version set. -/
def stamp (object : Json) (revision : Nat) : Json :=
  object.setMember "metadata"
    (((object.member? "metadata").getD .null).setMember "resourceVersion"
      (.str (toString revision)))

/-- Store an object under a key. -/
def store (server : Server) (key : ObjectKey) (object : Json) : Json × Server :=
  let revision := server.revision + 1
  let stored := stamp object revision
  (stored,
    { server with
      objects := server.objects.put key stored
      revision := revision
      events := server.events ++ [stored] })

/-- Take a step. -/
def step (server : Server) : ServerStep → StepResult × Server
  | .put object =>
      let (_, server) := server.store (.ofObject object) object
      (.stored server.revision, server)
  | .setStatus key status =>
      match server.objects.find? key with
      | none => (.missing, server)
      | some object =>
          let (_, server) := server.store key (object.putMember "status" status)
          (.stored server.revision, server)
  | .delete key =>
      match server.objects.find? key with
      | none => (.deleted false, server)
      | some object =>
          (.deleted true,
            { server with
              objects := server.objects.remove key
              events := server.events ++ [object] })
  | .paging size blankToken => (.done, { server with pageSize := size, blankToken := blankToken })
  | .clearFaults => (.faults 0, { server with faults := [] })
  | .fault needle effect skip times =>
      let faults := server.faults ++ [⟨needle, effect, skip, times⟩]
      (.faults faults.length, { server with faults := faults })

/-- Take steps in order. -/
def steps (server : Server) (list : List ServerStep) : Server :=
  list.foldl (fun server next => (server.step next).2) server

/-- The answer that reports a failure; an empty reason or message is left out. -/
def failure (code : Nat) (reason message : String) : ApiAnswer :=
  let text (name value : String) : List (String × Json) :=
    if value.isEmpty then [] else [(name, .str value)]
  .response code (.document (.object
    ([("status", .str "Failure"), ("code", .int code)] ++ text "reason" reason ++
      text "message" message)))

/-- An object as failures speak of it. -/
def objectText (kind : Kind) (name : String) : String :=
  kind.plural ++ "." ++ apiGroup ++ " \"" ++ name ++ "\""

/-- The answer that there is no such object. -/
def notFound (kind : Kind) (name : String) : ApiAnswer :=
  failure 404 "NotFound" (objectText kind name ++ " not found")

/-- The answer that there is such an object already. -/
def alreadyExists (kind : Kind) (name : String) : ApiAnswer :=
  failure 409 "AlreadyExists" (objectText kind name ++ " already exists")

/-- The answer that the object is not what the request was made from. -/
def conflict (kind : Kind) (name : String) : ApiAnswer :=
  failure 409 "Conflict"
    ("Operation cannot be fulfilled on " ++ objectText kind name ++
      ": the object has been modified; please apply your changes to the latest version and try " ++
      "again")

/-- The number that a decimal text states. -/
def number? (text : String) : Option Nat :=
  if text.isEmpty || !text.toList.all Char.isDigit then none
  else some (text.toList.foldl (fun n c => 10 * n + (c.toNat - 48)) 0)

/-- The place in a list from which a token goes on. -/
def offsetOf (token : String) : Nat :=
  match token.toList with
  | 'c' :: digits => (number? (String.ofList digits)).getD 0
  | _ => 0

/-- How many of `count` objects a page holds at most, if a request asks for no more than `limit`. -/
def pageBound (server : Server) (limit : Option Nat) (count : Nat) : Nat :=
  let own := if server.pageSize = 0 then count else server.pageSize
  match limit with
  | some limit => min limit own
  | none => own

/-- Answer with a page of some objects of a kind. -/
def page (server : Server) (kind : Kind) (query : List (String × String))
    (objects : List Json) : ApiAnswer :=
  let offset := ((query.lookup "continue").map offsetOf).getD 0
  let rest := objects.drop offset
  let bound := server.pageBound ((query.lookup "limit").bind number?) rest.length
  let items := rest.take bound
  let token : List (String × Json) :=
    if items.length < rest.length then
      [("continue", .str ("c" ++ toString (offset + items.length)))]
    else if server.blankToken then [("continue", .str "")]
    else []
  .response 200 (.document (.object
    [("apiVersion", .str apiVersion),
      ("kind", .str (kind.name ++ "List")),
      ("metadata", .object (("resourceVersion", .str (toString server.revision)) :: token)),
      ("items", .arr items)]))

/-- Create the object that a request carries, under the name that it states. -/
def create (server : Server) (kind : Kind) (ns : String) (object : Json) : ApiAnswer × Server :=
  let key : ObjectKey := ⟨kind.name, ns, (ObjectKey.ofObject object).name⟩
  match server.objects.find? key with
  | some _ => (alreadyExists kind key.name, server)
  | none =>
      let (stored, server) := server.store key object
      (.response 201 (.document stored), server)

/-- Replace an object by the one that a request carries, but keep the stored status. -/
def replace (server : Server) (kind : Kind) (ns name : String) (object : Json) :
    ApiAnswer × Server :=
  let key : ObjectKey := ⟨kind.name, ns, name⟩
  match server.objects.find? key with
  | none => (notFound kind name, server)
  | some current =>
      if (versionOf object).isSome ∧ versionOf object ≠ versionOf current then
        (conflict kind name, server)
      else
        let (stored, server) := server.store key (object.putMember "status" (current.member? "status"))
        (.response 200 (.document stored), server)

/-- Replace the status of an object by that of the one that a request carries. -/
def replaceStatus (server : Server) (kind : Kind) (ns name : String) (object : Json) :
    ApiAnswer × Server :=
  let key : ObjectKey := ⟨kind.name, ns, name⟩
  match server.objects.find? key with
  | none => (notFound kind name, server)
  | some current =>
      let (stored, server) := server.store key (current.putMember "status" (object.member? "status"))
      (.response 200 (.document stored), server)

/-- Answer a request that meets no fault. -/
def answer (server : Server) (request : ApiRequest) : ApiAnswer × Server :=
  let object := (request.payload.map (·.document)).getD .null
  match request.method, Route.ofPath? request.path with
  | .get, some (.everywhere kind) =>
      (server.page kind request.query (ObjectTable.flatten (server.objects.ofKind kind.name)), server)
  | .get, some (.collection kind ns) =>
      (server.page kind request.query ((server.objects.within kind.name ns).toList.map (·.2)), server)
  | .get, some (.object kind ns name) =>
      match server.objects.find? ⟨kind.name, ns, name⟩ with
      | some stored => (.response 200 (.document stored), server)
      | none => (notFound kind name, server)
  | .post, some (.collection kind ns) => server.create kind ns object
  | .put, some (.object kind ns name) => server.replace kind ns name object
  | .patch, some (.status kind ns name) => server.replaceStatus kind ns name object
  | _, _ => (.response 404 (.text "404 page not found"), server)

/-- Whether a text occurs in another. -/
def occursIn (needle : List Char) : List Char → Bool
  | [] => needle.isEmpty
  | c :: rest => needle.isPrefixOf (c :: rest) || occursIn needle rest

/--
The fault that a request meets, and the faults as it leaves them: of the matching ones, those that
are to be skipped are counted down, and the first of the others that is not used up is met.
-/
def meet (line : String) : List Fault → Option FaultEffect × List Fault
  | [] => (none, [])
  | fault :: rest =>
      if !occursIn fault.needle.toList line.toList then
        let (effect, rest) := meet line rest
        (effect, fault :: rest)
      else if fault.skip > 0 then
        let (effect, rest) := meet line rest
        (effect, { fault with skip := fault.skip - 1 } :: rest)
      else if fault.times > 0 then
        (some fault.effect, { fault with times := fault.times - 1 } :: rest)
      else
        let (effect, rest) := meet line rest
        (effect, fault :: rest)

/-- Answer a request with the effect of the fault that it meets. -/
def answerWith (server : Server) (request : ApiRequest) :
    Option FaultEffect → ApiAnswer × Server
  | none => server.answer request
  | some (.status code reason message) => (failure code reason message, server)
  | some (.raw code body) => (.response code (.text body), server)
  | some (.unreachable words) => (.unreachable words, server)
  | some (.race steps) => (server.steps steps).answer request

/-- Answer a request, and note it. -/
def serve (request : ApiRequest) (server : Server) : ApiAnswer × Server :=
  let (effect, faults) := meet request.line server.faults
  let (answer, server) := { server with faults := faults }.answerWith request effect
  (answer, { server with exchanges := server.exchanges ++ [⟨request, answer⟩] })

end Server

end NodeIdentity
