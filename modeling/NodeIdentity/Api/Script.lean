import NodeIdentity.Json.Writer

/-!
# Scripts over an API server

The requests that are sent to an API server and its answers, as data, and programs that send them.
A script is either done, or sends one request and goes on with the answer, so scripts of several
clients can be interleaved request by request.
-/

namespace NodeIdentity

/-- What a request is to do. -/
inductive Method
  | get
  | post
  | put
  | patch
deriving DecidableEq, Repr

/-- The name of a method. -/
def Method.name : Method → String
  | .get => "GET"
  | .post => "POST"
  | .put => "PUT"
  | .patch => "PATCH"

/-- The document that a request carries, and what it says it is. -/
structure Payload where
  contentType : String
  document : Json
deriving DecidableEq

/-- A request to an API server. -/
structure ApiRequest where
  method : Method
  path : String
  /-- Text in front of the parameters, which was written into the path behind a question mark. -/
  stray : Option String := none
  /-- The parameters behind the path, ascending by name. -/
  query : List (String × String) := []
  payload : Option Payload := none
deriving DecidableEq

/-- The method and the path of a request. -/
def ApiRequest.line (request : ApiRequest) : String :=
  request.method.name ++ " " ++ request.path

/-- What an answer carries: a document, or a text that may or may not be one. -/
inductive Body
  | document (value : Json)
  | text (words : String)
deriving DecidableEq

/-- The text that is sent; the members of a document ascend in it. -/
def Body.words : Body → String
  | .document value => value.canonical.compact
  | .text words => words

/-- The answer to a request, or that the server could not be reached. -/
inductive ApiAnswer
  | response (code : Nat) (body : Body)
  | unreachable (words : String)
deriving DecidableEq

/-- A program that sends requests to an API server. -/
inductive ApiScript (α : Type)
  | done (value : α)
  | send (request : ApiRequest) (next : ApiAnswer → ApiScript α)

namespace ApiScript

variable {α β : Type}

/-- Go on with the value at which a script is done. -/
def bind : ApiScript α → (α → ApiScript β) → ApiScript β
  | done value, f => f value
  | send request next, f => send request (fun answer => (next answer).bind f)

instance : Monad ApiScript where
  pure := done
  bind := bind

/-- Run a script on a state, with a function that answers requests. -/
def run {σ : Type} (serve : ApiRequest → σ → ApiAnswer × σ) : ApiScript α → σ → α × σ
  | done value, state => (value, state)
  | send request next, state =>
      let (answer, state) := serve request state
      run serve (next answer) state

/-- The requests that a script sends, with their answers, in order. -/
def trace {σ : Type} (serve : ApiRequest → σ → ApiAnswer × σ) :
    ApiScript α → σ → List (ApiRequest × ApiAnswer)
  | done _, _ => []
  | send request next, state =>
      let (answer, state) := serve request state
      (request, answer) :: trace serve (next answer) state

end ApiScript

end NodeIdentity
