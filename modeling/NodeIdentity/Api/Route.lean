import NodeIdentity.Api.Client

/-!
# Routes

What the path of a request leads to at an API server.  The path is cut at every slash, so a name
with a slash in it leads elsewhere than its author meant, mostly nowhere.
-/

namespace NodeIdentity

/-- What a path leads to. -/
inductive Route
  /-- The objects of a kind in all namespaces. -/
  | everywhere (kind : Kind)
  /-- The objects of a kind in a namespace. -/
  | collection (kind : Kind) (ns : String)
  | object (kind : Kind) (ns name : String)
  | status (kind : Kind) (ns name : String)
deriving DecidableEq, Repr

namespace Route

/-- The parts of a path between its slashes. -/
def segments : List Char → List (List Char)
  | [] => [[]]
  | c :: rest =>
      if c = '/' then [] :: segments rest
      else
        match segments rest with
        | [] => [[c]]
        | segment :: others => (c :: segment) :: others

/-- What the parts of a path behind the version lead to. -/
def ofParts? : List String → Option Route
  | [plural] => (Kind.ofPlural? plural).map .everywhere
  | ["namespaces", ns, plural] => (Kind.ofPlural? plural).map (.collection · ns)
  | ["namespaces", ns, plural, name] => (Kind.ofPlural? plural).map (.object · ns name)
  | ["namespaces", ns, plural, name, "status"] => (Kind.ofPlural? plural).map (.status · ns name)
  | _ => none

/-- What a path leads to, if it leads anywhere. -/
def ofPath? (path : String) : Option Route :=
  match (segments path.toList).map String.ofList with
  | "" :: "apis" :: group :: version :: parts =>
      if group = apiGroup ∧ version = apiVersionName then ofParts? parts else none
  | _ => none

end Route

end NodeIdentity
