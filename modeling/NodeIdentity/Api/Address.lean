import NodeIdentity.Api.Script
import NodeIdentity.Failure
import NodeIdentity.Text.FormEncoded

/-!
# Addresses

Names and namespaces stand in an address as they are.  So a request may be written with an address
that cannot be, which is refused, or with one in which a mark means something else: a question mark
ends the path, and a hash sign ends the whole address, the parameters of the request included.
-/

namespace NodeIdentity

namespace Address

/-- How many bytes an address has at most. -/
def byteLimit : Nat := 65534

/-- Whether a character may stand in a path. -/
def isPathChar (c : Char) : Bool :=
  0x20 < c.toNat && c.toNat ≠ 0x7F && c ∉ ['#', '?', '<', '>', '\x60']

/-- Whether a character may stand behind the question mark that ends a path. -/
def isQueryChar (c : Char) : Bool :=
  0x20 < c.toNat && c.toNat ≠ 0x7F && c ∉ ['"', '#', '<', '>']

/-- What counts of an address as it is written. -/
def counted (text : List Char) : List Char :=
  text.takeWhile (· ≠ '#')

/-- The path of an address. -/
def path (text : List Char) : List Char :=
  (counted text).takeWhile (· ≠ '?')

/-- What stands behind the question mark that ends the path, if there is one. -/
def behind? (text : List Char) : Option (List Char) :=
  match (counted text).dropWhile (· ≠ '?') with
  | [] => none
  | _ :: rest => some rest

/-- Whether a text stands in a path with every character meaning itself. -/
def isPlain (text : String) : Bool :=
  text.toList.all isPathChar

/-- A parameter with its value, both encoded, as it stands behind a path. -/
def parameter (entry : String × String) : List Char :=
  '&' :: (Text.formEncoded entry.1).toList ++ '=' :: (Text.formEncoded entry.2).toList

/-- All parameters as they stand behind a path. -/
def parameters (query : List (String × String)) : List Char :=
  if query.isEmpty then [] else '?' :: query.flatMap parameter

end Address

namespace ApiRequest

/-- The address as it is written. -/
def address (request : ApiRequest) : String :=
  request.path ++ String.ofList (Address.parameters request.query)

/-- Why a request cannot be built, if it cannot. -/
def fault? (request : ApiRequest) : Option Cause :=
  let text := request.address.toList
  if Address.byteLimit < request.address.utf8ByteSize then some .addressTooLong
  else if (Address.path text).all Address.isPathChar &&
      ((Address.behind? text).getD []).all Address.isQueryChar then none
  else some .invalidAddress

/-- A request as it goes out: what counts of its address. -/
def outgoing (request : ApiRequest) : ApiRequest :=
  let text := request.path.toList
  { request with
    path := String.ofList (Address.path text)
    stray := (Address.behind? text).map String.ofList
    query := if text.contains '#' then [] else request.query }

end ApiRequest

end NodeIdentity
