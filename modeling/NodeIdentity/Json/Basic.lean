import NodeIdentity.Number.Decimal

/-!
# Documents

The values of JSON documents, with equality decided member by member, and the operations on the
members of an object.  A number is either an integer or, when it was written with a fraction, an
exponent or out of the integers' range, the decimal it is held as.
-/

namespace NodeIdentity

/-- A JSON document. -/
inductive Json
  | null
  | bool (value : Bool)
  | int (value : Int)
  | float (value : Decimal)
  | str (value : String)
  | arr (items : List Json)
  | obj (members : List (String × Json))
deriving Inhabited, Repr

namespace Json

mutual

/-- Equality of documents. -/
def decEq : (a b : Json) → Decidable (a = b)
  | .null, .null => .isTrue rfl
  | .bool a, .bool b => decidable_of_iff (a = b) (by simp)
  | .int a, .int b => decidable_of_iff (a = b) (by simp)
  | .float a, .float b => decidable_of_iff (a = b) (by simp)
  | .str a, .str b => decidable_of_iff (a = b) (by simp)
  | .arr a, .arr b =>
      match decEqItems a b with
      | .isTrue h => .isTrue (by rw [h])
      | .isFalse h => .isFalse (by simpa using h)
  | .obj a, .obj b =>
      match decEqMembers a b with
      | .isTrue h => .isTrue (by rw [h])
      | .isFalse h => .isFalse (by simpa using h)
  | .null, .bool _ | .null, .int _ | .null, .float _ | .null, .str _ | .null, .arr _
  | .null, .obj _ | .bool _, .null | .bool _, .int _ | .bool _, .float _ | .bool _, .str _
  | .bool _, .arr _ | .bool _, .obj _ | .int _, .null | .int _, .bool _ | .int _, .float _
  | .int _, .str _ | .int _, .arr _ | .int _, .obj _ | .float _, .null | .float _, .bool _
  | .float _, .int _ | .float _, .str _ | .float _, .arr _ | .float _, .obj _ | .str _, .null
  | .str _, .bool _ | .str _, .int _ | .str _, .float _ | .str _, .arr _ | .str _, .obj _
  | .arr _, .null | .arr _, .bool _ | .arr _, .int _ | .arr _, .float _ | .arr _, .str _
  | .arr _, .obj _ | .obj _, .null | .obj _, .bool _ | .obj _, .int _ | .obj _, .float _
  | .obj _, .str _ | .obj _, .arr _ => .isFalse (by simp)

/-- Equality of the items of two arrays. -/
def decEqItems : (a b : List Json) → Decidable (a = b)
  | [], [] => .isTrue rfl
  | [], _ :: _ | _ :: _, [] => .isFalse (by simp)
  | a :: as, b :: bs =>
      match decEq a b, decEqItems as bs with
      | .isTrue h, .isTrue hs => .isTrue (by rw [h, hs])
      | .isFalse h, _ => .isFalse (by simp [h])
      | _, .isFalse hs => .isFalse (by simp [hs])

/-- Equality of the members of two objects, which includes their order. -/
def decEqMembers : (a b : List (String × Json)) → Decidable (a = b)
  | [], [] => .isTrue rfl
  | [], _ :: _ | _ :: _, [] => .isFalse (by simp)
  | (m, a) :: as, (n, b) :: bs =>
      match decEq a b, decEqMembers as bs with
      | .isTrue h, .isTrue hs =>
          if hm : m = n then .isTrue (by rw [hm, h, hs]) else .isFalse (by simp [hm])
      | .isFalse h, _ => .isFalse (by simp [h])
      | _, .isFalse hs => .isFalse (by simp [hs])

end

instance : DecidableEq Json := decEq

/-- Put a member into a list of members that ascends by name, replacing one of its name. -/
def insertMember (name : String) (value : Json) : List (String × Json) → List (String × Json)
  | [] => [(name, value)]
  | member :: rest =>
      if name < member.1 then (name, value) :: member :: rest
      else if name = member.1 then (name, value) :: rest
      else member :: insertMember name value rest

/-- An object whose members ascend by name; of several with one name the last counts. -/
def object (members : List (String × Json)) : Json :=
  .obj (members.foldl (fun sorted member => insertMember member.1 member.2 sorted) [])

/-- The members of an object; nothing else has any. -/
def members : Json → List (String × Json)
  | .obj members => members
  | _ => []

/-- The member of an object with a name. -/
def member? (document : Json) (name : String) : Option Json :=
  document.members.lookup name

/-- The document found by following member names from object to object. -/
def path? (document : Json) : List String → Option Json
  | [] => some document
  | name :: rest => (document.member? name).bind (·.path? rest)

/-- The document with a member removed. -/
def eraseMember (document : Json) (name : String) : Json :=
  .obj (document.members.filter (fun member => member.1 != name))

/-- The document with a member set, in place of any that had its name. -/
def setMember (document : Json) (name : String) (value : Json) : Json :=
  .obj (insertMember name value (document.eraseMember name).members)

/-- The document with a member set, or removed where there is no value. -/
def putMember (document : Json) (name : String) : Option Json → Json
  | some value => document.setMember name value
  | none => document.eraseMember name

mutual

/-- The document with the members of all objects in ascending order. -/
def canonical : Json → Json
  | .arr items => .arr (canonicalItems items)
  | .obj members => object (canonicalMembers members)
  | document => document

/-- The items with the members of all objects in ascending order. -/
def canonicalItems : List Json → List Json
  | [] => []
  | item :: items => item.canonical :: canonicalItems items

/-- The members with those of all objects in them in ascending order. -/
def canonicalMembers : List (String × Json) → List (String × Json)
  | [] => []
  | (name, value) :: members => (name, value.canonical) :: canonicalMembers members

end

/-- The text of a string document. -/
def asText? : Json → Option String
  | .str value => some value
  | _ => none

end Json

end NodeIdentity
