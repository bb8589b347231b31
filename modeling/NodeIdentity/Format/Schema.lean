import NodeIdentity.Json.Basic

/-!
# Schemas

Structural schemas of documents: what an API server checks of an object before it stores it, and
the document in which a resource definition states it.
-/

namespace NodeIdentity

/-- The width of an integer. -/
inductive IntWidth
  | w32
  | w64
deriving DecidableEq, Repr

/-- The number of bits. -/
def IntWidth.bits : IntWidth → Nat
  | .w32 => 32
  | .w64 => 64

/-- Whether an integer of the width has a value. -/
def IntWidth.holds (width : IntWidth) (n : Int) : Bool :=
  -(Int.pow 2 (width.bits - 1)) ≤ n && n < Int.pow 2 (width.bits - 1)

/-- What a schema says beside the shape of its values. -/
structure Note where
  /-- The purpose of the values, in words. -/
  description : Option String := none
  /-- The value that stands in for a member left out. -/
  standIn : Option Json := none
  /-- Whether null is allowed in place of a value. -/
  nullable : Bool := false
deriving DecidableEq, Repr, Inhabited

/-- The shape of documents. -/
inductive Schema
  | text (note : Note)
  | truth (note : Note)
  | integer (width : IntWidth) (note : Note)
  /-- Arrays, all items of one shape. -/
  | array (items : Schema) (note : Note)
  /-- Objects with any members, all values of one shape. -/
  | dict (values : Schema) (note : Note)
  /-- Objects with the given members: name, whether it must be there, and shape. -/
  | record (members : List (String × Bool × Schema)) (note : Note)
deriving Inhabited, Repr

namespace Schema

/-- What the schema says beside the shape. -/
def note : Schema → Note
  | .text note | .truth note | .integer _ note | .array _ note | .dict _ note
  | .record _ note => note

/-- The same shape with another note. -/
def withNote (schema : Schema) (note : Note) : Schema :=
  match schema with
  | .text _ => .text note
  | .truth _ => .truth note
  | .integer width _ => .integer width note
  | .array items _ => .array items note
  | .dict values _ => .dict values note
  | .record members _ => .record members note

/-- Describe the values, unless there is nothing to say. -/
def describe (schema : Schema) (description : Option String) : Schema :=
  match description with
  | some words => schema.withNote { schema.note with description := some words }
  | none => schema

/-- Allow null in place of a value. -/
def orNull (schema : Schema) : Schema :=
  schema.withNote { schema.note with nullable := true }

/-- Name the value that stands in for a member left out. -/
def standingIn (schema : Schema) (value : Json) : Schema :=
  schema.withNote { schema.note with standIn := some value }

/-- The members in which a schema states its note. -/
def noteMembers (note : Note) : List (String × Json) :=
  (note.standIn.map (fun value => ("default", value))).toList ++
    (note.description.map (fun words => ("description", Json.str words))).toList ++
    (if note.nullable then [("nullable", .bool true)] else [])

/-- The name of an integer's width. -/
def widthName : IntWidth → String
  | .w32 => "int32"
  | .w64 => "int64"

/-- The sorted names of the members that must be there, as a document. -/
def requiredNames (members : List (String × Bool × Schema)) : List (String × Json) :=
  match (members.filter (·.2.1)).map (·.1) with
  | [] => []
  | names => [("required", .arr ((names.mergeSort (fun a b => a ≤ b)).map .str))]

mutual

/-- The document that states a schema. -/
def toJson : Schema → Json
  | .text note => .object (("type", .str "string") :: noteMembers note)
  | .truth note => .object (("type", .str "boolean") :: noteMembers note)
  | .integer width note =>
      .object (("type", .str "integer") :: ("format", .str (widthName width)) :: noteMembers note)
  | .array items note =>
      .object (("type", .str "array") :: ("items", items.toJson) :: noteMembers note)
  | .dict values note =>
      .object (("type", .str "object") :: ("additionalProperties", values.toJson) ::
        noteMembers note)
  | .record members note =>
      .object (("type", .str "object") :: ("properties", .object (membersToJson members)) ::
        (requiredNames members ++ noteMembers note))

/-- The documents that state the members of a record. -/
def membersToJson : List (String × Bool × Schema) → List (String × Json)
  | [] => []
  | (name, _, schema) :: rest => (name, schema.toJson) :: membersToJson rest

end

end Schema

end NodeIdentity
