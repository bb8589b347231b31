import NodeIdentity.Format.Basic

/-!
# Formats of records

A record is described field by field, in the order of its declaration.  One description serves the
writer, the reader, the choice of the fault that a reader reports, and the schema.

A record is read from an object, or from the list of its fields.  In an object the members are
looked at in their order and the first one that cannot be read is reported; a field that must be
there and is not is reported only when all members could be read.  Members that are no fields of the
record are passed over.  A text of a record is read in the order of its members.
-/

namespace NodeIdentity

/-- A field of the records of type `ρ`, whose value is of type `β`. -/
structure Field (ρ β : Type) where
  /-- The name of the member that holds the field. -/
  name : String
  /-- Whether an object must have the member. -/
  required : Bool
  /-- Whether a list of fields may end before the field. -/
  mayEnd : Bool
  /-- The shape of the member. -/
  schema : Schema
  /-- The member that is written for a record, if one is. -/
  write : ρ → Option Json
  /-- The value of a member. -/
  read : Json → Except Mismatch β
  /-- The value where there is no member. -/
  absent : Except Mismatch β
  /-- How the member is read from a text. -/
  scan : Scan

namespace Field

variable {ρ β : Type}

/-- A field that must be there. -/
def mandatory (name : String) (description : Option String) (format : Format β) (get : ρ → β) :
    Field ρ β where
  name := name
  required := true
  mayEnd := false
  schema := format.schema.describe description
  write record := some (format.encode (get record))
  read := format.decode
  absent := .error (.missing name)
  scan := format.scan

/-- Read a value or null. -/
def readOrNull (format : Format β) : Json → Except Mismatch (Option β)
  | .null => .ok none
  | document => (format.decode document).map some

/--
A field that is left out when it has no value, and may be null.  A list of fields may end before
it where `mayEnd` says so.
-/
def optional (name : String) (description : Option String) (format : Format β)
    (get : ρ → Option β) (mayEnd : Bool) : Field ρ (Option β) where
  name := name
  required := false
  mayEnd := mayEnd
  schema := (format.schema.describe description).orNull
  write record := (get record).map format.encode
  read := readOrNull format
  absent := .ok none
  scan := .orNull format.scan

/-- A field that is always written, and has a value of its own where it is left out. -/
def defaulted (name : String) (description : Option String) (format : Format β) (standIn : β)
    (get : ρ → β) : Field ρ β where
  name := name
  required := false
  mayEnd := true
  schema := (format.schema.describe description).standingIn (format.encode standIn)
  write record := some (format.encode (get record))
  read := format.decode
  absent := .ok standIn
  scan := format.scan

/-- A field that is always written, and has a value of its own where it is left out or null. -/
def lenient (name : String) (format : Format β) (standIn : β) (get : ρ → β) : Field ρ β where
  name := name
  required := false
  mayEnd := true
  schema := (format.schema.standingIn (format.encode standIn)).orNull
  write record := some (format.encode (get record))
  read document := (readOrNull format document).map (·.getD standIn)
  absent := .ok standIn
  scan := .orNull format.scan

end Field

/-- What a reader knows of a field before it knows the type of its value. -/
structure FieldCheck extends FieldScan where
  /-- Whether a member can be read. -/
  check : Json → Except Mismatch Unit

/-- Some fields of the records of type `ρ`, from which a value of type `α` is built. -/
structure Fields (ρ α : Type) where
  /-- The members: name, whether it must be there, and shape. -/
  members : List (String × Bool × Schema)
  /-- What is known of each field, in the order of declaration. -/
  checks : List FieldCheck
  /-- The members that are written for a record. -/
  write : ρ → List (String × Json)
  /-- The value built from members that are looked up by name. -/
  read : (String → Option Json) → Except Mismatch α

namespace Fields

variable {ρ α β : Type}

/-- No fields; the value is built from nothing. -/
def start (value : α) : Fields ρ α where
  members := []
  checks := []
  write _ := []
  read _ := .ok value

/-- The value of a field whose member is looked up by name. -/
def readField (field : Field ρ β) (lookup : String → Option Json) : Except Mismatch β :=
  match lookup field.name with
  | some document => field.read document
  | none => field.absent

/-- One field more. -/
def and (fields : Fields ρ (β → α)) (field : Field ρ β) : Fields ρ α where
  members := fields.members ++ [(field.name, field.required, field.schema)]
  checks := fields.checks ++
    [{ name := field.name
       required := field.required
       mayEnd := field.mayEnd
       scan := field.scan
       check := fun document => (field.read document).map (fun _ => ()) }]
  write record :=
    fields.write record ++ ((field.write record).map (fun document => (field.name, document))).toList
  read lookup :=
    match fields.read lookup with
    | .error e => .error e
    | .ok build => (readField field lookup).map build

/-- Check every member that is a field, in the order of the members. -/
def checkMembers (checks : List FieldCheck) : List (String × Json) → Except Mismatch Unit
  | [] => .ok ()
  | (name, document) :: rest =>
      match checks.find? (fun field => field.name = name) with
      | none => checkMembers checks rest
      | some field =>
          match field.check document with
          | .error e => .error e
          | .ok () => checkMembers checks rest

/--
Check a list of fields against the fields of a record: `given` of the list stand before `items`, the
record has `total` fields, and the whole list has `size` items.
-/
def checkItems (wanted : Wanted) (total size : Nat) :
    Nat → List FieldCheck → List Json → Except Mismatch Unit
  | _, [], [] => .ok ()
  | _, [], _ :: _ => .error (.tooLong size)
  | given, field :: fields, [] =>
      if field.mayEnd then checkItems wanted total size (given + 1) fields []
      else .error (.tooShort given wanted total)
  | given, field :: fields, item :: items =>
      match field.check item with
      | .error e => .error e
      | .ok () => checkItems wanted total size (given + 1) fields items

/-- Read an object as a record. -/
def decodeObject (fields : Fields ρ α) (members : List (String × Json)) : Except Mismatch α :=
  match checkMembers fields.checks members with
  | .error e => .error e
  | .ok () => fields.read (fun name => members.lookup name)

/-- Read a list of fields as a record. -/
def decodeList (fields : Fields ρ α) (wanted : Wanted) (items : List Json) : Except Mismatch α :=
  match checkItems wanted fields.checks.length items.length 0 fields.checks items with
  | .error e => .error e
  | .ok () =>
      let members := (fields.checks.map (·.name)).zip items
      fields.read (fun name => members.lookup name)

end Fields

namespace Format

variable {ρ : Type}

/-- Records that are written as objects and read as their style says. -/
def recordOf (style : RecordStyle) (name : String) (fields : Fields ρ ρ) : Format ρ where
  schema := .record fields.members {}
  encode value := .obj (fields.write value)
  decode
    | .obj members => fields.decodeObject members
    | .arr items =>
        if style = .strict then fields.decodeList (style.wanted name) items
        else .error (.wrongKind (.arr items) (style.wanted name))
    | found => .error (.wrongKind found (style.wanted name))
  scan := .record style name (fields.checks.map (·.toFieldScan))

/-- Records that are read from objects or from lists of their fields. -/
def record (name : String) (fields : Fields ρ ρ) : Format ρ :=
  recordOf .strict name fields

/-- Records that are read from objects only. -/
def plainRecord (name : String) (fields : Fields ρ ρ) : Format ρ :=
  recordOf .plain name fields

end Format

end NodeIdentity
