import NodeIdentity.Data.Dict
import NodeIdentity.Format.Scan

/-!
# Formats

A format says how the values of a type are written as documents, how documents are read back, how
texts are read without reading them as documents first, and which schema describes the documents
that can be read.  The formats of texts, truth values, integers, lists and dictionaries are here;
records are put together in `NodeIdentity.Format.Record`.
-/

namespace NodeIdentity

/-- How the values of a type are written, read and described. -/
structure Format (α : Type) where
  /-- The shape of the documents. -/
  schema : Schema
  /-- The document of a value. -/
  encode : α → Json
  /-- The value of a document, or the first reason why it has none. -/
  decode : Json → Except Mismatch α
  /-- How the document of a value is read from a text. -/
  scan : Scan := .any

namespace Format

variable {α : Type}

/-- Read a text. -/
def decodeText : Json → Except Mismatch String
  | .str value => .ok value
  | found => .error (.wrongKind found .text)

/-- Texts. -/
def text : Format String where
  schema := .text {}
  encode := .str
  decode := decodeText
  scan := .scalar decodeText

/-- Read a truth value. -/
def decodeTruth : Json → Except Mismatch Bool
  | .bool value => .ok value
  | found => .error (.wrongKind found .truth)

/-- Truth values. -/
def truth : Format Bool where
  schema := .truth {}
  encode := .bool
  decode := decodeTruth
  scan := .scalar decodeTruth

/-- Read an integer of some width. -/
def decodeInteger (width : IntWidth) (ofInt : Int → α) : Json → Except Mismatch α
  | .int value => if width.holds value then .ok (ofInt value) else .error (.outOfRange value width)
  | found => .error (.wrongKind found (.integer width))

/-- Integers of 32 bits. -/
def int32 : Format Int32 where
  schema := .integer .w32 {}
  encode value := .int value.toInt
  decode := decodeInteger .w32 Int32.ofInt
  scan := .scalar (decodeInteger .w32 Int32.ofInt)

/-- Integers of 64 bits. -/
def int64 : Format Int64 where
  schema := .integer .w64 {}
  encode value := .int value.toInt
  decode := decodeInteger .w64 Int64.ofInt
  scan := .scalar (decodeInteger .w64 Int64.ofInt)

/-- Read the items of an array in order, up to the first that cannot be read. -/
def decodeItems (decode : Json → Except Mismatch α) : List Json → Except Mismatch (List α)
  | [] => .ok []
  | item :: items =>
      match decode item with
      | .error e => .error e
      | .ok value =>
          match decodeItems decode items with
          | .error e => .error e
          | .ok values => .ok (value :: values)

/-- Lists of the values of a format. -/
def list (items : Format α) : Format (List α) where
  schema := .array items.schema {}
  encode values := .arr (values.map items.encode)
  decode
    | .arr documents => decodeItems items.decode documents
    | found => .error (.wrongKind found .sequence)
  scan := .list items.scan

/-- Read the members of an object in order, up to the first that cannot be read. -/
def decodeEntries (decode : Json → Except Mismatch α) :
    List (String × Json) → Except Mismatch (List (String × α))
  | [] => .ok []
  | (name, document) :: rest =>
      match decode document with
      | .error e => .error e
      | .ok value =>
          match decodeEntries decode rest with
          | .error e => .error e
          | .ok entries => .ok ((name, value) :: entries)

/-- Dictionaries of the values of a format. -/
def dict (values : Format α) : Format (Dict α) where
  schema := .dict values.schema {}
  encode entries := .obj (entries.toList.map (fun entry => (entry.1, values.encode entry.2)))
  decode
    | .obj members => (decodeEntries values.decode members).map Dict.ofList
    | found => .error (.wrongKind found .map)
  scan := .dict values.scan

/-- The value that a text gives. -/
def readText (format : Format α) (text : String) : Except Unreadable α :=
  let cs := text.toList
  let whole : Except Refusal α := do
    let (document, rest) ← format.scan Json.nestingLimit cs
    (Json.requireEnd rest).mapError Refusal.ofStop
    (format.decode document).mapError (Refusal.before · rest)
  whole.mapError (Unreadable.ofRefusal cs)

/-- The same values, with a description of what they are for. -/
def described (format : Format α) (description : String) : Format α :=
  { format with schema := format.schema.describe (some description) }

end Format

end NodeIdentity
