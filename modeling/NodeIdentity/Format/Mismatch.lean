import NodeIdentity.Format.Schema
import NodeIdentity.Text.Quoted

/-!
# Mismatches

Why a document is not a value of a format, and the words for it.
-/

namespace NodeIdentity

/-- What a format asks for at a place of a document. -/
inductive Wanted
  | text
  | truth
  | integer (width : IntWidth)
  | sequence
  | map
  /-- A record that may be given as an object or as the list of its fields. -/
  | record (name : String)
  /-- A record that is always given as an object. -/
  | plain (name : String)
deriving DecidableEq, Repr

/-- The wish in words. -/
def Wanted.message : Wanted → String
  | .text => "a string"
  | .truth => "a boolean"
  | .integer .w32 => "i32"
  | .integer .w64 => "i64"
  | .sequence => "a sequence"
  | .map => "a map"
  | .record name => "struct " ++ name
  | .plain name => name

/-- What stands at a place of a document, in words. -/
def Json.kindText : Json → String
  | .null => "null"
  | .bool true => "boolean `true`"
  | .bool false => "boolean `false`"
  | .int value => "integer `" ++ toString value ++ "`"
  | .float value => "floating point `" ++ value.documentText ++ "`"
  | .str value => "string " ++ Text.quoted value
  | .arr _ => "sequence"
  | .obj _ => "map"

/-- Why a document is not a value of a format. -/
inductive Mismatch
  /-- Something of another kind stands there. -/
  | wrongKind (found : Json) (wanted : Wanted)
  /-- An integer stands there that the width does not hold. -/
  | outOfRange (found : Int) (width : IntWidth)
  /-- A member that must be there is not. -/
  | missing (name : String)
  /-- A list of fields ends before a field that it must give. -/
  | tooShort (given : Nat) (wanted : Wanted) (fields : Nat)
  /-- A list of fields goes on behind the last field. -/
  | tooLong (given : Nat)
  /-- A field is given a second time. -/
  | duplicate (name : String)
deriving DecidableEq, Repr

/-- A number of elements in words. -/
def elementsText (n : Nat) : String :=
  toString n ++ (if n = 1 then " element" else " elements")

/-- The mismatch in words. -/
def Mismatch.message : Mismatch → String
  | .wrongKind found wanted =>
      "invalid type: " ++ found.kindText ++ ", expected " ++ wanted.message
  | .outOfRange found width =>
      "invalid value: integer `" ++ toString found ++ "`, expected " ++
        (Wanted.integer width).message
  | .missing name => "missing field `" ++ name ++ "`"
  | .tooShort given wanted fields =>
      "invalid length " ++ toString given ++ ", expected " ++ wanted.message ++ " with " ++
        elementsText fields
  | .tooLong given =>
      "invalid length " ++ toString given ++ ", expected fewer elements in array"
  | .duplicate name => "duplicate field `" ++ name ++ "`"

end NodeIdentity
