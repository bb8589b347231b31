import NodeIdentity.Json.Basic

/-!
# Writing documents

The compact text of a document: members in their order, no blanks, and in strings an escape for the
quote, the backslash and the control characters only.
-/

namespace NodeIdentity.Json

/-- A digit of a hexadecimal escape. -/
def hexDigit (n : Nat) : Char :=
  "0123456789abcdef".toList.getD n '0'

/-- A character as it stands in a quoted string. -/
def escapeChar (c : Char) : String :=
  if c = '"' then "\\\""
  else if c = '\\' then "\\\\"
  else if c = '\n' then "\\n"
  else if c = '\r' then "\\r"
  else if c = '\t' then "\\t"
  else if c = '\x08' then "\\b"
  else if c = '\x0c' then "\\f"
  else if c.toNat < 0x20 then
    "\\u00" ++ String.ofList [hexDigit (c.toNat / 16), hexDigit (c.toNat % 16)]
  else c.toString

/-- A string in quotes. -/
def quote (text : String) : String :=
  text.foldl (fun written c => written ++ escapeChar c) "\"" ++ "\""

mutual

/-- Append the compact text of a document. -/
def writeTo (written : String) : Json → String
  | .null => written ++ "null"
  | .bool true => written ++ "true"
  | .bool false => written ++ "false"
  | .int value => written ++ toString value
  | .float value => written ++ value.documentText
  | .str value => written ++ quote value
  | .arr [] => written ++ "[]"
  | .arr (item :: items) => writeItems (writeTo (written ++ "[") item) items ++ "]"
  | .obj [] => written ++ "\x7b\x7d"
  | .obj ((name, value) :: members) =>
      writeMembers (writeTo (written ++ "\x7b" ++ quote name ++ ":") value) members ++ "\x7d"

/-- Append the items of an array behind its first. -/
def writeItems (written : String) : List Json → String
  | [] => written
  | item :: items => writeItems (writeTo (written ++ ",") item) items

/-- Append the members of an object behind its first. -/
def writeMembers (written : String) : List (String × Json) → String
  | [] => written
  | (name, value) :: members =>
      writeMembers (writeTo (written ++ "," ++ quote name ++ ":") value) members

end

/-- The compact text of a document. -/
def compact (document : Json) : String :=
  writeTo "" document

end NodeIdentity.Json
