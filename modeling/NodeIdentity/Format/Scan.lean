import NodeIdentity.Format.Mismatch
import NodeIdentity.Json.Passage
import NodeIdentity.Json.Reader

/-!
# Reading texts in a format

A text can be read with a format in mind, and is then refused at the first place that shows that it
gives no value of the format, be it malformed or not what is wanted.  What the format does not ask
for is only passed over.

A fault that concerns a whole record, such as a field that is missing, is told for the place behind
the record where the record can be ended there, and else for the place where it was found.
-/

namespace NodeIdentity

open Json (Stop)

/-- What is wrong with a text that gives no value of a format. -/
inductive TextFault
  | malformed (fault : Json.SyntaxFault)
  | mismatch (e : Mismatch)
deriving DecidableEq, Repr

/-- The fault in words. -/
def TextFault.message : TextFault → String
  | .malformed fault => fault.message
  | .mismatch e => e.message

/-- A fault met while reading, with the number of bytes still unread there. -/
structure Refusal where
  fault : TextFault
  unread : Nat
deriving DecidableEq, Repr

namespace Refusal

/-- The refusal of a text that is malformed. -/
def ofStop (stop : Stop) : Refusal :=
  ⟨.malformed stop.fault, stop.unread⟩

/-- The refusal of a value in front of the rest of a text. -/
def before (e : Mismatch) (rest : List Char) : Refusal :=
  ⟨.mismatch e, Json.byteCount rest⟩

end Refusal

/-- A piece read from the front of a text and what follows it. -/
abbrev Scanned (α : Type) : Type :=
  Except Refusal (α × List Char)

/--
How the document of a value is read from the front of a text, where arrays and objects may be nested
as often as given.  Members that nobody asks for are left out of it.
-/
abbrev Scan : Type :=
  (levels : Nat) → List Char → Scanned Json

namespace Scan

variable {α : Type}

/-- What the syntax alone decides. -/
def ofRead (read : Json.Read α) : Scanned α :=
  read.mapError Refusal.ofStop

/-- Refuse an array or an object that is nested too deep. -/
def tooDeep (rest : List Char) : Scanned α :=
  ofRead (Json.stopAt .nestedTooDeep rest)

/-- Any document. -/
def any : Scan := fun levels cs =>
  ofRead (Json.readValue levels cs)

/--
What stands at the front of a text, with the text from the place for which that is told: behind it,
or in front of an array or an object, which are not looked into.
-/
def head (cs : List Char) : Json.Read Json :=
  match Json.skipBlanks cs with
  | '[' :: rest => .ok (.arr [], '[' :: rest)
  | '{' :: rest => .ok (.obj [], '{' :: rest)
  | cs => Json.readScalar cs

/-- Refuse what stands at the front of a text where something else is wanted. -/
def refuse (wanted : Wanted) (cs : List Char) : Scanned α :=
  match head cs with
  | .error stop => .error (.ofStop stop)
  | .ok (found, rest) => .error (.before (.wrongKind found wanted) rest)

/-- Values without parts, of which a reader of documents tells whether they are wanted. -/
def scalar (decode : Json → Except Mismatch α) : Scan := fun _ cs =>
  match head cs with
  | .error stop => .error (.ofStop stop)
  | .ok (found, rest) =>
      match decode found with
      | .error e => .error (.before e rest)
      | .ok _ => .ok (found, rest)

/-- A value or null. -/
def orNull (scan : Scan) : Scan := fun levels cs =>
  match Json.skipBlanks cs with
  | 'n' :: rest => ofRead (Json.readWord .null "ull".toList rest)
  | cs => scan levels cs

/-- Lists of values. -/
def list (items : Scan) : Scan := fun levels cs =>
  match Json.skipBlanks cs, levels with
  | '[' :: rest, 0 => tooDeep ('[' :: rest)
  | '[' :: rest, levels + 1 =>
      let visit (documents : List Json) (cs : List Char) : Scanned (List Json) :=
        (items levels cs).map (fun read => (read.1 :: documents, read.2))
      (Json.walkItems .ofStop visit [] rest).map
        (fun read => (.arr read.1.reverse, Json.passClosing read.2))
  | cs, _ => refuse .sequence cs

/-- Dictionaries of values. -/
def dict (values : Scan) : Scan := fun levels cs =>
  match Json.skipBlanks cs, levels with
  | '{' :: rest, 0 => tooDeep ('{' :: rest)
  | '{' :: rest, levels + 1 =>
      let visit (entries : List (String × Json)) (name : String) (cs : List Char) :
          Scanned (List (String × Json)) :=
        (((Json.passColon cs).mapError Refusal.ofStop).bind (values levels)).map
          (fun read => (Json.insertMember name read.1 entries, read.2))
      (Json.walkMembers .ofStop visit [] rest).map
        (fun read => (.obj read.1, Json.passClosing read.2))
  | cs, _ => refuse .map cs

/-- The text behind the null that is the only thing a choice may carry, and behind its brace. -/
def passUnit (cs : List Char) : Json.Read Unit :=
  match Json.skipBlanks cs with
  | 'n' :: rest =>
      match Json.readWord () "ull".toList rest with
      | .error stop => .error stop
      | .ok (_, rest) =>
          match Json.skipBlanks rest with
          | '}' :: rest => .ok ((), rest)
          | rest => Json.stopBefore .valueExpected rest
  | rest => Json.stopAt .valueExpected rest

/-- One of some words, which may also be given as the name of the only member of an object. -/
def choice (decode : Json → Except Mismatch α) : Scan := fun levels cs =>
  match Json.skipBlanks cs, levels with
  | '{' :: rest, 0 => tooDeep ('{' :: rest)
  | '{' :: rest, levels + 1 =>
      match scalar decode levels rest with
      | .error refusal => .error refusal
      | .ok (word, rest) =>
          (ofRead ((Json.passColon rest).bind passUnit)).map (fun read => (word, read.2))
  | cs, levels => scalar decode levels cs

end Scan

/-! ## Records -/

/-- How a record may be given. -/
inductive RecordStyle
  /-- As an object or as the list of its fields.  A field is given once. -/
  | strict
  /-- As an object only.  Of several members for one field the last counts. -/
  | plain
  /-- As an object only.  A field is given once, and other members must be documents too. -/
  | gathering
deriving DecidableEq, Repr

namespace RecordStyle

/-- What is asked for where a record of a style and a name is asked for. -/
def wanted (style : RecordStyle) (name : String) : Wanted :=
  match style with
  | .plain => .plain name
  | .strict | .gathering => .record name

/-- Whether a field may be given once only. -/
def once (style : RecordStyle) : Bool :=
  style ≠ .plain

end RecordStyle

/-- What a reader of texts knows of a field. -/
structure FieldScan where
  name : String
  /-- Whether an object must have the member. -/
  required : Bool
  /-- Whether a list of fields may end before the field. -/
  mayEnd : Bool
  scan : Scan

/-- Why a record cannot be read: for a place that is known, or for one that its end decides. -/
inductive Trouble
  | placed (refusal : Refusal)
  | unplaced (e : Mismatch) (rest : List Char)

namespace Trouble

/-- Trouble that the syntax alone makes. -/
def ofStop (stop : Stop) : Trouble :=
  .placed (.ofStop stop)

/-- The refusal of a record, where `leave` goes behind its end if that can be done. -/
def refusal (leave : List Char → List Char) : Trouble → Refusal
  | .placed refusal => refusal
  | .unplaced e rest => .before e (leave rest)

end Trouble

namespace Scan

/-- The text behind the brace that ends an object, if it stands next. -/
def leaveObject (cs : List Char) : List Char :=
  match Json.skipBlanks cs with
  | '}' :: rest => rest
  | rest => rest

/-- The text behind the bracket that ends an array, or behind the comma that continues it. -/
def leaveArray (cs : List Char) : List Char :=
  match Json.skipBlanks cs with
  | ']' :: rest => rest
  | ',' :: rest => Json.skipBlanks rest
  | rest => rest

/-- The text behind the bracket that must end an array. -/
def passArrayEnd (cs : List Char) : Except Stop (List Char) :=
  match Json.skipBlanks cs with
  | [] => .error (Json.stopInto .endInList [] 0)
  | ']' :: rest => .ok rest
  | ',' :: rest =>
      match Json.skipBlanks rest with
      | ']' :: rest => .error (Json.stopInto .trailingComma (']' :: rest) 1)
      | rest => .error (Json.stopInto .trailingCharacters rest 1)
  | rest => .error (Json.stopInto .trailingCharacters rest 1)

/-- Go over a member of a record that is none of its fields. -/
def passMember (style : RecordStyle) (levels : Nat) (cs : List Char) :
    Except Stop (List Char) := do
  let cs ← Json.passColon cs
  if style = .gathering then (Json.readValue levels cs).map (·.2)
  else (Json.skipValue cs).map (·.2)

/-- Read a member of a record behind its name; `members` holds the fields before it. -/
def visitMember (style : RecordStyle) (fields : List FieldScan) (levels : Nat)
    (members : List (String × Json)) (name : String) (cs : List Char) :
    Except Trouble (List (String × Json) × List Char) :=
  match fields.find? (fun field => field.name = name) with
  | none => ((passMember style levels cs).mapError Trouble.ofStop).map (fun rest => (members, rest))
  | some field =>
      if style.once ∧ (members.lookup name).isSome then .error (.unplaced (.duplicate name) cs)
      else
        match Json.passColon cs with
        | .error stop => .error (.ofStop stop)
        | .ok cs =>
            match field.scan levels cs with
            | .error refusal => .error (.placed refusal)
            | .ok (document, rest) => .ok (Json.insertMember name document members, rest)

/-- Require the fields that must be there; the fields were read up to the rest of a text. -/
def requireFields (fields : List FieldScan) (members : List (String × Json)) (rest : List Char) :
    Except Trouble (List (String × Json) × List Char) :=
  match fields.find? (fun field => field.required && (members.lookup field.name).isNone) with
  | some field => .error (.unplaced (.missing field.name) rest)
  | none => .ok (members, rest)

/-- Read the members of a record behind the opening brace. -/
def recordMembers (style : RecordStyle) (fields : List FieldScan) (levels : Nat)
    (cs : List Char) : Except Trouble (List (String × Json) × List Char) := do
  let (members, rest) ← Json.walkMembers Trouble.ofStop (visitMember style fields levels) [] cs
  requireFields fields members rest

/--
Read a list of fields, going on to each by `step`: `given` fields stand before it, and `members`
holds them.
-/
def recordItems (wanted : Wanted) (total levels : Nat) :
    (given : Nat) → (members : List (String × Json)) → List FieldScan →
      (step : List Char → Except Stop (Option (List Char))) → List Char →
      Except Trouble (List (String × Json) × List Char)
  | _, members, [], _, cs => .ok (members, cs)
  | given, members, field :: fields, step, cs =>
      match step cs with
      | .error stop => .error (.ofStop stop)
      | .ok none =>
          if field.mayEnd then recordItems wanted total levels (given + 1) members fields step cs
          else .error (.unplaced (.tooShort given wanted total) cs)
      | .ok (some item) =>
          match field.scan levels item with
          | .error refusal => .error (.placed refusal)
          | .ok (document, rest) =>
              recordItems wanted total levels (given + 1)
                (Json.insertMember field.name document members) fields Json.nextItem rest

/-- Records given as objects, behind the opening brace. -/
def recordObject (style : RecordStyle) (fields : List FieldScan) : Scan := fun levels cs =>
  match recordMembers style fields levels cs with
  | .error trouble => .error (trouble.refusal leaveObject)
  | .ok (members, rest) => .ok (.obj members, Json.passClosing rest)

/-- Records given as lists, behind the opening bracket. -/
def recordList (wanted : Wanted) (fields : List FieldScan) : Scan := fun levels cs =>
  match recordItems wanted fields.length levels 0 [] fields Json.firstItem cs with
  | .error trouble => .error (trouble.refusal leaveArray)
  | .ok (members, rest) =>
      ((passArrayEnd rest).mapError Refusal.ofStop).map (fun rest => (.obj members, rest))

/-- Records of a style, a name and some fields, in the order of their declaration. -/
def record (style : RecordStyle) (name : String) (fields : List FieldScan) : Scan :=
  fun levels cs =>
    let wanted := style.wanted name
    match Json.skipBlanks cs, levels with
    | '{' :: rest, 0 => tooDeep ('{' :: rest)
    | '{' :: rest, levels + 1 => recordObject style fields levels rest
    | '[' :: rest, levels =>
        match style, levels with
        | .gathering, _ => refuse wanted ('[' :: rest)
        | _, 0 => tooDeep ('[' :: rest)
        | .plain, _ + 1 => .error (.before (.wrongKind (.arr []) wanted) (leaveArray rest))
        | .strict, levels + 1 => recordList wanted fields levels rest
    | cs, _ => refuse wanted cs

end Scan

/-! ## Whole texts -/

/-- Why a text gives no value of a format: the first fault and its place. -/
structure Unreadable where
  fault : TextFault
  position : Json.Position
deriving DecidableEq, Repr

namespace Unreadable

/-- The fault and its place in words. -/
def message (e : Unreadable) : String :=
  e.fault.message ++ " at " ++ e.position.text

/-- A text that is no document gives no value either. -/
def ofSyntaxError (e : Json.SyntaxError) : Unreadable :=
  ⟨.malformed e.fault, e.position⟩

/-- The refusal of a text. -/
def ofRefusal (cs : List Char) (refusal : Refusal) : Unreadable :=
  ⟨refusal.fault, .leaving cs refusal.unread⟩

end Unreadable

end NodeIdentity
