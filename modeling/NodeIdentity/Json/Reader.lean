import NodeIdentity.Json.Numeral

/-!
# Reading documents

A total reader of JSON texts.  A text that is no document is refused with the first fault and its
place: the line, and the number of bytes of that line read so far.  Members of an object ascend by
name, and of several with one name the last counts.  Documents are nested up to a bound.

The walks over arrays and objects are given apart from what is done with an item or a member, and
with the faults of the caller's choice, so that other readers of texts can share them.
-/

namespace NodeIdentity.Json

/-- How deep arrays and objects may be nested. -/
def nestingLimit : Nat := 127

/-! ## Arrays -/

/-- The start of the first item behind an opening bracket; none where the array ends. -/
def firstItem (cs : List Char) : Except Stop (Option (List Char)) :=
  match skipBlanks cs with
  | [] => .error (stopInto .endInList [] 0)
  | ']' :: _ => .ok none
  | rest => .ok (some rest)

/-- The start of the next item behind an item; none where the array ends. -/
def nextItem (cs : List Char) : Except Stop (Option (List Char)) :=
  match skipBlanks cs with
  | [] => .error (stopInto .endInList [] 0)
  | ']' :: _ => .ok none
  | ',' :: rest =>
      match skipBlanks rest with
      | [] => .error (stopInto .endInValue [] 0)
      | ']' :: rest => .error (stopInto .trailingComma (']' :: rest) 1)
      | rest => .ok (some rest)
  | rest => .error (stopInto .listEndExpected rest 1)

/-! ## Objects -/

/-- Read the name that starts a member. -/
def readName : List Char → Read String
  | '"' :: rest => readText rest
  | rest => stopAt .keyNotText rest

/-- The first name behind an opening brace; none where the object ends. -/
def firstName (cs : List Char) : Except Stop (Option (String × List Char)) :=
  match skipBlanks cs with
  | [] => .error (stopInto .endInObject [] 0)
  | '}' :: _ => .ok none
  | rest => (readName rest).map some

/-- The next name behind a member; none where the object ends. -/
def nextName (cs : List Char) : Except Stop (Option (String × List Char)) :=
  match skipBlanks cs with
  | [] => .error (stopInto .endInObject [] 0)
  | '}' :: _ => .ok none
  | ',' :: rest =>
      match skipBlanks rest with
      | [] => .error (stopInto .endInValue [] 0)
      | '}' :: rest => .error (stopInto .trailingComma ('}' :: rest) 1)
      | rest => (readName rest).map some
  | rest => .error (stopInto .objectEndExpected rest 1)

/-- The text behind the colon that parts a name from its value. -/
def passColon (cs : List Char) : Except Stop (List Char) :=
  match skipBlanks cs with
  | [] => .error (stopInto .endInObject [] 0)
  | ':' :: rest => .ok rest
  | rest => .error (stopInto .colonExpected rest 1)

/-- The text behind the bracket or the brace that stands next. -/
def passClosing (cs : List Char) : List Char :=
  (skipBlanks cs).drop 1

/-! ## Walks -/

section Walks

variable {ε σ : Type} (lift : Stop → ε)

/--
Visit the items of an array from the one that starts the text, carrying a value along.  Every item
takes a character, so the length of the text is fuel enough.
-/
def walkItemsFrom (visit : σ → List Char → Except ε (σ × List Char)) :
    (fuel : Nat) → σ → List Char → Except ε (σ × List Char)
  | 0, state, cs => .ok (state, cs)
  | fuel + 1, state, cs =>
      match visit state cs with
      | .error e => .error e
      | .ok (state, rest) =>
          match nextItem rest with
          | .error stop => .error (lift stop)
          | .ok none => .ok (state, rest)
          | .ok (some cs) => walkItemsFrom visit fuel state cs

/-- Visit the items of an array behind its opening bracket, up to the closing one. -/
def walkItems (visit : σ → List Char → Except ε (σ × List Char)) (state : σ) (cs : List Char) :
    Except ε (σ × List Char) :=
  match firstItem cs with
  | .error stop => .error (lift stop)
  | .ok none => .ok (state, cs)
  | .ok (some cs) => walkItemsFrom lift visit cs.length state cs

/-- Visit the members of an object from one whose name has been read, carrying a value along. -/
def walkMembersFrom (visit : σ → String → List Char → Except ε (σ × List Char)) :
    (fuel : Nat) → σ → String → List Char → Except ε (σ × List Char)
  | 0, state, _, cs => .ok (state, cs)
  | fuel + 1, state, name, cs =>
      match visit state name cs with
      | .error e => .error e
      | .ok (state, rest) =>
          match nextName rest with
          | .error stop => .error (lift stop)
          | .ok none => .ok (state, rest)
          | .ok (some (name, cs)) => walkMembersFrom visit fuel state name cs

/-- Visit the members of an object behind its opening brace, up to the closing one. -/
def walkMembers (visit : σ → String → List Char → Except ε (σ × List Char)) (state : σ)
    (cs : List Char) : Except ε (σ × List Char) :=
  match firstName cs with
  | .error stop => .error (lift stop)
  | .ok none => .ok (state, cs)
  | .ok (some (name, rest)) => walkMembersFrom lift visit cs.length state name rest

end Walks

/-! ## Documents -/

/-- Read a document that is neither an array nor an object. -/
def readScalar : List Char → Read Json
  | [] => stopBefore .endInValue []
  | 'n' :: rest => readWord .null "ull".toList rest
  | 't' :: rest => readWord (.bool true) "rue".toList rest
  | 'f' :: rest => readWord (.bool false) "alse".toList rest
  | '-' :: rest => readNumber true rest
  | '"' :: rest => (readText rest).map (fun read => (.str read.1, read.2))
  | c :: rest =>
      if c.isDigit then readNumber false (c :: rest) else stopAt .valueExpected (c :: rest)

/-- Read a document whose items and members are read by `inner`, if it may have any. -/
def readOuter (inner : Option (List Char → Read Json)) (cs : List Char) : Read Json :=
  match skipBlanks cs, inner with
  | '[' :: rest, none | '{' :: rest, none => stopAt .nestedTooDeep ('[' :: rest)
  | '[' :: rest, some inner =>
      let visit (items : List Json) (cs : List Char) : Read (List Json) :=
        (inner cs).map (fun read => (read.1 :: items, read.2))
      (walkItems id visit [] rest).map (fun read => (.arr read.1.reverse, passClosing read.2))
  | '{' :: rest, some inner =>
      let visit (members : List (String × Json)) (name : String) (cs : List Char) :
          Read (List (String × Json)) :=
        ((passColon cs).bind inner).map (fun read => (insertMember name read.1 members, read.2))
      (walkMembers id visit [] rest).map (fun read => (.obj read.1, passClosing read.2))
  | cs, _ => readScalar cs

/-- Read a document from the front of a text, with arrays and objects nested as often as given. -/
def readValue : (levels : Nat) → List Char → Read Json
  | 0 => readOuter none
  | levels + 1 => readOuter (some (readValue levels))

/-- A text that is no document: the first fault and its place. -/
structure SyntaxError where
  fault : SyntaxFault
  position : Position
deriving DecidableEq, Repr

/-- The fault and its place in words. -/
def SyntaxError.message (e : SyntaxError) : String :=
  e.fault.message ++ " at " ++ e.position.text

/-- Require that nothing but blanks is left of a text. -/
def requireEnd (cs : List Char) : Except Stop Unit :=
  match skipBlanks cs with
  | [] => .ok ()
  | rest => .error (stopInto .trailingCharacters rest 1)

/-- Read a text as one document. -/
def parse (text : String) : Except SyntaxError Json :=
  let cs := text.toList
  let whole : Except Stop Json := do
    let (value, rest) ← readValue nestingLimit cs
    requireEnd rest
    pure value
  whole.mapError (fun stop => ⟨stop.fault, .leaving cs stop.unread⟩)

end NodeIdentity.Json
