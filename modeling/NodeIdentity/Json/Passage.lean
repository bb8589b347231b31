import NodeIdentity.Json.Numeral

/-!
# Passing over documents

A document that nobody asks for is passed over without being kept.  Its brackets, names and commas
must be right; it may be nested as deep as it likes, its numbers may be of any size and its strings
may hold halves of characters.
-/

namespace NodeIdentity.Json

/-- What a document that is being passed over lies in. -/
inductive Enclosure
  | list
  | object
deriving DecidableEq, Repr

namespace Enclosure

/-- The fault of a text that ends within. -/
def ended : Enclosure → SyntaxFault
  | .list => .endInList
  | .object => .endInObject

/-- The fault of a text that neither goes on nor ends properly. -/
def unclosed : Enclosure → SyntaxFault
  | .list => .listEndExpected
  | .object => .objectEndExpected

/-- The character that ends it. -/
def closing : Enclosure → Char
  | .list => ']'
  | .object => '}'

end Enclosure

/-- Pass over a document that is neither an array nor an object. -/
def skipScalar : List Char → Read Unit
  | [] => stopBefore .endInValue []
  | 'n' :: rest => readWord () "ull".toList rest
  | 't' :: rest => readWord () "rue".toList rest
  | 'f' :: rest => readWord () "alse".toList rest
  | '-' :: rest => skipNumber rest
  | '"' :: rest => skipText rest
  | c :: rest => if c.isDigit then skipNumber (c :: rest) else stopAt .valueExpected (c :: rest)

/-- Pass over a name and the colon behind it. -/
def skipName (cs : List Char) : Read Unit :=
  match skipBlanks cs with
  | [] => stopBefore .endInObject []
  | '"' :: rest =>
      match skipText rest with
      | .error stop => .error stop
      | .ok (_, rest) =>
          match skipBlanks rest with
          | [] => stopBefore .endInObject []
          | ':' :: rest => .ok ((), rest)
          | rest => stopAt .colonExpected rest
  | rest => stopAt .keyNotText rest

mutual

/-- Pass over what starts with a value that lies in `outer`, innermost first, and ends with those. -/
def skipFrom : (fuel : Nat) → (outer : List Enclosure) → List Char → Read Unit
  | 0, _, cs => stopBefore .valueExpected cs
  | fuel + 1, outer, cs =>
      match skipBlanks cs with
      | '[' :: rest => skipOpened fuel .list outer rest
      | '{' :: rest => skipOpened fuel .object outer rest
      | cs =>
          match skipScalar cs with
          | .error stop => .error stop
          | .ok (_, rest) => skipBehind fuel outer rest

/-- Pass over an array or an object behind its opening character, and over the rest of `outer`. -/
def skipOpened : (fuel : Nat) → Enclosure → (outer : List Enclosure) → List Char → Read Unit
  | 0, _, _, cs => stopBefore .valueExpected cs
  | fuel + 1, enclosure, outer, cs =>
      match skipBlanks cs with
      | [] => stopBefore enclosure.ended []
      | c :: rest =>
          if c = enclosure.closing then skipBehind fuel outer rest
          else skipEntry fuel enclosure outer (c :: rest)

/-- Pass over an item or a member, and over the rest of what it lies in. -/
def skipEntry : (fuel : Nat) → Enclosure → (outer : List Enclosure) → List Char → Read Unit
  | 0, _, _, cs => stopBefore .valueExpected cs
  | fuel + 1, .list, outer, cs => skipFrom fuel (.list :: outer) cs
  | fuel + 1, .object, outer, cs =>
      match skipName cs with
      | .error stop => .error stop
      | .ok (_, rest) => skipFrom fuel (.object :: outer) rest

/-- Pass over the rest of the arrays and objects in which a value lay that has been passed over. -/
def skipBehind : (fuel : Nat) → (outer : List Enclosure) → List Char → Read Unit
  | _, [], cs => .ok ((), cs)
  | 0, _, cs => stopBefore .valueExpected cs
  | fuel + 1, enclosure :: outer, cs =>
      match skipBlanks cs with
      | [] => stopBefore enclosure.ended []
      | ',' :: rest => skipEntry fuel enclosure outer rest
      | c :: rest =>
          if c = enclosure.closing then skipBehind fuel outer rest
          else stopAt enclosure.unclosed (c :: rest)

end

/-- Pass over a document at the front of a text: each of its characters takes three steps at most. -/
def skipValue (cs : List Char) : Read Unit :=
  skipFrom (3 * cs.length + 3) [] cs

end NodeIdentity.Json
