import NodeIdentity.Json.Position

/-!
# Tokens of documents

The blanks, words and strings of which the text of a document is made.  What is no token is refused
with the first fault and the number of bytes that are unread there.

A fault shows either in a byte that has been read, or in the next one, which then counts as read.
Bytes count, not characters: of a longer character that is out of place only the first byte is read.
-/

namespace NodeIdentity.Json

/-- What is wrong with a text that is no document. -/
inductive SyntaxFault
  | endInValue
  | endInList
  | endInObject
  | endInString
  | colonExpected
  | listEndExpected
  | objectEndExpected
  | identExpected
  | valueExpected
  | escapeInvalid
  | hexEscapeEnded
  | loneSurrogate
  | numberInvalid
  | numberOutOfRange
  | controlCharacter
  | keyNotText
  | trailingComma
  | trailingCharacters
  | nestedTooDeep
deriving DecidableEq, Repr

/-- The fault in words. -/
def SyntaxFault.message : SyntaxFault → String
  | .endInValue => "EOF while parsing a value"
  | .endInList => "EOF while parsing a list"
  | .endInObject => "EOF while parsing an object"
  | .endInString => "EOF while parsing a string"
  | .colonExpected => "expected `:`"
  | .listEndExpected => "expected `,` or `]`"
  | .objectEndExpected => "expected `,` or `\x7d`"
  | .identExpected => "expected ident"
  | .valueExpected => "expected value"
  | .escapeInvalid => "invalid escape"
  | .hexEscapeEnded => "unexpected end of hex escape"
  | .loneSurrogate => "lone leading surrogate in hex escape"
  | .numberInvalid => "invalid number"
  | .numberOutOfRange => "number out of range"
  | .controlCharacter =>
      "control character (\\u0000-\\u001F) found while parsing a string"
  | .keyNotText => "key must be a string"
  | .trailingComma => "trailing comma"
  | .trailingCharacters => "trailing characters"
  | .nestedTooDeep => "recursion limit exceeded"

/-- A fault met while reading, with the number of bytes still unread there. -/
structure Stop where
  fault : SyntaxFault
  unread : Nat
deriving DecidableEq, Repr

/-- A piece read from the front of a text and what follows it. -/
abbrev Read (α : Type) : Type :=
  Except Stop (α × List Char)

/-- The stop some bytes into the rest of a text, or at its end if that comes first. -/
def stopInto (fault : SyntaxFault) (rest : List Char) (bytes : Nat) : Stop :=
  ⟨fault, byteCount rest - bytes⟩

/-- Stop behind what was read so far. -/
def stopBefore {α : Type} (fault : SyntaxFault) (rest : List Char) : Read α :=
  .error (stopInto fault rest 0)

/-- Stop behind the next byte, which shows the fault, if there is one. -/
def stopAt {α : Type} (fault : SyntaxFault) (rest : List Char) : Read α :=
  .error (stopInto fault rest 1)

/-- Whether a character may stand between the tokens of a document. -/
def isBlank (c : Char) : Bool :=
  c == ' ' || c == '\n' || c == '\t' || c == '\r'

/-- The text behind leading blanks. -/
def skipBlanks (cs : List Char) : List Char :=
  cs.dropWhile isBlank

/-- Read the rest of a fixed word. -/
def readWord {α : Type} (value : α) : List Char → List Char → Read α
  | [], rest => .ok (value, rest)
  | _ :: _, [] => stopBefore .endInValue []
  | w :: word, c :: rest =>
      if w = c then readWord value word rest else stopAt .identExpected (c :: rest)

/-- The value of a hexadecimal digit. -/
def hexDigit? (c : Char) : Option Nat :=
  if c.isDigit then some (c.toNat - '0'.toNat)
  else if 'a' ≤ c ∧ c ≤ 'f' then some (c.toNat - 'a'.toNat + 10)
  else if 'A' ≤ c ∧ c ≤ 'F' then some (c.toNat - 'A'.toNat + 10)
  else none

/-- The value of the four hexadecimal digits at the front of a text. -/
def hexValue? : List Char → Option Nat
  | a :: b :: c :: d :: _ => do
      pure (((((← hexDigit? a) * 16 + (← hexDigit? b)) * 16) + (← hexDigit? c)) * 16 + (← hexDigit? d))
  | _ => none

/-- Read the four digits of a hexadecimal escape, for which four bytes are taken at once. -/
def hexEscape (cs : List Char) : Except Stop Nat :=
  match hexValue? cs with
  | some value => .ok value
  | none =>
      if byteCount cs < 4 then .error (stopInto .endInString [] 0)
      else .error (stopInto .escapeInvalid cs 4)

/-- The character that a two-character escape stands for. -/
def simpleEscape? : Char → Option Char
  | '"' => some '"'
  | '\\' => some '\\'
  | '/' => some '/'
  | 'b' => some '\x08'
  | 'f' => some '\x0c'
  | 'n' => some '\n'
  | 'r' => some '\r'
  | 't' => some '\t'
  | _ => none

/-- Whether a number is the first half of a character that is given by two escapes. -/
def isLeadingHalf (n : Nat) : Bool :=
  0xD800 ≤ n && n ≤ 0xDBFF

/-- Whether a number is the second half of a character that is given by two escapes. -/
def isTrailingHalf (n : Nat) : Bool :=
  0xDC00 ≤ n && n ≤ 0xDFFF

/-- The second half of a character behind the escape of its first half. -/
def trailingHalf : List Char → Except Stop Nat
  | [] => .error (stopInto .endInString [] 0)
  | ['\\'] => .error (stopInto .endInString [] 0)
  | '\\' :: 'u' :: rest => do
      let low ← hexEscape rest
      if isTrailingHalf low then pure low
      else .error (stopInto .loneSurrogate (rest.drop 4) 0)
  | '\\' :: rest => .error (stopInto .hexEscapeEnded rest 1)
  | rest => .error (stopInto .hexEscapeEnded rest 1)

/-- The character of an escape behind its backslash, and how many characters give it. -/
def escape : List Char → Except Stop (Char × Nat)
  | [] => .error (stopInto .endInString [] 0)
  | 'u' :: rest => do
      let high ← hexEscape rest
      if isTrailingHalf high then .error (stopInto .loneSurrogate (rest.drop 4) 0)
      else if isLeadingHalf high then
        let low ← trailingHalf (rest.drop 4)
        pure (Char.ofNat (0x10000 + (high - 0xD800) * 0x400 + (low - 0xDC00)), 11)
      else pure (Char.ofNat high, 5)
  | c :: rest =>
      match simpleEscape? c with
      | some c => .ok (c, 1)
      | none => .error (stopInto .escapeInvalid (c :: rest) 1)

/--
Read a string behind its opening quote; `text` holds its characters so far, last first.  The next
`passed` characters have been read as part of an escape.
-/
def readTextFrom : (passed : Nat) → (text : List Char) → List Char → Read String
  | _, _, [] => stopBefore .endInString []
  | passed + 1, text, _ :: rest => readTextFrom passed text rest
  | 0, text, '"' :: rest => .ok (String.ofList text.reverse, rest)
  | 0, text, '\\' :: rest =>
      match escape rest with
      | .error stop => .error stop
      | .ok (c, width) => readTextFrom width (c :: text) rest
  | 0, text, c :: rest =>
      if c.toNat < 0x20 then stopAt .controlCharacter (c :: rest)
      else readTextFrom 0 (c :: text) rest

/-- Read a string behind its opening quote. -/
def readText (cs : List Char) : Read String :=
  readTextFrom 0 [] cs

/-- How many characters an escape has behind its backslash, whatever character it gives. -/
def escapeWidth : List Char → Except Stop Nat
  | [] => .error (stopInto .endInString [] 0)
  | 'u' :: rest => (hexEscape rest).map (fun _ => 5)
  | c :: rest =>
      match simpleEscape? c with
      | some _ => .ok 1
      | none => .error (stopInto .escapeInvalid (c :: rest) 1)

/-- Pass over a string behind its opening quote, and over `passed` characters first. -/
def skipTextFrom : (passed : Nat) → List Char → Read Unit
  | _, [] => stopBefore .endInString []
  | passed + 1, _ :: rest => skipTextFrom passed rest
  | 0, '"' :: rest => .ok ((), rest)
  | 0, '\\' :: rest =>
      match escapeWidth rest with
      | .error stop => .error stop
      | .ok width => skipTextFrom width rest
  | 0, c :: rest =>
      if c.toNat < 0x20 then stopBefore .controlCharacter (c :: rest) else skipTextFrom 0 rest

/-- Pass over a string behind its opening quote.  Halves of characters need not come in pairs. -/
def skipText (cs : List Char) : Read Unit :=
  skipTextFrom 0 cs

end NodeIdentity.Json
