/-!
# Places in texts

A place in a text is a number of bytes from its start, and is told as a line and the bytes of that
line.  A byte may lie within a character, so a place may too.
-/

namespace NodeIdentity.Json

/-- The number of bytes of some characters. -/
def byteCount (cs : List Char) : Nat :=
  cs.foldl (fun count c => count + c.utf8Size) 0

/-- A place in a text: the line, from one, and the bytes read of it. -/
structure Position where
  line : Nat
  column : Nat
deriving DecidableEq, Repr

namespace Position

/-- The place in words. -/
def text (position : Position) : String :=
  "line " ++ toString position.line ++ " column " ++ toString position.column

/-- The place some bytes behind a place, where the text goes on with some characters. -/
def advance (position : Position) : List Char → Nat → Position
  | _, 0 => position
  | [], _ => position
  | '\n' :: rest, bytes + 1 => advance ⟨position.line + 1, 0⟩ rest bytes
  | c :: rest, bytes =>
      if bytes < c.utf8Size then { position with column := position.column + bytes }
      else advance { position with column := position.column + c.utf8Size } rest (bytes - c.utf8Size)

/-- The place some bytes behind the start of a text. -/
def atByte (cs : List Char) (bytes : Nat) : Position :=
  advance ⟨1, 0⟩ cs bytes

/-- The place at which some bytes of a text are left. -/
def leaving (cs : List Char) (unread : Nat) : Position :=
  atByte cs (byteCount cs - unread)

end Position

end NodeIdentity.Json
