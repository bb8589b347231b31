/-!
# Lines of a text

A text as the lines that a reader of it sees.  A line ends with a newline, which a carriage return in
front belongs to; the last line need not end.
-/

namespace NodeIdentity.Text

/-- The pieces of a text between newlines. -/
def pieces : List Char → List (List Char)
  | [] => [[]]
  | c :: rest =>
      match pieces rest with
      | [] => [[c]]
      | piece :: others => if c = '\n' then [] :: piece :: others else (c :: piece) :: others

/-- A piece that a newline ends, without a carriage return at its end. -/
def lineOf (piece : List Char) : List Char :=
  if piece.getLast? = some '\r' then piece.dropLast else piece

/-- The lines of a text. -/
def lines (text : String) : List String :=
  let parts := pieces text.toList
  let ended := (parts.dropLast.map lineOf).map String.ofList
  match parts.getLast? with
  | none | some [] => ended
  | some rest => ended ++ [String.ofList rest]

end NodeIdentity.Text
