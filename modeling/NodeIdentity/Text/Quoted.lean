import NodeIdentity.Text.Visibility

/-!
# Quoted text

The form in which a text stands inside a diagnostic: between double quotes, with the quote and the
backslash escaped, the common controls by their letter, and every other character that does not show
as itself by its code point.
-/

namespace NodeIdentity.Text

/-- The digits of a code point, in base sixteen. -/
def hexText (n : Nat) : String :=
  String.ofList (Nat.toDigits 16 n)

/-- A character as it stands between the quotes. -/
def quoteChar (c : Char) : String :=
  if c = '"' then "\\\""
  else if c = '\\' then "\\\\"
  else if c = '\t' then "\\t"
  else if c = '\r' then "\\r"
  else if c = '\n' then "\\n"
  else if c = '\x00' then "\\0"
  else if isVisible c then c.toString
  else "\\u\x7b" ++ hexText c.toNat ++ "\x7d"

/-- A text between quotes. -/
def quoted (text : String) : String :=
  text.foldl (fun written c => written ++ quoteChar c) "\"" ++ "\""

end NodeIdentity.Text
