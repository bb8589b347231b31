/-!
# Form-encoded text

The form in which a text stands as a parameter behind a path: letters and digits of ASCII and a few
marks stand for themselves, a plus for the space, and every other byte is given by two digits in
base sixteen behind a percent sign.
-/

namespace NodeIdentity.Text

/-- Whether a character of a parameter stands for itself. -/
def standsForItself (c : Char) : Bool :=
  c.isAlphanum || c == '*' || c == '-' || c == '.' || c == '_'

/-- A digit in base sixteen, with capital letters. -/
def capitalDigit (n : Nat) : Char :=
  "0123456789ABCDEF".toList.getD n '0'

/-- A byte behind a percent sign. -/
def percentEncoded (byte : UInt8) : List Char :=
  ['%', capitalDigit (byte.toNat / 16), capitalDigit (byte.toNat % 16)]

/-- A character as it stands in a parameter. -/
def formEncodedChar (c : Char) : List Char :=
  if standsForItself c then [c]
  else if c = ' ' then ['+']
  else (String.utf8EncodeChar c).flatMap percentEncoded

/-- A text as it stands in a parameter. -/
def formEncoded (text : String) : String :=
  String.ofList (text.toList.flatMap formEncodedChar)

end NodeIdentity.Text
