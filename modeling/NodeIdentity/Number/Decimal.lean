/-!
# Decimal numbers

Decimals as a sign, a run of digits and a power of ten, and the two ways they are written:
positionally, as in a metrics line, and in the mixed form of a document, which turns to an exponent
for very large and very small values.
-/

namespace NodeIdentity

/-- The number `digits * 10 ^ exponent`, negated if `negative`. -/
structure Decimal where
  negative : Bool := false
  digits : Nat
  exponent : Int
deriving DecidableEq, Repr, Inhabited

namespace Decimal

/-- Drop final zeros of the digits, at most `fuel` of them, raising the exponent. -/
def trimZeros : Nat → Nat → Int → Nat × Int
  | 0, digits, exponent => (digits, exponent)
  | fuel + 1, digits, exponent =>
      if digits % 10 = 0 then trimZeros fuel (digits / 10) (exponent + 1)
      else (digits, exponent)

/-- The same number without final zeros in its digits; zero has exponent zero. -/
def normalize (d : Decimal) : Decimal :=
  if d.digits = 0 then { d with exponent := 0 }
  else
    let (digits, exponent) := trimZeros (Nat.log2 d.digits) d.digits d.exponent
    { d with digits := digits, exponent := exponent }

/-- The digits of a natural number, most significant first. -/
def digitText (n : Nat) : String :=
  String.ofList (Nat.toDigits 10 n)

/-- A run of zeros. -/
def zeros (n : Nat) : String :=
  String.ofList (List.replicate n '0')

/-- The sign as it is written in front of the digits. -/
def signText (d : Decimal) : String :=
  if d.negative then "-" else ""

/--
The unsigned number with all its places written out: no exponent, and no point where the number is
integral.
-/
def positionalDigits (d : Decimal) : String :=
  let text := digitText d.digits
  if 0 ≤ d.exponent then
    text ++ (if d.digits = 0 then "" else zeros d.exponent.toNat)
  else
    let places := (-d.exponent).toNat
    let padded := zeros (places + 1 - text.length) ++ text
    String.ofList (padded.toList.take (padded.length - places)) ++ "." ++
      String.ofList (padded.toList.drop (padded.length - places))

/-- The number with all its places written out. -/
def positional (d : Decimal) : String :=
  d.signText ++ d.positionalDigits

/--
The number as documents write it: positionally, with at least one place, while the point stands at
most sixteen digits in or at most four zeros before the first digit, and with a signed exponent
otherwise.
-/
def documentText (d : Decimal) : String :=
  let text := digitText d.digits
  let point : Int := text.length + d.exponent
  d.signText ++
    if d.digits = 0 then "0.0"
    else if 0 ≤ d.exponent ∧ point ≤ 16 then d.positionalDigits ++ ".0"
    else if -5 < point ∧ point ≤ 16 then d.positionalDigits
    else
      let rest := String.ofList (text.toList.drop 1)
      String.ofList (text.toList.take 1) ++ (if rest.isEmpty then "" else "." ++ rest) ++
        (if 0 < point then "e+" else "e") ++ toString (point - 1)

end Decimal

end NodeIdentity
