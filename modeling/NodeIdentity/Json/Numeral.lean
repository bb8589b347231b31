import NodeIdentity.Json.Basic
import NodeIdentity.Json.Token
import NodeIdentity.Number.Binary64

/-!
# Numbers in documents

Numbers as they stand in the text of a document.  The digits of a number are gathered as long as 64
bits hold them; digits beyond are dropped, those in front of the point each counting for a power of
ten.  A number with a point, an exponent or dropped digits is the gathered number scaled by a power
of ten, with one rounding where the number is gathered and one for the scaling.
-/

namespace NodeIdentity.Json

/-- The value of a decimal digit. -/
def digitOf (c : Char) : Nat :=
  c.toNat - '0'.toNat

/-- Add digits to a number as long as a limit allows: the number, and the digits that are left. -/
def gatherDigits (limit : Nat) : Nat → List Char → Nat × List Char
  | number, [] => (number, [])
  | number, c :: digits =>
      if number * 10 + digitOf c ≤ limit then gatherDigits limit (number * 10 + digitOf c) digits
      else (number, c :: digits)

/-- The greatest number that is gathered. -/
def gatherLimit : Nat :=
  Nat.pow 2 64 - 1

/-- A power of ten, for exponents up to 308. -/
def tenPower (exponent : Nat) : Binary64 :=
  Binary64.ofNat (Nat.pow 10 exponent)

/--
A number scaled down by a power of ten, in steps of at most 308 places.  Two steps reach the end of
the format, so `fuel` need not be more.
-/
def scaleDown : (fuel : Nat) → Binary64 → Nat → Binary64
  | 0, _, _ => Binary64.zero
  | fuel + 1, value, places =>
      if places ≤ 308 then value / tenPower places
      else scaleDown fuel (value / tenPower 308) (places - 308)

/-- A gathered number scaled by a power of ten, unless that is too large for the format. -/
def scaled? (number : Nat) (exponent : Int) : Option Binary64 :=
  if number = 0 then some Binary64.zero
  else if exponent < 0 then some (scaleDown 4 (Binary64.ofNat number) (-exponent).toNat)
  else if 308 < exponent then none
  else
    let value := Binary64.ofNat number * tenPower exponent.toNat
    if value.overflows then none else some value

/-- The document of a number that is no integer. -/
def floatDocument (negative : Bool) (value : Binary64) : Json :=
  .float { value.shortest with negative := negative }

/-- The number that was read with a point or an exponent, unless it is out of range. -/
def readScaled (negative : Bool) (number : Nat) (exponent : Int) (rest : List Char) : Read Json :=
  match scaled? number exponent with
  | some value => .ok (floatDocument negative value, rest)
  | none => stopBefore .numberOutOfRange rest

/-- The greatest exponent that is gathered. -/
def exponentLimit : Nat :=
  Nat.pow 2 31 - 1

/-- Whether an exponent is negative, and the text behind its sign. -/
def exponentSign : List Char → Bool × List Char
  | '+' :: rest => (false, rest)
  | '-' :: rest => (true, rest)
  | rest => (false, rest)

/-- Read an exponent behind its mark, and with it the number whose other digits are read. -/
def readExponent (negative : Bool) (number : Nat) (exponent : Int) (cs : List Char) : Read Json :=
  match exponentSign cs with
  | (_, []) => stopBefore .endInValue []
  | (down, c :: rest) =>
      if c.isDigit then
        let digits := (c :: rest).takeWhile Char.isDigit
        let behind := (c :: rest).dropWhile Char.isDigit
        match gatherDigits exponentLimit 0 digits with
        | (power, []) =>
            readScaled negative number (if down then exponent - power else exponent + power) behind
        | (_, left) =>
            if number = 0 ∨ down then .ok (floatDocument negative Binary64.zero, behind)
            else stopAt .numberOutOfRange (left ++ behind)
      else stopAt .numberInvalid (c :: rest)

/-- Read what may follow the digits of a number: an exponent. -/
def readTail (negative : Bool) (number : Nat) (exponent : Int) : List Char → Read Json
  | 'e' :: rest | 'E' :: rest => readExponent negative number exponent rest
  | rest => readScaled negative number exponent rest

/-- Read the places of a number behind its point. -/
def readPlaces (negative : Bool) (number : Nat) (exponent : Int) (cs : List Char) : Read Json :=
  match cs.takeWhile Char.isDigit, cs with
  | [], [] => stopBefore .endInValue []
  | [], rest => stopAt .numberInvalid rest
  | places, rest =>
      let (number, left) := gatherDigits gatherLimit number places
      readTail negative number (exponent - (places.length - left.length : Nat))
        (rest.dropWhile Char.isDigit)

/-- The document of a number without a point and without an exponent, all of its digits gathered. -/
def integerDocument (negative : Bool) (number : Nat) : Json :=
  if negative then
    if number ≠ 0 ∧ number ≤ Nat.pow 2 63 then .int (-(number : Int))
    else floatDocument true (Binary64.ofNat number)
  else .int number

/-- Read a number behind its sign. -/
def readNumber (negative : Bool) (cs : List Char) : Read Json :=
  let rest := cs.dropWhile Char.isDigit
  match cs.takeWhile Char.isDigit, cs with
  | [], [] => stopBefore .endInValue []
  | [], cs => stopAt .numberInvalid cs
  | '0' :: next :: more, _ => stopAt .numberInvalid (next :: more ++ rest)
  | whole, _ =>
      let (number, left) := gatherDigits gatherLimit 0 whole
      match left, rest with
      | left, '.' :: rest => readPlaces negative number left.length rest
      | [], 'e' :: rest | [], 'E' :: rest => readExponent negative number 0 rest
      | [], rest => .ok (integerDocument negative number, rest)
      | left, rest => readTail negative number left.length rest

/-- Pass over an exponent behind its mark. -/
def skipExponent (cs : List Char) : Read Unit :=
  match (exponentSign cs).2 with
  | c :: rest =>
      if c.isDigit then .ok ((), rest.dropWhile Char.isDigit) else stopAt .numberInvalid (c :: rest)
  | [] => stopBefore .numberInvalid []

/-- Pass over what may follow the digits of a number: an exponent. -/
def skipTail : List Char → Read Unit
  | 'e' :: rest | 'E' :: rest => skipExponent rest
  | rest => .ok ((), rest)

/-- Pass over a number behind its sign, however large it is. -/
def skipNumber (cs : List Char) : Read Unit :=
  let rest := cs.dropWhile Char.isDigit
  match cs.takeWhile Char.isDigit with
  | [] => stopAt .numberInvalid cs
  | '0' :: next :: more => stopAt .numberInvalid (next :: more ++ rest)
  | _ =>
      match rest with
      | '.' :: rest =>
          match rest.takeWhile Char.isDigit with
          | [] => stopAt .numberInvalid rest
          | _ => skipTail (rest.dropWhile Char.isDigit)
      | rest => skipTail rest

end NodeIdentity.Json
