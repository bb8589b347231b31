import NodeIdentity.Number.Decimal

/-!
# Binary floating point

The finite non-negative numbers of the 64-bit binary floating-point format, with exact natural-number
arithmetic behind every operation: a sum or a quotient is computed exactly and then rounded once to
the nearest number of the format, ties to the even mantissa.  `shortest` gives the decimal with the
fewest digits that rounds back to the number.
-/

namespace NodeIdentity

/-- The number `mantissa * 2 ^ exponent`. -/
structure Binary64 where
  mantissa : Nat
  exponent : Int
deriving DecidableEq, Repr, Inhabited

namespace Binary64

/-- The least exponent of the format. -/
def minExponent : Int := -1074

/-- The number zero. -/
def zero : Binary64 := ⟨0, minExponent⟩

/-- The integer nearest to a quotient, a tie going to the even one. -/
def roundQuotient (num den : Nat) : Nat :=
  let quotient := num / den
  let remainder := num % den
  if den < 2 * remainder ∨ (2 * remainder = den ∧ quotient % 2 = 1) then quotient + 1
  else quotient

/-- Numerator and denominator of `num / den / 2 ^ exponent`. -/
def scale (num den : Nat) (exponent : Int) : Nat × Nat :=
  if 0 ≤ exponent then (num, den * Nat.pow 2 exponent.toNat)
  else (num * Nat.pow 2 (-exponent).toNat, den)

/-- The number of the format nearest to `num / den`. -/
def ofRatio (num den : Nat) : Binary64 :=
  if num = 0 then zero
  else
    let guess : Int := (Nat.log2 num : Int) - (Nat.log2 den : Int) - 53
    let low := max minExponent guess
    let (n, d) := scale num den low
    let exponent := if n / d < Nat.pow 2 53 then low else low + 1
    let (n, d) := scale num den exponent
    let mantissa := roundQuotient n d
    if mantissa = Nat.pow 2 53 then ⟨Nat.pow 2 52, exponent + 1⟩ else ⟨mantissa, exponent⟩

/-- The number of the format nearest to a natural number. -/
def ofNat (n : Nat) : Binary64 :=
  ofRatio n 1

/-- The exact value as numerator and denominator. -/
def ratio (x : Binary64) : Nat × Nat :=
  if 0 ≤ x.exponent then (x.mantissa * Nat.pow 2 x.exponent.toNat, 1)
  else (x.mantissa, Nat.pow 2 (-x.exponent).toNat)

/-- The rounded sum. -/
def add (x y : Binary64) : Binary64 :=
  let (xn, xd) := x.ratio
  let (yn, yd) := y.ratio
  ofRatio (xn * yd + yn * xd) (xd * yd)

instance : Add Binary64 := ⟨add⟩

/-- The rounded product. -/
def mul (x y : Binary64) : Binary64 :=
  let (xn, xd) := x.ratio
  let (yn, yd) := y.ratio
  ofRatio (xn * yn) (xd * yd)

instance : Mul Binary64 := ⟨mul⟩

/-- The rounded quotient; a divisor is never zero. -/
def div (x y : Binary64) : Binary64 :=
  let (xn, xd) := x.ratio
  let (yn, yd) := y.ratio
  ofRatio (xn * yd) (xd * yn)

instance : Div Binary64 := ⟨div⟩

/-- Whether the number is too large for the format. -/
def overflows (x : Binary64) : Bool :=
  971 < x.exponent

/-- Whether the first number is at most the second. -/
def le (x y : Binary64) : Bool :=
  let (xn, xd) := x.ratio
  let (yn, yd) := y.ratio
  xn * yd ≤ yn * xd

/-- Whether a power of ten, or a multiple of it, is at most a quotient. -/
def tenPowerLe (factor : Nat) (power : Int) (num den : Nat) : Bool :=
  if 0 ≤ power then factor * Nat.pow 10 power.toNat * den ≤ num
  else factor * den ≤ num * Nat.pow 10 (-power).toNat

/-- The greatest `k` at most `start` with `10 ^ k ≤ num / den`, looking `fuel` places down. -/
def leadingPlace (num den : Nat) : Nat → Int → Int
  | 0, start => start
  | fuel + 1, start =>
      if tenPowerLe 1 start num den then start else leadingPlace num den fuel (start - 1)

/-- Whether `factor * 10 ^ power` rounds to `x`, which holds of the reals between its neighbours. -/
def roundsTo (x : Binary64) (factor : Nat) (power : Int) : Bool :=
  let (un, ud) := (⟨1, x.exponent - 2⟩ : Binary64).ratio
  let low := if x.mantissa = Nat.pow 2 52 ∧ minExponent < x.exponent then 4 * x.mantissa - 1
    else 4 * x.mantissa - 2
  let high := 4 * x.mantissa + 2
  let (n, d) := if 0 ≤ power then (factor * Nat.pow 10 power.toNat, 1)
    else (factor, Nat.pow 10 (-power).toNat)
  if x.mantissa % 2 = 0 then low * un * d ≤ n * ud ∧ n * ud ≤ high * un * d
  else low * un * d < n * ud ∧ n * ud < high * un * d

/--
Search the decimal grids from place `power` downward, at most `fuel` of them.  On each grid only
the two neighbours of the value can round to it; of two that do, the nearer is taken and a tie goes
to the even one.
-/
def searchGrids (x : Binary64) : Nat → Int → Decimal
  | 0, _ => { digits := 0, exponent := 0 }
  | fuel + 1, power =>
      let (num, den) := x.ratio
      let (n, d) := if 0 ≤ power then (num, den * Nat.pow 10 power.toNat)
        else (num * Nat.pow 10 (-power).toNat, den)
      let below := n / d
      let above := below + 1
      match x.roundsTo below power, x.roundsTo above power with
      | true, true => { digits := roundQuotient n d, exponent := power }
      | true, false => { digits := below, exponent := power }
      | false, true => { digits := above, exponent := power }
      | false, false => searchGrids x fuel (power - 1)

/-- The decimal with the fewest digits that rounds to the number, and of those the nearest. -/
def shortest (x : Binary64) : Decimal :=
  if x.mantissa = 0 then { digits := 0, exponent := 0 }
  else
    let (num, den) := x.ratio
    let top : Int := ((Nat.toDigits 10 (num / den)).length : Int) - 1
    let place := leadingPlace num den 400 top
    (searchGrids x 20 place).normalize

end Binary64

end NodeIdentity
