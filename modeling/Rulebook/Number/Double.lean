import Rulebook.Number.Numeral

/-!
Binary floating-point numbers with 53 bits of precision, as exact values. Every finite number is a
mantissa times a power of two; rounding happens in one place, `Double.nearest`, in exact arithmetic.
-/

namespace Rulebook

/-- A double-precision number. Each NaN carries a mark that tells its occurrences apart: two NaNs
are the same occurrence exactly if their marks agree. -/
inductive Double where
  | nan (mark : Nat)
  | infinity (negative : Bool)
  /-- The number mantissa · 2 ^ exponent, negated if the flag is set. -/
  | finite (negative : Bool) (mantissa : Nat) (exponent : Int)
  deriving DecidableEq, Repr

/-- A quotient rounded to a whole number; a half goes to the even neighbour. -/
def roundQuotient (num den : Nat) : Nat :=
  let q := num / den
  let r := num % den
  if 2 * r < den then q else if den < 2 * r then q + 1 else q + q % 2

namespace Double

/-- The exponent of subnormal numbers, the smallest there is. -/
def leastExponent : Int := -1074

/-- The exponent of the largest finite numbers. -/
def greatestExponent : Int := 971

/-- A quotient times a power of two, as a numerator and a denominator. -/
def scaleTwo (num den : Nat) (power : Int) : Nat × Nat :=
  if power < 0 then (num, den * Nat.pow 2 power.natAbs) else (num * Nat.pow 2 power.natAbs, den)

/-- A quotient times a power of ten, as a numerator and a denominator. -/
def scaleTen (num den : Nat) (power : Int) : Nat × Nat :=
  if power < 0 then (num, den * Nat.pow 10 power.natAbs) else (num * Nat.pow 10 power.natAbs, den)

/-- The greatest power of two that is at most the positive quotient. -/
def floorLog (num den : Nat) : Int :=
  let guess : Int := (num.log2 : Int) - (den.log2 : Int)
  let (n, d) := scaleTwo num den (-guess)
  if d ≤ n then guess else guess - 1

/-- Zero of either sign. -/
def zero (negative : Bool) : Double := .finite negative 0 leastExponent

/-- The double nearest to a quotient; a half goes to the even mantissa, and what rounds beyond the
largest finite number is infinite. -/
def nearest (negative : Bool) (num den : Nat) : Double :=
  if num = 0 then zero negative
  else
    let exponent := max leastExponent (floorLog num den - 52)
    let (n, d) := scaleTwo num den (-exponent)
    let mantissa := roundQuotient n d
    let (mantissa, exponent) :=
      if mantissa = Nat.pow 2 53 then (Nat.pow 2 52, exponent + 1) else (mantissa, exponent)
    if greatestExponent < exponent then .infinity negative
    else .finite negative mantissa exponent

/-- The double nearest to a coefficient times a power of ten. Powers far outside the range are
decided by the number of digits, without computing them. -/
def ofDecimal (negative : Bool) (coefficient : Nat) (power : Int) : Double :=
  if coefficient = 0 then zero negative
  else
    let magnitude := power + digitCount coefficient
    if 310 < magnitude then .infinity negative
    else if magnitude < -330 then zero negative
    else
      let (n, d) := scaleTen coefficient 1 power
      nearest negative n d

/-- The double nearest to a numeral. -/
def ofNumeral (n : Numeral) : Double := ofDecimal n.negative n.coefficient n.exponent

/-- Reads a numeral, an infinity or a NaN; a NaN gets the given mark. -/
def ofText? (mark : Nat) (s : String) : Option Double :=
  let (negative, body) := Numeral.readSign s.toList
  let word := String.ofList (body.map Char.toLower)
  if word = "nan" then some (.nan mark)
  else if word = "inf" ∨ word = "infinity" then some (.infinity negative)
  else (Numeral.ofText? s.toList).map ofNumeral

/-- The absolute value of mantissa · 2 ^ exponent, as a numerator and a denominator. -/
def ratio (mantissa : Nat) (exponent : Int) : Nat × Nat := scaleTwo mantissa 1 exponent

/-- The number divided by a positive whole number. -/
def divide (x : Double) (divisor : Nat) : Double :=
  match x with
  | .finite negative mantissa exponent =>
    let (n, d) := ratio mantissa exponent
    nearest negative n (d * divisor)
  | other => other

/-- Whether the number is a zero of either sign. -/
def isZero : Double → Bool
  | .finite _ mantissa _ => mantissa = 0
  | _ => false

end Double
end Rulebook
