import Rulebook.Number.Double
import Rulebook.Number.Decimal

/-!
Comparing numbers of different kinds by their exact values. Integers, doubles and decimals are all
whole numbers times a power of ten, so no comparison rounds.
-/

namespace Rulebook

/-- The number coefficient · 10 ^ exponent, negated if the flag is set. -/
structure Exact where
  negative : Bool
  coefficient : Nat
  exponent : Int
  deriving DecidableEq, Repr

namespace Exact

def ofInt (n : Int) : Exact := ⟨n < 0, n.natAbs, 0⟩

/-- A mantissa times a power of two; a negative power of two is a power of five over one of ten. -/
def ofBinary (negative : Bool) (mantissa : Nat) (exponent : Int) : Exact :=
  if exponent < 0 then ⟨negative, mantissa * Nat.pow 5 exponent.natAbs, exponent⟩
  else ⟨negative, mantissa * Nat.pow 2 exponent.natAbs, 0⟩

/-- Orders two absolute values. The powers of ten of the leading digits decide if they differ;
otherwise both are brought to the smaller exponent. -/
def compareAbs (a b : Exact) : Ordering :=
  if a.coefficient = 0 ∨ b.coefficient = 0 then compare a.coefficient b.coefficient
  else
    let top (x : Exact) : Int := x.exponent + digitCount x.coefficient
    (compare (top a) (top b)).then <|
      let shared := min a.exponent b.exponent
      let lift (x : Exact) : Nat := x.coefficient * Nat.pow 10 (x.exponent - shared).natAbs
      compare (lift a) (lift b)

/-- Whether the number is below zero; a negated zero is not. -/
def isNegative (a : Exact) : Bool := a.negative && a.coefficient != 0

/-- Orders two numbers by value. -/
def compareValue (a b : Exact) : Ordering :=
  match a.isNegative, b.isNegative with
  | true, true => compareAbs b a
  | true, false => .lt
  | false, true => .gt
  | false, false => compareAbs a b

/-- Whether the absolute value is at most a bound. -/
def isWithin (bound : Nat) (a : Exact) : Bool := a.compareAbs (ofInt bound) != .gt

/-- The integer that the number equals, if it equals one. -/
def toInt? (a : Exact) : Option Int :=
  let signed (n : Nat) : Int := if a.negative then -(n : Int) else n
  if a.coefficient = 0 then some 0
  else if 0 ≤ a.exponent then some (signed (a.coefficient * Nat.pow 10 a.exponent.natAbs))
  else
    if digitCount a.coefficient ≤ a.exponent.natAbs then none
    else
      let unit := Nat.pow 10 a.exponent.natAbs
      if a.coefficient % unit = 0 then some (signed (a.coefficient / unit)) else none

end Exact

/-- What a number of any kind denotes. -/
inductive Quantity where
  | exact (x : Exact)
  | infinite (negative : Bool)
  /-- No number. The flags tell a decimal from a double, and a signaling NaN from a quiet one. -/
  | nan (decimal signaling : Bool)
  deriving DecidableEq, Repr

namespace Quantity

def ofDouble : Double → Quantity
  | .nan _ => .nan false false
  | .infinity negative => .infinite negative
  | .finite negative mantissa exponent => .exact (.ofBinary negative mantissa exponent)

def ofDecimal : Decimal → Quantity
  | .nan _ signaling _ _ => .nan true signaling
  | .infinity negative => .infinite negative
  | .finite negative coefficient exponent => .exact ⟨negative, coefficient, exponent⟩

/-- Orders two quantities; there is no order with a NaN. -/
def compare? : Quantity → Quantity → Option Ordering
  | .nan _ _, _ => none
  | _, .nan _ _ => none
  | .exact a, .exact b => some (a.compareValue b)
  | .infinite a, .infinite b =>
    some (if a = b then .eq else if a then .lt else .gt)
  | .infinite a, .exact _ => some (if a then .lt else .gt)
  | .exact _, .infinite b => some (if b then .gt else .lt)

/-- Whether the quantity is a NaN that no comparison accepts. -/
def isSignaling : Quantity → Bool
  | .nan _ signaling => signaling
  | _ => false

end Quantity
end Rulebook
