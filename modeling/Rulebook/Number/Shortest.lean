import Rulebook.Number.Double

/-!
The shortest decimal text of a double: the fewest digits that read back as the same number, and of
those the digits nearest to it. Numbers from 1e-4 up to 1e16 are written with a point, all others
with a power of ten.
-/

namespace Rulebook.Double

/-- The power of ten just above a positive quotient `q`: `10 ^ (p - 1) ≤ q < 10 ^ p`. -/
def decimalMagnitude (num den : Nat) : Int :=
  let guess : Int := (digitCount num : Int) - (digitCount den : Int)
  let (n, d) := scaleTen num den (-guess)
  if d ≤ n then guess + 1 else guess

/-- The two whole numbers next to `n / d`, nearest first; of two equally near the even one comes
first. -/
def neighbours (n d : Nat) : List Nat :=
  let below := n / d
  let isBelowFirst := match compare (2 * (n % d)) d with
    | .lt => true
    | .eq => below % 2 = 0
    | .gt => false
  if isBelowFirst then [below, below + 1] else [below + 1, below]

/-- The numbers of a decimal grid next to `num / den` that read back as `x`, nearest first: each is
a whole number of units of `10 ^ power`. -/
def gridHits (x : Double) (negative : Bool) (num den : Nat) (power : Int) : List Nat :=
  let (n, d) := scaleTen num den (-power)
  (neighbours n d).filter fun digits => ofDecimal negative digits power = x

/-- The shortest digits that read back as the finite number, with the power of ten of the last. -/
def shortest (negative : Bool) (mantissa : Nat) (exponent : Int) : Nat × Int :=
  let x := Double.finite negative mantissa exponent
  let (num, den) := ratio mantissa exponent
  let top := decimalMagnitude num den
  let tryDigits (count : Nat) : Option (Nat × Int) :=
    let power := top - (count + 1 : Nat)
    (gridHits x negative num den power).head?.map (·, power)
  ((List.range 17).findSome? tryDigits).getD (0, 0)

/-- How a text of digits is laid out around its decimal point. -/
structure Layout where
  /-- Powers of ten below this one are written with an exponent. -/
  leastPositional : Int
  /-- Powers of ten from this one on are written with an exponent. -/
  firstScientific : Int
  /-- The least number of digits of a written exponent. -/
  exponentWidth : Nat

/-- Doubles are written with a point from 1e-4 up to 1e16, and an exponent has two digits or
more. -/
def layout : Layout := ⟨-4, 16, 2⟩

/-- A sign and digits of an exponent. -/
def exponentText (width : Nat) (e : Int) : List Char :=
  (if e < 0 then '-' else '+') :: paddedDigits width e.natAbs

/-- Writes digits whose first one stands at the given power of ten. -/
def place (form : Layout) (digits : List Char) (power : Int) : List Char :=
  if power < form.leastPositional ∨ form.firstScientific ≤ power then
    let fraction := digits.drop 1
    digits.take 1 ++ (if fraction.isEmpty then [] else '.' :: fraction)
      ++ 'e' :: exponentText form.exponentWidth power
  else if power < 0 then
    ['0', '.'] ++ List.replicate (power.natAbs - 1) '0' ++ digits
  else
    let count := power.toNat + 1
    let whole := digits.take count ++ List.replicate (count - digits.length) '0'
    let fraction := digits.drop count
    whole ++ '.' :: (if fraction.isEmpty then ['0'] else fraction)

/-- Digits without the zeros at their end. -/
def dropZeros (digits : List Char) : List Char :=
  (digits.reverse.dropWhile (· = '0')).reverse

/-- The text of a double. -/
def text : Double → String
  | .nan _ => "nan"
  | .infinity negative => if negative then "-inf" else "inf"
  | .finite negative mantissa exponent =>
    let body :=
      if mantissa = 0 then ['0', '.', '0']
      else
        let (digits, power) := shortest negative mantissa exponent
        let ds := decimalDigits digits
        place layout (dropZeros ds) (power + ds.length - 1)
    String.ofList (if negative then '-' :: body else body)

/-- The text of a double with one decimal place; a half of the exact value goes to the even
digit. -/
def oneDecimal : Double → String
  | .finite negative mantissa exponent =>
    let (num, den) := ratio mantissa exponent
    let tenths := roundQuotient (10 * num) den
    let body := decimalDigits (tenths / 10) ++ '.' :: decimalDigits (tenths % 10)
    String.ofList (if negative then '-' :: body else body)
  | other => other.text

end Rulebook.Double
