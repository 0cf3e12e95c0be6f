import Rulebook.Number.Numeral

/-!
Decimal numbers that keep the digits they were written with: 1.5 and 1.50 are equal in value and
differ in text.
-/

namespace Rulebook

/-- A decimal number. A NaN carries a mark that tells its occurrences apart. -/
inductive Decimal where
  /-- The number coefficient · 10 ^ exponent, negated if the flag is set. -/
  | finite (negative : Bool) (coefficient : Nat) (exponent : Int)
  | infinity (negative : Bool)
  /-- No number; a signaling NaN may not take part in any comparison with a number. -/
  | nan (negative signaling : Bool) (payload : Nat) (mark : Nat)
  deriving DecidableEq, Repr

namespace Decimal

/-- Reads the diagnostic digits of a NaN; none stand for zero. -/
def readPayload (cs : List Char) : Option Nat :=
  if cs.all Char.isDigit then some (digitsValue cs) else none

/-- Reads a numeral, an infinity or a NaN; a NaN gets the given mark. -/
def ofText? (mark : Nat) (s : String) : Option Decimal :=
  let (negative, body) := Numeral.readSign s.toList
  let word := body.map Char.toLower
  if word = "inf".toList ∨ word = "infinity".toList then some (.infinity negative)
  else if word.take 3 = "nan".toList then
    (readPayload (word.drop 3)).map (.nan negative false · mark)
  else if word.take 4 = "snan".toList then
    (readPayload (word.drop 4)).map (.nan negative true · mark)
  else (Numeral.ofText? s.toList).map fun n => .finite n.negative n.coefficient n.exponent

/-- The exponent as written after the letter: always signed. -/
def powerText (e : Int) : List Char :=
  'E' :: (if e < 0 then '-' else '+') :: decimalDigits e.natAbs

/-- Digits with their last one at a power of ten: without an exponent if that power is not positive
and at most five zeros follow the point, otherwise with one digit before the point. -/
def place (digits : List Char) (exponent : Int) : List Char :=
  let count : Int := digits.length
  let left := exponent + count
  if exponent ≤ 0 ∧ -6 < left then
    if left ≤ 0 then ['0', '.'] ++ List.replicate left.natAbs '0' ++ digits
    else
      let fraction := digits.drop left.toNat
      digits.take left.toNat ++ (if fraction.isEmpty then [] else '.' :: fraction)
  else
    let fraction := digits.drop 1
    digits.take 1 ++ (if fraction.isEmpty then [] else '.' :: fraction) ++ powerText (left - 1)

/-- The text of a decimal. -/
def text : Decimal → String
  | .finite negative coefficient exponent =>
    signed negative (place (decimalDigits coefficient) exponent)
  | .infinity negative => signed negative "Infinity".toList
  | .nan negative signaling payload _ =>
    signed negative ((if signaling then "sNaN".toList else "NaN".toList)
      ++ (if payload = 0 then [] else decimalDigits payload))
where
  signed (negative : Bool) (body : List Char) : String :=
    String.ofList (if negative then '-' :: body else body)

/-- Whether the number is a zero of either sign. -/
def isZero : Decimal → Bool
  | .finite _ coefficient _ => coefficient = 0
  | _ => false

end Decimal
end Rulebook
