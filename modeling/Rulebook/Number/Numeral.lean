/-!
Decimal numerals: a sign, digits with an optional point, and an optional power of ten. The same
notation is read for binary fractions, for decimals and for numbers in documents, so its parts are
kept apart until each reader decides what they mean.
-/

namespace Rulebook

/-- The decimal digits of a natural number, most significant first. -/
def decimalDigits (n : Nat) : List Char := Nat.toDigits 10 n

/-- The number of decimal digits of a natural number; zero has one. -/
def digitCount (n : Nat) : Nat := (decimalDigits n).length

/-- The value of a run of decimal digits. Other characters must not occur. -/
def digitsValue (cs : List Char) : Nat :=
  cs.foldl (fun n c => 10 * n + (c.toNat - '0'.toNat)) 0

def isHexDigit (c : Char) : Bool :=
  c.isDigit || ('a' ≤ c && c ≤ 'f') || ('A' ≤ c && c ≤ 'F')

def hexDigitValue (c : Char) : Nat :=
  if c.isDigit then c.toNat - '0'.toNat
  else if 'a' ≤ c then c.toNat - 'a'.toNat + 10
  else c.toNat - 'A'.toNat + 10

/-- The value of a run of hexadecimal digits. -/
def hexValue (cs : List Char) : Nat := cs.foldl (fun n c => 16 * n + hexDigitValue c) 0

/-- The value of a run of octal digits. -/
def octalValue (cs : List Char) : Nat := cs.foldl (fun n c => 8 * n + hexDigitValue c) 0

/-- Decimal digits, filled up with zeros on the left to a given width. -/
def paddedDigits (width n : Nat) : List Char :=
  let ds := decimalDigits n
  List.replicate (width - ds.length) '0' ++ ds

/-- The parts of a decimal numeral as it was written. -/
structure Numeral where
  negative : Bool
  whole : List Char
  /-- The digits after the point, if there is a point. -/
  fraction : Option (List Char)
  /-- The power of ten, if one is written. -/
  power : Option Int
  deriving Repr

namespace Numeral

/-- All digits of the numeral as one natural number. -/
def coefficient (n : Numeral) : Nat := digitsValue (n.whole ++ n.fraction.getD [])

/-- The power of ten of the last written digit. -/
def exponent (n : Numeral) : Int := n.power.getD 0 - (n.fraction.getD []).length

/-- Whether the numeral is written as an integer, without a point or a power. -/
def isInteger (n : Numeral) : Bool := n.fraction.isNone && n.power.isNone

/-- The value of a numeral without a point or a power. -/
def integer (n : Numeral) : Int :=
  if n.negative then -(digitsValue n.whole : Int) else digitsValue n.whole

/-- Splits off a power of ten: a letter e, an optional sign and at least one digit. A text that has
no power in front is left as it is. -/
def readPower : List Char → Option Int × List Char
  | e :: cs =>
    if e = 'e' ∨ e = 'E' then
      let (negative, digits) := match cs with
        | '-' :: r => (true, r)
        | '+' :: r => (false, r)
        | r => (false, r)
      match digits.takeWhile Char.isDigit with
      | [] => (none, e :: cs)
      | ds =>
        let n : Int := digitsValue ds
        (some (if negative then -n else n), digits.dropWhile Char.isDigit)
    else (none, e :: cs)
  | [] => (none, [])

/-- Splits off a point and the digits after it. -/
def readFraction : List Char → Option (List Char) × List Char
  | '.' :: cs => (some (cs.takeWhile Char.isDigit), cs.dropWhile Char.isDigit)
  | cs => (none, cs)

/-- Splits off a sign; the flag tells whether it was a minus. -/
def readSign : List Char → Bool × List Char
  | '-' :: cs => (true, cs)
  | '+' :: cs => (false, cs)
  | cs => (false, cs)

/-- Reads a whole text as a numeral with at least one digit. -/
def ofText? (cs : List Char) : Option Numeral :=
  let (negative, cs) := readSign cs
  let whole := cs.takeWhile Char.isDigit
  let (fraction, cs) := readFraction (cs.dropWhile Char.isDigit)
  let (power, rest) := readPower cs
  if rest.isEmpty && !(whole ++ fraction.getD []).isEmpty then
    some { negative, whole, fraction, power }
  else none

end Numeral
end Rulebook
