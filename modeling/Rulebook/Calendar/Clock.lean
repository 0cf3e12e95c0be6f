import Rulebook.Calendar.Date

/-!
Times of day down to the microsecond, with or without an offset from universal time. A time with an
offset and one without are never equal and have no order. Offsets are as fine as times are, but two
times of day are compared with their offsets taken down to whole seconds.
-/

namespace Rulebook

structure Clock where
  hour : Nat
  minute : Nat
  second : Nat
  microsecond : Nat
  /-- The offset from universal time in microseconds, if it is known. -/
  offset : Option Int
  deriving DecidableEq, Repr

namespace Clock

/-- Microseconds since midnight on the clock's own dial. -/
def dial (c : Clock) : Int :=
  (((c.hour * 60 + c.minute) * 60 + c.second) * 1000000 + c.microsecond : Nat)

/-- The microseconds of a second. -/
def perSecond : Int := 1000000

/-- Microseconds since midnight in universal time, where the offset is known. -/
def universal (c : Clock) : Int := c.dial - c.offset.getD 0

/-- Microseconds since midnight in universal time, for an offset taken down to whole seconds. -/
def coarse (c : Clock) : Int := c.dial - Int.fdiv (c.offset.getD 0) perSecond * perSecond

/-- Orders two times by universal time if both have an offset and by their dials if neither has. -/
def order? (a b : Clock) : Option Ordering :=
  if a.offset.isSome = b.offset.isSome then some (compare a.coarse b.coarse) else none

/-- Whether two times that are equal are also the same as keys: to the microsecond. -/
def sameInstant (a b : Clock) : Bool := a.universal = b.universal

/-- An offset as a sign, hours and minutes, then seconds and microseconds as far as there are
any. -/
def offsetText (offset : Int) : List Char :=
  let n := offset.natAbs / perSecond.natAbs
  let fraction := offset.natAbs % perSecond.natAbs
  let seconds := if n % 60 = 0 && fraction = 0 then [] else ':' :: paddedDigits 2 (n % 60)
  (if offset < 0 then '-' else '+') :: paddedDigits 2 (n / 3600)
    ++ ':' :: paddedDigits 2 (n / 60 % 60) ++ seconds
    ++ (if fraction = 0 then [] else '.' :: paddedDigits 6 fraction)

/-- Hours, minutes and seconds with two digits each, then microseconds and offset if there are
any. -/
def chars (c : Clock) : List Char :=
  paddedDigits 2 c.hour ++ ':' :: paddedDigits 2 c.minute ++ ':' :: paddedDigits 2 c.second
    ++ (if c.microsecond = 0 then [] else '.' :: paddedDigits 6 c.microsecond)
    ++ (match c.offset with
        | none => []
        | some offset => offsetText offset)

def text (c : Clock) : String := String.ofList c.chars

/-- Reads numbers of two digits separated by colons. -/
def readPairs : List Char → Option (List Nat)
  | [a, b] => (Date.readDigits 2 [a, b]).map ([·])
  | a :: b :: ':' :: rest => do
    let n ← Date.readDigits 2 [a, b]
    return n :: (← readPairs rest)
  | _ => none

/-- Reads hours, minutes, seconds and a fraction; its digits beyond the sixth are dropped. -/
def readDial (cs : List Char) : Option (List Nat × Nat) := do
  let parts ← readPairs (cs.takeWhile (· != '.'))
  match cs.dropWhile (· != '.') with
  | [] => return (parts, 0)
  | _ :: digits =>
    if digits.all Char.isDigit && !digits.isEmpty then
      return (parts, digitsValue ((digits ++ List.replicate 6 '0').take 6))
    else none

/-- Reads an offset: the letter Z, or a sign and a distance. A distance of less than a second is
none. -/
def readOffset (cs : List Char) : Option Int :=
  let signed (sign : Int) (rest : List Char) : Option Int := do
    let (parts, fraction) ← readDial rest
    let total := parts.getD 0 0 * 3600 + parts.getD 1 0 * 60 + parts.getD 2 0
    if total = 0 then return 0 else return sign * (total * perSecond + fraction)
  match cs with
  | ['Z'] => some 0
  | '+' :: rest => signed 1 rest
  | '-' :: rest => signed (-1) rest
  | _ => none

/-- Reads a time. -/
def ofChars? (cs : List Char) : Option Clock := do
  let isOffsetStart (c : Char) : Bool := c = '+' || c = '-' || c = 'Z'
  let offset ← match cs.dropWhile (!isOffsetStart ·) with
    | [] => some none
    | rest => (readOffset rest).map some
  let (parts, microsecond) ← readDial (cs.takeWhile (!isOffsetStart ·))
  return ⟨parts.getD 0 0, parts.getD 1 0, parts.getD 2 0, microsecond, offset⟩

def ofText? (s : String) : Option Clock := ofChars? s.toList

end Clock
end Rulebook
