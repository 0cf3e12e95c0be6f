import Rulebook.Number.Numeral

/-!
Calendar dates of the Gregorian calendar, from year 1 to year 9999.
-/

namespace Rulebook

structure Date where
  year : Nat
  month : Nat
  day : Nat
  deriving DecidableEq, Repr

namespace Date

def isLeap (year : Nat) : Bool := year % 4 = 0 && (year % 100 != 0 || year % 400 = 0)

/-- The days of the months of a year before the given month. -/
def daysBeforeMonth (year month : Nat) : Nat :=
  let lengths := [31, if isLeap year then 29 else 28, 31, 30, 31, 30, 31, 31, 30, 31, 30, 31]
  (lengths.take (month - 1)).foldl (· + ·) 0

/-- The number of days from the start of year 1 up to and including the date. -/
def ordinal (d : Date) : Nat :=
  let y := d.year - 1
  y * 365 + y / 4 - y / 100 + y / 400 + daysBeforeMonth d.year d.month + d.day

/-- Earlier dates come first. -/
def order (a b : Date) : Ordering :=
  (compare a.year b.year).then ((compare a.month b.month).then (compare a.day b.day))

/-- Year, month and day with four, two and two digits. -/
def text (d : Date) : String :=
  String.ofList (paddedDigits 4 d.year ++ '-' :: paddedDigits 2 d.month
    ++ '-' :: paddedDigits 2 d.day)

/-- Reads digits in fixed places: as many as the width, and nothing else. -/
def readDigits (width : Nat) (cs : List Char) : Option Nat :=
  if cs.length = width && cs.all Char.isDigit then some (digitsValue cs) else none

/-- Reads the notation that `text` writes. -/
def ofChars? (cs : List Char) : Option Date := do
  let year ← readDigits 4 (cs.take 4)
  let month ← readDigits 2 ((cs.drop 5).take 2)
  let day ← readDigits 2 (cs.drop 8)
  if cs[4]? = some '-' && cs[7]? = some '-' then some ⟨year, month, day⟩ else none

def ofText? (s : String) : Option Date := ofChars? s.toList

end Date
end Rulebook
