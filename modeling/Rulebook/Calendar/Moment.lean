import Rulebook.Calendar.Clock

/-!
A date together with a time of day.
-/

namespace Rulebook

structure Moment where
  date : Date
  clock : Clock
  deriving DecidableEq, Repr

namespace Moment

/-- Microseconds since the start of the calendar, in universal time where the offset is known. -/
def instant (m : Moment) : Int := (m.date.ordinal : Int) * 86400000000 + m.clock.universal

/-- Orders two moments if both have an offset or neither has. -/
def order? (a b : Moment) : Option Ordering :=
  if a.clock.offset.isSome = b.clock.offset.isSome then some (compare a.instant b.instant)
  else none

/-- The date, a separator, and the time. -/
def textWith (separator : Char) (m : Moment) : String :=
  String.ofList (m.date.text.toList ++ separator :: m.clock.chars)

/-- Reads a date, any one separator, and a time; a date alone is midnight. -/
def ofText? (s : String) : Option Moment := do
  let cs := s.toList
  let date ← Date.ofChars? (cs.take 10)
  match cs.drop 10 with
  | [] => some ⟨date, 0, 0, 0, 0, none⟩
  | _ :: rest => (Clock.ofChars? rest).map (⟨date, ·⟩)

end Moment
end Rulebook
