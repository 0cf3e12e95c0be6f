/-!
Arithmetic progressions of integers, given by where they start, where they stop and their step. The
stop is never a member.
-/

namespace Rulebook

/-- The integers from a start in steps, as long as they have not reached the stop. -/
structure Span where
  start : Int
  stop : Int
  step : Int
  step_ne_zero : step ≠ 0 := by omega
  deriving DecidableEq, Repr

namespace Span

/-- A progression, unless the step is zero. -/
def of? (start stop step : Int) : Option Span :=
  if h : step ≠ 0 then some ⟨start, stop, step, h⟩ else none

/-- The number of members. -/
def length (s : Span) : Nat :=
  if 0 < s.step then
    if s.start < s.stop then ((s.stop - s.start - 1) / s.step).toNat + 1 else 0
  else
    if s.stop < s.start then ((s.start - s.stop - 1) / (-s.step)).toNat + 1 else 0

/-- The member at a position, counted from zero. -/
def nth (s : Span) (i : Nat) : Int := s.start + s.step * i

/-- Whether an integer is a member. -/
def contains (s : Span) (n : Int) : Bool :=
  if 0 < s.step then s.start ≤ n && n < s.stop && (n - s.start) % s.step = 0
  else s.stop < n && n ≤ s.start && (s.start - n) % (-s.step) = 0

/-- Whether two progressions have the same members in the same order. -/
def sameMembers (a b : Span) : Bool :=
  a.length = b.length
    && (a.length = 0 || a.start = b.start && (a.length = 1 || a.step = b.step))

/-- All members in order. -/
def toList (s : Span) : List Int := (List.range s.length).map s.nth

/-- The first member alone, if there is one. -/
def firstMember (s : Span) : List Int := if s.length = 0 then [] else [s.start]

/-- The first member; of an empty progression, the start. -/
def left (s : Span) : Int := s.start

/-- The last member; of an empty progression, the integer before the stop. -/
def right (s : Span) : Int := if s.length = 0 then s.stop - 1 else s.nth (s.length - 1)

end Span
end Rulebook
