import Rulebook.Value.Equality

/-!
Order of values. Numbers are ordered by value, texts and bytes lexicographically, sequences by
their first difference, and sets by inclusion. Values of other kinds, or of different kinds, have
no order.
-/

namespace Rulebook

/-- The four questions about order. -/
inductive Comparison where
  | less
  | atMost
  | greater
  | atLeast
  deriving DecidableEq, Repr

/-- The answer to a question when the order is known. -/
def Comparison.holds : Comparison → Ordering → Bool
  | .less, o => o = .lt
  | .atMost, o => o != .gt
  | .greater, o => o = .gt
  | .atLeast, o => o != .lt

/-- Lexicographic order of lists of numbers. -/
def lexOrder : List Nat → List Nat → Ordering
  | [], [] => .eq
  | [], _ :: _ => .lt
  | _ :: _, [] => .gt
  | x :: xs, y :: ys => (compare x y).then (lexOrder xs ys)

def Atom.isDecimal : Atom → Bool
  | .decimal _ => true
  | _ => false

/-- The order of two atoms that are not both numbers, where there is one. -/
def Atom.orderPlain? : Atom → Atom → Option Ordering
  | .str a, .str b => some (lexOrder (a.toList.map Char.toNat) (b.toList.map Char.toNat))
  | .bytes a, .bytes b => some (lexOrder (a.map UInt8.toNat) (b.map UInt8.toNat))
  | .date a, .date b => some (a.order b)
  | .moment a, .moment b => a.order? b
  | .clock a, .clock b => a.order? b
  | _, _ => none

/-- Compares two atoms. A comparison with a NaN fails, and with a decimal in it is refused. -/
def Atom.compares (c : Comparison) (a b : Atom) : Except Fault Bool :=
  match a.quantity?, b.quantity? with
  | some p, some q =>
    match p.compare? q with
    | some o => .ok (c.holds o)
    | none => if a.isDecimal || b.isDecimal then .error .invalidOperation else .ok false
  | _, _ =>
    match a.orderPlain? b with
    | some o => .ok (c.holds o)
    | none => .error .unsupported

namespace Value

/-- Compares two sets by inclusion. -/
def comparesSets (c : Comparison) (xs ys : List Value) : Bool :=
  match c with
  | .less => xs.length < ys.length && subset xs ys
  | .atMost => xs.length ≤ ys.length && subset xs ys
  | .greater => ys.length < xs.length && subset ys xs
  | .atLeast => ys.length ≤ xs.length && subset ys xs

mutual

/-- Compares two values. -/
def compares (c : Comparison) : Value → Value → Except Fault Bool
  | .atom a, .atom b => a.compares c b
  | .seq .list xs, .seq .list ys => comparesItems c xs ys
  | .seq .tuple xs, .seq .tuple ys => comparesItems c xs ys
  | .set _ xs, .set _ ys => .ok (comparesSets c xs ys)
  | _, _ => .error .unsupported

/-- Compares two runs of items: the first pair that differs decides, and without one the lengths. -/
def comparesItems (c : Comparison) : List Value → List Value → Except Fault Bool
  | [], [] => .ok (c.holds .eq)
  | [], _ :: _ => .ok (c.holds .lt)
  | _ :: _, [] => .ok (c.holds .gt)
  | x :: xs, y :: ys => do
    if ← x.same y then comparesItems c xs ys else x.compares c y

end

end Value
end Rulebook
