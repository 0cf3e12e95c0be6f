import Rulebook.Value.Equality

/-!
What values hold: their size, their elements, and whether something is one of them.
-/

namespace Rulebook

/-- Whether the second list of characters occurs in the first. -/
def occursIn (part : List Char) : List Char → Bool
  | [] => part.isEmpty
  | c :: cs => part.isPrefixOf (c :: cs) || occursIn part cs

/-- Whether the first list of bytes occurs in the second. -/
def bytesOccurIn (part : List UInt8) : List UInt8 → Bool
  | [] => part.isEmpty
  | b :: bs => part.isPrefixOf (b :: bs) || bytesOccurIn part bs

namespace Value

/-- The number of elements, for values that have elements. -/
def size? : Value → Option Nat
  | .str s => some s.length
  | .atom (.bytes bs) => some bs.length
  | .atom (.span s) => some s.length
  | .atom _ => none
  | .seq _ items => some items.length
  | .set _ members => some members.length
  | .map entries => some entries.length

/-- The greatest size that can be represented. -/
def sizeLimit : Nat := Nat.pow 2 63 - 1

/-- The elements in order: characters of a text, numbers of bytes and progressions, keys of
a map. -/
def elements : Value → Except Fault (List Value)
  | .str s => .ok (s.toList.map fun c => .str (String.ofList [c]))
  | .atom (.bytes bs) => .ok (bs.map fun b => .int b.toNat)
  | .atom (.span s) => .ok (s.toList.map .int)
  | .atom _ => .error .unsupported
  | .seq _ items => .ok items
  | .set _ members => .ok members
  | .map entries => .ok (entries.map (·.1))

/-- Whether one of some items is the given value; the first one found ends the search. -/
def anySame (x : Value) : List Value → Except Fault Bool
  | [] => .ok false
  | y :: ys => do
    if ← x.same y then return true else anySame x ys

/-- Whether a value is a member of a progression: any number that equals one. A number beyond both
ends is none, however large it is. -/
def inSpan (x : Value) (s : Span) : Except Fault Bool :=
  match x with
  | .atom a =>
    match a.quantity? with
    | some q =>
      if q.isSignaling && s.length != 0 then .error .invalidOperation
      else match q with
        | .exact e =>
          .ok (e.isWithin (max s.start.natAbs s.stop.natAbs) && e.toInt?.any s.contains)
        | _ => .ok false
    | none => .ok false
  | _ => .ok false

/-- Whether a value is a member of a set. Every set is looked up as a frozen one. -/
def inSet (x : Value) (members : List Value) : Except Fault Bool :=
  match x with
  | .set _ _ => .ok (members.any x.sameKey)
  | _ => if x.isKey then .ok (members.any x.sameKey) else .error .unsupported

/-- Whether a value is held by another one: as an item, a member, a key, a stretch of text or of
bytes, or a byte. -/
def isIn (x : Value) : Value → Except Fault Bool
  | .str s =>
    match x with
    | .str part => .ok (occursIn part.toList s.toList)
    | _ => .error .unsupported
  | .atom (.bytes bs) =>
    match x with
    | .atom (.bytes part) => .ok (bytesOccurIn part bs)
    | .int n =>
      if 0 ≤ n ∧ n < 256 then .ok (bs.any fun b => b.toNat = n.toNat) else .error .outOfRange
    | .bool b => .ok (bs.any fun c => c.toNat = if b then 1 else 0)
    | _ => .error .unsupported
  | .atom (.span s) => inSpan x s
  | .atom _ => .error .unsupported
  | .seq _ items => anySame x items
  | .set _ members => inSet x members
  | .map entries =>
    if x.isKey then .ok (entries.any fun e => x.sameKey e.1) else .error .unsupported

end Value
end Rulebook
