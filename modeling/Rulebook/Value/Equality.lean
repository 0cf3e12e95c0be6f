import Rulebook.Value.Basic
import Rulebook.Fault

/-!
Equality of values. Numbers of all kinds are equal if they denote the same number, truth values
count as the integers one and zero, lists are never equal to tuples, and a frozen set may equal
one that is not. A NaN equals nothing; inside sequences, sets and maps the same occurrence of it
is recognised again.
-/

namespace Rulebook

/-- What an atom denotes as a number, if it is one. -/
def Atom.quantity? : Atom → Option Quantity
  | .bool b => some (.exact (.ofInt (if b then 1 else 0)))
  | .int n => some (.exact (.ofInt n))
  | .float x => some (.ofDouble x)
  | .decimal d => some (.ofDecimal d)
  | _ => none

/-- Whether two atoms are the same occurrence of a NaN. -/
def Atom.sameOccurrence : Atom → Atom → Bool
  | .float (.nan a), .float (.nan b) => a = b
  | .decimal (.nan _ _ _ a), .decimal (.nan _ _ _ b) => a = b
  | _, _ => false

/-- Whether two quantities are the same number. A signaling NaN refuses the question. -/
def Quantity.equal (a b : Quantity) : Except Fault Bool :=
  if a.isSignaling || b.isSignaling then .error .invalidOperation
  else .ok (a.compare? b = some .eq)

/-- Whether two atoms that are not both numbers are equal. -/
def Atom.equalPlain : Atom → Atom → Bool
  | .null, .null => true
  | .absent, .absent => true
  | .str a, .str b => a = b
  | .bytes a, .bytes b => a = b
  | .date a, .date b => a = b
  | .moment a, .moment b => a.order? b = some .eq
  | .clock a, .clock b => a.order? b = some .eq
  | .span a, .span b => a.sameMembers b
  | .pattern a, .pattern b => a = b
  | _, _ => false

/-- Whether two atoms are equal. -/
def Atom.equal (a b : Atom) : Except Fault Bool :=
  match a.quantity?, b.quantity? with
  | some p, some q => p.equal q
  | _, _ => .ok (a.equalPlain b)

namespace Value

def sameOccurrence : Value → Value → Bool
  | .atom a, .atom b => a.sameOccurrence b
  | _, _ => false

/-- Whether a question was answered with yes. -/
def isYes : Except Fault Bool → Bool
  | .ok b => b
  | .error _ => false

mutual

/-- Whether two values are equal. -/
def equal : Value → Value → Except Fault Bool
  | .atom a, .atom b => a.equal b
  | .seq .list xs, .seq .list ys =>
    if xs.length = ys.length then sameItems xs ys else .ok false
  | .seq .tuple xs, .seq .tuple ys => sameItems xs ys
  | .set _ xs, .set _ ys => .ok (xs.length = ys.length && subset xs ys)
  | .map xs, .map ys => if xs.length = ys.length then sameEntries xs ys else .ok false
  | _, _ => .ok false
termination_by structural x => x

/-- Whether two runs of items are the same, item by item; the first difference ends the
comparison. -/
def sameItems : List Value → List Value → Except Fault Bool
  | [], [] => .ok true
  | x :: xs, y :: ys => do
    let here ← if x.sameOccurrence y then .ok true else x.equal y
    if here then sameItems xs ys else .ok false
  | _, _ => .ok false
termination_by structural x => x

/-- Whether every member of the first set is one of the second. -/
def subset : List Value → List Value → Bool
  | [], _ => true
  | x :: xs, ys => ys.any (fun y => x.sameOccurrence y || isYes (x.equal y)) && subset xs ys
termination_by structural x => x

/-- Whether every entry of the first map is one of the second, under the same key. -/
def sameEntries : List (Value × Value) → List (Value × Value) → Except Fault Bool
  | [], _ => .ok true
  | (k, v) :: rest, ys =>
    match ys.find? fun e => k.sameOccurrence e.1 || isYes (k.equal e.1) with
    | none => .ok false
    | some (_, w) => do
      let here ← if v.sameOccurrence w then .ok true else v.equal w
      if here then sameEntries rest ys else .ok false
termination_by structural x => x

end

/-- Whether two values are equal or the same occurrence of a NaN. -/
def same (x y : Value) : Except Fault Bool :=
  if x.sameOccurrence y then .ok true else x.equal y

/-- Whether two keys are the same. Between keys the question always has an answer. Times of day that
are equal may still be two keys. -/
def sameKey (x y : Value) : Bool :=
  isYes (x.same y) && match x, y with
    | .atom (.clock a), .atom (.clock b) => a.sameInstant b
    | _, _ => true

/-! ## Maps and sets -/

/-- The value under a key. -/
def lookup (k : Value) (entries : List (Value × Value)) : Option Value :=
  (entries.find? fun e => k.sameKey e.1).map (·.2)

/-- The entries with a value put under a key: an entry of that key keeps its place and its key, a
new one goes to the end. -/
def put (k v : Value) : List (Value × Value) → List (Value × Value)
  | [] => [(k, v)]
  | (l, w) :: rest => if k.sameKey l then (l, v) :: rest else (l, w) :: put k v rest

/-- The map that results from putting entries one after another. -/
def ofEntries (entries : List (Value × Value)) : Value :=
  .map (entries.foldl (fun found e => put e.1 e.2 found) [])

/-- Whether every member is an integer. -/
def allIntegers : List Value → Option (List Int)
  | [] => some []
  | .int n :: rest => (allIntegers rest).map (n :: ·)
  | _ => none

/-- The set of some members. Equal members are kept once, as first given; integers stand in rising
order and other members as given. -/
def ofMembers (kind : SetKind) (members : List Value) : Value :=
  let kept := members.foldl (fun found m => if found.any m.sameKey then found else found ++ [m]) []
  match allIntegers kept with
  | some ns => .set kind ((ns.mergeSort (· ≤ ·)).map .int)
  | none => .set kind kept

end Value
end Rulebook
