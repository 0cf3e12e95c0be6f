import Rulebook.Value.Order
import Rulebook.Value.Membership
import Rulebook.Pattern.Search

/-!
The standard tests. A test of one value always answers. A test of a value against a bound argument
may meet an argument that it cannot use; an order test then fails instead of faulting, because a
subject that does not compare with the bound is simply not within it.
-/

namespace Rulebook

/-- The fault that it is to use a text with this error as a regular expression. -/
def Pattern.Error.fault : Pattern.Error → Fault
  | .malformed => .badPattern
  | .countTooLarge => .overflow
  | .conflictingOptions => .outOfRange
  | .looksTooFarBack => .looksTooFarBack

/-- Tests of a value alone. -/
inductive UnaryTest where
  | nothing
  | empty
  | filled
  | boolean
  | integer
  | float
  | decimal
  | text
  | date
  | dateTime
  | time
  | mapping
  | sequence
  | truth
  | falsehood
  deriving DecidableEq, Repr

/-- Tests of a value against one bound argument. -/
inductive BinaryTest where
  | hasKey
  | equals
  | above
  | atLeast
  | below
  | atMost
  | size
  | minSize
  | maxSize
  | oneOf
  | noneOf
  | format
  deriving DecidableEq, Repr

namespace UnaryTest

/-- The name by which rules refer to the test. -/
def id : UnaryTest → String
  | .nothing => "none?"
  | .empty => "empty?"
  | .filled => "filled?"
  | .boolean => "bool?"
  | .integer => "int?"
  | .float => "float?"
  | .decimal => "decimal?"
  | .text => "str?"
  | .date => "date?"
  | .dateTime => "date_time?"
  | .time => "time?"
  | .mapping => "hash?"
  | .sequence => "array?"
  | .truth => "true?"
  | .falsehood => "false?"

/-- Whether a value counts as empty: null, absent, or a text, sequence, set or map without
elements. A progression is never empty in this sense. -/
def isEmpty : Value → Bool
  | .null | .absent => true
  | .str s => s.isEmpty
  | .atom (.bytes bs) => bs.isEmpty
  | .atom _ => false
  | .seq _ items => items.isEmpty
  | .set _ members => members.isEmpty
  | .map entries => entries.isEmpty

/-- Whether a value passes the test. A date with a time is a date, and a truth value no integer. -/
def holds : UnaryTest → Value → Bool
  | .nothing, x => x.isNull
  | .empty, x => isEmpty x
  | .filled, x => !isEmpty x
  | .boolean, .bool _ => true
  | .integer, .int _ => true
  | .float, .atom (.float _) => true
  | .decimal, .atom (.decimal _) => true
  | .text, x => x.isStr
  | .date, .atom (.date _) => true
  | .date, .atom (.moment _) => true
  | .dateTime, .atom (.moment _) => true
  | .time, .atom (.clock _) => true
  | .mapping, x => x.isMap
  | .sequence, x => x.isSeq
  | .truth, .bool b => b
  | .falsehood, .bool b => !b
  | _, _ => false

end UnaryTest

namespace BinaryTest

/-- The name by which rules refer to the test. -/
def id : BinaryTest → String
  | .hasKey => "key?"
  | .equals => "eql?"
  | .above => "gt?"
  | .atLeast => "gteq?"
  | .below => "lt?"
  | .atMost => "lteq?"
  | .size => "size?"
  | .minSize => "min_size?"
  | .maxSize => "max_size?"
  | .oneOf => "inclusion?"
  | .noneOf => "exclusion?"
  | .format => "format?"

/-- The name of the bound argument. -/
def parameter : BinaryTest → String
  | .hasKey => "name"
  | .equals => "left"
  | .above | .atLeast | .below | .atMost | .size | .minSize | .maxSize => "num"
  | .oneOf | .noneOf => "list"
  | .format => "regex"

/-- An order test. A subject that is absent or does not compare with the bound fails it. -/
def within (c : Comparison) (bound x : Value) : Except Fault Bool :=
  if x.isAbsent then .ok false
  else match x.compares c bound with
    | .error .unsupported => .ok false
    | answer => answer

/-- The size of a value as far as it can be represented; values without elements have none. -/
def sizeOf (x : Value) : Except Fault (Option Nat) :=
  match x.size? with
  | some n => if n ≤ Value.sizeLimit then .ok (some n) else .error .overflow
  | none => .ok none

/-- A test of the size; a value without elements fails it. -/
def onSize (x : Value) (test : Value → Except Fault Bool) : Except Fault Bool := do
  match ← sizeOf x with
  | some n => test (.int n)
  | none => return false

/-- Whether a text has a match of a regular expression. An expression for bytes fits no text. -/
def matchesFormat (regex x : Value) : Except Fault Bool :=
  let search (read : Except Pattern.Error Pattern) (s : String) : Except Fault Bool := do
    match (← read.mapError Pattern.Error.fault).search s with
    | .absent => return false
    | .found => return true
    | .reversedGroup => throw .reversedGroup
  match x, regex with
  | .str s, .str source => search (Pattern.ofText source) s
  | .str s, .atom (.pattern source) => search (Pattern.ofText source) s
  | .str _, .atom (.bytes bs) => do
    let _ ← (Pattern.ofBytes bs).mapError Pattern.Error.fault
    .error .unsupported
  | .str _, _ => .error .unsupported
  | _, _ => .ok false

/-- Whether a value passes the test against a bound argument. -/
def holds : BinaryTest → (bound x : Value) → Except Fault Bool
  | .hasKey, name, x =>
    match x with
    | .map entries => name.isIn (.map entries)
    | _ => .ok false
  | .equals, left, x => left.equal x
  | .above, bound, x => within .greater bound x
  | .atLeast, bound, x => within .atLeast bound x
  | .below, bound, x => within .less bound x
  | .atMost, bound, x => within .atMost bound x
  | .size, .atom (.span s), x => onSize x fun n => n.isIn (.atom (.span s))
  | .size, bound, x => onSize x fun n => n.equal bound
  | .minSize, bound, x => onSize x fun n => n.compares .atLeast bound
  | .maxSize, bound, x => onSize x fun n => n.compares .atMost bound
  | .oneOf, options, x => x.isIn options
  | .noneOf, options, x => (x.isIn options).map (!·)
  | .format, regex, x => matchesFormat regex x

end BinaryTest

/-- The standard tests. -/
inductive StandardTest where
  | unary (test : UnaryTest)
  | binary (test : BinaryTest)
  deriving DecidableEq, Repr

namespace StandardTest

def id : StandardTest → String
  | .unary t => t.id
  | .binary t => t.id

/-- The names of the bound arguments. -/
def parameters : StandardTest → List String
  | .unary _ => []
  | .binary t => [t.parameter]

/-- The answer to a call with the bound arguments and the subject after them. -/
def call : StandardTest → List Value → Except Fault Bool
  | .unary t, [x] => .ok (t.holds x)
  | .binary t, [bound, x] => t.holds bound x
  | _, _ => .error .unsupported

/-- All standard tests in their usual order. -/
def all : List StandardTest :=
  [.binary .hasKey, .unary .nothing, .unary .empty, .unary .filled, .unary .boolean,
    .unary .integer, .unary .float, .unary .decimal, .unary .text, .unary .date, .unary .dateTime,
    .unary .time, .unary .mapping, .unary .sequence, .binary .equals, .binary .above,
    .binary .atLeast, .binary .below, .binary .atMost, .binary .size, .binary .minSize,
    .binary .maxSize, .binary .oneOf, .binary .noneOf, .binary .format, .unary .truth,
    .unary .falsehood]

end StandardTest
end Rulebook
