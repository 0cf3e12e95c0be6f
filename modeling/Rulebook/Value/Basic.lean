import Rulebook.Number.Exact
import Rulebook.Calendar.Moment
import Rulebook.Span

/-!
The values that rules are written with and applied to: nested sequences, sets and maps of atoms.
-/

namespace Rulebook

/-- A value without parts. -/
inductive Atom where
  | null
  /-- What stands at a key that a map does not have. -/
  | absent
  | bool (b : Bool)
  | int (n : Int)
  | float (x : Double)
  | decimal (d : Decimal)
  | str (s : String)
  | bytes (bs : List UInt8)
  | date (d : Date)
  | moment (m : Moment)
  | clock (c : Clock)
  | span (s : Span)
  /-- A regular expression, known by its text. -/
  | pattern (source : String)
  deriving DecidableEq, Repr

/-- The two kinds of sequence: lists are what documents hold, tuples are what rules keep. -/
inductive SeqKind where
  | list
  | tuple
  deriving DecidableEq, Repr

/-- The two kinds of set: only frozen ones can be members of sets or keys of maps. -/
inductive SetKind where
  | plain
  | frozen
  deriving DecidableEq, Repr

/-- A value. The entries of a map have pairwise different keys and are kept in order; so are the
members of a set. -/
inductive Value where
  | atom (a : Atom)
  | seq (kind : SeqKind) (items : List Value)
  | set (kind : SetKind) (members : List Value)
  | map (entries : List (Value × Value))
  deriving Repr, Inhabited

namespace Value

@[match_pattern] abbrev null : Value := .atom .null
@[match_pattern] abbrev absent : Value := .atom .absent
@[match_pattern] abbrev bool (b : Bool) : Value := .atom (.bool b)
@[match_pattern] abbrev int (n : Int) : Value := .atom (.int n)
@[match_pattern] abbrev str (s : String) : Value := .atom (.str s)
@[match_pattern] abbrev list (items : List Value) : Value := .seq .list items
@[match_pattern] abbrev tuple (items : List Value) : Value := .seq .tuple items

/-- The items of a list or a tuple. -/
def items? : Value → Option (List Value)
  | .seq _ items => some items
  | _ => none

/-- The entries of a map. -/
def entries? : Value → Option (List (Value × Value))
  | .map entries => some entries
  | _ => none

/-- The text of a string. -/
def text? : Value → Option String
  | .str s => some s
  | _ => none

def isNull : Value → Bool
  | .null => true
  | _ => false

def isAbsent : Value → Bool
  | .absent => true
  | _ => false

def isMap : Value → Bool
  | .map _ => true
  | _ => false

def isSeq : Value → Bool
  | .seq _ _ => true
  | _ => false

def isStr : Value → Bool
  | .str _ => true
  | _ => false

mutual

/-- Whether the value can be a key or a member of a set: nothing in it can change, and it is no
number that refuses comparison. -/
def isKey : Value → Bool
  | .atom (.decimal (.nan _ signaling _ _)) => !signaling
  | .atom _ => true
  | .seq .list _ => false
  | .seq .tuple items => areKeys items
  | .set .plain _ => false
  | .set .frozen _ => true
  | .map _ => false

def areKeys : List Value → Bool
  | [] => true
  | v :: rest => isKey v && areKeys rest

end

end Value

/-- Whether an atom counts as true: all do but null, the absent value, zeros and what is empty. -/
def Atom.truth : Atom → Bool
  | .null | .absent => false
  | .bool b => b
  | .int n => n != 0
  | .float x => !x.isZero
  | .decimal d => !d.isZero
  | .str s => !s.isEmpty
  | .bytes bs => !bs.isEmpty
  | .span s => s.length != 0
  | .date _ | .moment _ | .clock _ | .pattern _ => true

/-- Whether a value counts as true. -/
def Value.truth : Value → Bool
  | .atom a => a.truth
  | .seq _ items => !items.isEmpty
  | .set _ members => !members.isEmpty
  | .map entries => !entries.isEmpty

end Rulebook
