import Rulebook.Predicate.Basic

/-!
Rules: trees of predicates, of rules for the elements of a sequence or the fields of a map, and of
connectives.
-/

namespace Rulebook

/-- How two rules are joined. -/
inductive Connective where
  | conjunction
  | disjunction
  | implication
  deriving DecidableEq, Repr

/-- A rule. A name is the key whose value the rule is about; null stands for the whole input. -/
inductive Rule where
  /-- The predicate is asked about the name and the whole input. -/
  | key (name : Value) (predicate : Predicate) (arguments : List Value)
  /-- The predicate is asked about the value at the name. -/
  | val (name : Value) (predicate : Predicate) (arguments : List Value)
  /-- The rule holds of every element of the sequence at the name. -/
  | each (name : Value) (rule : Rule)
  /-- All rules hold of the map at the name. The flag tells that the one rule stands by itself. -/
  | set (name : Value) (rules : List Rule) (single : Bool)
  | both (op : Connective) (left right : Rule)
  deriving Repr, Inhabited

namespace Rule

/-- The name that a rule is about; joined rules are about the left one's. -/
def name : Rule → Value
  | .key name _ _ | .val name _ _ | .each name _ | .set name _ _ => name
  | .both _ left _ => left.name

end Rule
end Rulebook
