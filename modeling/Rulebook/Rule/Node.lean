import Rulebook.Rule.Basic

/-!
The nodes in which rules are written down: pairs of a tag and a payload, made of lists.
-/

namespace Rulebook

/-- The tags of nodes. -/
inductive Tag where
  | key
  | val
  | each
  | set
  | connective (op : Connective)
  | predicate
  deriving DecidableEq, Repr

namespace Connective

def text : Connective → String
  | .conjunction => "and"
  | .disjunction => "or"
  | .implication => "implication"

end Connective

namespace Tag

def text : Tag → String
  | .key => "key"
  | .val => "val"
  | .each => "each"
  | .set => "set"
  | .connective op => op.text
  | .predicate => "predicate"

/-- All tags, in the order of their texts. -/
def all : List Tag :=
  [.connective .conjunction, .each, .connective .implication, .key, .connective .disjunction,
    .predicate, .set, .val]

/-- The tag with a text. -/
def ofText? (s : String) : Option Tag := all.find? (·.text = s)

end Tag

namespace Value

mutual

/-- Turns lists into tuples, through sequences at any depth and nothing else. -/
def freeze : Value → Value
  | .seq _ items => .tuple (freezeAll items)
  | other => other

def freezeAll : List Value → List Value
  | [] => []
  | v :: rest => v.freeze :: freezeAll rest

end

mutual

/-- Turns tuples into lists, through tuples at any depth and nothing else. -/
def thaw : Value → Value
  | .seq .tuple items => .list (thawAll items)
  | other => other

def thawAll : List Value → List Value
  | [] => []
  | v :: rest => v.thaw :: thawAll rest

end

/-- Whether a value looks like a node: a pair that begins with a tag. -/
def isNode : Value → Bool
  | .seq _ [.str s, _] => (Tag.ofText? s).isSome
  | _ => false

end Value

/-- A tag and a payload. -/
def nodeOf (tag : Tag) (payload : List Value) : Value := .list [.str tag.text, .list payload]

/-- The node of a predicate with its bound arguments. -/
def Predicate.toNode (p : Predicate) (arguments : List Value) : Value :=
  nodeOf .predicate [.str p.id, .list (Value.thawAll arguments)]

namespace Rule

/-- The tag of a rule's node. -/
def tag : Rule → Tag
  | .key _ _ _ => .key
  | .val _ _ _ => .val
  | .each _ _ => .each
  | .set _ _ _ => .set
  | .both op _ _ => .connective op

mutual

/-- The node of a rule. A rule for the elements of the input itself is written without a name, and a
single rule of a map without a list around it. -/
def toNode : Rule → Value
  | .key name p arguments => nodeOf .key [name, p.toNode arguments]
  | .val name p arguments => nodeOf .val [name, p.toNode arguments]
  | .each name rule =>
    if name.isNull then nodeOf .each [rule.toNode] else nodeOf .each [name, rule.toNode]
  | .set name [rule] true => nodeOf .set [name, rule.toNode]
  | .set name rules _ => nodeOf .set [name, .list (toNodes rules)]
  | .both op left right => nodeOf (.connective op) [left.toNode, right.toNode]

def toNodes : List Rule → List Value
  | [] => []
  | r :: rest => r.toNode :: toNodes rest

end

end Rule
end Rulebook
