import Rulebook.OrderedMap
import Rulebook.Value.Text

/-!
Tables of message templates. A template stands under a key of six parts, four of which may be left
open. A lookup tries keys from the most specific to the most general and takes the first that
exists.
-/

namespace Rulebook

/-- Where a template applies. The scope separates the messages of one user of a table from those of
another; the rule is the name of a field. -/
structure MessageKey where
  locale : String
  scope : Option String
  rule : Option String
  predicate : String
  valueType : Option String
  argumentType : Option String
  deriving DecidableEq, Repr

/-- What a message is looked up for. -/
structure MessageQuery where
  predicate : String
  scope : Option String := none
  rule : Option String := none
  argumentTypes : List String := []
  valueTypes : List String := []
  locale : String
  deriving DecidableEq, Repr

namespace MessageQuery

/-- The keys with a given scope and rule: those with a value type first, in the order of the types,
and within each those with an argument type first; the open key last. -/
def keysIn (q : MessageQuery) (scope rule : Option String) : List MessageKey :=
  let key := MessageKey.mk q.locale scope rule q.predicate
  let typed := q.valueTypes.flatMap fun v =>
    q.argumentTypes.map (fun a => key (some v) (some a)) ++ [key (some v) none]
  typed ++ q.argumentTypes.map (fun a => key none (some a)) ++ [key none none]

/-- All keys that answer the query, the most specific first. A rule outweighs a scope. -/
def keys (q : MessageQuery) : List MessageKey :=
  (if q.scope.isSome && q.rule.isSome then q.keysIn q.scope q.rule else [])
    ++ (if q.rule.isSome then q.keysIn none q.rule else [])
    ++ (if q.scope.isSome then q.keysIn q.scope none else [])
    ++ q.keysIn none none

end MessageQuery

/-- A table of templates. -/
structure MessageTable where
  templates : OrderedMap MessageKey String

namespace MessageTable

def empty : MessageTable := ⟨.empty⟩

/-- The table of some templates; of two under one key the later one is kept. -/
def ofList (entries : List (MessageKey × String)) : MessageTable := ⟨.ofList entries⟩

def size (t : MessageTable) : Nat := t.templates.size

def get? (t : MessageTable) (key : MessageKey) : Option String := t.templates.get? key

/-- The first table, overridden by the second. -/
def merge (a b : MessageTable) : MessageTable := ⟨a.templates.merge b.templates⟩

/-- The most specific template that answers a query. -/
def lookup (t : MessageTable) (q : MessageQuery) : Option String := q.keys.findSome? t.get?

def sameContents (a b : MessageTable) : Bool := a.templates.sameContents b.templates

/-- Texts in rising order, each one once. -/
def sortedTexts (texts : List String) : List String :=
  texts.eraseDups.mergeSort fun a b => decide (a ≤ b)

def locales (t : MessageTable) : List String := sortedTexts (t.templates.keys.map (·.locale))

def scopes (t : MessageTable) : List String := sortedTexts (t.templates.keys.filterMap (·.scope))

/-- A short description of the table. -/
def description (t : MessageTable) : String :=
  "MessageTable(" ++ toString t.size ++ " templates, locales="
    ++ (Value.list (t.locales.map .str)).literal ++ ")"

end MessageTable
end Rulebook
