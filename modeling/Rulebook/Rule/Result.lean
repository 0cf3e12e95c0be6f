import Rulebook.Value.Basic

/-!
What evaluating a rule finds out. A failure of a whole sequence or map holds the failures of its
elements or fields as children.
-/

namespace Rulebook

/-- What kind of rule failed. -/
inductive FailureKind where
  | key
  | val
  | each
  | set
  | other (text : String)
  deriving DecidableEq, Repr

namespace FailureKind

def text : FailureKind → String
  | .key => "key"
  | .val => "val"
  | .each => "each"
  | .set => "set"
  | .other text => text

def ofText (s : String) : FailureKind :=
  if s = "key" then .key
  else if s = "val" then .val
  else if s = "each" then .each
  else if s = "set" then .set
  else .other s

end FailureKind

/-- A rule held. The input is what the rule was applied to, and the value what it was about. -/
structure Success where
  input : Value
  name : Value := .null
  value : Value := .null
  deriving Repr, Inhabited

/-- A rule did not hold. A failed predicate is named with its bound arguments; the failure of a
sequence or a map has no predicate but children, under the positions or names that failed. -/
structure Failure where
  input : Value
  name : Value
  predicate : Option String
  arguments : List (String × Value) := []
  value : Value := .null
  kind : FailureKind := .val
  children : List (Value × Failure) := []
  deriving Repr, Inhabited

/-- The outcome of a rule. -/
inductive Result where
  | success (s : Success)
  | failure (f : Failure)
  deriving Repr, Inhabited

namespace Result

def isSuccess : Result → Bool
  | .success _ => true
  | .failure _ => false

def isFailure : Result → Bool
  | .success _ => false
  | .failure _ => true

/-- The failure, if the rule failed. -/
def failure? : Result → Option Failure
  | .success _ => none
  | .failure f => some f

/-- What the rule was applied to. -/
def input : Result → Value
  | .success s => s.input
  | .failure f => f.input

/-- The name that the rule is about. -/
def name : Result → Value
  | .success s => s.name
  | .failure f => f.name

/-- The value that the rule is about. -/
def value : Result → Value
  | .success s => s.value
  | .failure f => f.value

end Result
end Rulebook
