import Rulebook.Predicate.Standard

/-!
Predicates: named tests over bound arguments and a subject. The subject is the last argument of a
call; every argument before it is bound by the rule and has a name, under which messages show it.
-/

namespace Rulebook

/-- What a predicate asks. A supplied test is known only by a label that tells it from others. -/
inductive Test where
  | standard (test : StandardTest)
  | supplied (label : Nat)
  deriving DecidableEq, Repr

/-- A named test with the names of its bound arguments. -/
structure Predicate where
  id : String
  test : Test
  parameters : List String
  deriving DecidableEq, Repr

/-- A parameter of a supplied function; only those given by position can be bound. -/
structure Parameter where
  name : String
  positional : Bool
  deriving DecidableEq, Repr

namespace Predicate

/-- The number of bound arguments; the subject is not counted. -/
def arity (p : Predicate) : Nat := p.parameters.length

/-- Pairs bound arguments with their names. -/
def bind (p : Predicate) (arguments : List Value) : List (String × Value) :=
  p.parameters.zip arguments

/-- The predicate of a standard test. -/
def ofStandard (t : StandardTest) : Predicate := ⟨t.id, .standard t, t.parameters⟩

/-- The predicate of a function with the given parameters. The last positional one takes the subject
and those before it are bound; without any there is no predicate. -/
def ofFunction? (id : String) (test : Test) (parameters : List Parameter) : Option Predicate :=
  match (parameters.filter (·.positional)).map (·.name) with
  | [] => none
  | names => some ⟨id, test, names.dropLast⟩

end Predicate
end Rulebook
