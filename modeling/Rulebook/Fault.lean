/-!
Why an operation on values has no answer. A fault is not a failed check: a check that fails is an
ordinary result, while a fault ends the evaluation that met it.
-/

namespace Rulebook

/-- The causes of a fault. -/
inductive Fault where
  /-- An operand is of a kind for which the operation is not defined. -/
  | unsupported
  /-- An operand is of the right kind but outside the values the operation takes. -/
  | outOfRange
  /-- A decimal without a numeric value was compared as a number. -/
  | invalidOperation
  /-- A text was used as a regular expression and is none. -/
  | badPattern
  /-- A regular expression looks further back than can be represented. -/
  | looksTooFarBack
  /-- A regular expression was matched so that a group ends before it starts. -/
  | reversedGroup
  /-- A count exceeds what can be represented. -/
  | overflow
  /-- Something that is supplied, a predicate or a reader, raised an error of its own. -/
  | raised (kind : String)
  deriving DecidableEq, Repr

end Rulebook
