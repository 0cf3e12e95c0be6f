import Rulebook.Rule.Basic
import Rulebook.Rule.Result
import Rulebook.Value.Membership

/-!
Evaluating rules. Predicates are asked one at a time and every question is recorded, so that an
evaluation determines both an outcome and the sequence of questions that led to it. An answer may
depend on the questions asked before; a fault ends the evaluation and keeps the record.
-/

namespace Rulebook

/-- One question: a predicate, its bound arguments, and the subject as the last argument. -/
structure Call where
  predicate : Predicate
  arguments : List Value
  deriving Repr

/-- What predicates answer, given the questions asked so far. -/
abbrev Oracle := List Call → Call → Except Fault Bool

/-- A computation that asks predicates, keeps a record of its questions, and may end in a fault. -/
abbrev Evaluation := ExceptT Fault (StateM (List Call))

namespace Oracle

/-- Answers that depend on nothing but the question. -/
def ofAnswers (answer : Call → Except Fault Bool) : Oracle := fun _ c => answer c

/-- The answers of the standard tests; supplied tests are answered by a function of their label. -/
def standard (supplied : Nat → List Value → Except Fault Bool) : Oracle :=
  ofAnswers fun c =>
    match c.predicate.test with
    | .standard t => t.call c.arguments
    | .supplied label => supplied label c.arguments

end Oracle

/-- Asks a predicate and records the question. -/
def ask (oracle : Oracle) (c : Call) : Evaluation Bool := do
  let before ← getThe (List Call)
  set (before ++ [c])
  match oracle before c with
  | .ok answer => return answer
  | .error f => throw f

/-- Ends in the fault of an operation that has no value. -/
def orFault {α : Type} : Except Fault α → Evaluation α
  | .ok a => pure a
  | .error f => throw f

/-- The value of an input at a name: null means the input itself, and what a map does not have, or
what is no map, has the absent value there. -/
def fetch (x name : Value) : Except Fault Value :=
  if name.isNull then .ok x
  else match x with
    | .map entries =>
      if name.isKey then .ok ((Value.lookup name entries).getD .absent) else .error .unsupported
    | _ => .ok .absent

/-- The failure of a rule whose subject is not of the kind that it is about. -/
def wrongShape (x name : Value) (predicate : String) (subject : Value) : Result :=
  .failure { input := x, name, predicate := some predicate, value := subject }

/-- The failure of a sequence or map with children, or its success if there are none. -/
def gather (x name subject : Value) (kind : FailureKind) (children : List (Value × Failure)) :
    Result :=
  if children.isEmpty then .success ⟨x, name, subject⟩
  else .failure { input := x, name, predicate := none, value := subject, kind, children }

/-- Applies a rule to every element in order and collects the failures under the positions. -/
def failuresFrom (apply : Value → Evaluation Result) (index : Nat) :
    List Value → Evaluation (List (Value × Failure))
  | [] => return []
  | x :: rest => do
    let r ← apply x
    let failures ← failuresFrom apply (index + 1) rest
    match r.failure? with
    | some f => return (.int index, f) :: failures
    | none => return failures

/-- Joins the result of a left rule with a right rule, which is applied to what the left one was
applied to, and only if the connective calls for it. A failed left side makes an implication
hold. -/
def Connective.join (op : Connective) (left : Result) (right : Value → Evaluation Result) :
    Evaluation Result :=
  match op, left with
  | .conjunction, .success s => right s.input
  | .conjunction, .failure f => return .failure f
  | .disjunction, .success s => return .success s
  | .disjunction, .failure f => right f.input
  | .implication, .success s => right s.input
  | .implication, .failure f => return .success ⟨f.input, f.name, f.value⟩

namespace Rule

mutual

/-- Applies a rule to an input. -/
def eval (oracle : Oracle) : Rule → Value → Evaluation Result
  | .key name p arguments, x => do
    let bound := arguments ++ [name]
    let answer ← ask oracle ⟨p, bound ++ [x]⟩
    let subject ← orFault (fetch x name)
    if answer then return .success ⟨x, name, subject⟩
    else
      return .failure
        { input := x, name, predicate := some p.id, arguments := p.bind bound, value := subject,
          kind := .key }
  | .val name p arguments, x => do
    let subject ← orFault (fetch x name)
    let answer ← ask oracle ⟨p, arguments ++ [subject]⟩
    if answer then return .success ⟨x, name, subject⟩
    else
      return .failure
        { input := x, name, predicate := some p.id, arguments := p.bind arguments,
          value := subject }
  | .each name rule, x => do
    let subject ← orFault (fetch x name)
    match subject with
    | .seq _ items =>
      return gather x name subject .each (← failuresFrom (fun y => rule.eval oracle y) 0 items)
    | _ => return wrongShape x name UnaryTest.sequence.id subject
  | .set name rules _, x => do
    let subject ← orFault (fetch x name)
    match subject with
    | .map _ => return gather x name subject .set (← evalFields oracle rules subject)
    | _ => return wrongShape x name UnaryTest.mapping.id subject
  | .both op left right, x => do
    op.join (← left.eval oracle x) fun y => right.eval oracle y

/-- Applies rules to one map in order and collects the failures under their names. -/
def evalFields (oracle : Oracle) : List Rule → Value → Evaluation (List (Value × Failure))
  | [], _ => return []
  | rule :: rest, x => do
    let r ← rule.eval oracle x
    let failures ← evalFields oracle rest x
    match r.failure? with
    | some f => return (f.name, f) :: failures
    | none => return failures

end

/-- The outcome of applying a rule, and the questions asked. -/
def run (oracle : Oracle) (rule : Rule) (x : Value) : Except Fault Result × List Call :=
  (rule.eval oracle x).run.run []

end Rule
end Rulebook
