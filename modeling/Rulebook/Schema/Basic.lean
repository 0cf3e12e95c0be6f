import Rulebook.Schema.Config
import Rulebook.Rule.Compiler
import Rulebook.Rule.Evaluation
import Rulebook.Rule.Equality
import Rulebook.Report.Failures
import Rulebook.Report.Equality
import Rulebook.Message.Resolver

/-!
Schemas: independent rules for whole inputs, with one configuration. Every rule is applied to the
whole input, so that the failures of different fields are all reported.
-/

namespace Rulebook

structure Schema where
  rules : List Rule
  config : Config

/-- What applying a schema found out. -/
structure Verdict where
  input : Value
  results : List Result
  errors : Document
  config : Config

namespace Compiler

/-- The rules of the elements of a value. No number is a node, so of a progression only the first
member counts. -/
def compileElements (c : Compiler) (nodes : Value) : Except CompileError (List Rule) :=
  match nodes with
  | .atom (.span s) => c.compileAll (s.firstMember.map .int)
  | _ =>
    match nodes.elements with
    | .ok items => c.compileAll items
    | .error f => .error (.brokenOff f)

/-- The rules of the elements of a value; their number is recorded. -/
def compileLogged (c : Compiler) (nodes : Value) : Logged CompileError (List Rule) := do
  let rules ← Logged.ofExcept (c.compileElements nodes)
  Logged.write .debug .compiler ("Compiled " ++ toString rules.length ++ " top-level rules")
  return rules

end Compiler

namespace Verdict

/-- Whether the input is valid. -/
def isSuccess (v : Verdict) : Bool := v.errors.isEmpty

/-- The number of rules that failed. -/
def failed (v : Verdict) : Nat := v.results.countP Result.isFailure

/-- The record that is written when a schema has been applied. -/
def record (v : Verdict) : LogRecord :=
  ⟨.debug, .schema,
    "Evaluated " ++ toString v.results.length ++ " rules, " ++ toString v.failed ++ " failed"⟩

/-- The errors as messages. -/
def messages (v : Verdict) (locale : Option String) : Logged MessageError (Fields String) :=
  MessageResolver.messages ⟨v.config.messages, v.config.scope, v.config.locale⟩ v.errors locale

end Verdict

namespace Schema

/-- Compiles nodes with the predicates of a configuration. -/
def ofNodes (nodes : Value) (config : Config) : Logged CompileError Schema := do
  return ⟨← (Compiler.ofRegistry config.predicates).compileLogged nodes, config⟩

/-- Applies rules to an input in order. -/
def evalRules (oracle : Oracle) (x : Value) : List Rule → Evaluation (List Result)
  | [] => return []
  | rule :: rest => do
    let r ← rule.eval oracle x
    return r :: (← evalRules oracle x rest)

/-- Applies the schema to an input. -/
def evaluate (oracle : Oracle) (s : Schema) (x : Value) : Evaluation Verdict := do
  let results ← evalRules oracle x s.rules
  let errors ← orFault (Document.ofResults results)
  return ⟨x, results, errors, s.config⟩

/-- The verdict on an input, with the questions asked. -/
def run (oracle : Oracle) (s : Schema) (x : Value) : Except Fault Verdict × List Call :=
  (s.evaluate oracle x).run.run []

/-- The verdict on an input, recorded if there is one. -/
def apply (oracle : Oracle) (s : Schema) (x : Value) : Logged Fault Verdict := do
  let v ← Logged.ofExcept (s.run oracle x).1
  Logged.write v.record.level v.record.source v.record.text
  return v

/-- The nodes of the rules. -/
def toNodes (s : Schema) : Value := .list (Rule.toNodes s.rules)

/-- A short description of the schema. -/
def description (s : Schema) : String :=
  "Schema(" ++ toString s.rules.length ++ " rules, namespace=" ++ optionalLiteral s.config.scope
    ++ ")"

/-- Whether two schemas have equal rules and configurations that say the same. -/
def equal (a b : Schema) : Except Fault Bool :=
  andAlso (Rule.equalAll a.rules b.rules) fun _ => .ok (a.config.same b.config)

end Schema

/-- Whether two verdicts are equal: the same input, results, errors and configuration. -/
def Verdict.equal (a b : Verdict) : Except Fault Bool :=
  andAlso (a.input.same b.input) fun _ =>
    andAlso (Result.equalAll a.results b.results) fun _ =>
      andAlso (a.errors.equal Entry.equal b.errors) fun _ => .ok (a.config.same b.config)

end Rulebook
