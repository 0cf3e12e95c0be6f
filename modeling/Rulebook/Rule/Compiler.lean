import Rulebook.Rule.Node
import Rulebook.Predicate.Registry
import Rulebook.Value.Text

/-!
Compiling nodes to rules. Any value may be offered as a node; the compiler checks shapes from the
outside in and from left to right, reports the first fault, and never asks a predicate anything.
-/

namespace Rulebook

/-- The outcome of checking a regular expression before it is used. -/
inductive Vetting where
  | accepted
  | rejected
  /-- The check itself broke off. -/
  | brokenOff (fault : Fault)
  deriving DecidableEq, Repr

/-- Why a value is no node of a rule. -/
inductive CompileError where
  | notPair (node : Value)
  | tagNotText (tag : Value)
  | payloadNotPair (tag : Tag) (payload : Value)
  | badName (tag : Tag) (name : Value)
  | badPattern (pattern : Value)
  | noRules (name : Value)
  | barePredicate
  | unknownTag (tag : String)
  | notPredicate (tag : String)
  | argumentsNotList (id arguments : Value)
  | unknownPredicate (id : String)
  | noKeyName (id : String)
  | argumentCount (id : String) (expected got : Nat)
  | brokenOff (fault : Fault)
  deriving Repr

namespace CompileError

/-- The list of all tags. -/
def tagList : String := (Value.list (Tag.all.map fun t => .str t.text)).literal

/-- The text of an error. For a bad regular expression it would go on with a colon and the reason
that the library of expressions gives, which is left out. -/
def message : CompileError → String
  | .notPair node => "AST node must be a [tag, payload] pair, got " ++ node.literal
  | .tagNotText tag => "AST node tag must be a string, got " ++ tag.literal
  | .payloadNotPair tag payload =>
    "'" ++ tag.text ++ "' node payload must have exactly two elements, got " ++ payload.literal
  | .badName tag name =>
    "'" ++ tag.text ++ "' node name must be a string or integer, got " ++ name.literal
  | .badPattern pattern =>
    "Predicate 'format?' got an invalid regular expression " ++ pattern.literal
  | .noRules name =>
    "'set' node for " ++ name.literal ++ " must hold a non-empty list of rule nodes"
  | .barePredicate => "A bare 'predicate' node must be wrapped in a 'key' or 'val' node"
  | .unknownTag tag => "Unknown AST node tag '" ++ tag ++ "', expected one of " ++ tagList
  | .notPredicate tag => "Expected a 'predicate' node, got '" ++ tag ++ "'"
  | .argumentsNotList id arguments =>
    "Arguments of predicate '" ++ id.text ++ "' must be a list, got " ++ arguments.literal
  | .unknownPredicate id => "Unknown predicate '" ++ id ++ "'"
  | .noKeyName id =>
    "Predicate '" ++ id ++ "' does not accept a key name and cannot check presence"
  | .argumentCount id expected got =>
    "Predicate '" ++ id ++ "' takes " ++ toString expected ++ " bound argument(s), got "
      ++ toString got
  | .brokenOff _ => ""

end CompileError

/-- Checks a value that is to be used as a regular expression. -/
def Pattern.vet (v : Value) : Vetting :=
  let ofRead (read : Except Pattern.Error Pattern) : Vetting :=
    match read with
    | .ok _ => .accepted
    | .error .malformed => .rejected
    | .error e => .brokenOff e.fault
  match v with
  | .atom (.pattern _) => .accepted
  | .str s => ofRead (Pattern.ofText s)
  | .atom (.bytes bs) => ofRead (Pattern.ofBytes bs)
  | _ => .rejected

/-- What compiling depends on: the known predicates and the check of regular expressions. -/
structure Compiler where
  find : String → Option Predicate
  vet : Value → Vetting

namespace Compiler

/-- The compiler for the predicates of a registry. -/
def ofRegistry (r : Registry) : Compiler := ⟨r.get?, Pattern.vet⟩

/-- The predicate whose first argument is a regular expression. -/
def formatId : String := "format?"

/-- Accepts strings and integers as names; truth values are no integers. Null is a name only where
the whole input can be meant. -/
def checkName (tag : Tag) (nullAllowed : Bool) : Value → Except CompileError Unit
  | .str _ => .ok ()
  | .int _ => .ok ()
  | .null => if nullAllowed then .ok () else .error (.badName tag .null)
  | name => .error (.badName tag name)

/-- Checks the argument of a format predicate that is used as a regular expression. -/
def checkPattern (c : Compiler) (id : String) (arguments : List Value) : Except CompileError Unit :=
  match arguments with
  | [] => .ok ()
  | first :: _ =>
    if id = formatId then
      match c.vet first with
      | .accepted => .ok ()
      | .rejected => .error (.badPattern first)
      | .brokenOff f => .error (.brokenOff f)
    else .ok ()

/-- The predicate and arguments of a known name. Some of the parameters may be filled in by the rule
itself; the arguments must be exactly the others. -/
def resolve (c : Compiler) (implicit : Nat) (id : String) (arguments : List Value) :
    Except CompileError (Predicate × List Value) :=
  match c.find id with
  | none => .error (.unknownPredicate id)
  | some p =>
    if p.arity < implicit then .error (.noKeyName id)
    else if arguments.length ≠ p.arity - implicit then
      .error (.argumentCount id (p.arity - implicit) arguments.length)
    else do
      c.checkPattern id arguments
      return (p, Value.freezeAll arguments)

/-- The predicate and arguments that a predicate node names. -/
def predicateOf (c : Compiler) (implicit : Nat) (node : Value) :
    Except CompileError (Predicate × List Value) :=
  match node with
  | .seq _ [.str tag, payload] =>
    if tag = Tag.predicate.text then
      match payload with
      | .seq _ [id, .seq _ arguments] =>
        match id with
        | .str s => c.resolve implicit s arguments
        | other => .error (.unknownPredicate other.text)
      | .seq _ [id, arguments] => .error (.argumentsNotList id arguments)
      | other => .error (.payloadNotPair .predicate other)
    else .error (.notPredicate tag)
  | .seq _ [tag, _] => .error (.tagNotText tag)
  | other => .error (.notPair other)

mutual

/-- The rule that a node stands for. -/
def compile (c : Compiler) : Value → Except CompileError Rule
  | .seq _ [.str text, payload] =>
    match Tag.ofText? text with
    | none => .error (.unknownTag text)
    | some .predicate => .error .barePredicate
    | some (.connective op) =>
      match payload with
      | .seq _ [left, right] => do
        let l ← compile c left
        let r ← compile c right
        return .both op l r
      | other => .error (.payloadNotPair (.connective op) other)
    | some .key =>
      match payload with
      | .seq _ [name, node] => do
        checkName .key false name
        let (p, arguments) ← c.predicateOf 1 node
        return .key name p arguments
      | other => .error (.payloadNotPair .key other)
    | some .val =>
      match payload with
      | .seq _ [name, node] => do
        checkName .val true name
        let (p, arguments) ← c.predicateOf 0 node
        return .val name p arguments
      | other => .error (.payloadNotPair .val other)
    | some .each =>
      match payload with
      | .seq _ [node] => do return .each .null (← compile c node)
      | .seq _ [name, node] => do
        checkName .each true name
        return .each name (← compile c node)
      | other => .error (.payloadNotPair .each other)
    | some .set =>
      match payload with
      | .seq _ [name, nodes] => do
        checkName .set true name
        if nodes.isNode then return .set name [← compile c nodes] true
        else
          match nodes with
          | .seq _ [] => .error (.noRules name)
          | .seq _ items => return .set name (← compileAll c items) false
          | _ => .error (.noRules name)
      | other => .error (.payloadNotPair .set other)
  | .seq _ [tag, _] => .error (.tagNotText tag)
  | other => .error (.notPair other)

/-- The rules of some nodes; the first fault ends the compilation. -/
def compileAll (c : Compiler) : List Value → Except CompileError (List Rule)
  | [] => .ok []
  | node :: rest => do
    let rule ← compile c node
    return rule :: (← compileAll c rest)

end

end Compiler
end Rulebook
