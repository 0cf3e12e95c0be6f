import Rulebook.Rule.Compiler
import Rulebook.Proofs.Outcome

/-!
The grammar of nodes. `Derives c node rule` says, without any order of checks, that a value is a
node for a compiler and which rule it stands for. Main statements:
* `compile_eq_ok_iff`: compiling returns exactly the rule that the grammar gives;
* `isNode_of_derives`, `not_isNode_of_derivesAll`: a node looks like one and a list of nodes does
  not, so that the two forms of a set are never mistaken for each other.
-/

namespace Rulebook

theorem Tag.ofText?_text (t : Tag) : Tag.ofText? t.text = some t := by
  cases t with
  | connective op => cases op <;> rfl
  | _ => rfl

theorem Tag.text_of_ofText? {s : String} {t : Tag} (h : Tag.ofText? s = some t) : s = t.text := by
  unfold Tag.ofText? at h
  have found := List.find?_some h
  exact (of_decide_eq_true found).symm

/-- Whether a value is a name: strings and integers are, truth values are not, and null is where the
whole input can be meant. -/
def Value.isName (nullAllowed : Bool) : Value → Bool
  | .str _ | .int _ => true
  | .null => nullAllowed
  | _ => false

theorem Value.isName_of_isName_false {v : Value} (named : v.isName false = true) :
    v.isName true = true := by
  unfold Value.isName at named ⊢
  split at named <;> simp_all

namespace Compiler

/-- A predicate is known under a name and takes exactly the arguments next to those that the rule
fills in; where the first one is a regular expression, it passes the check. -/
structure Fits (c : Compiler) (implicit : Nat) (id : String) (p : Predicate)
    (arguments : List Value) : Prop where
  found : c.find id = some p
  count : implicit + arguments.length = p.arity
  pattern : id = formatId → ∀ first ∈ arguments.head?, c.vet first = .accepted

/-- A predicate node, with the predicate and the arguments that it stands for. -/
inductive DerivesPredicate (c : Compiler) (implicit : Nat) :
    Value → Predicate → List Value → Prop where
  | intro {k k' k'' : SeqKind} {id : String} {p : Predicate} {arguments : List Value}
      (fits : c.Fits implicit id p arguments) :
      DerivesPredicate c implicit
        (.seq k [.str Tag.predicate.text, .seq k' [.str id, .seq k'' arguments]])
        p (Value.freezeAll arguments)

mutual

/-- The values that are nodes, and the rule that each stands for. -/
inductive Derives (c : Compiler) : Value → Rule → Prop where
  | key {k k' : SeqKind} {name node : Value} {p : Predicate} {arguments : List Value}
      (named : name.isName false = true) (leaf : DerivesPredicate c 1 node p arguments) :
      Derives c (.seq k [.str Tag.key.text, .seq k' [name, node]]) (.key name p arguments)
  | val {k k' : SeqKind} {name node : Value} {p : Predicate} {arguments : List Value}
      (named : name.isName true = true) (leaf : DerivesPredicate c 0 node p arguments) :
      Derives c (.seq k [.str Tag.val.text, .seq k' [name, node]]) (.val name p arguments)
  | eachOfInput {k k' : SeqKind} {node : Value} {rule : Rule} (element : Derives c node rule) :
      Derives c (.seq k [.str Tag.each.text, .seq k' [node]]) (.each .null rule)
  | each {k k' : SeqKind} {name node : Value} {rule : Rule}
      (named : name.isName true = true) (element : Derives c node rule) :
      Derives c (.seq k [.str Tag.each.text, .seq k' [name, node]]) (.each name rule)
  | setOfOne {k k' : SeqKind} {name node : Value} {rule : Rule}
      (named : name.isName true = true) (only : Derives c node rule) :
      Derives c (.seq k [.str Tag.set.text, .seq k' [name, node]]) (.set name [rule] true)
  | set {k k' k'' : SeqKind} {name : Value} {nodes : List Value} {rules : List Rule}
      (named : name.isName true = true) (nonempty : nodes ≠ []) (all : DerivesAll c nodes rules) :
      Derives c (.seq k [.str Tag.set.text, .seq k' [name, .seq k'' nodes]])
        (.set name rules false)
  | both {k k' : SeqKind} {op : Connective} {left right : Value} {l r : Rule}
      (leftNode : Derives c left l) (rightNode : Derives c right r) :
      Derives c (.seq k [.str (Tag.connective op).text, .seq k' [left, right]]) (.both op l r)

/-- The lists of nodes, with the rules that they stand for in order. -/
inductive DerivesAll (c : Compiler) : List Value → List Rule → Prop where
  | nil : DerivesAll c [] []
  | cons {node : Value} {nodes : List Value} {rule : Rule} {rules : List Rule}
      (head : Derives c node rule) (tail : DerivesAll c nodes rules) :
      DerivesAll c (node :: nodes) (rule :: rules)

end

/-! ## Names and predicates -/

theorem checkName_eq_ok_iff {tag : Tag} {nullAllowed : Bool} {name : Value} :
    checkName tag nullAllowed name = .ok () ↔ name.isName nullAllowed = true := by
  unfold checkName Value.isName
  split <;> simp

theorem checkPattern_eq_ok_iff {c : Compiler} {id : String} {arguments : List Value} :
    c.checkPattern id arguments = .ok () ↔
      (id = formatId → ∀ first ∈ arguments.head?, c.vet first = .accepted) := by
  unfold checkPattern
  cases arguments with
  | nil => simp
  | cons first rest =>
    by_cases format : id = formatId
    · cases checked : c.vet first <;> simp [format, checked]
    · simp [format]

theorem resolve_eq_ok_iff {c : Compiler} {implicit : Nat} {id : String} {arguments : List Value}
    {p : Predicate} {bound : List Value} :
    c.resolve implicit id arguments = .ok (p, bound) ↔
      c.Fits implicit id p arguments ∧ bound = Value.freezeAll arguments := by
  unfold resolve
  constructor
  · intro h
    split at h
    · cases h
    · rename_i found
      split at h
      · cases h
      · split at h
        · cases h
        · obtain ⟨_, checked, h⟩ := bind_eq_ok_iff.mp h
          cases h
          exact ⟨⟨found, by omega, checkPattern_eq_ok_iff.mp checked⟩, rfl⟩
  · rintro ⟨⟨found, count, pattern⟩, rfl⟩
    have enough : ¬ p.arity < implicit := by omega
    have exactly : arguments.length = p.arity - implicit := by omega
    have checked : c.checkPattern id arguments = .ok () := checkPattern_eq_ok_iff.mpr pattern
    simp only [found, enough, exactly, checked, if_false, ne_eq, not_true_eq_false]
    rfl

theorem predicateOf_eq_ok_iff {c : Compiler} {implicit : Nat} {node : Value}
    {p : Predicate} {bound : List Value} :
    c.predicateOf implicit node = .ok (p, bound) ↔ DerivesPredicate c implicit node p bound := by
  constructor
  · intro h
    unfold predicateOf at h
    split at h
    · split at h
      · rename_i tag
        subst tag
        split at h
        · split at h
          · obtain ⟨fits, rfl⟩ := resolve_eq_ok_iff.mp h
            exact .intro fits
          · cases h
        · cases h
        · cases h
      · cases h
    · cases h
    · cases h
  · rintro ⟨fits⟩
    simp [predicateOf, resolve_eq_ok_iff, fits]

/-! ## Nodes -/

variable {c : Compiler}

theorem isNode_of_derives {node : Value} {rule : Rule} (h : Derives c node rule) :
    node.isNode = true := by
  cases h <;> simp [Value.isNode, Tag.ofText?_text]

/-- A list of nodes is no node: what stands first in it is a node and no tag. -/
theorem not_isNode_of_derivesAll {k : SeqKind} {nodes : List Value} {rules : List Rule}
    (h : DerivesAll c nodes rules) : (Value.seq k nodes).isNode = false := by
  cases h with
  | nil => rfl
  | cons head _ => cases head <;> rfl

mutual

theorem compile_of_derives {node : Value} {rule : Rule} (h : Derives c node rule) :
    c.compile node = .ok rule := by
  cases h with
  | key named leaf =>
    unfold compile
    simp only [Tag.ofText?_text, checkName_eq_ok_iff.mpr named, predicateOf_eq_ok_iff.mpr leaf]
    rfl
  | val named leaf =>
    unfold compile
    simp only [Tag.ofText?_text, checkName_eq_ok_iff.mpr named, predicateOf_eq_ok_iff.mpr leaf]
    rfl
  | eachOfInput element =>
    unfold compile
    simp only [Tag.ofText?_text, compile_of_derives element]
    rfl
  | each named element =>
    unfold compile
    simp only [Tag.ofText?_text, checkName_eq_ok_iff.mpr named, compile_of_derives element]
    rfl
  | setOfOne named only =>
    unfold compile
    simp only [Tag.ofText?_text, checkName_eq_ok_iff.mpr named, isNode_of_derives only,
      compile_of_derives only]
    rfl
  | set named nonempty all =>
    unfold compile
    simp only [Tag.ofText?_text, checkName_eq_ok_iff.mpr named, not_isNode_of_derivesAll all,
      compileAll_of_derivesAll all]
    cases all with
    | nil => exact absurd rfl nonempty
    | cons _ _ => rfl
  | both left right =>
    unfold compile
    simp only [Tag.ofText?_text, compile_of_derives left, compile_of_derives right]
    rfl

theorem compileAll_of_derivesAll {nodes : List Value} {rules : List Rule}
    (h : DerivesAll c nodes rules) : c.compileAll nodes = .ok rules := by
  cases h with
  | nil => rfl
  | cons head tail =>
    simp only [compileAll, compile_of_derives head, compileAll_of_derivesAll tail]
    rfl

end

mutual

theorem derives_of_compile {node : Value} {rule : Rule} (h : c.compile node = .ok rule) :
    Derives c node rule := by
  unfold compile at h
  split at h
  · split at h
    · cases h
    · cases h
    -- The tags in the order of the compiler: connectives, key, val, each, set. A payload of another
    -- shape closes each of them.
    all_goals rename_i tag; cases Tag.text_of_ofText? tag; split at h
    · obtain ⟨_, left, h⟩ := bind_eq_ok_iff.mp h
      obtain ⟨_, right, h⟩ := bind_eq_ok_iff.mp h
      cases h
      exact .both (derives_of_compile left) (derives_of_compile right)
    · cases h
    · obtain ⟨_, named, h⟩ := bind_eq_ok_iff.mp h
      obtain ⟨_, leaf, h⟩ := bind_eq_ok_iff.mp h
      cases h
      exact .key (checkName_eq_ok_iff.mp named) (predicateOf_eq_ok_iff.mp leaf)
    · cases h
    · obtain ⟨_, named, h⟩ := bind_eq_ok_iff.mp h
      obtain ⟨_, leaf, h⟩ := bind_eq_ok_iff.mp h
      cases h
      exact .val (checkName_eq_ok_iff.mp named) (predicateOf_eq_ok_iff.mp leaf)
    · cases h
    · obtain ⟨_, element, h⟩ := bind_eq_ok_iff.mp h
      cases h
      exact .eachOfInput (derives_of_compile element)
    · obtain ⟨_, named, h⟩ := bind_eq_ok_iff.mp h
      obtain ⟨_, element, h⟩ := bind_eq_ok_iff.mp h
      cases h
      exact .each (checkName_eq_ok_iff.mp named) (derives_of_compile element)
    · cases h
    · obtain ⟨_, named, h⟩ := bind_eq_ok_iff.mp h
      split at h
      · obtain ⟨_, only, h⟩ := bind_eq_ok_iff.mp h
        cases h
        exact .setOfOne (checkName_eq_ok_iff.mp named) (derives_of_compile only)
      · split at h
        · cases h
        · rename_i nonempty _ _
          obtain ⟨_, all, h⟩ := bind_eq_ok_iff.mp h
          cases h
          exact .set (checkName_eq_ok_iff.mp named) nonempty (derivesAll_of_compileAll all)
        · cases h
    · cases h
  · cases h
  · cases h
termination_by sizeOf node

theorem derivesAll_of_compileAll {nodes : List Value} {rules : List Rule}
    (h : c.compileAll nodes = .ok rules) : DerivesAll c nodes rules := by
  cases nodes with
  | nil => cases h; exact .nil
  | cons node rest =>
    unfold compileAll at h
    obtain ⟨_, head, h⟩ := bind_eq_ok_iff.mp h
    obtain ⟨_, tail, h⟩ := bind_eq_ok_iff.mp h
    cases h
    exact .cons (derives_of_compile head) (derivesAll_of_compileAll tail)
termination_by sizeOf nodes

end

theorem compile_eq_ok_iff {node : Value} {rule : Rule} :
    c.compile node = .ok rule ↔ Derives c node rule :=
  ⟨derives_of_compile, compile_of_derives⟩

end Compiler
end Rulebook
