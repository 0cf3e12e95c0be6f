import Rulebook.Proofs.Compiler.Image

/-!
What compiling a node and writing the rule down again makes of the node. Main statements:
* `toNode_of_derives`: the result is the node's normal form, which has lists for tuples and leaves
  out the name of a rule for the elements of the input itself, and is the same node otherwise;
* `compile_normalForm`: a node and its normal form stand for the same rule.
-/

namespace Rulebook

namespace Value

mutual

/-- A node, or a list of nodes, without null in the place of a name that can be left out. What the
arguments of a predicate hold is no node, whatever it looks like, and stays as it is. -/
def shortened : Value → Value
  | .seq k [.str text, .seq k' payload] =>
    .seq k [.str text, .seq k' (shortenedPayload (Tag.ofText? text) payload)]
  | .seq k nodes => .seq k (shortenedAll nodes)
  | other => other

/-- The payload of a node with a tag. -/
def shortenedPayload (tag : Option Tag) : List Value → List Value
  | [only] => if tag = some .each then [only.shortened] else [only]
  | [first, second] =>
    match tag with
    | some (.connective _) => [first.shortened, second.shortened]
    | some .each => if first.isNull then [second.shortened] else [first, second.shortened]
    | some .set => [first, second.shortened]
    | _ => [first, second]
  | other => other

def shortenedAll : List Value → List Value
  | [] => []
  | node :: rest => node.shortened :: shortenedAll rest

end

/-- The normal form of a node: lists for tuples, and no name where it can be left out. -/
def normalForm (node : Value) : Value := node.listed.shortened

theorem listed_of_isName {nullAllowed : Bool} {name : Value}
    (named : name.isName nullAllowed = true) : name.listed = name := by
  cases name with
  | seq k items => cases named
  | _ => rfl

/-! ## The normal form of each kind of node -/

variable {k k' : SeqKind}

theorem normalForm_connective {op : Connective} {left right : Value} :
    (Value.seq k [.str (Tag.connective op).text, .seq k' [left, right]]).normalForm =
      nodeOf (.connective op) [left.normalForm, right.normalForm] := by
  simp [normalForm, nodeOf, listed, listedAll, shortened, shortenedPayload, Tag.ofText?_text]

/-- What stands below a predicate node is no node, so that only its sequences change. -/
theorem normalForm_leaf {tag : Tag} (leaf : tag = .key ∨ tag = .val) {nullAllowed : Bool}
    {name node : Value} (named : name.isName nullAllowed = true) :
    (Value.seq k [.str tag.text, .seq k' [name, node]]).normalForm =
      nodeOf tag [name, node.listed] := by
  rcases leaf with rfl | rfl <;>
    simp [normalForm, nodeOf, listed, listedAll, shortened, shortenedPayload, Tag.ofText?_text,
      listed_of_isName named]

theorem normalForm_eachOfInput {node : Value} :
    (Value.seq k [.str Tag.each.text, .seq k' [node]]).normalForm =
      nodeOf .each [node.normalForm] := by
  simp [normalForm, nodeOf, listed, listedAll, shortened, shortenedPayload, Tag.ofText?_text]

theorem normalForm_each {name node : Value} (named : name.isName true = true) :
    (Value.seq k [.str Tag.each.text, .seq k' [name, node]]).normalForm =
      if name.isNull then nodeOf .each [node.normalForm]
      else nodeOf .each [name, node.normalForm] := by
  simp only [normalForm, nodeOf, listed, listedAll, shortened, shortenedPayload,
    Tag.ofText?_text, listed_of_isName named]
  split <;> rfl

theorem normalForm_set {name nodes : Value} (named : name.isName true = true) :
    (Value.seq k [.str Tag.set.text, .seq k' [name, nodes]]).normalForm =
      nodeOf .set [name, nodes.normalForm] := by
  simp [normalForm, nodeOf, listed, listedAll, shortened, shortenedPayload, Tag.ofText?_text,
    listed_of_isName named]

end Value

namespace Compiler

variable {c : Compiler}

/-! ## Writing a compiled rule down -/

theorem toNode_of_derivesPredicate (lawful : c.Lawful) {implicit : Nat} {node : Value}
    {p : Predicate} {arguments : List Value} (h : DerivesPredicate c implicit node p arguments) :
    p.toNode arguments = node.listed := by
  obtain ⟨fits⟩ := h
  have same := lawful.id_of_find fits.found
  simp only [Predicate.toNode, nodeOf, Value.thawAll_freezeAll, Value.listed, Value.listedAll, same]

/-- A list of nodes is put into normal form node by node. -/
theorem normalForm_of_derivesAll {k : SeqKind} {nodes : List Value} {rules : List Rule}
    (h : DerivesAll c nodes rules) :
    (Value.seq k nodes).normalForm = .list (Value.shortenedAll (Value.listedAll nodes)) := by
  cases h with
  | nil => rfl
  | cons head _ =>
    cases head <;> simp [Value.normalForm, Value.listed, Value.listedAll, Value.shortened]

mutual

theorem toNode_of_derives (lawful : c.Lawful) {node : Value} {rule : Rule}
    (h : Derives c node rule) : rule.toNode = node.normalForm := by
  cases h with
  | key named leaf =>
    rw [Rule.toNode, toNode_of_derivesPredicate lawful leaf, Value.normalForm_leaf (.inl rfl) named]
  | val named leaf =>
    rw [Rule.toNode, toNode_of_derivesPredicate lawful leaf, Value.normalForm_leaf (.inr rfl) named]
  | eachOfInput element =>
    rw [Value.normalForm_eachOfInput, ← toNode_of_derives lawful element]
    rfl
  | each named element =>
    rw [Rule.toNode, Value.normalForm_each named, toNode_of_derives lawful element]
  | setOfOne named only =>
    rw [Rule.toNode, Value.normalForm_set named, toNode_of_derives lawful only]
  | set named nonempty all =>
    rw [Rule.toNode_set_list, Value.normalForm_set named, normalForm_of_derivesAll all,
      toNodes_of_derivesAll lawful all]
  | both left right =>
    rw [Rule.toNode, Value.normalForm_connective, toNode_of_derives lawful left,
      toNode_of_derives lawful right]

theorem toNodes_of_derivesAll (lawful : c.Lawful) {nodes : List Value} {rules : List Rule}
    (h : DerivesAll c nodes rules) :
    Rule.toNodes rules = Value.shortenedAll (Value.listedAll nodes) := by
  cases h with
  | nil => rfl
  | cons head tail =>
    rw [Rule.toNodes, Value.listedAll, Value.shortenedAll, toNode_of_derives lawful head,
      toNodes_of_derivesAll lawful tail, Value.normalForm]

end

theorem compile_normalForm (lawful : c.Lawful) {node : Value} {rule : Rule}
    (h : c.compile node = .ok rule) : c.compile node.normalForm = c.compile node := by
  have derives := compile_eq_ok_iff.mp h
  rw [← toNode_of_derives lawful derives, h]
  exact compile_toNode lawful (wellFormed_of_derives lawful derives)

/-- **Writing undoes reading up to the normal form.** The node of a compiled rule is the normal form
of the node that the rule was compiled from, and stands for the same rule. -/
theorem toNode_eq_normalForm (r : Registry) {node : Value} {rule : Rule}
    (h : (ofRegistry r).compile node = .ok rule) :
    rule.toNode = node.normalForm ∧
    (ofRegistry r).compile node.normalForm = (ofRegistry r).compile node := by
  have lawful := ofRegistry_lawful r
  exact ⟨toNode_of_derives lawful (compile_eq_ok_iff.mp h), compile_normalForm lawful h⟩

/-- A node of lists and tuples with both forms of sets, null as a name that can be left out, and an
argument in which a map holds a tuple. -/
def mixedNode : Value :=
  .tuple [.str "each", .list [.null, .list [.str "set", .tuple [.null, .list
    [.tuple [.str "set", .list [.str "a", .tuple [.str "val", .list [.null, .list
        [.str "predicate", .tuple [.str "filled?", .tuple []]]]]]],
      .list [.str "val", .tuple [.int 1, .tuple [.str "predicate", .list [.str "eql?", .tuple
        [.tuple [.list [], .tuple [.int 2], .map [(.str "k", .tuple [])]]]]]]]]]]]]

/-- The rule that the node stands for. -/
def mixedRule : Rule :=
  .each .null (.set .null
    [.set (.str "a") [.val .null (.ofStandard (.unary .filled)) []] true,
      .val (.int 1) (.ofStandard (.binary .equals))
        [.tuple [.tuple [], .tuple [.int 2], .map [(.str "k", .tuple [])]]]] false)

theorem normalForm_mixedNode :
    (ofRegistry .standard).compile mixedNode = .ok mixedRule ∧
    mixedNode.normalForm =
      .list [.str "each", .list [.list [.str "set", .list [.null, .list
        [.list [.str "set", .list [.str "a", .list [.str "val", .list [.null, .list
            [.str "predicate", .list [.str "filled?", .list []]]]]]],
          .list [.str "val", .list [.int 1, .list [.str "predicate", .list [.str "eql?", .list
            [.list [.list [], .list [.int 2], .map [(.str "k", .tuple [])]]]]]]]]]]]] := by
  have compiled : (ofRegistry .standard).compile mixedNode = .ok mixedRule := by rfl
  exact ⟨compiled, (toNode_eq_normalForm .standard compiled).1.symm⟩

end Compiler
end Rulebook
