import Rulebook.Proofs.Compiler.Derivation
import Rulebook.Proofs.Compiler.Freezing

/-!
The rules that compiling gives. `WellFormed` describes them without any node. Main statements:
* `wellFormed_of_derives`: every compiled rule is well formed;
* `derives_toNode`: the node of a well-formed rule stands for that very rule;
* `compiled_iff_wellFormed`: so compiling and writing nodes are inverse to each other between the
  well-formed rules and their nodes.
-/

namespace Rulebook

theorem Value.eq_null_of_isNull {v : Value} (h : v.isNull = true) : v = .null := by
  unfold Value.isNull at h
  split at h
  · rfl
  · cases h

namespace Compiler

/-- A predicate with its arguments as a compiled rule holds them, next to those that the rule fills
in: the predicate is the one under its own name, and the arguments are frozen. -/
structure Holds (c : Compiler) (implicit : Nat) (p : Predicate) (arguments : List Value) :
    Prop where
  known : c.find p.id = some p
  count : implicit + arguments.length = p.arity
  frozen : Value.areFrozen arguments = true
  pattern : p.id = formatId → ∀ first ∈ arguments.head?, c.vet first = .accepted

instance (c : Compiler) (implicit : Nat) (p : Predicate) (arguments : List Value) :
    Decidable (c.Holds implicit p arguments) :=
  decidable_of_iff
    (c.find p.id = some p ∧ implicit + arguments.length = p.arity ∧
      Value.areFrozen arguments = true ∧
      (p.id = formatId → ∀ first ∈ arguments.head?, c.vet first = .accepted))
    ⟨fun ⟨known, count, frozen, pattern⟩ => ⟨known, count, frozen, pattern⟩,
      fun h => ⟨h.known, h.count, h.frozen, h.pattern⟩⟩

/-- Predicates are known under their own names, and sequences are no regular expressions. -/
structure Lawful (c : Compiler) : Prop where
  id_of_find : ∀ {id p}, c.find id = some p → p.id = id
  vet_seq : ∀ k items, c.vet (.seq k items) ≠ .accepted

theorem ofRegistry_lawful (r : Registry) : (ofRegistry r).Lawful where
  id_of_find := by
    intro id p found
    have searched : r.predicates.find? (·.id = id) = some p := found
    have matched := List.find?_some searched
    exact of_decide_eq_true matched
  vet_seq := by
    intro k items h
    cases h

end Compiler

namespace Rule

theorem toNode_set_list (name : Value) (rules : List Rule) :
    (Rule.set name rules false).toNode = nodeOf .set [name, .list (toNodes rules)] := by
  simp [toNode]

mutual

/-- The rules that have a node: names are names, every predicate is known and has the arguments it
takes, and sets are not empty and stand for one node only if they hold one rule. -/
def WellFormed (c : Compiler) : Rule → Prop
  | .key name p arguments => name.isName false = true ∧ c.Holds 1 p arguments
  | .val name p arguments => name.isName true = true ∧ c.Holds 0 p arguments
  | .each name rule => name.isName true = true ∧ rule.WellFormed c
  | .set name rules single =>
    name.isName true = true ∧ rules ≠ [] ∧ (single = true → rules.length = 1) ∧
      AllWellFormed c rules
  | .both _ left right => left.WellFormed c ∧ right.WellFormed c

def AllWellFormed (c : Compiler) : List Rule → Prop
  | [] => True
  | rule :: rest => rule.WellFormed c ∧ AllWellFormed c rest

end

mutual

def decidableWellFormed (c : Compiler) : (rule : Rule) → Decidable (rule.WellFormed c)
  | .key _ _ _ | .val _ _ _ => inferInstanceAs (Decidable (_ ∧ _))
  | .each _ rule =>
    have := decidableWellFormed c rule
    inferInstanceAs (Decidable (_ ∧ _))
  | .set _ rules _ =>
    have := decidableAllWellFormed c rules
    inferInstanceAs (Decidable (_ ∧ _ ∧ (_ → _) ∧ _))
  | .both _ left right =>
    have := decidableWellFormed c left
    have := decidableWellFormed c right
    inferInstanceAs (Decidable (_ ∧ _))

def decidableAllWellFormed (c : Compiler) : (rules : List Rule) → Decidable (AllWellFormed c rules)
  | [] => inferInstanceAs (Decidable True)
  | rule :: rest =>
    have := decidableWellFormed c rule
    have := decidableAllWellFormed c rest
    inferInstanceAs (Decidable (_ ∧ _))

end

instance (c : Compiler) (rule : Rule) : Decidable (rule.WellFormed c) := decidableWellFormed c rule

end Rule

namespace Compiler

variable {c : Compiler}

/-! ## Compiled rules are well formed -/

/-- A regular expression is no sequence, so freezing does not change it. -/
theorem Lawful.freeze_of_vet (lawful : c.Lawful) {v : Value} (accepted : c.vet v = .accepted) :
    v.freeze = v := by
  cases v with
  | seq k items => exact absurd accepted (lawful.vet_seq k items)
  | _ => rfl

theorem Lawful.thaw_of_vet (lawful : c.Lawful) {v : Value} (accepted : c.vet v = .accepted) :
    v.thaw = v := by
  cases v with
  | seq k items => exact absurd accepted (lawful.vet_seq k items)
  | _ => rfl

theorem Fits.holds (lawful : c.Lawful) {implicit : Nat} {id : String} {p : Predicate}
    {arguments : List Value} (fits : c.Fits implicit id p arguments) :
    c.Holds implicit p (Value.freezeAll arguments) := by
  obtain ⟨found, count, pattern⟩ := fits
  have same := lawful.id_of_find found
  refine ⟨same ▸ found, by rw [Value.length_freezeAll, count], Value.areFrozen_freezeAll _, ?_⟩
  intro format first member
  rw [Value.freezeAll_eq_map, List.head?_map] at member
  obtain ⟨given, head, rfl⟩ := Option.map_eq_some_iff.mp member
  have accepted := pattern (same ▸ format) given head
  rw [lawful.freeze_of_vet accepted, accepted]

mutual

theorem wellFormed_of_derives (lawful : c.Lawful) {node : Value} {rule : Rule}
    (h : Derives c node rule) : rule.WellFormed c := by
  cases h with
  | key named leaf => cases leaf with | intro fits => exact ⟨named, fits.holds lawful⟩
  | val named leaf => cases leaf with | intro fits => exact ⟨named, fits.holds lawful⟩
  | eachOfInput element => exact ⟨rfl, wellFormed_of_derives lawful element⟩
  | each named element => exact ⟨named, wellFormed_of_derives lawful element⟩
  | setOfOne named only =>
    exact ⟨named, List.cons_ne_nil _ _, fun _ => rfl, wellFormed_of_derives lawful only, trivial⟩
  | set named nonempty all =>
    refine ⟨named, ?_, fun h => (nomatch h), allWellFormed_of_derivesAll lawful all⟩
    cases all with
    | nil => exact absurd rfl nonempty
    | cons _ _ => exact List.cons_ne_nil _ _
  | both left right =>
    exact ⟨wellFormed_of_derives lawful left, wellFormed_of_derives lawful right⟩

theorem allWellFormed_of_derivesAll (lawful : c.Lawful) {nodes : List Value} {rules : List Rule}
    (h : DerivesAll c nodes rules) : Rule.AllWellFormed c rules := by
  cases h with
  | nil => trivial
  | cons head tail =>
    exact ⟨wellFormed_of_derives lawful head, allWellFormed_of_derivesAll lawful tail⟩

end

/-! ## Well-formed rules are compiled from their nodes -/

theorem Holds.derives (lawful : c.Lawful) {implicit : Nat} {p : Predicate}
    {arguments : List Value} (holds : c.Holds implicit p arguments) :
    DerivesPredicate c implicit (p.toNode arguments) p arguments := by
  have fits : c.Fits implicit p.id p (Value.thawAll arguments) := by
    refine ⟨holds.known, by rw [Value.length_thawAll, holds.count], ?_⟩
    intro format first member
    rw [Value.thawAll_eq_map, List.head?_map] at member
    obtain ⟨kept, head, rfl⟩ := Option.map_eq_some_iff.mp member
    have accepted := holds.pattern format kept head
    rw [lawful.thaw_of_vet accepted, accepted]
  have written : DerivesPredicate c implicit (p.toNode arguments) p
      (Value.freezeAll (Value.thawAll arguments)) := .intro fits
  rwa [Value.freezeAll_thawAll holds.frozen] at written

mutual

theorem derives_toNode (lawful : c.Lawful) {rule : Rule} (h : rule.WellFormed c) :
    Derives c rule.toNode rule := by
  cases rule with
  | key name p arguments => exact .key h.1 (h.2.derives lawful)
  | val name p arguments => exact .val h.1 (h.2.derives lawful)
  | each name rule =>
    obtain ⟨named, element⟩ := h
    have inner := derives_toNode lawful element
    unfold Rule.toNode
    split
    · rename_i null
      cases Value.eq_null_of_isNull null
      exact .eachOfInput inner
    · exact .each named inner
  | set name rules single =>
    obtain ⟨named, nonempty, one, all⟩ := h
    cases single with
    | true =>
      obtain ⟨only, rfl⟩ := List.length_eq_one_iff.mp (one rfl)
      exact .setOfOne named (derives_toNode lawful all.1)
    | false =>
      rw [Rule.toNode_set_list]
      refine .set named ?_ (derivesAll_toNodes lawful all)
      cases rules with
      | nil => exact absurd rfl nonempty
      | cons _ _ => exact List.cons_ne_nil _ _
  | both op left right =>
    exact .both (derives_toNode lawful h.1) (derives_toNode lawful h.2)

theorem derivesAll_toNodes (lawful : c.Lawful) {rules : List Rule}
    (h : Rule.AllWellFormed c rules) : DerivesAll c (Rule.toNodes rules) rules := by
  cases rules with
  | nil => exact .nil
  | cons rule rest => exact .cons (derives_toNode lawful h.1) (derivesAll_toNodes lawful h.2)

end

theorem wellFormed_of_compile (lawful : c.Lawful) {node : Value} {rule : Rule}
    (h : c.compile node = .ok rule) : rule.WellFormed c :=
  wellFormed_of_derives lawful (compile_eq_ok_iff.mp h)

theorem compile_toNode (lawful : c.Lawful) {rule : Rule} (h : rule.WellFormed c) :
    c.compile rule.toNode = .ok rule :=
  compile_eq_ok_iff.mpr (derives_toNode lawful h)

/-- **Nodes and well-formed rules correspond.** The rules that a registry's compiler returns are the
well-formed ones; each is compiled again from its own node, the form of every set included; and no
two have one node. -/
theorem compiled_iff_wellFormed (r : Registry) :
    (∀ rule, (∃ node, (ofRegistry r).compile node = .ok rule) ↔ rule.WellFormed (ofRegistry r)) ∧
    (∀ rule : Rule, rule.WellFormed (ofRegistry r) →
      (ofRegistry r).compile rule.toNode = .ok rule) ∧
    ∀ rule other : Rule, rule.WellFormed (ofRegistry r) → other.WellFormed (ofRegistry r) →
      rule.toNode = other.toNode → rule = other := by
  have lawful := ofRegistry_lawful r
  refine ⟨fun rule => ⟨?_, ?_⟩, fun rule => compile_toNode lawful, ?_⟩
  · rintro ⟨node, compiled⟩
    exact wellFormed_of_compile lawful compiled
  · intro formed
    exact ⟨rule.toNode, compile_toNode lawful formed⟩
  · intro rule other formed formed' same
    have compiled := compile_toNode lawful formed
    rw [same, compile_toNode lawful formed'] at compiled
    exact (Except.ok.inj compiled).symm

/-- A rule with both forms of sets, one inside the other, and with tuples as arguments. -/
def nestedSets : Rule :=
  .each .null
    (.set (.str "items")
      [.set .null
        [.key (.int 3) (.ofStandard (.binary .hasKey)) [],
          .both .implication
            (.val (.str "kind") (.ofStandard (.binary .oneOf)) [.tuple [.int 1, .tuple []]])
            (.val (.str "code") (.ofStandard (.binary .format)) [.str "^[a-z]+$"])] false] true)

theorem compile_nestedSets :
    nestedSets.WellFormed (ofRegistry .standard) ∧
    (ofRegistry .standard).compile nestedSets.toNode = .ok nestedSets := by
  have formed : nestedSets.WellFormed (ofRegistry .standard) := by decide +kernel
  exact ⟨formed, (compiled_iff_wellFormed .standard).2.1 nestedSets formed⟩

end Compiler
end Rulebook
