import Rulebook.Proofs.Compiler.Derivation

/-!
What is wrong with a value that is no node. `offences` goes through the whole value and lists
everything, each node before its parts and the parts from left to right; compiling stops at the
first. Main statements:
* `compile_eq_error_iff`: a value is refused for its first offence;
* `vet_of_mem_offences`: all offences are the compiler's own unless the check of some regular
  expression broke off;
* `compile_decides`: what is accepted, and what everything else is refused for.
-/

namespace Rulebook

/-- Whether an error is about the node: everything but the breaking off of a check is. -/
def CompileError.isOwn : CompileError → Bool
  | .brokenOff _ => false
  | _ => true

namespace Compiler

/-! ## Offences -/

def nameOffences (tag : Tag) (nullAllowed : Bool) (name : Value) : List CompileError :=
  if name.isName nullAllowed then [] else [.badName tag name]

def patternOffences (c : Compiler) (id : String) : List Value → List CompileError
  | [] => []
  | first :: _ =>
    if id = formatId then
      match c.vet first with
      | .accepted => []
      | .rejected => [.badPattern first]
      | .brokenOff f => [.brokenOff f]
    else []

/-- What is wrong with the arguments of a known predicate. -/
def argumentOffences (c : Compiler) (implicit : Nat) (id : String) (p : Predicate)
    (arguments : List Value) : List CompileError :=
  (if p.arity < implicit then [.noKeyName id]
    else if implicit + arguments.length = p.arity then []
    else [.argumentCount id (p.arity - implicit) arguments.length]) ++
  c.patternOffences id arguments

/-- What is wrong with the name of a predicate and its arguments. Only a string can be known. -/
def callOffences (c : Compiler) (implicit : Nat) (id : Value) (arguments : List Value) :
    List CompileError :=
  match id with
  | .str s =>
    match c.find s with
    | none => [.unknownPredicate s]
    | some p => c.argumentOffences implicit s p arguments
  | other => [.unknownPredicate other.text]

/-- What is wrong with a predicate node. That its arguments are a list belongs to its shape. -/
def predicateOffences (c : Compiler) (implicit : Nat) : Value → List CompileError
  | .seq _ [.str tag, payload] =>
    if tag = Tag.predicate.text then
      match payload with
      | .seq _ [id, .seq _ arguments] => c.callOffences implicit id arguments
      | .seq _ [id, arguments] => [.argumentsNotList id arguments]
      | other => [.payloadNotPair .predicate other]
    else [.notPredicate tag]
  | .seq _ [tag, _] => [.tagNotText tag]
  | other => [.notPair other]

mutual

/-- Everything that is wrong with a node. The shape of a node comes before its parts. -/
def offences (c : Compiler) : Value → List CompileError
  | .seq _ [.str text, payload] =>
    match Tag.ofText? text with
    | none => [.unknownTag text]
    | some .predicate => [.barePredicate]
    | some (.connective op) =>
      match payload with
      | .seq _ [left, right] => offences c left ++ offences c right
      | other => [.payloadNotPair (.connective op) other]
    | some .key =>
      match payload with
      | .seq _ [name, node] => nameOffences .key false name ++ c.predicateOffences 1 node
      | other => [.payloadNotPair .key other]
    | some .val =>
      match payload with
      | .seq _ [name, node] => nameOffences .val true name ++ c.predicateOffences 0 node
      | other => [.payloadNotPair .val other]
    | some .each =>
      match payload with
      | .seq _ [node] => offences c node
      | .seq _ [name, node] => nameOffences .each true name ++ offences c node
      | other => [.payloadNotPair .each other]
    | some .set =>
      match payload with
      | .seq _ [name, nodes] =>
        nameOffences .set true name ++
          if nodes.isNode then offences c nodes
          else
            match nodes with
            | .seq _ [] => [.noRules name]
            | .seq _ items => offencesOfAll c items
            | _ => [.noRules name]
      | other => [.payloadNotPair .set other]
  | .seq _ [tag, _] => [.tagNotText tag]
  | other => [.notPair other]

def offencesOfAll (c : Compiler) : List Value → List CompileError
  | [] => []
  | node :: rest => offences c node ++ offencesOfAll c rest

end

/-! ## The first offence -/

theorem refusal?_checkName (tag : Tag) (nullAllowed : Bool) (name : Value) :
    refusal? (checkName tag nullAllowed name) = (nameOffences tag nullAllowed name).head? := by
  unfold checkName nameOffences Value.isName
  split
  · rfl
  · rfl
  · cases nullAllowed <;> rfl
  · simp_all [refusal?]

variable {c : Compiler}

theorem refusal?_checkPattern (id : String) (arguments : List Value) :
    refusal? (c.checkPattern id arguments) = (c.patternOffences id arguments).head? := by
  unfold checkPattern patternOffences
  cases arguments with
  | nil => rfl
  | cons first rest =>
    by_cases format : id = formatId
    · cases checked : c.vet first <;> simp [format, checked, refusal?]
    · simp [format, refusal?]

theorem refusal?_resolve (implicit : Nat) (id : String) (arguments : List Value) :
    refusal? (c.resolve implicit id arguments) =
      (c.callOffences implicit (.str id) arguments).head? := by
  unfold resolve callOffences argumentOffences
  cases found : c.find id with
  | none => simp [found, refusal?]
  | some p =>
    by_cases enough : p.arity < implicit
    · simp [found, enough, refusal?]
    · by_cases exactly : implicit + arguments.length = p.arity
      · have count : arguments.length = p.arity - implicit := by omega
        have checked : ∀ a, c.checkPattern id arguments = .ok a →
            refusal? (return (p, Value.freezeAll arguments) : Except CompileError _) = none :=
          fun _ _ => rfl
        simp only [found, enough, count, if_false, ne_eq, not_true_eq_false]
        rw [refusal?_bind checked, refusal?_checkPattern, Option.or_none]
        simp [← count, exactly]
      · have count : arguments.length ≠ p.arity - implicit := by omega
        simp [found, enough, exactly, count, refusal?]

theorem refusal?_predicateOf (implicit : Nat) (node : Value) :
    refusal? (c.predicateOf implicit node) = (c.predicateOffences implicit node).head? := by
  unfold predicateOf predicateOffences
  split
  · split
    · split
      · split
        · simp [*, refusal?_resolve]
        · simp [*, callOffences, refusal?]
      · simp [*, refusal?]
      · simp [*, refusal?]
    · simp [*, refusal?]
  · simp [*, refusal?]
  · simp [*, refusal?]

/-- What is wrong with a name comes before what is wrong with what is named. -/
theorem refusal?_named {α : Type} {tag : Tag} {nullAllowed : Bool} {name : Value}
    {named : Except CompileError α} {later : List CompileError}
    (h : refusal? named = later.head?) :
    refusal? (do checkName tag nullAllowed name; named) =
      (nameOffences tag nullAllowed name ++ later).head? := by
  rw [refusal?_bind fun _ _ => h, refusal?_checkName, List.head?_append]

mutual

theorem refusal?_compile (node : Value) :
    refusal? (c.compile node) = (c.offences node).head? := by
  -- Only compiling is taken apart; the offences follow once the shape of the node is known.
  unfold compile
  split
  · split
    · unfold offences
      simp [*, refusal?]
    · unfold offences
      simp [*, refusal?]
    all_goals rename_i tag; split; all_goals unfold offences; simp only [tag]
    · rw [refusal?_bind fun _ _ => refusal?_bind_pure, refusal?_compile, refusal?_compile,
        List.head?_append]
    · simp [*, refusal?]
    · apply refusal?_named
      rw [refusal?_bind_pure, refusal?_predicateOf]
    · simp [*, refusal?]
    · apply refusal?_named
      rw [refusal?_bind_pure, refusal?_predicateOf]
    · simp [*, refusal?]
    · rw [refusal?_bind_pure, refusal?_compile]
    · apply refusal?_named
      rw [refusal?_bind_pure, refusal?_compile]
    · simp [*, refusal?]
    · apply refusal?_named
      split
      · rw [refusal?_bind_pure, refusal?_compile]
      · split
        · rfl
        · simp only [refusal?_bind_pure]
          exact refusal?_compileAll _
        · simp [*, refusal?]
    · simp [*, refusal?]
  · unfold offences
    simp [*, refusal?]
  · unfold offences
    simp [*, refusal?]
termination_by sizeOf node

theorem refusal?_compileAll (nodes : List Value) :
    refusal? (c.compileAll nodes) = (c.offencesOfAll nodes).head? := by
  cases nodes with
  | nil => rfl
  | cons node rest =>
    unfold compileAll offencesOfAll
    rw [refusal?_bind fun _ _ => refusal?_bind_pure, refusal?_compile, refusal?_compileAll,
      List.head?_append]
termination_by sizeOf nodes

end

theorem compile_eq_error_iff {node : Value} {e : CompileError} :
    c.compile node = .error e ↔ (c.offences node).head? = some e := by
  rw [← refusal?_compile, refusal?_eq_some_iff]

/-! ## Whose errors they are -/

theorem vet_of_mem_patternOffences {id : String} {arguments : List Value} {f : Fault}
    (h : .brokenOff f ∈ c.patternOffences id arguments) : ∃ v, c.vet v = .brokenOff f := by
  unfold patternOffences at h
  split at h
  · cases h
  · rename_i first _
    split at h
    · cases checked : c.vet first with
      | brokenOff g =>
        simp [checked] at h
        exact ⟨first, h ▸ checked⟩
      | _ => simp [checked] at h
    · cases h

theorem vet_of_mem_callOffences {implicit : Nat} {id : Value} {arguments : List Value} {f : Fault}
    (h : .brokenOff f ∈ c.callOffences implicit id arguments) : ∃ v, c.vet v = .brokenOff f := by
  unfold callOffences at h
  split at h
  · split at h
    · simp at h
    · rcases List.mem_append.mp h with count | pattern
      · split at count
        · simp at count
        · split at count <;> simp at count
      · exact vet_of_mem_patternOffences pattern
  · simp at h

theorem vet_of_mem_predicateOffences {implicit : Nat} {node : Value} {f : Fault}
    (h : .brokenOff f ∈ c.predicateOffences implicit node) : ∃ v, c.vet v = .brokenOff f := by
  unfold predicateOffences at h
  split at h
  · split at h
    · split at h
      · exact vet_of_mem_callOffences h
      · simp at h
      · simp at h
    · simp at h
  · simp at h
  · simp at h

theorem mem_of_mem_named {tag : Tag} {nullAllowed : Bool} {name : Value}
    {later : List CompileError} {f : Fault}
    (h : .brokenOff f ∈ nameOffences tag nullAllowed name ++ later) : .brokenOff f ∈ later := by
  rcases List.mem_append.mp h with named | named
  · unfold nameOffences at named
    split at named <;> simp at named
  · exact named

mutual

theorem vet_of_mem_offences {node : Value} {f : Fault} (h : .brokenOff f ∈ c.offences node) :
    ∃ v, c.vet v = .brokenOff f := by
  unfold offences at h
  split at h
  · split at h
    · simp at h
    · simp at h
    all_goals split at h
    · rcases List.mem_append.mp h with left | right
      · exact vet_of_mem_offences left
      · exact vet_of_mem_offences right
    · simp at h
    · exact vet_of_mem_predicateOffences (mem_of_mem_named h)
    · simp at h
    · exact vet_of_mem_predicateOffences (mem_of_mem_named h)
    · simp at h
    · exact vet_of_mem_offences h
    · exact vet_of_mem_offences (mem_of_mem_named h)
    · simp at h
    · have nested := mem_of_mem_named h
      split at nested
      · exact vet_of_mem_offences nested
      · split at nested
        · simp at nested
        · exact vet_of_mem_offencesOfAll nested
        · simp at nested
    · simp at h
  · simp at h
  · simp at h
termination_by sizeOf node

theorem vet_of_mem_offencesOfAll {nodes : List Value} {f : Fault}
    (h : .brokenOff f ∈ c.offencesOfAll nodes) : ∃ v, c.vet v = .brokenOff f := by
  cases nodes with
  | nil => cases h
  | cons node rest =>
    rcases List.mem_append.mp h with head | tail
    · exact vet_of_mem_offences head
    · exact vet_of_mem_offencesOfAll tail
termination_by sizeOf nodes

end

/-- **The compiler decides the grammar, with its own errors only.** As long as the check of regular
expressions never breaks off, a value is compiled to a rule exactly if it is a node of the grammar
for that rule. Every other value is refused for the first of its offences, in particular for an
unknown predicate exactly if that comes first, and never for anything else. -/
theorem compile_decides (c : Compiler) (total : ∀ v f, c.vet v ≠ .brokenOff f) (node : Value) :
    (∀ rule, c.compile node = .ok rule ↔ Derives c node rule) ∧
    (∀ e, c.compile node = .error e ↔ (c.offences node).head? = some e) ∧
    ∀ e, c.compile node = .error e → e.isOwn = true := by
  refine ⟨fun rule => compile_eq_ok_iff, fun e => compile_eq_error_iff, ?_⟩
  intro e refused
  cases e with
  | brokenOff f =>
    have first := compile_eq_error_iff.mp refused
    obtain ⟨v, broken⟩ := vet_of_mem_offences (List.mem_of_head? first)
    exact absurd broken (total v f)
  | _ => rfl

/-- The standard predicates, with regular expressions held to be broken where their check breaks
off. -/
def strict : Compiler where
  find := Registry.standard.get?
  vet v := if Pattern.vet v = .accepted then .accepted else .rejected

/-- An unknown predicate with a broken name to its right, deep inside a list of nodes. -/
def twoOffences : Value :=
  .list [.str "set", .tuple [.null, .list
    [.list [.str "val", .list [.int 1, .list [.str "predicate", .list [.str "filled?", .list []]]]],
      .list [.str "and", .list
        [.list [.str "val", .list [.null, .list [.str "predicate", .list [.int 7, .list []]]]],
          .list [.str "each", .list [.bool true, .str "node"]]]]]]]

theorem compile_twoOffences :
    (∀ v f, strict.vet v ≠ .brokenOff f) ∧
    strict.compile twoOffences = .error (.unknownPredicate "7") := by
  have total : ∀ v f, strict.vet v ≠ .brokenOff f := by
    intro v f
    unfold strict
    simp only
    split <;> simp
  exact ⟨total, ((compile_decides strict total twoOffences).2.1 _).mpr rfl⟩

end Compiler
end Rulebook
