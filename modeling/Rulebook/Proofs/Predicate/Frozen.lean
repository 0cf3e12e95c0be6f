import Rulebook.Proofs.Compiler.Image
import Rulebook.Proofs.Evaluation.Judgement

/-!
What the standard tests see of the freezing of their arguments. A compiled rule asks about arguments
in which tuples stand for lists. Main statements:
* `holds_freeze`: the answer is that for the arguments as given, unless a sequence is compared with
  a value that holds a list;
* `compiled_test`: so a compiled rule holds where the test does, with this exception;
* `compiled_equals_pair`: a rule of the exception.
-/

namespace Rulebook

namespace Value

mutual

theorem freeze_of_isFrozen {v : Value} (frozen : v.isFrozen = true) : v.freeze = v := by
  cases v with
  | seq k items =>
    cases k with
    | list => cases frozen
    | tuple => rw [freeze, freezeAll_of_areFrozen frozen]
  | _ => rfl

theorem freezeAll_of_areFrozen {vs : List Value} (frozen : areFrozen vs = true) :
    freezeAll vs = vs := by
  cases vs with
  | nil => rfl
  | cons v rest =>
    obtain ⟨head, tail⟩ := Bool.and_eq_true_iff.mp frozen
    rw [freezeAll, freeze_of_isFrozen head, freezeAll_of_areFrozen tail]

end

mutual

/-- A list is no key, and neither is what holds one. -/
theorem isFrozen_of_isKey {v : Value} (key : v.isKey = true) : v.isFrozen = true := by
  cases v with
  | seq k items =>
    cases k with
    | list => cases key
    | tuple => exact areFrozen_of_areKeys key
  | _ => rfl

theorem areFrozen_of_areKeys {vs : List Value} (keys : areKeys vs = true) :
    areFrozen vs = true := by
  cases vs with
  | nil => rfl
  | cons v rest =>
    obtain ⟨head, tail⟩ := Bool.and_eq_true_iff.mp keys
    exact Bool.and_eq_true_iff.mpr ⟨isFrozen_of_isKey head, areFrozen_of_areKeys tail⟩

end

/-! ## Comparisons -/

section

variable {x : Value} (other : x.isSeq = false) (k : SeqKind) (items : List Value)

include other

theorem seq_equal : (Value.seq k items).equal x = .ok false := by
  cases x with
  | seq _ _ => cases other
  | _ => cases k <;> rfl

theorem equal_seq : x.equal (.seq k items) = .ok false := by
  cases x with
  | seq _ _ => cases other
  | _ => cases k <;> rfl

theorem same_seq : x.same (.seq k items) = .ok false := by
  rw [same, ← equal_seq other k items]
  cases x <;> rfl

theorem compares_seq (c : Comparison) : x.compares c (.seq k items) = .error .unsupported := by
  cases x with
  | seq _ _ => cases other
  | _ => cases k <;> rfl

end

section

variable {v x : Value} (blind : x.isSeq = true → v.isFrozen = true)

include blind

/-- Where a sequence meets no list, freezing changes a value only in front of what is no sequence. -/
theorem freeze_eq_or : v.freeze = v ∨ x.isSeq = false ∧ ∃ k items, v = .seq k items := by
  by_cases frozen : v.isFrozen = true
  · exact .inl (freeze_of_isFrozen frozen)
  · have other : x.isSeq = false := by simpa using mt blind frozen
    cases v with
    | seq k items => exact .inr ⟨other, k, items, rfl⟩
    | _ => exact .inl rfl

theorem equal_freeze : v.freeze.equal x = v.equal x := by
  obtain unchanged | ⟨other, k, items, rfl⟩ := freeze_eq_or blind
  · rw [unchanged]
  · rw [freeze, seq_equal other, seq_equal other]

theorem same_freeze : x.same v.freeze = x.same v := by
  obtain unchanged | ⟨other, k, items, rfl⟩ := freeze_eq_or blind
  · rw [unchanged]
  · rw [freeze, same_seq other, same_seq other]

theorem compares_freeze (c : Comparison) : x.compares c v.freeze = x.compares c v := by
  obtain unchanged | ⟨other, k, items, rfl⟩ := freeze_eq_or blind
  · rw [unchanged]
  · rw [freeze, compares_seq other, compares_seq other]

end

theorem anySame_freezeAll {x : Value} {vs : List Value}
    (blind : x.isSeq = true → areFrozen vs = true) : x.anySame (freezeAll vs) = x.anySame vs := by
  induction vs with
  | nil => rfl
  | cons v rest ih =>
    have here : x.same v.freeze = x.same v :=
      same_freeze fun isSeq => (Bool.and_eq_true_iff.mp (blind isSeq)).1
    have others := ih fun isSeq => (Bool.and_eq_true_iff.mp (blind isSeq)).2
    rw [freezeAll, anySame, anySame, here, others]

end Value

/-! ## Tests -/

namespace BinaryTest

/-- The values with which a test compares its subject, item by item where both are sequences. -/
def compared : BinaryTest → Value → List Value
  | .equals, bound | .above, bound | .atLeast, bound | .below, bound | .atMost, bound => [bound]
  | .oneOf, options | .noneOf, options => options.items?.getD []
  | _, _ => []

theorem within_freeze {c : Comparison} {bound x : Value}
    (blind : x.isSeq = true → bound.isFrozen = true) :
    within c bound.freeze x = within c bound x := by
  rw [within, within, Value.compares_freeze blind]

theorem isIn_freeze {options x : Value}
    (blind : x.isSeq = true → Value.areFrozen (options.items?.getD []) = true) :
    x.isIn options.freeze = x.isIn options := by
  cases options with
  | seq k items => exact Value.anySame_freezeAll blind
  | _ => rfl

/-- Only keys are looked up in a map. -/
theorem isKey_of_isIn {name : Value} {entries : List (Value × Value)} {answer : Bool}
    (found : name.isIn (.map entries) = .ok answer) : name.isKey = true := by
  rw [Value.isIn] at found
  cases key : name.isKey with
  | true => rfl
  | false =>
    rw [key, if_neg Bool.false_ne_true] at found
    cases found

theorem onSize_congr (x : Value) {test test' : Value → Except Fault Bool}
    (same : ∀ n : Value, n.isSeq = false → test n = test' n) : onSize x test = onSize x test' := by
  unfold onSize
  congr 1
  funext size
  cases size with
  | none => rfl
  | some size => exact same (.int size) rfl

/-- A size is no sequence. -/
theorem onSize_compares_freeze (c : Comparison) (bound x : Value) :
    (onSize x fun n => n.compares c bound.freeze) = onSize x fun n => n.compares c bound :=
  onSize_congr x fun _ other =>
    Value.compares_freeze (fun isSeq => absurd (other.symm.trans isSeq) Bool.false_ne_true) c

theorem holds_size_freeze (bound x : Value) :
    BinaryTest.size.holds bound.freeze x = BinaryTest.size.holds bound x := by
  cases bound with
  | seq k items =>
    change (onSize x fun n => n.equal (.tuple (Value.freezeAll items))) =
      onSize x fun n => n.equal (.seq k items)
    refine onSize_congr x fun n other => ?_
    rw [Value.equal_seq other, Value.equal_seq other]
  | _ => rfl

theorem holds_format_freeze (regex x : Value) :
    BinaryTest.format.holds regex.freeze x = BinaryTest.format.holds regex x := by
  cases regex with
  | seq k items =>
    cases x with
    | atom a => cases a <;> rfl
    | _ => rfl
  | _ => rfl

theorem isFrozen_of_blind {bound x : Value}
    (blind : x.isSeq = true → Value.areFrozen [bound] = true) :
    x.isSeq = true → bound.isFrozen = true :=
  fun isSeq => (Bool.and_eq_true_iff.mp (blind isSeq)).1

/-- Where a sequence is compared with no list, a test that answers gives the same answer for the
frozen argument. A name that is looked up in a map is frozen already. -/
theorem holds_freeze {t : BinaryTest} {bound x : Value} {answer : Bool}
    (blind : x.isSeq = true → Value.areFrozen (t.compared bound) = true)
    (held : t.holds bound x = .ok answer) : t.holds bound.freeze x = .ok answer := by
  cases t with
  | hasKey =>
    cases x with
    | map entries =>
      rw [Value.freeze_of_isFrozen (Value.isFrozen_of_isKey (isKey_of_isIn held))]
      exact held
    | _ => exact held
  | equals => exact (Value.equal_freeze (isFrozen_of_blind blind)).trans held
  | above => exact (within_freeze (isFrozen_of_blind blind)).trans held
  | atLeast => exact (within_freeze (isFrozen_of_blind blind)).trans held
  | below => exact (within_freeze (isFrozen_of_blind blind)).trans held
  | atMost => exact (within_freeze (isFrozen_of_blind blind)).trans held
  | size => exact (holds_size_freeze bound x).trans held
  | minSize => exact (onSize_compares_freeze .atLeast bound x).trans held
  | maxSize => exact (onSize_compares_freeze .atMost bound x).trans held
  | oneOf => exact (isIn_freeze blind).trans held
  | noneOf => exact (congrArg (Except.map (!·)) (isIn_freeze blind)).trans held
  | format => exact (holds_format_freeze bound x).trans held

end BinaryTest

/-! ## Compiled tests -/

namespace StandardTest

open Evaluation

/-- The node of a rule that asks the test about the whole input. -/
def node (t : StandardTest) (arguments : List Value) : Value :=
  nodeOf .val [.null, nodeOf .predicate [.str t.id, .list arguments]]

/-- Whether the test compares a sequence with a value that holds a list. -/
def seesLists : StandardTest → List Value → Value → Bool
  | .binary t, [bound], x => x.isSeq && !Value.areFrozen (t.compared bound)
  | _, _, _ => false

theorem call_freezeAll {t : StandardTest} {arguments : List Value} {x : Value} {answer : Bool}
    (blind : t.seesLists arguments x = false) (held : t.call (arguments ++ [x]) = .ok answer) :
    t.call (Value.freezeAll arguments ++ [x]) = .ok answer := by
  -- A test that answers has the number of arguments that it takes.
  cases t with
  | unary t =>
    cases arguments with
    | nil => exact held
    | cons bound rest => cases rest <;> cases held
  | binary t =>
    cases arguments with
    | nil => cases held
    | cons bound rest =>
      cases rest with
      | nil =>
        have frozen : x.isSeq = true → Value.areFrozen (t.compared bound) = true := by
          intro isSeq
          simpa [seesLists, isSeq] using blind
        exact BinaryTest.holds_freeze frozen held
      | cons other rest => cases rest <;> cases held

theorem mem_all (t : StandardTest) : t ∈ all := by
  cases t with
  | unary t => cases t <;> decide
  | binary t => cases t <;> decide

theorem get?_standard (t : StandardTest) : Registry.standard.get? t.id = some (.ofStandard t) := by
  have every : ∀ t ∈ all, Registry.standard.get? t.id = some (.ofStandard t) := by decide +kernel
  exact every t (mem_all t)

theorem exists_of_get?_standard {id : String} {p : Predicate}
    (known : Registry.standard.get? id = some p) : ∃ t : StandardTest, p = .ofStandard t := by
  have listed : Registry.standard.predicates = all.map .ofStandard := by decide +kernel
  have member : p ∈ Registry.standard.predicates := List.mem_of_find?_eq_some known
  rw [listed] at member
  obtain ⟨t, _, made⟩ := List.mem_map.mp member
  exact ⟨t, made.symm⟩

theorem rule_of_compile {t : StandardTest} {arguments : List Value} {rule : Rule}
    (compiled : (Compiler.ofRegistry .standard).compile (t.node arguments) = .ok rule) :
    rule = .val .null (.ofStandard t) (Value.freezeAll arguments) := by
  have opened : (Compiler.ofRegistry .standard).compile (t.node arguments) = (do
      let bound ← (Compiler.ofRegistry .standard).resolve 0 t.id arguments
      return .val .null bound.1 bound.2) := rfl
  obtain ⟨⟨p, bound⟩, resolved, made⟩ := bind_eq_ok_iff.mp (opened.symm.trans compiled)
  obtain ⟨fits, rfl⟩ := Compiler.resolve_eq_ok_iff.mp resolved
  have known := fits.found.symm.trans (get?_standard t)
  cases known
  exact (Except.ok.inj made).symm

theorem verdict_of_compile {t : StandardTest} {arguments : List Value} {rule : Rule}
    (compiled : (Compiler.ofRegistry .standard).compile (t.node arguments) = .ok rule)
    (supplied : Nat → List Value → Except Fault Bool) (x : Value) :
    (rule.run (.standard supplied) x).1.map Result.isSuccess =
      t.call (Value.freezeAll arguments ++ [x]) := by
  have asked : after (rule.verdict (.standard supplied) x) [] =
      after (ask (.standard supplied)
        ⟨.ofStandard t, Value.freezeAll arguments ++ [x]⟩) [] := by
    rw [rule_of_compile compiled, verdict_val]
    exact after_bind_ok (after_orFault (.ok x) [])
  rw [run_verdict, after_ask] at asked
  exact congrArg (·.1) asked

/-- **Compiling keeps the meaning of arguments up to lists.** A compiled test comes to just what the
test answers for the frozen arguments, a fault included. Where it compares no sequence with a value
that holds a list, it holds if the test answers yes for the arguments as given, and fails if the
test answers no. -/
theorem compiled_test {t : StandardTest} {arguments : List Value} {rule : Rule}
    (compiled : (Compiler.ofRegistry .standard).compile (t.node arguments) = .ok rule)
    (supplied : Nat → List Value → Except Fault Bool) (x : Value) :
    (rule.run (.standard supplied) x).1.map Result.isSuccess =
        t.call (Value.freezeAll arguments ++ [x]) ∧
      (t.seesLists arguments x = false → ∀ answer, t.call (arguments ++ [x]) = .ok answer →
        (rule.run (.standard supplied) x).1.map Result.isSuccess = .ok answer) := by
  have verdict := verdict_of_compile compiled supplied x
  exact ⟨verdict, fun blind answer held => verdict.trans (call_freezeAll blind held)⟩

/-- A list of options is no list that a number is compared with. -/
theorem compiled_test_options :
    ∃ rule, (Compiler.ofRegistry .standard).compile
        ((StandardTest.binary .oneOf).node [.list [.list [.int 1], .int 2]]) = .ok rule ∧
      (StandardTest.binary .oneOf).seesLists [.list [.list [.int 1], .int 2]] (.int 2) = false ∧
      (rule.run (.standard fun _ _ => .error .unsupported) (.int 2)).1.map Result.isSuccess =
        .ok true := by
  have compiled : (Compiler.ofRegistry .standard).compile
      ((StandardTest.binary .oneOf).node [.list [.list [.int 1], .int 2]]) =
      .ok (.val .null (.ofStandard (.binary .oneOf)) [.tuple [.tuple [.int 1], .int 2]]) := rfl
  exact ⟨_, compiled, rfl, (compiled_test compiled _ (.int 2)).2 rfl true rfl⟩

/-- A pair given as a list equals a subject that is this list, but its frozen form does not. -/
theorem compiled_equals_pair :
    ∃ rule, (Compiler.ofRegistry .standard).compile
        ((StandardTest.binary .equals).node [.list [.int 1, .int 2]]) = .ok rule ∧
      (StandardTest.binary .equals).call
        ([.list [.int 1, .int 2]] ++ [.list [.int 1, .int 2]]) = .ok true ∧
      ∀ supplied, (rule.run (.standard supplied) (.list [.int 1, .int 2])).1.map Result.isSuccess =
        .ok false := by
  have compiled : (Compiler.ofRegistry .standard).compile
      ((StandardTest.binary .equals).node [.list [.int 1, .int 2]]) =
      .ok (.val .null (.ofStandard (.binary .equals)) [.tuple [.int 1, .int 2]]) := rfl
  exact ⟨_, compiled, rfl, fun supplied => verdict_of_compile compiled supplied _⟩

end StandardTest

end Rulebook
