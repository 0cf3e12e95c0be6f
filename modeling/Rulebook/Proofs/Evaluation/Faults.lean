import Rulebook.Proofs.Evaluation.Certificate
import Rulebook.Proofs.Predicate.Faults
import Rulebook.Proofs.Predicate.Frozen
import Rulebook.Proofs.Report.Grouping

/-!
Where evaluations break off. Main statements:
* `exists_question_of_judges`: only at a question, about something inside the input or about
  nothing; names are never refused;
* `breaksOff_of_question`: with the standard tests and arguments of the declared kinds there are
  three ways to break off, all of which can be seen in the input and the arguments;
* `failures_are_values`: in all other cases a compiled rule comes to a result.
-/

namespace Rulebook

/-! ## The questions of a rule -/

namespace Rule

mutual

/-- The questions that a rule can ask: predicates with all that they are given before the subject. -/
def questions : Rule → List (Predicate × List Value)
  | .key name p arguments => [(p, arguments ++ [name])]
  | .val _ p arguments => [(p, arguments)]
  | .each _ rule => rule.questions
  | .set _ rules _ => questionsOfAll rules
  | .both _ left right => left.questions ++ right.questions

def questionsOfAll : List Rule → List (Predicate × List Value)
  | [] => []
  | rule :: rest => rule.questions ++ questionsOfAll rest

end

theorem mem_questionsOfAll_iff {rules : List Rule} {q : Predicate × List Value} :
    q ∈ questionsOfAll rules ↔ ∃ rule ∈ rules, q ∈ rule.questions := by
  induction rules with
  | nil => simp [questionsOfAll]
  | cons rule rest ih => simp [questionsOfAll, ih]

theorem wellFormed_of_mem {c : Compiler} {rules : List Rule} {rule : Rule}
    (all : AllWellFormed c rules) (member : rule ∈ rules) : rule.WellFormed c := by
  obtain ⟨i, found⟩ := List.getElem?_of_mem member
  exact wellFormed_of_getElem? all found

end Rule

variable {oracle : Oracle} {c : Compiler}

theorem exists_fetch {name : Value} (key : name.isKey = true) (x : Value) :
    ∃ subject, fetch x name = .ok subject := by
  simp only [fetch, key, if_true]
  split
  · exact ⟨_, rfl⟩
  · split <;> exact ⟨_, rfl⟩

/-- What is found at a name stands inside the input, or there is nothing. -/
theorem inside_of_fetch {x name subject : Value} (found : fetch x name = .ok subject) :
    subject.Inside x ∨ subject = .absent := by
  unfold fetch at found
  split at found
  · cases found
    exact .inl .self
  · split at found
    · rename_i entries
      split at found
      · cases under : Value.lookup name entries with
        | none =>
          rw [under] at found
          cases found
          exact .inr rfl
        | some v =>
          rw [under] at found
          cases found
          obtain ⟨e, here, rfl⟩ := Option.map_eq_some_iff.mp under
          exact .inl (.entry (List.mem_of_find?_eq_some here) .self)
      · cases found
    · cases found
      exact .inr rfl

theorem exists_judges_of_judgesAll {tasks : List (Rule × Value)} {before calls : List Call}
    {f : Fault} {outcome : Except Fault Bool} (all : JudgesAll oracle before tasks calls outcome)
    (broken : outcome = .error f) :
    ∃ task ∈ tasks, ∃ earlier calls, Judges oracle earlier task.1 task.2 calls (.error f) := by
  induction tasks generalizing before calls outcome with
  | nil =>
    cases all
    cases broken
  | cons task rest ih =>
    cases all with
    | fault first =>
      cases broken
      exact ⟨_, List.mem_cons_self .., _, _, first⟩
    | @cons _ _ _ _ _ _ _ outcome first others =>
      cases outcome with
      | ok answer => cases broken
      | error e =>
        cases broken
        obtain ⟨task, member, judged⟩ := ih others rfl
        exact ⟨task, List.mem_cons_of_mem _ member, judged⟩

theorem Rule.sizeOf_lt_set {name : Value} {rules : List Rule} {single : Bool} {rule : Rule}
    (here : rule ∈ rules) : sizeOf rule < sizeOf (Rule.set name rules single) := by
  have part := List.sizeOf_lt_of_mem here
  rw [Rule.set.sizeOf_spec]
  omega

/-- An evaluation breaks off at a question, about something inside the input or about nothing. -/
theorem exists_question_of_judges {rule : Rule} {before calls : List Call} {x : Value} {f : Fault}
    {outcome : Except Fault Bool} (formed : rule.WellFormed c)
    (judged : Judges oracle before rule x calls outcome) (broken : outcome = .error f) :
    ∃ q ∈ rule.questions, ∃ earlier y, (y.Inside x ∨ y = .absent) ∧
      oracle earlier ⟨q.1, q.2 ++ [y]⟩ = .error f := by
  match rule with
  | .key name p arguments =>
    have key := Value.isKey_of_isName (Value.isName_of_isName_false formed.1)
    obtain ⟨subject, found⟩ := exists_fetch key x
    cases judged with
    | key =>
      rw [found] at broken
      rcases bind_eq_error_iff.mp broken with refused | ⟨answer, _, later⟩
      · refine ⟨_, List.mem_singleton_self _, before, x, .inl .self, ?_⟩
        rw [List.append_assoc]
        exact refused
      · cases later
  | .val name p arguments =>
    obtain ⟨subject, found⟩ := exists_fetch (Value.isKey_of_isName formed.1) x
    cases judged with
    | @val _ _ _ _ _ subject found =>
      exact ⟨_, List.mem_singleton_self _, before, subject, inside_of_fetch found, broken⟩
    | valFault missed => cases found.symm.trans missed
  | .each name rule =>
    obtain ⟨subject, found⟩ := exists_fetch (Value.isKey_of_isName formed.1) x
    cases judged with
    | each found all =>
      obtain ⟨_, member, earlier, calls, part⟩ := exists_judges_of_judgesAll all broken
      obtain ⟨item, here, rfl⟩ := List.mem_map.mp member
      obtain ⟨q, asked, earlier, y, place, refused⟩ := exists_question_of_judges formed.2 part rfl
      refine ⟨q, asked, earlier, y, place.imp_left fun inner => ?_, refused⟩
      rcases inside_of_fetch found with outer | none
      · exact (inner.trans (.item here .self)).trans outer
      · cases none
    | eachOther _ _ => cases broken
    | eachFault missed => cases found.symm.trans missed
  | .set name rules single =>
    obtain ⟨subject, found⟩ := exists_fetch (Value.isKey_of_isName formed.1) x
    cases judged with
    | set found all =>
      obtain ⟨_, member, earlier, calls, part⟩ := exists_judges_of_judgesAll all broken
      obtain ⟨rule, here, rfl⟩ := List.mem_map.mp member
      have formed' := Rule.wellFormed_of_mem formed.2.2.2 here
      obtain ⟨q, asked, earlier, y, place, refused⟩ := exists_question_of_judges formed' part rfl
      refine ⟨q, Rule.mem_questionsOfAll_iff.mpr ⟨_, here, asked⟩, earlier, y,
        place.imp_left fun inner => ?_, refused⟩
      rcases inside_of_fetch found with outer | none
      · exact inner.trans outer
      · cases none
    | setOther _ _ => cases broken
    | setFault missed => cases found.symm.trans missed
  | .both op left right =>
    cases judged with
    | leftFault first =>
      obtain ⟨q, asked, rest⟩ := exists_question_of_judges formed.1 first broken
      exact ⟨q, List.mem_append_left _ asked, rest⟩
    | leftDecides _ _ _ => cases broken
    | @both _ _ _ _ _ _ _ _ outcome _ _ second =>
      cases outcome with
      | ok answer => cases broken
      | error e =>
        cases broken
        obtain ⟨q, asked, rest⟩ := exists_question_of_judges formed.2 second rfl
        exact ⟨q, List.mem_append_right _ asked, rest⟩
termination_by sizeOf rule
decreasing_by
  · rw [Rule.each.sizeOf_spec]
    omega
  · exact Rule.sizeOf_lt_set here
  · rw [Rule.both.sizeOf_spec]
    omega
  · rw [Rule.both.sizeOf_spec]
    omega

/-! ## The standard tests -/

/-- A well-formed rule asks known predicates with all the arguments that they take. -/
theorem known_of_mem_questions {rule : Rule} (formed : rule.WellFormed c)
    {q : Predicate × List Value} (asked : q ∈ rule.questions) :
    c.find q.1.id = some q.1 ∧ q.2.length = q.1.arity := by
  match rule with
  | .key name p arguments =>
    cases List.mem_singleton.mp asked
    refine ⟨formed.2.known, ?_⟩
    rw [← formed.2.count, List.length_append, List.length_singleton, Nat.add_comm]
  | .val name p arguments =>
    cases List.mem_singleton.mp asked
    exact ⟨formed.2.known, by rw [← formed.2.count, Nat.zero_add]⟩
  | .each name rule => exact known_of_mem_questions formed.2 asked
  | .set name rules single =>
    obtain ⟨rule, here, asked⟩ := Rule.mem_questionsOfAll_iff.mp asked
    exact known_of_mem_questions (Rule.wellFormed_of_mem formed.2.2.2 here) asked
  | .both op left right =>
    rcases List.mem_append.mp asked with asked | asked
    · exact known_of_mem_questions formed.1 asked
    · exact known_of_mem_questions formed.2 asked
termination_by sizeOf rule
decreasing_by
  · rw [Rule.each.sizeOf_spec]
    omega
  · exact Rule.sizeOf_lt_set here
  · rw [Rule.both.sizeOf_spec]
    omega
  · rw [Rule.both.sizeOf_spec]
    omega

namespace Rule

/-- A rule asks a binary test with a bound argument. -/
def Asks (rule : Rule) (t : BinaryTest) (bound : Value) : Prop :=
  (.ofStandard (.binary t), [bound]) ∈ rule.questions

/-- All tests have arguments as they are declared to take them. -/
def Declared (rule : Rule) : Prop :=
  ∀ q ∈ rule.questions,
    match q.1.test, q.2 with
    | .standard (.binary t), [bound] => t.takes bound = true
    | _, _ => True

theorem Declared.takes {rule : Rule} (declared : rule.Declared) {t : BinaryTest} {bound : Value}
    (asked : rule.Asks t bound) : t.takes bound = true :=
  declared _ asked

end Rule

variable {supplied : Nat → List Value → Except Fault Bool}

theorem breaksOff_of_question {rule : Rule} (formed : rule.WellFormed (.ofRegistry .standard))
    (declared : rule.Declared) {q : Predicate × List Value} (asked : q ∈ rule.questions)
    {earlier : List Call} {x y : Value} {f : Fault} (place : y.Inside x ∨ y = .absent)
    (refused : Oracle.standard supplied earlier ⟨q.1, q.2 ++ [y]⟩ = .error f) :
    ∃ t bound, rule.Asks t bound ∧ t.BreaksOff bound x f := by
  obtain ⟨known, count⟩ := known_of_mem_questions formed asked
  obtain ⟨p, arguments⟩ := q
  obtain ⟨t, rfl⟩ := StandardTest.exists_of_get?_standard known
  have called : t.call (arguments ++ [y]) = .error f := refused
  cases t with
  | unary t =>
    cases List.length_eq_zero_iff.mp count
    cases called
  | binary t =>
    obtain ⟨bound, rfl⟩ := List.length_eq_one_iff.mp count
    have held : t.holds bound y = .error f := called
    have broken := BinaryTest.breaksOff_of_holds (declared.takes asked) held
    rcases place with inner | rfl
    · exact ⟨t, bound, asked, broken.of_inside inner⟩
    · exact ⟨t, bound, asked, broken.of_absent x⟩

theorem run_returns_or_breaksOff {rule : Rule} (formed : rule.WellFormed (.ofRegistry .standard))
    (declared : rule.Declared) (x : Value) :
    (∃ res, (rule.run (.standard supplied) x).1 = .ok res) ∨
      ∃ t bound f, rule.Asks t bound ∧ t.BreaksOff bound x f ∧
        (rule.run (.standard supplied) x).1 = .error f := by
  cases came : (rule.run (.standard supplied) x).1 with
  | ok res => exact .inl ⟨res, rfl⟩
  | error f =>
    obtain ⟨calls, outcome, judged⟩ :
        ∃ calls outcome, Judges (.standard supplied) [] rule x calls outcome :=
      judges_total rule [] x
    have verdict := verdict_of_judges judged
    rw [run_verdict, came] at verdict
    have broken : outcome = .error f := (congrArg (·.1) verdict).symm
    obtain ⟨q, asked, earlier, y, place, refused⟩ := exists_question_of_judges formed judged broken
    obtain ⟨t, bound, asks, breaks⟩ := breaksOff_of_question formed declared asked place refused
    exact .inr ⟨t, bound, f, asks, breaks, rfl⟩

/-- **Failures are values.** A compiled rule whose tests have arguments of the declared kinds comes
to a result about every input, unless one of its tests breaks off about the input: because a NaN and
a decimal are compared, because there are more elements than can be counted, or because a regular
expression reverses a group. No order test breaks off because the subject does not compare with its
bound: it fails. -/
theorem failures_are_values {node : Value} {rule : Rule}
    (compiled : (Compiler.ofRegistry .standard).compile node = .ok rule)
    (declared : rule.Declared) (supplied : Nat → List Value → Except Fault Bool) (x : Value) :
    ((∃ res, (rule.run (.standard supplied) x).1 = .ok res) ∨
      ∃ t bound f, rule.Asks t bound ∧ t.BreaksOff bound x f ∧
        (rule.run (.standard supplied) x).1 = .error f) ∧
    ∀ t c bound y, BinaryTest.order? t = some c →
      (y = .absent ∨ y.compares c bound = .error .unsupported) → t.holds bound y = .ok false := by
  have formed := Compiler.wellFormed_of_compile (Compiler.ofRegistry_lawful .standard) compiled
  exact ⟨run_returns_or_breaksOff formed declared x,
    fun _ _ _ _ isOrder incomparable => BinaryTest.holds_of_incomparable isOrder incomparable⟩

/-- Numbers that are each above one. -/
def aboveOne : Rule := .each .null (.val .null (.ofStandard (.binary .above)) [.int 1])

theorem compile_aboveOne :
    (Compiler.ofRegistry .standard).compile aboveOne.toNode = .ok aboveOne :=
  Compiler.compile_toNode (Compiler.ofRegistry_lawful .standard) (by decide +kernel)

theorem declared_aboveOne : aboveOne.Declared := by
  intro q asked
  cases List.mem_singleton.mp asked
  rfl

/-- The decimal that is no number. -/
def decimalNaN : Value := .atom (.decimal (.nan false false 0 0))

/-- A decimal NaN among the numbers breaks the rule off; a text would fail the test. -/
theorem failures_are_values_aboveOne :
    aboveOne.Declared ∧
    (∃ t bound f, aboveOne.Asks t bound ∧ t.BreaksOff bound (.list [.int 2, decimalNaN]) f) ∧
    BinaryTest.above.holds (.int 1) (.str "2") = .ok false := by
  have values := failures_are_values compile_aboveOne declared_aboveOne
    (fun _ _ => .error .unsupported) (.list [.int 2, decimalNaN])
  refine ⟨declared_aboveOne, ?_, values.2 .above .greater _ _ rfl (.inr rfl)⟩
  rcases values.1 with ⟨res, came⟩ | ⟨t, bound, f, asks, breaks, _⟩
  · cases came
  · exact ⟨t, bound, f, asks, breaks⟩

/-- A number without a value is not above one, and the rule breaks off instead of failing. -/
theorem above_nan_breaks_off :
    let rule := Rule.val .null (.ofStandard (.binary .above)) [.int 1]
    (Compiler.ofRegistry .standard).compile rule.toNode = .ok rule ∧ rule.Declared ∧
      ∀ supplied, (rule.run (.standard supplied) decimalNaN).1 = .error .invalidOperation := by
  refine ⟨?_, ?_, fun _ => rfl⟩
  · exact Compiler.compile_toNode (Compiler.ofRegistry_lawful .standard) (by decide +kernel)
  · intro q asked
    cases List.mem_singleton.mp asked
    rfl

end Rulebook
