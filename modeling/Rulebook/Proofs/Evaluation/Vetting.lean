import Rulebook.Proofs.Evaluation.Calls

/-!
Which regular expressions are vetted before they are searched for. A format test gets its expression
as a bound argument, which the compiler vets, or as the name of a key rule, which it does not. Main
statements:
* `refused?_of_vet`: no search refuses an expression that was vetted;
* `format_of_badPattern`: nothing but a search refuses an expression;
* `vet_or_mem_formatNames`: the expressions of a compiled rule are vetted or names;
* `patterns_vetted`: so an evaluation breaks off at an expression only if it is such a name;
* `unvetted_name`: and there it does.
-/

namespace Rulebook

/-! ## Searches -/

namespace Pattern

/-- Why a search refuses a value as a regular expression, if it does. -/
def refused? : Value → Option Fault
  | .str source | .atom (.pattern source) => Rulebook.refusal? ((ofText source).mapError Error.fault)
  | .atom (.bytes bs) => Rulebook.refusal? ((ofBytes bs).mapError Error.fault)
  | _ => some .unsupported

/-- What vetting says of an expression that it reads. -/
def vetting : Except Error Pattern → Vetting
  | .ok _ => .accepted
  | .error .malformed => .rejected
  | .error e => .brokenOff e.fault

theorem vet_str (source : String) : vet (.str source) = vetting (ofText source) := by
  unfold vet vetting
  rfl

theorem vet_bytes (bs : List UInt8) : vet (.atom (.bytes bs)) = vetting (ofBytes bs) := by
  unfold vet vetting
  rfl

theorem vetting_eq_accepted_iff {read : Except Error Pattern} :
    vetting read = .accepted ↔ Rulebook.refusal? (read.mapError Error.fault) = none := by
  cases read with
  | ok _ => exact iff_of_true rfl rfl
  | error e => cases e <;> exact iff_of_false nofun nofun

theorem vetting_eq_rejected_iff {read : Except Error Pattern} :
    vetting read = .rejected ↔
      Rulebook.refusal? (read.mapError Error.fault) = some .badPattern := by
  cases read with
  | ok _ => exact iff_of_false nofun nofun
  | error e =>
    cases e with
    | malformed => exact iff_of_true rfl rfl
    | _ => exact iff_of_false nofun nofun

/-- An expression that was read before is known by its text, and not read when it is vetted. -/
theorem refused?_of_vet {v : Value} (accepted : vet v = .accepted)
    (read : ∀ source, v = .atom (.pattern source) → ∃ p, ofText source = .ok p) :
    refused? v = none := by
  unfold refused?
  split
  · exact vetting_eq_accepted_iff.mp (vet_str _ ▸ accepted)
  · obtain ⟨p, known⟩ := read _ rfl
    rw [known]
    rfl
  · exact vetting_eq_accepted_iff.mp (vet_bytes _ ▸ accepted)
  · unfold vet at accepted
    split at accepted <;> simp_all

/-- What is no expression would have been rejected if it had been vetted. -/
theorem vet_of_refused? {v : Value} (refused : refused? v = some .badPattern)
    (read : ∀ source, v = .atom (.pattern source) → ∃ p, ofText source = .ok p) :
    vet v = .rejected := by
  unfold refused? at refused
  split at refused
  · rw [vet_str]
    exact vetting_eq_rejected_iff.mpr refused
  · obtain ⟨p, known⟩ := read _ rfl
    rw [known] at refused
    cases refused
  · rw [vet_bytes]
    exact vetting_eq_rejected_iff.mpr refused
  · cases refused

end Pattern

namespace Value

/-! Questions about values are never refused because of an expression. -/

theorem equal_ne_badPattern (x y : Value) : x.equal y ≠ .error .badPattern := by
  intro broken
  obtain ⟨other, _⟩ := fault_of_equal broken
  cases other

theorem compares_ne_badPattern (c : Comparison) (x y : Value) :
    x.compares c y ≠ .error .badPattern := by
  intro broken
  rcases fault_of_compares broken with other | ⟨other, _⟩ <;> cases other

theorem isIn_ne_badPattern (x y : Value) : x.isIn y ≠ .error .badPattern := by
  intro broken
  unfold isIn at broken
  split at broken
  · split at broken <;> cases broken
  · split at broken
    · cases broken
    · split at broken <;> cases broken
    · cases broken
    · cases broken
  · unfold inSpan at broken
    grind
  · cases broken
  · obtain ⟨other, _⟩ := fault_of_anySame broken
    cases other
  · unfold inSet at broken
    grind
  · split at broken <;> cases broken

end Value

namespace BinaryTest

/-- A search reads its expression before it looks at the text. -/
theorem matchesFormat_of_refused? {regex : Value} {f : Fault}
    (refused : Pattern.refused? regex = some f) (s : String) :
    matchesFormat regex (.str s) = .error f := by
  unfold Pattern.refused? at refused
  unfold matchesFormat
  split at refused
  · simp only [refusal?_eq_some_iff.mp refused]
    rfl
  · simp only [refusal?_eq_some_iff.mp refused]
    rfl
  · simp only [refusal?_eq_some_iff.mp refused]
    rfl
  · cases refused
    split <;> simp_all

theorem refused?_of_matchesFormat {regex x : Value}
    (broken : matchesFormat regex x = .error .badPattern) :
    (∃ s, x = .str s) ∧ Pattern.refused? regex = some .badPattern := by
  unfold matchesFormat at broken
  split at broken
  · rcases bind_eq_error_iff.mp broken with unread | ⟨p, _, searched⟩
    · exact ⟨⟨_, rfl⟩, refusal?_eq_some_iff.mpr unread⟩
    · split at searched <;> cases searched
  · rcases bind_eq_error_iff.mp broken with unread | ⟨p, _, searched⟩
    · exact ⟨⟨_, rfl⟩, refusal?_eq_some_iff.mpr unread⟩
    · split at searched <;> cases searched
  · rcases bind_eq_error_iff.mp broken with unread | ⟨p, _, other⟩
    · exact ⟨⟨_, rfl⟩, refusal?_eq_some_iff.mpr unread⟩
    · cases other
  · cases broken
  · cases broken

theorem onSize_ne_badPattern {test : Value → Except Fault Bool}
    (other : ∀ n, test n ≠ .error .badPattern) (x : Value) : onSize x test ≠ .error .badPattern := by
  intro broken
  rcases bind_eq_error_iff.mp broken with uncounted | ⟨size, _, asked⟩
  · unfold sizeOf at uncounted
    split at uncounted
    · split at uncounted <;> cases uncounted
    · cases uncounted
  · cases size with
    | none => cases asked
    | some n => exact other _ asked

theorem within_ne_badPattern (c : Comparison) (bound x : Value) :
    within c bound x ≠ .error .badPattern := by
  intro broken
  obtain ⟨other, _⟩ := fault_of_within broken
  cases other

/-- Of all tests only the search of a text is refused because of an expression. -/
theorem format_of_holds {t : BinaryTest} {bound x : Value}
    (broken : t.holds bound x = .error .badPattern) : t = .format := by
  unfold holds at broken
  -- The tests in their order; a size has two cases, for progressions and for all other bounds.
  split at broken
  case h_13 => rfl
  all_goals exfalso
  · split at broken
    · exact Value.isIn_ne_badPattern _ _ broken
    · cases broken
  · exact Value.equal_ne_badPattern _ _ broken
  · exact within_ne_badPattern _ _ _ broken
  · exact within_ne_badPattern _ _ _ broken
  · exact within_ne_badPattern _ _ _ broken
  · exact within_ne_badPattern _ _ _ broken
  · exact onSize_ne_badPattern (fun n => Value.isIn_ne_badPattern n _) _ broken
  · exact onSize_ne_badPattern (fun n => Value.equal_ne_badPattern n _) _ broken
  · exact onSize_ne_badPattern (fun n => Value.compares_ne_badPattern _ n _) _ broken
  · exact onSize_ne_badPattern (fun n => Value.compares_ne_badPattern _ n _) _ broken
  · exact Value.isIn_ne_badPattern _ _ broken
  · exact Value.isIn_ne_badPattern _ _ (map_eq_error_iff.mp broken)

end BinaryTest

theorem StandardTest.format_of_badPattern {t : StandardTest} {arguments : List Value}
    (broken : t.call arguments = .error .badPattern) :
    ∃ regex s, t = .binary .format ∧ arguments = [regex, .str s] ∧
      Pattern.refused? regex = some .badPattern := by
  unfold call at broken
  split at broken
  · cases broken
  · rename_i t bound x
    cases BinaryTest.format_of_holds broken
    obtain ⟨⟨s, rfl⟩, refused⟩ := BinaryTest.refused?_of_matchesFormat broken
    exact ⟨bound, s, rfl, rfl, refused⟩
  · cases broken

/-! ## Expressions of rules -/

namespace Rule

mutual

/-- The names that a rule gives to format tests as regular expressions. -/
def formatNames : Rule → List Value
  | .key name p _ => if p.id = Compiler.formatId then [name] else []
  | .val _ _ _ => []
  | .each _ rule => rule.formatNames
  | .set _ rules _ => formatNamesOfAll rules
  | .both _ left right => left.formatNames ++ right.formatNames

def formatNamesOfAll : List Rule → List Value
  | [] => []
  | rule :: rest => rule.formatNames ++ formatNamesOfAll rest

end

theorem mem_formatNamesOfAll_iff {rules : List Rule} {name : Value} :
    name ∈ formatNamesOfAll rules ↔ ∃ rule ∈ rules, name ∈ rule.formatNames := by
  induction rules with
  | nil => simp [formatNamesOfAll]
  | cons rule rest ih => simp [formatNamesOfAll, ih]

/-- An evaluation searches a text for a value as a regular expression. -/
def Searches (rule : Rule) (oracle : Oracle) (x regex : Value) : Prop :=
  ∃ s, ⟨.ofStandard (.binary .format), [regex, .str s]⟩ ∈ (rule.run oracle x).2

end Rule

variable {c : Compiler}

/-- The first argument of a format test was vetted, or it is the name that a key rule fills in. -/
theorem vet_or_mem_formatNames {rule : Rule} (formed : rule.WellFormed c)
    {q : Predicate × List Value} (asked : q ∈ rule.questions)
    (format : q.1.id = Compiler.formatId) {regex : Value} (first : regex ∈ q.2.head?) :
    c.vet regex = .accepted ∨ regex ∈ rule.formatNames := by
  match rule with
  | .key name p arguments =>
    cases List.mem_singleton.mp asked
    cases arguments with
    | nil =>
      cases first
      refine .inr ?_
      rw [Rule.formatNames, if_pos format]
      exact List.mem_singleton_self _
    | cons bound rest => exact .inl (formed.2.pattern format regex first)
  | .val name p arguments =>
    cases List.mem_singleton.mp asked
    exact .inl (formed.2.pattern format regex first)
  | .each name rule => exact vet_or_mem_formatNames formed.2 asked format first
  | .set name rules single =>
    obtain ⟨rule, here, asked⟩ := Rule.mem_questionsOfAll_iff.mp asked
    have formed' := Rule.wellFormed_of_mem formed.2.2.2 here
    refine (vet_or_mem_formatNames formed' asked format first).imp_right fun member => ?_
    exact Rule.mem_formatNamesOfAll_iff.mpr ⟨rule, here, member⟩
  | .both op left right =>
    rcases List.mem_append.mp asked with asked | asked
    · exact (vet_or_mem_formatNames formed.1 asked format first).imp_right
        (List.mem_append_left _)
    · exact (vet_or_mem_formatNames formed.2 asked format first).imp_right
        (List.mem_append_right _)
termination_by sizeOf rule
decreasing_by
  · rw [Rule.each.sizeOf_spec]
    omega
  · exact Rule.sizeOf_lt_set here
  · rw [Rule.both.sizeOf_spec]
    omega
  · rw [Rule.both.sizeOf_spec]
    omega

theorem asks_of_searches {oracle : Oracle} {rule : Rule} {x regex : Value}
    (searches : rule.Searches oracle x regex) : rule.Asks .format regex := by
  obtain ⟨s, recorded⟩ := searches
  obtain ⟨⟨p, arguments⟩, asked, y, _, same⟩ := question_of_run recorded
  obtain ⟨rfl, parts⟩ := Call.mk.inj same
  have split : [regex] ++ [.str s] = arguments ++ [y] := parts
  obtain ⟨rfl, _⟩ := List.append_inj' split rfl
  exact asked

/-- **Only names are not vetted.** Whatever a compiled rule is applied to and whatever is answered,
every expression for which a text is searched was vetted when the rule was compiled, and no search
refuses it; or it is the name of a key rule. A search that refuses such a name breaks the evaluation
off. So a rule that is applied ends in an error about a regular expression if and only if a text is
searched for the name of a key rule that is no expression, and that would have been rejected if it
had been vetted. -/
theorem patterns_vetted {node : Value} {rule : Rule}
    (compiled : (Compiler.ofRegistry .standard).compile node = .ok rule)
    (read : ∀ source, rule.Asks .format (.atom (.pattern source)) →
      ∃ p, Pattern.ofText source = .ok p)
    (supplied : Nat → List Value → Except Fault Bool) (x : Value) :
    (∀ oracle regex, rule.Searches oracle x regex →
      Pattern.vet regex = .accepted ∧ Pattern.refused? regex = none ∨ regex ∈ rule.formatNames) ∧
    (∀ regex f, rule.Searches (.standard supplied) x regex → Pattern.refused? regex = some f →
      (rule.run (.standard supplied) x).1 = .error f) ∧
    ((rule.run (.standard supplied) x).1 = .error .badPattern ↔
      ∃ name ∈ rule.formatNames, rule.Searches (.standard supplied) x name ∧
        Pattern.vet name = .rejected ∧ Pattern.refused? name = some .badPattern) := by
  have formed := Compiler.wellFormed_of_compile (Compiler.ofRegistry_lawful .standard) compiled
  have known {oracle : Oracle} {regex : Value} (searches : rule.Searches oracle x regex) (source)
      (same : regex = .atom (.pattern source)) : ∃ p, Pattern.ofText source = .ok p :=
    read source (same ▸ asks_of_searches searches)
  have vetted (oracle : Oracle) (regex : Value) (searches : rule.Searches oracle x regex) :
      Pattern.vet regex = .accepted ∧ Pattern.refused? regex = none ∨
        regex ∈ rule.formatNames := by
    have asked := asks_of_searches searches
    refine (vet_or_mem_formatNames formed asked rfl rfl).imp_left fun accepted => ?_
    exact ⟨accepted, Pattern.refused?_of_vet accepted (known searches)⟩
  have breaks (regex : Value) (f : Fault) (searches : rule.Searches (.standard supplied) x regex)
      (refused : Pattern.refused? regex = some f) :
      (rule.run (.standard supplied) x).1 = .error f := by
    obtain ⟨s, recorded⟩ := searches
    exact (run_error_iff formed x f).mpr
      ⟨_, recorded, BinaryTest.matchesFormat_of_refused? refused s⟩
  refine ⟨vetted, breaks, ?_⟩
  constructor
  · intro broken
    obtain ⟨call, recorded, refused⟩ := (run_error_iff formed x .badPattern).mp broken
    obtain ⟨⟨p, arguments⟩, asked, y, _, rfl⟩ := question_of_run recorded
    obtain ⟨t, rfl⟩ := StandardTest.exists_of_get?_standard (known_of_mem_questions formed asked).1
    obtain ⟨regex, s, rfl, same, refused⟩ := StandardTest.format_of_badPattern refused
    have searches : rule.Searches (.standard supplied) x regex := ⟨s, same ▸ recorded⟩
    rcases vetted _ regex searches with ⟨_, unrefused⟩ | named
    · cases refused.symm.trans unrefused
    · exact ⟨regex, named, searches, Pattern.vet_of_refused? refused (known searches), refused⟩
  · rintro ⟨name, _, searches, _, refused⟩
    exact breaks name .badPattern searches refused

/-- A part has a code that begins with `A`, and labels that match the name of their test. -/
def partRule : Rule :=
  .set .null
    [.val (.str "code") (.ofStandard (.binary .format)) [.atom (.pattern "^A")],
      .each (.str "labels") (.key (.str "(") (.ofStandard (.binary .format)) [])] false

theorem compile_partRule :
    (Compiler.ofRegistry .standard).compile partRule.toNode = .ok partRule :=
  Compiler.compile_toNode (Compiler.ofRegistry_lawful .standard) (by decide +kernel)

/-- The rule has one expression that was read before. -/
theorem read_partRule (source : String)
    (asks : partRule.Asks .format (.atom (.pattern source))) :
    ∃ p, Pattern.ofText source = .ok p := by
  have same : source = "^A" := by
    simpa [Rule.Asks, partRule, Rule.questions, Rule.questionsOfAll] using asks
  subst same
  exact BinaryTest.exists_pattern_of_vet (by decide +kernel)

/-- A part with a label, which is searched for the unvetted name. -/
def labelledPart : Value :=
  .map [(.str "code", .str "AB"), (.str "labels", .list [.str "new"])]

theorem patterns_vetted_labelledPart :
    (∀ source, partRule.Asks .format (.atom (.pattern source)) →
      ∃ p, Pattern.ofText source = .ok p) ∧
    ∀ supplied,
      (Pattern.vet (.atom (.pattern "^A")) = .accepted ∧
        Pattern.refused? (.atom (.pattern "^A")) = none) ∧
      (partRule.run (.standard supplied) labelledPart).1 = .error .badPattern := by
  refine ⟨read_partRule, fun supplied => ?_⟩
  obtain ⟨vetted, breaks, _⟩ :=
    patterns_vetted compile_partRule read_partRule supplied labelledPart
  constructor
  · have first : partRule.Searches (.standard supplied) labelledPart (.atom (.pattern "^A")) :=
      ⟨"AB", List.mem_cons_self ..⟩
    refine (vetted _ _ first).resolve_right fun named => ?_
    cases List.mem_singleton.mp named
  · exact breaks (.str "(") .badPattern ⟨"new", List.mem_cons_of_mem _ (List.mem_cons_self ..)⟩ rfl

/-- A name is searched for as an expression although vetting it would have rejected the rule. -/
theorem unvetted_name :
    let rule := Rule.key (.str "(") (.ofStandard (.binary .format)) []
    (Compiler.ofRegistry .standard).compile rule.toNode = .ok rule ∧
      Pattern.vet (.str "(") = .rejected ∧
      ∀ supplied, (rule.run (.standard supplied) (.str "(")).1 = .error .badPattern := by
  refine ⟨?_, rfl, fun _ => rfl⟩
  exact Compiler.compile_toNode (Compiler.ofRegistry_lawful .standard) (by decide +kernel)

end Rulebook
