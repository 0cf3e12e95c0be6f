import Rulebook.Proofs.Message.Bounds
import Rulebook.Proofs.Message.Coverage
import Rulebook.Proofs.Report.Account

/-!
What the slots of a template show of a failed check. Its value, its bound arguments, the ends of a
progression and its name are put into one map, each over what is there already. Main statements:
* `Entry.get?_slotValues_of_argument`: what an entry with one argument has under every name;
* `exists_denied`: a standard test denies what the entries of a document record;
* `slots_show_checks`: its arguments are shown under their names, with two exceptions;
* `argument_hidden_by_end`, `argument_hidden_by_name`: an entry of each exception.
-/

namespace Rulebook

open Evaluation

/-! ## One argument -/

namespace Entry

variable {e : Entry} {parameter slot : String} {a : Value}

theorem get?_slotValues_of_none (bare : e.arguments = []) (slot : String) :
    e.slotValues.get? slot =
      if slot = "name" then some e.name else if slot = "value" then some e.value else none := by
  rw [slotValues_eq, bare, List.foldl_nil, OrderedMap.get?_put, OrderedMap.get?_put]
  rfl

/-- The name comes first, then an end, then the argument and then the value. -/
theorem get?_slotValues_of_argument (bound : e.arguments = [(parameter, a)]) (slot : String) :
    e.slotValues.get? slot =
      if slot = "name" then some e.name
      else (endOf a slot).or
        (if slot = parameter then some a else if slot = "value" then some e.value else none) := by
  rw [slotValues_eq, bound, List.foldl_cons, List.foldl_nil, OrderedMap.get?_put,
    get?_putArgument, OrderedMap.get?_put]
  rfl

theorem endOf_eq_none (noLeft : slot ≠ "left") (noRight : slot ≠ "right") (a : Value) :
    endOf a slot = none := by
  unfold endOf
  split
  · rw [if_neg noRight, if_neg noLeft]
  · rfl

theorem endOf_left (a : Value) :
    (endOf a "left").or (some a) = some a ↔ ∀ s, a ≠ .atom (.span s) := by
  unfold endOf
  split
  · rename_i s
    simp
  · rename_i other
    simpa using other

theorem exists_span_of_endOf (shown : (endOf a slot).isSome = true) :
    (slot = "left" ∨ slot = "right") ∧ ∃ s, a = .atom (.span s) := by
  have isEnd : slot = "left" ∨ slot = "right" := by
    by_contra other
    obtain ⟨noLeft, noRight⟩ := not_or.mp other
    rw [endOf_eq_none noLeft noRight] at shown
    cases shown
  unfold endOf at shown
  split at shown
  · exact ⟨isEnd, _, rfl⟩
  · cases shown

end Entry

/-! ## The argument of a standard test -/

namespace BinaryTest

theorem parameter_eq_name_iff {t : BinaryTest} : t.parameter = "name" ↔ t = .hasKey := by
  cases t <;> simp [parameter]

theorem parameter_eq_left_iff {t : BinaryTest} : t.parameter = "left" ↔ t = .equals := by
  cases t <;> simp [parameter]

theorem parameter_ne_value (t : BinaryTest) : t.parameter ≠ "value" := by
  cases t <;> simp [parameter]

theorem parameter_ne_right (t : BinaryTest) : t.parameter ≠ "right" := by
  cases t <;> simp [parameter]

end BinaryTest

namespace Entry

variable {e : Entry} {t : BinaryTest} {a : Value}

/-- The argument of a standard test is hidden by the name, if it is called so itself, and by the
first of its own members, if it is called like that. -/
theorem get?_parameter_iff (bound : e.arguments = [(t.parameter, a)]) :
    e.slotValues.get? t.parameter = some a ↔
      (t = .hasKey → a = e.name) ∧ (t = .equals → ∀ s, a ≠ .atom (.span s)) := by
  rw [get?_slotValues_of_argument bound, if_pos rfl]
  by_cases asksKey : t = .hasKey
  · rw [if_pos (BinaryTest.parameter_eq_name_iff.mpr asksKey)]
    simp [asksKey, eq_comm]
  · rw [if_neg (BinaryTest.parameter_eq_name_iff.not.mpr asksKey)]
    by_cases equals : t = .equals
    · rw [BinaryTest.parameter_eq_left_iff.mpr equals, endOf_left]
      simp [equals]
    · have noLeft := BinaryTest.parameter_eq_left_iff.not.mpr equals
      rw [endOf_eq_none noLeft t.parameter_ne_right]
      simp [asksKey, equals]

end Entry

/-! ## What a document records -/

/-- A result that a rule with standard predicates came to about some input. -/
def Result.OfStandard (res : Result) : Prop :=
  ∃ (node : Value) (rule : Rule) (x : Value),
    (Compiler.ofRegistry .standard).compile node = .ok rule ∧
      (rule.run (.ofAnswers standardAnswer) x).1 = .ok res

theorem Result.OfStandard.obtained {res : Result} (standard : res.OfStandard) : res.Obtained :=
  have ⟨node, rule, x, compiled, came⟩ := standard
  ⟨.standard, node, rule, _, x, compiled, came⟩

/-- A standard test denies what a failure records: the arguments, about the input where a key was
asked for and about the value otherwise. The key that was asked for is an argument itself. -/
structure Failure.DeniedBy (t : StandardTest) (f : Failure) : Prop where
  kind : f.kind = .key ∨ f.kind = .val
  predicate : f.predicate = some t.id
  parameters : f.arguments.map (·.1) = t.parameters
  denied : t.call (f.arguments.map (·.2) ++ [if f.kind = .key then f.input else f.value]) =
    .ok false
  ofKey : f.kind = .key → f.name.isName false = true ∧ f.arguments.map (·.2) = [f.name]

theorem Failure.Checked.exists_denied {f : Failure}
    (checked : f.Checked (.ofRegistry .standard) (.ofAnswers standardAnswer)) :
    ∃ t, f.DeniedBy t := by
  cases checked with
  | @key name p arguments x subject before named holds denied =>
    obtain ⟨t, rfl⟩ := StandardTest.exists_of_get?_standard holds.known
    have alone : arguments = [] := by
      have most : t.parameters.length ≤ 1 := by cases t <;> simp [StandardTest.parameters]
      have count : 1 + arguments.length = t.parameters.length := holds.count
      exact List.eq_nil_of_length_eq_zero (by omega)
    subst alone
    have count : [name].length = (Predicate.ofStandard t).arity := holds.count
    refine ⟨t, .inl rfl, rfl, Predicate.names_bind count, ?_, fun _ => ⟨named, ?_⟩⟩
    · rw [List.nil_append, Predicate.values_bind count]
      exact denied
    · rw [List.nil_append, Predicate.values_bind count]
  | @val name p arguments x subject before holds denied =>
    obtain ⟨t, rfl⟩ := StandardTest.exists_of_get?_standard holds.known
    have count : arguments.length = (Predicate.ofStandard t).arity := by
      rw [← holds.count, Nat.zero_add]
    refine ⟨t, .inr rfl, rfl, Predicate.names_bind count, ?_, nofun⟩
    rw [Predicate.values_bind count]
    exact denied
  | notSequence other => exact ⟨.unary .sequence, .inr rfl, rfl, rfl, congrArg _ other, nofun⟩
  | notMap other => exact ⟨.unary .mapping, .inr rfl, rfl, rfl, congrArg _ other, nofun⟩

theorem exists_denied {results : List Result} (standard : ∀ r ∈ results, r.OfStandard)
    {f : Failure} (member : f ∈ failures results) {around : Value} {c : List Step × Failure}
    (below : c ∈ f.checks around) : ∃ t, c.2.DeniedBy t := by
  obtain ⟨r, inside, isFailure⟩ := List.mem_filterMap.mp member
  obtain ⟨node, rule, x, compiled, came⟩ := standard r inside
  rw [Result.failure?_eq_some_iff.mp isFailure] at came
  have formed := Compiler.wellFormed_of_compile (Compiler.ofRegistry_lawful .standard) compiled
  have fails := fails_of_reaches (reaches_ofAnswers_iff.mpr came)
  exact (Failure.checked_of_mem_checks fails formed below).exists_denied

theorem Value.isNull_of_isName_false {v : Value} (named : v.isName false = true) :
    v.isNull = false := by
  unfold Value.isNull
  split
  · cases named
  · rfl

theorem Entry.Tells.isKey_iff {e : Entry} {around : Value} {f : Failure} {t : StandardTest}
    (tells : e.Tells around f) (denied : f.DeniedBy t) : e.ruleType = "key" ↔ f.kind = .key := by
  rw [tells.ruleType]
  rcases denied.kind with isKey | isVal
  · simp [isKey, FailureKind.text]
  · simp [isVal, FailureKind.text]

/-- The entry of a key has the key as its name, and as the only argument. -/
theorem Entry.Tells.argument_of_key {e : Entry} {around : Value} {f : Failure} {t : StandardTest}
    (tells : e.Tells around f) (denied : f.DeniedBy t) (isKey : e.ruleType = "key") :
    e.name.isName false = true ∧ e.argumentValues = [e.name] := by
  obtain ⟨named, alone⟩ := denied.ofKey ((tells.isKey_iff denied).mp isKey)
  have own : e.name = f.name := by
    rw [tells.name, ownName_of_isNull_eq_false (Value.isNull_of_isName_false named)]
  rw [own]
  exact ⟨named, by rw [Entry.argumentValues, tells.arguments, alone]⟩

/-! ## What templates show of it -/

namespace Entry

variable {e : Entry} {t : StandardTest}

theorem arguments_of_parameters (parameters : e.arguments.map (·.1) = t.parameters) :
    (e.arguments = [] ∧ ∃ u, t = .unary u) ∨
      ∃ b a, t = .binary b ∧ e.arguments = [(b.parameter, a)] := by
  cases t with
  | unary u => exact .inl ⟨List.map_eq_nil_iff.mp parameters, u, rfl⟩
  | binary b =>
    obtain ⟨⟨_, a⟩, bound, rfl⟩ := List.map_eq_singleton_iff.mp parameters
    exact .inr ⟨b, a, rfl, bound⟩

theorem get?_name (e : Entry) : e.slotValues.get? "name" = some e.name := by
  rw [slotValues_eq, OrderedMap.get?_put, if_pos rfl]

theorem get?_value (parameters : e.arguments.map (·.1) = t.parameters) :
    e.slotValues.get? "value" = some e.value := by
  rcases arguments_of_parameters parameters with ⟨bare, _⟩ | ⟨b, a, _, bound⟩
  · rw [get?_slotValues_of_none bare, if_neg (by decide), if_pos rfl]
  · rw [get?_slotValues_of_argument bound, if_neg (by decide),
      endOf_eq_none (by decide) (by decide), Option.none_or, if_neg b.parameter_ne_value.symm,
      if_pos rfl]

theorem get?_argument_iff (parameters : e.arguments.map (·.1) = t.parameters)
    {parameter : String} {a : Value} (member : (parameter, a) ∈ e.arguments) :
    e.slotValues.get? parameter = some a ↔
      (t = .binary .hasKey → a = e.name) ∧ (t = .binary .equals → ∀ s, a ≠ .atom (.span s)) := by
  rcases arguments_of_parameters parameters with ⟨bare, _⟩ | ⟨b, a', rfl, bound⟩
  · rw [bare] at member
    cases member
  · rw [bound] at member
    cases List.mem_singleton.mp member
    simpa using get?_parameter_iff bound

theorem get?_ends (parameters : e.arguments.map (·.1) = t.parameters) {parameter : String}
    {s : Span} (member : (parameter, .atom (.span s)) ∈ e.arguments) :
    e.slotValues.get? "left" = some (.int s.left) ∧
      e.slotValues.get? "right" = some (.int s.right) := by
  rcases arguments_of_parameters parameters with ⟨bare, _⟩ | ⟨b, a, _, bound⟩
  · rw [bare] at member
    cases member
  · rw [bound] at member
    cases List.mem_singleton.mp member
    exact ⟨get?_left bound, get?_right bound⟩

/-- Nothing else has a value. -/
theorem role_of_isSome (parameters : e.arguments.map (·.1) = t.parameters) {slot : String}
    (shown : (e.slotValues.get? slot).isSome = true) :
    slot = "name" ∨ slot = "value" ∨ slot ∈ t.parameters ∨
      (slot = "left" ∨ slot = "right") ∧ ∃ p s, (p, .atom (.span s)) ∈ e.arguments := by
  by_cases isName : slot = "name"
  · exact .inl isName
  by_cases isValue : slot = "value"
  · exact .inr (.inl isValue)
  refine .inr (.inr ?_)
  rcases arguments_of_parameters parameters with ⟨bare, _⟩ | ⟨b, a, rfl, bound⟩
  · rw [get?_slotValues_of_none bare, if_neg isName, if_neg isValue] at shown
    cases shown
  · by_cases isParameter : slot = b.parameter
    · exact .inl (List.mem_singleton.mpr isParameter)
    · rw [get?_slotValues_of_argument bound, if_neg isName, if_neg isParameter, if_neg isValue,
        Option.or_none] at shown
      obtain ⟨isEnd, s, rfl⟩ := exists_span_of_endOf shown
      exact .inr ⟨isEnd, b.parameter, s, by rw [bound]; exact List.mem_singleton_self _⟩

end Entry

/-- An entry at the end of a path tells a failed check of one of some failures, to which the steps of
the path lead. -/
def Entry.TellsCheck (e : Entry) (fs : List Failure) (path : List Value) (check : Failure) : Prop :=
  ∃ f ∈ fs, ∃ (name : Value) (steps : List Step), (steps, check) ∈ f.checks name ∧
    path = name :: steps.map Step.key ∧ e.Tells (innermost name steps) check

/-- **Templates show what was checked.** Every entry of a document of standard predicates tells a
failed check at the end of its path, and records a test and the arguments about which it was denied:
of the input of the check if that was for a key, and of the value otherwise. Its name and its value
are shown as such, and a progression among the arguments by its ends. The arguments are shown under
their names, those of a key always; but the name stands in the place of a key that a value was asked
for, and the first end in the place of a progression that a value was compared with. Nothing else is
shown. -/
theorem slots_show_checks {results : List Result} (standard : ∀ r ∈ results, r.OfStandard) :
    ∃ doc, Document.ofResults results = .ok doc ∧
      ∀ path e, (path, e) ∈ Report.leavesOfFields doc → ∃ (t : StandardTest) (check : Failure),
        e.TellsCheck (failures results) path check ∧
        e.predicate = t.id ∧ e.arguments.map (·.1) = t.parameters ∧
        t.call (e.argumentValues ++ [if e.ruleType = "key" then check.input else e.value]) =
          .ok false ∧
        e.slotValues.get? "name" = some e.name ∧
        e.slotValues.get? "value" = some e.value ∧
        (∀ parameter a, (parameter, a) ∈ e.arguments →
          (e.slotValues.get? parameter = some a ↔ (t = .binary .hasKey → a = e.name) ∧
            (t = .binary .equals → ∀ s, a ≠ .atom (.span s))) ∧
          (e.ruleType = "key" → e.slotValues.get? parameter = some a)) ∧
        (∀ parameter s, (parameter, .atom (.span s)) ∈ e.arguments →
          e.slotValues.get? "left" = some (.int s.left) ∧
            e.slotValues.get? "right" = some (.int s.right)) ∧
        ∀ slot, (e.slotValues.get? slot).isSome = true →
          slot = "name" ∨ slot = "value" ∨ slot ∈ t.parameters ∨
            (slot = "left" ∨ slot = "right") ∧
              ∃ parameter s, (parameter, .atom (.span s)) ∈ e.arguments := by
  obtain ⟨doc, made, accounts, _⟩ :=
    Document.document_of_results fun r member => (standard r member).obtained
  refine ⟨doc, made, fun path e inside => ?_⟩
  obtain ⟨check, told⟩ : ∃ check, e.TellsCheck (failures results) path check := by
    refine accounts.forall_paths (P := fun path e => ∃ check, e.TellsCheck _ path check)
      (fun f member name _ c below e tells => ?_) (path, e) inside
    exact ⟨c.2, f, member, name, c.1, below, rfl, tells⟩
  have ⟨f, known, name, steps, below, _, tells⟩ := told
  obtain ⟨t, denied⟩ := exists_denied standard known below
  have predicate : e.predicate = t.id :=
    Option.some.inj (tells.predicate.symm.trans denied.predicate)
  have parameters : e.arguments.map (·.1) = t.parameters :=
    tells.arguments ▸ denied.parameters
  have again : t.call (e.argumentValues ++ [if e.ruleType = "key" then check.input else e.value]) =
      .ok false := by
    simpa only [Entry.argumentValues, tells.arguments, tells.value, tells.isKey_iff denied]
      using denied.denied
  refine ⟨t, check, told, predicate, parameters, again, e.get?_name, Entry.get?_value parameters,
    fun parameter a member => ?_, fun _ _ => Entry.get?_ends parameters,
    fun _ => Entry.role_of_isSome parameters⟩
  have shown := Entry.get?_argument_iff parameters member
  refine ⟨shown, fun isKey => shown.mpr ?_⟩
  obtain ⟨named, alone⟩ := tells.argument_of_key denied isKey
  have own : a = e.name := by
    have inside : a ∈ e.argumentValues := List.mem_map_of_mem (f := (·.2)) member
    rw [alone] at inside
    exact List.mem_singleton.mp inside
  refine ⟨fun _ => own, fun _ s isSpan => ?_⟩
  rw [← own, isSpan] at named
  cases named

theorem ofStandard_of_run {rule : Rule} (formed : rule.WellFormed (.ofRegistry .standard))
    {x : Value} {res : Result} (came : (rule.run (.ofAnswers standardAnswer) x).1 = .ok res) :
    res.OfStandard :=
  ⟨rule.toNode, rule, x,
    Compiler.compile_toNode (Compiler.ofRegistry_lawful .standard) formed, came⟩

/-- A code that is too long is shown with the sizes that a code can have. -/
theorem slots_show_checks_code :
    ∃ res e, (codeRule.run (.ofAnswers standardAnswer) (.map [(.str "code", .str "long")])).1 =
        .ok res ∧
      res.OfStandard ∧
      Document.ofResults [res] = .ok [(.str "code", [.leaf e])] ∧
      e.slotValues.get? "value" = some (.str "long") ∧
      e.slotValues.get? "num" = some (.atom (.span ⟨2, 4, 1, by decide⟩)) := by
  obtain ⟨res, came, e, made, predicate, arguments, value⟩ : ∃ res,
      (codeRule.run (.ofAnswers standardAnswer) (.map [(.str "code", .str "long")])).1 = .ok res ∧
      ∃ e, Document.ofResults [res] = .ok [(.str "code", [.leaf e])] ∧ e.predicate = "size?" ∧
        e.arguments = [("num", .atom (.span ⟨2, 4, 1, by decide⟩))] ∧ e.value = .str "long" :=
    ⟨_, rfl, _, rfl, rfl, rfl, rfl⟩
  have standard : res.OfStandard := ofStandard_of_run (by decide +kernel) came
  obtain ⟨doc, made', all⟩ := slots_show_checks (List.forall_mem_singleton.mpr standard)
  cases Except.ok.inj (made.symm.trans made')
  obtain ⟨t, _, _, isTest, _, _, _, shown, bound, _⟩ :=
    all [.str "code"] e (by simp [Report.leavesOfFields, Report.leavesOfItems, Report.leaves])
  refine ⟨res, e, came, standard, made, value ▸ shown, ?_⟩
  refine (bound "num" _ (by rw [arguments]; exact List.mem_singleton_self _)).1.mpr ⟨?_, ?_⟩
  · rintro rfl
    exact absurd (predicate.symm.trans isTest) (by decide)
  · rintro rfl
    exact absurd (predicate.symm.trans isTest) (by decide)

/-- A value that must be equal to a progression. -/
def equalsRule : Rule :=
  .val (.str "pages") (.ofStandard (.binary .equals)) [.atom (.span ⟨1, 5, 1, Int.one_ne_zero⟩)]

/-- Seven pages are said not to be equal to one, while they were compared with a progression. -/
theorem argument_hidden_by_end :
    ∃ res e, (equalsRule.run (.ofAnswers standardAnswer) (.map [(.str "pages", .int 7)])).1 =
        .ok res ∧
      res.OfStandard ∧
      Document.ofResults [res] = .ok [(.str "pages", [.leaf e])] ∧
      e.arguments = [("left", .atom (.span ⟨1, 5, 1, Int.one_ne_zero⟩))] ∧
      e.slotValues.get? "left" = some (.int 1) ∧
      interpolate "must be equal to %\x7bleft\x7d" e.slotValues = .ok "must be equal to 1" := by
  obtain ⟨res, came, e, made⟩ : ∃ res,
      (equalsRule.run (.ofAnswers standardAnswer) (.map [(.str "pages", .int 7)])).1 = .ok res ∧
      ∃ e, Document.ofResults [res] = .ok [(.str "pages", [.leaf e])] ∧
        e.arguments = [("left", .atom (.span ⟨1, 5, 1, Int.one_ne_zero⟩))] ∧
        e.slotValues.get? "left" = some (.int 1) ∧
        interpolate "must be equal to %\x7bleft\x7d" e.slotValues = .ok "must be equal to 1" :=
    ⟨_, rfl, _, rfl, rfl, rfl, by decide +kernel⟩
  exact ⟨res, e, came, ofStandard_of_run (by decide +kernel) came, made⟩

/-- A value that must have a key. -/
def keyRule : Rule := .val (.str "order") (.ofStandard (.binary .hasKey)) [.str "items"]

/-- The key that an order does not have is hidden by the name of the order. -/
theorem argument_hidden_by_name :
    ∃ res e, (keyRule.run (.ofAnswers standardAnswer) (.map [(.str "order", .map [])])).1 =
        .ok res ∧
      res.OfStandard ∧
      Document.ofResults [res] = .ok [(.str "order", [.leaf e])] ∧
      e.arguments = [("name", .str "items")] ∧
      e.slotValues.get? "name" = some (.str "order") := by
  obtain ⟨res, came, e, made⟩ : ∃ res,
      (keyRule.run (.ofAnswers standardAnswer) (.map [(.str "order", .map [])])).1 = .ok res ∧
      ∃ e, Document.ofResults [res] = .ok [(.str "order", [.leaf e])] ∧
        e.arguments = [("name", .str "items")] ∧ e.slotValues.get? "name" = some (.str "order") :=
    ⟨_, rfl, _, rfl, rfl, rfl⟩
  exact ⟨res, e, came, ofStandard_of_run (by decide +kernel) came, made⟩

end Rulebook
