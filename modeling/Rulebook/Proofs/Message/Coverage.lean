import Rulebook.Proofs.Message.Selection
import Rulebook.Proofs.Message.Slots
import Rulebook.Proofs.Predicate.Frozen
import Rulebook.Proofs.Report.Traversal
import Rulebook.Proofs.Schema.Verdict

/-!
The English messages cover the standard predicates. Main statements:
* `Failure.Checked.asksStandard`: every failed check of a rule with standard predicates names one
  of them and has arguments under the names of its parameters;
* `find?_ne_none`: there is a template for each of them, whatever else a table holds;
* `exists_interpolate_of_english`: and every slot of an English template has a value;
* `messages_cover`: so what fails in a schema with standard predicates has English messages.
-/

namespace Rulebook

/-! ## The checks of standard predicates -/

/-- A failed check of a standard test, with an argument for each of its parameters. -/
def Failure.AsksStandard (f : Failure) : Prop :=
  ∃ t : StandardTest, f.predicate = some t.id ∧ f.arguments.map (·.1) = t.parameters

theorem asksStandard_bind {p : Predicate} (known : Registry.standard.get? p.id = some p)
    {bound : List Value} (count : bound.length = p.arity) {f : Failure}
    (predicate : f.predicate = some p.id) (arguments : f.arguments = p.bind bound) :
    f.AsksStandard := by
  obtain ⟨t, rfl⟩ := StandardTest.exists_of_get?_standard known
  exact ⟨t, predicate, by rw [arguments, Predicate.names_bind count]; rfl⟩

theorem Failure.Checked.asksStandard {oracle : Oracle} {f : Failure}
    (checked : f.Checked (.ofRegistry .standard) oracle) : f.AsksStandard := by
  cases checked with
  | key _ holds _ =>
    refine asksStandard_bind holds.known ?_ rfl rfl
    rw [← holds.count, List.length_append, List.length_singleton, Nat.add_comm]
  | val holds _ =>
    exact asksStandard_bind holds.known (by rw [← holds.count, Nat.zero_add]) rfl rfl
  | notSequence _ => exact ⟨.unary .sequence, rfl, rfl⟩
  | notMap _ => exact ⟨.unary .mapping, rfl, rfl⟩

/-- An entry about a standard test, with an argument for each of its parameters. -/
def Entry.AboutStandard (e : Entry) : Prop :=
  ∃ t : StandardTest, e.predicate = t.id ∧ e.arguments.map (·.1) = t.parameters

theorem Entry.Tells.aboutStandard {e : Entry} {around : Value} {f : Failure}
    (tells : e.Tells around f) (asks : f.AsksStandard) : e.AboutStandard := by
  obtain ⟨t, predicate, arguments⟩ := asks
  rw [tells.predicate] at predicate
  exact ⟨t, Option.some.inj predicate, tells.arguments ▸ arguments⟩

theorem aboutStandard_of_run {oracle : Oracle} {s : Schema} {x : Value} {v : Verdict}
    (formed : Rule.AllWellFormed (.ofRegistry .standard) s.rules)
    (came : (s.run oracle x).1 = .ok v) :
    ∀ l ∈ Report.leavesOfFields v.errors, l.2.AboutStandard := by
  rw [Schema.errors_of_run formed came]
  have accounts := Document.accounts_grouped (Schema.shaped_of_run formed came)
  refine accounts.forall_leaves fun f member around _ c below e tells => ?_
  obtain ⟨rule, formed, fails⟩ := Schema.fails_of_mem_failures formed came member
  exact tells.aboutStandard (Failure.checked_of_mem_checks fails formed below).asksStandard

/-! ## English templates -/

namespace MessageTable

theorem isSome_general (t : StandardTest) :
    (english.get? (English.key t.id none none)).isSome = true := by
  have every : ∀ t ∈ StandardTest.all,
      (english.get? (English.key t.id none none)).isSome = true := by decide +kernel
  exact every t t.mem_all

theorem mem_of_get? {t : MessageTable} {key : MessageKey} {template : String}
    (found : t.get? key = some template) : (key, template) ∈ t.templates.entries := by
  obtain ⟨before, after, split, _⟩ := List.lookup_eq_some_iff.mp found
  rw [split]
  exact List.mem_append_right _ (List.mem_cons_self ..)

/-- English templates show parameters, and the ends of a progression only if there is one. -/
theorem slots_of_english {key : MessageKey} {template : String}
    (found : english.get? key = some template) {t : StandardTest} (own : key.predicate = t.id)
    {slot : String} (shown : slot ∈ Template.slots template) :
    slot ∈ t.parameters ∨
      key.argumentType = some "range" ∧ (slot = "left" ∨ slot = "right") := by
  have every : ∀ entry ∈ english.templates.entries, ∀ slot ∈ Template.slots entry.2,
      ∀ t ∈ StandardTest.all, entry.1.predicate = t.id → slot ∈ t.parameters ∨
        entry.1.argumentType = some "range" ∧ (slot = "left" ∨ slot = "right") := by
    decide +kernel
  exact every _ (mem_of_get? found) slot shown t t.mem_all own

/-- Merging replaces templates and removes none. -/
theorem isSome_foldl_merge {t : MessageTable} {key : MessageKey}
    (known : (t.get? key).isSome = true) (tables : List MessageTable) :
    ((tables.foldl merge t).get? key).isSome = true := by
  induction tables generalizing t with
  | nil => exact known
  | cons table rest ih => exact ih (OrderedMap.isSome_get?_merge known table.templates)

end MessageTable

namespace MessageResolver

variable {r : MessageResolver} {e : Entry} {locale : Option String}

theorem qualifies_general (r : MessageResolver) (e : Entry) (locale : Option String) :
    r.Qualifies e locale (English.key e.predicate none none) where
  locale := .inr rfl
  predicate := rfl
  scope := .inr rfl
  rule := nofun
  valueType := nofun
  argumentType := nofun

theorem find?_ne_none {tables : List MessageTable}
    (bundled : r.table = tables.foldl .merge .english) (standard : e.AboutStandard) :
    (r.find? e locale).map (·.2) ≠ none := by
  obtain ⟨t, predicate, _⟩ := standard
  intro missed
  have absent := find?_eq_none_iff.mp missed _ (qualifies_general r e locale)
  have present := MessageTable.isSome_foldl_merge (MessageTable.isSome_general t) tables
  rw [bundled, predicate] at absent
  rw [absent] at present
  cases present

/-- Only progressions are of the type of ranges. -/
theorem exists_span_of_range {v : Value} (ofRange : "range" ∈ v.typeNames) :
    ∃ s, v = .atom (.span s) := by
  cases v with
  | atom a =>
    cases a with
    | span s => exact ⟨s, rfl⟩
    | _ => simp [Value.typeNames, Atom.typeNames] at ofRange
  | _ => simp [Value.typeNames] at ofRange

theorem isSome_slotValues_of_end {slot : String}
    {a : String × Value} (member : a ∈ e.arguments) (ofRange : "range" ∈ a.2.typeNames)
    (isEnd : slot = "left" ∨ slot = "right") : (e.slotValues.get? slot).isSome = true := by
  obtain ⟨s, isSpan⟩ := exists_span_of_range ofRange
  have bound : (a.1, .atom (.span s)) ∈ e.arguments := by
    rw [← isSpan]
    exact member
  exact Entry.isSome_slotValues_of_span bound isEnd

theorem exists_interpolate_of_english (english : r.table = .english) (standard : e.AboutStandard)
    {template : String} (found : (r.find? e locale).map (·.2) = some template) :
    ∃ text, interpolate template e.slotValues = .ok text := by
  obtain ⟨t, predicate, names⟩ := standard
  obtain ⟨key, known, present, _⟩ := find?_eq_some_iff template |>.mp found
  refine Template.exists_interpolate fun slot shown => ?_
  rw [english] at present
  have own : key.predicate = t.id := known.predicate.trans predicate
  rcases MessageTable.slots_of_english present own shown with parameter | ⟨ofRange, isEnd⟩
  · exact Entry.isSome_slotValues_of_name (names ▸ parameter)
  · obtain ⟨a, first, typed⟩ := known.argumentType _ ofRange
    exact isSome_slotValues_of_end (List.mem_of_mem_head? first) typed isEnd

theorem comesTo_templateFor_iff {o : Except MessageError String} :
    (r.templateFor e locale).ComesTo o ↔
      o = match (r.find? e locale).map (·.2) with
        | some template => .ok template
        | none => .error (.missing e.predicate e.ruleName r.scope (r.requested locale)) := by
  constructor
  · rintro ⟨before, came⟩
    rw [run_templateFor] at came
    exact came.symm
  · rintro rfl
    exact ⟨[], run_templateFor r e locale []⟩

theorem template_of_comesTo {template : String}
    (came : (r.templateFor e locale).ComesTo (.ok template)) :
    (r.find? e locale).map (·.2) = some template := by
  have outcome := comesTo_templateFor_iff.mp came
  split at outcome
  · rename_i found
    rw [found, Except.ok.inj outcome]
  · cases outcome

theorem find?_of_comesTo_error {error : MessageError}
    (came : (r.templateFor e locale).ComesTo (.error error)) :
    (r.find? e locale).map (·.2) = none := by
  have outcome := comesTo_templateFor_iff.mp came
  split at outcome
  · cases outcome
  · rename_i missed
    exact missed

/-- A text is the message for an entry: the selected template with its slots filled in. -/
def Tells (r : MessageResolver) (locale : Option String) (e : Entry) (text : String) : Prop :=
  ∃ template, (r.find? e locale).map (·.2) = some template ∧
    interpolate template e.slotValues = .ok text

theorem tells_of_resolve {text : String} (came : (r.resolve e locale).ComesTo (.ok text)) :
    r.Tells locale e text := by
  obtain ⟨template, found, came⟩ := Logged.comesTo_bind_ok came
  refine ⟨template, template_of_comesTo found, ?_⟩
  split at came
  · rename_i filled
    cases Logged.comesTo_pure_iff.mp came
    exact filled
  · cases Logged.comesTo_throw_iff.mp came

/-- Of an entry about a standard predicate there is a template, so only a slot can be unknown. -/
theorem error_of_resolve {tables : List MessageTable}
    (bundled : r.table = tables.foldl .merge .english) (standard : e.AboutStandard)
    {error : MessageError} (came : (r.resolve e locale).ComesTo (.error error)) :
    ∃ template unknown, (r.find? e locale).map (·.2) = some template ∧
      interpolate template e.slotValues = .error unknown ∧ error = .unknownSlot unknown := by
  rcases Logged.comesTo_bind came with ⟨_, missed, _⟩ | ⟨template, found, came⟩
  · exact absurd (find?_of_comesTo_error missed) (find?_ne_none bundled standard)
  · split at came
    · cases Logged.comesTo_pure_iff.mp came
    · rename_i unknown unfilled
      cases Logged.comesTo_throw_iff.mp came
      exact ⟨template, unknown, template_of_comesTo found, unfilled, rfl⟩

/-- The English messages alone resolve every entry about a standard predicate. -/
theorem not_comesTo_error_of_english (english : r.table = .english) (standard : e.AboutStandard)
    (error : MessageError) : ¬ (r.resolve e locale).ComesTo (.error error) := by
  intro came
  have bundled : r.table = [].foldl .merge .english := english
  obtain ⟨template, unknown, found, unfilled, _⟩ := error_of_resolve bundled standard came
  obtain ⟨text, filled⟩ := exists_interpolate_of_english english standard found
  rw [filled] at unfilled
  cases unfilled

end MessageResolver

/-! ## Messages of verdicts -/

/-- What a verdict's messages are resolved with. -/
def Verdict.resolver (v : Verdict) : MessageResolver :=
  ⟨v.config.messages, v.config.scope, v.config.locale⟩

/-- **English messages cover the standard predicates.** A schema that is compiled with the standard
predicates, and with English messages overridden by any tables, comes to messages for all that it
reports, whatever its scope and locales are: a template is never missing. With the English messages
alone the messages exist, in the places of the entries they tell. -/
theorem messages_cover {nodes : Value} {tables : List MessageTable} {scope : Option String}
    {locale : String} {schema : Schema}
    (compiled : (Schema.ofNodes nodes
      ⟨.standard, tables.foldl .merge .english, scope, locale⟩).collect.1 = .ok schema)
    {oracle : Oracle} {x : Value} {v : Verdict} (came : (schema.run oracle x).1 = .ok v)
    (requested : Option String) :
    (tables = [] → ∃ doc, (v.messages requested).collect.1 = .ok doc ∧
      Report.MatchesFields (v.resolver.Tells requested) v.errors doc) ∧
    ∀ predicate rule scope' l,
      (v.messages requested).collect.1 ≠ .error (.missing predicate rule scope' l) := by
  obtain ⟨own, formed⟩ := Schema.wellFormed_of_ofNodes ⟨[], compiled⟩
  obtain ⟨_, config, _, _⟩ := Schema.results_of_run came
  have standard := aboutStandard_of_run formed came
  have bundled : v.resolver.table = tables.foldl .merge .english := by
    rw [Verdict.resolver, config, own]
  have outcome : (v.messages requested).ComesTo (v.messages requested).collect.1 :=
    Logged.comesTo_collect _
  constructor
  · rintro rfl
    cases came : (v.messages requested).collect.1 with
    | ok doc =>
      rw [came] at outcome
      refine ⟨doc, rfl, (Report.matches_of_traverseFields outcome).imp ?_⟩
      exact fun e text => MessageResolver.tells_of_resolve
    | error error =>
      rw [came] at outcome
      obtain ⟨l, here, refused⟩ := Report.exists_leaf_of_traverseFields outcome
      exact absurd refused
        (MessageResolver.not_comesTo_error_of_english bundled (standard l here) error)
  · intro predicate rule scope' l missing
    rw [missing] at outcome
    obtain ⟨l, here, refused⟩ := Report.exists_leaf_of_traverseFields outcome
    obtain ⟨_, _, _, _, unknown⟩ :=
      MessageResolver.error_of_resolve bundled (standard l here) refused
    cases unknown

/-- A code of two or three characters. -/
def codeRule : Rule :=
  .both .conjunction (.key (.str "code") (.ofStandard (.binary .hasKey)) [])
    (.val (.str "code") (.ofStandard (.binary .size)) [.atom (.span ⟨2, 4, 1, by decide⟩)])

/-- A code that is too long, and a schema that asks for messages in another language. -/
theorem messages_cover_code :
    ∃ schema v doc,
      (Schema.ofNodes (.list [codeRule.toNode])
        ⟨.standard, .english, some "shop", "fr"⟩).collect.1 = .ok schema ∧
      (schema.run (.ofAnswers standardAnswer) (.map [(.str "code", .str "long")])).1 = .ok v ∧
      v.errors.map (·.1) = [.str "code"] ∧
      (v.messages (some "de")).collect.1 = .ok doc ∧
      Report.MatchesFields (v.resolver.Tells (some "de")) v.errors doc := by
  have compiled : (Schema.ofNodes (.list [codeRule.toNode])
      ⟨.standard, .english, some "shop", "fr"⟩).collect.1 =
      .ok ⟨[codeRule], ⟨.standard, .english, some "shop", "fr"⟩⟩ := rfl
  obtain ⟨v, came, names⟩ : ∃ v,
      (Schema.run (.ofAnswers standardAnswer)
        ⟨[codeRule], ⟨.standard, .english, some "shop", "fr"⟩⟩
        (.map [(.str "code", .str "long")])).1 = .ok v ∧
      v.errors.map (·.1) = [.str "code"] := ⟨_, rfl, rfl⟩
  obtain ⟨doc, made, same⟩ :=
    (@messages_cover _ [] _ _ _ compiled _ _ _ came (some "de")).1 rfl
  exact ⟨_, v, doc, compiled, came, names, made, same⟩

end Rulebook
