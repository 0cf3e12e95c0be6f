import Rulebook.Proofs.Message.Precedence

/-!
Which template is chosen for a failed check. The keys that qualify and their order are said of the
entry, the resolver and the call themselves, apart from the queries that are made for them. Main
statements:
* `qualifies_iff`: the keys that qualify are those that answer the query in one of the two locales;
* `find?_eq_some_iff`, `find?_eq_none_iff`: the search finds the least of those that exist;
* `template_selected`: so the template of a failed check is the one under it, and there is no message
  exactly if none exists.
-/

namespace Rulebook

namespace Entry

theorem ruleName_eq_some_iff {e : Entry} {field : String} :
    e.ruleName = some field ↔ e.name = .str field := by
  unfold ruleName Value.text?
  split
  · rename_i s named
    simp [named]
  · rename_i notText
    exact iff_of_false nofun (notText field)

theorem argumentTypes_eq (e : Entry) :
    e.argumentTypes = (e.arguments.head?.map fun a => a.2.typeNames).getD [] := by
  unfold argumentTypes argumentValues
  cases e.arguments <;> rfl

theorem mem_argumentTypes_iff {e : Entry} {t : String} :
    t ∈ e.argumentTypes ↔ ∃ a, e.arguments.head? = some a ∧ t ∈ a.2.typeNames := by
  rw [argumentTypes_eq]
  cases e.arguments.head? <;> simp

end Entry

namespace MessageResolver

variable {r : MessageResolver} {e : Entry} {locale : Option String} {key other : MessageKey}

/-- A call asks for a locale: its own one, or that of the resolver if it has none or an empty one. -/
def Asks (r : MessageResolver) (locale : Option String) (l : String) : Prop :=
  (locale = some l ∧ l ≠ "") ∨ ((locale = none ∨ locale = some "") ∧ l = r.locale)

instance (r : MessageResolver) (locale : Option String) (l : String) :
    Decidable (r.Asks locale l) := inferInstanceAs (Decidable (_ ∧ _ ∨ _ ∧ _))

/-- A key can hold the template for an entry. It is of the locale asked for or of English and has the
predicate of the entry. Its scope is that of the resolver, its field is the name of the entry, which
is a text then, its types are types of the value and of the first argument, or these are left open. -/
structure Qualifies (r : MessageResolver) (e : Entry) (locale : Option String) (key : MessageKey) :
    Prop where
  locale : r.Asks locale key.locale ∨ key.locale = "en"
  predicate : key.predicate = e.predicate
  scope : key.scope = r.scope ∨ key.scope = none
  rule : ∀ field, key.rule = some field → e.name = .str field
  valueType : ∀ t, key.valueType = some t → t ∈ e.value.typeNames
  argumentType : ∀ t, key.argumentType = some t →
    ∃ a, e.arguments.head? = some a ∧ t ∈ a.2.typeNames

/-- How general a key is for an entry: the locale asked for comes before English, whatever the rest
of the key says. -/
def rank (r : MessageResolver) (e : Entry) (locale : Option String) (key : MessageKey) :
    ℕ ×ₗ ℕ ×ₗ ℕ ×ₗ ℕ :=
  toLex (if r.Asks locale key.locale then 0 else 1,
    key.rank e.value.typeNames ((e.arguments.head?.map fun a => a.2.typeNames).getD []))

/-! ## Locales -/

theorem asks_iff {l : String} : r.Asks locale l ↔ l = r.requested locale := by
  cases locale with
  | none => simp [Asks, requested]
  | some own =>
    by_cases empty : own = ""
    · subst empty
      constructor
      · rintro (⟨same, different⟩ | ⟨_, same⟩)
        · exact absurd (Option.some.inj same).symm different
        · exact same
      · rintro rfl
        exact .inr ⟨.inr rfl, rfl⟩
    · have stated : r.requested (some own) = own := by simp [requested, empty]
      rw [stated]
      constructor
      · rintro (⟨same, _⟩ | ⟨bare, _⟩)
        · exact (Option.some.inj same).symm
        · simp [empty] at bare
      · rintro rfl
        exact .inl ⟨rfl, empty⟩

/-- The requested locale and the default one. -/
def localeAxis (r : MessageResolver) (locale : Option String) : List String :=
  [r.requested locale, defaultLocale]

theorem mem_localeAxis_iff {l : String} :
    l ∈ r.localeAxis locale ↔ r.Asks locale l ∨ l = "en" := by
  rw [asks_iff, localeAxis, List.mem_pair]
  rfl

theorem idxOf_localeAxis {l : String} (member : l ∈ r.localeAxis locale) :
    (r.localeAxis locale).idxOf l = if r.Asks locale l then 0 else 1 := by
  by_cases asked : r.Asks locale l
  · rw [if_pos asked, asks_iff.mp asked, localeAxis, List.idxOf_cons_self]
  · have other : l ≠ r.requested locale := fun same => asked (asks_iff.mpr same)
    have own : l = defaultLocale := (mem_localeAxis_iff.mp member).resolve_left asked
    rw [if_neg asked, localeAxis, List.idxOf_cons, beq_false_of_ne other.symm, own,
      List.idxOf_cons_self]
    rfl

/-! ## Keys -/

/-- The keys that qualify are those that answer the query made for the entry in one of the locales. -/
theorem qualifies_iff :
    r.Qualifies e locale key ↔
      key.locale ∈ r.localeAxis locale ∧ (r.query e key.locale).Admits key := by
  have rule : (key.rule = e.ruleName ∨ key.rule = none) ↔
      ∀ field, key.rule = some field → e.name = .str field := by
    cases key.rule with
    | none => simp
    | some field => simp [← Entry.ruleName_eq_some_iff, eq_comm]
  have argumentType : key.argumentType ∈ typeAxis e.argumentTypes ↔
      ∀ t, key.argumentType = some t → ∃ a, e.arguments.head? = some a ∧ t ∈ a.2.typeNames := by
    simp only [mem_typeAxis_iff, Entry.mem_argumentTypes_iff]
  rw [mem_localeAxis_iff]
  constructor
  · rintro ⟨inLocale, predicate, scope, ofField, ofValue, ofArgument⟩
    refine ⟨inLocale, predicate, rfl, ?_, mem_typeAxis_iff.mpr ofValue, argumentType.mpr ofArgument⟩
    exact MessageQuery.mem_places_iff.mpr ⟨scope, rule.mpr ofField⟩
  · rintro ⟨inLocale, predicate, _, place, ofValue, ofArgument⟩
    obtain ⟨scope, ofField⟩ := MessageQuery.mem_places_iff.mp place
    exact ⟨inLocale, predicate, scope, rule.mp ofField, mem_typeAxis_iff.mp ofValue,
      argumentType.mp ofArgument⟩

theorem rank_eq (r : MessageResolver) (e : Entry) (locale : Option String) (key : MessageKey)
    (l : String) :
    r.rank e locale key = toLex (if r.Asks locale key.locale then 0 else 1,
      key.rank (r.query e l).valueTypes (r.query e l).argumentTypes) := by
  rw [rank, ← Entry.argumentTypes_eq]
  rfl

/-- Keys that qualify are told apart by their ranks, so the order among them is total. -/
theorem Qualifies.eq_of_rank_eq (known : r.Qualifies e locale key)
    (known' : r.Qualifies e locale other) (same : r.rank e locale key = r.rank e locale other) :
    key = other := by
  obtain ⟨inLocale, admitted⟩ := qualifies_iff.mp known
  obtain ⟨inLocale', admitted'⟩ := qualifies_iff.mp known'
  rw [rank_eq r e locale key key.locale, rank_eq r e locale other key.locale] at same
  obtain ⟨sameLocale, sameRank⟩ := Prod.ext_iff.mp (toLex.injective same)
  dsimp only at sameLocale sameRank
  rw [← idxOf_localeAxis inLocale, ← idxOf_localeAxis inLocale'] at sameLocale
  have locales := (List.idxOf_inj inLocale).mp sameLocale
  rw [← locales] at admitted'
  exact admitted.eq_of_rank_eq admitted' sameRank

theorem rank_lt_of_asks (asked : r.Asks locale key.locale)
    (fallback : ¬r.Asks locale other.locale) :
    r.rank e locale key < r.rank e locale other := by
  rw [rank, rank, Prod.Lex.toLex_lt_toLex, if_pos asked, if_neg fallback]
  exact .inl Nat.zero_lt_one

/-! ## The search -/

theorem find?_eq_findSome? (r : MessageResolver) (e : Entry) (locale : Option String) :
    (r.find? e locale).map (·.2) =
      (r.localeAxis locale).findSome? fun l => r.table.lookup (r.query e l) := by
  unfold find? locales localeAxis
  by_cases same : r.requested locale = defaultLocale
  · simp [same, findSome?_cons_eq_or, Option.map_map, Function.comp_def]
  · simp [same, findSome?_cons_eq_or, Option.map_or, Option.map_map, Function.comp_def]

theorem run_templateFor (r : MessageResolver) (e : Entry) (locale : Option String)
    (before : List LogRecord) :
    ((r.templateFor e locale).run.run before).1 =
      match (r.find? e locale).map (·.2) with
      | some template => .ok template
      | none => .error (.missing e.predicate e.ruleName r.scope (r.requested locale)) := by
  unfold templateFor
  cases r.find? e locale with
  | none => rfl
  | some hit =>
    by_cases same : hit.1 = r.requested locale
    · simp [same]
      rfl
    · simp [same]
      rfl

theorem outcome_templateFor (r : MessageResolver) (e : Entry) (locale : Option String) :
    (r.templateFor e locale).collect.1 =
      match (r.find? e locale).map (·.2) with
      | some template => .ok template
      | none => .error (.missing e.predicate e.ruleName r.scope (r.requested locale)) :=
  run_templateFor r e locale []

/-- Where a lookup in a locale admits a key that exists, it finds something. -/
theorem isSome_lookup_of_qualifies (known : r.Qualifies e locale key)
    (present : (r.table.get? key).isSome = true) :
    (r.table.lookup (r.query e key.locale)).isSome = true := by
  cases missed : r.table.lookup (r.query e key.locale) with
  | some _ => rfl
  | none =>
    rw [MessageTable.get?_of_lookup_eq_none missed (qualifies_iff.mp known).2] at present
    cases present

theorem selects_of_find? {template : String} (found : (r.find? e locale).map (·.2) = some template) :
    r.table.Selects (r.Qualifies e locale) (r.rank e locale) template := by
  rw [find?_eq_findSome?] at found
  obtain ⟨l, atLocale⟩ := exists_firstHit found
  obtain ⟨key, admitted, present, least⟩ :=
    MessageTable.selects_generality_of_lookup atLocale.found
  have own : key.locale = l := admitted.locale
  subst own
  refine ⟨key, qualifies_iff.mpr ⟨atLocale.member, admitted⟩, present, ?_⟩
  intro other known present' different
  obtain ⟨inLocale, admitted'⟩ := qualifies_iff.mp known
  rw [rank_eq r e locale key key.locale, rank_eq r e locale other key.locale,
    Prod.Lex.toLex_lt_toLex]
  -- Within a locale the lookup has decided; between the two, the order in which they are asked.
  by_cases sameLocale : other.locale = key.locale
  · rw [sameLocale] at admitted' ⊢
    exact .inr ⟨rfl, least other admitted' present' different⟩
  · have answered := isSome_lookup_of_qualifies known present'
    have earlier := atLocale.first other.locale inLocale answered sameLocale
    rw [idxOf_localeAxis atLocale.member, idxOf_localeAxis inLocale] at earlier
    exact .inl earlier

theorem get?_of_find?_eq_none (missed : (r.find? e locale).map (·.2) = none)
    (known : r.Qualifies e locale key) : r.table.get? key = none := by
  obtain ⟨inLocale, admitted⟩ := qualifies_iff.mp known
  rw [find?_eq_findSome?, List.findSome?_eq_none_iff] at missed
  exact MessageTable.get?_of_lookup_eq_none (missed _ inLocale) admitted

theorem find?_eq_some_iff (template : String) :
    (r.find? e locale).map (·.2) = some template ↔
      r.table.Selects (r.Qualifies e locale) (r.rank e locale) template :=
  MessageTable.eq_some_iff_selects (r.rank e locale) (fun _ => selects_of_find?)
    (fun missed _ known => get?_of_find?_eq_none missed known) template

theorem find?_eq_none_iff :
    (r.find? e locale).map (·.2) = none ↔
      ∀ key, r.Qualifies e locale key → r.table.get? key = none :=
  MessageTable.eq_none_iff_absent (r.rank e locale) (fun _ => selects_of_find?)
    fun missed _ known => get?_of_find?_eq_none missed known

theorem templateFor_eq_ok_iff (template : String) :
    (r.templateFor e locale).collect.1 = .ok template ↔
      (r.find? e locale).map (·.2) = some template := by
  rw [outcome_templateFor]
  cases (r.find? e locale).map (·.2) <;> simp

theorem templateFor_eq_error_iff (error : MessageError) :
    (r.templateFor e locale).collect.1 = .error error ↔
      error = .missing e.predicate e.ruleName r.scope (r.requested locale) ∧
        (r.find? e locale).map (·.2) = none := by
  rw [outcome_templateFor]
  cases (r.find? e locale).map (·.2) <;> simp [eq_comm]

/-- Tables with the same templates under the keys that qualify come to the same. -/
theorem templateFor_congr {t : MessageTable}
    (same : ∀ key, r.Qualifies e locale key → t.get? key = r.table.get? key) :
    ({ r with table := t }.templateFor e locale).collect.1 = (r.templateFor e locale).collect.1 := by
  have found : (find? { r with table := t } e locale).map (·.2) =
      (r.find? e locale).map (·.2) := by
    have qualifies : Qualifies { r with table := t } e locale = r.Qualifies e locale := by
      funext key
      simp only [qualifies_iff]
      rfl
    ext template
    rw [find?_eq_some_iff, find?_eq_some_iff, qualifies]
    exact MessageTable.selects_congr same (r.rank e locale) template
  rw [outcome_templateFor, outcome_templateFor, found]
  rfl

/-- **The most specific template is chosen.** Of the existing keys that qualify for an entry the
least one gives the template. Without any there is no message, and the error names the predicate, the
field if the name of the entry is a text, the scope and the locale asked for. Lookups in one locale
do the same. The order tells all qualifying keys apart, puts the locale asked for before English, and
no other key of the table matters. -/
theorem template_selected (r : MessageResolver) (e : Entry) (locale : Option String) :
    (∀ template, (r.templateFor e locale).collect.1 = .ok template ↔
      r.table.Selects (r.Qualifies e locale) (r.rank e locale) template) ∧
    (∀ error, (r.templateFor e locale).collect.1 = .error error ↔
      (∃ rule l, error = .missing e.predicate rule r.scope l ∧
        (∀ field, rule = some field ↔ e.name = .str field) ∧ r.Asks locale l) ∧
      ∀ key, r.Qualifies e locale key → r.table.get? key = none) ∧
    (∀ (q : MessageQuery),
      (∀ template, r.table.lookup q = some template ↔
        r.table.Selects q.Admits (MessageKey.rank q.valueTypes q.argumentTypes) template) ∧
      (r.table.lookup q = none ↔ ∀ key, q.Admits key → r.table.get? key = none)) ∧
    (∀ key other, r.Qualifies e locale key → r.Qualifies e locale other →
      (r.rank e locale key = r.rank e locale other → key = other) ∧
      (r.Asks locale key.locale → ¬r.Asks locale other.locale →
        r.rank e locale key < r.rank e locale other)) ∧
    ∀ t : MessageTable, (∀ key, r.Qualifies e locale key → t.get? key = r.table.get? key) →
      ({ r with table := t }.templateFor e locale).collect.1 =
        (r.templateFor e locale).collect.1 := by
  refine ⟨fun template => ?_, fun error => ?_, fun q => ?_, fun key other known known' => ?_,
    fun t same => templateFor_congr same⟩
  · rw [templateFor_eq_ok_iff, find?_eq_some_iff]
  · rw [templateFor_eq_error_iff, find?_eq_none_iff]
    refine and_congr_left fun _ => ?_
    constructor
    · rintro rfl
      exact ⟨_, _, rfl, fun _ => Entry.ruleName_eq_some_iff, asks_iff.mpr rfl⟩
    · rintro ⟨rule, l, rfl, named, asked⟩
      have same : rule = e.ruleName := by
        ext field
        rw [named, Entry.ruleName_eq_some_iff]
      rw [same, asks_iff.mp asked]
  · exact ⟨MessageTable.lookup_eq_some_iff, MessageTable.lookup_eq_none_iff⟩
  · exact ⟨known.eq_of_rank_eq known', rank_lt_of_asks⟩

/-- Templates for one predicate: a general one in another language, and English ones for the ages of a
shop, by the type of the value and of the bound. -/
def ageTable : MessageTable :=
  .ofList [
    (⟨"de", none, none, "gt?", none, none⟩, "zu klein"),
    (⟨"en", some "shop", some "age", "gt?", some "integer", some "integer"⟩, "too low"),
    (⟨"en", some "shop", some "age", "gt?", some "bool", none⟩, "no number"),
    (⟨"en", some "shop", some "age", "gt?", some "bool", some "integer"⟩, "no number of years")]

def ageResolver : MessageResolver := ⟨ageTable, some "shop", "de"⟩

/-- A truth value, which counts as an integer, where an age is to be above a bound. -/
def ageEntry : Entry :=
  { name := .str "age", predicate := "gt?", arguments := [("num", .int 18)], value := .bool true }

/-- All templates of the table are in competition. -/
theorem qualifies_ageResolver :
    ∀ key ∈ ageTable.templates.keys, ageResolver.Qualifies ageEntry none key := by
  intro key known
  have keys : ageTable.templates.keys =
      [⟨"de", none, none, "gt?", none, none⟩,
        ⟨"en", some "shop", some "age", "gt?", some "integer", some "integer"⟩,
        ⟨"en", some "shop", some "age", "gt?", some "bool", none⟩,
        ⟨"en", some "shop", some "age", "gt?", some "bool", some "integer"⟩] := rfl
  simp only [keys, List.mem_cons, List.not_mem_nil, or_false] at known
  rcases known with rfl | rfl | rfl | rfl <;>
    exact ⟨by decide, rfl, by decide, by simp [ageEntry],
      by simp [ageEntry, Value.typeNames, Atom.typeNames],
      by simp [ageEntry, Value.typeNames, Atom.typeNames]⟩

/-- The general template of the locale asked for comes before all English ones. Without one, the
English template for truth values and integers comes first: the type of the value decides before that
of the bound. -/
theorem template_selected_ageResolver :
    ((ageResolver.templateFor ageEntry none).collect.1 = .ok "zu klein" ∧
      ageTable.Selects (ageResolver.Qualifies ageEntry none) (ageResolver.rank ageEntry none)
        "zu klein") ∧
    ((ageResolver.templateFor ageEntry (some "fr")).collect.1 = .ok "no number of years" ∧
      ageTable.Selects (ageResolver.Qualifies ageEntry (some "fr"))
        (ageResolver.rank ageEntry (some "fr")) "no number of years") ∧
    ∀ key ∈ ageTable.templates.keys, ageResolver.Qualifies ageEntry none key := by
  have german : (ageResolver.templateFor ageEntry none).collect.1 = .ok "zu klein" := by
    decide +kernel
  have english : (ageResolver.templateFor ageEntry (some "fr")).collect.1 =
      .ok "no number of years" := by
    decide +kernel
  refine ⟨⟨german, ?_⟩, ⟨english, ?_⟩, qualifies_ageResolver⟩
  · exact ((template_selected ageResolver ageEntry none).1 _).mp german
  · exact ((template_selected ageResolver ageEntry (some "fr")).1 _).mp english

end MessageResolver

end Rulebook
