import Mathlib.Data.List.Basic
import Mathlib.Data.Prod.Lex
import Rulebook.Message.Resolver

/-!
Which template a lookup finds. The keys that answer a query are ordered by how specific they are, in
three steps: the place, the type of the value and the type of the argument. Main statements:
* `exists_firstHit`: a search finds what comes first;
* `MessageQuery.exists_least`: a search through the keys finds the least of those that answer;
* `MessageQuery.rank_lt_rank`: the positions in a query give the same order as what the keys say;
* `MessageTable.lookup_eq_some_iff`: a lookup finds the template under the least of the existing keys
  that answer the query.
-/

namespace Rulebook

/-! ## Searching lists -/

/-- The first element of a list for which there is an answer. -/
structure FirstHit {α β : Type} [BEq α] (l : List α) (f : α → Option β) (a : α) (b : β) : Prop where
  member : a ∈ l
  found : f a = some b
  first : ∀ other ∈ l, (f other).isSome = true → other ≠ a → l.idxOf a < l.idxOf other

theorem exists_firstHit {α β : Type} [BEq α] [LawfulBEq α] {l : List α} {f : α → Option β} {b : β}
    (found : l.findSome? f = some b) : ∃ a, FirstHit l f a b := by
  obtain ⟨before, a, after, rfl, hit, missed⟩ := List.findSome?_eq_some_iff.mp found
  have unanswered : ∀ {c : α}, (f c).isSome = true → c ∉ before := by
    intro c answered inside
    rw [missed c inside] at answered
    cases answered
  have here : (before ++ a :: after).idxOf a = before.length := by
    have new : a ∉ before := unanswered (by rw [hit]; rfl)
    rw [List.idxOf_append, if_neg new, List.idxOf_cons_self, Nat.zero_add]
  refine ⟨a, by simp, hit, fun other _ answered different => ?_⟩
  have later : 0 < (a :: after).idxOf other := by
    rw [List.idxOf_cons, beq_false_of_ne (Ne.symm different)]
    exact Nat.succ_pos _
  rw [here, List.idxOf_append, if_neg (unanswered answered)]
  omega

theorem findSome?_cons_eq_or {α β : Type} (a : α) (l : List α) (f : α → Option β) :
    (a :: l).findSome? f = (f a).or (l.findSome? f) := by
  rw [List.findSome?_cons]
  cases f a <;> rfl

theorem findSome?_flatMap {α β γ : Type} (l : List α) (g : α → List β) (f : β → Option γ) :
    (l.flatMap g).findSome? f = l.findSome? fun a => (g a).findSome? f := by
  induction l with
  | nil => rfl
  | cons a rest ih =>
    rw [List.flatMap_cons, List.findSome?_append, ih, findSome?_cons_eq_or]

/-! ## What qualifies -/

/-- The types of a query in order, and after them no type. -/
def typeAxis (types : List String) : List (Option String) := types.map some ++ [none]

namespace MessageQuery

/-- The places of templates: a field in a scope, a field, a scope, and everywhere. -/
def places (q : MessageQuery) : List (Option String × Option String) :=
  [(q.scope, q.rule), (none, q.rule), (q.scope, none), (none, none)]

/-- The key at a place for a type of value and a type of argument. -/
def keyAt (q : MessageQuery) (place : Option String × Option String)
    (valueType argumentType : Option String) : MessageKey :=
  ⟨q.locale, place.1, place.2, q.predicate, valueType, argumentType⟩

/-- A key answers a query: it has the predicate and the locale, and what it says of the scope, the
field and the types is left open or the same. -/
structure Admits (q : MessageQuery) (key : MessageKey) : Prop where
  predicate : key.predicate = q.predicate
  locale : key.locale = q.locale
  place : (key.scope, key.rule) ∈ q.places
  valueType : key.valueType ∈ typeAxis q.valueTypes
  argumentType : key.argumentType ∈ typeAxis q.argumentTypes

/-- How general a key is: by its place, then by the type of the value, then by the type of the
argument. -/
def rank (q : MessageQuery) (key : MessageKey) : ℕ ×ₗ ℕ ×ₗ ℕ :=
  toLex (q.places.idxOf (key.scope, key.rule),
    toLex ((typeAxis q.valueTypes).idxOf key.valueType,
      (typeAxis q.argumentTypes).idxOf key.argumentType))

theorem Admits.eq_keyAt {q : MessageQuery} {key : MessageKey} (admitted : q.Admits key) :
    key = q.keyAt (key.scope, key.rule) key.valueType key.argumentType := by
  obtain ⟨_, _, _, _, _, _⟩ := key
  cases admitted.predicate
  cases admitted.locale
  rfl

end MessageQuery

/-- How general the place of a key is: a field in a scope, a field, a scope, everywhere. -/
def MessageKey.generality (key : MessageKey) : ℕ :=
  match key.scope, key.rule with
  | some _, some _ => 0
  | none, some _ => 1
  | some _, none => 2
  | none, none => 3

/-- The position of a type among some types; that no type is named comes after them. -/
def typeRank (types : List String) : Option String → ℕ
  | some t => types.idxOf t
  | none => types.length

/-- The order of the keys of one locale and one predicate, for the types of a value and of an
argument: by place, then by the type of the value, then by the type of the argument. -/
def MessageKey.rank (valueTypes argumentTypes : List String) (key : MessageKey) : ℕ ×ₗ ℕ ×ₗ ℕ :=
  toLex (key.generality,
    toLex (typeRank valueTypes key.valueType, typeRank argumentTypes key.argumentType))

theorem mem_typeAxis_iff {types : List String} {type : Option String} :
    type ∈ typeAxis types ↔ ∀ t, type = some t → t ∈ types := by
  cases type <;> simp [typeAxis]

theorem idxOf_map_some (t : String) (types : List String) :
    (types.map some).idxOf (some t) = types.idxOf t := by
  induction types with
  | nil => rfl
  | cons first rest ih =>
    rw [List.map_cons, List.idxOf_cons, List.idxOf_cons, ih]
    rfl

theorem idxOf_typeAxis {types : List String} {type : Option String}
    (member : type ∈ typeAxis types) : (typeAxis types).idxOf type = typeRank types type := by
  cases type with
  | none =>
    have notNamed : none ∉ types.map some := by simp
    rw [typeAxis, List.idxOf_append, if_neg notNamed, List.idxOf_cons_self, List.length_map]
    exact Nat.zero_add _
  | some t =>
    have named : some t ∈ types.map some :=
      List.mem_map_of_mem (mem_typeAxis_iff.mp member t rfl)
    rw [typeAxis, List.idxOf_append, if_pos named]
    exact idxOf_map_some t types

namespace MessageQuery

variable {q : MessageQuery} {key other : MessageKey}

theorem mem_places_iff :
    (key.scope, key.rule) ∈ q.places ↔
      (key.scope = q.scope ∨ key.scope = none) ∧ (key.rule = q.rule ∨ key.rule = none) := by
  simp only [places, List.mem_cons, Prod.mk.injEq, List.not_mem_nil, or_false]
  tauto

/-- An earlier place is a less general one. Where a query has no scope or no field, some places come
twice, so the four forms of a query are told apart. -/
theorem generality_lt_of_idxOf_lt (place : (key.scope, key.rule) ∈ q.places)
    (place' : (other.scope, other.rule) ∈ q.places)
    (earlier : q.places.idxOf (key.scope, key.rule) < q.places.idxOf (other.scope, other.rule)) :
    key.generality < other.generality := by
  rw [mem_places_iff] at place place'
  unfold places at earlier
  unfold MessageKey.generality
  cases inScope : q.scope with
  | none =>
    cases ofField : q.rule with
    | none =>
      simp only [inScope, ofField, or_self] at place place' earlier
      rw [place.1, place.2, place'.1, place'.2] at earlier
      exact absurd earlier (lt_irrefl _)
    | some field =>
      simp only [inScope, ofField, or_self] at place place' earlier
      obtain ⟨scope, rule | rule⟩ := place <;> obtain ⟨scope', rule' | rule'⟩ := place' <;>
        simp [scope, rule, scope', rule'] at earlier ⊢
  | some s =>
    cases ofField : q.rule with
    | none =>
      simp only [inScope, ofField, or_self] at place place' earlier
      obtain ⟨scope | scope, rule⟩ := place <;> obtain ⟨scope' | scope', rule'⟩ := place' <;>
        simp [scope, rule, scope', rule'] at earlier ⊢
    | some field =>
      simp only [inScope, ofField] at place place' earlier
      obtain ⟨scope | scope, rule | rule⟩ := place <;>
        obtain ⟨scope' | scope', rule' | rule'⟩ := place' <;>
        simp [scope, rule, scope', rule'] at earlier ⊢

/-- The two orders agree on the keys that answer a query. -/
theorem rank_lt_rank (known : q.Admits key) (known' : q.Admits other)
    (lower : q.rank key < q.rank other) :
    key.rank q.valueTypes q.argumentTypes < other.rank q.valueTypes q.argumentTypes := by
  unfold rank at lower
  unfold MessageKey.rank
  rw [Prod.Lex.toLex_lt_toLex] at lower ⊢
  rw [← idxOf_typeAxis known.valueType, ← idxOf_typeAxis known.argumentType,
    ← idxOf_typeAxis known'.valueType, ← idxOf_typeAxis known'.argumentType]
  rcases lower with earlier | ⟨same, lower⟩
  · exact .inl (generality_lt_of_idxOf_lt known.place known'.place earlier)
  · obtain ⟨scope, rule⟩ := Prod.mk.inj ((List.idxOf_inj known.place).mp same)
    refine .inr ⟨?_, lower⟩
    simp only [MessageKey.generality, scope, rule]

/-- Keys that answer a query are told apart by their ranks. -/
theorem Admits.eq_of_rank_eq (known : q.Admits key) (known' : q.Admits other)
    (same : key.rank q.valueTypes q.argumentTypes = other.rank q.valueTypes q.argumentTypes) :
    key = other := by
  rcases lt_trichotomy (q.rank key) (q.rank other) with lower | sameRank | higher
  · exact absurd same (rank_lt_rank known known' lower).ne
  · obtain ⟨samePlace, sameTypes⟩ := Prod.ext_iff.mp (toLex.injective sameRank)
    obtain ⟨sameValue, sameArgument⟩ := Prod.ext_iff.mp (toLex.injective sameTypes)
    have places := (List.idxOf_inj known.place).mp samePlace
    have values := (List.idxOf_inj known.valueType).mp sameValue
    have arguments := (List.idxOf_inj known.argumentType).mp sameArgument
    rw [known.eq_keyAt, known'.eq_keyAt, places, values, arguments]
  · exact absurd same (rank_lt_rank known' known higher).ne'

end MessageQuery

/-- A template stands under the least of the existing keys that qualify. -/
def MessageTable.Selects {ρ : Type} [LT ρ] (t : MessageTable) (qualifies : MessageKey → Prop)
    (rank : MessageKey → ρ) (template : String) : Prop :=
  ∃ key, qualifies key ∧ t.get? key = some template ∧
    ∀ other, qualifies other → (t.get? other).isSome = true → other ≠ key → rank key < rank other

namespace MessageTable

variable {ρ : Type} [Preorder ρ] {t : MessageTable} {qualifies : MessageKey → Prop}
  {rank : MessageKey → ρ}

theorem Selects.unique {a b : String} (ha : t.Selects qualifies rank a)
    (hb : t.Selects qualifies rank b) : a = b := by
  obtain ⟨key, known, found, least⟩ := ha
  obtain ⟨key', known', found', least'⟩ := hb
  by_cases same : key' = key
  · rw [same, found] at found'
    exact Option.some.inj found'
  · have above := least key' known' (by rw [found']; rfl) same
    have below := least' key known (by rw [found]; rfl) (Ne.symm same)
    exact absurd above (lt_asymm below)

theorem selects_congr {t' : MessageTable}
    (same : ∀ key, qualifies key → t'.get? key = t.get? key) (rank : MessageKey → ρ)
    (template : String) :
    t'.Selects qualifies rank template ↔ t.Selects qualifies rank template := by
  unfold Selects
  refine exists_congr fun key => and_congr_right fun known => ?_
  rw [same key known]
  refine and_congr_right fun _ => forall_congr' fun other => forall_congr' fun known' => ?_
  rw [same other known']

/-- An order that agrees with another one on the keys that qualify selects the same. -/
theorem Selects.mono {σ : Type} [LT σ] {rank' : MessageKey → σ} {template : String}
    (selected : t.Selects qualifies rank template)
    (agrees : ∀ key other, qualifies key → qualifies other → rank key < rank other →
      rank' key < rank' other) : t.Selects qualifies rank' template := by
  obtain ⟨key, known, found, least⟩ := selected
  refine ⟨key, known, found, ?_⟩
  intro other known' present different
  exact agrees key other known known' (least other known' present different)

section

/- A search that selects where it finds something, and finds something where it can. -/
variable (rank) {outcome : Option String}
  (found_selects : ∀ template, outcome = some template → t.Selects qualifies rank template)
  (missed_absent : outcome = none → ∀ key, qualifies key → t.get? key = none)

include found_selects missed_absent

theorem eq_some_iff_selects (template : String) :
    outcome = some template ↔ t.Selects qualifies rank template := by
  constructor
  · exact found_selects template
  · intro selected
    cases found : outcome with
    | none =>
      obtain ⟨key, known, present, _⟩ := selected
      rw [missed_absent found key known] at present
      cases present
    | some other => rw [(found_selects other found).unique selected]

theorem eq_none_iff_absent : outcome = none ↔ ∀ key, qualifies key → t.get? key = none := by
  constructor
  · exact missed_absent
  · intro absent
    cases found : outcome with
    | none => rfl
    | some template =>
      obtain ⟨key, known, present, _⟩ := found_selects template found
      rw [absent key known] at present
      cases present

end

end MessageTable

/-! ## Lookups -/

namespace MessageQuery

theorem findSome?_keysIn {β : Type} (q : MessageQuery) (get : MessageKey → Option β)
    (place : Option String × Option String) :
    (q.keysIn place.1 place.2).findSome? get =
      (typeAxis q.valueTypes).findSome? fun v =>
        (typeAxis q.argumentTypes).findSome? fun a => get (q.keyAt place v a) := by
  simp only [keysIn, typeAxis, keyAt, findSome?_flatMap, List.findSome?_append, List.findSome?_map,
    List.findSome?_singleton, Function.comp_def, Option.or_assoc]

/-- Where a query has no scope or no field, some places come twice, which does not matter. -/
theorem findSome?_keys {β : Type} (q : MessageQuery) (get : MessageKey → Option β) :
    q.keys.findSome? get = q.places.findSome? fun place =>
      (typeAxis q.valueTypes).findSome? fun v =>
        (typeAxis q.argumentTypes).findSome? fun a => get (q.keyAt place v a) := by
  simp only [← findSome?_keysIn]
  unfold keys places
  cases q.scope with
  | none =>
    cases q.rule with
    | none => simp [findSome?_cons_eq_or]
    | some rule => simp [findSome?_cons_eq_or, List.findSome?_append, ← Option.or_assoc]
  | some scope =>
    cases q.rule with
    | none =>
      have again : ∀ a b : Option β, a.or b = a.or (b.or (a.or b)) := by
        intro a b
        cases a <;> cases b <;> rfl
      simpa [findSome?_cons_eq_or, List.findSome?_append] using again _ _
    | some rule => simp [findSome?_cons_eq_or, List.findSome?_append]

/-- A search through the keys finds the least of those that answer. -/
theorem exists_least {β : Type} {q : MessageQuery} {get : MessageKey → Option β} {b : β}
    (found : q.keys.findSome? get = some b) :
    ∃ key, q.Admits key ∧ get key = some b ∧
      ∀ other, q.Admits other → (get other).isSome = true → other ≠ key →
        q.rank key < q.rank other := by
  rw [findSome?_keys] at found
  obtain ⟨place, atPlace⟩ := exists_firstHit found
  obtain ⟨v, atValue⟩ := exists_firstHit atPlace.found
  obtain ⟨a, atArgument⟩ := exists_firstHit atValue.found
  refine ⟨q.keyAt place v a, ⟨rfl, rfl, atPlace.member, atValue.member, atArgument.member⟩,
    atArgument.found, fun other admitted present different => ?_⟩
  rw [admitted.eq_keyAt] at present different
  have underValue : ((typeAxis q.argumentTypes).findSome? fun a =>
      get (q.keyAt (other.scope, other.rule) other.valueType a)).isSome = true :=
    List.findSome?_isSome_iff.mpr ⟨_, admitted.argumentType, present⟩
  have underPlace : ((typeAxis q.valueTypes).findSome? fun v =>
      (typeAxis q.argumentTypes).findSome? fun a =>
        get (q.keyAt (other.scope, other.rule) v a)).isSome = true :=
    List.findSome?_isSome_iff.mpr ⟨_, admitted.valueType, underValue⟩
  simp only [rank, keyAt, Prod.Lex.toLex_lt_toLex]
  -- The keys are compared step by step, as the search is made.
  by_cases samePlace : (other.scope, other.rule) = place
  · subst samePlace
    refine .inr ⟨rfl, ?_⟩
    by_cases sameValue : other.valueType = v
    · subst sameValue
      refine .inr ⟨rfl, atArgument.first _ admitted.argumentType present fun sameArgument => ?_⟩
      exact different (congrArg _ sameArgument)
    · exact .inl (atValue.first _ admitted.valueType underValue sameValue)
  · exact .inl (atPlace.first _ admitted.place underPlace samePlace)

theorem missed_of_admits {β : Type} {q : MessageQuery} {get : MessageKey → Option β}
    (missed : q.keys.findSome? get = none) {key : MessageKey} (admitted : q.Admits key) :
    get key = none := by
  rw [findSome?_keys, List.findSome?_eq_none_iff] at missed
  have atPlace := List.findSome?_eq_none_iff.mp (missed _ admitted.place) _ admitted.valueType
  have atValue := List.findSome?_eq_none_iff.mp atPlace _ admitted.argumentType
  rwa [admitted.eq_keyAt]

/-- The keys that are tried are those that answer the query. -/
theorem mem_keys_iff {q : MessageQuery} {key : MessageKey} : key ∈ q.keys ↔ q.Admits key := by
  let here (k : MessageKey) : Option Unit := if k = key then some () else none
  cases searched : q.keys.findSome? here with
  | some u =>
    obtain ⟨k, member, found⟩ := List.exists_of_findSome?_eq_some searched
    obtain ⟨k', admitted, found', _⟩ := exists_least searched
    cases (Option.ite_none_right_eq_some.mp found).1
    cases (Option.ite_none_right_eq_some.mp found').1
    exact iff_of_true member admitted
  | none =>
    have present : here key ≠ none := by simp [here]
    refine iff_of_false (fun member => ?_) fun admitted => ?_
    · exact present (List.findSome?_eq_none_iff.mp searched key member)
    · exact present (missed_of_admits searched admitted)

end MessageQuery

namespace MessageTable

theorem selects_of_lookup {t : MessageTable} {q : MessageQuery} {template : String}
    (found : t.lookup q = some template) : t.Selects q.Admits q.rank template :=
  MessageQuery.exists_least found

theorem get?_of_lookup_eq_none {t : MessageTable} {q : MessageQuery} (missed : t.lookup q = none)
    {key : MessageKey} (admitted : q.Admits key) : t.get? key = none :=
  MessageQuery.missed_of_admits missed admitted

theorem selects_generality_of_lookup {t : MessageTable} {q : MessageQuery} {template : String}
    (found : t.lookup q = some template) :
    t.Selects q.Admits (MessageKey.rank q.valueTypes q.argumentTypes) template :=
  (selects_of_lookup found).mono fun _ _ => MessageQuery.rank_lt_rank

theorem lookup_eq_some_iff {t : MessageTable} {q : MessageQuery} (template : String) :
    t.lookup q = some template ↔
      t.Selects q.Admits (MessageKey.rank q.valueTypes q.argumentTypes) template :=
  eq_some_iff_selects _ (fun _ => selects_generality_of_lookup)
    (fun missed _ admitted => get?_of_lookup_eq_none missed admitted) template

theorem lookup_eq_none_iff {t : MessageTable} {q : MessageQuery} :
    t.lookup q = none ↔ ∀ key, q.Admits key → t.get? key = none :=
  eq_none_iff_absent q.rank (fun _ => selects_of_lookup)
    fun missed _ admitted => get?_of_lookup_eq_none missed admitted

end MessageTable

end Rulebook
