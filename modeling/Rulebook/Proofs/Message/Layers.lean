import Rulebook.Proofs.Message.Precedence
import Rulebook.Proofs.OrderedMap
import Rulebook.Schema.Config

/-!
Tables of messages on top of one another. A lookup in a merged table takes the more specific hit of
the two parts, and of hits under one key the one of the upper part. Main statements:
* `firstHit_or_iff`: what is found first where one search is put before another, key by key;
* `MessageTable.hit_merge_iff`: the hits of a merged table;
* `MessageQuery.idxOf_le_iff`: the keys are tried in the order of their ranks;
* `MessageTable.merge_assoc`, `empty_merge`, `merge_empty`, `merge_self`: the laws of merging;
* `Layering.merged_eq_stack`: layers count in their order, however they are put together;
* `MessageTable.hit_stack_append`: what layers on top of others displace.
-/

namespace Rulebook

/-! ## First hits -/

section

variable {α β : Type} [BEq α] {l : List α} {f g : α → Option β} {a a' : α} {b b' : β}

theorem FirstHit.isSome (hit : FirstHit l f a b) : (f a).isSome = true := by
  rw [hit.found]
  rfl

theorem FirstHit.le (hit : FirstHit l f a b) {other : α} (member : other ∈ l)
    (present : (f other).isSome = true) : l.idxOf a ≤ l.idxOf other := by
  by_cases same : other = a
  · rw [same]
  · exact (hit.first other member present same).le

variable [LawfulBEq α]

theorem FirstHit.of_le (member : a ∈ l) (found : f a = some b)
    (least : ∀ other ∈ l, (f other).isSome = true → l.idxOf a ≤ l.idxOf other) :
    FirstHit l f a b where
  member := member
  found := found
  first other inside present different :=
    (least other inside present).lt_of_ne fun same =>
      different ((List.idxOf_inj member).mp same).symm

/-- There is at most one first hit. -/
theorem FirstHit.unique (hit : FirstHit l f a b) (hit' : FirstHit l f a' b') : a = a' ∧ b = b' := by
  have same : a = a' := (List.idxOf_inj hit.member).mp
    ((hit.le hit'.member hit'.isSome).antisymm (hit'.le hit.member hit.isSome))
  subst same
  exact ⟨rfl, Option.some.inj (hit.found.symm.trans hit'.found)⟩

theorem exists_firstHit_le {other : α} (member : other ∈ l) (present : (f other).isSome = true) :
    ∃ a b, FirstHit l f a b ∧ l.idxOf a ≤ l.idxOf other := by
  obtain ⟨b, found⟩ := Option.isSome_iff_exists.mp
    (List.findSome?_isSome_iff.mpr ⟨other, member, present⟩)
  obtain ⟨a, hit⟩ := exists_firstHit found
  exact ⟨a, b, hit, hit.le member present⟩

theorem findSome?_eq_some_iff_firstHit : l.findSome? f = some b ↔ ∃ a, FirstHit l f a b := by
  constructor
  · exact exists_firstHit
  · rintro ⟨a, hit⟩
    cases found : l.findSome? f with
    | none =>
      have missed := List.findSome?_eq_none_iff.mp found a hit.member
      rw [hit.found] at missed
      cases missed
    | some b' =>
      obtain ⟨a', hit'⟩ := exists_firstHit found
      rw [(hit.unique hit').2]

theorem isSome_or_iff {x y : Option β} :
    (x.or y).isSome = true ↔ x.isSome = true ∨ y.isSome = true := by
  cases x <;> simp

/-- The first hit of two searches that are made key by key is that of the one that comes to a hit
earlier; under one key the first search counts. -/
theorem firstHit_or_iff : FirstHit l (fun k => (g k).or (f k)) a b ↔
    FirstHit l g a b ∧ (∀ a' b', FirstHit l f a' b' → l.idxOf a ≤ l.idxOf a') ∨
    FirstHit l f a b ∧ ∀ a' b', FirstHit l g a' b' → l.idxOf a < l.idxOf a' := by
  constructor
  · intro hit
    have byFirst {k : α} (member : k ∈ l) (present : (g k).isSome = true) :
        l.idxOf a ≤ l.idxOf k :=
      hit.le member (isSome_or_iff.mpr (.inl present))
    have bySecond {k : α} (member : k ∈ l) (present : (f k).isSome = true) :
        l.idxOf a ≤ l.idxOf k :=
      hit.le member (isSome_or_iff.mpr (.inr present))
    rcases Option.or_eq_some_iff.mp hit.found with found | ⟨missed, found⟩
    · refine .inl ⟨.of_le hit.member found fun _ => byFirst, fun a' b' hit' => ?_⟩
      exact bySecond hit'.member hit'.isSome
    · refine .inr ⟨.of_le hit.member found fun _ => bySecond, fun a' b' hit' => ?_⟩
      refine (byFirst hit'.member hit'.isSome).lt_of_ne fun same => ?_
      have here := (List.idxOf_inj hit.member).mp same
      have present := hit'.isSome
      rw [← here, missed] at present
      cases present
  · rintro (⟨hit, before⟩ | ⟨hit, before⟩)
    · refine .of_le hit.member (Option.or_eq_some_iff.mpr (.inl hit.found))
        fun k member present => ?_
      rcases isSome_or_iff.mp present with present | present
      · exact hit.le member present
      · obtain ⟨a', b', hit', le⟩ := exists_firstHit_le member present
        exact (before a' b' hit').trans le
    · have missed : g a = none := by
        rw [← Option.not_isSome_iff_eq_none]
        intro present
        obtain ⟨a', b', hit', le⟩ := exists_firstHit_le hit.member present
        exact (before a' b' hit').not_ge le
      refine .of_le hit.member (Option.or_eq_some_iff.mpr (.inr ⟨missed, hit.found⟩))
        fun k member present => ?_
      rcases isSome_or_iff.mp present with present | present
      · obtain ⟨a', b', hit', le⟩ := exists_firstHit_le member present
        exact ((before a' b' hit').trans_le le).le
      · exact hit.le member present

end

/-! ## Hits of lookups -/

namespace MessageTable

variable {a b t : MessageTable} {q : MessageQuery} {key : MessageKey} {template : String}

/-- A lookup hits a key: the first of the keys tried under which the table has a template. -/
def Hit (t : MessageTable) (q : MessageQuery) (key : MessageKey) (template : String) : Prop :=
  FirstHit q.keys t.get? key template

theorem lookup_eq_some_iff_hit : t.lookup q = some template ↔ ∃ key, t.Hit q key template :=
  findSome?_eq_some_iff_firstHit

theorem get?_merge (a b : MessageTable) (key : MessageKey) :
    (a.merge b).get? key = (b.get? key).or (a.get? key) :=
  OrderedMap.get?_merge ..

theorem hit_merge_iff : (a.merge b).Hit q key template ↔
    b.Hit q key template ∧
      (∀ key' template', a.Hit q key' template' → q.keys.idxOf key ≤ q.keys.idxOf key') ∨
    a.Hit q key template ∧
      ∀ key' template', b.Hit q key' template' → q.keys.idxOf key < q.keys.idxOf key' := by
  have found : (a.merge b).get? = fun key => (b.get? key).or (a.get? key) :=
    funext (get?_merge a b)
  rw [Hit, found]
  exact firstHit_or_iff

/-- On top of a first table a second one prevails in a lookup: it has a hit, and the first one has
none under an earlier key. -/
def Prevails (a b : MessageTable) (q : MessageQuery) : Prop :=
  ∃ key template, b.Hit q key template ∧
    ∀ key' template', a.Hit q key' template' → q.keys.idxOf key ≤ q.keys.idxOf key'

theorem lookup_merge_of_prevails (prevails : a.Prevails b q) :
    (a.merge b).lookup q = b.lookup q := by
  obtain ⟨key, template, hit, before⟩ := prevails
  rw [lookup_eq_some_iff_hit.mpr ⟨key, hit_merge_iff.mpr (.inl ⟨hit, before⟩)⟩,
    lookup_eq_some_iff_hit.mpr ⟨key, hit⟩]

theorem lookup_merge_eq_none_iff :
    (a.merge b).lookup q = none ↔ a.lookup q = none ∧ b.lookup q = none := by
  simp only [lookup, List.findSome?_eq_none_iff, get?_merge, Option.or_eq_none_iff]
  exact ⟨fun missed => ⟨fun k member => (missed k member).2, fun k member => (missed k member).1⟩,
    fun missed k member => ⟨missed.2 k member, missed.1 k member⟩⟩

theorem lookup_merge_of_not_prevails (yields : ¬a.Prevails b q) :
    (a.merge b).lookup q = a.lookup q := by
  cases found : (a.merge b).lookup q with
  | none => exact (lookup_merge_eq_none_iff.mp found).1.symm
  | some template =>
    obtain ⟨key, hit⟩ := lookup_eq_some_iff_hit.mp found
    rcases hit_merge_iff.mp hit with ⟨hit, before⟩ | ⟨hit, _⟩
    · exact absurd ⟨key, template, hit, before⟩ yields
    · exact (lookup_eq_some_iff_hit.mpr ⟨key, hit⟩).symm

end MessageTable

/-! ## The order of the keys -/

namespace MessageQuery

variable {q : MessageQuery} {key other : MessageKey}

/-- The keys are tried in the order of their ranks. -/
theorem idxOf_lt_iff (known : key ∈ q.keys) (known' : other ∈ q.keys) :
    q.keys.idxOf key < q.keys.idxOf other ↔ q.rank key < q.rank other := by
  by_cases same : key = other
  · simp [same]
  -- A search for both keys shows which one comes first.
  let find (k : MessageKey) : Option MessageKey := if k = key ∨ k = other then some k else none
  have foundKey : find key = some key := if_pos (.inl rfl)
  have foundOther : find other = some other := if_pos (.inr rfl)
  obtain ⟨first, _, hit, _⟩ := exists_firstHit_le (f := find) known (by rw [foundKey]; rfl)
  obtain ⟨least, _, found, below⟩ :=
    exists_least (findSome?_eq_some_iff_firstHit.mpr ⟨first, hit⟩)
  obtain ⟨isOne, itself⟩ := Option.ite_none_right_eq_some.mp hit.found
  cases itself
  obtain ⟨_, itself⟩ := Option.ite_none_right_eq_some.mp found
  cases itself
  rcases isOne with rfl | rfl
  · have present : (find other).isSome = true := by rw [foundOther]; rfl
    exact iff_of_true (hit.first other known' present (Ne.symm same))
      (below other (mem_keys_iff.mp known') present (Ne.symm same))
  · have present : (find key).isSome = true := by rw [foundKey]; rfl
    exact iff_of_false (hit.first key known present same).not_gt
      (below key (mem_keys_iff.mp known) present same).not_gt

end MessageQuery

/-! ## Layers -/

namespace MessageTable

variable {lower upper : List MessageTable} {q : MessageQuery} {key : MessageKey}
  {template : String}

theorem merge_assoc (a b c : MessageTable) : (a.merge b).merge c = a.merge (b.merge c) :=
  congrArg mk (OrderedMap.merge_assoc ..)

theorem empty_merge (a : MessageTable) : empty.merge a = a :=
  congrArg mk (OrderedMap.empty_merge _)

theorem merge_empty (a : MessageTable) : a.merge empty = a := rfl

theorem merge_self (a : MessageTable) : a.merge a = a :=
  congrArg mk (OrderedMap.merge_self _)

/-- Tables on top of one another, the lowest one first. -/
def stack (layers : List MessageTable) : MessageTable := layers.foldl merge empty

theorem foldl_merge (t : MessageTable) (layers : List MessageTable) :
    layers.foldl merge t = t.merge (stack layers) := by
  induction layers generalizing t with
  | nil => rfl
  | cons layer rest ih =>
    have first : stack (layer :: rest) = layer.merge (stack rest) := by
      rw [← ih layer, stack, List.foldl_cons, empty_merge]
    rw [List.foldl_cons, ih, merge_assoc, first]

theorem stack_cons (t : MessageTable) (layers : List MessageTable) :
    stack (t :: layers) = t.merge (stack layers) := by
  rw [stack, List.foldl_cons, empty_merge, foldl_merge]

theorem stack_append (lower upper : List MessageTable) :
    stack (lower ++ upper) = (stack lower).merge (stack upper) := by
  rw [stack, List.foldl_append, foldl_merge]
  rfl

/-- Under each key the uppermost layer with a template counts. -/
theorem get?_stack (layers : List MessageTable) (key : MessageKey) :
    (stack layers).get? key = layers.reverse.findSome? (·.get? key) := by
  induction layers with
  | nil => rfl
  | cons layer rest ih =>
    rw [stack_cons, get?_merge, ih, List.reverse_cons, List.findSome?_append,
      List.findSome?_singleton]

theorem exists_mem_of_get?_stack (found : (stack upper).get? key = some template) :
    ∃ t ∈ upper, t.get? key = some template := by
  rw [get?_stack] at found
  obtain ⟨t, member, found⟩ := List.exists_of_findSome?_eq_some found
  exact ⟨t, List.mem_reverse.mp member, found⟩

theorem isSome_get?_stack {t : MessageTable} (member : t ∈ upper)
    (present : (t.get? key).isSome = true) : ((stack upper).get? key).isSome = true := by
  rw [get?_stack, List.findSome?_isSome_iff]
  exact ⟨t, List.mem_reverse.mpr member, present⟩

theorem Hit.exists_layer (hit : (stack upper).Hit q key template) :
    ∃ t ∈ upper, t.Hit q key template := by
  obtain ⟨t, member, found⟩ := exists_mem_of_get?_stack hit.found
  exact ⟨t, member, .of_le hit.member found fun other inside present =>
    hit.le inside (isSome_get?_stack member present)⟩

/-- What is hit in some layers stays when others come on top, unless one of these has a hit under the
same key or an earlier one. -/
theorem hit_stack_append (hit : (stack lower).Hit q key template) :
    ((stack (lower ++ upper)).Hit q key template ∧
      ∀ t ∈ upper, ∀ key' template', t.Hit q key' template' →
        q.keys.idxOf key < q.keys.idxOf key') ∨
    ∃ t ∈ upper, ∃ key' template', t.Hit q key' template' ∧
      (stack (lower ++ upper)).Hit q key' template' ∧
      q.keys.idxOf key' ≤ q.keys.idxOf key := by
  rw [stack_append]
  by_cases displaced : ∃ key' template', (stack upper).Hit q key' template' ∧
      q.keys.idxOf key' ≤ q.keys.idxOf key
  · obtain ⟨key', template', hit', le⟩ := displaced
    obtain ⟨t, member, own⟩ := hit'.exists_layer
    refine .inr ⟨t, member, key', template', own, hit_merge_iff.mpr (.inl ⟨hit', ?_⟩), le⟩
    intro other _ below
    rw [← (FirstHit.unique hit below).1]
    exact le
  · have later {key' : MessageKey} {template' : String}
        (hit' : (stack upper).Hit q key' template') : q.keys.idxOf key < q.keys.idxOf key' :=
      lt_of_not_ge fun le => displaced ⟨key', template', hit', le⟩
    refine .inl ⟨hit_merge_iff.mpr (.inr ⟨hit, fun _ _ => later⟩), ?_⟩
    intro t member key' template' own
    obtain ⟨first, _, above, le⟩ :=
      exists_firstHit_le own.member (isSome_get?_stack member own.isSome)
    exact (later above).trans_le le

end MessageTable

/-- Tables put together step by step, in any grouping. -/
inductive Layering where
  | table (t : MessageTable)
  | join (lower upper : Layering)

namespace Layering

/-- The tables from the lowest one to the uppermost one. -/
def layers : Layering → List MessageTable
  | table t => [t]
  | join lower upper => lower.layers ++ upper.layers

def merged : Layering → MessageTable
  | table t => t
  | join lower upper => lower.merged.merge upper.merged

theorem merged_eq_stack (g : Layering) : g.merged = .stack g.layers := by
  induction g with
  | table t => exact (MessageTable.empty_merge t).symm
  | join lower upper below above =>
    rw [merged, below, above, layers, MessageTable.stack_append]

end Layering

theorem Config.messages_foldl_withMessages (config : Config) (tables : List MessageTable) :
    (tables.foldl withMessages config).messages = .stack (config.messages :: tables) := by
  induction tables generalizing config with
  | nil => exact (MessageTable.empty_merge _).symm
  | cons t rest ih =>
    rw [List.foldl_cons, ih, MessageTable.stack_cons, MessageTable.stack_cons,
      MessageTable.stack_cons, withMessages, MessageTable.merge_assoc]

end Rulebook
