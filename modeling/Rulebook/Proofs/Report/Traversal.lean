import Rulebook.Proofs.Logged
import Rulebook.Proofs.Report.Contents

/-!
Replacing the statements of a report. Main statements:
* `matches_of_traverse`: what a traversal comes to matches the report that it started from;
* `exists_leaf_of_traverse`: a traversal fails only at a statement;
* `Matches.leaves`: reports that match have related statements under the same keys, in order.
-/

namespace Rulebook.Report

variable {α β ε : Type} {R : α → β → Prop}

mutual

/-- Two reports with the same keys, the same nesting and as many items everywhere, whose statements
are related one by one. -/
inductive Matches (R : α → β → Prop) : Report α → Report β → Prop where
  | leaf {a : α} {b : β} (related : R a b) : Matches R (.leaf a) (.leaf b)
  | nested {fields : Fields α} {fields' : Fields β} (same : MatchesFields R fields fields') :
      Matches R (.nested fields) (.nested fields')

inductive MatchesItems (R : α → β → Prop) : List (Report α) → List (Report β) → Prop where
  | nil : MatchesItems R [] []
  | cons {item : Report α} {item' : Report β} {rest : List (Report α)} {rest' : List (Report β)}
      (first : Matches R item item') (others : MatchesItems R rest rest') :
      MatchesItems R (item :: rest) (item' :: rest')

inductive MatchesFields (R : α → β → Prop) : Fields α → Fields β → Prop where
  | nil : MatchesFields R [] []
  | cons {key : Value} {items : List (Report α)} {items' : List (Report β)} {rest : Fields α}
      {rest' : Fields β} (first : MatchesItems R items items')
      (others : MatchesFields R rest rest') :
      MatchesFields R ((key, items) :: rest) ((key, items') :: rest')

end

/-! ## Traversals -/

open Logged

variable {f : α → Logged ε β}

mutual

theorem matches_of_traverse {r : Report α} {r' : Report β}
    (h : ComesTo (traverse f r) (.ok r')) : Matches (fun a b => (f a).ComesTo (.ok b)) r r' := by
  match r with
  | .leaf a =>
    obtain ⟨b, came, h⟩ := comesTo_bind_ok h
    cases comesTo_pure_iff.mp h
    exact .leaf came
  | .nested fields =>
    obtain ⟨fields', came, h⟩ := comesTo_bind_ok h
    cases comesTo_pure_iff.mp h
    exact .nested (matches_of_traverseFields came)

theorem matches_of_traverseItems {items : List (Report α)} {items' : List (Report β)}
    (h : ComesTo (traverseItems f items) (.ok items')) :
    MatchesItems (fun a b => (f a).ComesTo (.ok b)) items items' := by
  match items with
  | [] =>
    cases comesTo_pure_iff.mp h
    exact .nil
  | item :: rest =>
    obtain ⟨item', first, h⟩ := comesTo_bind_ok h
    obtain ⟨rest', others, h⟩ := comesTo_bind_ok h
    cases comesTo_pure_iff.mp h
    exact .cons (matches_of_traverse first) (matches_of_traverseItems others)

theorem matches_of_traverseFields {fields : Fields α} {fields' : Fields β}
    (h : ComesTo (traverseFields f fields) (.ok fields')) :
    MatchesFields (fun a b => (f a).ComesTo (.ok b)) fields fields' := by
  match fields with
  | [] =>
    cases comesTo_pure_iff.mp h
    exact .nil
  | (key, items) :: rest =>
    obtain ⟨items', first, h⟩ := comesTo_bind_ok h
    obtain ⟨rest', others, h⟩ := comesTo_bind_ok h
    cases comesTo_pure_iff.mp h
    exact .cons (matches_of_traverseItems first) (matches_of_traverseFields others)

end

mutual

theorem exists_leaf_of_traverse {r : Report α} {e : ε} (h : ComesTo (traverse f r) (.error e)) :
    ∃ l ∈ r.leaves, (f l.2).ComesTo (.error e) := by
  match r with
  | .leaf a => exact ⟨_, List.mem_singleton_self _, comesTo_error_of_bind_pure h⟩
  | .nested fields => exact exists_leaf_of_traverseFields (comesTo_error_of_bind_pure h)

theorem exists_leaf_of_traverseItems {items : List (Report α)} {e : ε}
    (h : ComesTo (traverseItems f items) (.error e)) :
    ∃ l ∈ leavesOfItems items, (f l.2).ComesTo (.error e) := by
  match items with
  | [] => cases comesTo_pure_iff.mp h
  | item :: rest =>
    rcases comesTo_bind h with ⟨e, first, same⟩ | ⟨item', _, h⟩
    · cases same
      obtain ⟨l, here, came⟩ := exists_leaf_of_traverse first
      exact ⟨l, List.mem_append_left _ here, came⟩
    · obtain ⟨l, later, came⟩ := exists_leaf_of_traverseItems (comesTo_error_of_bind_pure h)
      exact ⟨l, List.mem_append_right _ later, came⟩

theorem exists_leaf_of_traverseFields {fields : Fields α} {e : ε}
    (h : ComesTo (traverseFields f fields) (.error e)) :
    ∃ l ∈ leavesOfFields fields, (f l.2).ComesTo (.error e) := by
  match fields with
  | [] => cases comesTo_pure_iff.mp h
  | (key, items) :: rest =>
    rcases comesTo_bind h with ⟨e, first, same⟩ | ⟨items', _, h⟩
    · cases same
      obtain ⟨l, here, came⟩ := exists_leaf_of_traverseItems first
      exact ⟨(key :: l.1, l.2), List.mem_append_left _ (List.mem_map_of_mem here), came⟩
    · obtain ⟨l, later, came⟩ := exists_leaf_of_traverseFields (comesTo_error_of_bind_pure h)
      exact ⟨l, List.mem_append_right _ later, came⟩

end

mutual

/-- A replacement that does not fail keeps all but the statements. -/
theorem matches_traverse_pure (g : α → β) (r : Report α) :
    Matches (fun a b => b = g a) r (traverse (m := Id) (fun a => pure (g a)) r) := by
  match r with
  | .leaf a => exact .leaf rfl
  | .nested fields => exact .nested (matches_traverseFields_pure g fields)

theorem matches_traverseItems_pure (g : α → β) (items : List (Report α)) :
    MatchesItems (fun a b => b = g a) items
      (traverseItems (m := Id) (fun a => pure (g a)) items) := by
  match items with
  | [] => exact .nil
  | item :: rest => exact .cons (matches_traverse_pure g item) (matches_traverseItems_pure g rest)

theorem matches_traverseFields_pure (g : α → β) (fields : Fields α) :
    MatchesFields (fun a b => b = g a) fields
      (traverseFields (m := Id) (fun a => pure (g a)) fields) := by
  match fields with
  | [] => exact .nil
  | (key, items) :: rest =>
    exact .cons (matches_traverseItems_pure g items) (matches_traverseFields_pure g rest)

end

/-! ## Statements of matching reports -/

mutual

theorem Matches.imp {S : α → β → Prop} (wider : ∀ a b, R a b → S a b) {r : Report α}
    {r' : Report β} (same : Matches R r r') : Matches S r r' := by
  match same with
  | .leaf related => exact .leaf (wider _ _ related)
  | .nested same => exact .nested (same.imp wider)

theorem MatchesItems.imp {S : α → β → Prop} (wider : ∀ a b, R a b → S a b)
    {items : List (Report α)} {items' : List (Report β)} (same : MatchesItems R items items') :
    MatchesItems S items items' := by
  match same with
  | .nil => exact .nil
  | .cons first others => exact .cons (first.imp wider) (others.imp wider)

theorem MatchesFields.imp {S : α → β → Prop} (wider : ∀ a b, R a b → S a b) {fields : Fields α}
    {fields' : Fields β} (same : MatchesFields R fields fields') : MatchesFields S fields fields' := by
  match same with
  | .nil => exact .nil
  | .cons first others => exact .cons (first.imp wider) (others.imp wider)

end

mutual

theorem Matches.leaves {r : Report α} {r' : Report β} (same : Matches R r r') :
    List.Forall₂ (fun l m => l.1 = m.1 ∧ R l.2 m.2) r.leaves r'.leaves := by
  match same with
  | .leaf related => exact .cons ⟨rfl, related⟩ .nil
  | .nested same => exact same.leaves

theorem MatchesItems.leaves {items : List (Report α)} {items' : List (Report β)}
    (same : MatchesItems R items items') :
    List.Forall₂ (fun l m => l.1 = m.1 ∧ R l.2 m.2) (leavesOfItems items) (leavesOfItems items') := by
  match same with
  | .nil => exact .nil
  | .cons first others => exact List.rel_append first.leaves others.leaves

theorem MatchesFields.leaves {fields : Fields α} {fields' : Fields β}
    (same : MatchesFields R fields fields') :
    List.Forall₂ (fun l m => l.1 = m.1 ∧ R l.2 m.2) (leavesOfFields fields)
      (leavesOfFields fields') := by
  match same with
  | .nil => exact .nil
  | .cons first others =>
    refine List.rel_append ?_ others.leaves
    rw [List.forall₂_map_left_iff, List.forall₂_map_right_iff]
    exact first.leaves.imp fun l m related => ⟨congrArg _ related.1, related.2⟩

end

end Rulebook.Report
