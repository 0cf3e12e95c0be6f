import Rulebook.Proofs.Json.RoundTrip

/-!
What can be read from a document at all. Main statements:
* `inJson_ofEntries`: of entries with the same key, only one is left;
* `inJson_of_read`: so whatever is read is a value that JSON can hold, with NaNs as further numbers.
-/

namespace Rulebook

namespace Value

variable {number : Double → Prop}

/-- Entries that are put one after another are kept under different strings. -/
theorem inJson_ofEntries {entries : List (Value × Value)}
    (all : ∀ e ∈ entries, (∃ s, e.1 = .str s) ∧ e.2.InJson number) :
    (ofEntries entries).InJson number := by
  suffices kept : ∀ found : List (Value × Value), (∀ e ∈ found, ∃ s, e.1 = .str s) →
      (found.map (·.1)).Nodup → (∀ e ∈ found, e.2.InJson number) →
      (Value.map (entries.foldl (fun found e => put e.1 e.2 found) found)).InJson number from
    kept [] (List.forall_mem_nil _) .nil (List.forall_mem_nil _)
  induction entries with
  | nil => exact fun found keys distinct values => .map keys distinct values
  | cons e rest ih =>
    intro found keys distinct values
    obtain ⟨⟨⟨s, key⟩, value⟩, others⟩ := List.forall_mem_cons.mp all
    rw [List.foldl_cons, key]
    refine ih others _ (fun e' member => ?_) (nodup_put_str keys distinct s e.2) fun e' member => ?_
    · rcases mem_put_str keys member with rfl | known
      · exact ⟨s, rfl⟩
      · exact keys e' known
    · rcases mem_put_str keys member with rfl | known
      · exact value
      · exact values e' known

end Value

namespace Json

/-- The doubles that are read from a document: all that are no NaNs, and one NaN. -/
def IsRead (x : Double) : Prop := x.IsNumber ∨ x = .nan nanMark

theorem inJson_of_readWord {cs rest : List Char} {v : Value} (read : readWord cs = some (v, rest)) :
    v.InJson IsRead := by
  have all : ∀ e ∈ words, e.2.InJson IsRead := by
    simp only [words, List.forall_mem_cons]
    exact ⟨.null, .bool true, .bool false, .float (.inr rfl), .float (.inl trivial),
      .float (.inl trivial), List.forall_mem_nil _⟩
  obtain ⟨e, member, found⟩ := List.exists_of_findSome?_eq_some read
  obtain ⟨_, same⟩ := Option.ite_none_right_eq_some.mp found
  obtain ⟨rfl, _⟩ := Prod.mk.inj (Option.some.inj same)
  exact all e member

theorem inJson_of_readNumber {negative : Bool} {cs rest : List Char} {v : Value}
    (read : readNumber negative cs = some (v, rest)) : v.InJson IsRead := by
  have either (n : Numeral) {after : List Char} (found :
      (if n.isInteger then some (.int n.integer, after)
        else some (.atom (.float (.ofNumeral n)), after)) = some (v, rest)) : v.InJson IsRead := by
    split at found
    · obtain ⟨rfl, _⟩ := Prod.mk.inj (Option.some.inj found)
      exact .int _
    · obtain ⟨rfl, _⟩ := Prod.mk.inj (Option.some.inj found)
      exact .float (.inl (Double.isNumber_ofDecimal ..))
  obtain ⟨_, found⟩ := Option.ite_none_left_eq_some.mp read
  exact either _ found

/-- What the three readers give that may take a number of steps. -/
structure Gives (fuel : Nat) : Prop where
  value : ∀ {cs v rest}, readValue fuel cs = some (v, rest) → v.InJson IsRead
  items : ∀ {cs items rest}, readItems fuel cs = some (items, rest) →
    ∀ v ∈ items, v.InJson IsRead
  entries : ∀ {cs entries rest}, readEntries fuel cs = some (entries, rest) →
    ∀ e ∈ entries, (∃ s, e.1 = .str s) ∧ e.2.InJson IsRead

namespace Gives

variable {fuel : Nat} {cs rest : List Char}

theorem readValue_succ (gives : Gives fuel) {v : Value}
    (read : readValue (fuel + 1) cs = some (v, rest)) : v.InJson IsRead := by
  unfold readValue at read
  split at read
  · obtain ⟨_, _, read⟩ := Option.bind_eq_some_iff.mp read
    cases read
    exact .str _
  · split at read
    · cases read
      exact .list (List.forall_mem_nil _)
    · obtain ⟨⟨items, _⟩, inside, read⟩ := Option.bind_eq_some_iff.mp read
      cases read
      exact .list (gives.items inside)
  · split at read
    · cases read
      exact .map (List.forall_mem_nil _) .nil (List.forall_mem_nil _)
    · obtain ⟨⟨entries, _⟩, inside, read⟩ := Option.bind_eq_some_iff.mp read
      cases read
      exact Value.inJson_ofEntries (gives.entries inside)
  · split at read
    · cases read
      exact inJson_of_readWord ‹_›
    · exact inJson_of_readNumber read
    · exact inJson_of_readNumber read

theorem readItems_succ (gives : Gives fuel) {items : List Value}
    (read : readItems (fuel + 1) cs = some (items, rest)) : ∀ v ∈ items, v.InJson IsRead := by
  rw [readItems] at read
  obtain ⟨⟨v, after⟩, first, read⟩ := Option.bind_eq_some_iff.mp read
  dsimp only at read
  split at read
  · cases read
    exact List.forall_mem_singleton.mpr (gives.value first)
  · obtain ⟨⟨others, _⟩, later, read⟩ := Option.bind_eq_some_iff.mp read
    cases read
    exact List.forall_mem_cons.mpr ⟨gives.value first, gives.items later⟩
  · cases read

theorem readEntries_succ (gives : Gives fuel) {entries : List (Value × Value)}
    (read : readEntries (fuel + 1) cs = some (entries, rest)) :
    ∀ e ∈ entries, (∃ s, e.1 = .str s) ∧ e.2.InJson IsRead := by
  unfold readEntries at read
  split at read
  · obtain ⟨⟨key, after⟩, _, read⟩ := Option.bind_eq_some_iff.mp read
    dsimp only at read
    split at read
    · obtain ⟨⟨v, after⟩, first, read⟩ := Option.bind_eq_some_iff.mp read
      have entry : (∃ s, Value.str (String.ofList key) = .str s) ∧ v.InJson IsRead :=
        ⟨⟨_, rfl⟩, gives.value first⟩
      dsimp only at read
      split at read
      · cases read
        exact List.forall_mem_singleton.mpr entry
      · obtain ⟨⟨others, _⟩, later, read⟩ := Option.bind_eq_some_iff.mp read
        cases read
        exact List.forall_mem_cons.mpr ⟨entry, gives.entries later⟩
      · cases read
    · cases read
  · cases read

end Gives

theorem gives (fuel : Nat) : Gives fuel := by
  induction fuel with
  | zero => exact ⟨nofun, nofun, nofun⟩
  | succ fuel ih => exact ⟨ih.readValue_succ, ih.readItems_succ, ih.readEntries_succ⟩

/-- **Whatever is read from a document is a value that JSON can hold.** -/
theorem inJson_of_read {text : String} {v : Value} (read : Json.read text = some v) :
    v.InJson IsRead := by
  unfold Json.read at read
  dsimp only at read
  split at read
  · obtain ⟨_, same⟩ := Option.ite_none_right_eq_some.mp read
    obtain rfl := Option.some.inj same
    exact (gives _).value ‹_›
  · cases read

end Json

end Rulebook
