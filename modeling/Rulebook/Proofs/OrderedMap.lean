import Mathlib.Data.List.Induction
import Mathlib.Data.List.Nodup
import Rulebook.OrderedMap

/-!
Maps put together. Main statements:
* `get?_putAll`: a key finds the last entry that was put under it, or what it found before;
* `keys_ofList`: keys stand in the order in which entries were first put under them;
* `ext_get?`: a map is known by its keys in their order and what they find;
* `get?_merge`, `keys_merge`: what a merged map finds, and in which order its keys stand;
* `merge_assoc`, `empty_merge`, `merge_empty`, `merge_self`: merging is associative, has the empty
  map as its identity and keeps a map that is merged with itself.
-/

namespace Rulebook.OrderedMap

variable {α β : Type} [DecidableEq α]

/-! ## Entries under different keys -/

theorem lookup_eq_some_iff_mem {entries : List (α × β)} (different : (entries.map (·.1)).Nodup)
    {k : α} {v : β} : entries.lookup k = some v ↔ (k, v) ∈ entries := by
  induction entries with
  | nil => simp
  | cons e rest ih =>
    obtain ⟨l, w⟩ := e
    obtain ⟨new, different⟩ := List.nodup_cons.mp different
    rw [List.lookup_cons, List.mem_cons, Prod.mk.injEq]
    by_cases here : k = l
    · subst here
      have elsewhere : (k, v) ∉ rest := fun member => new (List.mem_map.mpr ⟨_, member, rfl⟩)
      simp [elsewhere, eq_comm]
    · rw [beq_false_of_ne here]
      simp [here, ih different]

theorem lookup_reverse {entries : List (α × β)} (different : (entries.map (·.1)).Nodup) (k : α) :
    entries.reverse.lookup k = entries.lookup k := by
  have different' : (entries.reverse.map (·.1)).Nodup := by
    rwa [List.map_reverse, List.nodup_reverse]
  ext v
  rw [lookup_eq_some_iff_mem different', lookup_eq_some_iff_mem different, List.mem_reverse]

/-- Entries can be read off the keys. -/
theorem entries_eq_filterMap {entries : List (α × β)} (different : (entries.map (·.1)).Nodup) :
    entries = (entries.map (·.1)).filterMap fun k => (entries.lookup k).map (k, ·) := by
  induction entries with
  | nil => rfl
  | cons e rest ih =>
    obtain ⟨l, w⟩ := e
    obtain ⟨new, different⟩ := List.nodup_cons.mp different
    have others : (rest.map (·.1)).filterMap (fun k => (((l, w) :: rest).lookup k).map (k, ·)) =
        (rest.map (·.1)).filterMap fun k => (rest.lookup k).map (k, ·) := by
      refine List.filterMap_congr fun k member => ?_
      have other : k ≠ l := fun same => new (same ▸ member)
      rw [List.lookup_cons, beq_false_of_ne other]
    rw [List.map_cons, List.filterMap_cons_some (by rw [List.lookup_cons_self]; rfl), others,
      ← ih different]

theorem ext_get? {a b : OrderedMap α β} (keys : a.keys = b.keys)
    (found : ∀ k, a.get? k = b.get? k) : a = b := by
  obtain ⟨entries, different⟩ := a
  obtain ⟨entries', different'⟩ := b
  have same : entries = entries' := by
    rw [entries_eq_filterMap different, entries_eq_filterMap different']
    change entries.map (·.1) = entries'.map (·.1) at keys
    rw [keys]
    refine List.filterMap_congr fun k _ => ?_
    have foundHere : entries.lookup k = entries'.lookup k := found k
    rw [foundHere]
  subst same
  rfl

theorem isSome_get?_iff {m : OrderedMap α β} {k : α} :
    (m.get? k).isSome = true ↔ k ∈ m.keys := by
  rw [get?, List.lookup_isSome_iff, keys, List.mem_map]
  simp only [beq_iff_eq, eq_comm (a := k)]

/-! ## Putting entries one after another -/

theorem get?_putAll (m : OrderedMap α β) (entries : List (α × β)) (k : α) :
    (m.putAll entries).get? k = (entries.reverse.lookup k).or (m.get? k) := by
  induction entries generalizing m with
  | nil => rfl
  | cons e rest ih =>
    obtain ⟨l, w⟩ := e
    have step : m.putAll ((l, w) :: rest) = (m.put l w).putAll rest := rfl
    rw [step, ih, get?_put, List.reverse_cons, List.lookup_append, Option.or_assoc]
    by_cases here : k = l
    · subst here
      rw [if_pos rfl, List.lookup_cons_self, Option.some_or]
    · rw [if_neg here, List.lookup_cons, beq_false_of_ne here]
      rfl

theorem get?_ofList (entries : List (α × β)) (k : α) :
    (ofList entries).get? k = entries.reverse.lookup k := by
  rw [ofList, get?_putAll]
  exact Option.or_none ..

theorem eraseDups_concat (l : List α) (a : α) :
    (l ++ [a]).eraseDups = if a ∈ l then l.eraseDups else l.eraseDups ++ [a] := by
  rw [List.eraseDups_append]
  by_cases known : a ∈ l <;> simp [known, List.removeAll, List.eraseDups_cons]

theorem keys_ofList (entries : List (α × β)) :
    (ofList entries).keys = (entries.map (·.1)).eraseDups := by
  induction entries using List.reverseRecOn with
  | nil => rfl
  | append_singleton earlier e ih =>
    have step : ofList (earlier ++ [e]) = (ofList earlier).put e.1 e.2 := List.foldl_concat ..
    rw [step, keys_put, ih, List.map_append, List.map_singleton, eraseDups_concat]
    simp only [List.mem_eraseDups]

theorem keys_putAll (m : OrderedMap α β) {entries : List (α × β)}
    (different : (entries.map (·.1)).Nodup) :
    (m.putAll entries).keys = m.keys ++ (entries.map (·.1)).filter (· ∉ m.keys) := by
  induction entries generalizing m with
  | nil => exact (List.append_nil _).symm
  | cons e rest ih =>
    obtain ⟨new, different⟩ := List.nodup_cons.mp different
    have step : m.putAll (e :: rest) = (m.put e.1 e.2).putAll rest := rfl
    rw [step, ih _ different, keys_put]
    by_cases known : e.1 ∈ m.keys
    · simp [known]
    · -- The new key stands at the end, and no later entry has it.
      have unmet : (rest.map (·.1)).filter (· ∉ m.keys ++ [e.1]) =
          (rest.map (·.1)).filter (· ∉ m.keys) := by
        refine List.filter_congr fun k member => ?_
        have other : k ≠ e.1 := by
          rintro rfl
          exact new member
        simp [other]
      simp only [known, if_false, unmet, List.map_cons, not_false_eq_true, decide_true,
        List.filter_cons_of_pos, List.append_assoc, List.singleton_append]

theorem get?_merge (a b : OrderedMap α β) (k : α) :
    (a.merge b).get? k = (b.get? k).or (a.get? k) := by
  rw [merge, get?_putAll, lookup_reverse b.nodup]
  rfl

theorem keys_merge (a b : OrderedMap α β) :
    (a.merge b).keys = a.keys ++ b.keys.filter (· ∉ a.keys) :=
  keys_putAll a b.nodup

theorem merge_assoc (a b c : OrderedMap α β) : (a.merge b).merge c = a.merge (b.merge c) := by
  refine ext_get? ?_ fun k => ?_
  · simp only [keys_merge, List.filter_append, List.filter_filter, List.append_assoc]
    congr 2
    refine List.filter_congr fun k _ => ?_
    by_cases inA : k ∈ a.keys <;> by_cases inB : k ∈ b.keys <;> simp [inA, inB]
  · simp only [get?_merge, Option.or_assoc]

theorem empty_merge (a : OrderedMap α β) : empty.merge a = a := by
  refine ext_get? ?_ fun k => ?_
  · rw [keys_merge]
    simp [empty, keys]
  · rw [get?_merge]
    exact Option.or_none ..

theorem merge_empty (a : OrderedMap α β) : a.merge empty = a := rfl

theorem merge_self (a : OrderedMap α β) : a.merge a = a := by
  refine ext_get? ?_ fun k => ?_
  · simp [keys_merge]
  · rw [get?_merge]
    cases a.get? k <;> rfl

end Rulebook.OrderedMap
