import Mathlib.Data.List.Induction
import Rulebook.Report.Failures
import Rulebook.Proofs.Compiler.Derivation

/-!
Reports grouped by name. Main statements:
* `sameKey_iff_eq`: as keys, names are told apart exactly as values;
* `foldl_extend_eq_grouped`: adding items name by name gives every name once, where it first stands,
  with all its items in order;
* `grouped_append`: two groups of contributions in a row give the two reports joined.
-/

namespace Rulebook

/-! ## Names as keys -/

theorem Exact.compareAbs_ofInt_eq_iff (a b : Int) :
    (Exact.ofInt a).compareAbs (Exact.ofInt b) = .eq ↔ a.natAbs = b.natAbs := by
  unfold Exact.compareAbs Exact.ofInt
  split
  · exact Nat.compare_eq_eq
  · simp only [Ordering.then_eq_eq, Int.min_self, Int.sub_self, Int.natAbs_zero]
    constructor
    · rintro ⟨_, lifted⟩
      simpa using lifted
    · intro same
      simp [same]

theorem Exact.isNegative_ofInt (a : Int) : (Exact.ofInt a).isNegative = decide (a < 0) := by
  unfold Exact.isNegative Exact.ofInt
  by_cases below : a < 0
  · have nonzero : a.natAbs ≠ 0 := by omega
    simp [below, nonzero]
  · simp [below]

theorem Exact.compareValue_ofInt_eq_iff (a b : Int) :
    (Exact.ofInt a).compareValue (Exact.ofInt b) = .eq ↔ a = b := by
  unfold Exact.compareValue
  rw [Exact.isNegative_ofInt, Exact.isNegative_ofInt]
  by_cases ha : a < 0 <;> by_cases hb : b < 0 <;>
    simp only [ha, hb, decide_true, decide_false, Exact.compareAbs_ofInt_eq_iff, reduceCtorEq,
      false_iff] <;>
    omega

namespace Value

theorem sameKey_int (a b : Int) : (Value.int a).sameKey (.int b) = decide (a = b) := by
  have same := Exact.compareValue_ofInt_eq_iff a b
  simp [sameKey, Value.same, sameOccurrence, Atom.sameOccurrence, equal, Atom.equal,
    Atom.quantity?, Quantity.equal, Quantity.isSignaling, Quantity.compare?, isYes, same]

theorem eq_of_isName {v : Value} (named : v.isName true = true) :
    v = .null ∨ (∃ s, v = .str s) ∨ ∃ n, v = .int n := by
  unfold isName at named
  split at named
  · exact .inr (.inl ⟨_, rfl⟩)
  · exact .inr (.inr ⟨_, rfl⟩)
  · exact .inl rfl
  · cases named

/-- Names are the same key of a map exactly if they are the same name. -/
theorem sameKey_iff_eq {n m : Value} (hn : n.isName true = true) (hm : m.isName true = true) :
    n.sameKey m = true ↔ n = m := by
  rcases eq_of_isName hn with rfl | ⟨a, rfl⟩ | ⟨a, rfl⟩ <;>
    rcases eq_of_isName hm with rfl | ⟨b, rfl⟩ | ⟨b, rfl⟩
  case inr.inr.inr.inr => simp [sameKey_int]
  all_goals
    simp [sameKey, Value.same, sameOccurrence, Atom.sameOccurrence, equal, Atom.equal,
      Atom.quantity?, Atom.equalPlain, isYes]

theorem sameKey_str (a b : String) : (Value.str a).sameKey (.str b) = decide (a = b) := by
  rw [Bool.eq_iff_iff, sameKey_iff_eq rfl rfl]
  simp

theorem sameKey_self {n : Value} (named : n.isName true = true) : n.sameKey n = true :=
  (sameKey_iff_eq named named).mpr rfl

theorem isKey_of_isName {v : Value} (named : v.isName true = true) : v.isKey = true := by
  rcases eq_of_isName named with rfl | ⟨_, rfl⟩ | ⟨_, rfl⟩ <;> rfl

section

variable {found : List (Value × Value)} (keys : ∀ e ∈ found, ∃ s, e.1 = .str s)

include keys

/-- A value is put under a string in the place of the one that is there, or else behind the others. -/
theorem put_str_cases (s : String) (v : Value) :
    (∃ before old after, found = before ++ (.str s, old) :: after ∧
        put (.str s) v found = before ++ (.str s, v) :: after) ∨
      .str s ∉ found.map (·.1) ∧ put (.str s) v found = found ++ [(.str s, v)] := by
  induction found with
  | nil => exact .inr ⟨List.not_mem_nil, rfl⟩
  | cons first rest ih =>
    obtain ⟨⟨t, key⟩, others⟩ := List.forall_mem_cons.mp keys
    obtain ⟨l, w⟩ := first
    cases key
    rw [put, sameKey_str]
    by_cases same : s = t
    · subst same
      rw [if_pos (decide_eq_true rfl)]
      exact .inl ⟨[], w, rest, rfl, rfl⟩
    · rw [if_neg (by simpa using same)]
      rcases ih others with ⟨before, old, after, found, put⟩ | ⟨absent, put⟩
      · refine .inl ⟨(.str t, w) :: before, old, after, ?_, ?_⟩
        · rw [found, List.cons_append]
        · rw [put, List.cons_append]
      · refine .inr ⟨?_, by rw [put, List.cons_append]⟩
        rw [List.map_cons, List.mem_cons, not_or]
        exact ⟨fun equal => same (Atom.str.inj (Value.atom.inj equal)), absent⟩

theorem mem_put_str {s : String} {v : Value} {e : Value × Value}
    (member : e ∈ put (.str s) v found) : e = (.str s, v) ∨ e ∈ found := by
  rcases put_str_cases keys s v with ⟨before, old, after, split, put⟩ | ⟨_, put⟩
  · rw [put, List.mem_append, List.mem_cons] at member
    rw [split, List.mem_append, List.mem_cons]
    tauto
  · rw [put, List.mem_append, List.mem_singleton] at member
    exact member.symm

/-- Keys that differ still do when something is put under a string. -/
theorem nodup_put_str (nodup : (found.map (·.1)).Nodup) (s : String) (v : Value) :
    ((put (.str s) v found).map (·.1)).Nodup := by
  rcases put_str_cases keys s v with ⟨before, old, after, split, put⟩ | ⟨absent, put⟩
  · rw [put, List.map_append, List.map_cons]
    rwa [split, List.map_append, List.map_cons] at nodup
  · rw [put, List.map_append, List.map_singleton, List.nodup_append]
    refine ⟨nodup, List.pairwise_singleton _ _, fun k known l member same => absent ?_⟩
    rw [same, List.mem_singleton.mp member] at known
    exact known

end

end Value

/-- The names that differ, each where it first stands. -/
def distinctNames (names : List Value) : List Value :=
  names.foldl (fun found n => if found.any n.sameKey then found else found ++ [n]) []

theorem distinctNames_append_singleton (names : List Value) (n : Value) :
    distinctNames (names ++ [n]) =
      if (distinctNames names).any n.sameKey then distinctNames names
      else distinctNames names ++ [n] := by
  simp [distinctNames]

/-- All of these are names. -/
def AreNames (names : List Value) : Prop := ∀ n ∈ names, n.isName true = true

theorem AreNames.head {n : Value} {rest : List Value} (named : AreNames (n :: rest)) :
    n.isName true = true :=
  named n (List.mem_cons_self ..)

theorem AreNames.tail {n : Value} {rest : List Value} (named : AreNames (n :: rest)) :
    AreNames rest :=
  fun m member => named m (List.mem_cons_of_mem _ member)

theorem AreNames.of_append_left {names others : List Value} (named : AreNames (names ++ others)) :
    AreNames names :=
  fun n member => named n (List.mem_append_left _ member)

theorem AreNames.of_append_right {names others : List Value} (named : AreNames (names ++ others)) :
    AreNames others :=
  fun n member => named n (List.mem_append_right _ member)

theorem AreNames.of_concat {names : List Value} {m : Value} (named : AreNames (names ++ [m])) :
    m.isName true = true :=
  named.of_append_right.head

theorem any_sameKey_iff {names : List Value} (named : AreNames names) {n : Value}
    (name : n.isName true = true) : names.any n.sameKey = true ↔ n ∈ names := by
  rw [List.any_eq_true]
  constructor
  · rintro ⟨m, member, same⟩
    rw [(Value.sameKey_iff_eq name (named m member)).mp same]
    exact member
  · intro member
    exact ⟨n, member, Value.sameKey_self name⟩

theorem mem_of_mem_distinctNames {names : List Value} {n : Value}
    (member : n ∈ distinctNames names) : n ∈ names := by
  induction names using List.reverseRecOn with
  | nil => cases member
  | append_singleton names m ih =>
    rw [distinctNames_append_singleton] at member
    split at member
    · exact List.mem_append_left _ (ih member)
    · rcases List.mem_append.mp member with member | last
      · exact List.mem_append_left _ (ih member)
      · exact List.mem_append_right _ last

theorem AreNames.distinctNames {names : List Value} (named : AreNames names) :
    AreNames (distinctNames names) :=
  fun n member => named n (mem_of_mem_distinctNames member)

theorem mem_distinctNames_iff {names : List Value} (named : AreNames names) {n : Value} :
    n ∈ distinctNames names ↔ n ∈ names := by
  refine ⟨mem_of_mem_distinctNames, fun member => ?_⟩
  induction names using List.reverseRecOn with
  | nil => cases member
  | append_singleton names m ih =>
    have earlier := named.of_append_left
    rw [distinctNames_append_singleton]
    rcases List.mem_append.mp member with member | last
    · split
      · exact ih earlier member
      · exact List.mem_append_left _ (ih earlier member)
    · cases List.mem_singleton.mp last
      split
      · rename_i known
        exact (any_sameKey_iff earlier.distinctNames named.of_concat).mp known
      · exact List.mem_append_right _ last

theorem any_sameKey_distinctNames_iff {names : List Value} (named : AreNames names) {n : Value}
    (name : n.isName true = true) : (distinctNames names).any n.sameKey = true ↔ n ∈ names := by
  rw [any_sameKey_iff named.distinctNames name, mem_distinctNames_iff named]

theorem distinctNames_concat_of_mem {names : List Value} {m : Value}
    (named : AreNames (names ++ [m])) (known : m ∈ names) :
    distinctNames (names ++ [m]) = distinctNames names := by
  have found := any_sameKey_distinctNames_iff named.of_append_left named.of_concat
  rw [distinctNames_append_singleton, if_pos (found.mpr known)]

theorem distinctNames_concat_of_not_mem {names : List Value} {m : Value}
    (named : AreNames (names ++ [m])) (new : m ∉ names) :
    distinctNames (names ++ [m]) = distinctNames names ++ [m] := by
  have found := any_sameKey_distinctNames_iff named.of_append_left named.of_concat
  rw [distinctNames_append_singleton, if_neg (mt found.mp new)]

theorem nodup_distinctNames {names : List Value} (named : AreNames names) :
    (distinctNames names).Nodup := by
  induction names using List.reverseRecOn with
  | nil => exact .nil
  | append_singleton names m ih =>
    have earlier := named.of_append_left
    by_cases known : m ∈ names
    · rw [distinctNames_concat_of_mem named known]
      exact ih earlier
    · rw [distinctNames_concat_of_not_mem named known, List.nodup_append]
      refine ⟨ih earlier, List.pairwise_singleton _ m, fun n member m' last same => known ?_⟩
      rw [← List.mem_singleton.mp last, ← same]
      exact mem_of_mem_distinctNames member

/-- Of two lists of names in a row, the second one adds the names that the first one lacks. -/
theorem distinctNames_append {names others : List Value} (named : AreNames (names ++ others)) :
    distinctNames (names ++ others) =
      distinctNames names ++
        (distinctNames others).filter fun n => !(distinctNames names).any n.sameKey := by
  induction others using List.reverseRecOn with
  | nil => simp [distinctNames]
  | append_singleton others m ih =>
    have right := named.of_append_right
    rw [← List.append_assoc] at named ⊢
    have earlier := named.of_append_left
    have lacks := any_sameKey_distinctNames_iff earlier.of_append_left named.of_concat
    by_cases second : m ∈ others
    · rw [distinctNames_concat_of_mem named (List.mem_append_right _ second), ih earlier,
        distinctNames_concat_of_mem right second]
    · rw [distinctNames_concat_of_not_mem right second, List.filter_append, ← List.append_assoc,
        ← ih earlier]
      by_cases first : m ∈ names
      · rw [distinctNames_concat_of_mem named (List.mem_append_left _ first)]
        simp [lacks.mpr first]
      · have new : m ∉ names ++ others := fun h => (List.mem_append.mp h).elim first second
        have missing := Bool.eq_false_iff.mpr fun h => first (lacks.mp h)
        rw [distinctNames_concat_of_not_mem named new]
        simp [missing]

/-! ## Grouping -/

namespace Fields

variable {α : Type}

/-- All items under a name, in order. -/
def under (fields : Fields α) (name : Value) : List (Report α) :=
  (fields.filter fun f => name.sameKey f.1).flatMap (·.2)

/-- Every name once, where it first stands, with all its items in order. -/
def grouped (parts : Fields α) : Fields α :=
  (distinctNames (parts.map (·.1))).map fun name => (name, parts.under name)

/-- Two reports in one: under every name what the first one says and then what the second one says,
and at the end the names that only the second one has. -/
def joined (a b : Fields α) : Fields α :=
  a.map (fun f => (f.1, f.2 ++ b.under f.1)) ++ b.filter fun f => !(a.map (·.1)).any f.1.sameKey

theorem under_append (a b : Fields α) (name : Value) :
    under (a ++ b) name = under a name ++ under b name := by
  simp [under]

theorem under_singleton (key name : Value) (items : List (Report α)) :
    under [(key, items)] name = if name.sameKey key then items else [] := by
  unfold under
  cases same : name.sameKey key <;> simp [same]

theorem under_eq_nil {fields : Fields α} (named : AreNames (fields.map (·.1))) {name : Value}
    (isName : name.isName true = true) (absent : name ∉ fields.map (·.1)) :
    fields.under name = [] := by
  unfold under
  rw [List.flatMap_eq_nil_iff]
  intro f member
  obtain ⟨inside, same⟩ := List.mem_filter.mp member
  have known : f.1 ∈ fields.map (·.1) := List.mem_map_of_mem inside
  rw [(Value.sameKey_iff_eq isName (named _ known)).mp same] at absent
  exact absurd known absent

/-- Items are added to the field of their name or, if there is none, in a new one. -/
theorem extend_map {names : List Value} (named : AreNames names) (nodup : names.Nodup) {key : Value}
    (isName : key.isName true = true) (F : Value → List (Report α)) (items : List (Report α)) :
    extend key items (names.map fun n => (n, F n)) =
      names.map (fun n => (n, F n ++ if n.sameKey key then items else [])) ++
        if names.any key.sameKey then [] else [(key, items)] := by
  induction names with
  | nil => rfl
  | cons n rest ih =>
    have first := named.head
    have others := named.tail
    obtain ⟨new, nodup⟩ := List.nodup_cons.mp nodup
    rw [List.map_cons, extend]
    by_cases same : key = n
    · subst same
      have own := Value.sameKey_self isName
      have unchanged : ∀ m ∈ rest,
          (m, F m ++ if m.sameKey key then items else []) = (m, F m) := by
        intro m member
        have different : ¬ m.sameKey key = true := fun h =>
          new ((Value.sameKey_iff_eq (others m member) isName).mp h ▸ member)
        simp [different]
      simp [own, List.map_congr_left unchanged]
    · have different : ¬ key.sameKey n = true := fun h =>
        same ((Value.sameKey_iff_eq isName first).mp h)
      have different' : ¬ n.sameKey key = true := fun h =>
        same ((Value.sameKey_iff_eq first isName).mp h).symm
      simp [different, different', ih others nodup]

theorem extend_grouped {parts : Fields α} (named : AreNames (parts.map (·.1))) {key : Value}
    (isName : key.isName true = true) (items : List (Report α)) :
    extend key items (grouped parts) = grouped (parts ++ [(key, items)]) := by
  have distinct := named.distinctNames
  unfold grouped
  rw [extend_map distinct (nodup_distinctNames named) isName, List.map_append, List.map_singleton,
    distinctNames_append_singleton]
  simp only [under_append, under_singleton]
  split
  · rw [List.append_nil]
  · rename_i new
    rw [any_sameKey_distinctNames_iff named isName] at new
    have own := Value.sameKey_self isName
    simp [under_eq_nil named isName new, own]

theorem foldl_extend_eq_grouped {parts : Fields α} (named : AreNames (parts.map (·.1))) :
    parts.foldl (fun found p => extend p.1 p.2 found) [] = grouped parts := by
  induction parts using List.reverseRecOn with
  | nil => rfl
  | append_singleton parts p ih =>
    rw [List.map_append] at named
    have earlier := named.of_append_left
    have isName : p.1.isName true = true := named.of_concat
    rw [List.foldl_append, ih earlier]
    exact extend_grouped earlier isName p.2

theorem keys_map (names : List Value) (F : Value → List (Report α)) :
    (names.map fun n => (n, F n)).map (·.1) = names := by
  simp [Function.comp_def]

theorem under_map {names : List Value} (named : AreNames names) (nodup : names.Nodup)
    (F : Value → List (Report α)) {name : Value} (member : name ∈ names) :
    under (names.map fun n => (n, F n)) name = F name := by
  induction names with
  | nil => cases member
  | cons n rest ih =>
    have first := named.head
    have others := named.tail
    obtain ⟨new, nodup⟩ := List.nodup_cons.mp nodup
    have split : under ((n :: rest).map fun n => (n, F n)) name =
        under [(n, F n)] name ++ under (rest.map fun n => (n, F n)) name :=
      under_append [(n, F n)] _ name
    rw [split, under_singleton]
    rcases List.mem_cons.mp member with rfl | inside
    · have none : under (rest.map fun n => (n, F n)) name = [] :=
        under_eq_nil ((keys_map rest F).symm ▸ others) first ((keys_map rest F).symm ▸ new)
      rw [none, if_pos (Value.sameKey_self first), List.append_nil]
    · have different : ¬ name.sameKey n = true := fun same =>
        new ((Value.sameKey_iff_eq (others name inside) first).mp same ▸ inside)
      rw [if_neg different, ih others nodup inside, List.nil_append]

theorem under_grouped {parts : Fields α} (named : AreNames (parts.map (·.1))) {name : Value}
    (isName : name.isName true = true) : (grouped parts).under name = parts.under name := by
  have keys : (grouped parts).map (·.1) = distinctNames (parts.map (·.1)) := keys_map ..
  by_cases known : name ∈ distinctNames (parts.map (·.1))
  · exact under_map named.distinctNames (nodup_distinctNames named) parts.under known
  · have absent : name ∉ parts.map (·.1) := fun h => known ((mem_distinctNames_iff named).mpr h)
    rw [under_eq_nil named isName absent]
    exact under_eq_nil (keys ▸ named.distinctNames) isName (keys ▸ known)

theorem grouped_append {a b : Fields α} (named : AreNames ((a ++ b).map (·.1))) :
    grouped (a ++ b) = (grouped a).joined (grouped b) := by
  rw [List.map_append] at named
  have left := named.of_append_left
  have right := named.of_append_right
  have keys : (grouped a).map (·.1) = distinctNames (a.map (·.1)) := keys_map ..
  rw [joined, keys]
  unfold grouped
  rw [List.map_append, distinctNames_append named, List.map_append, List.map_map, List.filter_map]
  congr 1
  · refine List.map_congr_left fun n member => ?_
    have found := under_grouped right (left.distinctNames n member)
    rw [under_append, ← found]
    rfl
  · refine List.map_congr_left fun n member => ?_
    obtain ⟨inside, lacking⟩ := List.mem_filter.mp member
    have isName := right.distinctNames n inside
    have absent : n ∉ a.map (·.1) := by
      rw [← any_sameKey_distinctNames_iff left isName]
      simpa using lacking
    rw [under_append, under_eq_nil left isName absent, List.nil_append]

theorem extend_new {fields : Fields α} {key : Value} (items : List (Report α))
    (new : ∀ f ∈ fields, ¬ key.sameKey f.1 = true) :
    extend key items fields = fields ++ [(key, items)] := by
  induction fields with
  | nil => rfl
  | cons f rest ih =>
    have others := ih fun g member => new g (List.mem_cons_of_mem _ member)
    rw [extend, if_neg (new f (List.mem_cons_self ..)), others, List.cons_append]

/-- Different names are grouped already. -/
theorem grouped_eq_self {parts : Fields α} (named : AreNames (parts.map (·.1)))
    (nodup : (parts.map (·.1)).Nodup) : grouped parts = parts := by
  induction parts using List.reverseRecOn with
  | nil => rfl
  | append_singleton parts p ih =>
    rw [List.map_append, List.nodup_append] at nodup
    obtain ⟨nodup, -, apart⟩ := nodup
    rw [List.map_append] at named
    have earlier := named.of_append_left
    have isName : p.1.isName true = true := named.of_concat
    have step : grouped (parts ++ [p]) = extend p.1 p.2 (grouped parts) :=
      (extend_grouped earlier isName p.2).symm
    rw [step, ih earlier nodup]
    refine extend_new p.2 fun f member same => ?_
    have known : f.1 ∈ parts.map (·.1) := List.mem_map_of_mem member
    have equal := (Value.sameKey_iff_eq isName (earlier _ known)).mp same
    exact apart f.1 known p.1 (by simp) equal.symm

end Fields

end Rulebook
