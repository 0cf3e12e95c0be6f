import Rulebook.Rule.Compiler
import Rulebook.Proofs.Outcome

/-!
Where the standard tests break off. Main statements:
* `fault_of_equal`, `fault_of_compares`: comparing values is refused only if a NaN and a decimal
  meet, and otherwise only for values without an order;
* `breaksOff_of_holds`: an argument that the test takes leaves three ways to break off;
* `BreaksOff.of_inside`: what breaks off about a part of a value would do so about the whole.
-/

namespace Rulebook

/-- Whether an atom is a number without a value. -/
def Atom.isNaN : Atom → Bool
  | .float (.nan _) => true
  | .decimal (.nan _ _ _ _) => true
  | _ => false

namespace Value

/-- A value occurs in another one: it is that value, or occurs in an item, a member, a key or what
stands under one. -/
inductive Inside : Value → Value → Prop where
  | self {v : Value} : Inside v v
  | item {u v : Value} {kind : SeqKind} {items : List Value} (here : v ∈ items)
      (inner : Inside u v) : Inside u (.seq kind items)
  | member {u v : Value} {kind : SetKind} {members : List Value} (here : v ∈ members)
      (inner : Inside u v) : Inside u (.set kind members)
  | key {u : Value} {e : Value × Value} {entries : List (Value × Value)} (here : e ∈ entries)
      (inner : Inside u e.1) : Inside u (.map entries)
  | entry {u : Value} {e : Value × Value} {entries : List (Value × Value)} (here : e ∈ entries)
      (inner : Inside u e.2) : Inside u (.map entries)

theorem Inside.trans {u v w : Value} (inner : u.Inside v) (outer : v.Inside w) : u.Inside w := by
  induction outer with
  | self => exact inner
  | item here _ ih => exact .item here ih
  | member here _ ih => exact .member here ih
  | key here _ ih => exact .key here ih
  | entry here _ ih => exact .entry here ih

theorem eq_of_inside_atom {u : Value} {a : Atom} (inner : u.Inside (.atom a)) : u = .atom a := by
  cases inner
  rfl

/-- A NaN and a decimal occur in two values, both in one of them or one in each. -/
structure Clash (x y : Value) : Prop where
  nan : ∃ a : Atom, a.isNaN = true ∧ ((Value.atom a).Inside x ∨ (Value.atom a).Inside y)
  decimal : ∃ a : Atom, a.isDecimal = true ∧ ((Value.atom a).Inside x ∨ (Value.atom a).Inside y)

theorem Clash.mono {x y x' y' : Value} (clash : Clash x y)
    (wider : ∀ u : Value, u.Inside x ∨ u.Inside y → u.Inside x' ∨ u.Inside y') : Clash x' y' :=
  ⟨clash.nan.imp fun a found => found.imp_right (wider (.atom a)),
    clash.decimal.imp fun a found => found.imp_right (wider (.atom a))⟩

theorem Clash.of_inside {x y x' y' : Value} (clash : Clash x y) (left : x.Inside x')
    (right : y.Inside y') : Clash x' y' :=
  clash.mono fun _ found => found.imp (fun inner => inner.trans left) fun inner => inner.trans right

theorem Clash.symm {x y : Value} (clash : Clash x y) : Clash y x :=
  clash.mono fun _ found => found.symm

theorem Clash.of_absent {x : Value} (clash : Clash x .absent) (y : Value) : Clash x y := by
  obtain ⟨⟨a, isNaN, nan⟩, ⟨d, isDecimal, decimal⟩⟩ := clash
  refine ⟨⟨a, isNaN, nan.imp_right fun inner => ?_⟩,
    ⟨d, isDecimal, decimal.imp_right fun inner => ?_⟩⟩
  · cases eq_of_inside_atom inner
    cases isNaN
  · cases eq_of_inside_atom inner
    cases isDecimal

end Value

theorem Atom.isNaN_of_quantity? {a : Atom} {decimal signaling : Bool}
    (denoted : a.quantity? = some (.nan decimal signaling)) : a.isNaN = true := by
  cases a with
  | float x => cases x <;> simp_all [Atom.quantity?, Quantity.ofDouble, Atom.isNaN]
  | decimal d => cases d <;> simp_all [Atom.quantity?, Quantity.ofDecimal, Atom.isNaN]
  | _ => simp_all [Atom.quantity?]

/-- Only decimals are signaling. -/
theorem Atom.isDecimal_of_quantity? {a : Atom} {decimal : Bool}
    (denoted : a.quantity? = some (.nan decimal true)) : a.isDecimal = true := by
  cases a with
  | float x => cases x <;> simp_all [Atom.quantity?, Quantity.ofDouble]
  | decimal d => rfl
  | _ => simp_all [Atom.quantity?]

theorem Quantity.exists_nan_of_isSignaling {p : Quantity} (signaling : p.isSignaling = true) :
    ∃ decimal, p = .nan decimal true := by
  cases p with
  | nan decimal s => exact ⟨decimal, by rw [show s = true from signaling]⟩
  | _ => cases signaling

theorem Quantity.exists_nan_of_compare? {p q : Quantity} (unordered : p.compare? q = none) :
    ∃ decimal signaling, p = .nan decimal signaling ∨ q = .nan decimal signaling := by
  cases p with
  | nan decimal signaling => exact ⟨decimal, signaling, .inl rfl⟩
  | _ =>
    cases q with
    | nan decimal signaling => exact ⟨decimal, signaling, .inr rfl⟩
    | _ => cases unordered

open Value

theorem Atom.fault_of_equal {a b : Atom} {f : Fault} (broken : a.equal b = .error f) :
    f = .invalidOperation ∧ Clash (.atom a) (.atom b) := by
  unfold Atom.equal at broken
  split at broken
  · rename_i p q left right
    unfold Quantity.equal at broken
    split at broken
    · rename_i signaling
      cases broken
      rcases Bool.or_eq_true_iff.mp signaling with signaling | signaling
      all_goals obtain ⟨decimal, rfl⟩ := Quantity.exists_nan_of_isSignaling signaling
      · exact ⟨rfl, ⟨_, isNaN_of_quantity? left, .inl .self⟩,
          ⟨_, isDecimal_of_quantity? left, .inl .self⟩⟩
      · exact ⟨rfl, ⟨_, isNaN_of_quantity? right, .inr .self⟩,
          ⟨_, isDecimal_of_quantity? right, .inr .self⟩⟩
    · cases broken
  · cases broken

theorem Atom.fault_of_compares {c : Comparison} {a b : Atom} {f : Fault}
    (broken : a.compares c b = .error f) :
    f = .unsupported ∨ f = .invalidOperation ∧ Clash (.atom a) (.atom b) := by
  unfold Atom.compares at broken
  split at broken
  · rename_i p q left right
    split at broken
    · cases broken
    · rename_i unordered
      split at broken
      · rename_i decimal
        cases broken
        refine .inr ⟨rfl, ?_, ?_⟩
        · obtain ⟨_, _, rfl | rfl⟩ := Quantity.exists_nan_of_compare? unordered
          · exact ⟨_, isNaN_of_quantity? left, .inl .self⟩
          · exact ⟨_, isNaN_of_quantity? right, .inr .self⟩
        · rcases Bool.or_eq_true_iff.mp decimal with decimal | decimal
          · exact ⟨_, decimal, .inl .self⟩
          · exact ⟨_, decimal, .inr .self⟩
      · cases broken
  · split at broken
    · cases broken
    · cases broken
      exact .inl rfl

namespace Value

/-- Values of one occurrence are the same at once, so only a test of equality can be refused. -/
theorem fault_of_same_of_equal {x y : Value} {f : Fault}
    (equal : ∀ {f}, x.equal y = .error f → f = .invalidOperation ∧ Clash x y)
    (broken : x.same y = .error f) : f = .invalidOperation ∧ Clash x y := by
  unfold same at broken
  split at broken
  · cases broken
  · exact equal broken

theorem sameItems_cons (x y : Value) (xs ys : List Value) :
    sameItems (x :: xs) (y :: ys) = (do if ← x.same y then sameItems xs ys else .ok false) := by
  rw [sameItems, same]
  split <;> rfl

theorem sameEntries_cons (k v : Value) (rest ys : List (Value × Value)) :
    sameEntries ((k, v) :: rest) ys =
      match ys.find? fun e => k.sameOccurrence e.1 || isYes (k.equal e.1) with
      | none => .ok false
      | some (_, w) => (do if ← v.same w then sameEntries rest ys else .ok false) := by
  rw [sameEntries]
  cases ys.find? fun e => k.sameOccurrence e.1 || isYes (k.equal e.1) with
  | none => rfl
  | some e =>
    simp only [same]
    split <;> rfl

mutual

theorem fault_of_equal {x y : Value} {f : Fault} (broken : x.equal y = .error f) :
    f = .invalidOperation ∧ Clash x y := by
  unfold equal at broken
  split at broken
  · exact Atom.fault_of_equal broken
  · split at broken
    · obtain ⟨rfl, x, hx, y, hy, clash⟩ := fault_of_sameItems broken
      exact ⟨rfl, clash.of_inside (.item hx .self) (.item hy .self)⟩
    · cases broken
  · obtain ⟨rfl, x, hx, y, hy, clash⟩ := fault_of_sameItems broken
    exact ⟨rfl, clash.of_inside (.item hx .self) (.item hy .self)⟩
  · cases broken
  · split at broken
    · obtain ⟨rfl, e, he, d, hd, clash⟩ := fault_of_sameEntries broken
      exact ⟨rfl, clash.of_inside (.entry he .self) (.entry hd .self)⟩
    · cases broken
  · cases broken
termination_by sizeOf x

theorem fault_of_sameItems {xs ys : List Value} {f : Fault} (broken : sameItems xs ys = .error f) :
    f = .invalidOperation ∧ ∃ x ∈ xs, ∃ y ∈ ys, Clash x y := by
  match xs, ys with
  | [], [] | [], _ :: _ | _ :: _, [] => cases broken
  | x :: xs, y :: ys =>
    rw [sameItems_cons] at broken
    rcases bind_eq_error_iff.mp broken with here | ⟨same, _, later⟩
    · obtain ⟨rfl, clash⟩ := fault_of_same_of_equal fault_of_equal here
      exact ⟨rfl, x, List.mem_cons_self .., y, List.mem_cons_self .., clash⟩
    · cases same with
      | false => cases later
      | true =>
        obtain ⟨rfl, x', hx, y', hy, clash⟩ := fault_of_sameItems later
        exact ⟨rfl, x', List.mem_cons_of_mem _ hx, y', List.mem_cons_of_mem _ hy, clash⟩
termination_by sizeOf xs

theorem fault_of_sameEntries {xs ys : List (Value × Value)} {f : Fault}
    (broken : sameEntries xs ys = .error f) :
    f = .invalidOperation ∧ ∃ e ∈ xs, ∃ d ∈ ys, Clash e.2 d.2 := by
  match xs with
  | [] => cases broken
  | (k, v) :: rest =>
    rw [sameEntries_cons] at broken
    split at broken
    · cases broken
    · rename_i l w found
      have known := List.mem_of_find?_eq_some found
      rcases bind_eq_error_iff.mp broken with here | ⟨same, _, later⟩
      · obtain ⟨rfl, clash⟩ := fault_of_same_of_equal fault_of_equal here
        exact ⟨rfl, (k, v), List.mem_cons_self .., (l, w), known, clash⟩
      · cases same with
        | false => cases later
        | true =>
          obtain ⟨rfl, e, he, d, hd, clash⟩ := fault_of_sameEntries later
          exact ⟨rfl, e, List.mem_cons_of_mem _ he, d, hd, clash⟩
termination_by sizeOf xs

end

theorem fault_of_same {x y : Value} {f : Fault} (broken : x.same y = .error f) :
    f = .invalidOperation ∧ Clash x y :=
  fault_of_same_of_equal fault_of_equal broken

mutual

theorem fault_of_compares {c : Comparison} {x y : Value} {f : Fault}
    (broken : x.compares c y = .error f) :
    f = .unsupported ∨ f = .invalidOperation ∧ Clash x y := by
  unfold compares at broken
  split at broken
  · exact Atom.fault_of_compares broken
  · obtain rfl | ⟨rfl, x, hx, y, hy, clash⟩ := fault_of_comparesItems broken
    · exact .inl rfl
    · exact .inr ⟨rfl, clash.of_inside (.item hx .self) (.item hy .self)⟩
  · obtain rfl | ⟨rfl, x, hx, y, hy, clash⟩ := fault_of_comparesItems broken
    · exact .inl rfl
    · exact .inr ⟨rfl, clash.of_inside (.item hx .self) (.item hy .self)⟩
  · cases broken
  · cases broken
    exact .inl rfl
termination_by sizeOf x

theorem fault_of_comparesItems {c : Comparison} {xs ys : List Value} {f : Fault}
    (broken : comparesItems c xs ys = .error f) :
    f = .unsupported ∨ f = .invalidOperation ∧ ∃ x ∈ xs, ∃ y ∈ ys, Clash x y := by
  match xs, ys with
  | [], [] | [], _ :: _ | _ :: _, [] => cases broken
  | x :: xs, y :: ys =>
    rw [comparesItems] at broken
    rcases bind_eq_error_iff.mp broken with here | ⟨same, _, later⟩
    · obtain ⟨rfl, clash⟩ := fault_of_same here
      exact .inr ⟨rfl, x, List.mem_cons_self .., y, List.mem_cons_self .., clash⟩
    · cases same with
      | false =>
        obtain rfl | ⟨rfl, clash⟩ := fault_of_compares later
        · exact .inl rfl
        · exact .inr ⟨rfl, x, List.mem_cons_self .., y, List.mem_cons_self .., clash⟩
      | true =>
        obtain rfl | ⟨rfl, x', hx, y', hy, clash⟩ := fault_of_comparesItems later
        · exact .inl rfl
        · exact .inr ⟨rfl, x', List.mem_cons_of_mem _ hx, y', List.mem_cons_of_mem _ hy, clash⟩
termination_by sizeOf xs

end

theorem fault_of_anySame {x : Value} {ys : List Value} {f : Fault}
    (broken : x.anySame ys = .error f) : f = .invalidOperation ∧ ∃ y ∈ ys, Clash x y := by
  induction ys with
  | nil => cases broken
  | cons y rest ih =>
    rw [anySame] at broken
    rcases bind_eq_error_iff.mp broken with here | ⟨same, _, later⟩
    · obtain ⟨rfl, clash⟩ := fault_of_same here
      exact ⟨rfl, y, List.mem_cons_self .., clash⟩
    · cases same with
      | true => cases later
      | false =>
        obtain ⟨rfl, y', hy, clash⟩ := ih later
        exact ⟨rfl, y', List.mem_cons_of_mem _ hy, clash⟩

end Value

namespace BinaryTest

/-- Whether a value counts as an integer; truth values do. -/
def isWhole : Value → Bool
  | .int _ | .bool _ => true
  | _ => false

/-- The arguments that a test is declared to take: keys, integers and progressions for sizes,
options as a sequence, and regular expressions as texts. -/
def takes : BinaryTest → Value → Bool
  | .hasKey, name => name.isKey
  | .size, .atom (.span _) => true
  | .size, bound | .minSize, bound | .maxSize, bound => isWhole bound
  | .oneOf, options | .noneOf, options => options.isSeq
  | .format, regex => regex.isStr && Pattern.vet regex = .accepted
  | .equals, _ | .above, _ | .atLeast, _ | .below, _ | .atMost, _ => true

/-- Where a test breaks off about an argument that it takes: a NaN and a decimal meet, there are
more elements than can be counted, or a regular expression matches so that a group is reversed. -/
def BreaksOff : BinaryTest → (bound x : Value) → Fault → Prop
  | .hasKey, _, _, _ => False
  | .size, _, x, f | .minSize, _, x, f | .maxSize, _, x, f =>
    f = .overflow ∧ ∃ v n, v.Inside x ∧ Value.size? v = some n ∧ Value.sizeLimit < n
  | .format, regex, x, f =>
    f = .reversedGroup ∧ ∃ source s pattern, regex = .str source ∧ (Value.str s).Inside x ∧
      Pattern.ofText source = .ok pattern ∧ pattern.search s = .reversedGroup
  | .equals, bound, x, f | .above, bound, x, f | .atLeast, bound, x, f | .below, bound, x, f
  | .atMost, bound, x, f | .oneOf, bound, x, f | .noneOf, bound, x, f =>
    f = .invalidOperation ∧ Value.Clash bound x

theorem fault_of_within {c : Comparison} {bound x : Value} {f : Fault}
    (broken : within c bound x = .error f) : f = .invalidOperation ∧ Value.Clash bound x := by
  unfold within at broken
  split at broken
  · cases broken
  · split at broken
    · cases broken
    · rename_i other
      rcases Value.fault_of_compares broken with rfl | ⟨rfl, clash⟩
      · exact absurd broken other
      · exact ⟨rfl, clash.symm⟩

theorem fault_of_onSize {x : Value} {test : Value → Except Fault Bool} {f : Fault}
    (answers : ∀ n : Nat, ∃ answer, test (.int n) = .ok answer)
    (broken : onSize x test = .error f) :
    f = .overflow ∧ ∃ n, x.size? = some n ∧ Value.sizeLimit < n := by
  unfold onSize at broken
  rcases bind_eq_error_iff.mp broken with uncounted | ⟨size, _, asked⟩
  · unfold sizeOf at uncounted
    split at uncounted
    · rename_i n counted
      split at uncounted
      · cases uncounted
      · cases uncounted
        exact ⟨rfl, n, counted, by omega⟩
    · cases uncounted
  · cases size with
    | none => cases asked
    | some n =>
      obtain ⟨answer, held⟩ := answers n
      cases held.symm.trans asked

theorem exists_pattern_of_vet {source : String} (vetted : Pattern.vet (.str source) = .accepted) :
    ∃ pattern, Pattern.ofText source = .ok pattern := by
  cases read : Pattern.ofText source with
  | ok pattern => exact ⟨pattern, rfl⟩
  | error e =>
    unfold Pattern.vet at vetted
    simp only [read] at vetted
    cases e <;> cases vetted

theorem matchesFormat_of_read {source : String} {pattern : Pattern}
    (read : Pattern.ofText source = .ok pattern) (s : String) :
    matchesFormat (.str source) (.str s) =
      match pattern.search s with
      | .absent => .ok false
      | .found => .ok true
      | .reversedGroup => .error .reversedGroup := by
  unfold matchesFormat
  simp only [read]
  change (match pattern.search s with
    | .absent => pure false
    | .found => pure true
    | .reversedGroup => throw Fault.reversedGroup) = _
  cases pattern.search s <;> rfl

theorem fault_of_matchesFormat {source : String} {x : Value} {f : Fault}
    (vetted : Pattern.vet (.str source) = .accepted)
    (broken : matchesFormat (.str source) x = .error f) :
    f = .reversedGroup ∧ ∃ s pattern, x = .str s ∧
      Pattern.ofText source = .ok pattern ∧ pattern.search s = .reversedGroup := by
  obtain ⟨pattern, read⟩ := exists_pattern_of_vet vetted
  cases x with
  | atom a =>
    cases a with
    | str s =>
      rw [matchesFormat_of_read read] at broken
      split at broken
      · cases broken
      · cases broken
      · rename_i reversed
        cases broken
        exact ⟨rfl, s, pattern, rfl, read, reversed⟩
    | _ => cases broken
  | _ => cases broken

theorem exists_isWhole {bound : Value} (whole : isWhole bound = true) :
    (∃ m, bound = .int m) ∨ ∃ b, bound = .bool b := by
  unfold isWhole at whole
  split at whole
  · exact .inl ⟨_, rfl⟩
  · exact .inr ⟨_, rfl⟩
  · cases whole

theorem equal_of_isWhole {bound : Value} (whole : isWhole bound = true) (n : Nat) :
    ∃ answer, (Value.int n).equal bound = .ok answer := by
  rcases exists_isWhole whole with ⟨m, rfl⟩ | ⟨b, rfl⟩ <;> exact ⟨_, rfl⟩

theorem compares_of_isWhole {bound : Value} (whole : isWhole bound = true) (c : Comparison)
    (n : Nat) : ∃ answer, (Value.int n).compares c bound = .ok answer := by
  rcases exists_isWhole whole with ⟨m, rfl⟩ | ⟨b, rfl⟩ <;> exact ⟨_, rfl⟩

theorem fault_of_size {bound x : Value} {f : Fault} (taken : takes .size bound = true)
    (broken : holds .size bound x = .error f) :
    f = .overflow ∧ ∃ n, x.size? = some n ∧ Value.sizeLimit < n := by
  by_cases span : ∃ s, bound = .atom (.span s)
  · obtain ⟨s, rfl⟩ := span
    have asked : (onSize x fun n => n.isIn (.atom (.span s))) = .error f := broken
    exact fault_of_onSize (fun n => ⟨_, rfl⟩) asked
  · have whole : isWhole bound = true := by
      unfold takes at taken
      split at taken <;> simp_all
    have asked : (onSize x fun n => n.equal bound) = .error f := by
      rcases exists_isWhole whole with ⟨m, rfl⟩ | ⟨b, rfl⟩ <;> exact broken
    exact fault_of_onSize (equal_of_isWhole whole) asked

theorem fault_of_isIn {options x : Value} {f : Fault} (sequence : options.isSeq = true)
    (broken : x.isIn options = .error f) : f = .invalidOperation ∧ Value.Clash options x := by
  cases options with
  | seq kind items =>
    obtain ⟨rfl, option, here, clash⟩ := Value.fault_of_anySame broken
    exact ⟨rfl, clash.symm.of_inside (.item here .self) .self⟩
  | _ => cases sequence

theorem breaksOff_of_holds {t : BinaryTest} {bound x : Value} {f : Fault}
    (taken : t.takes bound = true) (broken : t.holds bound x = .error f) :
    t.BreaksOff bound x f := by
  cases t with
  | hasKey =>
    cases x with
    | map entries =>
      have found : bound.isIn (.map entries) = .error f := broken
      have key : bound.isKey = true := taken
      rw [Value.isIn, if_pos key] at found
      cases found
    | _ => cases broken
  | equals => exact Value.fault_of_equal broken
  | above => exact fault_of_within broken
  | atLeast => exact fault_of_within broken
  | below => exact fault_of_within broken
  | atMost => exact fault_of_within broken
  | size =>
    obtain ⟨rfl, n, counted, above⟩ := fault_of_size taken broken
    exact ⟨rfl, x, n, .self, counted, above⟩
  | minSize =>
    have asked : (onSize x fun n => n.compares .atLeast bound) = .error f := broken
    obtain ⟨rfl, n, counted, above⟩ := fault_of_onSize (compares_of_isWhole taken .atLeast) asked
    exact ⟨rfl, x, n, .self, counted, above⟩
  | maxSize =>
    have asked : (onSize x fun n => n.compares .atMost bound) = .error f := broken
    obtain ⟨rfl, n, counted, above⟩ := fault_of_onSize (compares_of_isWhole taken .atMost) asked
    exact ⟨rfl, x, n, .self, counted, above⟩
  | oneOf => exact fault_of_isIn taken broken
  | noneOf =>
    refine fault_of_isIn taken ?_
    have negated : (x.isIn bound).map (!·) = .error f := broken
    cases asked : x.isIn bound with
    | ok answer => rw [asked] at negated; cases negated
    | error e => rw [asked] at negated; exact negated
  | format =>
    obtain ⟨isText, vetted⟩ := Bool.and_eq_true_iff.mp taken
    cases bound with
    | atom a =>
      cases a with
      | str source =>
        obtain ⟨rfl, s, pattern, rfl, read, reversed⟩ :=
          fault_of_matchesFormat (of_decide_eq_true vetted) broken
        exact ⟨rfl, source, s, pattern, rfl, .self, read, reversed⟩
      | _ => cases isText
    | _ => cases isText

/-- What breaks off a test about a part of a value would break it off about the whole. -/
theorem BreaksOff.of_inside {t : BinaryTest} {bound x y : Value} {f : Fault}
    (broken : t.BreaksOff bound x f) (inside : x.Inside y) : t.BreaksOff bound y f := by
  cases t with
  | hasKey => exact broken
  | size | minSize | maxSize => 
    obtain ⟨rfl, v, n, inner, more⟩ := broken
    exact ⟨rfl, v, n, inner.trans inside, more⟩
  | format =>
    obtain ⟨rfl, source, s, pattern, isSource, inner, more⟩ := broken
    exact ⟨rfl, source, s, pattern, isSource, inner.trans inside, more⟩
  | equals | above | atLeast | below | atMost | oneOf | noneOf =>
    obtain ⟨rfl, clash⟩ := broken
    exact ⟨rfl, clash.of_inside .self inside⟩

/-- Nothing breaks off about what is absent except for what is in the argument. -/
theorem BreaksOff.of_absent {t : BinaryTest} {bound : Value} {f : Fault}
    (broken : t.BreaksOff bound .absent f) (x : Value) : t.BreaksOff bound x f := by
  cases t with
  | hasKey => exact broken
  | size | minSize | maxSize =>
    obtain ⟨_, v, n, inner, counted, _⟩ := broken
    cases Value.eq_of_inside_atom inner
    cases counted
  | format =>
    obtain ⟨_, _, s, _, _, inner, _⟩ := broken
    cases Value.eq_of_inside_atom inner
  | equals | above | atLeast | below | atMost | oneOf | noneOf =>
    obtain ⟨rfl, clash⟩ := broken
    exact ⟨rfl, clash.of_absent x⟩

/-- The question that an order test asks. -/
def order? : BinaryTest → Option Comparison
  | .above => some .greater
  | .atLeast => some .atLeast
  | .below => some .less
  | .atMost => some .atMost
  | _ => none

theorem within_of_incomparable {c : Comparison} {bound y : Value}
    (incomparable : y = .absent ∨ y.compares c bound = .error .unsupported) :
    within c bound y = .ok false := by
  unfold within
  rcases incomparable with rfl | refused
  · rfl
  · rw [refused, ite_self]

theorem holds_of_incomparable {t : BinaryTest} {c : Comparison} {bound y : Value}
    (isOrder : t.order? = some c)
    (incomparable : y = .absent ∨ y.compares c bound = .error .unsupported) :
    t.holds bound y = .ok false := by
  have answered := within_of_incomparable incomparable
  cases t <;> cases isOrder <;> exact answered

end BinaryTest
end Rulebook
