import Rulebook.Message.English
import Rulebook.Predicate.Standard
import Rulebook.Proofs.Message.Interpolation
import Rulebook.Proofs.Message.Slots
import Rulebook.Proofs.Number.Rounding

/-!
The ends of a progression as the bounds of a size. Main statements:
* `Span.within_of_contains`: no member of a progression stands outside its ends;
* `Span.contains_iff_of_nonempty`, `Span.contains_iff_of_ascending`: the members are what the steps
  meet between the ends;
* `isIn_span`: the membership test of values is the one of integers;
* `size_within_bounds`: the bounds that a message shows are the ends of the sizes that pass.
-/

namespace Rulebook

/-! ## Members and ends -/

namespace Span

variable {s : Span} {n : Int}

theorem lt_length_iff_of_ascending (ascending : 0 < s.step) (i : Nat) :
    i < s.length ↔ s.nth i < s.stop := by
  unfold length nth
  rw [if_pos ascending]
  split
  · rename_i nonempty
    have whole : 0 ≤ (s.stop - s.start - 1) / s.step := Int.ediv_nonneg (by omega) (by omega)
    have steps : (i : Int) ≤ (s.stop - s.start - 1) / s.step ↔
        s.step * i ≤ s.stop - s.start - 1 := by
      rw [Int.le_ediv_iff_mul_le ascending, Int.mul_comm]
    omega
  · have forward : 0 ≤ s.step * i := Int.mul_nonneg (by omega) (by omega)
    omega

theorem lt_length_iff_of_descending (descending : s.step < 0) (i : Nat) :
    i < s.length ↔ s.stop < s.nth i := by
  unfold length nth
  rw [if_neg (by omega)]
  split
  · rename_i nonempty
    have whole : 0 ≤ (s.start - s.stop - 1) / -s.step := Int.ediv_nonneg (by omega) (by omega)
    have steps : (i : Int) ≤ (s.start - s.stop - 1) / -s.step ↔
        -(s.step * i) ≤ s.start - s.stop - 1 := by
      rw [Int.le_ediv_iff_mul_le (by omega), Int.mul_comm, Int.neg_mul]
    omega
  · have backward : 0 ≤ -s.step * i := Int.mul_nonneg (by omega) (by omega)
    rw [Int.neg_mul] at backward
    omega

/-- The members are what the steps reach. -/
theorem contains_iff : s.contains n = true ↔ ∃ i < s.length, n = s.nth i := by
  unfold contains
  rcases Int.lt_or_gt_of_ne s.step_ne_zero with descending | ascending
  · simp only [if_neg (show ¬ 0 < s.step by omega), Bool.and_eq_true, decide_eq_true_eq,
      lt_length_iff_of_descending descending]
    constructor
    · rintro ⟨⟨before, after⟩, multiple⟩
      obtain ⟨k, steps⟩ := Int.dvd_of_emod_eq_zero multiple
      have forward : 0 ≤ k :=
        Int.nonneg_of_mul_nonneg_right (a := -s.step) (by omega) (by omega)
      have reached : n = s.nth k.toNat := by
        rw [Int.neg_mul] at steps
        rw [nth, Int.toNat_of_nonneg forward]
        omega
      exact ⟨k.toNat, reached ▸ before, reached⟩
    · rintro ⟨i, before, rfl⟩
      have backward : 0 ≤ -s.step * i := Int.mul_nonneg (by omega) (by omega)
      rw [Int.neg_mul] at backward
      exact ⟨⟨before, by unfold nth; omega⟩, by simp [nth]⟩
  · simp only [if_pos ascending, Bool.and_eq_true, decide_eq_true_eq,
      lt_length_iff_of_ascending ascending]
    constructor
    · rintro ⟨⟨after, before⟩, multiple⟩
      obtain ⟨k, steps⟩ := Int.dvd_of_emod_eq_zero multiple
      have forward : 0 ≤ k := by
        refine Int.nonneg_of_mul_nonneg_right (a := s.step) ?_ ascending
        omega
      have reached : n = s.nth k.toNat := by
        rw [nth, Int.toNat_of_nonneg forward]
        omega
      exact ⟨k.toNat, reached ▸ before, reached⟩
    · rintro ⟨i, before, rfl⟩
      have forward : 0 ≤ s.step * i := Int.mul_nonneg (by omega) (by omega)
      exact ⟨⟨by unfold nth; omega, before⟩, by simp [nth]⟩

/-- The ends of a progression with members are its first and its last one. -/
theorem right_of_lt_length {i : Nat} (inside : i < s.length) : s.right = s.nth (s.length - 1) := by
  rw [right, if_neg (by omega)]

/-- All members stand between the ends, which come the other way round if the steps descend. -/
theorem within_of_contains (member : s.contains n = true) :
    min s.left s.right ≤ n ∧ n ≤ max s.left s.right := by
  obtain ⟨i, inside, rfl⟩ := contains_iff.mp member
  rw [right_of_lt_length inside, left]
  have index : (i : Int) ≤ (s.length - 1 : Nat) := by omega
  rcases Int.lt_or_gt_of_ne s.step_ne_zero with descending | ascending
  · have first : s.step * i ≤ 0 := Int.mul_nonpos_of_nonpos_of_nonneg (by omega) (by omega)
    have last := mul_le_mul_of_nonpos_left index (show s.step ≤ 0 by omega)
    unfold nth
    omega
  · have first : 0 ≤ s.step * i := Int.mul_nonneg (by omega) (by omega)
    have last := Int.mul_le_mul_of_nonneg_left index (show 0 ≤ s.step by omega)
    unfold nth
    omega

theorem dvd_of_contains (member : s.contains n = true) : s.step ∣ n - s.left := by
  obtain ⟨i, _, rfl⟩ := contains_iff.mp member
  simp [left, nth]

/-- What the steps meet between the ends of a progression with members is a member. -/
theorem contains_iff_of_nonempty (nonempty : 0 < s.length) :
    s.contains n = true ↔
      (min s.left s.right ≤ n ∧ n ≤ max s.left s.right) ∧ s.step ∣ n - s.left := by
  refine ⟨fun member => ⟨within_of_contains member, dvd_of_contains member⟩, ?_⟩
  rintro ⟨⟨after, before⟩, k, steps⟩
  rw [right_of_lt_length nonempty, left, nth] at after before
  rw [left] at steps
  have between : 0 ≤ k ∧ k ≤ (s.length - 1 : Nat) := by
    rcases Int.lt_or_gt_of_ne s.step_ne_zero with descending | ascending
    · have last : s.step * (s.length - 1 : Nat) ≤ 0 :=
        Int.mul_nonpos_of_nonpos_of_nonneg (by omega) (by omega)
      exact ⟨(mul_le_mul_left_of_neg descending).mp (by omega),
        (mul_le_mul_left_of_neg descending).mp (by omega)⟩
    · have last : 0 ≤ s.step * (s.length - 1 : Nat) := Int.mul_nonneg (by omega) (by omega)
      exact ⟨Int.nonneg_of_mul_nonneg_right (a := s.step) (by omega) ascending,
        Int.le_of_mul_le_mul_left (by omega) ascending⟩
  refine contains_iff.mpr ⟨k.toNat, by omega, ?_⟩
  rw [nth, Int.toNat_of_nonneg between.1]
  omega

/-- Of an ascending progression the members are what the steps meet between its ends, also if it
has none: its ends come the other way round then. -/
theorem contains_iff_of_ascending (ascending : 0 < s.step) :
    s.contains n = true ↔ s.left ≤ n ∧ n ≤ s.right ∧ s.step ∣ n - s.left := by
  rcases Nat.eq_zero_or_pos s.length with none | nonempty
  · have backward : s.right < s.left := by
      have first := (lt_length_iff_of_ascending ascending 0).not.mp (by omega)
      rw [right, if_pos none, left]
      simp only [nth, Int.natCast_zero, Int.mul_zero] at first
      omega
    refine iff_of_false (fun member => ?_) (by omega)
    obtain ⟨i, inside, _⟩ := contains_iff.mp member
    omega
  · have forward : s.left ≤ s.right := by
      have last : 0 ≤ s.step * (s.length - 1 : Nat) := Int.mul_nonneg (by omega) (by omega)
      rw [right_of_lt_length nonempty, left, nth]
      omega
    rw [contains_iff_of_nonempty nonempty, min_eq_left forward, max_eq_right forward, and_assoc]

end Span

/-! ## Sizes -/

theorem digitCount_mono {a b : Nat} (le : a ≤ b) : digitCount a ≤ digitCount b :=
  (Nat.length_toDigits_le_iff (by decide) (Double.digitCount_pos b)).mpr
    (Nat.lt_of_le_of_lt le (Double.lt_pow_digitCount b))

namespace Exact

theorem isWithin_ofInt {n : Int} {bound : Nat} (le : n.natAbs ≤ bound) :
    (ofInt n).isWithin bound = true := by
  have order : (ofInt n).compareAbs (ofInt bound) ≠ .gt := by
    unfold compareAbs ofInt
    split
    · simpa [Nat.compare_eq_gt] using le
    · have digits := digitCount_mono le
      simp only [Int.min_self, Int.sub_self, Int.natAbs_zero, Int.natAbs_natCast]
      intro greater
      rcases Ordering.then_eq_gt.mp greater with first | ⟨_, second⟩
      · have more := compare_gt_iff_gt.mp first
        omega
      · have more := Nat.compare_eq_gt.mp second
        rw [Nat.pow_eq, Nat.pow_zero] at more
        omega
  simpa [isWithin] using order

theorem toInt?_ofInt (n : Int) : (ofInt n).toInt? = some n := by
  unfold toInt? ofInt
  by_cases zero : n = 0
  · simp [zero]
  · by_cases below : n < 0
    · simp [zero, below, abs_of_neg]
    · simp [zero, below, abs_of_nonneg (Int.not_lt.mp below)]

end Exact

theorem isIn_span (n : Int) (s : Span) :
    (Value.int n).isIn (.atom (.span s)) = .ok (s.contains n) := by
  have counted : (Value.int n).isIn (.atom (.span s)) =
      .ok ((Exact.ofInt n).isWithin (max s.start.natAbs s.stop.natAbs)
        && (Exact.ofInt n).toInt?.any s.contains) := rfl
  rw [counted, Exact.toInt?_ofInt, Option.any_some]
  cases member : s.contains n with
  | false => rw [Bool.and_false]
  | true =>
    have near : n.natAbs ≤ max s.start.natAbs s.stop.natAbs := by
      unfold Span.contains at member
      split at member <;> simp only [Bool.and_eq_true, decide_eq_true_eq] at member <;> omega
    rw [Exact.isWithin_ofInt near, Bool.true_and]

namespace BinaryTest

theorem call_size {x : Value} {n : Nat} (size : sizeOf x = .ok (some n)) (s : Span) :
    StandardTest.call (.binary .size) [.atom (.span s), x] = .ok (s.contains n) := by
  have counted : holds .size (.atom (.span s)) x = (Value.int n).isIn (.atom (.span s)) := by
    simp only [holds, onSize, size]
    rfl
  rw [StandardTest.call, counted, isIn_span]

end BinaryTest

/-! ## Bounds in messages -/

/-- The template for sizes that a progression bounds. -/
def sizeWithin : String := "size must be within %\x7bleft\x7d - %\x7bright\x7d"

theorem get?_english_sizeWithin :
    MessageTable.english.get? (English.key BinaryTest.size.id none (some "range")) =
      some sizeWithin := by
  decide +kernel

theorem cuts_sizeWithin :
    Template.Cut.Cuts
      ⟨"size must be within ".toList, [("left".toList, " - ".toList), ("right".toList, [])]⟩
      sizeWithin.toList := by
  refine ⟨by decide, by decide +kernel, Template.bare_of_unclosed (by decide), ?_⟩
  simpa using ⟨Template.bare_of_unclosed (by decide), Template.bare_of_unclosed List.not_mem_nil⟩

namespace Entry

variable {e : Entry} {s : Span} {parameter : String}

theorem get?_left (bound : e.arguments = [(parameter, .atom (.span s))]) :
    e.slotValues.get? "left" = some (.int s.left) := by
  simp [slotValues_eq, bound, putArgument, OrderedMap.get?_put]

theorem get?_right (bound : e.arguments = [(parameter, .atom (.span s))]) :
    e.slotValues.get? "right" = some (.int s.right) := by
  simp [slotValues_eq, bound, putArgument, OrderedMap.get?_put]

theorem interpolate_sizeWithin (bound : e.arguments = [(parameter, .atom (.span s))]) :
    interpolate sizeWithin e.slotValues =
      .ok ("size must be within " ++ Value.text (.int s.left) ++ " - "
        ++ Value.text (.int s.right)) := by
  refine cuts_sizeWithin.interpolate_eq_ok_iff.mpr
    ⟨[.int s.left, .int s.right], ?_, ?_⟩
  · simp [Template.Cut.names, get?_left bound, get?_right bound]
  · simp [Template.Cut.filled, Template.display, String.append_assoc]

end Entry

/-- **The bounds that a message shows are the ends of the sizes that pass.** No size outside the
two bounds of a progression passes, whichever way round they come. Of a progression that has members
or ascends, a size passes exactly if it stands between the bounds and the steps meet it, so with
single steps the bounds are what is enforced. -/
theorem size_within_bounds {s : Span} {x : Value} {n : Nat}
    (size : BinaryTest.sizeOf x = .ok (some n)) {e : Entry}
    (bound : e.arguments = [(BinaryTest.size.parameter, .atom (.span s))]) :
    ∃ (accepted : Bool) (left right : Int),
      StandardTest.call (.binary .size) [.atom (.span s), x] = .ok accepted ∧
      e.slotValues.get? "left" = some (.int left) ∧
      e.slotValues.get? "right" = some (.int right) ∧
      ((MessageTable.english.get? (English.key BinaryTest.size.id none (some "range"))).map
        (interpolate · e.slotValues)) =
        some (.ok ("size must be within " ++ toString left ++ " - " ++ toString right)) ∧
      (accepted = true → min left right ≤ n ∧ n ≤ max left right) ∧
      (0 < s.length →
        (accepted = true ↔ (min left right ≤ n ∧ n ≤ max left right) ∧ s.step ∣ n - left)) ∧
      (0 < s.step → (accepted = true ↔ left ≤ n ∧ n ≤ right ∧ s.step ∣ n - left)) ∧
      (s.step = 1 → (accepted = true ↔ left ≤ n ∧ n ≤ right)) := by
  refine ⟨s.contains n, s.left, s.right, BinaryTest.call_size size s, Entry.get?_left bound,
    Entry.get?_right bound, ?_, Span.within_of_contains, Span.contains_iff_of_nonempty,
    Span.contains_iff_of_ascending, fun single => ?_⟩
  · rw [get?_english_sizeWithin, Option.map_some, Entry.interpolate_sizeWithin bound]
    rfl
  · rw [Span.contains_iff_of_ascending (by omega), single]
    simp

/-- A failed check of a size of five against every third size from two on. -/
def everyThird : Entry where
  name := .str "word"
  predicate := "size?"
  arguments := [("num", .atom (.span ⟨2, 12, 3, by decide⟩))]
  value := .str "hello"

/-- Five is the second of the sizes from two to eleven in steps of three. -/
theorem size_within_bounds_everyThird :
    BinaryTest.sizeOf (.str "hello") = .ok (some 5) ∧
      everyThird.slotValues.get? "right" = some (.int 11) ∧
      StandardTest.call (.binary .size) [.atom (.span ⟨2, 12, 3, by decide⟩), .str "hello"] =
        .ok true := by
  have size : BinaryTest.sizeOf (.str "hello") = .ok (some 5) := by decide +kernel
  obtain ⟨accepted, left, right, answer, first, last, _, _, _, ascending, _⟩ :=
    size_within_bounds (e := everyThird) size rfl
  cases (show some (Value.int 2) = some (.int left) from first)
  cases (show some (Value.int 11) = some (.int right) from last)
  have passed : accepted = true := (ascending (by decide)).mpr (by decide)
  exact ⟨size, last, passed ▸ answer⟩

/-- A size between the bounds that the steps skip does not pass. -/
theorem size_between_bounds_refused :
    ¬ ∀ (s : Span) (x : Value) (n : Nat) (e : Entry) (left right : Int),
      BinaryTest.sizeOf x = .ok (some n) →
      e.arguments = [(BinaryTest.size.parameter, .atom (.span s))] →
      e.slotValues.get? "left" = some (.int left) →
      e.slotValues.get? "right" = some (.int right) →
      (StandardTest.call (.binary .size) [.atom (.span s), x] = .ok true ↔
        left ≤ n ∧ n ≤ right) := by
  intro enforced
  have skipped := enforced ⟨1, 10, 2, by decide⟩ (.list [.int 1, .int 2]) 2
    ⟨.str "pair", "size?", [("num", .atom (.span ⟨1, 10, 2, by decide⟩))],
      .list [.int 1, .int 2], "val"⟩ 1 9 rfl rfl rfl rfl
  have passed := skipped.mpr ⟨by decide, by decide⟩
  have refused : StandardTest.call (.binary .size)
      [.atom (.span ⟨1, 10, 2, by decide⟩), .list [.int 1, .int 2]] = .ok false := by
    decide +kernel
  rw [refused] at passed
  cases passed

end Rulebook
