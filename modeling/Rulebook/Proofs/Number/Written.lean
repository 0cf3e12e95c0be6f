import Mathlib.Algebra.Order.Field.Power
import Mathlib.Tactic.FieldSimp
import Mathlib.Tactic.NormNum
import Mathlib.Tactic.Ring
import Rulebook.Number.Shortest

/-!
Numerals as they are written. Main statements:
* `digitsValue_decimalDigits`: digits are read as the number they were written for;
* `writtenFor_place`: digits laid out around a decimal point are a numeral of the same value.
-/

namespace Rulebook

/-! ## Digits -/

theorem digitsValue_eq (cs : List Char) : digitsValue cs = Nat.ofDigitChars 10 cs 0 := rfl

theorem digitsValue_append (as bs : List Char) :
    digitsValue (as ++ bs) = digitsValue as * 10 ^ bs.length + digitsValue bs := by
  rw [digitsValue_eq, Nat.ofDigitChars_append, Nat.ofDigitChars_eq_ofDigitChars_zero, Nat.mul_comm]
  rfl

theorem digitsValue_replicate_zero (k : Nat) : digitsValue (List.replicate k '0') = 0 := by
  rw [digitsValue_eq, Nat.ofDigitChars_replicate_zero, Nat.mul_zero]

theorem digitsValue_zeros_append (k : Nat) (ds : List Char) :
    digitsValue (List.replicate k '0' ++ ds) = digitsValue ds := by
  rw [digitsValue_append, digitsValue_replicate_zero, Nat.zero_mul, Nat.zero_add]

theorem digitsValue_append_zeros (ds : List Char) (k : Nat) :
    digitsValue (ds ++ List.replicate k '0') = digitsValue ds * 10 ^ k := by
  rw [digitsValue_append, digitsValue_replicate_zero, List.length_replicate, Nat.add_zero]

theorem digitsValue_decimalDigits (n : Nat) : digitsValue (decimalDigits n) = n :=
  Nat.ofDigitChars_ten_toDigits

theorem digitsValue_paddedDigits (width n : Nat) : digitsValue (paddedDigits width n) = n := by
  rw [paddedDigits, digitsValue_zeros_append, digitsValue_decimalDigits]

/-- All of these are digits. -/
def AreDigits (cs : List Char) : Prop := ∀ c ∈ cs, c.isDigit = true

theorem areDigits_decimalDigits (n : Nat) : AreDigits (decimalDigits n) :=
  fun _ member => Nat.isDigit_of_mem_toDigits (by decide) (by decide) member

theorem areDigits_zeros (k : Nat) : AreDigits (List.replicate k '0') := by
  intro c member
  rw [List.eq_of_mem_replicate member]
  decide

theorem AreDigits.append {as bs : List Char} (first : AreDigits as) (second : AreDigits bs) :
    AreDigits (as ++ bs) :=
  List.forall_mem_append.mpr ⟨first, second⟩

theorem areDigits_paddedDigits (width n : Nat) : AreDigits (paddedDigits width n) :=
  (areDigits_zeros _).append (areDigits_decimalDigits n)

theorem decimalDigits_ne_nil (n : Nat) : decimalDigits n ≠ [] := Nat.toDigits_ne_nil

/-- The first digit of a number is no zero. -/
theorem head?_decimalDigits {n : Nat} (positive : 0 < n) : (decimalDigits n).head? ≠ some '0' := by
  induction n using Nat.strongRecOn with
  | ind n ih =>
    by_cases single : n < 10
    · rw [decimalDigits, Nat.toDigits_of_lt_base single, List.head?_cons, Ne, Option.some.injEq,
        Nat.digitChar_eq_zero]
      omega
    · have more : 0 < n / 10 := by omega
      rw [decimalDigits, Nat.toDigits_of_base_le (by decide) (by omega),
        List.head?_append_of_ne_nil _ Nat.toDigits_ne_nil]
      exact ih (n / 10) (by omega) more

/-! ## Numerals -/

namespace Numeral

/-- A point and the digits after it. -/
def fractionText : Option (List Char) → List Char
  | none => []
  | some digits => '.' :: digits

/-- A power of ten, with its sign and at least two digits. -/
def powerText : Option Int → List Char
  | none => []
  | some e => 'e' :: Double.exponentText 2 e

/-- The text of a numeral without its sign. -/
def written (n : Numeral) : List Char := n.whole ++ (fractionText n.fraction ++ powerText n.power)

/-- A numeral as it is written: there are digits on both sides of a point, and no zero in front of
other digits. -/
structure WellWritten (n : Numeral) : Prop where
  whole : AreDigits n.whole
  nonempty : n.whole ≠ []
  lead : n.whole.head? = some '0' → n.whole = ['0']
  fraction : ∀ ds ∈ n.fraction, ds ≠ [] ∧ AreDigits ds

end Numeral

/-! ## Layout -/

/-- A text is a numeral with a point or a power, with the value of some digits of which the first
stands at a power of ten. -/
def WrittenFor (text : List Char) (negative : Bool) (digits : List Char) (power : Int) : Prop :=
  ∃ n : Numeral, n.negative = negative ∧ text = n.written ∧ n.WellWritten ∧ n.isInteger = false ∧
    (n.coefficient : ℚ) * 10 ^ n.exponent = digitsValue digits * 10 ^ (power + 1 - digits.length)

variable {digits : List Char} {power : Int} (negative : Bool)

theorem writtenFor_scientific {first : Char} {rest : List Char} (all : AreDigits (first :: rest))
    (lead : first ≠ '0') :
    WrittenFor ([first] ++ (if rest.isEmpty then [] else '.' :: rest)
      ++ 'e' :: Double.exponentText 2 power) negative (first :: rest) power := by
  obtain ⟨isDigit, digits⟩ := List.forall_mem_cons.mp all
  refine ⟨⟨negative, [first], if rest.isEmpty then none else some rest, some power⟩, rfl, ?_,
    ⟨List.forall_mem_singleton.mpr isDigit, List.cons_ne_nil _ _, ?_, ?_⟩, ?_, ?_⟩
  · cases rest <;> rfl
  · intro zero
    exact absurd (Option.some.inj zero) lead
  · intro ds member
    cases rest with
    | nil => cases member
    | cons d ds =>
      cases member
      exact ⟨List.cons_ne_nil _ _, digits⟩
  · simp [Numeral.isInteger]
  · have coefficient : Numeral.coefficient ⟨negative, [first],
        if rest.isEmpty then none else some rest, some power⟩ = digitsValue (first :: rest) := by
      cases rest <;> rfl
    have exponent : Numeral.exponent ⟨negative, [first],
        if rest.isEmpty then none else some rest, some power⟩ =
          power + 1 - (first :: rest).length := by
      cases rest <;> simp [Numeral.exponent]
    rw [coefficient, exponent]

theorem writtenFor_small (all : AreDigits digits) (nonempty : digits ≠ []) (small : power < 0) :
    WrittenFor (['0', '.'] ++ List.replicate (power.natAbs - 1) '0' ++ digits) negative digits
      power := by
  refine ⟨⟨negative, ['0'], some (List.replicate (power.natAbs - 1) '0' ++ digits), none⟩, rfl, ?_,
    ⟨areDigits_zeros 1, List.cons_ne_nil _ _, fun _ => rfl, ?_⟩, rfl, ?_⟩
  · simp [Numeral.written, Numeral.fractionText, Numeral.powerText]
  · intro ds member
    cases member
    exact ⟨by simp [nonempty], (areDigits_zeros _).append all⟩
  · have coefficient : Numeral.coefficient ⟨negative, ['0'],
        some (List.replicate (power.natAbs - 1) '0' ++ digits), none⟩ = digitsValue digits := by
      rw [Numeral.coefficient, Option.getD_some]
      exact (digitsValue_zeros_append 1 _).trans (digitsValue_zeros_append _ digits)
    have exponent : Numeral.exponent ⟨negative, ['0'],
        some (List.replicate (power.natAbs - 1) '0' ++ digits), none⟩ =
          power + 1 - digits.length := by
      simp only [Numeral.exponent, Option.getD_none, Option.getD_some, List.length_append,
        List.length_replicate]
      omega
    rw [coefficient, exponent]

/-- The point stands behind all digits, and behind zeros that fill up the places in between. -/
theorem writtenFor_whole (all : AreDigits digits) (nonempty : digits ≠ [])
    (lead : digits.head? ≠ some '0') {count : Nat} (isCount : (count : Int) = power + 1)
    (whole : digits.length ≤ count) :
    WrittenFor (digits ++ List.replicate (count - digits.length) '0' ++ ['.', '0']) negative digits
      power := by
  refine ⟨⟨negative, digits ++ List.replicate (count - digits.length) '0', some ['0'], none⟩, rfl,
    rfl, ⟨all.append (areDigits_zeros _), ?_, ?_, ?_⟩, rfl, ?_⟩
  · exact List.append_ne_nil_of_left_ne_nil nonempty _
  · intro zero
    rw [List.head?_append_of_ne_nil _ nonempty] at zero
    exact absurd zero lead
  · intro ds member
    cases member
    exact ⟨List.cons_ne_nil _ _, areDigits_zeros 1⟩
  · have value : digitsValue (digits ++ List.replicate (count - digits.length) '0' ++ ['0']) =
        digitsValue digits * 10 ^ (count - digits.length) * 10 := by
      rw [← digitsValue_append_zeros]
      exact digitsValue_append_zeros _ 1
    have power_eq : power + 1 - digits.length = (count - digits.length : Nat) := by omega
    simp only [Numeral.coefficient, Numeral.exponent, Option.getD_some, Option.getD_none, value]
    rw [power_eq, zpow_natCast]
    push_cast
    rw [zero_sub, zpow_neg, List.length_singleton, Nat.cast_one, zpow_one]
    field_simp

/-- The point stands among the digits. -/
theorem writtenFor_inside (all : AreDigits digits) (lead : digits.head? ≠ some '0') {count : Nat}
    (isCount : (count : Int) = power + 1) (positive : 0 < count) (inside : count < digits.length) :
    WrittenFor (digits.take count ++ '.' :: digits.drop count) negative digits power := by
  refine ⟨⟨negative, digits.take count, some (digits.drop count), none⟩, rfl, ?_,
    ⟨fun c member => all c (List.mem_of_mem_take member), ?_, ?_, ?_⟩, rfl, ?_⟩
  · simp [Numeral.written, Numeral.fractionText, Numeral.powerText]
  · rw [Ne, List.take_eq_nil_iff, ← List.length_eq_zero_iff]
    omega
  · intro zero
    rw [List.head?_take, if_neg positive.ne'] at zero
    exact absurd zero lead
  · intro ds member
    cases member
    refine ⟨?_, fun c member => all c (List.mem_of_mem_drop member)⟩
    rw [Ne, List.drop_eq_nil_iff]
    omega
  · have value : digitsValue (digits.take count ++ digits.drop count) = digitsValue digits := by
      rw [List.take_append_drop]
    simp only [Numeral.coefficient, Numeral.exponent, Option.getD_some, Option.getD_none, value,
      List.length_drop]
    congr 2
    omega

theorem writtenFor_positional (all : AreDigits digits) (nonempty : digits ≠ [])
    (lead : digits.head? ≠ some '0') {count : Nat} (isCount : (count : Int) = power + 1)
    (positive : 0 < count) :
    WrittenFor (digits.take count ++ List.replicate (count - digits.length) '0'
      ++ '.' :: (if (digits.drop count).isEmpty then ['0'] else digits.drop count)) negative digits
      power := by
  by_cases whole : digits.length ≤ count
  · rw [List.take_of_length_le whole, List.drop_eq_nil_of_le whole, if_pos List.isEmpty_nil]
    exact writtenFor_whole negative all nonempty lead isCount whole
  · rw [not_le] at whole
    have more : ¬ (digits.drop count).isEmpty = true := by
      rw [List.isEmpty_iff, List.drop_eq_nil_iff]
      omega
    have noZeros : count - digits.length = 0 := by omega
    rw [if_neg more, noZeros, List.replicate_zero, List.append_nil]
    exact writtenFor_inside negative all lead isCount positive whole

/-- Digits laid out around a decimal point are a numeral of their value. -/
theorem writtenFor_place (nonempty : digits ≠ []) (all : AreDigits digits)
    (lead : digits.head? ≠ some '0') (power : Int) :
    WrittenFor (Double.place Double.layout digits power) negative digits power := by
  obtain ⟨first, rest, rfl⟩ := List.exists_cons_of_ne_nil nonempty
  unfold Double.place
  split
  · exact writtenFor_scientific negative all fun zero => lead (congrArg _ zero)
  · split
    · exact writtenFor_small negative all nonempty ‹_›
    · exact writtenFor_positional negative all nonempty lead (by omega) (by omega)

end Rulebook
