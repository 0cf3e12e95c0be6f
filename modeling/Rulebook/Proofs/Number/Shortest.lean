import Mathlib.Data.List.TakeWhile
import Rulebook.Proofs.Number.Rounding
import Rulebook.Proofs.Number.Written

/-!
The text of a double reads back as the same double. Main statements:
* `ofDecimal_shortest`: seventeen digits are always enough, so the search for the shortest ones ends
  with digits that are read as the double;
* `text_reads`: and the text that they are laid out in is a numeral with their value.
-/

namespace Rulebook.Double

/-! ## The shortest digits -/

theorem decimalMagnitude_eq_log {num den : Nat} (hn : 0 < num) (hd : 0 < den) :
    decimalMagnitude num den = Int.log 10 ((num : ℚ) / den) + 1 := by
  have guess : ((digitCount num - 1 : Nat) : Int) - (digitCount den - 1 : Nat) =
      digitCount num - digitCount den := by
    have := digitCount_pos num
    have := digitCount_pos den
    omega
  have below (n : Nat) : n < 10 ^ (digitCount n - 1 + 1) := by
    rw [Nat.sub_add_cancel (digitCount_pos n)]
    exact lt_pow_digitCount n
  have reached := le_iff_of_scaled (by decide : 0 < 10)
    (scaleTen_spec num hd (-((digitCount num : Int) - digitCount den)))
  rw [log_eq_of_guess (by decide) hn hd (pow_digitCount_le hn) (below num) (pow_digitCount_le hd)
    (below den), decimalMagnitude, guess]
  simp only [reached]
  split <;> omega

theorem mem_neighbours {n d c : Nat} (next : c = n / d ∨ c = n / d + 1) : c ∈ neighbours n d := by
  have both (first : Bool) : c ∈ if first then [n / d, n / d + 1] else [n / d + 1, n / d] := by
    cases first <;> simp [next, or_comm]
  exact both _

/-- One of the whole numbers next to a quotient is at most a half away from it. -/
theorem exists_near_neighbour (n : Nat) {d : Nat} (hd : 0 < d) :
    ∃ c ∈ neighbours n d, (c : ℚ) - 1 / 2 ≤ (n : ℚ) / d ∧ (n : ℚ) / d ≤ c + 1 / 2 := by
  have below : ⌊(n : ℚ) / d⌋₊ = n / d := Rat.natFloor_natCast_div_natCast n d
  have low : ((n / d : Nat) : ℚ) ≤ (n : ℚ) / d := below ▸ Nat.floor_le (by positivity)
  have high : (n : ℚ) / d < (n / d : Nat) + 1 := below ▸ Nat.lt_floor_add_one _
  by_cases near : (n : ℚ) / d ≤ (n / d : Nat) + 1 / 2
  · exact ⟨n / d, mem_neighbours (.inl rfl), by linarith, near⟩
  · rw [not_le] at near
    refine ⟨n / d + 1, mem_neighbours (.inr rfl), ?_, ?_⟩ <;> push_cast <;> linarith

variable {mantissa : Nat} {exponent : Int}

/-- On a grid of seventeen digits some number is close to the double. -/
theorem close_of_seventeen (fits : Fits mantissa exponent) (nonzero : 0 < mantissa) {power : Int}
    (isPower : power = Int.log 10 ((mantissa : ℚ) * 2 ^ exponent) - 16) {c : Nat}
    (low : (c : ℚ) - 1 / 2 ≤ mantissa * 2 ^ exponent * 10 ^ (-power))
    (high : (mantissa : ℚ) * 2 ^ exponent * 10 ^ (-power) ≤ c + 1 / 2) :
    Close mantissa exponent (c * 10 ^ power) := by
  have unit : (0 : ℚ) < 2 ^ exponent := zpow_pos (by norm_num) exponent
  have step : (0 : ℚ) < 10 ^ power := zpow_pos (by norm_num) power
  have positive : (0 : ℚ) < mantissa := by exact_mod_cast nonzero
  have short : (mantissa : ℚ) < 2 ^ 53 := by exact_mod_cast fits.short
  -- The grid has steps of less than a place of the double.
  have grid : (10 : ℚ) ^ power * 10 ^ 16 ≤ mantissa * 2 ^ exponent := by
    have log := Int.zpow_log_le_self (b := 10) (r := (mantissa : ℚ) * 2 ^ exponent) (by decide)
      (by positivity)
    calc (10 : ℚ) ^ power * 10 ^ 16
        = 10 ^ Int.log 10 ((mantissa : ℚ) * 2 ^ exponent) := by
          rw [isPower, zpow_sub₀ (by norm_num)]
          norm_num
      _ ≤ mantissa * 2 ^ exponent := by exact_mod_cast log
  have narrow : (10 : ℚ) ^ power * 2 ^ (-exponent) * 10 ^ 16 ≤ mantissa := by
    rw [zpow_neg, ← div_eq_mul_inv, div_mul_eq_mul_div, div_le_iff₀ unit]
    exact grid
  have value : (mantissa : ℚ) =
      mantissa * 2 ^ exponent * 10 ^ (-power) * (10 ^ power * 2 ^ (-exponent)) := by
    rw [zpow_neg, zpow_neg]
    field_simp
  have inUnits : (c : ℚ) * 10 ^ power * 2 ^ (-exponent) = c * (10 ^ power * 2 ^ (-exponent)) :=
    mul_assoc ..
  have width : (0 : ℚ) < 10 ^ power * 2 ^ (-exponent) := mul_pos step (zpow_pos (by norm_num) _)
  generalize (mantissa : ℚ) * 2 ^ exponent * 10 ^ (-power) = g at low high value
  generalize (10 : ℚ) ^ power * 2 ^ (-exponent) = w at narrow value width inUnits
  have above : (c : ℚ) * w ≤ mantissa + w / 2 := by nlinarith
  have below : (mantissa : ℚ) - w / 2 ≤ c * w := by nlinarith
  refine ⟨?_, ?_, fun isTwo => ?_⟩ <;> rw [inUnits]
  · nlinarith
  · nlinarith
  · have isTwo' : (mantissa : ℚ) = 2 ^ 52 := by exact_mod_cast isTwo
    nlinarith

theorem gridHits_seventeen (fits : Fits mantissa exponent) (nonzero : 0 < mantissa)
    (negative : Bool) {num den : Nat} (hd : 0 < den)
    (quotient : (num : ℚ) / den = mantissa * 2 ^ exponent) :
    gridHits (.finite negative mantissa exponent) negative num den
      (decimalMagnitude num den - (16 + 1 : Nat)) ≠ [] := by
  have positive : (0 : ℚ) < num / den := by
    rw [quotient]
    exact mul_pos (by exact_mod_cast nonzero) (zpow_pos (by norm_num) _)
  have hn : 0 < num := by
    by_contra none
    have zero : num = 0 := by omega
    simp [zero] at positive
  have isPower : decimalMagnitude num den - (16 + 1 : Nat) =
      Int.log 10 ((mantissa : ℚ) * 2 ^ exponent) - 16 := by
    rw [decimalMagnitude_eq_log hn hd, quotient]
    push_cast
    ring
  generalize decimalMagnitude num den - (16 + 1 : Nat) = power at isPower
  obtain ⟨hd', scaled⟩ := scaleTen_spec num hd (-power)
  obtain ⟨c, member, low, high⟩ := exists_near_neighbour (scaleTen num den (-power)).1 hd'
  rw [scaled, quotient] at low high
  have hit : ofDecimal negative c power = .finite negative mantissa exponent := by
    rw [ofDecimal_eq_ofRat]
    exact ofRat_of_close fits nonzero (close_of_seventeen fits nonzero isPower low high) negative
  exact List.ne_nil_of_mem (List.mem_filter.mpr ⟨member, decide_eq_true hit⟩)

/-- The shortest digits are read as the double: with seventeen digits at the latest the search
ends. -/
theorem ofDecimal_shortest (fits : Fits mantissa exponent) (nonzero : 0 < mantissa)
    (negative : Bool) :
    0 < (shortest negative mantissa exponent).1 ∧
      ofDecimal negative (shortest negative mantissa exponent).1
        (shortest negative mantissa exponent).2 = .finite negative mantissa exponent := by
  obtain ⟨hd, quotient⟩ := scaleTwo_spec mantissa one_pos exponent
  rw [Nat.cast_one, div_one] at quotient
  have enough := gridHits_seventeen fits nonzero negative hd quotient
  unfold shortest ratio
  simp only
  cases search : (List.range 17).findSome? _ with
  | none =>
    have last := List.findSome?_eq_none_iff.mp search 16 (by simp)
    rw [Option.map_eq_none_iff, List.head?_eq_none_iff] at last
    exact absurd last enough
  | some found =>
    obtain ⟨count, _, hit⟩ := List.exists_of_findSome?_eq_some search
    obtain ⟨digits, first, rfl⟩ := Option.map_eq_some_iff.mp hit
    have reads := of_decide_eq_true (List.mem_filter.mp (List.mem_of_mem_head? first)).2
    have some : digits ≠ 0 := by
      rintro rfl
      rw [ofDecimal, if_pos rfl, Double.zero] at reads
      injection reads
      omega
    exact ⟨Nat.pos_of_ne_zero some, reads⟩

/-! ## The text -/

theorem dropZeros_append (ds : List Char) :
    ∃ k, ds = dropZeros ds ++ List.replicate k '0' := by
  have zeros : ds.reverse.takeWhile (· = '0') =
      List.replicate (ds.reverse.takeWhile (· = '0')).length '0' := by
    refine List.eq_replicate_iff.mpr ⟨rfl, fun c member => ?_⟩
    have isZero := List.mem_takeWhile_imp member
    exact of_decide_eq_true isZero
  have split : ds.reverse.takeWhile (· = '0') ++ ds.reverse.dropWhile (· = '0') = ds.reverse :=
    List.takeWhile_append_dropWhile
  rw [zeros] at split
  refine ⟨(ds.reverse.takeWhile (· = '0')).length, ?_⟩
  rw [dropZeros, ← List.reverse_replicate, ← List.reverse_append, split, List.reverse_reverse]

/-- The digits without the zeros at their end, laid out with the first digit in its place, are a
numeral with the value of all digits. -/
theorem writtenFor_text {digits : Nat} (positive : 0 < digits) (power : Int) (negative : Bool) :
    ∃ n : Numeral, n.negative = negative ∧ n.WellWritten ∧ n.isInteger = false ∧
      place layout (dropZeros (decimalDigits digits))
        (power + (decimalDigits digits).length - 1) = n.written ∧
      (n.coefficient : ℚ) * 10 ^ n.exponent = digits * 10 ^ power := by
  obtain ⟨k, split⟩ := dropZeros_append (decimalDigits digits)
  generalize dropZeros (decimalDigits digits) = kept at split
  have value : digits = digitsValue kept * 10 ^ k := by
    rw [← digitsValue_append_zeros, ← split, digitsValue_decimalDigits]
  have nonempty : kept ≠ [] := by
    rintro rfl
    rw [value] at positive
    simp [digitsValue] at positive
  have lead : kept.head? ≠ some '0' := by
    have head := head?_decimalDigits positive
    rwa [split, List.head?_append_of_ne_nil _ nonempty] at head
  have all : AreDigits kept := fun c member =>
    areDigits_decimalDigits digits c (split ▸ List.mem_append_left _ member)
  obtain ⟨n, sign, text, well, written, shown⟩ := writtenFor_place negative nonempty all lead
    (power + (decimalDigits digits).length - 1)
  refine ⟨n, sign, well, written, text, shown.trans ?_⟩
  have place : power + (decimalDigits digits).length - 1 + 1 - (kept.length : Int) = power + k := by
    rw [split, List.length_append, List.length_replicate]
    omega
  have value' : (digits : ℚ) = digitsValue kept * 10 ^ k := by exact_mod_cast value
  rw [place, zpow_add₀ (by norm_num), zpow_natCast, value']
  ring

/-- A double that is neither a NaN nor an infinity is written as a numeral that is read as it. -/
theorem text_reads (fits : Fits mantissa exponent) (negative : Bool) :
    ∃ n : Numeral, n.negative = negative ∧ n.WellWritten ∧ n.isInteger = false ∧
      (text (.finite negative mantissa exponent)).toList =
        (if negative then '-' :: n.written else n.written) ∧
      ofNumeral n = .finite negative mantissa exponent := by
  by_cases zero : mantissa = 0
  · have least : exponent = leastExponent := fits.full.resolve_right (by omega)
    refine ⟨⟨negative, ['0'], some ['0'], none⟩, rfl, ⟨areDigits_zeros 1, List.cons_ne_nil _ _,
      fun _ => rfl, ?_⟩, rfl, ?_, ?_⟩
    · intro ds member
      cases member
      exact ⟨List.cons_ne_nil _ _, areDigits_zeros 1⟩
    · rw [text, String.toList_ofList, if_pos zero]
      rfl
    · rw [zero, least]
      rfl
  · obtain ⟨positive, reads⟩ := ofDecimal_shortest fits (Nat.pos_of_ne_zero zero) negative
    obtain ⟨n, sign, well, written, shown, value⟩ := writtenFor_text positive
      (shortest negative mantissa exponent).2 negative
    refine ⟨n, sign, well, written, ?_, ?_⟩
    · rw [text, String.toList_ofList, if_neg zero]
      simp only [shown]
    · rw [ofNumeral, ofDecimal_eq_ofRat, value, sign, ← ofDecimal_eq_ofRat, reads]

end Rulebook.Double
