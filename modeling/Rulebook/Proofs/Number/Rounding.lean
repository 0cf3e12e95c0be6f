import Mathlib.Algebra.Order.Field.Power
import Mathlib.Data.Int.Log
import Mathlib.Data.Rat.Floor
import Mathlib.Tactic.FieldSimp
import Mathlib.Tactic.Linarith
import Mathlib.Tactic.NormNum
import Mathlib.Tactic.Positivity
import Mathlib.Tactic.Ring
import Rulebook.Number.Double

/-!
Rounding to doubles, as a function of the exact value that is rounded. Main statements:
* `nearest_eq_nearestTo`, `ofDecimal_eq_ofRat`: which double a quotient or a decimal is read as
  depends on nothing but its value;
* `isNumber_ofDecimal`: and it is no NaN, but a finite double of 53 bits or an infinity;
* `ofRat_of_close`: a value that is closer to a double than half the way to its neighbours is read
  as that double.
-/

namespace Rulebook.Double

/-! ## Quotients and their logarithms -/

theorem scale_spec {base : Nat} (positive : 0 < base) (num : Nat) {den : Nat} (nonzero : 0 < den)
    (power : Int) {p : Nat × Nat}
    (scaled : p = if power < 0 then (num, den * Nat.pow base power.natAbs)
      else (num * Nat.pow base power.natAbs, den)) :
    0 < p.2 ∧ (p.1 : ℚ) / p.2 = num / den * (base : ℚ) ^ power := by
  have hb : (base : ℚ) ≠ 0 := by exact_mod_cast positive.ne'
  have hd : (den : ℚ) ≠ 0 := by exact_mod_cast nonzero.ne'
  subst scaled
  split
  · obtain ⟨k, rfl⟩ : ∃ k : Nat, power = -k := ⟨power.natAbs, by omega⟩
    refine ⟨Nat.mul_pos nonzero (Nat.pow_pos positive), ?_⟩
    simp only [Nat.pow_eq, Int.natAbs_neg, Int.natAbs_natCast, Nat.cast_mul, Nat.cast_pow, zpow_neg,
      zpow_natCast]
    field_simp
  · obtain ⟨k, rfl⟩ : ∃ k : Nat, power = k := ⟨power.natAbs, by omega⟩
    refine ⟨nonzero, ?_⟩
    simp only [Nat.pow_eq, Int.natAbs_natCast, Nat.cast_mul, Nat.cast_pow, zpow_natCast]
    field_simp

theorem scaleTwo_spec (num : Nat) {den : Nat} (nonzero : 0 < den) (power : Int) :
    0 < (scaleTwo num den power).2 ∧
      ((scaleTwo num den power).1 : ℚ) / (scaleTwo num den power).2 = num / den * 2 ^ power :=
  scale_spec (by decide) num nonzero power rfl

theorem scaleTen_spec (num : Nat) {den : Nat} (nonzero : 0 < den) (power : Int) :
    0 < (scaleTen num den power).2 ∧
      ((scaleTen num den power).1 : ℚ) / (scaleTen num den power).2 = num / den * 10 ^ power :=
  scale_spec (by decide) num nonzero power rfl

theorem log_eq {base : Nat} (hb : 1 < base) {q : ℚ} (positive : 0 < q) {k : Int}
    (low : (base : ℚ) ^ k ≤ q) (high : q < (base : ℚ) ^ (k + 1)) : Int.log base q = k := by
  have atLeast := (Int.zpow_le_iff_le_log hb positive).mp low
  have below := (Int.lt_zpow_iff_log_lt hb positive).mp high
  omega

/-- A logarithm that is guessed from those of numerator and denominator is at most one too high. -/
theorem log_eq_of_guess {base num den a b : Nat} (hb : 1 < base) (hn : 0 < num) (hd : 0 < den)
    (lowNum : base ^ a ≤ num) (highNum : num < base ^ (a + 1)) (lowDen : base ^ b ≤ den)
    (highDen : den < base ^ (b + 1)) :
    Int.log base ((num : ℚ) / den) =
      if (base : ℚ) ^ ((a : Int) - b) ≤ (num : ℚ) / den then (a : Int) - b else a - b - 1 := by
  have base_pos : (0 : ℚ) < base := by exact_mod_cast (by omega : 0 < base)
  have hd' : (0 : ℚ) < den := by exact_mod_cast hd
  have positive : (0 : ℚ) < num / den := div_pos (by exact_mod_cast hn) hd'
  have power (k : Int) : (0 : ℚ) < (base : ℚ) ^ k := zpow_pos base_pos k
  have highNum' : (num : ℚ) < (base : ℚ) ^ (a + 1) := by exact_mod_cast highNum
  have lowNum' : (base : ℚ) ^ a ≤ num := by exact_mod_cast lowNum
  have lowDen' : (base : ℚ) ^ b ≤ den := by exact_mod_cast lowDen
  have highDen' : (den : ℚ) < (base : ℚ) ^ (b + 1) := by exact_mod_cast highDen
  have high : (num : ℚ) / den < (base : ℚ) ^ ((a : Int) - b + 1) := by
    rw [div_lt_iff₀ hd']
    calc (num : ℚ) < (base : ℚ) ^ (a + 1) := highNum'
      _ = (base : ℚ) ^ ((a : Int) - b + 1) * (base : ℚ) ^ b := by
        rw [← zpow_natCast, ← zpow_natCast, ← zpow_add₀ base_pos.ne']
        congr 1
        push_cast
        ring
      _ ≤ (base : ℚ) ^ ((a : Int) - b + 1) * den := by gcongr
  split
  · rename_i low
    exact log_eq hb positive low high
  · rename_i less
    refine log_eq hb positive ?_ (by simpa using less)
    rw [le_div_iff₀ hd']
    calc (base : ℚ) ^ ((a : Int) - b - 1) * den
        ≤ (base : ℚ) ^ ((a : Int) - b - 1) * (base : ℚ) ^ (b + 1) := by gcongr
      _ = (base : ℚ) ^ a := by
        rw [← zpow_natCast, ← zpow_natCast, ← zpow_add₀ base_pos.ne']
        congr 1
        push_cast
        ring
      _ ≤ num := lowNum'

/-- Whether a quotient reaches a power is seen after scaling by its inverse. -/
theorem le_iff_of_scaled {base : Nat} (positive : 0 < base) {q : ℚ} {power : Int} {p : Nat × Nat}
    (scaled : 0 < p.2 ∧ (p.1 : ℚ) / p.2 = q * (base : ℚ) ^ (-power)) :
    p.2 ≤ p.1 ↔ (base : ℚ) ^ power ≤ q := by
  obtain ⟨hd, quotient⟩ := scaled
  have hb : (0 : ℚ) < (base : ℚ) ^ power := zpow_pos (by exact_mod_cast positive) power
  have reached : p.2 ≤ p.1 ↔ (1 : ℚ) ≤ (p.1 : ℚ) / p.2 := by
    rw [le_div_iff₀ (by exact_mod_cast hd), one_mul]
    exact_mod_cast Iff.rfl
  rw [reached, quotient, zpow_neg, ← div_eq_mul_inv, le_div_iff₀ hb, one_mul]

theorem floorLog_eq_log {num den : Nat} (hn : 0 < num) (hd : 0 < den) :
    floorLog num den = Int.log 2 ((num : ℚ) / den) := by
  have reached := le_iff_of_scaled (by decide : 0 < 2)
    (scaleTwo_spec num hd (-((num.log2 : Int) - den.log2)))
  rw [log_eq_of_guess (by decide) hn hd (Nat.log2_self_le hn.ne') Nat.lt_log2_self
    (Nat.log2_self_le hd.ne') Nat.lt_log2_self, floorLog]
  simp only [reached]

/-! ## Digits -/

theorem digitCount_pos (n : Nat) : 0 < digitCount n := Nat.length_toDigits_pos

theorem lt_pow_digitCount (n : Nat) : n < 10 ^ digitCount n :=
  (Nat.length_toDigits_le_iff (by decide) (digitCount_pos n)).mp (Nat.le_refl _)

theorem pow_digitCount_le {n : Nat} (positive : 0 < n) : 10 ^ (digitCount n - 1) ≤ n := by
  by_cases single : digitCount n = 1
  · rw [single]
    exact positive
  · have many := digitCount_pos n
    by_contra less
    have fewer : digitCount n ≤ digitCount n - 1 :=
      (Nat.length_toDigits_le_iff (by decide) (by omega)).mpr (by omega)
    omega

/-- The digits of a coefficient and its power of ten give the logarithm of the decimal. -/
theorem log_decimal {coefficient : Nat} (positive : 0 < coefficient) (power : Int) :
    Int.log 10 ((coefficient : ℚ) * 10 ^ power) = power + digitCount coefficient - 1 := by
  have hp : (0 : ℚ) < 10 ^ power := zpow_pos (by norm_num) power
  have hc : (0 : ℚ) < coefficient := by exact_mod_cast positive
  have many := digitCount_pos coefficient
  have low : ((10 : ℚ) ^ (digitCount coefficient - 1)) ≤ coefficient := by
    exact_mod_cast pow_digitCount_le positive
  have high : (coefficient : ℚ) < (10 : ℚ) ^ digitCount coefficient := by
    exact_mod_cast lt_pow_digitCount coefficient
  refine log_eq (by decide) (mul_pos hc hp) ?_ ?_
  · calc ((10 : Nat) : ℚ) ^ (power + digitCount coefficient - 1)
        = (10 : ℚ) ^ (digitCount coefficient - 1) * 10 ^ power := by
          rw [← zpow_natCast, ← zpow_add₀ (by norm_num)]
          congr 1
          omega
      _ ≤ coefficient * 10 ^ power := by gcongr
  · calc (coefficient : ℚ) * 10 ^ power
        < (10 : ℚ) ^ digitCount coefficient * 10 ^ power := by gcongr
      _ = ((10 : Nat) : ℚ) ^ (power + digitCount coefficient - 1 + 1) := by
          rw [← zpow_natCast, ← zpow_add₀ (by norm_num)]
          congr 1
          omega

/-! ## Rounding -/

/-- A number rounded to a whole one; a half goes to the even neighbour. -/
def halfEven (q : ℚ) : Nat :=
  let below := ⌊q⌋₊
  if q - below < 1 / 2 then below
  else if 1 / 2 < q - below then below + 1
  else below + below % 2

theorem roundQuotient_eq_halfEven (n : Nat) {d : Nat} (hd : 0 < d) :
    roundQuotient n d = halfEven ((n : ℚ) / d) := by
  have hd' : (0 : ℚ) < d := by exact_mod_cast hd
  have below : ⌊(n : ℚ) / d⌋₊ = n / d := Rat.natFloor_natCast_div_natCast n d
  have rest : (n : ℚ) / d - (n / d : Nat) = (n % d : Nat) / d := by
    rw [eq_div_iff hd'.ne', sub_mul, div_mul_cancel₀ _ hd'.ne']
    have parts : ((d * (n / d) + n % d : Nat) : ℚ) = n := by exact_mod_cast Nat.div_add_mod n d
    push_cast at parts ⊢
    linarith
  have less : (n : ℚ) / d - (n / d : Nat) < 1 / 2 ↔ 2 * (n % d) < d := by
    rw [rest, div_lt_iff₀ hd']
    constructor
    · intro h
      have : (2 * (n % d : Nat) : ℚ) < d := by linarith
      exact_mod_cast this
    · intro h
      have : (2 * (n % d : Nat) : ℚ) < d := by exact_mod_cast h
      linarith
  have more : 1 / 2 < (n : ℚ) / d - (n / d : Nat) ↔ d < 2 * (n % d) := by
    rw [rest, lt_div_iff₀ hd']
    constructor
    · intro h
      have : (d : ℚ) < 2 * (n % d : Nat) := by linarith
      exact_mod_cast this
    · intro h
      have : (d : ℚ) < 2 * (n % d : Nat) := by exact_mod_cast h
      linarith
  simp only [roundQuotient, halfEven, below, less, more]

/-- A number that is closer to a whole one than a half is rounded to it. -/
theorem halfEven_of_close {q : ℚ} {m : Nat} (low : (m : ℚ) - 1 / 2 < q) (high : q < m + 1 / 2)
    (positive : 0 ≤ q) : halfEven q = m := by
  unfold halfEven
  by_cases reached : (m : ℚ) ≤ q
  · have below : ⌊q⌋₊ = m := (Nat.floor_eq_iff positive).mpr ⟨reached, by linarith⟩
    rw [below, if_pos (by linarith)]
  · rw [not_le] at reached
    have some : 0 < m := by
      by_contra none
      have zero : m = 0 := by omega
      rw [zero] at reached
      push_cast at reached
      linarith
    obtain ⟨k, rfl⟩ : ∃ k, m = k + 1 := ⟨m - 1, by omega⟩
    push_cast at low reached
    have below : ⌊q⌋₊ = k := (Nat.floor_eq_iff positive).mpr ⟨by linarith, reached⟩
    rw [below, if_neg (by linarith), if_pos (by linarith)]

/-- The double nearest to a value that is not negative, with a sign. -/
def nearestTo (negative : Bool) (q : ℚ) : Double :=
  if q = 0 then zero negative
  else
    let exponent := max leastExponent (Int.log 2 q - 52)
    let mantissa := halfEven (q * 2 ^ (-exponent))
    let (mantissa, exponent) :=
      if mantissa = 2 ^ 53 then (2 ^ 52, exponent + 1) else (mantissa, exponent)
    if greatestExponent < exponent then .infinity negative
    else .finite negative mantissa exponent

theorem nearest_eq_nearestTo (negative : Bool) (num : Nat) {den : Nat} (hd : 0 < den) :
    nearest negative num den = nearestTo negative ((num : ℚ) / den) := by
  have hd' : (den : ℚ) ≠ 0 := by exact_mod_cast hd.ne'
  unfold nearest nearestTo
  by_cases none : num = 0
  · simp [none]
  · have some : (num : ℚ) / den ≠ 0 := div_ne_zero (by exact_mod_cast none) hd'
    rw [if_neg none, if_neg some, floorLog_eq_log (Nat.pos_of_ne_zero none) hd]
    obtain ⟨hd'', quotient⟩ := scaleTwo_spec num hd
      (-(max leastExponent (Int.log 2 ((num : ℚ) / den) - 52)))
    simp only [roundQuotient_eq_halfEven _ hd'', quotient, Nat.pow_eq]

/-- The double that a decimal value is read as. -/
def ofRat (negative : Bool) (q : ℚ) : Double :=
  if q = 0 then zero negative
  else if 309 < Int.log 10 q then .infinity negative
  else if Int.log 10 q < -331 then zero negative
  else nearestTo negative q

/-- Which double a decimal is read as depends on nothing but its value. -/
theorem ofDecimal_eq_ofRat (negative : Bool) (coefficient : Nat) (power : Int) :
    ofDecimal negative coefficient power = ofRat negative ((coefficient : ℚ) * 10 ^ power) := by
  have hp : (10 : ℚ) ^ power ≠ 0 := zpow_ne_zero _ (by norm_num)
  unfold ofDecimal ofRat
  by_cases none : coefficient = 0
  · simp [none]
  · have some : (coefficient : ℚ) * 10 ^ power ≠ 0 := mul_ne_zero (by exact_mod_cast none) hp
    rw [if_neg none, if_neg some, log_decimal (Nat.pos_of_ne_zero none)]
    obtain ⟨hd, quotient⟩ := scaleTen_spec coefficient one_pos power
    rw [Nat.cast_one, div_one] at quotient
    have above : 310 < power + (digitCount coefficient : Int) ↔
        309 < power + (digitCount coefficient : Int) - 1 := by omega
    have below : power + (digitCount coefficient : Int) < -330 ↔
        power + (digitCount coefficient : Int) - 1 < -331 := by omega
    simp only [above, below, nearest_eq_nearestTo negative _ hd, quotient]

/-! ## The doubles there are -/

/-- The mantissas and exponents of doubles: a mantissa has 53 bits, or fewer at the least
exponent. -/
structure Fits (mantissa : Nat) (exponent : Int) : Prop where
  least : leastExponent ≤ exponent
  greatest : exponent ≤ greatestExponent
  short : mantissa < 2 ^ 53
  full : exponent = leastExponent ∨ 2 ^ 52 ≤ mantissa

/-- The doubles there are, except for NaNs. -/
def IsNumber : Double → Prop
  | .nan _ => False
  | .infinity _ => True
  | .finite _ mantissa exponent => Fits mantissa exponent

theorem isNumber_zero (negative : Bool) : (zero negative).IsNumber :=
  ⟨le_refl _, by decide, by decide, .inl rfl⟩

theorem le_halfEven {q : ℚ} {k : Nat} (reached : (k : ℚ) ≤ q) : k ≤ halfEven q := by
  have below : k ≤ ⌊q⌋₊ := Nat.le_floor reached
  unfold halfEven
  dsimp only
  split
  · exact below
  · split <;> omega

theorem halfEven_le {q : ℚ} {k : Nat} (positive : 0 ≤ q) (less : q < k) : halfEven q ≤ k := by
  have below : ⌊q⌋₊ < k := (Nat.floor_lt positive).mpr less
  unfold halfEven
  dsimp only
  split
  · exact below.le
  · split <;> omega

/-- In units of the last place that its logarithm asks for, a value has 53 bits, or fewer at the
least exponent. -/
theorem bits_of_log {q : ℚ} (positive : 0 < q) {exponent : Int}
    (isExponent : exponent = max leastExponent (Int.log 2 q - 52)) :
    q * 2 ^ (-exponent) < 2 ^ 53 ∧
      (exponent = leastExponent ∨ (2 : ℚ) ^ 52 ≤ q * 2 ^ (-exponent)) := by
  have unit : (0 : ℚ) < 2 ^ exponent := zpow_pos (by norm_num) exponent
  have inUnits (k : Nat) : (2 : ℚ) ^ ((k : Int) + exponent) = 2 ^ k * 2 ^ exponent := by
    rw [zpow_add₀ (by norm_num), zpow_natCast]
  rw [zpow_neg, ← div_eq_mul_inv, div_lt_iff₀ unit, le_div_iff₀ unit, ← inUnits, ← inUnits]
  constructor
  · calc q < ((2 : Nat) : ℚ) ^ (Int.log 2 q + 1) := Int.lt_zpow_succ_log_self (by decide) q
      _ ≤ 2 ^ (((53 : Nat) : Int) + exponent) := by
        rw [Nat.cast_ofNat]
        exact zpow_le_zpow_right₀ (by norm_num) (by omega)
  · refine or_iff_not_imp_left.mpr fun normal => ?_
    have log : ((52 : Nat) : Int) + exponent = Int.log 2 q := by omega
    rw [log]
    exact_mod_cast Int.zpow_log_le_self (by decide) positive

/-- Whatever is rounded becomes a double that is no NaN. -/
theorem isNumber_nearestTo (negative : Bool) {q : ℚ} (positive : 0 ≤ q) :
    (nearestTo negative q).IsNumber := by
  by_cases none : q = 0
  · rw [nearestTo, if_pos none]
    exact isNumber_zero negative
  · have q_pos : 0 < q := lt_of_le_of_ne positive (Ne.symm none)
    rw [nearestTo, if_neg none]
    generalize isExponent : max leastExponent (Int.log 2 q - 52) = exponent
    obtain ⟨short, full⟩ := bits_of_log q_pos isExponent.symm
    have least : leastExponent ≤ exponent := isExponent ▸ le_max_left _ _
    have atMost : halfEven (q * 2 ^ (-exponent)) ≤ 2 ^ 53 :=
      halfEven_le (by positivity) (by exact_mod_cast short)
    dsimp only
    by_cases carried : halfEven (q * 2 ^ (-exponent)) = 2 ^ 53
    · rw [if_pos carried]
      dsimp only
      split
      · trivial
      · exact ⟨by omega, by omega, by decide, .inr (le_refl _)⟩
    · rw [if_neg carried]
      dsimp only
      split
      · trivial
      · exact ⟨least, by omega, by omega,
          full.imp_right fun reached => le_halfEven (by exact_mod_cast reached)⟩

theorem isNumber_ofDecimal (negative : Bool) (coefficient : Nat) (power : Int) :
    (ofDecimal negative coefficient power).IsNumber := by
  rw [ofDecimal_eq_ofRat]
  unfold ofRat
  split
  · exact isNumber_zero negative
  · split
    · trivial
    · split
      · exact isNumber_zero negative
      · exact isNumber_nearestTo negative (by positivity)

/-! ## Values close to a double -/

/-- A value less than half the way from a double to its neighbours. The neighbour below a power of
two is only half as far away as the one above. -/
structure Close (mantissa : Nat) (exponent : Int) (q : ℚ) : Prop where
  low : (mantissa : ℚ) - 1 / 2 < q * 2 ^ (-exponent)
  high : q * 2 ^ (-exponent) < mantissa + 1 / 2
  power : mantissa = 2 ^ 52 → (mantissa : ℚ) - 1 / 4 < q * 2 ^ (-exponent)

theorem log_mul_zpow {t : ℚ} {k : Nat} (low : 2 ^ k ≤ t) (high : t < 2 ^ (k + 1))
    (exponent : Int) : Int.log 2 (t * 2 ^ exponent) = k + exponent := by
  have unit : (0 : ℚ) < 2 ^ exponent := zpow_pos (by norm_num) exponent
  have t_pos : 0 < t := lt_of_lt_of_le (by positivity) low
  refine log_eq (by decide) (mul_pos t_pos unit) ?_ ?_
  · rw [Nat.cast_ofNat, zpow_add₀ (by norm_num), zpow_natCast]
    gcongr
  · rw [Nat.cast_ofNat, add_right_comm, zpow_add₀ (by norm_num)]
    gcongr
    exact_mod_cast high

/-- A value that is close to a double is rounded to it. -/
theorem nearestTo_of_close {mantissa : Nat} {exponent : Int} (fits : Fits mantissa exponent)
    (nonzero : 0 < mantissa) {q : ℚ} (close : Close mantissa exponent q) (negative : Bool) :
    nearestTo negative q = .finite negative mantissa exponent := by
  obtain ⟨least, greatest, short, full⟩ := fits
  obtain ⟨low, high, power⟩ := close
  have atLeast : (1 : ℚ) ≤ mantissa := by exact_mod_cast nonzero
  have atMost : (mantissa : ℚ) + 1 ≤ 2 ^ 53 := by exact_mod_cast short
  -- The value in units of the last place of the double.
  generalize inUnits : q * 2 ^ (-exponent) = t at low high power
  have q_eq : q = t * 2 ^ exponent := by
    rw [← inUnits, mul_assoc, ← zpow_add₀ (by norm_num), neg_add_cancel, zpow_zero, mul_one]
  have t_pos : 0 < t := by linarith
  have q_pos : 0 < q := q_eq ▸ mul_pos t_pos (zpow_pos (by norm_num) exponent)
  have whole : halfEven t = mantissa := halfEven_of_close low high t_pos.le
  rw [nearestTo, if_neg q_pos.ne']
  by_cases own : max leastExponent (Int.log 2 q - 52) = exponent
  · simp only [own, inUnits, whole, if_neg (by omega : mantissa ≠ 2 ^ 53),
      if_neg (by omega : ¬ greatestExponent < exponent)]
  · -- Below a power of two the value has an exponent less and is rounded up to the power.
    have below : t < 2 ^ 52 := by
      by_contra reached
      have short' : t < 2 ^ (52 + 1) := by
        norm_num at atMost ⊢
        linarith
      have log := log_mul_zpow (not_lt.mp reached) short' exponent
      rw [← q_eq] at log
      omega
    have normal : exponent ≠ leastExponent := by
      intro isLeast
      have log : Int.log 2 q < 52 + exponent := by
        rw [← Int.lt_zpow_iff_log_lt (by decide) q_pos, Nat.cast_ofNat, zpow_add₀ two_ne_zero, q_eq]
        gcongr
        exact_mod_cast below
      omega
    have isPower : mantissa = 2 ^ 52 := by
      have bits : 2 ^ 52 ≤ mantissa := full.resolve_left normal
      have few : (mantissa : ℚ) < 2 ^ 52 + 1 := by linarith
      have few' : mantissa < 2 ^ 52 + 1 := by exact_mod_cast few
      omega
    have near := power isPower
    rw [isPower, Nat.cast_pow, Nat.cast_ofNat] at near
    have log := log_mul_zpow (by linarith : (2 : ℚ) ^ 51 ≤ t) below exponent
    rw [← q_eq] at log
    have lower : max leastExponent (Int.log 2 q - 52) = exponent - 1 := by omega
    have doubled : q * 2 ^ (-(exponent - 1)) = 2 * t := by
      rw [← inUnits, neg_sub, sub_eq_add_neg, zpow_add₀ (by norm_num), zpow_one]
      ring
    have carried : halfEven (2 * t) = 2 ^ 53 := by
      refine halfEven_of_close ?_ ?_ (by linarith) <;> push_cast <;> linarith
    simp only [lower, doubled, carried, if_true, sub_add_cancel,
      if_neg (by omega : ¬ greatestExponent < exponent), isPower]

/-- A value that is close to a double is more than half the least one and no larger than all. -/
theorem bounds_of_close {mantissa : Nat} {exponent : Int} (fits : Fits mantissa exponent)
    (nonzero : 0 < mantissa) {q : ℚ} (close : Close mantissa exponent q) :
    (2 : ℚ) ^ (-1075 : Int) < q ∧ q < 2 ^ (1024 : Int) := by
  have unit : (0 : ℚ) < 2 ^ exponent := zpow_pos (by norm_num) exponent
  have atLeast : (1 : ℚ) ≤ mantissa := by exact_mod_cast nonzero
  have atMost : (mantissa : ℚ) + 1 ≤ 2 ^ 53 := by exact_mod_cast fits.short
  have q_eq : q = q * 2 ^ (-exponent) * 2 ^ exponent := by
    rw [mul_assoc, ← zpow_add₀ (by norm_num), neg_add_cancel, zpow_zero, mul_one]
  constructor
  · calc (2 : ℚ) ^ (-1075 : Int) = 1 / 2 * 2 ^ leastExponent := by
          rw [show (-1075 : Int) = -1 + leastExponent from rfl, zpow_add₀ (by norm_num)]
          norm_num
      _ ≤ 1 / 2 * 2 ^ exponent := by
        gcongr
        · norm_num
        · exact fits.least
      _ < q * 2 ^ (-exponent) * 2 ^ exponent := by
        gcongr
        linarith [close.low]
      _ = q := q_eq.symm
  · calc q = q * 2 ^ (-exponent) * 2 ^ exponent := q_eq
      _ < 2 ^ 53 * 2 ^ exponent := by
        gcongr
        linarith [close.high]
      _ ≤ 2 ^ 53 * 2 ^ greatestExponent := by
        gcongr
        · norm_num
        · exact fits.greatest
      _ = 2 ^ (1024 : Int) := by
        rw [show (1024 : Int) = 53 + greatestExponent from rfl, zpow_add₀ (by norm_num)]
        norm_num

/-- So it is of a decimal magnitude that is read without a shortcut. -/
theorem log_ten_of_bounds {q : ℚ} (above : (2 : ℚ) ^ (-1075 : Int) < q)
    (below : q < 2 ^ (1024 : Int)) : -331 ≤ Int.log 10 q ∧ Int.log 10 q < 309 := by
  have q_pos : 0 < q := (zpow_pos (by norm_num) _).trans above
  have least : (2 : ℚ) ^ 1075 ≤ 10 ^ 331 := by
    exact_mod_cast (by decide +kernel : 2 ^ 1075 ≤ 10 ^ 331)
  have largest : (2 : ℚ) ^ 1024 < 10 ^ 309 := by
    exact_mod_cast (by decide +kernel : 2 ^ 1024 < 10 ^ 309)
  constructor
  · rw [← Int.zpow_le_iff_le_log (by decide) q_pos, zpow_neg]
    refine le_trans ?_ above.le
    rw [zpow_neg, inv_le_inv₀ (by positivity) (by positivity)]
    exact_mod_cast least
  · rw [← Int.lt_zpow_iff_log_lt (by decide) q_pos]
    exact below.trans (by exact_mod_cast largest)

/-- A decimal that is close to a double is read as that double. -/
theorem ofRat_of_close {mantissa : Nat} {exponent : Int} (fits : Fits mantissa exponent)
    (nonzero : 0 < mantissa) {q : ℚ} (close : Close mantissa exponent q) (negative : Bool) :
    ofRat negative q = .finite negative mantissa exponent := by
  obtain ⟨above, below⟩ := bounds_of_close fits nonzero close
  obtain ⟨notUnder, notOver⟩ := log_ten_of_bounds above below
  have q_pos : 0 < q := (zpow_pos (by norm_num) _).trans above
  rw [ofRat, if_neg q_pos.ne', if_neg (by omega), if_neg (by omega)]
  exact nearestTo_of_close fits nonzero close negative

end Rulebook.Double
