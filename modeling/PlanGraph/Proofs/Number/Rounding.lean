import Mathlib.Tactic.Linarith
import Mathlib.Tactic.Ring
import PlanGraph.Number.Mixed

/-!
# Rounding

What is rounded has at most 53 binary digits before the trailing zeros, so that every result of
arithmetic and of reading is a number of the format (`Representable`). A quotient that is closer to
such a number than one part in `2 · 10^16` is rounded to it (`roundUnits_eq_of_close`): the gaps
between numbers of the format are wider than that, on either side and down to the smallest. So sums
of natural numbers are exact as long as they are small (`whole_add_ofInt`).
-/

namespace PlanGraph.Binary64

/-! ## The nearest whole number -/

section

variable {dividend divisor n : Nat}

/-- A quotient is rounded to the whole number that is less than one half away. -/
theorem roundQuotient_eq_of_near (above : 2 * (n * divisor) < 2 * dividend + divisor)
    (below : 2 * dividend < 2 * (n * divisor) + divisor) : roundQuotient dividend divisor = n := by
  have positive : 0 < divisor := by
    by_contra zero
    obtain rfl : divisor = 0 := by omega
    omega
  have parts := Nat.div_add_mod dividend divisor
  have small := Nat.mod_lt dividend positive
  unfold roundQuotient
  generalize dividend / divisor = whole at parts ⊢
  generalize dividend % divisor = left at parts small ⊢
  subst parts
  rcases Nat.lt_trichotomy n whole with less | rfl | more
  · have gap : (n + 1) * divisor ≤ whole * divisor := Nat.mul_le_mul_right _ less
    rw [Nat.succ_mul, Nat.mul_comm whole] at gap
    omega
  · rw [Nat.mul_comm n] at above below
    rw [if_pos (by omega)]
  · obtain rfl : n = whole + 1 := by
      by_contra other
      have gap : (whole + 2) * divisor ≤ n * divisor := Nat.mul_le_mul_right _ (by omega)
      rw [Nat.add_mul, Nat.mul_comm whole] at gap
      omega
    have next : (whole + 1) * divisor = divisor * whole + divisor := by ring
    rw [next] at above below
    rw [if_neg (by omega), if_pos (by omega)]

/-- A quotient is rounded to a whole number that is at most one half away. -/
theorem roundQuotient_near (positive : 0 < divisor) :
    2 * (roundQuotient dividend divisor * divisor) ≤ 2 * dividend + divisor ∧
      2 * dividend ≤ 2 * (roundQuotient dividend divisor * divisor) + divisor := by
  have parts := Nat.div_add_mod dividend divisor
  have small := Nat.mod_lt dividend positive
  unfold roundQuotient
  generalize dividend / divisor = whole at parts ⊢
  generalize dividend % divisor = left at parts small ⊢
  subst parts
  have next : (whole + 1) * divisor = divisor * whole + divisor := by ring
  have same : whole * divisor = divisor * whole := Nat.mul_comm _ _
  dsimp only
  split
  · rw [same]
    omega
  · split
    · rw [next]
      omega
    · split
      · rw [same]
        omega
      · rw [next]
        omega

theorem roundQuotient_le : roundQuotient dividend divisor ≤ dividend / divisor + 1 := by
  unfold roundQuotient
  dsimp only
  repeat' split
  all_goals omega

/-- A quotient in other units is rounded in the same way. -/
theorem roundQuotient_scale {factor : Nat} (positive : 0 < factor) :
    roundQuotient (dividend * factor) (divisor * factor) = roundQuotient dividend divisor := by
  have twice (k : Nat) : 2 * (k * factor) = 2 * k * factor := (Nat.mul_assoc _ _ _).symm
  unfold roundQuotient
  simp only [Nat.mul_div_mul_right _ _ positive, Nat.mul_mod_mul_right, twice,
    Nat.mul_lt_mul_right positive]

end

/-! ## Numbers of the format -/

/-- A count with at most 53 binary digits before the trailing zeros. -/
def Exact (units : Nat) : Prop :=
  ∃ significand exponent, significand < 2 ^ 53 ∧ units = significand * 2 ^ exponent

/-- A number of the format: its count is exact and within the finite range. -/
inductive Representable : Binary64 → Prop where
  /-- No number. -/
  | nan : Representable nan
  /-- Beyond every finite number. -/
  | infinite (negative : Bool) : Representable (infinite negative)
  /-- A finite number. -/
  | finite (negative : Bool) {units : Nat} (exact : Exact units) (inside : units < overflow) :
      Representable (finite negative units)

/-- An exact count has 53 binary digits before the trailing zeros, or no trailing zeros. -/
theorem Exact.exists_normal {units : Nat} (exact : Exact units) :
    ∃ significand exponent, significand < 2 ^ 53 ∧ units = significand * 2 ^ exponent ∧
      (2 ^ 52 ≤ significand ∨ exponent = 0) := by
  obtain ⟨significand, exponent, small, rfl⟩ := exact
  induction exponent generalizing significand with
  | zero => exact ⟨significand, 0, small, rfl, .inr rfl⟩
  | succ exponent ih =>
      by_cases full : 2 ^ 52 ≤ significand
      · exact ⟨significand, exponent + 1, small, rfl, .inl full⟩
      · obtain ⟨found, place, bound, same, normal⟩ := ih (2 * significand) (by omega)
        refine ⟨found, place, bound, ?_, normal⟩
        rw [← same, Nat.pow_succ]
        ring

/-- The step between the counts around a whole count is small enough for 53 digits. -/
theorem whole_lt_step (whole : Nat) : whole < 2 ^ 53 * 2 ^ (whole.log2 - 52) := by
  have below := @Nat.lt_log2_self whole
  rw [← Nat.pow_add]
  exact below.trans_le (Nat.pow_le_pow_right (by decide) (by omega))

/-- What is rounded is exact. -/
theorem exact_roundUnits (dividend divisor : Nat) : Exact (roundUnits dividend divisor) := by
  change Exact (roundQuotient dividend (divisor * 2 ^ ((dividend / divisor).log2 - 52)) *
    2 ^ ((dividend / divisor).log2 - 52))
  have bound := whole_lt_step (dividend / divisor)
  generalize (dividend / divisor).log2 - 52 = place at bound ⊢
  have few : dividend / (divisor * 2 ^ place) < 2 ^ 53 := by
    rw [← Nat.div_div_eq_div_mul]
    exact Nat.div_lt_of_lt_mul (by rwa [Nat.mul_comm] at bound)
  have most := @roundQuotient_le dividend (divisor * 2 ^ place)
  by_cases full : roundQuotient dividend (divisor * 2 ^ place) = 2 ^ 53
  · refine ⟨2 ^ 52, place + 1, by decide, ?_⟩
    rw [full, Nat.pow_succ 2 place]
    ring
  · exact ⟨_, place, by omega, rfl⟩

theorem representable_ofUnits (negative : Bool) (dividend divisor : Nat) :
    (ofUnits negative dividend divisor).Representable := by
  unfold ofUnits
  dsimp only
  split
  · rename_i inside
    exact .finite negative (exact_roundUnits dividend divisor) inside
  · exact .infinite negative

theorem unitsPerOne_pos : 0 < unitsPerOne := by
  decide +kernel

theorem overflow_pos : 0 < overflow := by
  decide +kernel

theorem representable_zero (negative : Bool) : (finite negative 0).Representable :=
  .finite negative ⟨0, 0, by decide, rfl⟩ overflow_pos

/-- Whatever is read is a number of the format. -/
theorem representable_ofDecimal (negative : Bool) (digits : Nat) (exponent : Int) :
    (ofDecimal negative digits exponent).Representable := by
  unfold ofDecimal
  dsimp only
  repeat' split
  · exact representable_zero negative
  · exact .infinite negative
  · exact representable_zero negative
  · exact representable_ofUnits _ _ _
  · exact representable_ofUnits _ _ _

/-- A sum is a number of the format. -/
theorem representable_add (x y : Binary64) : (x.add y).Representable := by
  unfold add
  repeat' split
  · exact .nan
  · exact .nan
  · exact .infinite _
  · exact .nan
  · exact .infinite _
  · exact .infinite _
  · exact representable_ofUnits _ _ _
  · exact representable_zero _
  · exact representable_ofUnits _ _ _
  · exact representable_ofUnits _ _ _

/-! ## Quotients that are close to a number -/

/-- The dividend differs from a multiple of the divisor by no more than one part in `2 · 10^16`. -/
structure Close (dividend divisor units : Nat) : Prop where
  /-- The multiple is hardly larger. -/
  above : 20000000000000000 * (units * divisor) ≤
    20000000000000000 * dividend + units * divisor
  /-- The multiple is hardly smaller. -/
  below : 20000000000000000 * dividend ≤
    20000000000000000 * (units * divisor) + units * divisor

section

variable {dividend divisor units significand place : Nat}

/-- In steps that leave no more than 53 digits, a close quotient is rounded to the count. -/
theorem Close.roundQuotient_eq (close : Close dividend divisor units) (positive : 0 < divisor)
    (small : significand ≤ 2 ^ 53) (same : units = significand * 2 ^ place) :
    roundQuotient dividend (divisor * 2 ^ place) = significand := by
  obtain ⟨above, below⟩ := close
  have step : 0 < divisor * 2 ^ place := Nat.mul_pos positive (Nat.two_pow_pos place)
  have count : units * divisor = significand * (divisor * 2 ^ place) := by
    rw [same]
    ring
  have most : significand * (divisor * 2 ^ place) ≤ 2 ^ 53 * (divisor * 2 ^ place) :=
    Nat.mul_le_mul_right _ small
  rw [count] at above below
  exact roundQuotient_eq_of_near (by omega) (by omega)

/-- The whole part of a close quotient stays below the next power of two. -/
theorem Close.whole_lt (close : Close dividend divisor units) (positive : 0 < divisor)
    (small : significand < 2 ^ 53) (same : units = significand * 2 ^ place) :
    dividend / divisor < 2 ^ (53 + place) := by
  have most : (units + 2 ^ place) * divisor ≤ 2 ^ (53 + place) * divisor := by
    refine Nat.mul_le_mul_right _ ?_
    rw [same, Nat.pow_add, ← Nat.succ_mul]
    exact Nat.mul_le_mul_right _ small
  have step : 0 < 2 ^ place * divisor := Nat.mul_pos (Nat.two_pow_pos place) positive
  have bound : units * divisor ≤ (2 ^ 53 - 1) * (2 ^ place * divisor) := by
    rw [same, Nat.mul_assoc]
    exact Nat.mul_le_mul_right _ (by omega)
  have below := close.below
  rw [Nat.add_mul] at most
  rw [Nat.div_lt_iff_lt_mul positive]
  omega

/-- The whole part of a close quotient is at least one half of the count. -/
theorem Close.half_le_whole (close : Close dividend divisor units) (positive : 0 < divisor)
    {power : Nat} (half : 2 * power ≤ units) : power ≤ dividend / divisor := by
  have twice : 2 * power * divisor ≤ units * divisor := Nat.mul_le_mul_right _ half
  have above := close.above
  rw [Nat.mul_assoc] at twice
  rw [Nat.le_div_iff_mul_le positive]
  omega

/-- **A quotient that is close to a number is rounded to it.** -/
theorem roundUnits_eq_of_close (exact : Exact units) (positive : 0 < divisor)
    (close : Close dividend divisor units) : roundUnits dividend divisor = units := by
  obtain ⟨significand, place, small, same, normal⟩ := exact.exists_normal
  have whole_lt := close.whole_lt positive small same
  -- rounding is right as soon as its step leaves no more than 53 digits of the count
  have settle {digits step : Nat} (found : (dividend / divisor).log2 - 52 = step)
      (few : digits ≤ 2 ^ 53) (units_eq : units = digits * 2 ^ step) :
      roundUnits dividend divisor = units := by
    change roundQuotient dividend (divisor * 2 ^ ((dividend / divisor).log2 - 52)) *
      2 ^ ((dividend / divisor).log2 - 52) = units
    rw [found, close.roundQuotient_eq positive few units_eq, units_eq]
  by_cases zero : dividend / divisor = 0
  · rcases normal with full | rfl
    · have two : 2 * 1 ≤ units := by
        rw [same]
        have one := Nat.two_pow_pos place
        nlinarith
      have half := close.half_le_whole positive two
      omega
    · exact settle (by rw [zero]; rfl) small.le same
  have log_lt : (dividend / divisor).log2 < 53 + place := (Nat.log2_lt zero).mpr whole_lt
  by_cases reached : 2 ^ (52 + place) ≤ dividend / divisor
  · have log_le : 52 + place ≤ (dividend / divisor).log2 := (Nat.le_log2 zero).mpr reached
    exact settle (by omega) small.le same
  · rcases normal with full | rfl
    · cases place with
      | zero =>
          exact settle (by omega) small.le same
      | succ place =>
          -- just below a power of two the steps are half as wide
          have least : 2 ^ (52 + (place + 1)) ≤ units := by
            rw [same, Nat.pow_add]
            exact Nat.mul_le_mul_right _ full
          have log_le : 52 + place ≤ (dividend / divisor).log2 := by
            refine (Nat.le_log2 zero).mpr (close.half_le_whole positive ?_)
            rw [← Nat.add_assoc, Nat.pow_succ] at least
            omega
          have log_lt' : (dividend / divisor).log2 < 52 + (place + 1) :=
            (Nat.log2_lt zero).mpr (by omega)
          refine @settle (2 ^ 53) place (by omega) le_rfl ?_
          have under : dividend < 2 ^ (52 + (place + 1)) * divisor :=
            (Nat.div_lt_iff_lt_mul positive).mp (by omega)
          obtain rfl : significand = 2 ^ 52 := by
            by_contra other
            have more : (2 ^ 52 + 1) * 2 ^ (place + 1) ≤ units := by
              rw [same]
              exact Nat.mul_le_mul_right _ (by omega)
            have step : 0 < 2 ^ (place + 1) * divisor :=
              Nat.mul_pos (Nat.two_pow_pos _) positive
            have count : (2 ^ 52 + 1) * (2 ^ (place + 1) * divisor) ≤ units * divisor := by
              rw [← Nat.mul_assoc]
              exact Nat.mul_le_mul_right _ more
            rw [Nat.pow_add, Nat.mul_assoc] at under
            have above := close.above
            omega
          rw [same, Nat.pow_succ]
          ring
    · exact settle (by omega) small.le same

end

/-! ## Small whole numbers -/

/-- The number that is a natural number. -/
def whole (n : Nat) : Binary64 :=
  finite false (n * unitsPerOne)

theorem whole_inj {m n : Nat} : whole m = whole n ↔ m = n := by
  rw [whole, whole, finite.injEq, Nat.mul_right_cancel_iff unitsPerOne_pos]
  simp only [true_and]

/-- Natural numbers have the order they have as numbers. -/
theorem compare?_whole (m n : Nat) : (whole m).compare? (whole n) = some (compare m n) := by
  have positive := unitsPerOne_pos
  unfold whole
  generalize unitsPerOne = one at positive ⊢
  change some (compare ((m * one : Nat) : Int) ((n * one : Nat) : Int)) = _
  congr 1
  rcases Nat.lt_trichotomy m n with less | rfl | more
  · rw [compare_lt_iff_lt.mpr less, compare_lt_iff_lt]
    exact Int.ofNat_lt.mpr (Nat.mul_lt_mul_of_pos_right less positive)
  · rw [compare_eq_iff_eq.mpr rfl]
    exact (compare_eq_iff_eq.mpr rfl).symm
  · rw [compare_gt_iff_gt.mpr more, compare_gt_iff_gt]
    exact Int.ofNat_lt.mpr (Nat.mul_lt_mul_of_pos_right more positive)

/-- One is a power of two. -/
theorem unitsPerOne_eq : ∃ exponent, unitsPerOne = 2 ^ exponent :=
  ⟨1074, by decide +kernel⟩

/-- A number of few ones is exact. -/
theorem ofUnits_whole {n : Nat} (small : n < 2 ^ 53) :
    ofUnits false (n * unitsPerOne) 1 = whole n := by
  have exact : Exact (n * unitsPerOne) := by
    obtain ⟨exponent, power⟩ := unitsPerOne_eq
    exact ⟨n, exponent, small, congrArg (n * ·) power⟩
  have same : roundUnits (n * unitsPerOne) 1 = n * unitsPerOne :=
    roundUnits_eq_of_close exact Nat.one_pos ⟨by omega, by omega⟩
  have inside : n * unitsPerOne < overflow := by
    have bound : 2 ^ 53 * unitsPerOne < overflow := by decide +kernel
    exact (Nat.mul_lt_mul_of_pos_right small unitsPerOne_pos).trans bound
  unfold ofUnits
  rw [same]
  dsimp only
  rw [if_pos inside, whole]

/-- Numbers of one sign are added by their units. -/
theorem add_finite (negative : Bool) (units more : Nat) :
    (finite negative units).add (finite negative more) = ofUnits negative (units + more) 1 :=
  if_pos rfl

/-- Sums of natural numbers are exact as long as they are below `2^53`. -/
theorem whole_add_ofInt {m n : Nat} (small : m + n < 2 ^ 53) :
    (whole m).add (ofInt n) = whole (m + n) := by
  have ofNat : ofInt n = whole n := by
    rw [ofInt, Int.natAbs_natCast]
    exact ofUnits_whole (by omega)
  rw [ofNat, whole, whole, add_finite, ← Nat.add_mul, ofUnits_whole small]

end PlanGraph.Binary64
