import PlanGraph.Number.Shortest
import PlanGraph.Proofs.Number.Rounding

/-!
# Decimals that read back

The shortest decimal of a number of the format reads back as that number (`ofDecimal_shortest`).
Decimals of up to sixteen digits are taken only after they were tried; the one with seventeen digits
is so near that it reads back always. What a decimal reads as does not depend on whether its zeros
stand among the digits or in the exponent (`ofDecimal_mul_ten_pow`), nor on its sign.
-/

namespace PlanGraph.Binary64

/-! ## Digits -/

/-- A positive number has one digit more than the largest power of ten in it. -/
theorem exists_length_toDigits {n : Nat} (positive : n ≠ 0) :
    ∃ place, (Nat.toDigits 10 n).length = place + 1 ∧ 10 ^ place ≤ n ∧ n < 10 ^ (place + 1) := by
  have few := fun k => @Nat.length_toDigits_le_iff 10 n (k + 1) (by decide) (Nat.succ_pos k)
  obtain ⟨place, length⟩ :=
    Nat.exists_eq_succ_of_ne_zero (Nat.ne_of_gt (@Nat.length_toDigits_pos 10 n))
  refine ⟨place, length, ?_, (few place).mp length.le⟩
  cases place with
  | zero => exact Nat.pos_of_ne_zero positive
  | succ place =>
      by_contra less
      have shorter := (few place).mpr (by omega)
      omega

theorem length_toDigits_mul_ten {n : Nat} (positive : n ≠ 0) :
    (Nat.toDigits 10 (n * 10)).length = (Nat.toDigits 10 n).length + 1 := by
  rw [Nat.toDigits_of_base_le (by decide) (by omega), List.length_append,
    Nat.mul_div_cancel n (by decide), List.length_singleton]

/-! ## Zeros and signs -/

section

variable {dividend divisor digits : Nat} {exponent : Int} {negative : Bool}

/-- A quotient in other units is rounded in the same way. -/
theorem ofUnits_scale {factor : Nat} (positive : 0 < factor) :
    ofUnits negative (dividend * factor) (divisor * factor) =
      ofUnits negative dividend divisor := by
  have same : roundUnits (dividend * factor) (divisor * factor) = roundUnits dividend divisor := by
    unfold roundUnits
    simp only [Nat.mul_div_mul_right _ _ positive, Nat.mul_right_comm divisor factor,
      roundQuotient_scale positive]
  rw [ofUnits, ofUnits, same]

/-- A decimal as a quotient of units. -/
def Decimal.quotient (decimal : Decimal) : Nat × Nat :=
  if 0 ≤ decimal.exponent then (decimal.digits * 10 ^ decimal.exponent.toNat * unitsPerOne, 1)
  else (decimal.digits * unitsPerOne, 10 ^ (-decimal.exponent).toNat)

/-- A decimal whose first digit stands where numbers of the format have theirs is rounded. -/
theorem ofDecimal_of_range (positive : digits ≠ 0)
    (most : ((Nat.toDigits 10 digits).length : Int) + exponent ≤ 310)
    (least : -330 ≤ ((Nat.toDigits 10 digits).length : Int) + exponent) :
    ofDecimal negative digits exponent =
      ofUnits negative (Decimal.quotient ⟨digits, exponent⟩).1
        (Decimal.quotient ⟨digits, exponent⟩).2 := by
  have high : ¬ 310 < ((Nat.toDigits 10 digits).length : Int) + exponent := by omega
  have low : ¬ ((Nat.toDigits 10 digits).length : Int) + exponent < -330 := by omega
  simp only [ofDecimal, Decimal.quotient, if_neg positive, if_neg high, if_neg low, Nat.pow_eq]
  by_cases whole : 0 ≤ exponent
  · simp only [if_pos whole]
  · simp only [if_neg whole]

/-- A zero at the end counts as a step of the exponent. -/
theorem ofDecimal_mul_ten :
    ofDecimal negative (digits * 10) exponent = ofDecimal negative digits (exponent + 1) := by
  by_cases zero : digits = 0
  · simp [ofDecimal, zero]
  have places : ((Nat.toDigits 10 (digits * 10)).length : Int) + exponent =
      ((Nat.toDigits 10 digits).length : Int) + (exponent + 1) := by
    rw [length_toDigits_mul_ten zero]
    push_cast
    ring
  by_cases high : 310 < ((Nat.toDigits 10 digits).length : Int) + (exponent + 1)
  · simp only [ofDecimal, places, high, if_true, zero, Nat.mul_eq_zero, if_false, or_self,
      show ¬ (10 = 0) by decide]
  by_cases low : ((Nat.toDigits 10 digits).length : Int) + (exponent + 1) < -330
  · simp only [ofDecimal, places, high, low, if_true, zero, Nat.mul_eq_zero, if_false, or_self,
      show ¬ (10 = 0) by decide]
  rw [ofDecimal_of_range (by omega) (by omega) (by omega),
    ofDecimal_of_range zero (by omega) (by omega)]
  unfold Decimal.quotient
  dsimp only
  by_cases whole : 0 ≤ exponent
  · have next : (exponent + 1).toNat = exponent.toNat + 1 := by omega
    have same : digits * 10 * 10 ^ exponent.toNat = digits * 10 ^ (exponent.toNat + 1) := by ring
    rw [if_pos whole, if_pos (by omega), next]
    dsimp only
    rw [same]
  by_cases last : 0 ≤ exponent + 1
  · obtain rfl : exponent = -1 := by omega
    rw [if_neg whole, if_pos last]
    change ofUnits negative (digits * 10 * unitsPerOne) (1 * 10) =
      ofUnits negative (digits * 1 * unitsPerOne) 1
    rw [Nat.mul_one, Nat.mul_right_comm, ofUnits_scale (by decide)]
  · have next : (-exponent).toNat = (-(exponent + 1)).toNat + 1 := by omega
    rw [if_neg whole, if_neg last, next, Nat.pow_succ, Nat.mul_right_comm]
    exact ofUnits_scale (by decide)

/-- Zeros at the end count as steps of the exponent. -/
theorem ofDecimal_mul_ten_pow (zeros : Nat) :
    ofDecimal negative (digits * 10 ^ zeros) exponent =
      ofDecimal negative digits (exponent + zeros) := by
  induction zeros generalizing exponent with
  | zero => rw [Nat.pow_zero, Nat.mul_one, Int.natCast_zero, Int.add_zero]
  | succ zeros ih =>
      rw [Nat.pow_succ, ← Nat.mul_assoc, ofDecimal_mul_ten, ih]
      congr 1
      push_cast
      ring

/-- Only the sign of a number depends on the sign of its decimal. -/
theorem ofDecimal_sign {units : Nat} (h : ofDecimal false digits exponent = finite false units) :
    ofDecimal negative digits exponent = finite negative units := by
  have rounded {dividend divisor : Nat} (h : ofUnits false dividend divisor = finite false units) :
      ofUnits negative dividend divisor = finite negative units := by
    unfold ofUnits at h ⊢
    dsimp only at h ⊢
    split at h
    · rename_i inside
      rw [if_pos inside, (finite.inj h).2]
    · cases h
  unfold ofDecimal at h ⊢
  dsimp only at h ⊢
  repeat' split at h
  · rename_i zero
    rw [if_pos zero, (finite.inj h).2]
  · cases h
  · rename_i nonzero inside low
    rw [if_neg nonzero, if_neg inside, if_pos low, (finite.inj h).2]
  · rename_i nonzero inside above whole
    rw [if_neg nonzero, if_neg inside, if_neg above, if_pos whole]
    exact rounded h
  · rename_i nonzero inside above small
    rw [if_neg nonzero, if_neg inside, if_neg above, if_neg small]
    exact rounded h

end

/-! ## Seventeen digits -/

section

variable {units digits : Nat} {exponent : Int}

theorem leadingScale_pos : 0 < leadingScale := by
  decide +kernel

/-- The power of ten splits off. -/
theorem pow_mul_pow_of_scale {less place rest : Nat} (same : less + place = 330 + rest) :
    10 ^ less * 10 ^ place = leadingScale * 10 ^ rest := by
  unfold leadingScale
  generalize 330 = first at same ⊢
  rw [← Nat.pow_add, same]
  exact Nat.pow_add 10 first rest

/-- Where the first digit of a number stands. -/
theorem exists_leadingPlace (positive : 0 < units) (inside : units < overflow) :
    ∃ place : Nat, place ≤ 638 ∧ leadingPlace units = (place : Int) - 329 ∧
      10 ^ place * unitsPerOne ≤ units * leadingScale ∧
      units * leadingScale < 10 ^ (place + 1) * unitsPerOne := by
  have one : unitsPerOne ≤ leadingScale := by decide +kernel
  have nonzero : units * leadingScale / unitsPerOne ≠ 0 := by
    have more : 1 * leadingScale ≤ units * leadingScale := Nat.mul_le_mul_right _ positive
    have some := unitsPerOne_pos
    rw [Ne, Nat.div_eq_zero_iff]
    omega
  obtain ⟨place, length, least, most⟩ := exists_length_toDigits nonzero
  refine ⟨place, ?_, ?_, (Nat.le_div_iff_mul_le unitsPerOne_pos).mp least,
    (Nat.div_lt_iff_lt_mul unitsPerOne_pos).mp most⟩
  · -- the largest numbers of the format have 309 digits before the point
    obtain ⟨last, small, top⟩ : ∃ last, last ≤ 639 ∧
        overflow * leadingScale ≤ 10 ^ last * unitsPerOne := ⟨639, le_rfl, by decide +kernel⟩
    have bound := (Nat.mul_lt_mul_of_pos_right inside leadingScale_pos).trans_le top
    have power := least.trans_lt ((Nat.div_lt_iff_lt_mul unitsPerOne_pos).mpr bound)
    have less := (Nat.pow_lt_pow_iff_right (by decide)).mp power
    omega
  · rw [leadingPlace, length]
    push_cast
    ring

/-- A quotient in units of a power of ten, and the decimals in that power as quotients. -/
theorem quotientAt_eq (units digits : Nat) (exponent : Int) :
    (Decimal.quotient ⟨digits, exponent⟩).1 = digits * (quotientAt units exponent).2 ∧
      units * (Decimal.quotient ⟨digits, exponent⟩).2 = (quotientAt units exponent).1 ∧
      0 < (Decimal.quotient ⟨digits, exponent⟩).2 ∧ 0 < (quotientAt units exponent).2 := by
  have ten (power : Nat) : 0 < 10 ^ power := Nat.pow_pos (by decide)
  simp only [Decimal.quotient, quotientAt, Nat.pow_eq]
  by_cases whole : 0 ≤ exponent
  · simp only [if_pos whole]
    refine ⟨?_, Nat.mul_one _, Nat.one_pos, Nat.mul_pos unitsPerOne_pos (ten _)⟩
    rw [Nat.mul_assoc, Nat.mul_comm unitsPerOne]
  · simp only [if_neg whole]
    exact ⟨trivial, trivial, ten _, unitsPerOne_pos⟩

/-- Counted in the place of its seventeenth digit, a number has seventeen digits before the
point. -/
theorem quotientAt_bounds {place : Nat} (least : 10 ^ place * unitsPerOne ≤ units * leadingScale)
    (most : units * leadingScale < 10 ^ (place + 1) * unitsPerOne) :
    10 ^ 16 * (quotientAt units (place - 346)).2 ≤ (quotientAt units (place - 346)).1 ∧
      (quotientAt units (place - 346)).1 < 10 ^ 17 * (quotientAt units (place - 346)).2 := by
  simp only [quotientAt, Nat.pow_eq]
  by_cases high : 0 ≤ (place : Int) - 346
  · obtain ⟨more, rfl⟩ : ∃ more, place = 346 + more := ⟨place - 346, by omega⟩
    have power : (((346 + more : Nat) : Int) - 346).toNat = more := by omega
    simp only [if_pos high, power]
    have down : 10 ^ (346 + more) * unitsPerOne =
        10 ^ 16 * (unitsPerOne * 10 ^ more) * leadingScale := by
      have split := @pow_mul_pow_of_scale 0 (346 + more) (16 + more) (by omega)
      rw [Nat.pow_zero, Nat.one_mul, Nat.pow_add 10 16] at split
      rw [split]
      ring
    have up : 10 ^ (346 + more + 1) * unitsPerOne =
        10 ^ 17 * (unitsPerOne * 10 ^ more) * leadingScale := by
      rw [Nat.pow_succ, Nat.mul_right_comm, down]
      ring
    rw [down] at least
    rw [up] at most
    exact ⟨Nat.le_of_mul_le_mul_right least leadingScale_pos, Nat.lt_of_mul_lt_mul_right most⟩
  · obtain ⟨less, same⟩ : ∃ less, less + place = 346 := ⟨346 - place, by omega⟩
    have power : (-((place : Int) - 346)).toNat = less := by omega
    simp only [if_neg high, power]
    have down : 10 ^ less * (10 ^ place * unitsPerOne) = 10 ^ 16 * unitsPerOne * leadingScale := by
      rw [← Nat.mul_assoc, @pow_mul_pow_of_scale less place 16 (by omega)]
      ring
    have up : 10 ^ less * (10 ^ (place + 1) * unitsPerOne) =
        10 ^ 17 * unitsPerOne * leadingScale := by
      rw [← Nat.mul_assoc, @pow_mul_pow_of_scale less (place + 1) 17 (by omega)]
      ring
    have here : 10 ^ less * (units * leadingScale) = units * 10 ^ less * leadingScale := by ring
    have least' := Nat.mul_le_mul_left (10 ^ less) least
    have most' := Nat.mul_lt_mul_of_pos_left most (Nat.pow_pos (n := less) (by decide : 0 < 10))
    rw [down, here] at least'
    rw [up, here] at most'
    exact ⟨Nat.le_of_mul_le_mul_right least' leadingScale_pos, Nat.lt_of_mul_lt_mul_right most'⟩

/-- **Seventeen digits read back.** -/
theorem ofDecimal_seventeen (exact : Exact units) (positive : 0 < units)
    (inside : units < overflow) :
    ofDecimal false (nearestAt units (leadingPlace units - 17)).digits
        (nearestAt units (leadingPlace units - 17)).exponent = finite false units := by
  obtain ⟨place, high, leading, least, most⟩ := exists_leadingPlace positive inside
  obtain ⟨lower, upper⟩ := quotientAt_bounds least most
  have exponent : leadingPlace units - 17 = (place : Int) - 346 := by omega
  rw [exponent]
  change ofDecimal false (roundQuotient (quotientAt units (place - 346)).1
    (quotientAt units (place - 346)).2) (place - 346) = _
  obtain ⟨-, -, -, step⟩ := quotientAt_eq units 0 (place - 346)
  have near := @roundQuotient_near (quotientAt units (place - 346)).1 _ step
  generalize roundQuotient (quotientAt units (place - 346)).1
    (quotientAt units (place - 346)).2 = digits at near ⊢
  obtain ⟨dividend, divisor, some, -⟩ := quotientAt_eq units digits (place - 346)
  generalize (quotientAt units (place - 346)).1 = counted at *
  generalize (quotientAt units (place - 346)).2 = grid at *
  have close : Close (Decimal.quotient ⟨digits, place - 346⟩).1
      (Decimal.quotient ⟨digits, place - 346⟩).2 units := by
    constructor
    · rw [dividend, divisor]
      omega
    · rw [dividend, divisor]
      omega
  have enough : 10 ^ 16 ≤ digits := by
    by_contra few
    have gap : (digits + 1) * grid ≤ 10 ^ 16 * grid := Nat.mul_le_mul_right _ (by omega)
    rw [Nat.succ_mul] at gap
    omega
  have few : digits ≤ 10 ^ 17 := by
    by_contra many
    have gap : (10 ^ 17 + 1) * grid ≤ digits * grid := Nat.mul_le_mul_right _ (by omega)
    rw [Nat.succ_mul] at gap
    omega
  have long : ¬ (Nat.toDigits 10 digits).length ≤ 16 := by
    rw [Nat.length_toDigits_le_iff (by decide) (by decide)]
    omega
  have short : (Nat.toDigits 10 digits).length ≤ 18 := by
    rw [Nat.length_toDigits_le_iff (by decide) (by decide)]
    omega
  rw [ofDecimal_of_range (by omega) (by omega) (by omega), ofUnits,
    roundUnits_eq_of_close exact some close, if_pos inside]

/-! ## The shortest decimal -/

/-- What is found by trying has the property of everything that is found, or of the last resort. -/
theorem searchDecimal_induction {found? : Nat → Option Decimal} {lastResort : Nat → Decimal}
    {motive : Decimal → Prop} {tries places : Nat}
    (found : ∀ places decimal, found? places = some decimal → motive decimal)
    (last : motive (lastResort (places + tries))) :
    motive (searchDecimal found? lastResort tries places) := by
  induction tries generalizing places with
  | zero => exact last
  | succ tries ih =>
      unfold searchDecimal
      split
      · rename_i decimal here
        exact found places decimal here
      · exact ih (by rwa [Nat.add_assoc, Nat.add_comm 1])

/-- A decimal that was tried reads back. -/
theorem readsBack_of_mem_candidatesAt {decimal : Decimal}
    (tried : decimal ∈ candidatesAt units exponent) : readsBack units decimal = true := by
  unfold candidatesAt at tried
  split at tried
  exact (List.mem_filter.mp tried).2

/-- What the search comes to reads back. -/
theorem readsBack_shortest (exact : Exact units) (positive : 0 < units)
    (inside : units < overflow) : readsBack units (shortest units) = true := by
  unfold shortest
  refine searchDecimal_induction (motive := fun decimal => readsBack units decimal = true) ?_ ?_
  · intro places decimal here
    exact readsBack_of_mem_candidatesAt (List.mem_of_mem_head? (Option.mem_def.mpr here))
  · have seventeen : ((1 + 16 : Nat) : Int) = 17 := rfl
    rw [seventeen, readsBack, ofDecimal_seventeen exact positive inside]
    exact beq_self_eq_true _

/-- **The shortest decimal of a number reads back as that number.** -/
theorem ofDecimal_shortest (negative : Bool) (exact : Exact units) (positive : 0 < units)
    (inside : units < overflow) :
    ofDecimal negative (shortest units).digits (shortest units).exponent =
      finite negative units :=
  ofDecimal_sign (beq_iff_eq.mp (readsBack_shortest exact positive inside))

end

end PlanGraph.Binary64
