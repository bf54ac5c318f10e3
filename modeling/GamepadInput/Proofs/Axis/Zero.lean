import GamepadInput.Axis.Normalize
import Mathlib.Algebra.Group.Int.Defs
import Mathlib.Algebra.Group.Nat.Defs

/-!
# Axis values are not the negative zero

Two numbers that are equal have different bits only if both are zero.  A value that is mapped to an
axis is one less than some other, which makes it the plain zero or so far from zero that the narrow
format tells it from zero (`Coarse`).  So axis values that are equal are the same
(`Binary.eq_of_equals`).
-/

namespace GamepadInput

/-! ## Ranks and units -/

theorem div_le_roundHalfEven (num den : Nat) : num / den ≤ roundHalfEven num den := by
  unfold roundHalfEven
  dsimp only
  split <;> omega

namespace BinaryFormat

variable (f : BinaryFormat)

theorem stride_pos : 0 < f.stride := by
  rw [stride, Nat.one_shiftLeft]
  exact Nat.two_pow_pos _

/-- A significand has no more than its bits. -/
theorem significand_lt (rank place : Nat) :
    (f.stride + rank % f.stride) * 2 ^ place < f.stride * 2 ^ (place + 1) := by
  have remainder := Nat.mod_lt rank f.stride_pos
  calc (f.stride + rank % f.stride) * 2 ^ place
      < (f.stride * 2) * 2 ^ place := Nat.mul_lt_mul_of_pos_right (by omega) (Nat.two_pow_pos _)
    _ = f.stride * 2 ^ (place + 1) := by rw [Nat.mul_assoc, Nat.pow_succ, Nat.mul_comm 2]

/-- A magnitude is less than `stride` times a power of two, or a multiple of that power. -/
theorem units_lt_or_dvd (exponent rank : Nat) :
    f.units rank < f.stride * 2 ^ exponent ∨ 2 ^ exponent ∣ f.units rank := by
  unfold units
  split
  · rename_i small
    exact .inl (Nat.lt_of_lt_of_le small (Nat.le_mul_of_pos_right _ (Nat.two_pow_pos _)))
  · rw [Nat.shiftLeft_eq]
    by_cases high : exponent ≤ rank / f.stride - 1
    · exact .inr (Nat.dvd_mul_left_of_dvd (Nat.pow_dvd_pow 2 high) _)
    · exact .inl (Nat.lt_of_lt_of_le (f.significand_lt rank _)
        (Nat.mul_le_mul_left _ (Nat.pow_le_pow_right (by decide) (by omega))))

/-- A high rank is a large magnitude. -/
theorem le_units {exponent rank : Nat} (high : (exponent + 1) * f.stride ≤ rank) :
    f.stride * 2 ^ exponent ≤ f.units rank := by
  have blocks : exponent + 1 ≤ rank / f.stride := (Nat.le_div_iff_mul_le f.stride_pos).mpr high
  have normal : ¬rank < f.stride := fun small => by
    rw [Nat.div_eq_of_lt small] at blocks
    cases blocks
  rw [units, if_neg normal, Nat.shiftLeft_eq]
  exact Nat.mul_le_mul (Nat.le_add_right _ _) (Nat.pow_le_pow_right (by decide) (by omega))

/-- A large magnitude has a high rank. -/
theorem le_nearestRank (wide : 0 < f.precision) {num den exponent : Nat}
    (large : f.stride * 2 ^ exponent ≤ num / den) :
    (exponent + 1) * f.stride ≤ f.nearestRank num den := by
  have stride : f.stride = 2 ^ (f.precision - 1) := by rw [BinaryFormat.stride, Nat.one_shiftLeft]
  generalize quotient : num / den = q at large
  have positive : q ≠ 0 := by
    rintro rfl
    have power := Nat.mul_pos f.stride_pos (Nat.two_pow_pos exponent)
    omega
  have long : f.precision - 1 + exponent ≤ q.log2 := by
    rw [Nat.le_log2 positive, Nat.pow_add, ← stride]
    exact large
  -- what is rounded keeps all the bits of the significand
  have whole : f.stride ≤ roundHalfEven num (den <<< (q.log2 + 1 - f.precision)) := by
    refine Nat.le_trans ?_ (div_le_roundHalfEven _ _)
    rw [Nat.shiftLeft_eq, ← Nat.div_div_eq_div_mul, quotient,
      Nat.le_div_iff_mul_le (Nat.two_pow_pos _), stride, ← Nat.pow_add]
    refine Nat.le_trans (Nat.pow_le_pow_right (by decide) ?_) (Nat.log2_self_le positive)
    omega
  calc (exponent + 1) * f.stride
      = exponent * f.stride + f.stride := Nat.succ_mul _ _
    _ ≤ (q.log2 + 1 - f.precision) * f.stride +
          roundHalfEven num (den <<< (q.log2 + 1 - f.precision)) :=
        Nat.add_le_add (Nat.mul_le_mul_right _ (by omega)) whole
    _ = f.nearestRank num den := by rw [nearestRank, quotient]

end BinaryFormat

namespace Binary

variable {f : BinaryFormat}

def isNegativeZero : Binary f → Bool
  | .nan => false
  | .number negative rank _ => negative && rank = 0

theorem isNegativeZero_ofRank {negative : Bool} {rank : Nat} (positive : 0 < min rank f.infinity) :
    (ofRank negative rank : Binary f).isNegativeZero = false := by
  have nonzero : min rank f.infinity ≠ 0 := Nat.ne_of_gt positive
  simp [isNegativeZero, ofRank, nonzero]

theorem exists_position? {value : Binary f} (number : value.isNaN = false) :
    ∃ place, value.position? = some place := by
  cases value with
  | nan => cases number
  | number => exact ⟨_, rfl⟩

theorem equals_iff {x y : Binary f} : x.equals y = true ↔ ∃ place, x.position? = some place ∧
    y.position? = some place := by
  unfold equals
  cases x.position? <;> cases y.position? <;> simp [eq_comm]

theorem equals_self {value : Binary f} (number : value.isNaN = false) :
    value.equals value = true := by
  obtain ⟨place, here⟩ := exists_position? number
  exact equals_iff.mpr ⟨place, here, here⟩

/-- Equal numbers are equal to the same numbers. -/
theorem equals_congr {x y : Binary f} (same : x.equals y = true) (other : Binary f) :
    x.equals other = y.equals other := by
  obtain ⟨place, left, right⟩ := equals_iff.mp same
  simp only [equals, left, right]

/-- Numbers that are equal are the same, if neither is the negative zero. -/
theorem eq_of_equals {x y : Binary f} (equal : x.equals y = true)
    (plain : x.isNegativeZero = false) (plain' : y.isNegativeZero = false) : x = y := by
  cases x with
  | nan => cases equal
  | number negative rank =>
    cases y with
    | nan => cases equal
    | number negative' rank' =>
      simp only [equals, position?, decide_eq_true_eq] at equal
      simp only [isNegativeZero, Bool.and_eq_false_iff, decide_eq_false_iff_not] at plain plain'
      have both : negative = negative' ∧ rank = rank' := by
        cases negative <;> cases negative' <;> simp at equal plain plain' ⊢ <;> omega
      obtain ⟨rfl, rfl⟩ := both
      rfl

end Binary

/-! ## Values that are mapped to an axis -/

/-- Not a number, the plain zero, or so far from zero that the narrow format tells it from zero. -/
def Coarse : Binary64 → Prop
  | .nan => True
  | .number negative rank _ =>
    (negative = false ∧ rank = 0) ∨ 918 * BinaryFormat.double.stride ≤ rank

namespace Coarse

open BinaryFormat

theorem ofRank {negative : Bool} {rank : Nat} (high : 918 * double.stride ≤ rank) :
    Coarse (.ofRank negative rank) :=
  .inr (Nat.le_min.mpr ⟨high, by decide +kernel⟩)

theorem ofUnits {negative : Bool} {num : Nat} (large : double.stride * 2 ^ 917 ≤ num) :
    Coarse (.ofUnits negative num 1) :=
  ofRank (double.le_nearestRank (by decide) (by rwa [Nat.div_one]))

/-- A magnitude less one, or its negative less one, is nothing or far from zero. -/
theorem sum_eq_zero_or_le (negative : Bool) (rank : Nat) :
    let sum := Binary.signedUnits double negative rank + -2 ^ 1074
    (sum = 0 ∧ negative = false) ∨ double.stride * 2 ^ 917 ≤ sum.natAbs := by
  have size : double.stride * 2 ^ 917 = 2 ^ 969 := by decide +kernel
  have one : (2 : Int) ^ 1074 = 2 ^ 105 * (2 ^ 969 : Nat) := by decide +kernel
  have stride : double.stride = 2 ^ 52 := by decide +kernel
  have units := double.units_lt_or_dvd 969 rank
  have positive (n : Nat) : 0 < 2 ^ n := Nat.two_pow_pos n
  specialize positive 969
  rw [size, one]
  rw [stride] at units
  unfold Binary.signedUnits
  generalize double.units rank = n at units
  generalize 2 ^ 969 = power at units positive
  rcases units with small | ⟨count, rfl⟩
  · right
    cases negative <;> dsimp only [cond_true, cond_false] <;> omega
  · cases negative with
    | true =>
      right
      dsimp only [cond_true]
      omega
    | false =>
      have multiple : (((power * count : Nat) : Int) + -(2 ^ 105 * (power : Int))) =
          power * (count - 2 ^ 105) := by
        rw [Int.mul_sub]
        push_cast
        omega
      dsimp only [cond_false]
      rw [multiple]
      by_cases same : (count : Int) - 2 ^ 105 = 0
      · exact .inl ⟨by rw [same, Int.mul_zero], rfl⟩
      · right
        rw [Int.natAbs_mul]
        exact Nat.le_mul_of_pos_right _ (Int.natAbs_pos.mpr same)

/-- One less than any value. -/
theorem sub_one (value : Binary64) : Coarse (value.sub (.ofInt 1)) := by
  have one : (Binary.ofInt 1 : Binary64).neg =
      .number true (1023 * double.stride) (by decide +kernel) := by
    decide +kernel
  have units : Binary.signedUnits double true (1023 * double.stride) = -2 ^ 1074 := by
    decide +kernel
  have finite : ¬1023 * double.stride = double.infinity := by decide +kernel
  rw [Binary.sub, one]
  cases value with
  | nan => trivial
  | number negative rank =>
    simp only [Binary.add, units, if_neg finite, decide_eq_false finite, Bool.false_and,
      Bool.false_eq_true, if_false, Bool.and_true]
    split
    · rename_i infinite
      exact .inr (infinite ▸ by decide +kernel)
    · rcases sum_eq_zero_or_le negative rank with ⟨zero, rfl⟩ | large
      · rw [if_pos zero]
        exact .inl ⟨rfl, rfl⟩
      · rw [if_neg]
        · exact ofUnits large
        · intro zero
          rw [zero] at large
          revert large
          decide +kernel

theorem unitClamp {value : Binary64} (coarse : Coarse value) : Coarse (Axis.unitClamp value) := by
  have low : Coarse (.ofInt (-1)) := .inr (by decide +kernel)
  have high : Coarse (.ofInt 1) := .inr (by decide +kernel)
  unfold Axis.unitClamp Binary.clamp
  generalize Binary.ofInt (-1) = least at low
  generalize Binary.ofInt 1 = most at high
  have raised : Coarse (if value.lt least then least else value) := by
    split
    · exact low
    · exact coarse
  generalize (if value.lt least then least else value) = between at raised
  dsimp only
  split
  · exact high
  · exact raised

/-- Narrowing it does not make it the negative zero. -/
theorem isNegativeZero_convert {value : Binary64} (coarse : Coarse value) :
    (value.convert .single).isNegativeZero = false := by
  cases value with
  | nan => rfl
  | number negative rank =>
    rcases coarse with ⟨rfl, rfl⟩ | high
    · rfl
    · rw [Binary.convert]
      by_cases infinite : rank = double.infinity
      · rw [if_pos infinite]
        exact Binary.isNegativeZero_ofRank (by decide +kernel)
      · rw [if_neg infinite]
        have large : single.stride * 2 ^ 21 ≤
            (double.units rank <<< single.scale) / (1 <<< double.scale) := by
          have positive : 0 < 1 <<< double.scale := by decide +kernel
          have whole : single.stride * 2 ^ 21 * (1 <<< double.scale) =
              double.stride * 2 ^ 917 * 2 ^ single.scale := by
            decide +kernel
          have reaches := double.le_units high
          rw [Nat.le_div_iff_mul_le positive, whole, Nat.shiftLeft_eq]
          exact Nat.mul_le_mul_right _ reaches
        have visible := single.le_nearestRank (by decide) large
        have finite : 22 * single.stride ≤ single.infinity := by decide +kernel
        have positive := single.stride_pos
        exact Binary.isNegativeZero_ofRank (by omega)

end Coarse

namespace Axis

theorem isNegativeZero_ofFraction (offset span : Int) :
    (ofFraction offset span).isNegativeZero = false := by
  unfold ofFraction
  dsimp only
  exact (Coarse.sub_one _).unitClamp.isNegativeZero_convert

theorem isNegativeZero_linear {value min max : Int} {result : Binary32}
    (mapped : linear value min max = .ok result) : result.isNegativeZero = false := by
  unfold linear at mapped
  split at mapped
  · cases mapped
    rfl
  · obtain ⟨span, -, mapped⟩ := exists_of_bind_ok mapped
    obtain ⟨offset, -, mapped⟩ := exists_of_bind_ok mapped
    rw [← Except.ok.inj mapped]
    exact isNegativeZero_ofFraction offset span

theorem isNegativeZero_halfRange (value half : Binary64) :
    (halfRange value half).isNegativeZero = false := by
  unfold halfRange
  split
  · rfl
  · exact (Coarse.sub_one (value.div half)).unitClamp.isNegativeZero_convert

end Axis

end GamepadInput
