import GamepadInput.Proofs.Axis.Extent
import GamepadInput.Proofs.Axis.Zero

/-!
# Axis values lie between minus one and one

A number that is clamped lies between minus one and one (`inUnit_unitClamp`), and narrowing it does
not carry it past them, since rounding does not pass a power of two (`nearestRank_le`).  So every
raw sample is mapped into the unit.  Clamping leaves not-a-number what it is.
-/

namespace GamepadInput

/-! ## Rounding below a power of two -/

theorem roundHalfEven_le {num den bound : Nat} (positive : 0 < den) (below : num ≤ den * bound) :
    roundHalfEven num den ≤ bound := by
  have floor : num / den ≤ bound := Nat.div_le_of_le_mul below
  rcases Nat.lt_or_eq_of_le floor with less | same
  · unfold roundHalfEven
    dsimp only
    split <;> omega
  · have whole := Nat.div_add_mod num den
    rw [same] at whole
    have exact_ : num % den = 0 := by omega
    have first : compare (2 * (num % den)) den = .lt := by
      rw [exact_, Nat.mul_zero]
      exact Nat.compare_eq_lt.mpr positive
    simp only [roundHalfEven, first]
    exact floor

namespace BinaryFormat

variable (f : BinaryFormat)

/-- A low rank is a small magnitude. -/
theorem units_le {exponent rank : Nat} (low : rank ≤ (exponent + 1) * f.stride) :
    f.units rank ≤ f.stride * 2 ^ exponent := by
  have positive := f.stride_pos
  unfold units
  split
  · rename_i small
    exact Nat.le_trans (Nat.le_of_lt small) (Nat.le_mul_of_pos_right _ (Nat.two_pow_pos _))
  · rename_i normal
    have blocks : 1 ≤ rank / f.stride := (Nat.le_div_iff_mul_le positive).mpr (by omega)
    have most : rank / f.stride ≤ exponent + 1 := Nat.div_le_of_le_mul (by rwa [Nat.mul_comm])
    rw [Nat.shiftLeft_eq]
    rcases Nat.lt_or_eq_of_le most with less | last
    · exact Nat.le_trans (Nat.le_of_lt (f.significand_lt rank _))
        (Nat.mul_le_mul_left _ (Nat.pow_le_pow_right (by decide) (by omega)))
    · have whole := Nat.div_add_mod rank f.stride
      rw [last, Nat.mul_comm] at whole
      have exact_ : rank % f.stride = 0 := by omega
      exact Nat.le_of_eq (by rw [exact_, last, Nat.add_zero, Nat.add_sub_cancel])

/-- Rounding a small magnitude gives a low rank. -/
theorem nearestRank_le (wide : 0 < f.precision) {num den exponent : Nat} (positive : 0 < den)
    (small : num ≤ den * (f.stride * 2 ^ exponent)) :
    f.nearestRank num den ≤ (exponent + 1) * f.stride := by
  have stride : f.stride = 2 ^ (f.precision - 1) := by rw [BinaryFormat.stride, Nat.one_shiftLeft]
  have quotient : num / den ≤ 2 ^ (f.precision - 1 + exponent) := by
    rw [Nat.pow_add, ← stride]
    exact Nat.div_le_of_le_mul small
  have bits : (num / den).log2 ≤ f.precision - 1 + exponent := by
    by_cases zero : num / den = 0
    · rw [zero]
      exact Nat.zero_le _
    · exact (Nat.pow_le_pow_iff_right (by decide)).mp
        (Nat.le_trans (Nat.log2_self_le zero) quotient)
  unfold nearestRank
  dsimp only
  generalize extra : (num / den).log2 + 1 - f.precision = excess
  have power : 0 < den <<< excess := by
    rw [Nat.shiftLeft_eq]
    exact Nat.mul_pos positive (Nat.two_pow_pos _)
  have most : excess ≤ exponent := by omega
  rcases Nat.lt_or_eq_of_le most with less | rfl
  · -- the quotient has no more bits than the significand, once the excess is dropped
    have length : num / den < 2 ^ (f.precision + excess) :=
      Nat.lt_of_lt_of_le Nat.lt_log2_self (Nat.pow_le_pow_right (by decide) (by omega))
    have double : 2 ^ f.precision = 2 * f.stride := by
      rw [stride, ← Nat.pow_succ', Nat.succ_eq_add_one, Nat.sub_add_cancel wide]
    have below : num ≤ (den <<< excess) * (2 * f.stride) := by
      have strict := (Nat.div_lt_iff_lt_mul positive).mp length
      rw [Nat.shiftLeft_eq, ← double, Nat.mul_assoc, ← Nat.pow_add, Nat.add_comm excess,
        Nat.mul_comm den]
      exact Nat.le_of_lt strict
    calc excess * f.stride + roundHalfEven num (den <<< excess)
        ≤ excess * f.stride + 2 * f.stride := Nat.add_le_add_left (roundHalfEven_le power below) _
      _ = (excess + 2) * f.stride := (Nat.add_mul _ _ _).symm
      _ ≤ (exponent + 1) * f.stride := Nat.mul_le_mul_right _ (by omega)
  · have below : num ≤ (den <<< excess) * f.stride := by
      rw [Nat.shiftLeft_eq, Nat.mul_assoc, Nat.mul_comm (2 ^ excess)]
      exact small
    calc excess * f.stride + roundHalfEven num (den <<< excess)
        ≤ excess * f.stride + f.stride := Nat.add_le_add_left (roundHalfEven_le power below) _
      _ = (excess + 1) * f.stride := (Nat.succ_mul _ _).symm

end BinaryFormat

/-! ## Values within the unit -/

/-- A number between minus one and one. -/
def Binary.InUnit {f : BinaryFormat} (value : Binary f) : Prop :=
  (ofInt (-1)).le value = true ∧ value.le (ofInt 1) = true

instance {f : BinaryFormat} (value : Binary f) : Decidable value.InUnit :=
  inferInstanceAs (Decidable (_ ∧ _))

namespace Binary

open BinaryFormat

variable {f : BinaryFormat}

section Unit

variable {bound : Nat} (one : (ofInt 1 : Binary f).position? = some (bound : Int))

include one

/-- Minus one is as far from zero as one is. -/
theorem position?_neg_one : (ofInt (-1) : Binary f).position? = some (-(bound : Int)) := by
  have rank : ((min (f.nearestRank (1 <<< f.scale) 1) f.infinity : Nat) : Int) = bound :=
    Option.some.inj one
  exact congrArg (fun place => some (-place)) rank

/-- The unit in ranks. -/
theorem inUnit_iff {value : Binary f} {place : Int} (here : value.position? = some place) :
    value.InUnit ↔ -(bound : Int) ≤ place ∧ place ≤ bound := by
  simp only [InUnit, le, position?_neg_one one, one, here, decide_eq_true_eq]

theorem inUnit_number_iff {negative : Bool} {rank : Nat} (finite : rank ≤ f.infinity) :
    (number negative rank finite).InUnit ↔ rank ≤ bound := by
  rw [inUnit_iff one rfl]
  cases negative <;> dsimp only [cond_true, cond_false] <;> omega

end Unit

/-- A number that is clamped lies within the unit. -/
theorem inUnit_unitClamp {value : Binary f} (number : value.isNaN = false) :
    (Axis.unitClamp value).InUnit := by
  obtain ⟨bound, one⟩ : ∃ bound : Nat, (ofInt 1 : Binary f).position? = some (bound : Int) :=
    ⟨_, rfl⟩
  have minusOne := position?_neg_one one
  obtain ⟨place, here⟩ := exists_position? number
  have raises : value.lt (ofInt (-1)) = decide (place < -(bound : Int)) := by
    simp only [lt, here, minusOne]
  have lowers : (ofInt 1 : Binary f).lt value = decide ((bound : Int) < place) := by
    simp only [lt, here, one]
  have ordered : (ofInt 1 : Binary f).lt (ofInt (-1)) = false := by
    simp only [lt, one, minusOne, decide_eq_false_iff_not]
    omega
  simp only [Axis.unitClamp, clamp, raises, decide_eq_true_eq]
  by_cases below : place < -(bound : Int)
  · simp only [if_pos below, ordered, Bool.false_eq_true, if_false]
    rw [inUnit_iff one minusOne]
    omega
  · simp only [if_neg below, lowers, decide_eq_true_eq]
    by_cases above : (bound : Int) < place
    · rw [if_pos above, inUnit_iff one one]
      omega
    · rw [if_neg above, inUnit_iff one here]
      omega

/-- A value within the unit stays there in the narrow format. -/
theorem InUnit.convert {value : Binary64} (inUnit : value.InUnit) :
    (value.convert .single).InUnit := by
  have one : (ofInt 1 : Binary64).position? = some ((1023 * double.stride : Nat) : Int) := by
    decide +kernel
  have narrow : (ofInt 1 : Binary32).position? = some ((127 * single.stride : Nat) : Int) := by
    decide +kernel
  cases value with
  | nan => exact absurd inUnit (by decide)
  | number negative rank finite =>
    have low := (inUnit_number_iff one finite).mp inUnit
    have below : rank ≠ double.infinity := by
      have past : 1023 * double.stride < double.infinity := by decide +kernel
      omega
    have small : double.units rank <<< single.scale ≤
        (1 <<< double.scale) * (single.stride * 2 ^ 126) := by
      have whole : (1 <<< double.scale) * (single.stride * 2 ^ 126) =
          (double.stride * 2 ^ 1022) <<< single.scale := by
        decide +kernel
      have reaches := @units_le double 1022 rank low
      rw [whole, Nat.shiftLeft_eq, Nat.shiftLeft_eq]
      exact Nat.mul_le_mul_right _ reaches
    have rounded := single.nearestRank_le (by decide) (by decide +kernel) small
    rw [Binary.convert, if_neg below]
    exact (inUnit_number_iff narrow _).mpr (Nat.le_trans (Nat.min_le_left _ _) rounded)

/-! ## Arithmetic that gives numbers -/

section Finite

variable {value : Binary f} {negative : Bool} {rank : Nat} (finite : rank ≤ f.infinity)
  (below : rank < f.infinity)

include below

theorem isNaN_mul (nonzero : 0 < rank) (plain : value.isNaN = false) :
    ((number negative rank finite).mul value).isNaN = false := by
  cases value with
  | nan => cases plain
  | number sign other =>
    simp only [mul, Nat.ne_of_lt below, decide_false, Bool.false_or, decide_eq_true_eq]
    by_cases infinite : other = f.infinity
    · have some_ : (decide (rank = 0) || decide (other = 0)) = false := by
        rw [Bool.or_eq_false_iff, decide_eq_false_iff_not, decide_eq_false_iff_not]
        omega
      simp only [if_pos infinite, some_, Bool.false_eq_true, if_false]
      rfl
    · rw [if_neg infinite]
      rfl

theorem isNaN_div (nonzero : 0 < rank) (plain : value.isNaN = false) :
    (value.div (number negative rank finite)).isNaN = false := by
  cases value with
  | nan => cases plain
  | number sign other =>
    simp only [div, if_neg (Nat.ne_of_lt below), if_neg (Nat.ne_of_gt nonzero)]
    split <;> rfl

theorem isNaN_sub (plain : value.isNaN = false) :
    (value.sub (number negative rank finite)).isNaN = false := by
  cases value with
  | nan => cases plain
  | number sign other =>
    simp only [sub, neg, add, if_neg (Nat.ne_of_lt below), decide_eq_false (Nat.ne_of_lt below),
      Bool.false_and, Bool.false_eq_true, if_false]
    split
    · rfl
    · split <;> rfl

end Finite

/-- A positive whole number of 64 bits is neither zero nor infinite. -/
theorem ofInt_positive {i : Int} (positive : 0 < i) (fits : FitsWord 64 i) :
    ∃ rank, ∃ finite : rank ≤ double.infinity, (ofInt i : Binary64) = number false rank finite ∧
      0 < rank ∧ rank < double.infinity := by
  have sign : decide (i < 0) = false := decide_eq_false (by omega)
  have low : (1022 + 1) * double.stride ≤ double.nearestRank (i.natAbs <<< double.scale) 1 := by
    refine double.le_nearestRank (by decide) ?_
    have one : double.stride * 2 ^ 1022 = 1 <<< double.scale := by decide +kernel
    rw [one, Nat.div_one, Nat.shiftLeft_eq, Nat.shiftLeft_eq]
    exact Nat.mul_le_mul_right _ (by omega)
  have high : double.nearestRank (i.natAbs <<< double.scale) 1 ≤ (1085 + 1) * double.stride := by
    refine double.nearestRank_le (by decide) (by decide) ?_
    have most : 1 * (double.stride * 2 ^ 1085) = 2 ^ 63 <<< double.scale := by decide +kernel
    have bound : i < ((1 <<< 63 : Nat) : Int) := fits.2
    have power : 1 <<< 63 = 2 ^ 63 := by decide
    rw [most, Nat.shiftLeft_eq, Nat.shiftLeft_eq]
    exact Nat.mul_le_mul_right _ (by omega)
  have room : (1085 + 1) * double.stride < double.infinity := by decide +kernel
  have stride := double.stride_pos
  refine ⟨min (double.nearestRank (i.natAbs <<< double.scale) 1) double.infinity,
    Nat.min_le_right _ _, ?_, ?_, ?_⟩
  · rw [ofInt, ofUnits, ofRank, sign]
  · omega
  · omega

end Binary

namespace Axis

open BinaryFormat

/-! ## Values that are mapped to an axis -/

theorem inUnit_ofFraction (offset : Int) {span : Int} (positive : 0 < span)
    (fits : FitsWord 64 span) : (ofFraction offset span).InUnit := by
  obtain ⟨rank, finite, is_, nonzero, below⟩ := Binary.ofInt_positive positive fits
  obtain ⟨one, finiteOne, isOne, -, belowOne⟩ := @Binary.ofInt_positive 1 (by decide) (by decide)
  obtain ⟨two, finiteTwo, isTwo, someTwo, belowTwo⟩ :=
    @Binary.ofInt_positive 2 (by decide) (by decide)
  unfold ofFraction
  dsimp only
  rw [is_, isOne, isTwo]
  -- The offset may be rounded to infinity; the span and the constants never are, nor to zero.
  have twice := @Binary.isNaN_mul _ (Binary.ofInt offset) false _ finiteTwo belowTwo someTwo rfl
  have fraction := @Binary.isNaN_div _ _ false _ finite below nonzero twice
  exact (Binary.inUnit_unitClamp (Binary.isNaN_sub finiteOne belowOne fraction)).convert

theorem inUnit_linear {value min max : Int} {result : Binary32}
    (mapped : linear value min max = .ok result) : result.InUnit := by
  unfold linear at mapped
  split at mapped
  · cases mapped
    decide +kernel
  · rename_i extent
    obtain ⟨span, difference, mapped⟩ := exists_of_bind_ok mapped
    obtain ⟨offset, -, mapped⟩ := exists_of_bind_ok mapped
    obtain ⟨fits, rfl⟩ := checkedSub_eq_ok_iff.mp difference
    rw [← Except.ok.inj mapped]
    exact inUnit_ofFraction offset (by omega) fits

theorem inUnit_of_mem_steps {value : Binary32} (member : value ∈ steps) : value.InUnit := by
  refine forall_mem_steps_iff.mpr ⟨?_, ?_, ?_⟩ value member <;> decide +kernel

namespace Layout

variable {layout after : Layout} {axis : Nat}

theorem value_of_mem_set {value : Binary32} {change : Change}
    (member : change ∈ (layout.set axis value).2) : change.axis = axis ∧ change.value = value := by
  unfold set at member
  split at member
  · cases member
  · split at member
    · cases member
    · cases List.mem_singleton.mp member
      exact ⟨rfl, rfl⟩

/-- Every value that a raw sample is mapped to lies within the unit. -/
theorem inUnit_feed {raw : Int} {changes : List Change}
    (fed : layout.feed axis raw = .ok (after, changes)) {change : Change}
    (member : change ∈ changes) : change.value.InUnit := by
  cases feeds_of_feed fed with
  | outside | second => cases member
  | linear here source mapped =>
    rw [(value_of_mem_set member).2]
    exact inUnit_linear mapped
  | hat here source sampled =>
    obtain ⟨across, along⟩ := mem_steps_of_hatSample sampled
    rcases List.mem_append.mp member with first | second
    · rw [(value_of_mem_set first).2]
      exact inUnit_of_mem_steps across
    · rw [(value_of_mem_set second).2]
      exact inUnit_of_mem_steps along

/-- Only not-a-number is set to a value outside the unit, and that is not-a-number again. -/
theorem value_of_setNormalized {value : Binary32} {change : Change}
    (set : (layout.setNormalized axis value).2 = some change) :
    change.axis = axis ∧ (change.value.InUnit ∨ value = .nan ∧ change.value = .nan) := by
  obtain ⟨place, stored⟩ := value_of_mem_set (List.mem_of_mem_head? set)
  refine ⟨place, ?_⟩
  rw [stored]
  cases value with
  | nan => exact .inr ⟨rfl, rfl⟩
  | number => exact .inl (Binary.inUnit_unitClamp rfl)

end Layout

end Axis

end GamepadInput
