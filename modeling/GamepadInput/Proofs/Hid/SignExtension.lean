import GamepadInput.Hid.Caps
import GamepadInput.Overflow
import Mathlib.Data.Int.Bitwise

/-!
# Two's complement at the low end of a word

A word that goes up and back is its low end, continued by the sign (`shiftLeft_sshiftRight`); as a
number, that is a remainder (`signExtend_eq_bmod`).  So a number of any size is read from exactly the
words that have its bits at their low end (`signExtend_eq_iff`).
-/

namespace GamepadInput

/-! ## Signed words -/

theorem fitsWord_iff {width : Nat} {i : Int} :
    FitsWord width i ↔ -2 ^ (width - 1) ≤ i ∧ i < 2 ^ (width - 1) := by
  unfold FitsWord
  rw [Nat.one_shiftLeft, Int.natCast_pow, Int.cast_ofNat_Int]

theorem FitsWord.mono {width larger : Nat} {i : Int} (fits : FitsWord width i)
    (wider : width ≤ larger) : FitsWord larger i := by
  rw [fitsWord_iff] at fits ⊢
  have room : (2 : Int) ^ (width - 1) ≤ 2 ^ (larger - 1) := by
    exact_mod_cast Nat.pow_le_pow_right (by decide) (Nat.sub_le_sub_right wider 1)
  omega

theorem fitsWord_toInt {width : Nat} (word : BitVec width) : FitsWord width word.toInt :=
  fitsWord_iff.mpr ⟨word.le_toInt, word.toInt_lt⟩

/-- The remainder of two's complement fits its width. -/
theorem fitsWord_bmod (width raw : Nat) : FitsWord width (Int.bmod raw (2 ^ width)) := by
  rw [← BitVec.toInt_ofNat']
  exact fitsWord_toInt _

namespace Hid

/-! ## Shifts -/

/-- What is above the low end is moved out, and copies of its top bit come back. -/
theorem shiftLeft_sshiftRight {width bits : Nat} (word : BitVec width) (within : bits ≤ width) :
    (word <<< (width - bits)).sshiftRight (width - bits) =
      (word.setWidth bits).signExtend width := by
  ext place inside
  rw [BitVec.getElem_sshiftRight, BitVec.getElem_signExtend]
  by_cases low : place < bits
  · have moved : ¬ width - bits + place < width - bits := by omega
    rw [dif_pos (by omega), dif_pos low, BitVec.getElem_shiftLeft, BitVec.getElem_setWidth,
      BitVec.getLsbD_eq_getElem inside]
    simp [moved]
  · -- past the low end both sides are its top bit; without a low end there is none
    have top : width - 1 - (width - bits) = bits - 1 := by omega
    have any : width - bits < width ↔ 0 < bits := by omega
    rw [dif_neg (by omega), dif_neg low, BitVec.msb_shiftLeft, BitVec.getMsbD_eq_getLsbD,
      BitVec.msb_setWidth, top, decide_eq_decide.mpr any]

/-- The number is the remainder of the word by the count of the numbers of its size, balanced about
zero. -/
theorem signExtend_eq_bmod (raw bits : Nat) :
    signExtend raw bits =
      Int.bmod raw (2 ^ (if bits = 0 ∨ 32 ≤ bits then 32 else bits)) := by
  by_cases whole : bits = 0 ∨ 32 ≤ bits
  · rw [signExtend, if_pos whole, if_pos whole, BitVec.toInt_ofNat']
  · have within : bits ≤ 32 := by omega
    rw [signExtend, if_neg whole, if_neg whole, shiftLeft_sshiftRight _ within,
      BitVec.toInt_signExtend_of_le within, BitVec.setWidth_ofNat_of_le within,
      BitVec.toInt_ofNat']

/-! ## Bits -/

/-- A word that is made of a number has the number's bits. -/
theorem getLsbD_ofInt {width : Nat} (number : Int) {place : Nat} (inside : place < width) :
    (BitVec.ofInt width number).getLsbD place = number.testBit place := by
  cases number with
  | ofNat n =>
    rw [Int.ofNat_eq_natCast, BitVec.ofInt_natCast, BitVec.getLsbD_ofNat, decide_eq_true inside,
      Bool.true_and]
    rfl
  | negSucc n =>
    rw [BitVec.ofInt_negSucc_eq_not_ofNat, BitVec.getLsbD_not, BitVec.getLsbD_ofNat,
      decide_eq_true inside, Bool.true_and, Bool.true_and]
    rfl

theorem ofNat_eq_ofInt_iff {width raw : Nat} {number : Int} :
    BitVec.ofNat width raw = BitVec.ofInt width number ↔
      ∀ place < width, raw.testBit place = number.testBit place := by
  have bit {place : Nat} (inside : place < width) :
      (BitVec.ofNat width raw).getLsbD place = raw.testBit place := by
    rw [BitVec.getLsbD_ofNat, decide_eq_true inside, Bool.true_and]
  constructor
  · intro same place inside
    rw [← bit inside, same, getLsbD_ofInt number inside]
  · intro bits
    refine BitVec.eq_of_getLsbD_eq fun place inside => ?_
    rw [bit inside, bits place inside, getLsbD_ofInt number inside]

/-- A word stands for the one number of its width that has its bits. -/
theorem toInt_eq_iff {width : Nat} (positive : 0 < width) {word : BitVec width} {number : Int} :
    word.toInt = number ↔ FitsWord width number ∧ word = BitVec.ofInt width number := by
  constructor
  · rintro rfl
    exact ⟨fitsWord_toInt word, BitVec.ofInt_toInt.symm⟩
  · rintro ⟨fits, rfl⟩
    obtain ⟨low, high⟩ := fitsWord_iff.mp fits
    exact BitVec.toInt_ofInt_eq_self positive low high

/-- In any size up to the whole word, the number that is read is the one that fits the size and has
the low bits of the word, whatever stands above them. -/
theorem signExtend_eq_iff {bits : Nat} (positive : 1 ≤ bits) (within : bits ≤ 32) {raw : Nat}
    {number : Int} :
    signExtend raw bits = number ↔
      FitsWord bits number ∧ ∀ place < bits, raw.testBit place = number.testBit place := by
  have size : (if bits = 0 ∨ 32 ≤ bits then 32 else bits) = bits := by
    split
    · omega
    · rfl
  rw [signExtend_eq_bmod, size, ← BitVec.toInt_ofNat', toInt_eq_iff positive, ofNat_eq_ofInt_iff]

/-- The least number of twelve bits below other bits, and the least of the whole word. -/
theorem signExtend_eq_iff_least :
    (FitsWord 12 (-0x800) ∧
        (∀ place < 12, Nat.testBit 0xABCDE800 place = Int.testBit (-0x800) place) ∧
        signExtend 0xABCDE800 12 = -0x800) ∧
      FitsWord 32 (-0x80000000) ∧
        (∀ place < 32, Nat.testBit 0x80000000 place = Int.testBit (-0x80000000) place) ∧
        signExtend 0x80000000 32 = -0x80000000 := by
  have part : FitsWord 12 (-0x800) ∧
      ∀ place < 12, Nat.testBit 0xABCDE800 place = Int.testBit (-0x800) place := by decide
  have whole : FitsWord 32 (-0x80000000) ∧
      ∀ place < 32, Nat.testBit 0x80000000 place = Int.testBit (-0x80000000) place := by decide
  exact ⟨⟨part.1, part.2, (signExtend_eq_iff (by decide) (by decide)).mpr part⟩,
    whole.1, whole.2, (signExtend_eq_iff (by decide) (by decide)).mpr whole⟩

end Hid

end GamepadInput
