/-!
# Numbers as bytes

The lowest byte comes first.  `toNat_ofNat`: a number is read back from its bytes, as far as there
is room for it in them.
-/

namespace GamepadInput.Bytes

/-- The low `count` bytes of a number. -/
def ofNat : (count n : Nat) → List UInt8
  | 0, _ => []
  | count + 1, n => UInt8.ofNat n :: ofNat count (n / 0x100)

/-- The number that bytes stand for. -/
def toNat : List UInt8 → Nat
  | [] => 0
  | byte :: rest => byte.toNat + 0x100 * toNat rest

@[simp] theorem length_ofNat (count n : Nat) : (ofNat count n).length = count := by
  induction count generalizing n with
  | zero => rfl
  | succ count ih => simp only [ofNat, List.length_cons, ih]

theorem toNat_ofNat (count n : Nat) : toNat (ofNat count n) = n % (1 <<< (8 * count)) := by
  induction count generalizing n with
  | zero => simp only [ofNat, toNat, Nat.mul_zero, Nat.shiftLeft_zero, Nat.mod_one]
  | succ count ih =>
    have room : 1 <<< (8 * (count + 1)) = 0x100 * 1 <<< (8 * count) := by
      rw [Nat.mul_succ, Nat.add_comm, Nat.shiftLeft_add, Nat.shiftLeft_eq _ (8 * count)]
      rw [Nat.shiftLeft_eq 1 (8 * count), Nat.one_mul]
      rfl
    have low : (UInt8.ofNat n).toNat = n % 0x100 := rfl
    rw [ofNat, toNat, ih, room, Nat.mod_mul, low]

end GamepadInput.Bytes
