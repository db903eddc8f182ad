import VmBridge.FixedBytes
import Mathlib.Algebra.Ring.Nat

/-!
# Numbers written as strings of bytes

A string of a fixed number of base-256 digits holds a number up to the power
of 256 with that many zeros.  `ofBigEndian_bigEndian` says so for digit
strings and `FixedBytes.toNat_ofNat` for byte strings whose type carries their
size, such as 32-byte words.
-/

namespace VmBridge

/-- Writing a number and reading it back keeps its low digits. -/
theorem ofBigEndian_bigEndian (size value : Nat) :
    ofBigEndian (bigEndian size value) = value % 256 ^ size := by
  induction size generalizing value with
  | zero => simp [bigEndian, Nat.mod_one]
  | succ size ih =>
      rw [bigEndian, ofBigEndian_concat, ih, Nat.pow_succ, Nat.mul_comm (256 ^ size) 256,
        Nat.mod_mul, UInt8.toNat_ofNat']
      omega

/-- The digits of a number are those of its high part, followed by its low ones. -/
theorem bigEndian_add (front back value : Nat) :
    bigEndian (front + back) value =
      bigEndian front (value / 256 ^ back) ++ bigEndian back value := by
  induction back generalizing value with
  | zero => simp [bigEndian]
  | succ back ih =>
      rw [← Nat.add_assoc, bigEndian, ih, bigEndian, List.append_assoc, Nat.div_div_eq_div_mul,
        ← Nat.pow_succ']

theorem bigEndian_zero (size : Nat) : bigEndian size 0 = List.replicate size 0 := by
  induction size with
  | zero => rfl
  | succ size ih =>
      rw [bigEndian, Nat.zero_div, ih, List.replicate_succ']
      rfl

/-- The last bytes of a string are the low digits of its number. -/
theorem bigEndian_ofBigEndian_append (front back : Bytes) :
    bigEndian back.length (ofBigEndian (front ++ back)) = back := by
  have whole := bigEndian_ofBigEndian (front ++ back)
  rw [List.length_append, bigEndian_add] at whole
  exact (List.append_inj whole (length_bigEndian _ _)).2

namespace FixedBytes

theorem toNat_ofNat (size value : Nat) :
    (ofNat size value).toNat = value % 256 ^ size :=
  ofBigEndian_bigEndian size value

theorem toNat_lt {size : Nat} (bytes : FixedBytes size) : bytes.toNat < 256 ^ size := by
  rw [← bytes.ofNat_toNat, toNat_ofNat]
  exact Nat.mod_lt _ (Nat.pow_pos (by decide))

end FixedBytes

end VmBridge
