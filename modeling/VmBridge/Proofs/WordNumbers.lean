import Mathlib.Data.List.Induction
import Mathlib.Data.Nat.Digits.Defs
import VmBridge.Proofs.CheckedContext

/-!
# Numbers of any size as words

Amounts are numbers of any size.  A library of such numbers writes them as bytes, the
most significant one first, and reads bytes again.  A word has exactly 32 bytes: zero
bytes are put in front of a number that was written with fewer, and of one that was
written with more the first bytes are cut off.  `words_hold_numbers` says that a word
made in this way holds a number modulo 2 ^ 256, and that it is the word with which the
world of accounts computes.  How many bytes the library writes makes no difference.
-/

namespace VmBridge

/-- The number that bytes write by their positions, of which the last one counts ones. -/
def positionalValue (bytes : Bytes) : Nat := Nat.ofDigits 256 (bytes.reverse.map UInt8.toNat)

/-- What a library of numbers of any size promises: it reads bytes by their positions, and
it reads a number from the bytes that it has written for it. -/
structure WritesNumbers (write : Nat → Bytes) (read : Bytes → Nat) : Prop where
  read_eq : ∀ bytes, read bytes = positionalValue bytes
  read_write : ∀ value, read (write value) = value

theorem ofBigEndian_eq_positionalValue (bytes : Bytes) :
    ofBigEndian bytes = positionalValue bytes := by
  induction bytes using List.reverseRecOn with
  | nil => rfl
  | append_singleton front last ih =>
      rw [ofBigEndian_concat, ih, positionalValue, positionalValue, List.reverse_concat,
        List.map_cons, Nat.ofDigits_cons]
      omega

/-- Zero bytes in front do not count. -/
theorem ofBigEndian_replicate_append (count : Nat) (bytes : Bytes) :
    ofBigEndian (List.replicate count 0 ++ bytes) = ofBigEndian bytes := by
  induction count with
  | zero => rfl
  | succ count ih =>
      rw [List.replicate_succ, List.cons_append, ← ih]
      rfl

/-- Bytes brought to a size: a short string follows zero bytes, and a long one loses its
first bytes. -/
def fittedBytes (size : Nat) (bytes : Bytes) : Bytes :=
  if size < bytes.length then bytes.drop (bytes.length - size)
  else List.replicate (size - bytes.length) 0 ++ bytes

theorem length_fittedBytes (size : Nat) (bytes : Bytes) :
    (fittedBytes size bytes).length = size := by
  rw [fittedBytes]
  split
  · rw [List.length_drop]
    omega
  · rw [List.length_append, List.length_replicate]
    omega

/-- Bytes brought to a size are the low digits of their number. -/
theorem fittedBytes_eq (size : Nat) (bytes : Bytes) :
    fittedBytes size bytes = bigEndian size (ofBigEndian bytes) := by
  have length_eq := length_fittedBytes size bytes
  rw [fittedBytes] at length_eq ⊢
  split at length_eq
  · rename_i long
    have low := bigEndian_ofBigEndian_append (bytes.take (bytes.length - size))
      (bytes.drop (bytes.length - size))
    rw [List.take_append_drop, length_eq] at low
    rw [if_pos long, low]
  · rename_i short
    have whole := bigEndian_ofBigEndian (List.replicate (size - bytes.length) 0 ++ bytes)
    rw [length_eq, ofBigEndian_replicate_append] at whole
    rw [if_neg short, whole]

/-- The word that is made from the bytes of a number. -/
def wordWith (write : Nat → Bytes) (value : Nat) : Word :=
  ⟨fittedBytes 32 (write value), length_fittedBytes 32 (write value)⟩

namespace WritesNumbers

variable {write : Nat → Bytes} {read : Bytes → Nat}

theorem ofBigEndian_write (library : WritesNumbers write read) (value : Nat) :
    ofBigEndian (write value) = value := by
  rw [ofBigEndian_eq_positionalValue, ← library.read_eq, library.read_write]

theorem read_toList (library : WritesNumbers write read) {size : Nat} (bytes : FixedBytes size) :
    read bytes.toList = bytes.toNat := by
  rw [library.read_eq, ← ofBigEndian_eq_positionalValue]
  rfl

theorem wordWith_eq (library : WritesNumbers write read) (value : Nat) :
    wordWith write value = .ofNat 32 value := by
  apply FixedBytes.ext_toList
  change fittedBytes 32 (write value) = bigEndian 32 value
  rw [fittedBytes_eq, library.ofBigEndian_write]

end WritesNumbers

/-- A word holds a number modulo 2 ^ 256 and a number holds every word, whatever library
writes and reads the numbers. -/
theorem words_hold_numbers {write : Nat → Bytes} {read : Bytes → Nat}
    (library : WritesNumbers write read) :
    (∀ value, wordWith write value = .ofNat 32 value ∧
        read (wordWith write value).toList = value % 2 ^ 256) ∧
      (∀ word : Word, read word.toList = word.toNat ∧ wordWith write (read word.toList) = word) ∧
      ∀ first second, wordWith write first = wordWith write second ↔
        first % 2 ^ 256 = second % 2 ^ 256 := by
  have count_eq : 256 ^ 32 = 2 ^ 256 := by decide
  have held (value : Nat) : read (wordWith write value).toList = value % 2 ^ 256 := by
    rw [library.read_toList, library.wordWith_eq, FixedBytes.toNat_ofNat, count_eq]
  have kept (word : Word) : wordWith write (read word.toList) = word := by
    rw [library.read_toList, library.wordWith_eq, FixedBytes.ofNat_toNat]
  refine ⟨fun value => ⟨library.wordWith_eq value, held value⟩,
    fun word => ⟨library.read_toList word, kept word⟩, fun first second => ?_⟩
  constructor
  · intro same
    rw [← held first, ← held second, same]
  · intro congruent
    rw [← kept (wordWith write first), ← kept (wordWith write second), held, held, congruent]

open CheckedContext (minimalBytes)

/-- The fewest bytes in which a number can be written are read from their positions. -/
theorem writesNumbers_minimalBytes : WritesNumbers minimalBytes positionalValue where
  read_eq _ := rfl
  read_write value := by
    rw [← ofBigEndian_eq_positionalValue, minimalBytes, ofBigEndian_bigEndian,
      Nat.mod_eq_of_lt (Nat.lt_pow_succ_log_self (by decide) value)]

/-- A number that needs 33 bytes loses the first of them. -/
theorem wordWith_beyond : WritesNumbers minimalBytes positionalValue ∧
    minimalBytes (2 ^ 256 + 5) = 1 :: bigEndian 32 5 ∧ minimalBytes 0 = [0] ∧
    wordWith minimalBytes (2 ^ 256 + 5) = wordWith minimalBytes 5 ∧
    positionalValue (wordWith minimalBytes (2 ^ 256 + 5)).toList = 5 := by
  obtain ⟨held, _, same_iff⟩ := words_hold_numbers writesNumbers_minimalBytes
  have log_eq : Nat.log 256 (2 ^ 256 + 5) = 32 :=
    (Nat.log_eq_iff (by decide)).mpr ⟨by decide, by decide⟩
  refine ⟨writesNumbers_minimalBytes, ?_, ?_, (same_iff _ _).mpr (by decide), (held _).2⟩
  · rw [minimalBytes, log_eq]
    decide
  · rw [minimalBytes, Nat.log_zero_right]
    decide

end VmBridge
