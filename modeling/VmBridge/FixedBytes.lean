/-!
# Byte strings of fixed size

Addresses and 32-byte words cross the bridge as byte strings whose size is
known in advance.  A word also stands for a 256-bit number, written with its
most significant byte first.  Writing back the number that was read from a
digit string, with as many digits, gives that string: `bigEndian_ofBigEndian`.
-/

namespace VmBridge

/-- A string of bytes in memory order. -/
abbrev Bytes := List UInt8

/-- The `size` lowest base-256 digits of a number, highest digit first. -/
def bigEndian : Nat → Nat → Bytes
  | 0, _ => []
  | size + 1, value => bigEndian size (value / 256) ++ [UInt8.ofNat value]

/-- The number written by a string of base-256 digits, highest digit first. -/
def ofBigEndian (bytes : Bytes) : Nat :=
  bytes.foldl (fun value byte => value * 256 + byte.toNat) 0

@[simp] theorem length_bigEndian (size value : Nat) :
    (bigEndian size value).length = size := by
  induction size generalizing value with
  | zero => rfl
  | succ size ih => simp [bigEndian, ih]

@[simp] theorem ofBigEndian_nil : ofBigEndian [] = 0 := rfl

theorem ofBigEndian_concat (bytes : Bytes) (last : UInt8) :
    ofBigEndian (bytes ++ [last]) = ofBigEndian bytes * 256 + last.toNat := by
  simp [ofBigEndian]

/-- Reading a digit string and writing it back with its own length gives the
string. -/
theorem bigEndian_ofBigEndian (bytes : Bytes) :
    bigEndian bytes.length (ofBigEndian bytes) = bytes := by
  induction hsize : bytes.length generalizing bytes with
  | zero => simp_all [bigEndian]
  | succ size ih =>
      obtain ⟨front, last, rfl⟩ : ∃ front last, bytes = front ++ [last] :=
        ⟨bytes.dropLast, bytes.getLast (by intro h; simp [h] at hsize),
          (List.dropLast_concat_getLast _).symm⟩
      have hfront : front.length = size := by simpa using hsize
      have hlast := last.toNat_lt
      rw [bigEndian, ofBigEndian_concat,
        show (ofBigEndian front * 256 + last.toNat) / 256 = ofBigEndian front by omega,
        ih front hfront]
      congr 2
      apply UInt8.toNat_inj.mp
      rw [UInt8.toNat_ofNat']
      omega

/-- Whether two byte strings are the same, decided at the first difference. -/
def sameBytes : Bytes → Bytes → Bool
  | [], [] => true
  | first :: left, second :: right => first == second && sameBytes left right
  | _, _ => false

theorem sameBytes_iff {left right : Bytes} : sameBytes left right = true ↔ left = right := by
  induction left generalizing right with
  | nil => cases right <;> simp [sameBytes]
  | cons first left ih => cases right <;> simp [sameBytes, ih]

/-- A byte string of exactly `size` bytes. -/
structure FixedBytes (size : Nat) where
  toList : Bytes
  length_toList : toList.length = size

/-- A 160-bit account address. -/
abbrev Address := FixedBytes 20

/-- A 32-byte word: a hash, a storage key or value, or a 256-bit number. -/
abbrev Word := FixedBytes 32

namespace FixedBytes

@[ext] theorem ext_toList {size : Nat} {left right : FixedBytes size}
    (same : left.toList = right.toList) : left = right := by
  cases left; cases right; cases same; rfl

instance {size : Nat} : DecidableEq (FixedBytes size) := fun left right =>
  decidable_of_iff (sameBytes left.toList right.toList = true)
    (sameBytes_iff.trans ⟨ext_toList, congrArg toList⟩)

/-- The string of zero bytes. -/
def zero (size : Nat) : FixedBytes size :=
  ⟨List.replicate size 0, List.length_replicate⟩

instance {size : Nat} : Inhabited (FixedBytes size) := ⟨zero size⟩

/-- The string of exactly the given bytes. -/
def ofList (bytes : Bytes) : FixedBytes bytes.length := ⟨bytes, rfl⟩

/-- The string of a number's low digits. -/
def ofNat (size value : Nat) : FixedBytes size :=
  ⟨bigEndian size value, length_bigEndian size value⟩

/-- The number that a string writes. -/
def toNat {size : Nat} (bytes : FixedBytes size) : Nat :=
  ofBigEndian bytes.toList

/-- The last `size` bytes of a string, after zero bytes if it is shorter. -/
def leftPadded (size : Nat) (bytes : Bytes) : FixedBytes size :=
  ofNat size (ofBigEndian bytes)

/-- Replace the first bytes by those given; what does not fit is dropped. -/
def overwrite {size : Nat} (buffer : FixedBytes size) (bytes : Bytes) :
    FixedBytes size :=
  ⟨bytes.take size ++ buffer.toList.drop bytes.length, by
    simp [buffer.length_toList]; omega⟩

theorem ofNat_toNat {size : Nat} (bytes : FixedBytes size) :
    ofNat size bytes.toNat = bytes := by
  apply ext_toList
  have h := bigEndian_ofBigEndian bytes.toList
  rwa [bytes.length_toList] at h

end FixedBytes

/-- The eight bytes of an unsigned 64-bit number. -/
def bytesOfUInt64 (value : UInt64) : Bytes := bigEndian 8 value.toNat

/-- The eight bytes of a signed 64-bit number in two's complement. -/
def bytesOfInt64 (value : Int64) : Bytes := bigEndian 8 value.toUInt64.toNat

end VmBridge
