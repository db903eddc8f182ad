import VmBridge.FixedBytes

/-!
# The Keccak-256 hash

The state is a square of twenty-five 64-bit lanes; the lane in column `x` and
row `y` has index `x + 5 * y`.  A message is padded to whole blocks of
seventeen lanes, the blocks are added to the state one after the other with a
permutation after each, and the first four lanes of the final state are the
hash.
-/

namespace VmBridge.Keccak

/-- The lanes of a state, row by row. -/
abbrev State := Array UInt64

def lane (state : State) (index : Nat) : UInt64 := state.getD index 0

/-- Rotate a lane towards its high bits. -/
def rotate (value : UInt64) (count : Nat) : UInt64 :=
  if count = 0 then value
  else (value <<< UInt64.ofNat count) ||| (value >>> UInt64.ofNat (64 - count))

/-- How far each lane is rotated in a round. -/
def rotations : Array Nat := #[
  0, 1, 62, 28, 27,
  36, 44, 6, 55, 20,
  3, 10, 43, 25, 39,
  41, 45, 15, 21, 8,
  18, 2, 61, 56, 14]

/-- The constants added to the first lane, one for each round. -/
def roundConstants : List UInt64 := [
  0x0000000000000001, 0x0000000000008082, 0x800000000000808a,
  0x8000000080008000, 0x000000000000808b, 0x0000000080000001,
  0x8000000080008081, 0x8000000000008009, 0x000000000000008a,
  0x0000000000000088, 0x0000000080008009, 0x000000008000000a,
  0x000000008000808b, 0x800000000000008b, 0x8000000000008089,
  0x8000000000008003, 0x8000000000008002, 0x8000000000000080,
  0x000000000000800a, 0x800000008000000a, 0x8000000080008081,
  0x8000000000008080, 0x0000000080000001, 0x8000000080008008]

/-- Add to each lane the parities of two neighbouring columns. -/
def mixColumns (state : State) : State :=
  let parity : Array UInt64 := Array.ofFn fun x : Fin 5 =>
    lane state x ^^^ lane state (x + 5) ^^^ lane state (x + 10) ^^^
      lane state (x + 15) ^^^ lane state (x + 20)
  Array.ofFn fun index : Fin 25 =>
    lane state index ^^^ lane parity ((index + 4) % 5) ^^^
      rotate (lane parity ((index + 1) % 5)) 1

/-- Rotate every lane by its own amount and move it to its new place. -/
def rotateAndMove (state : State) : State :=
  Array.ofFn fun index : Fin 25 =>
    let column := index.val % 5
    let row := index.val / 5
    let source := (column + 3 * row) % 5 + 5 * column
    rotate (lane state source) (rotations.getD source 0)

/-- Combine each lane with the next two of its row. -/
def mixRows (state : State) : State :=
  Array.ofFn fun index : Fin 25 =>
    let row := 5 * (index.val / 5)
    lane state index ^^^
      (~~~ lane state (row + (index + 1) % 5) &&& lane state (row + (index + 2) % 5))

/-- One round of the permutation. -/
def round (state : State) (constant : UInt64) : State :=
  let mixed := mixRows (rotateAndMove (mixColumns state))
  mixed.setIfInBounds 0 (lane mixed 0 ^^^ constant)

/-- The permutation of twenty-four rounds. -/
def permute (state : State) : State := roundConstants.foldl round state

/-- The number of lanes that a block adds to the state. -/
def blockLanes : Nat := 17

def blockSize : Nat := 8 * blockLanes

/-- Complete a message to whole blocks: a one bit, zeros, and a last one bit
at the very end. -/
def pad (message : Bytes) : Bytes :=
  let missing := blockSize - message.length % blockSize
  if missing = 1 then message ++ [0x81]
  else message ++ 0x01 :: List.replicate (missing - 2) 0 ++ [0x80]

def laneOfBytes (bytes : Bytes) : UInt64 :=
  bytes.foldr (fun byte value => value * 256 + byte.toUInt64) 0

/-- The lanes of a message whose size is a multiple of eight. -/
def lanesOfBytes : Bytes → List UInt64
  | b0 :: b1 :: b2 :: b3 :: b4 :: b5 :: b6 :: b7 :: rest =>
      laneOfBytes [b0, b1, b2, b3, b4, b5, b6, b7] :: lanesOfBytes rest
  | _ => []

def bytesOfLane (value : UInt64) : Bytes := (bigEndian 8 value.toNat).reverse

/-- Add a lane to the state at the next place; a full block is followed by a
permutation. -/
def absorb (progress : State × Nat) (value : UInt64) : State × Nat :=
  let (state, place) := progress
  let added := state.setIfInBounds place (lane state place ^^^ value)
  if place + 1 = blockLanes then (permute added, 0) else (added, place + 1)

/-- The state after a whole message. -/
def absorbed (message : Bytes) : State :=
  ((lanesOfBytes (pad message)).foldl absorb (Array.replicate 25 0, 0)).1

end VmBridge.Keccak

namespace VmBridge

/-- The Keccak-256 hash of a byte string. -/
def keccak256 (message : Bytes) : Word :=
  let state := Keccak.absorbed message
  .leftPadded 32 ((List.range 4).flatMap fun index =>
    Keccak.bytesOfLane (Keccak.lane state index))

end VmBridge
