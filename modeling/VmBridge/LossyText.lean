import VmBridge.FixedBytes

/-!
# Reading bytes as text

Names come from native code as bytes that need not be well formed.  Reading
never fails: each longest run of bytes that begins a character and cannot be
completed becomes one replacement character, as does each byte that begins
none.
-/

namespace VmBridge

/-- The character shown for bytes that write none. -/
def replacementCharacter : Char := Char.ofNat 0xFFFD

/-- Whether a byte continues a character. -/
def isContinuation (byte : UInt8) : Bool := 0x80 ≤ byte && byte ≤ 0xBF

/-- The number of bytes that a character takes, from its first byte. -/
def characterWidth? (first : UInt8) : Option Nat :=
  if first < 0x80 then some 1
  else if 0xC2 ≤ first && first ≤ 0xDF then some 2
  else if 0xE0 ≤ first && first ≤ 0xEF then some 3
  else if 0xF0 ≤ first && first ≤ 0xF4 then some 4
  else none

/-- Whether a second byte can follow a first one.  The bounds exclude numbers
with a shorter writing, surrogates, and numbers past the last character. -/
def mayFollow (first second : UInt8) : Bool :=
  isContinuation second &&
    (first != 0xE0 || 0xA0 ≤ second) &&
    (first != 0xED || second ≤ 0x9F) &&
    (first != 0xF0 || 0x90 ≤ second) &&
    (first != 0xF4 || second ≤ 0x8F)

/-- The low six bits of a continuation byte. -/
def payloadBits (byte : UInt8) : Nat := byte.toNat % 64

/-- How many of the bytes after the first belong to the character that it
begins, at most `limit`. -/
def continuationRun (first : UInt8) (limit : Nat) (rest : Bytes) : Nat :=
  match rest with
  | [] => 0
  | second :: more =>
      if limit = 0 || !mayFollow first second then 0
      else 1 + ((more.take (limit - 1)).takeWhile isContinuation).length

/-- The character written by a first byte and all its continuation bytes. -/
def characterOfBytes (first : UInt8) (continuation : Bytes) : Char :=
  let leading :=
    match continuation.length with
    | 0 => first.toNat
    | 1 => first.toNat % 32
    | 2 => first.toNat % 16
    | _ => first.toNat % 8
  Char.ofNat (continuation.foldl (fun value byte => value * 64 + payloadBits byte) leading)

/-- The first character of a byte string and the number of bytes after the
first that it takes. -/
def nextCharacter (first : UInt8) (rest : Bytes) : Char × Nat :=
  match characterWidth? first with
  | none => (replacementCharacter, 0)
  | some width =>
      let run := continuationRun first (width - 1) rest
      if run + 1 = width then (characterOfBytes first (rest.take run), run)
      else (replacementCharacter, run)

/-- The characters read from bytes. -/
def lossyCharacters : Bytes → List Char
  | [] => []
  | first :: rest =>
      let next := nextCharacter first rest
      next.1 :: lossyCharacters (rest.drop next.2)
termination_by bytes => bytes.length
decreasing_by
  rw [List.length_drop, List.length_cons]
  omega

/-- The text read from bytes. -/
def lossyText (bytes : Bytes) : String := String.ofList (lossyCharacters bytes)

/-- The bytes of a text. -/
def textBytes (text : String) : Bytes := text.toUTF8.toList

end VmBridge
