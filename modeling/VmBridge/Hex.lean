import VmBridge.FixedBytes

/-!
# Hexadecimal text

Bytes are shown as two lower-case digits each, without a marker in front.
-/

namespace VmBridge

/-- The lower-case digit of a number below sixteen. -/
def hexDigit (value : Nat) : Char :=
  if value < 10 then Char.ofNat (48 + value) else Char.ofNat (87 + value)

/-- The value of a digit in either case. -/
def hexDigitValue? (digit : Char) : Option Nat :=
  let code := digit.toNat
  if 48 ≤ code ∧ code ≤ 57 then some (code - 48)
  else if 97 ≤ code ∧ code ≤ 102 then some (code - 87)
  else if 65 ≤ code ∧ code ≤ 70 then some (code - 55)
  else none

/-- The two digits of a byte, high half first. -/
def hexPair (byte : UInt8) : List Char :=
  [hexDigit (byte.toNat / 16), hexDigit (byte.toNat % 16)]

/-- The digits of a byte string. -/
def hexText (bytes : Bytes) : String :=
  String.ofList (bytes.flatMap hexPair)

/-- The bytes written by a list of digits, if it is made of pairs of digits. -/
def ofHexDigits? : List Char → Option Bytes
  | [] => some []
  | [_] => none
  | high :: low :: rest => do
      let highValue ← hexDigitValue? high
      let lowValue ← hexDigitValue? low
      let bytes ← ofHexDigits? rest
      pure (UInt8.ofNat (16 * highValue + lowValue) :: bytes)

/-- The bytes written by hexadecimal text. -/
def ofHexText? (text : String) : Option Bytes :=
  ofHexDigits? text.toList

/-- The digits of a number without leading zeros. -/
def hexNumeral (value : Nat) : String :=
  String.ofList (Nat.toDigits 16 value)

end VmBridge
