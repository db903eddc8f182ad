import VmBridge.Hex
import VmBridge.NumberedCharacters

/-!
# Quoted text

Text is quoted between double quotes on one line: quotes and backslashes
follow a backslash, four control characters have letters, and whatever leaves
no mark of its own is shown by its number.
-/

namespace VmBridge

/-- The form of a character inside quotes. -/
def quotedCharacter (character : Char) : List Char :=
  if character = '"' then ['\\', '"']
  else if character = '\\' then ['\\', '\\']
  else if character = '\n' then ['\\', 'n']
  else if character = '\t' then ['\\', 't']
  else if character = '\r' then ['\\', 'r']
  else if character = Char.ofNat 0 then ['\\', '0']
  else if isNumbered character then
    "\\u\x7b".toList ++ (hexNumeral character.toNat).toList ++ "\x7d".toList
  else [character]

/-- Text between double quotes. -/
def quoted (text : String) : String :=
  String.ofList ('"' :: text.toList.flatMap quotedCharacter ++ ['"'])

end VmBridge
