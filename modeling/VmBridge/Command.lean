import VmBridge.Codes
import VmBridge.FixedBytes

/-!
# Commands of the example VM

Code for the example VM is a flat list of commands.  A command is written as
an opcode followed by its operands, which have fixed sizes except for the
input of a call, behind its length in two bytes, and the topics of a log,
behind their count in one.
-/

namespace VmBridge

/-- One command of the example VM. -/
inductive Command where
  | stop
  | echo
  | loadSlot (key : Word)
  /-- Store a word and append the status of the write. -/
  | storeSlot (key : Word) (value : Word)
  | balance (address : Address)
  /-- Send a nested message; append its status and its output, or the created
  address. -/
  | call (kind : CallKind) (address : Address) (gas : UInt64) (value : Word) (salt : Word)
      (input : Bytes)
  | revert
  | blockNumber
  | blockHash (number : UInt64)
  /-- Append the size of an account's code, its hash and the code. -/
  | accountCode (address : Address)
  /-- Destruct the recipient, append whether it is new, and halt. -/
  | selfdestruct (beneficiary : Address)
  | access (address : Address)
  | log (topics : List Word)
  | accountExists (address : Address)
  | origin
  | invalid
deriving DecidableEq

/-- The largest input of a call that its length can tell. -/
def maxCallInput : Nat := 65535

namespace Command

def opcode : Command → UInt8
  | .stop => 0x00
  | .echo => 0x01
  | .loadSlot _ => 0x02
  | .storeSlot _ _ => 0x03
  | .balance _ => 0x04
  | .call _ _ _ _ _ _ => 0x05
  | .revert => 0x06
  | .blockNumber => 0x07
  | .blockHash _ => 0x08
  | .accountCode _ => 0x09
  | .selfdestruct _ => 0x0a
  | .access _ => 0x0b
  | .log _ => 0x0c
  | .accountExists _ => 0x0d
  | .origin => 0x0e
  | .invalid => 0xfe

/-- The written operands of a command.  Too long an input of a call is cut;
the count of topics is written as it fits into its byte. -/
def operands : Command → Bytes
  | .loadSlot key => key.toList
  | .storeSlot key value => key.toList ++ value.toList
  | .balance address => address.toList
  | .call kind address gas value salt input =>
      let sent := input.take maxCallInput
      bigEndian 1 kind.raw.toInt.toNat ++ address.toList ++ bigEndian 8 gas.toNat ++
        value.toList ++ salt.toList ++ bigEndian 2 sent.length ++ sent
  | .blockHash number => bigEndian 8 number.toNat
  | .accountCode address => address.toList
  | .selfdestruct beneficiary => beneficiary.toList
  | .access address => address.toList
  | .log topics => bigEndian 1 topics.length ++ topics.flatMap FixedBytes.toList
  | .accountExists address => address.toList
  | .stop | .echo | .revert | .blockNumber | .origin | .invalid => []

def encode (command : Command) : Bytes := command.opcode :: command.operands

/-- A call that moves no value and needs no salt. -/
def plainCall (kind : CallKind) (address : Address) (gas : UInt64) (input : Bytes) :
    Command :=
  .call kind address gas (.zero 32) (.zero 32) input

end Command

/-- One piece of assembled code. -/
inductive Fragment where
  | command (command : Command)
  /-- Bytes that need not be a command. -/
  | raw (bytes : Bytes)
deriving DecidableEq

def Fragment.encode : Fragment → Bytes
  | .command content => content.encode
  | .raw bytes => bytes

/-- The code made of a list of pieces. -/
def assemble (fragments : List Fragment) : Bytes := fragments.flatMap Fragment.encode

end VmBridge
