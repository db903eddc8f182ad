import VmBridge.Codes
import VmBridge.Span

/-!
# Messages

A message asks for one execution.  The bridge works on `Message`, whose kind
is known and whose input is a byte string; native code sees a
`NativeMessage`, with a raw kind, a word of flags and a span.  A message
survives the crossing in both directions: `toMessage_toNative`.
-/

namespace VmBridge

/-- One request for an execution. -/
structure Message where
  kind : CallKind
  isStatic : Bool
  depth : Int32
  gas : Int64
  recipient : Address
  sender : Address
  input : Bytes
  value : Word
  salt : Word
  codeAddress : Address
deriving DecidableEq, Inhabited

/-- A message as native code sees it. -/
structure NativeMessage where
  kind : Int32
  flags : UInt32
  depth : Int32
  gas : Int64
  recipient : Address
  sender : Address
  input : Span UInt8
  value : Word
  salt : Word
  codeAddress : Address
deriving DecidableEq, Inhabited

/-- The native view of a message; an empty input has a null pointer. -/
def Message.toNative (message : Message) : NativeMessage where
  kind := message.kind.raw
  flags := if message.isStatic then staticFlag else 0
  depth := message.depth
  gas := message.gas
  recipient := message.recipient
  sender := message.sender
  input := .lend message.input
  value := message.value
  salt := message.salt
  codeAddress := message.codeAddress

/-- Whether the flags mark a static call; the other bits have no meaning. -/
def NativeMessage.isStatic (message : NativeMessage) : Bool :=
  message.flags &&& staticFlag != 0

/-- The message behind a native view, or its kind if that has no meaning.  A
null input reads as empty whatever its size. -/
def NativeMessage.toMessage (message : NativeMessage) : Except Int32 Message :=
  (CallKind.ofRaw message.kind).map fun kind =>
    { kind
      isStatic := message.isStatic
      depth := message.depth
      gas := message.gas
      recipient := message.recipient
      sender := message.sender
      input := message.input.contents
      value := message.value
      salt := message.salt
      codeAddress := message.codeAddress }

theorem toMessage_toNative (message : Message) :
    message.toNative.toMessage = .ok message := by
  have flag : message.toNative.isStatic = message.isStatic := by
    cases h : message.isStatic <;>
      simp [Message.toNative, NativeMessage.isStatic, staticFlag, h]
  rw [NativeMessage.toMessage, flag]
  simp [Message.toNative, CallKind.ofRaw_raw, Except.map]

/-- Data about the transaction and the block, supplied by the host. -/
structure TxContext where
  gasPrice : Word
  origin : Address
  coinbase : Address
  blockNumber : Int64
  blockTimestamp : Int64
  blockGasLimit : Int64
  prevRandao : Word
  chainId : Word
  baseFee : Word
deriving DecidableEq, Inhabited

/-- An event that executed code emitted. -/
structure ContractLog where
  address : Address
  data : Bytes
  topics : List Word
deriving DecidableEq

end VmBridge
