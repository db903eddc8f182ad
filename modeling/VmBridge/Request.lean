import VmBridge.Fault
import VmBridge.HostMethod

/-!
# Callbacks as native code makes them

A `Request` is a callback with its raw arguments, in which every pointer may
be null.  `Request.decode` follows and checks the pointers and yields a
`Delivery`: the host method to invoke and the encoding of its answer.  A
request that cannot be delivered, or whose host fails, is answered with
`Request.fallback`.
-/

namespace VmBridge

/-- One callback with its raw arguments. -/
inductive Request where
  | accountExists (address : Option Address)
  | getStorage (address : Option Address) (key : Option Word)
  | setStorage (address : Option Address) (key : Option Word) (value : Option Word)
  | getBalance (address : Option Address)
  | getCodeSize (address : Option Address)
  | getCodeHash (address : Option Address)
  | copyCode (address : Option Address) (offset : Nat) (buffer : Span UInt8)
  | selfdestruct (address : Option Address) (beneficiary : Option Address)
  | call (message : Option NativeMessage)
  | getTxContext
  | getBlockHash (number : Int64)
  | emitLog (address : Option Address) (data : Span UInt8) (topics : Span Word)
  | accessAccount (address : Option Address)
  | accessStorage (address : Option Address) (key : Option Word)
deriving DecidableEq

/-- What native code sees after it asked for a copy of code: the reported
count and its buffer. -/
structure CopiedCode where
  written : Nat
  buffer : Bytes
deriving DecidableEq

namespace Request

/-- The name of the callback. -/
def name : Request → MethodName
  | .accountExists _ => .accountExists
  | .getStorage _ _ => .getStorage
  | .setStorage _ _ _ => .setStorage
  | .getBalance _ => .getBalance
  | .getCodeSize _ => .getCodeSize
  | .getCodeHash _ => .getCodeHash
  | .copyCode _ _ _ => .copyCode
  | .selfdestruct _ _ => .selfdestruct
  | .call _ => .call
  | .getTxContext => .getTxContext
  | .getBlockHash _ => .getBlockHash
  | .emitLog _ _ _ => .emitLog
  | .accessAccount _ => .accessAccount
  | .accessStorage _ _ => .accessStorage

/-- The type of what native code gets back. -/
abbrev Answer : Request → Type
  | .accountExists _ => Bool
  | .getStorage _ _ => Word
  | .setStorage _ _ _ => Int32
  | .getBalance _ => Word
  | .getCodeSize _ => Nat
  | .getCodeHash _ => Word
  | .copyCode _ _ _ => CopiedCode
  | .selfdestruct _ _ => Bool
  | .call _ => NativeResult
  | .getTxContext => TxContext
  | .getBlockHash _ => Word
  | .emitLog _ _ _ => Unit
  | .accessAccount _ => Int32
  | .accessStorage _ _ => Int32

/-- The answer when no host could serve the callback. -/
def fallback : (request : Request) → request.Answer
  | .accountExists _ => false
  | .getStorage _ _ => .zero 32
  | .setStorage _ _ _ => StorageStatus.assigned.raw
  | .getBalance _ => .zero 32
  | .getCodeSize _ => 0
  | .getCodeHash _ => .zero 32
  | .copyCode _ _ buffer => ⟨0, buffer.contents⟩
  | .selfdestruct _ _ => false
  | .call _ => ExecutionResult.internalError.toNative
  | .getTxContext => default
  | .getBlockHash _ => .zero 32
  | .emitLog _ _ _ => ()
  | .accessAccount _ => AccessStatus.cold.raw
  | .accessStorage _ _ => AccessStatus.cold.raw

/-- How a request reaches a host: the method to invoke and the way its answer
goes back. -/
structure Delivery (request : Request) where
  method : HostMethod
  encode : method.Answer → request.Answer

/-- The value behind a pointer that must not be null. -/
def follow {α : Type} (pointer : Option α) (parameter function : String) :
    Except CallbackError α :=
  match pointer with
  | some value => .ok value
  | none => .error (.nullPointer parameter function)

/-- The items behind a span whose pointer may be null only when it is
empty. -/
def followSpan {α : Type} (span : Span α) (parameter function : String) :
    Except CallbackError (List α) :=
  match span.read? with
  | some items => .ok items
  | none => .error (.nullPointer parameter function)

/-- The message behind a pointer, if its kind has a meaning. -/
def followMessage (pointer : Option NativeMessage) (function : String) :
    Except CallbackError Message := do
  let native ← follow pointer "msg" function
  match native.toMessage with
  | .ok message => pure message
  | .error kind => .error (.invalidParameter "kind" (toString kind.toInt) function)

/-- Check the arguments of a request, in their order.  The count of copied
bytes that goes back never exceeds the buffer. -/
def decode (request : Request) : Except CallbackError (Delivery request) :=
  let function := request.name.text
  match request with
  | .accountExists pointer => do
      let address ← follow pointer "address" function
      pure ⟨.accountExists address, id⟩
  | .getStorage pointer keyPointer => do
      let address ← follow pointer "address" function
      let key ← follow keyPointer "key" function
      pure ⟨.getStorage address key, id⟩
  | .setStorage pointer keyPointer valuePointer => do
      let address ← follow pointer "address" function
      let key ← follow keyPointer "key" function
      let value ← follow valuePointer "value" function
      pure ⟨.setStorage address key value, StorageStatus.raw⟩
  | .getBalance pointer => do
      let address ← follow pointer "address" function
      pure ⟨.getBalance address, id⟩
  | .getCodeSize pointer => do
      let address ← follow pointer "address" function
      pure ⟨.getCodeSize address, id⟩
  | .getCodeHash pointer => do
      let address ← follow pointer "address" function
      pure ⟨.getCodeHash address, id⟩
  | .copyCode pointer offset span => do
      let address ← follow pointer "address" function
      let buffer ← followSpan span "buffer_data" function
      pure ⟨.copyCode address offset buffer.length (.ofList buffer), fun answer =>
        ⟨min answer.1 buffer.length, answer.2.toList⟩⟩
  | .selfdestruct pointer beneficiaryPointer => do
      let address ← follow pointer "address" function
      let beneficiary ← follow beneficiaryPointer "beneficiary" function
      pure ⟨.selfdestruct address beneficiary, id⟩
  | .call pointer => do
      let message ← followMessage pointer function
      pure ⟨.call message, ExecutionResult.toNative⟩
  | .getTxContext => pure ⟨.getTxContext, id⟩
  | .getBlockHash number => pure ⟨.getBlockHash number, id⟩
  | .emitLog pointer dataSpan topicsSpan => do
      let address ← follow pointer "address" function
      let data ← followSpan dataSpan "data" function
      let topics ← followSpan topicsSpan "topics" function
      pure ⟨.emitLog ⟨address, data, topics⟩, id⟩
  | .accessAccount pointer => do
      let address ← follow pointer "address" function
      pure ⟨.accessAccount address, AccessStatus.raw⟩
  | .accessStorage pointer keyPointer => do
      let address ← follow pointer "address" function
      let key ← follow keyPointer "key" function
      pure ⟨.accessStorage address key, AccessStatus.raw⟩

end Request

end VmBridge
