/-!
# Numeric codes of the interface

Native code speaks in raw integers.  Each closed set of codes is an
enumeration here with its numbers and its checked reading; the status of an
execution is open and keeps an unknown number as it came.
-/

namespace VmBridge

/-- The version of the native interface that the bridge speaks. -/
def interfaceVersion : Int32 := 10

/-- The bit of a native message's flags that marks a static call. -/
def staticFlag : UInt32 := 1

/-- The kind of call-like command that produced a message. -/
inductive CallKind where
  | call
  | delegateCall
  | callCode
  | create
  | create2
deriving DecidableEq, Inhabited

namespace CallKind

def raw : CallKind → Int32
  | .call => 0
  | .delegateCall => 1
  | .callCode => 2
  | .create => 3
  | .create2 => 4

def ofRaw (raw : Int32) : Except Int32 CallKind :=
  match raw.toInt with
  | 0 => .ok .call
  | 1 => .ok .delegateCall
  | 2 => .ok .callCode
  | 3 => .ok .create
  | 4 => .ok .create2
  | _ => .error raw

def name : CallKind → String
  | .call => "Call"
  | .delegateCall => "DelegateCall"
  | .callCode => "CallCode"
  | .create => "Create"
  | .create2 => "Create2"

/-- Whether a message of this kind creates an account. -/
def isCreate : CallKind → Bool
  | .create | .create2 => true
  | _ => false

theorem ofRaw_raw (kind : CallKind) : ofRaw kind.raw = .ok kind := by
  cases kind <;> rfl

end CallKind

/-- The ruleset under which code is executed. -/
inductive Revision where
  | shanghai
deriving DecidableEq, Inhabited

namespace Revision

def raw : Revision → Int32
  | .shanghai => 0

/-- The newest revision that has a number. -/
def latest : Revision := .shanghai

/-- The newest revision meant for general use. -/
def latestStable : Revision := .shanghai

end Revision

/-- The outcome of an execution.  Negative numbers report a problem in the
host, the bridge or the VM and not in the executed code. -/
inductive StatusCode where
  | success
  | failure
  | revert
  | outOfGas
  | invalidInstruction
  | undefinedInstruction
  | stackOverflow
  | stackUnderflow
  | badJumpDestination
  | invalidMemoryAccess
  | callDepthExceeded
  | staticModeViolation
  | precompileFailure
  | contractValidationFailure
  | argumentOutOfRange
  | wasmUnreachableInstruction
  | wasmTrap
  | insufficientBalance
  | internalError
  | rejected
  | outOfMemory
  /-- A number without a meaning here, kept as it came. -/
  | unknown (raw : Int32)
deriving DecidableEq

namespace StatusCode

def ofRaw (raw : Int32) : StatusCode :=
  match raw.toInt with
  | 0 => .success
  | 1 => .failure
  | 2 => .revert
  | 3 => .outOfGas
  | 4 => .invalidInstruction
  | 5 => .undefinedInstruction
  | 6 => .stackOverflow
  | 7 => .stackUnderflow
  | 8 => .badJumpDestination
  | 9 => .invalidMemoryAccess
  | 10 => .callDepthExceeded
  | 11 => .staticModeViolation
  | 12 => .precompileFailure
  | 13 => .contractValidationFailure
  | 14 => .argumentOutOfRange
  | 15 => .wasmUnreachableInstruction
  | 16 => .wasmTrap
  | 17 => .insufficientBalance
  | -1 => .internalError
  | -2 => .rejected
  | -3 => .outOfMemory
  | _ => .unknown raw

def raw : StatusCode → Int32
  | .success => 0
  | .failure => 1
  | .revert => 2
  | .outOfGas => 3
  | .invalidInstruction => 4
  | .undefinedInstruction => 5
  | .stackOverflow => 6
  | .stackUnderflow => 7
  | .badJumpDestination => 8
  | .invalidMemoryAccess => 9
  | .callDepthExceeded => 10
  | .staticModeViolation => 11
  | .precompileFailure => 12
  | .contractValidationFailure => 13
  | .argumentOutOfRange => 14
  | .wasmUnreachableInstruction => 15
  | .wasmTrap => 16
  | .insufficientBalance => 17
  | .internalError => -1
  | .rejected => -2
  | .outOfMemory => -3
  | .unknown raw => raw

/-- Whether the execution succeeded. -/
def isSuccess (status : StatusCode) : Bool :=
  status == .success

/-- Whether the problem lies outside the executed code. -/
def isInternalError (status : StatusCode) : Bool :=
  status.raw < 0

def text : StatusCode → String
  | .success => "success"
  | .failure => "failure"
  | .revert => "revert"
  | .outOfGas => "out of gas"
  | .invalidInstruction => "invalid instruction"
  | .undefinedInstruction => "undefined instruction"
  | .stackOverflow => "stack overflow"
  | .stackUnderflow => "stack underflow"
  | .badJumpDestination => "bad jump destination"
  | .invalidMemoryAccess => "invalid memory access"
  | .callDepthExceeded => "call depth exceeded"
  | .staticModeViolation => "static mode violation"
  | .precompileFailure => "precompile failure"
  | .contractValidationFailure => "contract validation failure"
  | .argumentOutOfRange => "argument out of range"
  | .wasmUnreachableInstruction => "wasm unreachable instruction"
  | .wasmTrap => "wasm trap"
  | .insufficientBalance => "insufficient balance"
  | .internalError => "internal error"
  | .rejected => "rejected"
  | .outOfMemory => "out of memory"
  | .unknown _ => "<unknown>"

def name : StatusCode → String
  | .success => "Success"
  | .failure => "Failure"
  | .revert => "Revert"
  | .outOfGas => "OutOfGas"
  | .invalidInstruction => "InvalidInstruction"
  | .undefinedInstruction => "UndefinedInstruction"
  | .stackOverflow => "StackOverflow"
  | .stackUnderflow => "StackUnderflow"
  | .badJumpDestination => "BadJumpDestination"
  | .invalidMemoryAccess => "InvalidMemoryAccess"
  | .callDepthExceeded => "CallDepthExceeded"
  | .staticModeViolation => "StaticModeViolation"
  | .precompileFailure => "PrecompileFailure"
  | .contractValidationFailure => "ContractValidationFailure"
  | .argumentOutOfRange => "ArgumentOutOfRange"
  | .wasmUnreachableInstruction => "WasmUnreachableInstruction"
  | .wasmTrap => "WasmTrap"
  | .insufficientBalance => "InsufficientBalance"
  | .internalError => "InternalError"
  | .rejected => "Rejected"
  | .outOfMemory => "OutOfMemory"
  | .unknown raw => s!"Unknown({raw.toInt})"

end StatusCode

/-- An optional feature of a VM. -/
inductive Capability where
  | bytecode
  | wasm
  | precompiles
deriving DecidableEq

namespace Capability

def flag : Capability → UInt32
  | .bytecode => 1
  | .wasm => 2
  | .precompiles => 4

/-- The features in the order of their bits. -/
def all : List Capability := [.bytecode, .wasm, .precompiles]

end Capability

/-- The effect of a storage write, as the host reports it. -/
inductive StorageStatus where
  | assigned
  | added
  | deleted
  | modified
  | deletedAdded
  | modifiedDeleted
  | deletedRestored
  | addedDeleted
  | modifiedRestored
deriving DecidableEq, Inhabited

namespace StorageStatus

def raw : StorageStatus → Int32
  | .assigned => 0
  | .added => 1
  | .deleted => 2
  | .modified => 3
  | .deletedAdded => 4
  | .modifiedDeleted => 5
  | .deletedRestored => 6
  | .addedDeleted => 7
  | .modifiedRestored => 8

def ofRaw (raw : Int32) : Except Int32 StorageStatus :=
  match raw.toInt with
  | 0 => .ok .assigned
  | 1 => .ok .added
  | 2 => .ok .deleted
  | 3 => .ok .modified
  | 4 => .ok .deletedAdded
  | 5 => .ok .modifiedDeleted
  | 6 => .ok .deletedRestored
  | 7 => .ok .addedDeleted
  | 8 => .ok .modifiedRestored
  | _ => .error raw

def name : StorageStatus → String
  | .assigned => "Assigned"
  | .added => "Added"
  | .deleted => "Deleted"
  | .modified => "Modified"
  | .deletedAdded => "DeletedAdded"
  | .modifiedDeleted => "ModifiedDeleted"
  | .deletedRestored => "DeletedRestored"
  | .addedDeleted => "AddedDeleted"
  | .modifiedRestored => "ModifiedRestored"

end StorageStatus

/-- Whether an account or a slot had been accessed before. -/
inductive AccessStatus where
  | cold
  | warm
deriving DecidableEq, Inhabited

namespace AccessStatus

def raw : AccessStatus → Int32
  | .cold => 0
  | .warm => 1

def ofRaw (raw : Int32) : Except Int32 AccessStatus :=
  match raw.toInt with
  | 0 => .ok .cold
  | 1 => .ok .warm
  | _ => .error raw

def name : AccessStatus → String
  | .cold => "Cold"
  | .warm => "Warm"

end AccessStatus

/-- A VM's answer to a configuration option. -/
inductive OptionAnswer where
  | success
  | invalidName
  | invalidValue
deriving DecidableEq

namespace OptionAnswer

def raw : OptionAnswer → Int32
  | .success => 0
  | .invalidName => 1
  | .invalidValue => 2

def ofRaw (raw : Int32) : Except Int32 OptionAnswer :=
  match raw.toInt with
  | 0 => .ok .success
  | 1 => .ok .invalidName
  | 2 => .ok .invalidValue
  | _ => .error raw

def name : OptionAnswer → String
  | .success => "Success"
  | .invalidName => "InvalidName"
  | .invalidValue => "InvalidValue"

end OptionAnswer

end VmBridge
