import VmBridge.ExecutionResult

/-!
# What a host can be asked

A host serves fifteen methods.  `HostMethod` is one invocation with its
arguments, and `HostMethod.Answer` is the type of what it returns.  All
arguments are values: pointers have been followed and checked before a method
is invoked.
-/

namespace VmBridge

/-- The name of a host method. -/
inductive MethodName where
  | accountExists
  | getStorage
  | setStorage
  | getBalance
  | getCodeSize
  | getCodeHash
  | getCode
  | copyCode
  | selfdestruct
  | call
  | getTxContext
  | getBlockHash
  | emitLog
  | accessAccount
  | accessStorage
deriving DecidableEq

namespace MethodName

/-- The spelling of a method name. -/
def text : MethodName → String
  | .accountExists => "account_exists"
  | .getStorage => "get_storage"
  | .setStorage => "set_storage"
  | .getBalance => "get_balance"
  | .getCodeSize => "get_code_size"
  | .getCodeHash => "get_code_hash"
  | .getCode => "get_code"
  | .copyCode => "copy_code"
  | .selfdestruct => "selfdestruct"
  | .call => "call"
  | .getTxContext => "get_tx_context"
  | .getBlockHash => "get_block_hash"
  | .emitLog => "emit_log"
  | .accessAccount => "access_account"
  | .accessStorage => "access_storage"

/-- All method names. -/
def all : List MethodName := [
  .accountExists, .getStorage, .setStorage, .getBalance, .getCodeSize, .getCodeHash,
  .getCode, .copyCode, .selfdestruct, .call, .getTxContext, .getBlockHash, .emitLog,
  .accessAccount, .accessStorage]

/-- The method name with a given spelling. -/
def ofText? (text : String) : Option MethodName :=
  all.find? fun method => method.text == text

end MethodName

/-- One invocation of a host method. -/
inductive HostMethod where
  | accountExists (address : Address)
  | getStorage (address : Address) (key : Word)
  | setStorage (address : Address) (key : Word) (value : Word)
  | getBalance (address : Address)
  | getCodeSize (address : Address)
  | getCodeHash (address : Address)
  | getCode (address : Address)
  /-- Fill a buffer with the code from an offset on. -/
  | copyCode (address : Address) (offset : Nat) (size : Nat) (buffer : FixedBytes size)
  | selfdestruct (address : Address) (beneficiary : Address)
  | call (message : Message)
  | getTxContext
  | getBlockHash (number : Int64)
  | emitLog (log : ContractLog)
  | accessAccount (address : Address)
  | accessStorage (address : Address) (key : Word)

namespace HostMethod

/-- The name of the invoked method. -/
def name : HostMethod → MethodName
  | .accountExists _ => .accountExists
  | .getStorage _ _ => .getStorage
  | .setStorage _ _ _ => .setStorage
  | .getBalance _ => .getBalance
  | .getCodeSize _ => .getCodeSize
  | .getCodeHash _ => .getCodeHash
  | .getCode _ => .getCode
  | .copyCode _ _ _ _ => .copyCode
  | .selfdestruct _ _ => .selfdestruct
  | .call _ => .call
  | .getTxContext => .getTxContext
  | .getBlockHash _ => .getBlockHash
  | .emitLog _ => .emitLog
  | .accessAccount _ => .accessAccount
  | .accessStorage _ _ => .accessStorage

/-- The type of what a method returns.  Copying code returns the count that
the host claims to have written together with the buffer as it is then. -/
abbrev Answer : HostMethod → Type
  | .accountExists _ => Bool
  | .getStorage _ _ => Word
  | .setStorage _ _ _ => StorageStatus
  | .getBalance _ => Word
  | .getCodeSize _ => Nat
  | .getCodeHash _ => Word
  | .getCode _ => Bytes
  | .copyCode _ _ size _ => Nat × FixedBytes size
  | .selfdestruct _ _ => Bool
  | .call _ => ExecutionResult
  | .getTxContext => TxContext
  | .getBlockHash _ => Word
  | .emitLog _ => Unit
  | .accessAccount _ => AccessStatus
  | .accessStorage _ _ => AccessStatus

end HostMethod

end VmBridge
