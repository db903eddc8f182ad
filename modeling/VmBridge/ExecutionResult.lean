import VmBridge.Message

/-!
# Results of executions

An `ExecutionResult` owns its output.  A `NativeResult` lends its output as a
span and may carry a release function that its owner has to run once.
Absence is written differently on the two sides: no created account is the
zero address in a native result.
-/

namespace VmBridge

/-- The outcome of an execution. -/
structure ExecutionResult where
  status : StatusCode
  gasLeft : Int64
  gasRefund : Int64
  output : Bytes
  createAddress : Option Address
deriving DecidableEq

/-- Who supplied a VM instance or the release function of a result. -/
inductive Provider where
  | binding
  /-- The example VM linked into the program. -/
  | bundled
  /-- The example VM loaded from a library of the platform. -/
  | platform
  /-- A scripted VM, by its slot. -/
  | scripted (slot : Nat)
deriving DecidableEq

/-- The release function of a native result: whose it is, and the bytes of
output that it frees. -/
structure Release where
  owner : Provider
  memory : Bytes
deriving DecidableEq

/-- The outcome of an execution as native code hands it over. -/
structure NativeResult where
  status : Int32
  gasLeft : Int64
  gasRefund : Int64
  output : Span UInt8
  release : Option Release
  createAddress : Address
deriving DecidableEq

namespace ExecutionResult

/-- A result without a refund that created no account. -/
def new (status : StatusCode) (gasLeft : Int64) (output : Bytes) : ExecutionResult :=
  ⟨status, gasLeft, 0, output, none⟩

/-- A successful result. -/
def success (gasLeft : Int64) (output : Bytes) : ExecutionResult :=
  new .success gasLeft output

/-- A result that takes its effects back and keeps its output. -/
def revert (gasLeft : Int64) (output : Bytes) : ExecutionResult :=
  new .revert gasLeft output

def failure : ExecutionResult := new .failure 0 []

def internalError : ExecutionResult := new .internalError 0 []

def isSuccess (result : ExecutionResult) : Bool := result.status.isSuccess

/-- The status unless it is success. -/
def error? (result : ExecutionResult) : Option StatusCode :=
  if result.isSuccess then none else some result.status

/-- Hand a result to native code.  A non-empty output comes with a release
function; an empty one has a null pointer and needs none. -/
def toNative (result : ExecutionResult) : NativeResult where
  status := result.status.raw
  gasLeft := result.gasLeft
  gasRefund := result.gasRefund
  output := .lend result.output
  release := if result.output.isEmpty then none else some ⟨.binding, result.output⟩
  createAddress := result.createAddress.getD (.zero 20)

end ExecutionResult

/-- Copy a native result.  A null output is empty, and the zero address means
that no account was created. -/
def NativeResult.toResult (result : NativeResult) : ExecutionResult where
  status := .ofRaw result.status
  gasLeft := result.gasLeft
  gasRefund := result.gasRefund
  output := result.output.contents
  createAddress :=
    if result.createAddress = .zero 20 then none else some result.createAddress

end VmBridge
