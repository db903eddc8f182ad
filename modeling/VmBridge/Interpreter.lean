import VmBridge.CommandReader
import VmBridge.NativeVm

/-!
# The interpreter of the example VM

A frame is one execution of code by the example VM.  `perform` carries out
one command whose unit of gas has been charged: it asks the host what it needs
to know and says what to append to the output.  `interpret` reads and performs
command after command until one halts, the code ends, or something is wrong;
an aborted frame keeps neither gas nor output.
-/

namespace VmBridge

/-- What stays the same during one execution of code. -/
structure Frame where
  table : CallbackTable
  handle : Nat
  message : NativeMessage
  verbosity : Nat

namespace Frame

/-- The input of the executed message. -/
def input (frame : Frame) : Bytes := frame.message.input.contents

/-- Whether the frame must not write. -/
def isStatic (frame : Frame) : Bool := frame.message.isStatic

end Frame

/-- The final state of an execution of code. -/
structure Outcome where
  status : StatusCode
  gasLeft : Int
  output : Bytes
deriving DecidableEq

/-- The outcome of an aborted execution. -/
def Outcome.aborted (status : StatusCode) : Outcome := ⟨status, 0, []⟩

/-- How an execution goes on after a command. -/
inductive Flow where
  | proceed
  | halt
  | revert
deriving DecidableEq

/-- What a command leads to: the gas that is left, the bytes to append, and
how to go on. -/
structure Progress where
  gasLeft : Int
  appended : Bytes
  flow : Flow

/-- The deepest message that still sends nested messages. -/
def maxCallDepth : Int32 := 1024

/-- Native code that may abort the execution. -/
abbrev Step (α : Type) : Type := ExceptT StatusCode NativeRun α

namespace Step

/-- Make a callback of the frame; an empty slot of the table is an internal
error. -/
def ask (frame : Frame) (request : Request) : Step request.Answer :=
  if frame.table request.name then
    ExceptT.lift (NativeRun.ask frame.handle request NativeRun.done)
  else throw .internalError

/-- Let something happen. -/
def note (event : NativeEvent) : Step Unit := ExceptT.lift (NativeRun.note event (.done ()))

end Step

/-- The lowest byte of a raw status. -/
def statusByte (raw : Int32) : UInt8 := raw.toUInt32.toUInt8

/-- The byte of a truth value. -/
def truthByte (value : Bool) : UInt8 := if value then 1 else 0

/-- The gas that a call is granted: what it asks for, as far as there is. -/
def grantedGas (asked : UInt64) (gasLeft : Int) : Int :=
  min (min (asked.toNat : Int) Int64.maxValue.toInt) gasLeft

/-- The part of the granted gas that comes back. -/
def returnedGas (granted reported : Int) : Int := max 0 (min reported granted)

/-- The message that a call sends. -/
def nestedMessage (message : NativeMessage) (kind : CallKind) (address : Address)
    (granted : Int) (value salt : Word) (input : Bytes) : NativeMessage where
  kind := kind.raw
  flags := message.flags
  depth := message.depth + 1
  gas := Int64.ofInt granted
  recipient :=
    match kind with
    | .call => address
    | .callCode | .delegateCall => message.recipient
    | .create | .create2 => .zero 20
  sender :=
    match kind with
    | .delegateCall => message.sender
    | _ => message.recipient
  input := .lend input
  value :=
    match kind with
    | .delegateCall => message.value
    | _ => value
  salt := salt
  codeAddress := address

/-- Carry out a call. -/
def performCall (frame : Frame) (gasLeft : Int) (kind : CallKind) (address : Address)
    (gas : UInt64) (value salt : Word) (input : Bytes) : Step Progress := do
  if frame.isStatic && (kind.isCreate || (kind == .call && value != .zero 32)) then
    throw .staticModeViolation
  else if maxCallDepth ≤ frame.message.depth then
    let unmade := if kind.isCreate then (FixedBytes.zero 20).toList else []
    pure ⟨gasLeft, statusByte StatusCode.callDepthExceeded.raw :: unmade, .proceed⟩
  else
    let granted := grantedGas gas gasLeft
    let nested := nestedMessage frame.message kind address granted value salt input
    let result ← Step.ask frame (.call (some nested))
    match result.release with
    | some release => Step.note ⟨.released release, rfl⟩
    | none => pure ()
    let answered :=
      if kind.isCreate then result.createAddress.toList else result.output.contents
    pure ⟨gasLeft - (granted - returnedGas granted result.gasLeft.toInt),
      statusByte result.status :: answered, .proceed⟩

/-- Carry out a command with the gas that is left after its charge. -/
def perform (frame : Frame) (gasLeft : Int) (command : Command) : Step Progress :=
  let recipient := some frame.message.recipient
  let append (bytes : Bytes) : Progress := ⟨gasLeft, bytes, .proceed⟩
  match command with
  | .stop => pure ⟨gasLeft, [], .halt⟩
  | .revert => pure ⟨gasLeft, [], .revert⟩
  | .invalid => throw .invalidInstruction
  | .echo => pure (append frame.input)
  | .loadSlot key => do
      let _ ← Step.ask frame (.accessStorage recipient (some key))
      let value ← Step.ask frame (.getStorage recipient (some key))
      pure (append value.toList)
  | .storeSlot key value => do
      let status ← Step.ask frame (.setStorage recipient (some key) (some value))
      pure (append [statusByte status])
  | .balance address => do
      let balance ← Step.ask frame (.getBalance (some address))
      pure (append balance.toList)
  | .call kind address gas value salt input =>
      performCall frame gasLeft kind address gas value salt input
  | .blockNumber => do
      let context ← Step.ask frame .getTxContext
      pure (append (bytesOfInt64 context.blockNumber))
  | .origin => do
      let context ← Step.ask frame .getTxContext
      pure (append context.origin.toList)
  | .blockHash number => do
      let hash ← Step.ask frame (.getBlockHash number.toInt64)
      pure (append hash.toList)
  | .accountCode address => do
      let size ← Step.ask frame (.getCodeSize (some address))
      let hash ← Step.ask frame (.getCodeHash (some address))
      let buffer := (FixedBytes.zero size).toList
      let copy ← Step.ask frame (.copyCode (some address) 0 (.live buffer))
      pure (append (bigEndian 8 size ++ hash.toList ++ copy.buffer.take (min copy.written size)))
  | .selfdestruct beneficiary => do
      let registered ← Step.ask frame (.selfdestruct recipient (some beneficiary))
      pure ⟨gasLeft, [truthByte registered], .halt⟩
  | .access address => do
      let status ← Step.ask frame (.accessAccount (some address))
      pure (append [statusByte status])
  | .log topics => do
      Step.ask frame (.emitLog recipient (.lend frame.input) (.live topics))
      pure (append [])
  | .accountExists address => do
      let found ← Step.ask frame (.accountExists (some address))
      pure (append [truthByte found])

/-- Abort at a position, and say so if the frame is not silent. -/
def abortAt (frame : Frame) (position : Nat) (status : StatusCode) : NativeRun Outcome :=
  if frame.verbosity = 0 then .done (.aborted status)
  else .note ⟨.codeAborted position status, rfl⟩ (.done (.aborted status))

/-- The output made of some pieces, the newest of which comes first.  Nothing
is copied when there is but one. -/
def joinNewest : List Bytes → Bytes
  | [] => []
  | newest :: older => older.foldl (fun tail piece => piece ++ tail) newest

theorem joinNewest_eq (pieces : List Bytes) : joinNewest pieces = pieces.reverse.flatten := by
  cases pieces with
  | nil => rfl
  | cons newest older => simp [joinNewest]

/-- Each command adds its piece behind the output of the commands before it. -/
theorem joinNewest_cons (piece : Bytes) (pieces : List Bytes) :
    joinNewest (piece :: pieces) = joinNewest pieces ++ piece := by
  simp [joinNewest_eq]

/-- Execute the code behind a cursor.  The output so far is kept in the pieces
that the commands appended, the newest first. -/
def interpret (frame : Frame) (cursor : Cursor) (gasLeft : Int) (pieces : List Bytes) :
    NativeRun Outcome :=
  match _code : cursor.rest with
  | [] => .done ⟨.success, gasLeft, joinNewest pieces⟩
  | opcode :: rest =>
      let afterOpcode : Cursor := ⟨cursor.position + 1, rest⟩
      if gasLeft < 1 then abortAt frame afterOpcode.position .outOfGas
      else
        .note ⟨.commandCharged cursor.position opcode (gasLeft - 1) (2 ≤ frame.verbosity),
          rfl⟩ <|
          match _read : Reader.readCommand frame.isStatic opcode afterOpcode with
          | .error status stopped => abortAt frame stopped.position status
          | .ok command next =>
              (perform frame (gasLeft - 1) command).run.bind fun result =>
                match result with
                | .error status => abortAt frame next.position status
                | .ok progress =>
                    let longer := progress.appended :: pieces
                    match progress.flow with
                    | .proceed => interpret frame next progress.gasLeft longer
                    | .halt => .done ⟨.success, progress.gasLeft, joinNewest longer⟩
                    | .revert => .done ⟨.revert, progress.gasLeft, joinNewest longer⟩
termination_by cursor.rest.length
decreasing_by
  have shorter := (Reader.readCommand_advances _read).length_le
  rw [_code, List.length_cons]
  exact Nat.lt_succ_of_le shorter

/-- The gas that a message brings; a negative amount brings none. -/
def startingGas (message : NativeMessage) : Int := max message.gas.toInt 0

/-- Execute code from its start. -/
def runCode (frame : Frame) (code : Bytes) : NativeRun Outcome :=
  interpret frame ⟨0, code⟩ (startingGas frame.message) []

end VmBridge
