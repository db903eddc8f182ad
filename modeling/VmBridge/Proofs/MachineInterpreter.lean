import VmBridge.Interpreter

/-!
# The interpreter on a machine

A machine executes code with registers of fixed size, and several of its
operations are not defined everywhere: an index can lie outside of a slice, a sum
can overflow, and a clamp can have its bounds the wrong way round.  `Machine` is
work that crashes where an operation is not defined, and also where a register
leaves its bounds, so that what never crashes keeps them throughout.  The
interpreter is written down as such work, one operation after the other.
-/

namespace VmBridge

structure Registers where
  position : Nat
  gasLeft : Int64
  output : Bytes

/-- An operation that is not defined. -/
inductive Defect where
  | indexOutOfRange
  | overflow
  /-- A clamp whose lower bound lies above the upper one. -/
  | invertedClamp
  | allocation
  /-- A register is written that leaves its bounds. -/
  | registerOutOfBounds
deriving DecidableEq

/-- Why work stops before its end. -/
inductive Stop where
  | abort (status : StatusCode)
  | crash (defect : Defect)
deriving DecidableEq

/-- Native code that works on the registers. -/
def Machine (α : Type) : Type := Registers → NativeRun (Except Stop α × Registers)

/-- The number of addresses, above all sizes and positions. -/
def addressCount : Nat := UInt64.size

/-- The largest size of an allocation. -/
def maxAllocation : Nat := addressCount / 2 - 1

/-- What is noted of a command that has been charged. -/
def Frame.charged (frame : Frame) (position : Nat) (opcode : UInt8) (gasLeft : Int) :
    NativeEvent :=
  ⟨.commandCharged position opcode gasLeft (2 ≤ frame.verbosity), rfl⟩

theorem byNativeCode_released (release : Release) :
    (Event.released release).byNativeCode = true :=
  rfl

namespace Machine

variable {α β : Type}

def andThen (next : α → Machine β) : Except Stop α × Registers →
    NativeRun (Except Stop β × Registers)
  | (.ok value, registers) => next value registers
  | (.error stop, registers) => .done (.error stop, registers)

instance : Monad Machine where
  pure value := fun registers => .done (.ok value, registers)
  bind work next := fun registers => (work registers).bind (andThen next)

def getRegisters : Machine Registers := fun registers => .done (.ok registers, registers)

def abort (status : StatusCode) : Machine α := fun registers =>
  .done (.error (.abort status), registers)

def crash (defect : Defect) : Machine α := fun registers =>
  .done (.error (.crash defect), registers)

def note (event : NativeEvent) : Machine Unit := fun registers =>
  .note event (.done (.ok (), registers))

/-- Make a callback of a frame, if the table has it. -/
def ask (frame : Frame) (request : Request) : Machine request.Answer := fun registers =>
  if frame.table request.name then
    .ask frame.handle request fun answer => .done (.ok answer, registers)
  else .done (.error (.abort .internalError), registers)

section Operations

def checkedAdd (first second : Nat) : Option Nat :=
  if first + second < addressCount then some (first + second) else none

/-- The bytes between two positions. -/
def slice (bytes : Bytes) (start stop : Nat) : Machine Bytes :=
  if start ≤ stop ∧ stop ≤ bytes.length then pure ((bytes.drop start).take (stop - start))
  else crash .indexOutOfRange

/-- Copy bytes to a place of the same size. -/
def copyFixed (size : Nat) (bytes : Bytes) : Machine (FixedBytes size) :=
  if same : bytes.length = size then pure ⟨bytes, same⟩ else crash .indexOutOfRange

def allocate (size : Nat) : Machine Bytes :=
  if size ≤ maxAllocation then pure (FixedBytes.zero size).toList else crash .allocation

def subtract (first second : Int64) : Machine Int64 :=
  let difference := first.toInt - second.toInt
  if Int64.minValue.toInt ≤ difference ∧ difference ≤ Int64.maxValue.toInt then
    pure (Int64.ofInt difference)
  else crash .overflow

def decrement (size : Nat) : Machine Nat :=
  if 1 ≤ size then pure (size - 1) else crash .overflow

def increment (number : Int32) : Machine Int32 :=
  if number.toInt + 1 ≤ Int32.maxValue.toInt then pure (number + 1) else crash .overflow

def clamp (number low high : Int64) : Machine Int64 :=
  if high < low then crash .invertedClamp
  else if number < low then pure low
  else if high < number then pure high
  else pure number

end Operations

section Code

variable (frame : Frame) (code : Bytes)

def Within (registers : Registers) : Prop :=
  registers.position ≤ code.length ∧ 0 ≤ registers.gasLeft.toInt ∧
    registers.gasLeft.toInt ≤ startingGas frame.message

instance (registers : Registers) : Decidable (Within frame code registers) :=
  inferInstanceAs (Decidable (_ ∧ _ ∧ _))

def setRegisters (registers : Registers) : Machine Unit := fun before =>
  if Within frame code registers then .done (.ok (), registers)
  else .done (.error (.crash .registerOutOfBounds), before)

def append (bytes : Bytes) : Machine Unit := do
  let registers ← getRegisters
  setRegisters frame code { registers with output := registers.output ++ bytes }

def charge : Machine Unit := do
  let registers ← getRegisters
  if registers.gasLeft < 1 then abort .outOfGas
  else
    let gasLeft ← subtract registers.gasLeft 1
    setRegisters frame code { registers with gasLeft }

def immediate (size : Nat) : Machine Bytes := do
  let registers ← getRegisters
  match (checkedAdd registers.position size).filter (· ≤ code.length) with
  | none => abort .invalidInstruction
  | some position =>
      let bytes ← slice code registers.position position
      setRegisters frame code { registers with position }
      pure bytes

def fetchFixed (size : Nat) : Machine (FixedBytes size) := do
  let bytes ← immediate frame code size
  copyFixed size bytes

def fetchByte : Machine Nat := do
  let bytes ← immediate frame code 1
  match bytes[0]? with
  | some byte => pure byte.toNat
  | none => crash .indexOutOfRange

def fetchNumber (size : Nat) : Machine Nat := do
  let bytes ← fetchFixed frame code size
  pure bytes.toNat

def fetchWords : Nat → Machine (List Word)
  | 0 => pure []
  | count + 1 => do
      let word ← fetchFixed frame code 32
      let words ← fetchWords count
      pure (word :: words)

def ensureWritable : Machine Unit :=
  if frame.isStatic then abort .staticModeViolation else pure ()

def fetchCall : Machine Command := do
  let kindNumber ← fetchByte frame code
  let address ← fetchFixed frame code 20
  let gas ← fetchNumber frame code 8
  let value ← fetchFixed frame code 32
  let salt ← fetchFixed frame code 32
  let length ← fetchNumber frame code 2
  let input ← immediate frame code length
  match CallKind.ofRaw (Int32.ofNat kindNumber) with
  | .ok kind => pure (.call kind address (UInt64.ofNat gas) value salt input)
  | .error _ => abort .invalidInstruction

def fetchLog : Machine Command := do
  let count ← fetchByte frame code
  if maxLogTopics < count then abort .invalidInstruction
  else
    let topics ← fetchWords frame code count
    pure (.log topics)

def fetchCommand (opcode : UInt8) : Machine Command :=
  match opcode.toNat with
  | 0x00 => pure .stop
  | 0x01 => pure .echo
  | 0x02 => do
      let key ← fetchFixed frame code 32
      pure (.loadSlot key)
  | 0x03 => do
      ensureWritable frame
      let key ← fetchFixed frame code 32
      let value ← fetchFixed frame code 32
      pure (.storeSlot key value)
  | 0x04 => do
      let address ← fetchFixed frame code 20
      pure (.balance address)
  | 0x05 => fetchCall frame code
  | 0x06 => pure .revert
  | 0x07 => pure .blockNumber
  | 0x08 => do
      let number ← fetchNumber frame code 8
      pure (.blockHash (UInt64.ofNat number))
  | 0x09 => do
      let address ← fetchFixed frame code 20
      pure (.accountCode address)
  | 0x0a => do
      ensureWritable frame
      let beneficiary ← fetchFixed frame code 20
      pure (.selfdestruct beneficiary)
  | 0x0b => do
      let address ← fetchFixed frame code 20
      pure (.access address)
  | 0x0c => do
      ensureWritable frame
      fetchLog frame code
  | 0x0d => do
      let address ← fetchFixed frame code 20
      pure (.accountExists address)
  | 0x0e => pure .origin
  | 0xfe => pure .invalid
  | _ => abort .undefinedInstruction

/-- The gas for a call: what it asks for, as far as a register can hold it and
there is. -/
def grant (asked : UInt64) (gasLeft : Int64) : Int64 :=
  let fitting :=
    if asked.toNat ≤ Int64.maxValue.toInt.toNat then Int64.ofNat asked.toNat
    else Int64.maxValue
  if fitting < gasLeft then fitting else gasLeft

/-- Pay the part of the granted gas that does not come back. -/
def pay (granted reported : Int64) : Machine Unit := do
  let returned ← clamp reported 0 granted
  let spent ← subtract granted returned
  let registers ← getRegisters
  let gasLeft ← subtract registers.gasLeft spent
  setRegisters frame code { registers with gasLeft }

def call (kind : CallKind) (address : Address) (gas : UInt64) (value salt : Word)
    (input : Bytes) : Machine Unit := do
  if frame.isStatic && (kind.isCreate || (kind == .call && value != .zero 32)) then
    abort .staticModeViolation
  else if maxCallDepth ≤ frame.message.depth then
    let unmade := if kind.isCreate then (FixedBytes.zero 20).toList else []
    append frame code (statusByte StatusCode.callDepthExceeded.raw :: unmade)
  else
    let registers ← getRegisters
    let granted := grant gas registers.gasLeft
    let depth ← increment frame.message.depth
    let nested := nestedMessage frame.message kind address granted.toInt value salt input
    let result ← ask frame (.call (some { nested with gas := granted, depth }))
    match result.release with
    | some release => note ⟨.released release, byNativeCode_released release⟩
    | none => pure ()
    pay frame code granted result.gasLeft
    let answered :=
      if kind.isCreate then result.createAddress.toList else result.output.contents
    append frame code (statusByte result.status :: answered)

def carryOut (command : Command) : Machine Flow := do
  let recipient := some frame.message.recipient
  match command with
  | .stop => pure .halt
  | .revert => pure .revert
  | .invalid => abort .invalidInstruction
  | .echo => do
      append frame code frame.input
      pure .proceed
  | .loadSlot key => do
      let _ ← ask frame (.accessStorage recipient (some key))
      let value ← ask frame (.getStorage recipient (some key))
      append frame code value.toList
      pure .proceed
  | .storeSlot key value => do
      let status ← ask frame (.setStorage recipient (some key) (some value))
      append frame code [statusByte status]
      pure .proceed
  | .balance address => do
      let balance ← ask frame (.getBalance (some address))
      append frame code balance.toList
      pure .proceed
  | .call kind address gas value salt input => do
      call frame code kind address gas value salt input
      pure .proceed
  | .blockNumber => do
      let context ← ask frame .getTxContext
      append frame code (bytesOfInt64 context.blockNumber)
      pure .proceed
  | .origin => do
      let context ← ask frame .getTxContext
      append frame code context.origin.toList
      pure .proceed
  | .blockHash number => do
      let hash ← ask frame (.getBlockHash number.toInt64)
      append frame code hash.toList
      pure .proceed
  | .accountCode address => do
      let size ← ask frame (.getCodeSize (some address))
      let hash ← ask frame (.getCodeHash (some address))
      let buffer ← allocate size
      let copy ← ask frame (.copyCode (some address) 0 (.live buffer))
      append frame code (bigEndian 8 size)
      append frame code hash.toList
      let written ← slice copy.buffer 0 (min copy.written size)
      append frame code written
      pure .proceed
  | .selfdestruct beneficiary => do
      let registered ← ask frame (.selfdestruct recipient (some beneficiary))
      append frame code [truthByte registered]
      pure .halt
  | .access address => do
      let status ← ask frame (.accessAccount (some address))
      append frame code [statusByte status]
      pure .proceed
  | .log topics => do
      ask frame (.emitLog recipient (.lend frame.input) (.live topics))
      pure .proceed
  | .accountExists address => do
      let found ← ask frame (.accountExists (some address))
      append frame code [truthByte found]
      pure .proceed

/-- Execute one command, or halt at the end of the code. -/
def step : Machine Flow := do
  let registers ← getRegisters
  match code[registers.position]? with
  | none => pure .halt
  | some opcode =>
      match checkedAdd registers.position 1 with
      | none => crash .overflow
      | some position => do
          setRegisters frame code { registers with position }
          charge frame code
          let charged ← getRegisters
          let position ← decrement charged.position
          note (frame.charged position opcode charged.gasLeft.toInt)
          let command ← fetchCommand frame code opcode
          carryOut frame code command

/-- How an execution on a machine ends. -/
inductive Finish where
  | ended (outcome : Outcome)
  | crashed (defect : Defect)
  /-- The steps did not suffice. -/
  | unfinished

/-- Execute code in at most some steps. -/
def run : Nat → Registers → NativeRun Finish
  | 0, _ => .done .unfinished
  | steps + 1, registers =>
      (step frame code registers).bind fun
        | (.ok .proceed, later) => run steps later
        | (.ok .halt, later) => .done (.ended ⟨.success, later.gasLeft.toInt, later.output⟩)
        | (.ok .revert, later) => .done (.ended ⟨.revert, later.gasLeft.toInt, later.output⟩)
        | (.error (.abort status), later) =>
            (abortAt frame later.position status).bind fun outcome => .done (.ended outcome)
        | (.error (.crash defect), _) => .done (.crashed defect)

/-- The registers with which the execution of a message starts. -/
def start (message : NativeMessage) : Registers :=
  ⟨0, if message.gas < 0 then 0 else message.gas, []⟩

end Code

end Machine

end VmBridge
