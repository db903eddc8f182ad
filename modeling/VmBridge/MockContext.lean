import VmBridge.HostRun
import VmBridge.Keccak

/-!
# The mock context

A host over an in-memory world.  It executes nested messages on its own VM
and against its own world, and takes the changes of a nested message back
unless the message succeeded.  For tests it can be told to fail in one of its
methods.
-/

namespace VmBridge

/-- What the context remembers of a nested message. -/
structure CallRecord where
  kind : CallKind
  depth : Int32
  recipient : Address
  codeAddress : Address
deriving DecidableEq

structure MockContext (ν : Type) where
  world : World
  /-- The nested messages so far, the newest first, and also those whose changes
  were taken back. -/
  newestCalls : List CallRecord
  txContext : TxContext
  vm : Option (Vm ν)
  /-- The method that fails, if any. -/
  faultIn : Option MethodName

namespace MockContext

variable {ν : Type}

/-- The deepest message that is still executed. -/
def maxDepth : Int32 := 1024

/-- The number of recent blocks whose hashes are known. -/
def blockHashWindow : Int := 256

/-- The transaction and block data of a context that sets none. -/
def defaultTxContext : TxContext where
  gasPrice := .zero 32
  origin := (FixedBytes.zero 20).overwrite [3]
  coinbase := (FixedBytes.zero 20).overwrite [2]
  blockNumber := 12345
  blockTimestamp := 1234567890
  blockGasLimit := 1000000
  prevRandao := .zero 32
  chainId := .ofNat 32 7
  baseFee := .zero 32

/-- A context with some accounts in which nothing has happened yet. -/
def new (accounts : Table Address Account) (txContext : TxContext) (vm : Option (Vm ν)) :
    MockContext ν where
  world := ⟨accounts, [], [], [], []⟩
  newestCalls := []
  txContext := txContext
  vm := vm
  faultIn := none

/-- The nested messages in the order in which they came. -/
def calls (context : MockContext ν) : List CallRecord := context.newestCalls.reverse

/-- The address of an account created by the given number of earlier
creations of its sender. -/
def createAddress (sender : Address) (nonce : UInt64) : Address :=
  .leftPadded 20 (keccak256 (sender.toList ++ bytesOfUInt64 nonce)).toList

/-- The address of an account created with a salt. -/
def saltedAddress (sender : Address) (salt : Word) (initCode : Bytes) : Address :=
  .leftPadded 20 (keccak256
    (0xff :: sender.toList ++ salt.toList ++ (keccak256 initCode).toList)).toList

end MockContext

/-- A piece of work of a mock context. -/
abbrev MockAction (ν α : Type) : Type := HostAction Unit ν (MockContext ν) α

namespace MockAction

open MockContext (maxDepth blockHashWindow createAddress saltedAddress)

variable {ν : Type}

def getWorld : MockAction ν World := do
  let context ← HostAction.getState
  pure context.world

def setWorld (world : World) : MockAction ν Unit := do
  let context ← HostAction.getState
  HostAction.setState { context with world }

/-- Change the world. -/
def change (change : Change) : MockAction ν Unit := do
  HostAction.note ⟨.worldChanged change, rfl⟩
  let world ← getWorld
  setWorld (world.apply change)

/-- Fail if the context was told to fail in this method. -/
def check (method : MethodName) : MockAction ν Unit := do
  let context ← HostAction.getState
  if context.faultIn = some method then
    HostAction.fail (.text s!"{method.text} failed")
  else pure ()

/-- Move an amount if the sender can pay it.  Moving nothing always works and
changes nothing. -/
def transfer (sender receiver : Address) (value : Word) : MockAction ν Bool := do
  let world ← getWorld
  if value.toNat = 0 then pure true
  else if world.balance sender < value.toNat then pure false
  else
    change (.transfer sender receiver value.toNat)
    pure true

/-- The address of the account that a message creates.  A creation without
salt counts, and the count must not overflow. -/
def newAddress (message : Message) : MockAction ν Address :=
  match message.kind with
  | .create2 => pure (saltedAddress message.sender message.salt message.input)
  | _ => do
      let world ← getWorld
      let nonce := (world.account message.sender).nonce
      if nonce.toNat + 1 = UInt64.size then
        HostAction.fail (.text "attempt to add with overflow")
      else
        change (.countCreation message.sender)
        pure (createAddress message.sender nonce)

/-- Carry out a message that creates an account: its input is the code to run,
and the output of a success becomes the code of the account. -/
def dispatchCreation (vm : Vm ν) (message : Message) : MockAction ν ExecutionResult := do
  let address ← newAddress message
  if ← transfer message.sender address message.value then
    let nested := { message with recipient := address, codeAddress := address }
    let result ← HostAction.execute vm () nested message.input
    if result.isSuccess then
      change (.deployCode address result.output)
      pure { result with createAddress := some address }
    else pure result
  else pure (.new .insufficientBalance message.gas [])

/-- Carry out a message that calls an account.  Only a plain call moves its
value. -/
def dispatchCall (vm : Vm ν) (message : Message) : MockAction ν ExecutionResult := do
  let paid ←
    if message.kind = .call then transfer message.sender message.recipient message.value
    else pure true
  if paid then
    let world ← getWorld
    HostAction.execute vm () message (world.code message.codeAddress)
  else pure (.new .insufficientBalance message.gas [])

/-- Carry out a nested message. -/
def dispatch (vm : Vm ν) (message : Message) : MockAction ν ExecutionResult :=
  if message.kind.isCreate then dispatchCreation vm message else dispatchCall vm message

def recordCall (message : Message) : MockAction ν Unit := do
  let context ← HostAction.getState
  let record : CallRecord :=
    ⟨message.kind, message.depth, message.recipient, message.codeAddress⟩
  HostAction.setState { context with newestCalls := record :: context.newestCalls }

/-- Carry out a nested message and take its changes back unless it
succeeds. -/
def runFrame (vm : Vm ν) (message : Message) : MockAction ν ExecutionResult := do
  let snapshot ← getWorld
  HostAction.note ⟨.frameOpened message, rfl⟩
  let result ← dispatch vm message
  if result.isSuccess then
    HostAction.note ⟨.frameClosed true, rfl⟩
  else
    let world ← getWorld
    setWorld (world.rolledBack snapshot)
    HostAction.note ⟨.frameClosed false, rfl⟩
  pure result

/-- Serve a nested message.  Without a VM, or too deep down, it fails at
once. -/
def call (message : Message) : MockAction ν ExecutionResult := do
  check .call
  recordCall message
  let context ← HostAction.getState
  match context.vm with
  | none => pure .failure
  | some vm =>
      if maxDepth < message.depth then pure (.new .callDepthExceeded message.gas [])
      else runFrame vm message

/-- The whole code of an account. -/
def getCode (address : Address) : MockAction ν Bytes := do
  check .getCode
  let world ← getWorld
  pure (world.code address)

/-- Write a slot and report the effect. -/
def setStorage (address : Address) (key value : Word) : MockAction ν StorageStatus := do
  check .setStorage
  let world ← getWorld
  change (.writeSlot address key value)
  pure (World.writeStatus (world.slot address key) value)

/-- Send the whole balance of an account to another and mark the account. -/
def selfdestruct (address beneficiary : Address) : MockAction ν Bool := do
  check .selfdestruct
  let world ← getWorld
  if address = beneficiary then pure ()
  else
    let _ ← transfer address beneficiary (world.account address).balance
  change (.markDestructed address)
  pure (address ∉ world.destructed)

/-- The hash of a recent block; any other block has the zero hash. -/
def getBlockHash (number : Int64) : MockAction ν Word := do
  check .getBlockHash
  let context ← HostAction.getState
  let current := context.txContext.blockNumber.toInt
  if current ≤ number.toInt then pure (.zero 32)
  else if current - blockHashWindow < Int64.minValue.toInt then
    HostAction.fail (.text "attempt to subtract with overflow")
  else if number.toInt < current - blockHashWindow then pure (.zero 32)
  else pure (keccak256 (bytesOfInt64 number))

/-- Mark an account as accessed and report its former status. -/
def accessAccount (address : Address) : MockAction ν AccessStatus := do
  check .accessAccount
  let world ← getWorld
  change (.warmAccount address)
  pure (if address ∈ world.warmAccounts then .warm else .cold)

/-- Mark a slot as accessed and report its former status. -/
def accessStorage (address : Address) (key : Word) : MockAction ν AccessStatus := do
  check .accessStorage
  let world ← getWorld
  change (.warmSlot address key)
  pure (if (address, key) ∈ world.warmSlots then .warm else .cold)

end MockAction

namespace MockContext

variable {ν : Type}

open MockAction in
/-- How a mock context serves its methods.  All but the copy of code, which
uses the whole code, can be told to fail. -/
def hosting : Hosting Unit ν (MockContext ν) := fun _ method =>
  match method with
  | .accountExists address => do
      check .accountExists
      let world ← getWorld
      pure (world.accounts.contains address)
  | .getStorage address key => do
      check .getStorage
      let world ← getWorld
      pure (world.slot address key)
  | .setStorage address key value => setStorage address key value
  | .getBalance address => do
      check .getBalance
      let world ← getWorld
      pure (.ofNat 32 (world.balance address))
  | .getCodeSize address => do
      check .getCodeSize
      let world ← getWorld
      pure (world.code address).length
  | .getCodeHash address => do
      check .getCodeHash
      let world ← getWorld
      match world.accounts.get? address with
      | some account => pure (keccak256 account.code)
      | none => pure (.zero 32)
  | .getCode address => getCode address
  | .copyCode address offset size buffer =>
      providedCopyCode getCode address offset size buffer
  | .selfdestruct address beneficiary => selfdestruct address beneficiary
  | .call message => call message
  | .getTxContext => do
      check .getTxContext
      let context ← HostAction.getState
      pure context.txContext
  | .getBlockHash number => getBlockHash number
  | .emitLog log => do
      check .emitLog
      change (.appendLog log)
  | .accessAccount address => accessAccount address
  | .accessStorage address key => accessStorage address key

/-- Execute a message from outside against the code of its code address. -/
def execute (message : Message) : MockAction ν ExecutionResult := do
  let context ← HostAction.getState
  match context.vm with
  | some vm => HostAction.execute vm () message (context.world.code message.codeAddress)
  | none => pure .internalError

end MockContext

end VmBridge
