import VmBridge.HostRun

/-!
# Scripted hosts

A scripted host answers every method with a fixed value and reports each time
it is asked.  It implements the required methods only, or overrides the
provided ones as well.  It can be told to fail in some methods, and to answer
nested messages by executing some code on a VM; its overrides are not for
such nested executions.
-/

namespace VmBridge

/-- What a scripted host leaves behind when it fails. -/
inductive FaultStyle where
  /-- A text that names the method. -/
  | named
  /-- A text that is always the same. -/
  | fixed
  | wordless

/-- The fault of a method in some style. -/
def FaultStyle.fault (style : FaultStyle) (method : MethodName) : Fault :=
  match style with
  | .named => .text s!"{method.text} failed"
  | .fixed => .text "static payload"
  | .wordless => .wordless

structure ScriptedHost (ν : Type) where
  /-- Whether the provided methods are overridden. -/
  overrides : Bool
  faultsIn : List MethodName
  faultStyle : FaultStyle
  found : Bool
  slotValue : Word
  storageStatus : StorageStatus
  balance : Word
  codeHash : Word
  code : Bytes
  destructs : Bool
  txContext : TxContext
  blockHash : Word
  callResult : ExecutionResult
  vm : Option (Vm ν)
  /-- The code that nested messages run on the host's VM. -/
  callCode : Option Bytes
  codeSize : Nat
  /-- The count that an overridden copy of code reports. -/
  copyCount : Nat
  access : AccessStatus

/-- A piece of work of a scripted host. -/
abbrev ScriptedAction (ν α : Type) : Type := HostAction Unit ν (ScriptedHost ν) α

namespace ScriptedHost

variable {ν : Type}

/-- The host with the provided methods as they are provided. -/
def withoutOverrides (host : ScriptedHost ν) : ScriptedHost ν :=
  { host with overrides := false }

/-- Report a method and fail if the host was told to. -/
def meet (host : ScriptedHost ν) (method : HostMethod) : ScriptedAction ν Unit := do
  HostAction.note ⟨.asked method, rfl⟩
  if method.name ∈ host.faultsIn then HostAction.fail (host.faultStyle.fault method.name)
  else pure ()

def answer {α : Type} (host : ScriptedHost ν) (method : HostMethod) (value : α) :
    ScriptedAction ν α := do
  host.meet method
  pure value

def getCode (host : ScriptedHost ν) (address : Address) : ScriptedAction ν Bytes :=
  host.answer (.getCode address) host.code

/-- Answer a nested message by executing the host's code for it, or by a fixed
result. -/
def call (host : ScriptedHost ν) (message : Message) : ScriptedAction ν ExecutionResult := do
  host.meet (.call message)
  match host.vm, host.callCode with
  | some vm, some code => HostAction.execute vm () message code
  | _, _ => pure host.callResult

/-- An overridden copy of code: it starts at the beginning of the code,
whatever the offset, and reports a fixed count. -/
def copyStart (host : ScriptedHost ν) (method : HostMethod) {size : Nat}
    (buffer : FixedBytes size) : ScriptedAction ν (Nat × FixedBytes size) :=
  host.answer method (host.copyCount, buffer.overwrite (host.code.take size))

/-- How a scripted host serves its methods. -/
def serve (host : ScriptedHost ν) (method : HostMethod) : ScriptedAction ν method.Answer :=
  match method with
  | .accountExists address => host.answer (.accountExists address) host.found
  | .getStorage address key => host.answer (.getStorage address key) host.slotValue
  | .setStorage address key value =>
      host.answer (.setStorage address key value) host.storageStatus
  | .getBalance address => host.answer (.getBalance address) host.balance
  | .getCodeSize address =>
      if host.overrides then host.answer (.getCodeSize address) host.codeSize
      else providedCodeSize host.getCode address
  | .getCodeHash address => host.answer (.getCodeHash address) host.codeHash
  | .getCode address => host.getCode address
  | .copyCode address offset size buffer =>
      if host.overrides then host.copyStart (.copyCode address offset size buffer) buffer
      else providedCopyCode host.getCode address offset size buffer
  | .selfdestruct address beneficiary =>
      host.answer (.selfdestruct address beneficiary) host.destructs
  | .call message => host.call message
  | .getTxContext => host.answer .getTxContext host.txContext
  | .getBlockHash number => host.answer (.getBlockHash number) host.blockHash
  | .emitLog log => host.answer (.emitLog log) ()
  | .accessAccount address =>
      if host.overrides then host.answer (.accessAccount address) host.access
      else providedAccess
  | .accessStorage address key =>
      if host.overrides then host.answer (.accessStorage address key) host.access
      else providedAccess

def hosting : Hosting Unit ν (ScriptedHost ν) := fun _ method => do
  let host ← HostAction.getState
  host.serve method

end ScriptedHost

end VmBridge
