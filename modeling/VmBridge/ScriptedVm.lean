import VmBridge.NativeVm

/-!
# Scripted VMs

A scripted VM is an instance whose every function is fixed in advance.  Each
of its executions follows a script: it makes the callbacks of the script in
order and then returns the script's result, parts of which may come from the
executed message or from the last answers.  The private state counts the
executions so far; executions beyond the last script repeat it.
-/

namespace VmBridge

/-- Where a script takes an address from. -/
inductive AddressTerm where
  | null
  | literal (address : Address)
  | recipient
  | sender

/-- The address that a term means during the execution of a message. -/
def AddressTerm.resolve (term : AddressTerm) (message : NativeMessage) : Option Address :=
  match term with
  | .null => none
  | .literal address => some address
  | .recipient => some message.recipient
  | .sender => some message.sender

/-- The executed message one level deeper. -/
def forwardedMessage (message : NativeMessage) : NativeMessage :=
  { message with depth := message.depth + 1 }

/-- One callback of a script.  Without a handle of its own it uses the one
that the execution was given. -/
structure ScriptedCall where
  handle : Option Nat
  request : NativeMessage → Request

/-- Where a script takes a part of its result from. -/
inductive ResultTerm (α : Type) where
  | literal (value : α)
  | message
  | last

def ResultTerm.resolve {α : Type} (term : ResultTerm α) (ofMessage ofLast : α) : α :=
  match term with
  | .literal value => value
  | .message => ofMessage
  | .last => ofLast

/-- The result of a script. -/
structure ScriptedResult where
  status : ResultTerm Int32
  gasLeft : ResultTerm Int64
  gasRefund : Int64
  createAddress : Address
  output : ResultTerm Bytes
  /-- A size to claim in place of the real one. -/
  outputSize : Option Nat
  /-- Whether an empty output has a pointer that is not null. -/
  dangling : Bool
  hasRelease : Bool

/-- The course of one execution. -/
structure Script where
  calls : List ScriptedCall
  result : ScriptedResult

/-- How a scripted VM answers an option. -/
inductive OptionRule where
  /-- Accept the listed values only. -/
  | values (accepted : List String)
  /-- Give a raw answer whatever the value. -/
  | number (raw : Int32)

structure ScriptedVm where
  /-- Whether the create function fails. -/
  failsToCreate : Bool
  interfaceVersion : Int32
  name : Option Bytes
  version : Option Bytes
  hasDestroy : Bool
  capabilities : Option UInt32
  options : Option (List (String × OptionRule))
  scripts : Option (List Script)

/-- What a script remembers of the answers to its callbacks. -/
structure LastAnswers where
  status : Int32
  gasLeft : Int64
  bytes : Bytes

/-- The byte that fills a buffer before code is copied into it. -/
def presetByte : UInt8 := 0xee

/-- A buffer before code is copied into it. -/
def presetBuffer (size : Nat) : Bytes := List.replicate size presetByte

/-- The buffer of the caller after it asked for a copy of code.  A null
pointer leaves the caller's own buffer as it was. -/
def bufferAfter (buffer : Span UInt8) (copied : CopiedCode) : Bytes :=
  match buffer with
  | .null size => presetBuffer size
  | .live _ => copied.buffer

namespace LastAnswers

def none : LastAnswers := ⟨0, 0, []⟩

/-- Take an answer into account. -/
def after (last : LastAnswers) : (request : Request) → request.Answer → LastAnswers
  | .call _, result => ⟨result.status, result.gasLeft, result.output.contents⟩
  | .getStorage _ _, word => { last with bytes := word.toList }
  | .getBalance _, word => { last with bytes := word.toList }
  | .getCodeHash _, word => { last with bytes := word.toList }
  | .getBlockHash _, word => { last with bytes := word.toList }
  | .copyCode _ _ buffer, copied => { last with bytes := bufferAfter buffer copied }
  | _, _ => last

end LastAnswers

/-- The release function that comes with an answer. -/
def releaseOfAnswer : (request : Request) → request.Answer → Option Release
  | .call _, result => result.release
  | _, _ => none

/-- Make the callbacks of a script. -/
def followCalls (handle : Nat) (message : NativeMessage) :
    List ScriptedCall → LastAnswers → NativeRun LastAnswers
  | [], last => .done last
  | call :: calls, last =>
      let request := call.request message
      .ask (call.handle.getD handle) request fun answer =>
        let rest := followCalls handle message calls (last.after request answer)
        .note ⟨.answered request answer, rfl⟩ <|
          match releaseOfAnswer request answer with
          | some release => .note ⟨.released release, rfl⟩ rest
          | none => rest

namespace ScriptedResult

/-- The output span of a result whose output is the given data. -/
def outputSpan (result : ScriptedResult) (data : Bytes) : Span UInt8 :=
  if data.isEmpty then (if result.dangling then .live [] else .null 0)
  else .live (data.take (result.outputSize.getD data.length))

/-- The native result that a script returns. -/
def toNative (result : ScriptedResult) (slot : Nat) (message : NativeMessage)
    (last : LastAnswers) : NativeResult :=
  let data := result.output.resolve message.input.contents last.bytes
  { status := result.status.resolve 0 last.status
    gasLeft := result.gasLeft.resolve message.gas last.gasLeft
    gasRefund := result.gasRefund
    output := result.outputSpan data
    release := if result.hasRelease then some ⟨.scripted slot, data⟩ else none
    createAddress := result.createAddress }

end ScriptedResult

namespace ScriptedVm

/-- Execute a message by a script. -/
def followScript (slot : Nat) (script : Script) (arguments : Invocation) :
    NativeRun NativeResult :=
  let message := arguments.message.getD default
  (followCalls arguments.handle message script.calls .none).bind fun last =>
    .done (script.result.toNative slot message last)

/-- The script of an execution, after the given number of earlier ones. -/
def scriptAt (scripts : List Script) (executions : Nat) : Option Script :=
  scripts[min executions (scripts.length - 1)]?

/-- Execute a message by the script that is due. -/
def executeNext (slot : Nat) (scripts : List Script) (executions : Nat)
    (arguments : Invocation) : Nat × NativeRun NativeResult :=
  (executions + 1,
    match scriptAt scripts executions with
    | some script => followScript slot script arguments
    | none => .done ExecutionResult.internalError.toNative)

/-- Answer an option by the rules. -/
def answerOption (rules : List (String × OptionRule)) (name value : Bytes) : Int32 :=
  match rules.find? fun rule => textBytes rule.1 == name with
  | none => OptionAnswer.invalidName.raw
  | some (_, .number raw) => raw
  | some (_, .values accepted) =>
      if accepted.any fun candidate => textBytes candidate == value then
        OptionAnswer.success.raw
      else OptionAnswer.invalidValue.raw

/-- The instance of a scripted VM. -/
def instanceOf (vm : ScriptedVm) (slot : Nat) : NativeVm Nat where
  provider := .scripted slot
  interfaceVersion := vm.interfaceVersion
  name := vm.name
  version := vm.version
  initial := 0
  hasDestroy := vm.hasDestroy
  capabilities := vm.capabilities.map fun flags => fun _ => flags
  setOption := vm.options.map fun rules =>
    fun executions name value => (answerOption rules name value, executions)
  execute := vm.scripts.map fun scripts =>
    fun executions arguments => executeNext slot scripts executions arguments

/-- The create function of a scripted VM. -/
def createFunction (vm : ScriptedVm) (slot : Nat) : CreateFunction Nat :=
  ⟨.scripted slot, if vm.failsToCreate then none else some (vm.instanceOf slot)⟩

end ScriptedVm

end VmBridge
