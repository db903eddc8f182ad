import VmBridge.Event
import VmBridge.LossyText

/-!
# Native VMs

A VM instance is a table of functions over a private state.  What its execute
function does is described by a `NativeRun`: a tree that makes one callback
after the other, each time continuing with the answer, until it is done.  The
run of a VM thus says what the VM does whatever the host answers.
-/

namespace VmBridge

/-- The course of native code that makes callbacks. -/
inductive NativeRun (α : Type) where
  | done (value : α)
  | note (event : NativeEvent) (rest : NativeRun α)
  /-- A callback is made with a handle, and its answer is awaited. -/
  | ask (handle : Nat) (request : Request) (resume : request.Answer → NativeRun α)

namespace NativeRun

/-- Run one piece of code and go on with its value. -/
def bind {α β : Type} (run : NativeRun α) (next : α → NativeRun β) : NativeRun β :=
  match run with
  | .done value => next value
  | .note event rest => .note event (rest.bind next)
  | .ask handle request resume => .ask handle request fun answer => (resume answer).bind next

instance : Monad NativeRun where
  pure := .done
  bind := bind

end NativeRun

/-- The slots of the callback table that are filled. -/
abbrev CallbackTable := MethodName → Bool

/-- The callback table that the bridge hands out has no empty slot. -/
def fullTable : CallbackTable := fun _ => true

/-- The arguments of a native execute function.  Pointers may be null when
the function is not called by the bridge. -/
structure Invocation where
  table : Option CallbackTable
  handle : Nat
  revision : Int32
  message : Option NativeMessage
  code : Span UInt8

/-- A VM instance whose private state has type `ν`. -/
structure NativeVm (ν : Type) where
  provider : Provider
  interfaceVersion : Int32
  name : Option Bytes
  version : Option Bytes
  initial : ν
  hasDestroy : Bool
  capabilities : Option (ν → UInt32)
  setOption : Option (ν → Bytes → Bytes → Int32 × ν)
  execute : Option (ν → Invocation → ν × NativeRun NativeResult)

/-- A library's or a program's function that creates an instance; it may fail
to. -/
structure CreateFunction (ν : Type) where
  provider : Provider
  instance? : Option (NativeVm ν)

/-- An opened library with the create functions that it exports. -/
structure Library (ν : Type) where
  createFunction? : String → Option (CreateFunction ν)

/-- A way of opening libraries.  A failure may come with a message. -/
structure Opener (ν : Type) where
  source : LibrarySource
  openLibrary : String → Except (Option String) (Library ν)

/-- The handle of an accepted instance.  Its identity leads to the private
state; the library it came from stays open as long as it lives. -/
structure Vm (ν : Type) where
  identity : Nat
  native : NativeVm ν
  library : Option LibrarySource

/-- A native string: the bytes before the first zero byte. -/
def terminated (bytes : Bytes) : Bytes := bytes.takeWhile (· ≠ 0)

/-- The text of a native string; a null pointer reads as empty. -/
def terminatedText (bytes : Option Bytes) : String :=
  lossyText (terminated (bytes.getD []))

namespace Vm

variable {ν : Type}

def name (vm : Vm ν) : String := terminatedText vm.native.name

def version (vm : Vm ν) : String := terminatedText vm.native.version

/-- The description of the handle for developers. -/
def debugText (vm : Vm ν) : String :=
  "Vm \x7b name: " ++ quoted vm.name ++ ", version: " ++ quoted vm.version ++
    s!", abi_version: {vm.native.interfaceVersion.toInt} " ++ "\x7d"

end Vm

/-- A handle that threads may share; it owns the handle inside. -/
structure SharedVm (ν : Type) where
  inner : Vm ν

/-- The description of a shared handle for developers. -/
def SharedVm.debugText {ν : Type} (shared : SharedVm ν) : String :=
  "ThreadSafeVm(" ++ shared.inner.debugText ++ ")"

end VmBridge
