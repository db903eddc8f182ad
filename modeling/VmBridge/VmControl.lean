import VmBridge.Process

/-!
# Control of a VM

Beside executing messages, a VM handle reports the features of its VM,
forwards options to it, and destroys it.  Destroying an instance gives up the
library that it came from, in this order.  A shared handle is destroyed with the
handle that it owns.
-/

namespace VmBridge.Vm

variable {κ ν σ : Type}

/-- The set of features of a VM; a VM that does not report any has none. -/
def capabilities (vm : Vm ν) : Bridge κ ν σ UInt32 := do
  let process ← get
  match vm.native.capabilities with
  | some report => pure (report (process.privateState vm))
  | none => pure 0

/-- Whether a VM knows options at all. -/
def supportsOptions (vm : Vm ν) : Bool := vm.native.setOption.isSome

/-- Whether a text holds a zero byte, which native strings cannot. -/
def holdsZero (text : String) : Bool := text.toList.any fun character => character.toNat = 0

/-- Forward an option and hand back an answer that has no meaning as it came.
A VM without options knows no name. -/
def forwardOption (vm : Vm ν) (name value : String) :
    Bridge κ ν σ (Except Int32 OptionAnswer) :=
  match vm.native.setOption with
  | none => pure (.ok .invalidName)
  | some run =>
      if holdsZero name then do
        Bridge.record (.optionNameBroken name)
        pure (.ok .invalidName)
      else if holdsZero value then do
        Bridge.record (.optionValueBroken name)
        pure (.ok .invalidValue)
      else do
        let process ← get
        Bridge.record
          (.optionForwarded vm.native.provider (textBytes name) (textBytes value))
        let (raw, privateState) :=
          run (process.privateState vm) (textBytes name) (textBytes value)
        Bridge.setPrivateState vm privateState
        match OptionAnswer.ofRaw raw with
        | .ok answer => do
            Bridge.record (.optionAnswered vm.name name value answer)
            pure (.ok answer)
        | .error unknown => pure (.error unknown)

/-- Forward an option; an answer without meaning counts as an invalid
value. -/
def setOption (vm : Vm ν) (name value : String) : Bridge κ ν σ OptionAnswer := do
  match ← vm.forwardOption name value with
  | .ok answer => pure answer
  | .error raw => do
      Bridge.record (.optionAnswerUnknown vm.name name value raw)
      pure .invalidValue

/-- Give up a library, if there is one. -/
def closeLibrary (library : Option LibrarySource) : Bridge κ ν σ Unit :=
  match library with
  | some source => Bridge.record (.unloaded source)
  | none => pure ()

/-- Destroy the instance and then give up its library. -/
def destroy (vm : Vm ν) : Bridge κ ν σ Unit := do
  if vm.native.hasDestroy then
    Bridge.record (.destroying vm.name)
    Bridge.record (.destroyed vm.native.provider)
  closeLibrary vm.library

end VmBridge.Vm

/-- Destroy the handle inside. -/
def VmBridge.SharedVm.destroy {κ ν σ : Type} (shared : SharedVm ν) : Bridge κ ν σ Unit :=
  shared.inner.destroy
