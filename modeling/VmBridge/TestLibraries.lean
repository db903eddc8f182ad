import VmBridge.ExampleVm
import VmBridge.Loader
import VmBridge.ScriptedVm

/-!
# The libraries of a session

A scripted opener knows at most one path and opens a library there whose
symbols create scripted VMs or the example VM.  The platform knows one
library, that of the example VM.
-/

namespace VmBridge

/-- What a symbol of a scripted library creates. -/
inductive SymbolTarget where
  | slot (slot : Nat)
  | example

/-- A scripted opener. -/
structure ScriptedOpener where
  /-- The only path that can be opened; without it, every path can be. -/
  path : Option String
  failureMessage : Option String
  symbols : List (String × SymbolTarget)

/-- The create function behind a target. -/
def SymbolTarget.createFunction? (target : SymbolTarget) (vms : List ScriptedVm) :
    Option (CreateFunction Nat) :=
  match target with
  | .slot index => vms[index]?.map fun vm => vm.createFunction index
  | .example => some (ExampleVm.createFunction .bundled)

/-- The opener that a script describes. -/
def ScriptedOpener.opener (script : ScriptedOpener) (vms : List ScriptedVm) : Opener Nat where
  source := .scripted
  openLibrary path :=
    if script.path.any (· != path) then .error script.failureMessage
    else .ok ⟨fun symbol =>
      (script.symbols.find? fun entry => entry.1 == symbol).bind fun entry =>
        entry.2.createFunction? vms⟩

/-- The path that stands for the library of the example VM. -/
def exampleLibraryPath : String := "@EXAMPLE"

/-- The loader of the platform.  The library of the example VM exports its
create function under the symbol made for it. -/
def platformOpener : Opener Nat where
  source := .platform
  openLibrary path :=
    if path = exampleLibraryPath then
      .ok ⟨fun symbol =>
        if symbol = createSymbol path then some (ExampleVm.createFunction .platform)
        else none⟩
    else .error none

end VmBridge
