import VmBridge.HostRun
import VmBridge.Registry

/-!
# The state behind the bridge

Executions share a registry, the states of the hosts, the private states of
the VMs and a journal.  A computation of the bridge transforms this state; it
has no result when executions nest more deeply than the program has room
for, as nothing can go on then.
-/

namespace VmBridge

/-- What all executions of a program share.  The journal lists its newest
event first. -/
structure Process (κ ν σ : Type) where
  registry : Registry κ
  hosts : σ
  privateStates : Table Nat ν
  nextIdentity : Nat
  journal : List Event

/-- A computation on the shared state. -/
abbrev Bridge (κ ν σ α : Type) : Type := StateT (Process κ ν σ) Option α

namespace Process

variable {κ ν σ : Type}

/-- The state at the start of a program. -/
def initial (hosts : σ) : Process κ ν σ := ⟨.empty, hosts, .empty, 0, []⟩

/-- The private state of a VM. -/
def privateState (process : Process κ ν σ) (vm : Vm ν) : ν :=
  process.privateStates.getD vm.identity vm.native.initial

end Process

namespace Bridge

variable {κ ν σ : Type}

/-- Journal an event. -/
def record (event : Event) : Bridge κ ν σ Unit :=
  modify fun process => { process with journal := event :: process.journal }

/-- Replace the states of the hosts. -/
def setHosts (hosts : σ) : Bridge κ ν σ Unit :=
  modify fun process => { process with hosts }

/-- Replace the private state of a VM. -/
def setPrivateState (vm : Vm ν) (privateState : ν) : Bridge κ ν σ Unit :=
  modify fun process =>
    { process with
      privateStates := process.privateStates.insert vm.identity privateState }

/-- Register a host under the next handle. -/
def register (host : κ) : Bridge κ ν σ Nat := do
  let process ← get
  let handle := process.registry.nextHandle
  set { process with registry := process.registry.register host }
  record (.registered handle)
  pure handle

/-- Give up a handle, and say whether it was live. -/
def unregister (handle : Nat) : Bridge κ ν σ Bool := do
  let process ← get
  if process.registry.isLive handle then
    set { process with registry := process.registry.unregister handle }
    record (.unregistered handle)
    pure true
  else
    pure false

/-- Collect the fault that is parked under a handle. -/
def takeFault (handle : Nat) : Bridge κ ν σ (Option Fault) := do
  let process ← get
  set { process with registry := process.registry.clearFault handle }
  pure (process.registry.parkedFault handle)

/-- Park a fault under a handle. -/
def recordFault (handle : Nat) (fault : Fault) : Bridge κ ν σ Unit :=
  modify fun process =>
    { process with registry := process.registry.recordFault handle fault }

end Bridge

end VmBridge
