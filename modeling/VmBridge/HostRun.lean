import VmBridge.NativeVm

/-!
# Hosts

A host serves methods on a state of its own and may execute further messages
while it does.  `HostRun` is the course of one method: it ends with an answer
or a fault, or asks for a nested execution and continues with what came of
it.  `Hosting` says for every host how it serves every method.
-/

namespace VmBridge

/-- The course of a host method, for hosts of type `κ` with states of type
`σ` and VMs with private states of type `ν`. -/
inductive HostRun (κ ν σ α : Type) where
  | done (ending : Ending α) (state : σ)
  | note (event : HostEvent) (rest : HostRun κ ν σ α)
  /-- A host has a VM execute a message, and continues with the state that
  the execution left. -/
  | execute (vm : Vm ν) (host : κ) (message : Message) (code : Bytes) (state : σ)
      (resume : Ending ExecutionResult → σ → HostRun κ ν σ α)

namespace HostRun

variable {κ ν σ α β : Type}

/-- Go on with the value of a run; a fault ends the whole. -/
def bind (run : HostRun κ ν σ α) (next : α → σ → HostRun κ ν σ β) : HostRun κ ν σ β :=
  match run with
  | .done (.returned value) state => next value state
  | .done (.faulted fault) state => .done (.faulted fault) state
  | .note event rest => .note event (rest.bind next)
  | .execute vm host message code state resume =>
      .execute vm host message code state fun ending later =>
        (resume ending later).bind next

/-- Run a method of one host inside a larger state.  `view` finds the host's
state, `store` puts it back, and nested executions act for `self`. -/
def within {κ' σ' : Type} (self : κ') (view : σ' → σ) (store : σ' → σ → σ')
    (outer : σ') : HostRun κ ν σ α → HostRun κ' ν σ' α
  | .done ending state => .done ending (store outer state)
  | .note event rest => .note event (rest.within self view store outer)
  | .execute vm _ message code state resume =>
      .execute vm self message code (store outer state) fun ending later =>
        (resume ending (view later)).within self view store later

end HostRun

/-- A host method before it knows the state it acts on. -/
def HostAction (κ ν σ α : Type) : Type := σ → HostRun κ ν σ α

namespace HostAction

variable {κ ν σ α : Type}

instance : Monad (HostAction κ ν σ) where
  pure value := fun state => .done (.returned value) state
  bind action next := fun state => (action state).bind next

def getState : HostAction κ ν σ σ := fun state => .done (.returned state) state

def setState (state : σ) : HostAction κ ν σ Unit := fun _ => .done (.returned ()) state

def fail (fault : Fault) : HostAction κ ν σ α := fun state => .done (.faulted fault) state

def note (event : HostEvent) : HostAction κ ν σ Unit := fun state =>
  .note event (.done (.returned ()) state)

/-- Have a VM execute a message; a fault of the execution is a fault of the
method. -/
def execute (vm : Vm ν) (host : κ) (message : Message) (code : Bytes) :
    HostAction κ ν σ ExecutionResult := fun state =>
  .execute vm host message code state .done

end HostAction

/-- How hosts of type `κ` serve every method. -/
abbrev Hosting (κ ν σ : Type) : Type :=
  κ → (method : HostMethod) → HostAction κ ν σ method.Answer

section Provided

variable {κ ν σ : Type}

/-- The code size of a host that only knows whole codes. -/
def providedCodeSize (getCode : Address → HostAction κ ν σ Bytes) (address : Address) :
    HostAction κ ν σ Nat := do
  let code ← getCode address
  pure code.length

/-- The window of a code that starts at an offset and fits into a buffer. -/
def codeWindow (code : Bytes) (offset size : Nat) : Bytes := (code.drop offset).take size

/-- The code copy of a host that only knows whole codes: the window is written
to the start of the buffer, and its length is reported. -/
def providedCopyCode (getCode : Address → HostAction κ ν σ Bytes) (address : Address)
    (offset size : Nat) (buffer : FixedBytes size) :
    HostAction κ ν σ (Nat × FixedBytes size) := do
  let code ← getCode address
  let window := codeWindow code offset size
  pure (window.length, buffer.overwrite window)

/-- The access status of a host that does not track accesses. -/
def providedAccess : HostAction κ ν σ AccessStatus := pure .cold

end Provided

end VmBridge
