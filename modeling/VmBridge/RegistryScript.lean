import VmBridge.Registry

/-!
# Scripts for a registry

A script drives one fresh registry with two hosts.  It keeps the scopes of its
registrations; leaving a scope gives up the handle if it is still live.
-/

namespace VmBridge

/-- One of the two hosts of a script. -/
inductive ScriptHost where
  | first
  | second
deriving DecidableEq

/-- One step of a script. -/
inductive RegistryStep where
  | register (host : ScriptHost)
  /-- Leave the scope of a registration. -/
  | leave (handle : Nat)
  | resolve (handle : Nat)
  | unregister (handle : Nat)
  /-- Register a host and leave the scope by a fault. -/
  | unwind (host : ScriptHost)
  | isEmpty

/-- The answer to a step. -/
inductive RegistryAnswer where
  | handle (handle : Nat)
  | truth (value : Bool)
  | host (host : Option ScriptHost)
  | unwound (handle : Nat)

/-- A registry and the scopes that a script keeps, each as its handle. -/
structure RegistryScript where
  registry : Registry ScriptHost
  scopes : List Nat

namespace RegistryScript

/-- The script at its start. -/
def initial : RegistryScript := ⟨.empty, []⟩

/-- Take one step. -/
def step (script : RegistryScript) : RegistryStep → RegistryAnswer × RegistryScript
  | .register host =>
      let handle := script.registry.nextHandle
      (.handle handle, ⟨script.registry.register host, handle :: script.scopes⟩)
  | .leave handle =>
      if handle ∈ script.scopes then
        (.truth true, ⟨script.registry.unregister handle, script.scopes.erase handle⟩)
      else (.truth false, script)
  | .resolve handle => (.host (script.registry.resolve handle), script)
  | .unregister handle =>
      (.truth (script.registry.isLive handle),
        { script with registry := script.registry.unregister handle })
  | .unwind host =>
      let handle := script.registry.nextHandle
      (.unwound handle,
        { script with registry := (script.registry.register host).unregister handle })
  | .isEmpty => (.truth script.registry.isEmpty, script)

/-- Take steps one after the other; each answer comes with the number of live
handles after it. -/
def run (script : RegistryScript) : List RegistryStep → List (RegistryAnswer × Nat)
  | [] => []
  | next :: steps =>
      let (answer, after) := script.step next
      (answer, after.registry.size) :: after.run steps

end RegistryScript

end VmBridge
