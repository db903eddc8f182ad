import VmBridge.MockContext
import VmBridge.ScriptedHost

/-!
# The hosts of a session

A session keeps mock contexts and scripted hosts under names.  What the
registry stores is a name and how much of the host under it is offered;
serving a method finds the host, lets it work, and stores it again.

A mock context offers itself to its nested executions as it is.  A scripted
host offers them its required methods only, however it was offered itself, so
that inside a nested message the provided methods are never overridden.
-/

namespace VmBridge

/-- A host of a session. -/
inductive TestHost where
  | mock (context : MockContext Nat)
  | scripted (host : ScriptedHost Nat)

/-- The hosts of a session under their names. -/
abbrev TestHosts : Type := Table String TestHost

/-- A host of a session as it is offered to an execution. -/
structure OfferedHost where
  name : String
  /-- Whether the overrides of a scripted host are left out. -/
  requiredOnly : Bool

namespace OfferedHost

/-- The host under a name with all of its methods. -/
def whole (name : String) : OfferedHost := ⟨name, false⟩

/-- The host under a name with its required methods and the provided ones. -/
def required (name : String) : OfferedHost := ⟨name, true⟩

end OfferedHost

namespace TestHosts

/-- Let the mock context under a name work. -/
def withMock {α : Type} (hosts : TestHosts) (name : String) (context : MockContext Nat)
    (action : MockAction Nat α) : HostRun OfferedHost Nat TestHosts α :=
  (action context).within (.whole name)
    (fun later =>
      match later.get? name with
      | some (.mock current) => current
      | _ => context)
    (fun later changed => later.insert name (.mock changed)) hosts

/-- Let a scripted host that is kept under a name work. -/
def withScripted {α : Type} (hosts : TestHosts) (name : String) (host : ScriptedHost Nat)
    (action : ScriptedAction Nat α) : HostRun OfferedHost Nat TestHosts α :=
  (action host).within (.required name) (fun _ => host) (fun later _ => later) hosts

/-- How the hosts of a session serve their methods. -/
def hosting : Hosting OfferedHost Nat TestHosts := fun offered method hosts =>
  match hosts.get? offered.name with
  | some (.mock context) =>
      hosts.withMock offered.name context (MockContext.hosting () method)
  | some (.scripted host) =>
      let shown := if offered.requiredOnly then host.withoutOverrides else host
      hosts.withScripted offered.name shown (ScriptedHost.hosting () method)
  | none => .done (.faulted .wordless) hosts

end TestHosts

/-- The VM that a host holds. -/
def TestHost.vm? : TestHost → Option (Vm Nat)
  | .mock context => context.vm
  | .scripted host => host.vm

end VmBridge
