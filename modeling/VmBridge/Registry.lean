import VmBridge.Fault
import VmBridge.Table

/-!
# The registry of live hosts

Native code cannot hold a host, so it is given a handle and hands it back
with every callback.  The registry leads from handles to the hosts of the
executions in progress, and it parks the first fault of each host until its
execution collects it.  Handles count upwards from one and are never used
again; both facts belong to the type.
-/

namespace VmBridge

/-- One live host and the first fault it left since the last collection. -/
structure Registration (κ : Type) where
  context : κ
  fault : Option Fault

/-- The live hosts under their handles. -/
structure Registry (κ : Type) where
  nextHandle : Nat
  registrations : Table Nat (Registration κ)
  one_le_nextHandle : 1 ≤ nextHandle
  handles_lt : ∀ handle ∈ registrations.keys, 1 ≤ handle ∧ handle < nextHandle

namespace Registry

variable {κ : Type}

/-- The registry without hosts whose first handle is one. -/
def empty : Registry κ :=
  ⟨1, .empty, Nat.le_refl 1, fun _ member => absurd member List.not_mem_nil⟩

instance : Inhabited (Registry κ) := ⟨empty⟩

/-- The next handle is not live yet. -/
theorem nextHandle_not_mem (registry : Registry κ) :
    registry.nextHandle ∉ registry.registrations.keys := fun member =>
  Nat.lt_irrefl _ (registry.handles_lt _ member).2

/-- The registry after a new host has taken the next handle. -/
def register (registry : Registry κ) (context : κ) : Registry κ where
  nextHandle := registry.nextHandle + 1
  registrations := registry.registrations.add registry.nextHandle ⟨context, none⟩
    registry.nextHandle_not_mem
  one_le_nextHandle := Nat.le_add_left 1 registry.nextHandle
  handles_lt := by
    intro handle member
    rcases Table.mem_keys_add.mp member with rfl | old
    · exact ⟨registry.one_le_nextHandle, Nat.lt_succ_self _⟩
    · have bounds := registry.handles_lt handle old
      exact ⟨bounds.1, Nat.lt_succ_of_lt bounds.2⟩

/-- The host that is live under a handle. -/
def resolve (registry : Registry κ) (handle : Nat) : Option κ :=
  (registry.registrations.get? handle).map Registration.context

/-- Whether a handle is live. -/
def isLive (registry : Registry κ) (handle : Nat) : Bool :=
  registry.registrations.contains handle

/-- The registry after a handle has been given up. -/
def unregister (registry : Registry κ) (handle : Nat) : Registry κ where
  nextHandle := registry.nextHandle
  registrations := registry.registrations.erase handle
  one_le_nextHandle := registry.one_le_nextHandle
  handles_lt := fun other member =>
    registry.handles_lt other (Table.mem_keys_of_mem_keys_erase member)

/-- Replace the registration of a live handle. -/
def replace (registry : Registry κ) (handle : Nat) (registration : Registration κ)
    (live : handle ∈ registry.registrations.keys) : Registry κ where
  nextHandle := registry.nextHandle
  registrations := registry.registrations.insert handle registration
  one_le_nextHandle := registry.one_le_nextHandle
  handles_lt := by
    intro other member
    rcases Table.mem_keys_insert.mp member with rfl | old
    · exact registry.handles_lt _ live
    · exact registry.handles_lt other old

/-- Park a fault under a handle, unless one is parked there already or the
handle is not live. -/
def recordFault (registry : Registry κ) (handle : Nat) (fault : Fault) : Registry κ :=
  match found : registry.registrations.get? handle with
  | none => registry
  | some registration =>
      if registration.fault.isSome then registry
      else registry.replace handle { registration with fault := some fault }
        (Table.mem_keys_of_get? found)

/-- The fault parked under a handle. -/
def parkedFault (registry : Registry κ) (handle : Nat) : Option Fault :=
  (registry.registrations.get? handle).bind Registration.fault

/-- The registry after the fault parked under a handle has been collected. -/
def clearFault (registry : Registry κ) (handle : Nat) : Registry κ :=
  match found : registry.registrations.get? handle with
  | none => registry
  | some registration =>
      registry.replace handle { registration with fault := none }
        (Table.mem_keys_of_get? found)

/-- The number of live handles. -/
def size (registry : Registry κ) : Nat := registry.registrations.size

/-- Whether no handle is live. -/
def isEmpty (registry : Registry κ) : Bool := registry.size == 0

end Registry

end VmBridge
