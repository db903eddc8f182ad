import VmBridge.Registry

/-!
# What the operations of the registry do

Every operation of the registry acts on a single handle.  The lemmas say which
registration a handle leads to after an operation, and what follows for the
liveness of handles, for the hosts behind them and for the parked faults.
-/

namespace VmBridge.Registry

variable {κ : Type}

/-- The registration of a handle. -/
def registration? (registry : Registry κ) (handle : Nat) : Option (Registration κ) :=
  registry.registrations.get? handle

theorem resolve_eq (registry : Registry κ) (handle : Nat) :
    registry.resolve handle = (registry.registration? handle).map Registration.context :=
  rfl

theorem parkedFault_eq (registry : Registry κ) (handle : Nat) :
    registry.parkedFault handle = (registry.registration? handle).bind Registration.fault :=
  rfl

theorem isLive_eq (registry : Registry κ) (handle : Nat) :
    registry.isLive handle = (registry.registration? handle).isSome :=
  rfl

section Steps

variable (registry : Registry κ) (handle query : Nat)

theorem registration?_register (context : κ) :
    (registry.register context).registration? query =
      if registry.nextHandle = query then some ⟨context, none⟩
      else registry.registration? query :=
  Table.get?_add _ _ _ _ registry.nextHandle_not_mem

theorem registration?_unregister :
    (registry.unregister handle).registration? query =
      if handle = query then none else registry.registration? query :=
  Table.get?_erase _ _ _

theorem registration?_recordFault (fault : Fault) :
    (registry.recordFault handle fault).registration? query =
      if handle = query then
        (registry.registration? query).map fun registration =>
          { registration with fault := registration.fault.or (some fault) }
      else registry.registration? query := by
  rw [recordFault]
  split
  · rename_i absent
    by_cases same : handle = query
    · subst same
      simp [registration?, absent]
    · rw [if_neg same]
  · rename_i registration found
    split
    · rename_i occupied
      by_cases same : handle = query
      · subst same
        obtain ⟨first, first_eq⟩ := Option.isSome_iff_exists.mp occupied
        obtain ⟨context, parked⟩ := registration
        simp only at first_eq
        simp [registration?, found, first_eq]
      · rw [if_neg same]
    · rename_i vacant
      refine (Table.get?_insert _ _ _ _).trans ?_
      by_cases same : handle = query
      · subst same
        have fault_eq : registration.fault = none := by simpa using vacant
        simp [registration?, found, fault_eq]
      · rw [if_neg same, if_neg same]
        rfl

theorem registration?_clearFault :
    (registry.clearFault handle).registration? query =
      if handle = query then
        (registry.registration? query).map fun registration =>
          { registration with fault := none }
      else registry.registration? query := by
  rw [clearFault]
  split
  · rename_i absent
    by_cases same : handle = query
    · subst same
      simp [registration?, absent]
    · rw [if_neg same]
  · rename_i registration found
    refine (Table.get?_insert _ _ _ _).trans ?_
    by_cases same : handle = query
    · subst same
      simp [registration?, found]
    · rw [if_neg same, if_neg same]
      rfl

@[simp] theorem nextHandle_register (context : κ) :
    (registry.register context).nextHandle = registry.nextHandle + 1 :=
  rfl

@[simp] theorem nextHandle_unregister :
    (registry.unregister handle).nextHandle = registry.nextHandle :=
  rfl

@[simp] theorem nextHandle_recordFault (fault : Fault) :
    (registry.recordFault handle fault).nextHandle = registry.nextHandle := by
  rw [recordFault]
  split
  · rfl
  · split <;> rfl

@[simp] theorem nextHandle_clearFault :
    (registry.clearFault handle).nextHandle = registry.nextHandle := by
  rw [clearFault]
  split <;> rfl

/-- Collecting a fault gives up no handle. -/
@[simp] theorem isLive_clearFault :
    (registry.clearFault handle).isLive query = registry.isLive query := by
  rw [isLive_eq, isLive_eq, registration?_clearFault]
  split
  · rw [Option.isSome_map]
  · rfl

/-- Parking a fault gives up no handle. -/
@[simp] theorem isLive_recordFault (fault : Fault) :
    (registry.recordFault handle fault).isLive query = registry.isLive query := by
  rw [isLive_eq, isLive_eq, registration?_recordFault]
  split
  · rw [Option.isSome_map]
  · rfl

theorem resolve_register (context : κ) :
    (registry.register context).resolve query =
      if registry.nextHandle = query then some context else registry.resolve query := by
  rw [resolve_eq, resolve_eq, registration?_register]
  split <;> rfl

theorem resolve_unregister :
    (registry.unregister handle).resolve query =
      if handle = query then none else registry.resolve query := by
  rw [resolve_eq, resolve_eq, registration?_unregister]
  split <;> rfl

/-- Parking a fault changes no host. -/
@[simp] theorem resolve_recordFault (fault : Fault) :
    (registry.recordFault handle fault).resolve query = registry.resolve query := by
  rw [resolve_eq, resolve_eq, registration?_recordFault]
  split
  · rw [Option.map_map]
    rfl
  · rfl

/-- Collecting a fault changes no host. -/
@[simp] theorem resolve_clearFault :
    (registry.clearFault handle).resolve query = registry.resolve query := by
  rw [resolve_eq, resolve_eq, registration?_clearFault]
  split
  · rw [Option.map_map]
    rfl
  · rfl

theorem parkedFault_register (context : κ) :
    (registry.register context).parkedFault query =
      if registry.nextHandle = query then none else registry.parkedFault query := by
  rw [parkedFault_eq, parkedFault_eq, registration?_register]
  split <;> rfl

theorem parkedFault_unregister :
    (registry.unregister handle).parkedFault query =
      if handle = query then none else registry.parkedFault query := by
  rw [parkedFault_eq, parkedFault_eq, registration?_unregister]
  split <;> rfl

/-- The first fault that is parked stays, and none is parked under a handle that is
not live. -/
theorem parkedFault_recordFault (fault : Fault) :
    (registry.recordFault handle fault).parkedFault query =
      if handle = query ∧ registry.isLive query = true then
        (registry.parkedFault query).or (some fault)
      else registry.parkedFault query := by
  rw [parkedFault_eq, parkedFault_eq, registration?_recordFault, isLive_eq]
  by_cases same : handle = query
  · cases registry.registration? query <;> simp [same]
  · simp [same]

theorem parkedFault_clearFault :
    (registry.clearFault handle).parkedFault query =
      if handle = query then none else registry.parkedFault query := by
  rw [parkedFault_eq, parkedFault_eq, registration?_clearFault]
  split
  · cases registry.registration? query <;> rfl
  · rfl

end Steps

/-- A handle is live if it leads to a host. -/
theorem isLive_iff (registry : Registry κ) (handle : Nat) :
    registry.isLive handle = true ↔ ∃ context, registry.resolve handle = some context := by
  rw [isLive_eq, resolve_eq, Option.isSome_iff_exists]
  cases registry.registration? handle <;> simp

/-- A handle that has not been given out leads nowhere. -/
theorem registration?_eq_none {registry : Registry κ} {handle : Nat}
    (fresh : registry.nextHandle ≤ handle) : registry.registration? handle = none := by
  refine Table.lookup_eq_none fun member => ?_
  have bounds := registry.handles_lt handle member
  omega

theorem resolve_eq_none {registry : Registry κ} {handle : Nat}
    (fresh : registry.nextHandle ≤ handle) : registry.resolve handle = none := by
  rw [resolve_eq, registration?_eq_none fresh]
  rfl

theorem parkedFault_eq_none {registry : Registry κ} {handle : Nat}
    (fresh : registry.nextHandle ≤ handle) : registry.parkedFault handle = none := by
  rw [parkedFault_eq, registration?_eq_none fresh]
  rfl

end VmBridge.Registry
