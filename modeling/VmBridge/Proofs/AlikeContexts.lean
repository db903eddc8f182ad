import VmBridge.Proofs.MockContextHistory

/-!
# Contexts that differ in their VMs

Two mock contexts are alike if they differ at most in the identities of their VMs.
Every method of a mock context does the same on both: it notes the same events and
has the same messages executed with the same code, and what it leaves is alike
again.  `alike_hosting` says so, by one rule for each step of the methods.
-/

namespace VmBridge

open HostAction

variable {α β : Type}

namespace MockContext

/-- Two contexts differ at most in the identities of their VMs, which are example
VMs. -/
structure Alike (first second : MockContext Nat) : Prop where
  world_eq : first.world = second.world
  newestCalls_eq : first.newestCalls = second.newestCalls
  txContext_eq : first.txContext = second.txContext
  faultIn_eq : first.faultIn = second.faultIn
  native_eq : first.vm.map Vm.native = second.vm.map Vm.native
  uses : first.UsesExampleVm

theorem Alike.usesExampleVm {first second : MockContext Nat} (alike : first.Alike second) :
    second.UsesExampleVm := by
  intro vm found
  have native_eq := alike.native_eq
  rw [found, Option.map_some, Option.map_eq_some_iff] at native_eq
  obtain ⟨other, found', same⟩ := native_eq
  obtain ⟨provider, example_eq⟩ := alike.uses other found'
  exact ⟨provider, same.symm.trans example_eq⟩

theorem Alike.withWorld {first second : MockContext Nat} (alike : first.Alike second)
    (world : World) : Alike { first with world } { second with world } where
  world_eq := rfl
  newestCalls_eq := alike.newestCalls_eq
  txContext_eq := alike.txContext_eq
  faultIn_eq := alike.faultIn_eq
  native_eq := alike.native_eq
  uses := alike.uses

end MockContext

/-- Two courses of a host do the same on alike states. -/
inductive HostRun.Alike : HostRun Unit Nat (MockContext Nat) α →
    HostRun Unit Nat (MockContext Nat) α → Prop where
  | done (ending : Ending α) {state state' : MockContext Nat} (alike : state.Alike state') :
      Alike (.done ending state) (.done ending state')
  | note (event : HostEvent) {rest rest' : HostRun Unit Nat (MockContext Nat) α}
      (alike : Alike rest rest') : Alike (.note event rest) (.note event rest')
  | execute {vm vm' : Vm Nat} (isExample : vm.IsExample) (native_eq : vm.native = vm'.native)
      (message : Message) (code : Bytes) {state state' : MockContext Nat}
      (alike : state.Alike state')
      {resume resume' : Ending ExecutionResult → MockContext Nat →
        HostRun Unit Nat (MockContext Nat) α}
      (resumes : ∀ ending later later', later.Alike later' →
        Alike (resume ending later) (resume' ending later')) :
      Alike (.execute vm () message code state resume)
        (.execute vm' () message code state' resume')

theorem HostRun.Alike.bind {run run' : HostRun Unit Nat (MockContext Nat) α}
    {next next' : α → MockContext Nat → HostRun Unit Nat (MockContext Nat) β}
    (alike : Alike run run')
    (goesOn : ∀ value state state', state.Alike state' →
      Alike (next value state) (next' value state')) :
    Alike (run.bind next) (run'.bind next') := by
  induction alike with
  | done ending alike =>
      cases ending with
      | returned value => exact goesOn value _ _ alike
      | faulted fault => exact .done _ alike
  | note event _ ih => exact .note event ih
  | execute isExample native_eq message code alike _ ih =>
      exact .execute isExample native_eq message code alike ih

namespace MockAction

/-- Two pieces of work do the same on alike contexts. -/
def Alike (action action' : MockAction Nat α) : Prop :=
  ∀ context context', context.Alike context' → HostRun.Alike (action context) (action' context')

section Rules

variable {action action' : MockAction Nat α} {next next' : α → MockAction Nat β}

theorem alike_pure (value : α) : Alike (pure value) (pure value) :=
  fun _ _ alike => .done _ alike

theorem alike_bind (first : Alike action action')
    (second : ∀ value, Alike (next value) (next' value)) :
    Alike (action >>= next) (action' >>= next') :=
  fun context context' alike => (first context context' alike).bind fun value => second value

theorem alike_getState {work work' : MockContext Nat → MockAction Nat α}
    (works : ∀ context context', context.Alike context' →
      HostRun.Alike (work context context) (work' context' context')) :
    Alike (HostAction.getState >>= work) (HostAction.getState >>= work') :=
  works

theorem alike_note (event : HostEvent) : Alike (HostAction.note event) (HostAction.note event) :=
  fun _ _ alike => .note event (.done _ alike)

theorem alike_fail (fault : Fault) :
    Alike (HostAction.fail fault : MockAction Nat α) (HostAction.fail fault) :=
  fun _ _ alike => .done _ alike

theorem alike_getWorld : Alike getWorld getWorld := by
  refine alike_getState fun context context' alike => ?_
  rw [alike.world_eq]
  exact .done _ alike

theorem alike_setWorld (world : World) : Alike (setWorld world) (setWorld world) :=
  alike_getState fun _ _ alike => .done _ (alike.withWorld world)

theorem alike_change (change : Change) :
    Alike (MockAction.change change) (MockAction.change change) :=
  alike_bind (alike_note _) fun _ =>
    alike_bind alike_getWorld fun world => alike_setWorld (world.apply change)

theorem alike_check (method : MethodName) : Alike (check method) (check method) := by
  refine alike_getState fun context context' alike => ?_
  rw [alike.faultIn_eq]
  split
  · exact .done _ alike
  · exact .done _ alike

theorem alike_execute {vm vm' : Vm Nat} (isExample : vm.IsExample)
    (native_eq : vm.native = vm'.native) (message : Message) (code : Bytes) :
    Alike (HostAction.execute vm () message code) (HostAction.execute vm' () message code) :=
  fun _ _ alike => .execute isExample native_eq message code alike fun _ _ _ later =>
    .done _ later

theorem alike_ite {condition : Prop} [Decidable condition] {other other' : MockAction Nat α}
    (first : Alike action action') (second : Alike other other') :
    Alike (if condition then action else other) (if condition then action' else other') := by
  split
  · exact first
  · exact second

end Rules

theorem alike_transfer (sender receiver : Address) (value : Word) :
    Alike (transfer sender receiver value) (transfer sender receiver value) :=
  alike_bind alike_getWorld fun _ => alike_ite (alike_pure true) <|
    alike_ite (alike_pure false) <| alike_bind (alike_change _) fun _ => alike_pure true

theorem alike_newAddress (message : Message) : Alike (newAddress message) (newAddress message) := by
  rw [newAddress]
  split
  · exact alike_pure _
  · exact alike_bind alike_getWorld fun _ => alike_ite (alike_fail _) <|
      alike_bind (alike_change _) fun _ => alike_pure _

section Frames

variable {vm vm' : Vm Nat} (isExample : vm.IsExample) (native_eq : vm.native = vm'.native)
include isExample native_eq

theorem alike_dispatchCreation (message : Message) :
    Alike (dispatchCreation vm message) (dispatchCreation vm' message) := by
  refine alike_bind (alike_newAddress message) fun address => ?_
  refine alike_bind (alike_transfer _ _ _) fun paid => alike_ite ?_ (alike_pure _)
  refine alike_bind (alike_execute isExample native_eq _ _) fun result => ?_
  exact alike_ite (alike_bind (alike_change _) fun _ => alike_pure _) (alike_pure _)

theorem alike_dispatchCall (message : Message) :
    Alike (dispatchCall vm message) (dispatchCall vm' message) := by
  have executed : Alike
      (getWorld >>= fun world =>
        HostAction.execute vm () message (world.code message.codeAddress))
      (getWorld >>= fun world =>
        HostAction.execute vm' () message (world.code message.codeAddress)) :=
    alike_bind alike_getWorld fun _ => alike_execute isExample native_eq _ _
  have carriedOut (paid : Bool) := @alike_ite _ _ _ (paid = true) _ _ _ executed
    (alike_pure (.new .insufficientBalance message.gas []))
  exact alike_ite (alike_bind (alike_transfer _ _ _) carriedOut)
    (alike_bind (alike_pure true) carriedOut)

theorem alike_runFrame (message : Message) :
    Alike (runFrame vm message) (runFrame vm' message) := by
  refine alike_bind alike_getWorld fun snapshot => alike_bind (alike_note _) fun _ => ?_
  refine alike_bind (alike_ite (alike_dispatchCreation isExample native_eq message)
    (alike_dispatchCall isExample native_eq message)) fun result => ?_
  refine alike_ite (alike_bind (alike_note _) fun _ => alike_pure _) ?_
  refine alike_bind alike_getWorld fun world => alike_bind (alike_setWorld _) fun _ => ?_
  exact alike_bind (alike_note _) fun _ => alike_pure _

end Frames

theorem alike_recordCall (message : Message) :
    Alike (recordCall message) (recordCall message) := by
  refine alike_getState fun context context' alike => .done _ ?_
  exact {
    world_eq := alike.world_eq
    newestCalls_eq := congrArg (List.cons _) alike.newestCalls_eq
    txContext_eq := alike.txContext_eq
    faultIn_eq := alike.faultIn_eq
    native_eq := alike.native_eq
    uses := alike.uses }

theorem alike_call (message : Message) : Alike (call message) (call message) := by
  refine alike_bind (alike_check _) fun _ => alike_bind (alike_recordCall message) fun _ => ?_
  refine alike_getState fun context context' alike => ?_
  have native_eq := alike.native_eq
  cases found : context.vm <;> cases found' : context'.vm <;> rw [found, found'] at native_eq
  · exact .done _ alike
  · cases native_eq
  · cases native_eq
  · exact alike_ite (alike_pure _)
      (alike_runFrame (alike.uses _ found) (Option.some.inj native_eq) message) _ _ alike

theorem alike_getCode (address : Address) : Alike (getCode address) (getCode address) :=
  alike_bind (alike_check _) fun _ => alike_bind alike_getWorld fun _ => alike_pure _

theorem alike_selfdestruct (address beneficiary : Address) :
    Alike (selfdestruct address beneficiary) (selfdestruct address beneficiary) := by
  refine alike_bind (alike_check _) fun _ => alike_bind alike_getWorld fun world => ?_
  have marked := alike_bind (alike_change (.markDestructed address)) fun _ =>
    alike_pure (decide (address ∉ world.destructed))
  exact alike_ite marked (alike_bind (alike_transfer _ _ _) fun _ => marked)

theorem alike_getBlockHash (number : Int64) :
    Alike (getBlockHash number) (getBlockHash number) := by
  refine alike_bind (alike_check _) fun _ => alike_getState fun context context' alike => ?_
  rw [alike.txContext_eq]
  exact alike_ite (alike_pure _) (alike_ite (alike_fail _) (alike_ite (alike_pure _)
    (alike_pure _))) _ _ alike

/-- A mock context does not look at the identity of its VM. -/
theorem alike_hosting (method : HostMethod) :
    Alike (MockContext.hosting () method) (MockContext.hosting () method) := by
  have query {α : Type} (name : MethodName) {answer : World → MockAction Nat α}
      (answers : ∀ world, Alike (answer world) (answer world)) :
      Alike (check name >>= fun _ => getWorld >>= answer)
        (check name >>= fun _ => getWorld >>= answer) :=
    alike_bind (alike_check name) fun _ => alike_bind alike_getWorld answers
  cases method with
  | accountExists address => exact query _ fun _ => alike_pure _
  | getStorage address key => exact query _ fun _ => alike_pure _
  | setStorage address key value =>
      exact query _ fun _ => alike_bind (alike_change _) fun _ => alike_pure _
  | getBalance address => exact query _ fun _ => alike_pure _
  | getCodeSize address => exact query _ fun _ => alike_pure _
  | getCodeHash address =>
      refine query _ fun world => ?_
      cases world.accounts.get? address <;> exact alike_pure _
  | getCode address => exact alike_getCode address
  | copyCode address offset size buffer =>
      exact alike_bind (alike_getCode address) fun _ => alike_pure _
  | selfdestruct address beneficiary => exact alike_selfdestruct address beneficiary
  | call message => exact alike_call message
  | getTxContext =>
      refine alike_bind (alike_check _) fun _ => alike_getState fun context context' alike => ?_
      rw [alike.txContext_eq]
      exact .done _ alike
  | getBlockHash number => exact alike_getBlockHash number
  | emitLog log => exact alike_bind (alike_check _) fun _ => alike_change _
  | accessAccount address =>
      exact query _ fun _ => alike_bind (alike_change _) fun _ => alike_pure _
  | accessStorage address key =>
      exact query _ fun _ => alike_bind (alike_change _) fun _ => alike_pure _

end MockAction

end VmBridge
