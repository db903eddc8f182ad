import VmBridge.Proofs.MockContextHistory

/-!
# Executions come to an end

The example VM grants a nested message less gas than it has left, so a message
with a certain amount of gas leads to executions that are nested no deeper
than that amount.  `execute_finishes` says that a limit above the gas of a
message never stops its execution.
-/

namespace VmBridge

open HostAction

/-- The gas that a message can spend; a negative amount counts as none. -/
def Message.spendableGas (message : Message) : Nat := message.gas.toInt.toNat

theorem Message.Sends.spendableGas_lt {outer inner : Message} (sends : outer.Sends inner) :
    inner.spendableGas < outer.spendableGas := by
  have nonneg := sends.gas_nonneg
  have less := sends.gas_lt
  rw [spendableGas, spendableGas]
  omega

@[simp] theorem Message.spendableGas_started (message : Message) (world : World) :
    (message.started world).spendableGas = message.spendableGas := by
  rw [started]
  split <;> rfl

/-- Executions of messages with less than some gas come to an end. -/
def FinishesBelow (nested : Executor Unit Nat (MockContext Nat)) (gas : Nat) : Prop :=
  ∀ vm message code (process : MockProcess), vm.IsExample → process.hosts.UsesExampleVm →
    message.spendableGas < gas → (nested vm () message code).Finishes process

namespace MockAction

variable {nested : Executor Unit Nat (MockContext Nat)} {before : MockProcess} {gas : Nat}
  {α : Type}

theorem finishes_of_reads {action : MockAction Nat α} (reads : Reads action) :
    (carryOut nested action).Finishes before := by
  obtain ⟨ending, finished⟩ := carryOut_reads nested before reads
  exact Bridge.finishes_of_apply finished

theorem finishes_checked {method : MethodName} {action : MockAction Nat α}
    (finishes : (carryOut nested action).Finishes before) :
    (carryOut nested (check method >>= fun _ => action)).Finishes before := by
  rw [Bridge.Finishes, carryOut_checked]
  split
  · rfl
  · exact finishes

theorem runFrame_finishes (below : FinishesBelow nested gas) {vm : Vm Nat}
    (isExample : vm.IsExample) (uses : before.hosts.UsesExampleVm) {message : Message}
    (less : message.spendableGas < gas) :
    (carryOut nested (runFrame vm message)).Finishes before := by
  rw [Bridge.finishes_congr (carryOut_runFrame nested vm), Bridge.finishes_bind]
  constructor
  · by_cases overflows : message.Overflows (before.journaled (.frameOpened message)).hosts.world
    · exact Bridge.finishes_of_apply (carryOut_dispatch_overflown nested vm overflows)
    by_cases unpaid : message.Unpaid (before.journaled (.frameOpened message)).hosts.world
    · exact Bridge.finishes_of_apply (carryOut_dispatch_unpaid nested vm overflows unpaid)
    rw [Bridge.finishes_congr (carryOut_dispatch_started nested vm overflows unpaid),
      Bridge.finishes_bind]
    constructor
    · exact below vm _ _ (startedFrom before message) isExample
        (sameSetting_startedFrom.usesExampleVm uses) (by simpa using less)
    · intro ending middle _
      cases ending with
      | faulted fault => rfl
      | returned result =>
          rw [Bridge.Finishes, finishDispatch]
          split <;> rfl
  · intro ending middle _
    cases ending with
    | faulted fault => rfl
    | returned result =>
        rw [Bridge.Finishes, closeFrame]
        split <;> rfl

theorem call_finishes (below : FinishesBelow nested gas) (uses : before.hosts.UsesExampleVm)
    {message : Message} (less : message.spendableGas < gas) :
    (carryOut nested (call message)).Finishes before := by
  rw [Bridge.Finishes, carryOut_call]
  split
  · rfl
  · split
    · rfl
    · rename_i vm found
      split
      · rfl
      · have usesCalled : (before.withCall message).hosts.UsesExampleVm := uses
        exact runFrame_finishes below (uses vm found) usesCalled less

/-- Every method of a mock context comes to an end if its nested message has less
gas than the executions that do. -/
theorem hosting_finishes (below : FinishesBelow nested gas)
    (uses : before.hosts.UsesExampleVm) {method : HostMethod}
    (less : ∀ message, method = .call message → message.spendableGas < gas) :
    (carryOut nested (MockContext.hosting () method)).Finishes before := by
  cases method with
  | call message => exact call_finishes below uses (less message rfl)
  | selfdestruct address beneficiary =>
      rw [Bridge.Finishes]
      change (carryOut nested (selfdestruct address beneficiary) before).isSome = true
      rw [carryOut_selfdestruct]
      split <;> rfl
  | setStorage address key value => exact finishes_checked rfl
  | emitLog log => exact finishes_checked rfl
  | accessAccount address => exact finishes_checked rfl
  | accessStorage address key => exact finishes_checked rfl
  | _ => exact finishes_of_reads (reads_hosting rfl)

end MockAction

/-- A limit above the gas of a message never stops its execution. -/
theorem execute_finishes (limit : Nat) :
    FinishesBelow (execute MockContext.hosting limit) limit := by
  induction limit with
  | zero =>
      intro vm message code process _ _ less
      cases less
  | succ limit ih =>
      intro vm message code process isExample uses less
      obtain ⟨provider, executes⟩ := isExample.executes
      rw [execute, finishes_executeWith executes]
      let holds (middle : MockProcess) : Prop := middle.hosts.UsesExampleVm
      have start : holds (process.begun vm (ExampleVm.nativeExecute provider) () message code) :=
        uses
      have obeys := ExampleVm.execute_obeys provider (process.privateState vm)
        process.registry.nextHandle message code
      have noted (middle : MockProcess) (event : NativeEvent) (held : holds middle) :
          holds (middle.journaled event.val) :=
        held
      refine runNative_finishes noted ?_ ?_ obeys start
      · intro middle handle request asked held
        exact (deliver_evolves (execute_evolves limit) asked held).imp fun _ _ evolves =>
          evolves.usesExampleVm held
      · intro middle handle request asked held
        refine finishes_deliver fun host delivery _ decoded => ?_
        refine MockAction.hosting_finishes ih (by simpa using held) fun inner method_eq => ?_
        have sends : message.Sends inner := by
          have permitted := mayAsk_of_decode asked.2 decoded
          rw [method_eq] at permitted
          exact permitted
        have lower := sends.spendableGas_lt
        omega

namespace MockContext

variable {limit : Nat} {message : Message} {before : MockProcess}

/-- The execution of a message from outside, as a computation of the bridge. -/
def run (limit : Nat) (message : Message) :
    Bridge Unit Nat (MockContext Nat) (Ending ExecutionResult) :=
  carryOut (VmBridge.execute hosting limit) (execute message)

theorem execute_apply (message : Message) (context : MockContext Nat) :
    execute message context =
      match context.vm with
      | some vm => HostAction.execute vm () message (context.world.code message.codeAddress) context
      | none => .done (.returned .internalError) context := by
  obtain ⟨world, newestCalls, txContext, vm, faultIn⟩ := context
  cases vm <;> rfl

theorem run_of_vm {vm : Vm Nat} (found : before.hosts.vm = some vm) :
    run limit message before =
      VmBridge.execute hosting limit vm () message (before.hosts.world.code message.codeAddress)
        before := by
  change runHost _ (execute message before.hosts) before = _
  rw [execute_apply, found]
  change carryOut _ (HostAction.execute vm () message _) before = _
  rw [carryOut_execute]

theorem run_of_no_vm (absent : before.hosts.vm = none) :
    run limit message before = some (.returned .internalError, before) := by
  change runHost _ (execute message before.hosts) before = _
  rw [execute_apply, absent]
  rfl

theorem run_evolves (uses : before.hosts.UsesExampleVm) :
    (run limit message).Ensures before fun _ after => before.Evolves (.code message) after := by
  cases found : before.hosts.vm with
  | none =>
      rw [Bridge.ensures_of_apply (run_of_no_vm found)]
      exact .refl _ before
  | some vm =>
      rw [Bridge.ensures_congr (run_of_vm found)]
      exact execute_evolves limit vm message _ before (uses vm found) uses

theorem run_finishes (uses : before.hosts.UsesExampleVm)
    (enough : message.spendableGas < limit) : (run limit message).Finishes before := by
  cases found : before.hosts.vm with
  | none => exact Bridge.finishes_of_apply (run_of_no_vm found)
  | some vm =>
      rw [Bridge.finishes_congr (run_of_vm found)]
      exact execute_finishes limit vm message _ before (uses vm found) uses enough

end MockContext

end VmBridge
