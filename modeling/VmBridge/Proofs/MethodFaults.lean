import VmBridge.Proofs.MockContextHistory

/-!
# Why the methods of a mock context fail

A host method fails for a reason of its own, or because an execution that it had
carried out did.  `MockContext.Fails` lists the reasons of its own that a method of a
mock context has: it was told to fail, it is asked for the hash of a block while the
window of known blocks starts below all numbers, or it counts a creation of a sender
whose count is full.  There are no others: `MockAction.failsIf_hosting`.
-/

namespace VmBridge

variable {κ ν σ α β : Type}

/-- Something ends without a value. -/
def Ending.Faults : Ending α → Prop
  | .returned _ => False
  | .faulted _ => True

theorem Ending.faults_iff {ending : Ending α} :
    ending.Faults ↔ ∃ fault, ending = .faulted fault := by
  cases ending with
  | returned value => exact ⟨False.elim, fun ⟨_, impossible⟩ => nomatch impossible⟩
  | faulted fault => exact ⟨fun _ => ⟨fault, rfl⟩, fun _ => trivial⟩

namespace HostRun

/-- A method fails before it has anything executed. -/
def Fails : HostRun κ ν σ α → Prop
  | .done ending _ => ending.Faults
  | .note _ rest => rest.Fails
  | .execute _ _ _ _ _ _ => False

/-- A method of a mock context fails before it has anything executed exactly if some
condition holds, and otherwise exactly if an execution does that it asked for last. -/
def FailsIf : Prop → HostRun Unit Nat (MockContext Nat) α → Prop
  | failing, .done ending state => (ending.Faults ↔ failing) ∧ state.UsesExampleVm
  | failing, .note _ rest => rest.FailsIf failing
  | failing, .execute vm _ _ _ state resume =>
      ¬failing ∧ vm.IsExample ∧ state.UsesExampleVm ∧
        ∀ ending later, later.UsesExampleVm → (resume ending later).FailsIf ending.Faults

/-- Whatever a method returns satisfies a condition, together with the state that it
leaves. -/
def Yields (yields : α → σ → Prop) : HostRun κ ν σ α → Prop
  | .done (.returned value) state => yields value state
  | .done (.faulted _) _ => True
  | .note _ rest => rest.Yields yields
  | .execute _ _ _ _ _ resume => ∀ ending later, (resume ending later).Yields yields

theorem yields_of_forall {yields : α → σ → Prop} (always : ∀ value state, yields value state)
    (run : HostRun κ ν σ α) : run.Yields yields := by
  induction run with
  | done ending state =>
      cases ending with
      | returned value => exact always value state
      | faulted fault => trivial
  | note event rest ih => exact ih
  | execute vm host message code state resume ih => exact ih

variable {failing : Prop} {run : HostRun Unit Nat (MockContext Nat) α}

theorem FailsIf.fails_iff (failsIf : run.FailsIf failing) : run.Fails ↔ failing := by
  induction run with
  | done ending state => exact failsIf.1
  | note event rest ih => exact ih failsIf
  | execute => exact ⟨False.elim, failsIf.1⟩

theorem FailsIf.bind {next : α → MockContext Nat → HostRun Unit Nat (MockContext Nat) β}
    (failsIf : run.FailsIf failing)
    (answers : ∀ value state, state.UsesExampleVm → (next value state).FailsIf False) :
    (run.bind next).FailsIf failing := by
  induction run generalizing failing with
  | done ending state =>
      obtain ⟨faults_iff, uses⟩ := failsIf
      cases ending with
      | faulted fault => exact ⟨faults_iff, uses⟩
      | returned value =>
          have spared : failing = False := propext faults_iff.symm
          rw [spared]
          exact answers value state uses
  | note event rest ih => exact ih failsIf
  | execute vm host message code state resume ih =>
      obtain ⟨spared, isExample, uses, rest⟩ := failsIf
      exact ⟨spared, isExample, uses, fun ending later usesLater =>
        ih ending later (rest ending later usesLater)⟩

end HostRun

/-- The name by which a method can be told to fail: the copy of code uses the whole
code and is told by its name. -/
def HostMethod.checkedName : HostMethod → MethodName
  | .copyCode _ _ _ _ => .getCode
  | method => method.name

/-- The reasons of its own for which a method of a mock context fails. -/
inductive MockContext.Fails (context : MockContext ν) : HostMethod → Prop where
  | told {method : HostMethod} (named : context.faultIn = some method.checkedName) :
      Fails context method
  /-- The lower bound of the window is no 64-bit number any more. -/
  | belowWindow {number : Int64} (past : number < context.txContext.blockNumber)
      (low : context.txContext.blockNumber.toInt < Int64.minValue.toInt + blockHashWindow) :
      Fails context (.getBlockHash number)
  /-- The count of the creations of the sender is full. -/
  | overflown {message : Message} (executes : context.vm.isSome = true)
      (shallow : ¬maxDepth < message.depth) (overflows : message.Overflows context.world) :
      Fails context (.call message)

/-- A method that fails only if it was told to. -/
def HostMethod.IsPlain : HostMethod → Prop
  | .call _ | .getBlockHash _ => False
  | _ => True

namespace MockAction

open MockContext (maxDepth blockHashWindow)

variable {context : MockContext Nat} {failing : Prop} {vm : Vm Nat} {message : Message}

theorem failsIf_checked {method : MethodName} {rest : MockAction Nat α}
    (uses : context.UsesExampleVm) (told : context.faultIn = some method → failing)
    (passed : context.faultIn ≠ some method → (rest context).FailsIf failing) :
    ((check method >>= fun _ => rest) context).FailsIf failing := by
  rw [checked_apply]
  by_cases failed : context.faultIn = some method
  · rw [if_pos failed]
    exact ⟨⟨fun _ => told failed, fun _ => trivial⟩, uses⟩
  · rw [if_neg failed]
    exact passed failed

theorem failsIf_transfer (uses : context.UsesExampleVm) (sender receiver : Address)
    (value : Word) : (transfer sender receiver value context).FailsIf False := by
  change ((if value.toNat = 0 then _ else if _ then _ else _ : MockAction Nat Bool)
    context).FailsIf False
  split
  · exact ⟨Iff.rfl, uses⟩
  · split
    · exact ⟨Iff.rfl, uses⟩
    · exact ⟨Iff.rfl, uses⟩

theorem failsIf_newAddress (uses : context.UsesExampleVm)
    (creates : message.kind.isCreate = true) :
    (newAddress message context).FailsIf (message.Overflows context.world) := by
  rw [newAddress]
  cases kind_eq : message.kind with
  | create2 =>
      have counts : ¬message.Overflows context.world := by
        rintro ⟨creates', _⟩
        cases kind_eq.symm.trans creates'
      exact ⟨⟨False.elim, counts⟩, uses⟩
  | create =>
      change ((if (context.world.account message.sender).nonce.toNat + 1 = UInt64.size then _
        else _ : MockAction Nat Address) context).FailsIf _
      split
      · rename_i full
        exact ⟨⟨fun _ => ⟨kind_eq, full⟩, fun _ => trivial⟩, uses⟩
      · rename_i room
        exact ⟨⟨False.elim, fun overflows => room overflows.2⟩, uses⟩
  | call | delegateCall | callCode =>
      rw [kind_eq] at creates
      cases creates

theorem failsIf_execute (uses : context.UsesExampleVm) (isExample : vm.IsExample)
    (message : Message) (code : Bytes) :
    (HostAction.execute vm () message code context).FailsIf False :=
  ⟨id, isExample, uses, fun _ _ usesLater => ⟨Iff.rfl, usesLater⟩⟩

theorem failsIf_dispatch (uses : context.UsesExampleVm) (isExample : vm.IsExample)
    (message : Message) :
    (dispatch vm message context).FailsIf (message.Overflows context.world) := by
  rw [dispatch]
  by_cases creates : message.kind.isCreate = true
  · rw [if_pos creates, dispatchCreation]
    refine (failsIf_newAddress uses creates).bind fun address counted usesCounted => ?_
    refine (failsIf_transfer usesCounted _ _ _).bind fun paid moved usesMoved => ?_
    cases paid with
    | false => exact ⟨Iff.rfl, usesMoved⟩
    | true =>
        refine (failsIf_execute usesMoved isExample _ _).bind fun result later usesLater => ?_
        split
        · exact ⟨Iff.rfl, usesLater⟩
        · exact ⟨Iff.rfl, usesLater⟩
  · have counts : message.Overflows context.world = False :=
      eq_false fun overflows => creates (by rw [overflows.1]; rfl)
    rw [if_neg creates, dispatchCall, counts]
    have onward (paid : Bool) (moved : MockContext Nat) (usesMoved : moved.UsesExampleVm) :
        ((if paid then do
            let world ← getWorld
            HostAction.execute vm () message (world.code message.codeAddress)
          else pure (.new .insufficientBalance message.gas []) : MockAction Nat ExecutionResult)
            moved).FailsIf False := by
      cases paid with
      | false => exact ⟨Iff.rfl, usesMoved⟩
      | true => exact failsIf_execute usesMoved isExample _ _
    split
    · exact (failsIf_transfer uses _ _ _).bind onward
    · exact onward true context uses

theorem failsIf_runFrame (uses : context.UsesExampleVm) (isExample : vm.IsExample)
    (message : Message) :
    (runFrame vm message context).FailsIf (message.Overflows context.world) := by
  change ((dispatch vm message context).bind _).FailsIf _
  refine (failsIf_dispatch uses isExample message).bind fun result later usesLater => ?_
  cases succeeded : result.isSuccess with
  | true => exact ⟨Iff.rfl, usesLater⟩
  | false => exact ⟨Iff.rfl, usesLater⟩

theorem failsIf_call (uses : context.UsesExampleVm) (message : Message) :
    (call message context).FailsIf (context.Fails (.call message)) := by
  rw [call]
  refine failsIf_checked uses (fun named => .told named) fun heeds => ?_
  have fails_iff : context.Fails (.call message) ↔ context.vm.isSome = true ∧
      ¬maxDepth < message.depth ∧ message.Overflows context.world := by
    constructor
    · rintro (⟨named⟩ | _ | ⟨executes, shallow, overflows⟩)
      · exact absurd named heeds
      · exact ⟨executes, shallow, overflows⟩
    · rintro ⟨executes, shallow, overflows⟩
      exact .overflown executes shallow overflows
  rw [fails_iff]
  obtain ⟨world, newestCalls, txContext, found, faultIn⟩ := context
  cases found with
  | none => exact ⟨⟨False.elim, fun overflown => Bool.noConfusion overflown.1⟩, uses⟩
  | some vm =>
      let record : CallRecord :=
        ⟨message.kind, message.depth, message.recipient, message.codeAddress⟩
      let recorded : MockContext Nat :=
        ⟨world, record :: newestCalls, txContext, some vm, faultIn⟩
      have usesRecorded : recorded.UsesExampleVm := uses
      change ((if maxDepth < message.depth then _ else _ : MockAction Nat ExecutionResult)
        recorded).FailsIf _
      by_cases deep : maxDepth < message.depth
      · rw [if_pos deep]
        exact ⟨⟨False.elim, fun overflown => overflown.2.1 deep⟩, uses⟩
      · have overflown_iff : ((some vm).isSome = true ∧ ¬maxDepth < message.depth ∧
            message.Overflows world) = message.Overflows world :=
          propext ⟨fun overflown => overflown.2.2, fun overflows => ⟨rfl, deep, overflows⟩⟩
        rw [if_neg deep, overflown_iff]
        exact failsIf_runFrame usesRecorded (uses vm rfl) message

theorem failsIf_getBlockHash (uses : context.UsesExampleVm) (number : Int64) :
    (getBlockHash number context).FailsIf (context.Fails (.getBlockHash number)) := by
  rw [getBlockHash]
  refine failsIf_checked uses (fun named => .told named) fun heeds => ?_
  have fails_iff : context.Fails (.getBlockHash number) ↔
      number < context.txContext.blockNumber ∧
        context.txContext.blockNumber.toInt < Int64.minValue.toInt + blockHashWindow := by
    constructor
    · rintro (⟨named⟩ | ⟨past, low⟩ | _)
      · exact absurd named heeds
      · exact ⟨past, low⟩
    · exact fun ⟨past, low⟩ => .belowWindow past low
  rw [fails_iff, Int64.lt_iff_toInt_lt]
  change ((if context.txContext.blockNumber.toInt ≤ number.toInt then pure _
    else if context.txContext.blockNumber.toInt - blockHashWindow < Int64.minValue.toInt then
      HostAction.fail _
    else if number.toInt < context.txContext.blockNumber.toInt - blockHashWindow then pure _
    else pure _ : MockAction Nat Word) context).FailsIf _
  split
  · exact ⟨⟨False.elim, by omega⟩, uses⟩
  · split
    · exact ⟨⟨fun _ => by omega, fun _ => trivial⟩, uses⟩
    · split
      · exact ⟨⟨False.elim, by omega⟩, uses⟩
      · exact ⟨⟨False.elim, by omega⟩, uses⟩

theorem fails_iff_told {method : HostMethod} (plain : method.IsPlain) :
    context.Fails method ↔ context.faultIn = some method.checkedName := by
  constructor
  · rintro (⟨named⟩ | _ | _)
    · exact named
    · cases plain
    · cases plain
  · exact .told

theorem getWorld_bind (next : World → MockAction Nat α) (context : MockContext Nat) :
    (getWorld >>= next) context = next context.world context := rfl

theorem failsIf_plain (method : HostMethod) (plain : method.IsPlain) {rest : MockAction Nat α}
    (uses : context.UsesExampleVm) (answers : (rest context).FailsIf False) :
    ((check method.checkedName >>= fun _ => rest) context).FailsIf (context.Fails method) := by
  rw [fails_iff_told plain]
  refine failsIf_checked uses id fun heeds => ?_
  rwa [eq_false heeds]

/-- A method of a mock context fails for its own reasons and otherwise only if an
execution does that it asked for. -/
theorem failsIf_hosting (uses : context.UsesExampleVm) (method : HostMethod) :
    (MockContext.hosting () method context).FailsIf (context.Fails method) := by
  cases method with
  | call message => exact failsIf_call uses message
  | getBlockHash number => exact failsIf_getBlockHash uses number
  | getCodeHash address =>
      refine failsIf_plain (.getCodeHash address) trivial uses ?_
      rw [getWorld_bind]
      cases context.world.accounts.get? address with
      | some account => exact ⟨Iff.rfl, uses⟩
      | none => exact ⟨Iff.rfl, uses⟩
  | copyCode address offset size buffer =>
      have whole : (getCode address context).FailsIf
          (context.Fails (.copyCode address offset size buffer)) :=
        failsIf_plain (.copyCode address offset size buffer) trivial uses ⟨Iff.rfl, uses⟩
      exact whole.bind fun code later usesLater => ⟨Iff.rfl, usesLater⟩
  | selfdestruct address beneficiary =>
      refine failsIf_plain (.selfdestruct address beneficiary) trivial uses ?_
      change ((if address = beneficiary then _ else _ : MockAction Nat Bool)
        context).FailsIf False
      split
      · exact ⟨Iff.rfl, uses⟩
      · exact (failsIf_transfer uses _ _ _).bind fun moved later usesLater =>
          ⟨Iff.rfl, usesLater⟩
  | _ => exact failsIf_plain _ (by trivial) uses ⟨Iff.rfl, uses⟩

end MockAction

end VmBridge
