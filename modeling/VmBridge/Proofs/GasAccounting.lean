import VmBridge.Proofs.FirstFault
import VmBridge.Proofs.GasMeter

/-!
# Gas pays for all commands

Whatever the example VM executes against a mock context, however deeply its codes
call each other, each command that is charged anywhere is paid from the gas of the
message from outside.  A nested message is granted gas of the frame that sends it
and gives back what it has left; one that is never executed gives back all.  So
`MockContext.run_charges` bounds the number of commands by the gas that a message
does not have left, and the two are equal unless a frame was aborted or a host
failed.
-/

namespace VmBridge

open HostAction

namespace Event

/-- The number of commands that were charged while some events happened. -/
def charges : List Event → Nat
  | [] => 0
  | event :: rest => event.charge + charges rest

theorem charges_append (events others : List Event) :
    charges (events ++ others) = charges events + charges others := by
  induction events with
  | nil => exact (Nat.zero_add _).symm
  | cons event rest ih => rw [List.cons_append, charges, charges, ih, Nat.add_assoc]

theorem charges_eq_zero {events : List Event} (free : ∀ event ∈ events, event.charge = 0) :
    charges events = 0 := by
  induction events with
  | nil => rfl
  | cons event rest ih =>
      obtain ⟨first, later⟩ := List.forall_mem_cons.mp free
      rw [charges, first, Nat.zero_add]
      exact ih later

theorem charge_changeEvents (changes : List Change) :
    ∀ event ∈ changeEvents changes, event.charge = 0 := by
  intro event member
  obtain ⟨change, _, rfl⟩ := List.mem_map.mp member
  rfl

/-- No host failed, and every frame that ended kept its gas. -/
def Undisturbed (events : List Event) : Prop :=
  ∀ event ∈ events, event.hostFault? = none ∧
    ∀ result, event = .executed result → result.status.KeepsGas

theorem undisturbed_append {events others : List Event} :
    Undisturbed (events ++ others) ↔ Undisturbed events ∧ Undisturbed others :=
  List.forall_mem_append

theorem undisturbed_of_firstFault {events : List Event} (faultless : firstFault? events = none)
    (kept : ∀ result, .executed result ∈ events → result.status.KeepsGas) :
    Undisturbed events := by
  intro event member
  refine ⟨List.findSome?_eq_none_iff.mp faultless event member, ?_⟩
  rintro result rfl
  exact kept result member

/-- The commands that were charged while some events happened cost at most an amount
of gas, and exactly that unless something was disturbed. -/
structure Charged (amount : Int) (events : List Event) : Prop where
  le : (charges events : Int) ≤ amount
  eq : Undisturbed events → (charges events : Int) = amount

namespace Charged

variable {amount more : Int} {events others : List Event}

theorem of_free (free : ∀ event ∈ events, event.charge = 0) : Charged 0 events := by
  have none_charged : (charges events : Int) = 0 := by rw [charges_eq_zero free]; rfl
  exact ⟨Int.le_of_eq none_charged, fun _ => none_charged⟩

theorem append (first : Charged amount events) (second : Charged more others) :
    Charged (amount + more) (events ++ others) := by
  have total : (charges (events ++ others) : Int) = charges events + charges others := by
    rw [charges_append, Int.natCast_add]
  constructor
  · rw [total]
    exact Int.add_le_add first.le second.le
  · intro undisturbed
    obtain ⟨before, after⟩ := undisturbed_append.mp undisturbed
    rw [total, first.eq before, second.eq after]

theorem around {front back : List Event} (charged : Charged amount events)
    (frontFree : ∀ event ∈ front, event.charge = 0)
    (backFree : ∀ event ∈ back, event.charge = 0) :
    Charged amount (front ++ events ++ back) := by
  have total := ((of_free frontFree).append charged).append (of_free backFree)
  rwa [Int.zero_add, Int.add_zero] at total

theorem behind {front : List Event} (charged : Charged amount events)
    (frontFree : ∀ event ∈ front, event.charge = 0) : Charged amount (front ++ events) := by
  have total := charged.around frontFree (List.forall_mem_nil _)
  rwa [List.append_nil] at total

/-- Once a host has failed only the bound remains. -/
theorem of_faulted {event : Event} {fault : Fault} (le : (charges events : Int) ≤ amount)
    (member : event ∈ events) (faulted : event.hostFault? = some fault) :
    Charged amount events := by
  refine ⟨le, fun undisturbed => ?_⟩
  rw [(undisturbed event member).1] at faulted
  cases faulted

end Charged

end Event

section Native

variable {κ ν σ α : Type} {hosting : Hosting κ ν σ} {nested : Executor κ ν σ}
  {asks : Nat → Request → Prop} {yields : α → Prop} {settles : Int → α → Prop}
  {course : NativeRun α} {holds : Process κ ν σ → Prop} {before : Process κ ν σ} {gas : Int}

/-- Native code that keeps its account has charged what it has paid, if its callbacks
charge what they cost. -/
theorem runNative_charged
    (noted : ∀ (process : Process κ ν σ) (event : NativeEvent),
      holds process → holds (process.journaled event.val))
    (served : ∀ process handle request, asks handle request → holds process →
      (deliver hosting nested handle request).Ensures process fun answer after =>
        holds after ∧ ∃ events, process.Since after events ∧
          Event.Charged (request.cost answer) events)
    (obeys : course.Obeys asks yields) (meters : course.Meters settles gas)
    (start : holds before) :
    (runNative hosting nested course).Ensures before fun value after =>
      ∃ events left, before.Since after events ∧ settles left value ∧
        Event.Charged (gas - left) events := by
  induction course generalizing before gas with
  | done value =>
      refine (Bridge.ensures_pure before value _).mpr ⟨[], gas, Process.since_nil rfl, meters, ?_⟩
      rw [Int.sub_self]
      exact .of_free (by simp)
  | note event rest ih =>
      simp only [runNative, Bridge.ensures_bind, Bridge.ensures_record]
      refine (ih obeys meters (noted before event start)).imp ?_
      rintro value after ⟨events, left, since, settled, charged⟩
      have once : Event.Charged event.val.charge [event.val] :=
        ⟨by simp [Event.charges], fun _ => by simp [Event.charges]⟩
      have total := once.append charged
      rw [show event.val.charge + (gas - event.val.charge - left) = gas - left by omega] at total
      exact ⟨_, left, (Process.since_journaled before event.val).append since, settled, total⟩
  | ask handle request resume ih =>
      simp only [runNative, Bridge.ensures_bind]
      refine (served before handle request obeys.1 start).imp ?_
      rintro answer middle ⟨held, earlier, since, paid⟩
      refine (ih answer (obeys.2 answer) (meters answer) held).imp ?_
      rintro value after ⟨later, left, since', settled, charged⟩
      have total := paid.append charged
      rw [show request.cost answer + (gas - request.cost answer - left) = gas - left by omega]
        at total
      exact ⟨_, left, since.append since', settled, total⟩

end Native

/-- A mock context executes nested messages on the example VM. -/
def MockContext.HasExampleVm (context : MockContext Nat) : Prop :=
  ∃ vm, context.vm = some vm ∧ vm.IsExample

theorem MockContext.HasExampleVm.uses {context : MockContext Nat} (has : context.HasExampleVm) :
    context.UsesExampleVm := by
  obtain ⟨vm, found, isExample⟩ := has
  intro other found'
  rw [found, Option.some.injEq] at found'
  exact found' ▸ isExample

theorem MockContext.SameSetting.hasExampleVm {before after : MockContext Nat}
    (same : before.SameSetting after) (has : before.HasExampleVm) : after.HasExampleVm := by
  obtain ⟨vm, found, isExample⟩ := has
  exact ⟨vm, same.vm_eq.trans found, isExample⟩

/-- What an execution with some gas ends with, if it is to account for the commands
that were charged while some events happened. -/
def Accounts (gas : Int) : Ending ExecutionResult → List Event → Prop
  | .returned result, events =>
      0 ≤ result.gasLeft.toInt ∧ result.gasLeft.toInt ≤ gas ∧
        Event.Charged (gas - result.gasLeft.toInt) events
  | .faulted _, events => (Event.charges events : Int) ≤ gas

namespace Accounts

variable {gas : Int} {ending : Ending ExecutionResult} {inner : List Event}

theorem around {front back : List Event} (accounts : Accounts gas ending inner)
    (frontFree : ∀ event ∈ front, event.charge = 0)
    (backFree : ∀ event ∈ back, event.charge = 0) :
    Accounts gas ending (front ++ inner ++ back) := by
  cases ending with
  | returned result =>
      obtain ⟨nonneg, le, charged⟩ := accounts
      exact ⟨nonneg, le, charged.around frontFree backFree⟩
  | faulted fault =>
      have within : (Event.charges inner : Int) ≤ gas := accounts
      rw [Accounts, Event.charges_append, Event.charges_append, Event.charges_eq_zero frontFree,
        Event.charges_eq_zero backFree]
      omega

theorem behind {front : List Event} (accounts : Accounts gas ending inner)
    (frontFree : ∀ event ∈ front, event.charge = 0) :
    Accounts gas ending (front ++ inner) := by
  have total := accounts.around frontFree (List.forall_mem_nil _)
  rwa [List.append_nil] at total

/-- A message that is not executed gives all its gas back. -/
theorem of_refunded {message : Message} (nonneg : 0 ≤ message.gas.toInt) (status : StatusCode)
    {events : List Event} (free : ∀ event ∈ events, event.charge = 0) :
    Accounts message.gas.toInt (.returned (.new status message.gas [])) events := by
  refine ⟨nonneg, Int.le_refl _, ?_⟩
  rw [show (ExecutionResult.new status message.gas []).gasLeft = message.gas from rfl, Int.sub_self]
  exact .of_free free

end Accounts

/-- Nested executions account for the commands that are charged during them. -/
def AccountsNested (nested : Executor Unit Nat (MockContext Nat)) : Prop :=
  ∀ vm message code (process : MockProcess), vm.IsExample → process.hosts.HasExampleVm →
    (nested vm () message code).Ensures process fun ending after =>
      ∃ events, process.Since after events ∧ Accounts message.spendableGas ending events

theorem Message.spendableGas_eq {message : Message} (nonneg : 0 ≤ message.gas.toInt) :
    (message.spendableGas : Int) = message.gas.toInt :=
  Int.toNat_of_nonneg nonneg

namespace MockAction

variable {nested : Executor Unit Nat (MockContext Nat)} {before after : MockProcess} {vm : Vm Nat}
  {message : Message} {ending : Ending ExecutionResult}

theorem FrameEnds.accounts (nestedAccounts : AccountsNested nested) (isExample : vm.IsExample)
    (has : before.hosts.HasExampleVm) (nonneg : 0 ≤ message.gas.toInt)
    (ends : FrameEnds nested before vm message ending after) :
    ∃ events, before.Since after events ∧ Accounts message.gas.toInt ending events := by
  have hasStarted : (startedFrom before message).hosts.HasExampleVm :=
    sameSetting_startedFrom.hasExampleVm has
  have nestedEnsures := nestedAccounts vm (message.started before.hosts.world)
    (message.startedCode (before.hosts.world.applyAll (message.opening before.hosts.world)))
    (startedFrom before message) isExample hasStarted
  rw [Message.spendableGas_started, Message.spendableGas_eq nonneg] at nestedEnsures
  have front (changes : List Change) :
      ∀ event ∈ Event.frameOpened message :: changeEvents changes, event.charge = 0 :=
    List.forall_mem_cons.mpr ⟨rfl, Event.charge_changeEvents changes⟩
  have closed (kept : Bool) : ∀ event ∈ [Event.frameClosed kept], event.charge = 0 := by
    simp [Event.charge]
  cases ends with
  | overflown =>
      exact ⟨_, Process.since_journaled before _, nonneg⟩
  | unpaid =>
      exact ⟨_, since_unpaid, .of_refunded nonneg _
        (List.forall_mem_append.mpr ⟨front _, closed false⟩)⟩
  | abandoned _ executed =>
      obtain ⟨inner, since, accounts⟩ := nestedEnsures _ _ executed
      exact ⟨_, since_startedFrom.append since, accounts.behind (front _)⟩
  | undone _ executed =>
      obtain ⟨inner, since, accounts⟩ := nestedEnsures _ _ executed
      exact ⟨_, since_undone since, accounts.around (front _) (closed false)⟩
  | @kept result _ _ executed =>
      obtain ⟨inner, since, accounts⟩ := nestedEnsures _ _ executed
      have happened := since_kept since result.output
      rw [List.append_assoc _ (changeEvents _)] at happened
      have accounts' := accounts.around (front (message.opening before.hosts.world))
        (List.forall_mem_append.mpr ⟨Event.charge_changeEvents
          (message.closing before.hosts.world result.output), closed true⟩)
      have same : (message.answered before.hosts.world result).gasLeft = result.gasLeft := by
        rw [Message.answered]
        split <;> rfl
      refine ⟨_, happened, ?_⟩
      rw [Accounts, same]
      exact accounts'

/-- A mock context accounts for the gas of a nested message, whether or not it
executes it. -/
theorem call_accounts (nestedAccounts : AccountsNested nested)
    (has : before.hosts.HasExampleVm) (nonneg : 0 ≤ message.gas.toInt) :
    (carryOut nested (call message)).Ensures before fun ending after =>
      ∃ events, before.Since after events ∧ Accounts message.gas.toInt ending events := by
  obtain ⟨vm, found, isExample⟩ := has
  have hasCalled : (before.withCall message).hosts.HasExampleVm := ⟨vm, found, isExample⟩
  intro ending after finished
  rw [carryOut_call, found] at finished
  dsimp only at finished
  split at finished
  · cases finished
    exact ⟨[], Process.since_nil rfl, nonneg⟩
  split at finished
  · cases finished
    exact ⟨[], Process.since_nil rfl, .of_refunded nonneg _ (by simp)⟩
  · have ends := runFrame_ends nested _ vm message ending after finished
    obtain ⟨events, since, accounts⟩ := ends.accounts nestedAccounts isExample hasCalled nonneg
    exact ⟨events, since, accounts⟩

end MockAction

section Callbacks

variable {nested : Executor Unit Nat (MockContext Nat)} {process : MockProcess} {handle : Nat}

theorem Registry.exists_resolve_eq {κ : Type} {registry : Registry κ} {handle : Nat}
    (live : registry.isLive handle = true) : ∃ host, registry.resolve handle = some host := by
  rw [isLive_eq, Option.isSome_iff_exists] at live
  obtain ⟨registration, found⟩ := live
  exact ⟨registration.context, by rw [resolve_eq, found]; rfl⟩

theorem Message.cost_answered (message : Message) {result : ExecutionResult}
    (nonneg : 0 ≤ result.gasLeft.toInt) (le : result.gasLeft.toInt ≤ message.gas.toInt) :
    (Request.call (some message.toNative)).cost result.toNative =
      message.gas.toInt - result.gasLeft.toInt := by
  change message.gas.toInt - returnedGas message.gas.toInt result.gasLeft.toInt = _
  rw [returnedGas]
  omega

/-- A call that is refused costs all the gas of its message. -/
theorem Message.cost_refused (message : Message) (nonneg : 0 ≤ message.gas.toInt) :
    (Request.call (some message.toNative)).cost
      (Request.call (some message.toNative)).fallback = message.gas.toInt := by
  change message.gas.toInt - returnedGas message.gas.toInt 0 = _
  rw [returnedGas]
  omega

theorem deliver_call_charged (nestedAccounts : AccountsNested nested)
    (live : process.registry.isLive handle = true) (has : process.hosts.HasExampleVm)
    {message : Message} (nonneg : 0 ≤ message.gas.toInt) :
    (deliver MockContext.hosting nested handle (.call (some message.toNative))).Ensures process
      fun answer after => ∃ events, process.Since after events ∧
        Event.Charged ((Request.call (some message.toNative)).cost answer) events := by
  let asked := (process.journaled (.requested .call handle)).announced (.call message)
  have front : process.Since asked [.requested .call handle, .nestedCall message] := rfl
  have frontFree : ∀ event ∈ [Event.requested .call handle, .nestedCall message],
      event.charge = 0 := by simp [Event.charge]
  have hasAsked : asked.hosts.HasExampleVm := has
  obtain ⟨host, resolved⟩ := Registry.exists_resolve_eq live
  rw [Bridge.ensures_congr (deliver_served resolved (decode_call message)), Bridge.ensures_bind]
  refine (MockAction.call_accounts nestedAccounts hasAsked nonneg).imp ?_
  rintro ending after ⟨events, since, accounts⟩
  cases ending with
  | returned result =>
      obtain ⟨left_nonneg, left_le, charged⟩ := accounts
      refine (Bridge.ensures_pure after _ _).mpr ⟨_, front.append since, ?_⟩
      rw [message.cost_answered left_nonneg left_le]
      exact charged.behind frontFree
  | faulted fault =>
      have parked : after.Since (after.parked handle fault "call")
          [.refused handle (.hostFaulted fault "call")] := rfl
      have reportedFree : ∀ event ∈ [Event.refused handle (.hostFaulted fault "call")],
          event.charge = 0 := by simp [Event.charge]
      have within : Accounts message.gas.toInt (.faulted fault)
          ([.requested .call handle, .nestedCall message] ++ events ++
            [.refused handle (.hostFaulted fault "call")]) :=
        accounts.around frontFree reportedFree
      refine (Bridge.ensures_of_apply rfl _).mpr ⟨_, (front.append since).append parked, ?_⟩
      rw [message.cost_refused nonneg]
      exact .of_faulted within (List.mem_append_right _ List.mem_cons_self) rfl

theorem MockAction.Serves.free {before after : MockProcess} {method : HostMethod}
    {ending : Ending method.Answer} (uncalled : ∀ message, method ≠ .call message)
    (serves : Serves nested before method ending after) :
    ∃ events, before.Since after events ∧ ∀ event ∈ events, event.charge = 0 := by
  cases serves with
  | still => exact ⟨[], Process.since_nil rfl, List.forall_mem_nil _⟩
  | changed => exact ⟨_, Process.since_changedAll before _, Event.charge_changeEvents _⟩
  | called => exact absurd rfl (uncalled _)

/-- A callback that is not for a nested message charges nothing. -/
theorem deliver_free_charged {request : Request}
    (uncalled : ∀ delivery, request.decode = .ok delivery →
      ∀ message, delivery.method ≠ .call message) :
    (deliver MockContext.hosting nested handle request).Ensures process fun _ after =>
      ∃ events, process.Since after events ∧ Event.Charged 0 events := by
  have requested := Process.since_journaled process (.requested request.name handle)
  have refusedFree (error : CallbackError) :
      ∀ event ∈ [Event.requested request.name handle, .refused handle error],
        event.charge = 0 := by simp [Event.charge]
  refine ensures_deliver
    ⟨_, requested.append (Process.since_journaled _ _), .of_free (refusedFree _)⟩
    (fun error _ => ⟨_, requested.append (Process.since_journaled _ _),
      .of_free (refusedFree error)⟩) ?_
  intro host delivery _ decoded
  have asked := requested.append (Process.since_announced _ delivery.method)
  have askedFree : ∀ event ∈ [Event.requested request.name handle] ++
      Process.announcing delivery.method, event.charge = 0 := by
    refine List.forall_mem_append.mpr ⟨by simp [Event.charge], fun event member => ?_⟩
    obtain ⟨message, rfl⟩ := Process.mem_announcing member
    rfl
  refine (MockAction.hosting_serves nested _ delivery.method).imp ?_
  rintro ending after serves
  obtain ⟨events, since, free⟩ := serves.free (uncalled delivery decoded)
  have servedFree := List.forall_mem_append.mpr ⟨askedFree, free⟩
  cases ending with
  | returned answer => exact ⟨_, asked.append since, .of_free servedFree⟩
  | faulted fault =>
      have parked : after.Since (after.parked handle fault request.name.text)
          [.refused handle (.hostFaulted fault request.name.text)] := rfl
      refine ⟨_, (asked.append since).append parked, .of_free ?_⟩
      exact List.forall_mem_append.mpr ⟨servedFree, by simp [Event.charge]⟩

/-- Whatever a frame asks for charges what it costs. -/
theorem deliver_charged (nestedAccounts : AccountsNested nested) {provider : Provider}
    {verbosity own : Nat} {message : Message} {request : Request}
    (asked : (ExampleVm.frameOf provider verbosity own message).Asks
      (startingGas message.toNative) handle request)
    (live : process.registry.isLive handle = true) (has : process.hosts.HasExampleVm) :
    (deliver MockContext.hosting nested handle request).Ensures process fun answer after =>
      ∃ events, process.Since after events ∧ Event.Charged (request.cost answer) events := by
  have mayAsk := asked.2
  cases mayAsk with
  | call kind address granted value salt input granted_nonneg granted_lt fits shallow =>
      have gas_eq := gas_nestedMessage granted_nonneg fits message.toNative kind address value salt
        input
      have nonneg : 0 ≤ (message.nested kind address granted value salt input).gas.toInt :=
        gas_eq.symm ▸ granted_nonneg
      exact deliver_call_charged nestedAccounts live has nonneg
  | emitLog topics =>
      refine deliver_free_charged fun delivery decoded message => ?_
      cases (decode_emitLog _ _ _).symm.trans decoded
      exact HostMethod.noConfusion
  | _ =>
      refine deliver_free_charged fun delivery decoded message => ?_
      cases decoded
      exact HostMethod.noConfusion

end Callbacks

section Executions

theorem Process.Keeps.isLive_eq {κ ν σ : Type} {handle : Nat} {before after : Process κ ν σ}
    {events : List Event} (keeps : before.Keeps handle after events) :
    after.registry.isLive handle = before.registry.isLive handle := by
  rw [Registry.isLive_eq, Registry.isLive_eq, keeps.registration_eq, Option.isSome_map]

theorem Process.isLive_begun (process : MockProcess) (vm : Vm Nat) (run : NativeExecute Nat)
    (message : Message) (code : Bytes) :
    (process.begun vm run () message code).registry.isLive process.registry.nextHandle = true := by
  change ((process.registry.register ()).registration? process.registry.nextHandle).isSome = true
  rw [Registry.registration?_register, if_pos rfl]
  rfl

theorem startingGas_toNative (message : Message) :
    startingGas message.toNative = message.spendableGas := by
  have starting_eq : startingGas message.toNative = max message.gas.toInt 0 := rfl
  rw [starting_eq, Message.spendableGas]
  omega

theorem Process.charge_beginning (vm : Vm Nat) (message : Message) (code : Bytes)
    (handle : Nat) : ∀ event ∈ beginning vm message code handle, event.charge = 0 := by
  intro event member
  rcases mem_beginning member with rfl | rfl | ⟨_, _, _, _, rfl⟩ <;> rfl

theorem Process.charge_concluding (middle : MockProcess) (handle : Nat)
    (native : NativeResult) : ∀ event ∈ middle.concluding handle native, event.charge = 0 := by
  intro event member
  rcases mem_concluding member with rfl | ⟨_, rfl⟩ | rfl | rfl <;> rfl

theorem accounts_concluded (middle : MockProcess) (handle : Nat) {native : NativeResult}
    {gas left : Int} {events : List Event} (settled : native.Settles left)
    (charged : Event.Charged (gas - left) events) :
    Accounts gas (middle.concluded handle native).1
      (events ++ middle.concluding handle native) := by
  obtain ⟨nonneg, left_le, left_eq⟩ := settled
  have free := middle.charge_concluding handle native
  have total : Event.charges (events ++ middle.concluding handle native) =
      Event.charges events := by
    rw [Event.charges_append, Event.charges_eq_zero free, Nat.add_zero]
  have within := charged.le
  rw [Process.concluded]
  cases parked : middle.registry.parkedFault handle with
  | some fault =>
      rw [Accounts, total]
      omega
  | none =>
      have gas_eq : native.toResult.gasLeft = native.gasLeft := rfl
      have charges_nonneg : (0 : Int) ≤ Event.charges events := Int.natCast_nonneg _
      rw [Accounts, gas_eq]
      refine ⟨nonneg, by omega, ?_, fun undisturbed => ?_⟩
      · rw [total]
        omega
      · obtain ⟨calm, concluded⟩ := Event.undisturbed_append.mp undisturbed
        have executed : Event.executed native.toResult ∈ middle.concluding handle native := by
          simp [Process.concluding, parked]
        rw [total, charged.eq calm, left_eq ((concluded _ executed).2 _ rfl)]

/-- Executions of the example VM account for all commands that are charged during
them. -/
theorem execute_accounts (limit : Nat) : AccountsNested (execute MockContext.hosting limit) := by
  induction limit with
  | zero =>
      intro vm message code process _ _ ending after finished
      cases finished
  | succ limit ih =>
      intro vm message code process isExample has
      obtain ⟨provider, executes⟩ := isExample.executes
      rw [execute, ensures_executeWith executes]
      let handle := process.registry.nextHandle
      -- A callback that does not reach its host costs all the gas of its message
      -- and charges nothing, so the handle has to stay live.
      let holds (middle : MockProcess) : Prop :=
        middle.registry.isLive handle = true ∧ handle < middle.registry.nextHandle ∧
          middle.hosts.HasExampleVm
      have start : holds (process.begun vm (ExampleVm.nativeExecute provider) () message code) :=
        ⟨process.isLive_begun vm _ message code, Nat.lt_succ_self _, has⟩
      have noted (middle : MockProcess) (event : NativeEvent) (held : holds middle) :
          holds (middle.journaled event.val) := held
      have obeys := ExampleVm.execute_obeys provider (process.privateState vm) handle message code
      have meters := ExampleVm.execute_meters provider (process.privateState vm) handle message
        code
      refine (runNative_charged noted ?_ obeys meters start).imp ?_
      · rintro middle other request asked ⟨live, known, hasThen⟩ answer after answered
        have same : other = handle := asked.1
        subst same
        obtain ⟨_, keeps⟩ := deliver_keeps (execute_keeps MockContext.hosting limit) handle request
          known answer after answered
        obtain ⟨_, _, _, setting⟩ := deliver_evolves (execute_evolves limit) asked hasThen.uses
          answer after answered
        refine ⟨⟨?_, Nat.lt_of_lt_of_le known keeps.nextHandle_le, setting.hasExampleVm hasThen⟩,
          deliver_charged ih asked live hasThen answer after answered⟩
        rw [keeps.isLive_eq]
        exact live
      · rintro native middle ⟨events, left, since, settled, charged⟩
        have happened := (process.since_begun vm _ () message code).append
          (since.append (middle.since_concluded handle native))
        refine ⟨_, happened, ?_⟩
        rw [startingGas_toNative] at charged
        exact (accounts_concluded middle handle settled charged).behind
          (Process.charge_beginning vm message code handle)

end Executions

namespace MockContext

/-- The execution of a message from outside comes to an end and charges, in all its
frames together, at most as many commands as the message has gas and the result
has not left.  It charges exactly as many if no host fails and every frame ends
in success or revert. -/
theorem run_charges (limit : Nat) (message : Message) (before : MockProcess)
    (has : before.hosts.HasExampleVm) :
    (message.spendableGas < limit → (run limit message).Finishes before) ∧
      (run limit message).Ensures before fun ending after =>
        ∃ events, before.Since after events ∧
          Event.charges events ≤ message.spendableGas ∧
          ∀ result, ending = .returned result →
            0 ≤ result.gasLeft.toInt ∧ result.gasLeft.toInt ≤ message.spendableGas ∧
              (Event.charges events : Int) ≤ message.spendableGas - result.gasLeft.toInt ∧
              (Event.firstFault? events = none →
                (∀ inner, .executed inner ∈ events → inner.status.KeepsGas) →
                (Event.charges events : Int) =
                  message.spendableGas - result.gasLeft.toInt) := by
  refine ⟨run_finishes has.uses, ?_⟩
  obtain ⟨vm, found, isExample⟩ := has
  rw [Bridge.ensures_congr (run_of_vm found)]
  refine (execute_accounts limit vm message _ before isExample ⟨vm, found, isExample⟩).imp ?_
  rintro ending after ⟨events, since, accounts⟩
  refine ⟨events, since, ?_⟩
  cases ending with
  | faulted fault => exact ⟨Int.ofNat_le.mp accounts, nofun⟩
  | returned result =>
      obtain ⟨nonneg, le, charged⟩ := accounts
      have within := charged.le
      refine ⟨by omega, ?_⟩
      rintro _ ⟨⟩
      exact ⟨nonneg, le, within, fun faultless kept =>
        charged.eq (Event.undisturbed_of_firstFault faultless kept)⟩

def gasLeft? : Ending ExecutionResult → Option Int64
  | .returned result => some result.gasLeft
  | .faulted _ => none

/-- Whether a frame that ended, if the event is one, kept its gas. -/
def keepsGas : Event → Bool
  | .executed inner => decide inner.status.KeepsGas
  | _ => true

/-- Two accounts.  The code of the first calls the second twice with all its gas, in
two ways, and the second asks for the block number and reverts. -/
def callingTwice : MockContext Nat :=
  onExampleVm [
    (.ofNat 20 1, .running [
      .plainCall .call (.ofNat 20 2) 0xffffffffffffffff [],
      .plainCall .delegateCall (.ofNat 20 2) 0xffffffffffffffff [], .stop]),
    (.ofNat 20 2, .running [.blockNumber, .revert])]

/-- Three frames charge seven commands, of which the first frame charges three. -/
theorem run_callingTwice :
    (run 101 (.calling (.ofNat 20 1) 100)).Finishes (.initial callingTwice) ∧
      (run 101 (.calling (.ofNat 20 1) 100)).Ensures (.initial callingTwice)
        fun ending after => ∃ events, (Process.initial callingTwice).Since after events ∧
          (∃ result, ending = .returned result ∧ result.gasLeft = 93) ∧
          Event.charges events = 7 := by
  have has : callingTwice.HasExampleVm :=
    ⟨ExampleVm.bundled, rfl, ExampleVm.isExample_bundled⟩
  obtain ⟨finishes, ensured⟩ :=
    run_charges 101 (.calling (.ofNat 20 1) 100) (.initial callingTwice) has
  refine ⟨finishes (by decide), fun ending after finished => ?_⟩
  obtain ⟨events, since, _, accounts⟩ := ensured ending after finished
  have events_eq := since.reverse_journal rfl
  have ran : ((run 101 (.calling (.ofNat 20 1) 100) (.initial callingTwice)).map fun result =>
      (gasLeft? result.1, Event.firstFault? result.2.journal.reverse,
        result.2.journal.reverse.all keepsGas)) = some (some 93, none, true) := by
    decide +kernel
  rw [finished, Option.map_some, Option.some.injEq, Prod.mk.injEq, Prod.mk.injEq, events_eq] at ran
  obtain ⟨left_eq, faultless, kept⟩ := ran
  cases ending with
  | faulted fault => cases left_eq
  | returned result =>
      have gas_eq : result.gasLeft = 93 := Option.some.inj left_eq
      obtain ⟨_, _, _, exactly⟩ := accounts result rfl
      have charged := exactly faultless fun inner member =>
        of_decide_eq_true (List.all_eq_true.mp kept _ member)
      rw [gas_eq] at charged
      refine ⟨events, since, ⟨result, rfl, gas_eq⟩, Int.ofNat.inj (charged.trans ?_)⟩
      decide

end MockContext

end VmBridge
