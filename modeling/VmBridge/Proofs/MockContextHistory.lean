import VmBridge.Proofs.ExecutionSteps
import VmBridge.Proofs.FrameRequests
import VmBridge.Proofs.MockContextService

/-!
# Executions change the world by their histories

Whatever the example VM executes against a mock context, the world of the
context evolves as `World.Evolves` says, and the journal of the process holds
the events of that history.  `execute_evolves` says so for executions, and
`MockAction.hosting_evolves` for all methods that the context serves.
-/

namespace VmBridge

open HostAction

/-- A VM is an instance of the example VM. -/
def Vm.IsExample (vm : Vm Nat) : Prop :=
  ∃ provider, vm.native = ExampleVm.instanceOf provider

/-- A mock context executes nested messages on the example VM, or not at
all. -/
def MockContext.UsesExampleVm (context : MockContext Nat) : Prop :=
  ∀ vm, context.vm = some vm → vm.IsExample

theorem MockContext.SameSetting.usesExampleVm {before after : MockContext Nat}
    (same : before.SameSetting after) (uses : before.UsesExampleVm) : after.UsesExampleVm := by
  intro vm found
  exact uses vm (same.vm_eq.symm.trans found)

/-- The processes that execute against a mock context. -/
abbrev MockProcess : Type := Process Unit Nat (MockContext Nat)

/-- An account with code for some commands. -/
def Account.running (commands : List Command) : Account :=
  { (default : Account) with code := commands.flatMap Command.encode }

/-- The example VM that comes with the program. -/
def ExampleVm.bundled : Vm Nat := ⟨0, instanceOf .bundled, none⟩

theorem ExampleVm.isExample_bundled : bundled.IsExample := ⟨.bundled, rfl⟩

/-- A mock context with some accounts that executes on the example VM. -/
def MockContext.onExampleVm (accounts : List (Address × Account)) : MockContext Nat :=
  .new (Table.ofList accounts) defaultTxContext (some ExampleVm.bundled)

theorem MockContext.usesExampleVm_onExampleVm (accounts : List (Address × Account)) :
    (onExampleVm accounts).UsesExampleVm := by
  intro vm found
  cases found
  exact ExampleVm.isExample_bundled

/-- A message that calls an account with some gas and without value. -/
def Message.calling (address : Address) (gas : Int64) : Message where
  kind := .call
  isStatic := false
  depth := 0
  gas := gas
  recipient := address
  sender := .zero 20
  input := []
  value := .zero 32
  salt := .zero 32
  codeAddress := address

namespace Process

/-- Between two states of a process the world of its mock context evolved for an
actor, and the journal tells how. -/
def Evolves (actor : Actor) (before after : MockProcess) : Prop :=
  ∃ events, before.Since after events ∧
    World.Evolves actor before.hosts.world events after.hosts.world ∧
    before.hosts.SameSetting after.hosts

namespace Evolves

variable {actor : Actor} {before middle after : MockProcess}

theorem refl (actor : Actor) (process : MockProcess) : process.Evolves actor process :=
  ⟨[], since_nil rfl, .rest _ _, .refl _⟩

theorem trans (start : before.Evolves actor middle) (finish : middle.Evolves actor after) :
    before.Evolves actor after := by
  obtain ⟨earlier, since, evolves, same⟩ := start
  obtain ⟨later, since', evolves', same'⟩ := finish
  exact ⟨earlier ++ later, since.append since', .append evolves evolves', same.trans same'⟩

theorem of_events {events : List Event} (elsewhere : ∀ event ∈ events, event.byHost = false)
    (since : before.Since after events) (same : after.hosts = before.hosts) :
    before.Evolves actor after := by
  refine ⟨events, since, ?_, by rw [same]; exact .refl _⟩
  rw [same]
  clear since
  induction events with
  | nil => exact .rest _ _
  | cons event rest ih =>
      have first : World.Evolves actor before.hosts.world [event] before.hosts.world :=
        .event (elsewhere event List.mem_cons_self)
      exact first.append (ih fun other member => elsewhere other (List.mem_cons_of_mem _ member))

theorem journaled (event : Event) (elsewhere : event.byHost = false) (process : MockProcess) :
    process.Evolves actor (process.journaled event) :=
  of_events (by simpa using elsewhere) (since_journaled process event) rfl

theorem usesExampleVm (evolves : before.Evolves actor after)
    (uses : before.hosts.UsesExampleVm) : after.hosts.UsesExampleVm := by
  obtain ⟨_, _, _, same⟩ := evolves
  exact same.usesExampleVm uses

end Evolves

end Process

theorem NativeEvent.byHost_eq_false (event : NativeEvent) : event.val.byHost = false := by
  obtain ⟨event, native⟩ := event
  cases event <;> first | rfl | cases native

/-- Between two states the world of the mock context came as far as the journal
tells in a history that the refusal of a callback completes. -/
def Process.Breaks (actor : Actor) (before : MockProcess) (fault : Fault)
    (after : MockProcess) : Prop :=
  ∃ events, before.Since after events ∧
    before.hosts.world.Reaches events after.hosts.world ∧
    (∀ handle function, World.Evolves actor before.hosts.world
      (events ++ [.refused handle (.hostFaulted fault function)]) after.hosts.world) ∧
    before.hosts.SameSetting after.hosts

/-- What a method of a mock context leads to: a history, which is complete only
with the refusal of the callback if the method failed. -/
def MethodEvolves {α : Type} (actor : Actor) (before : MockProcess) :
    Ending α → MockProcess → Prop
  | .returned _, after => before.Evolves actor after
  | .faulted fault, after => before.Breaks actor fault after

namespace MethodEvolves

variable {α : Type} {actor : Actor} {before middle after : MockProcess}

theorem of_evolves (evolves : before.Evolves actor after) (ending : Ending α) :
    MethodEvolves actor before ending after := by
  cases ending with
  | returned value => exact evolves
  | faulted fault =>
      obtain ⟨events, since, history, same⟩ := evolves
      exact ⟨events, since, .evolved history, fun _ _ => history.append (.event rfl), same⟩

theorem prepend {ending : Ending α} (start : before.Evolves actor middle)
    (finish : MethodEvolves actor middle ending after) :
    MethodEvolves actor before ending after := by
  cases ending with
  | returned value => exact start.trans finish
  | faulted fault =>
      obtain ⟨earlier, since, history, same⟩ := start
      obtain ⟨later, since', reaches, completes, same'⟩ := finish
      refine ⟨earlier ++ later, since.append since', .append (.evolved history) reaches,
        fun handle function => ?_, same.trans same'⟩
      rw [List.append_assoc]
      exact history.append (completes handle function)

theorem refused {fault : Fault} (evolves : before.Breaks actor fault after) (handle : Nat)
    (function : String) :
    before.Evolves actor (after.journaled (.refused handle (.hostFaulted fault function))) := by
  obtain ⟨events, since, _, completes, same⟩ := evolves
  exact ⟨_, since.append (Process.since_journaled after _), completes handle function, same⟩

end MethodEvolves

/-- Executions of nested messages evolve the world for the code of the
message. -/
def EvolvesNested (nested : Executor Unit Nat (MockContext Nat)) : Prop :=
  ∀ vm message code process, vm.IsExample → process.hosts.UsesExampleVm →
    (nested vm () message code).Ensures process fun _ after =>
      process.Evolves (.code message) after

/-- What an actor may ask for leads to changes that the actor may cause. -/
theorem Actor.MayAsk.changes_evolve {actor : Actor} {method : HostMethod}
    (asked : actor.MayAsk method) (world : World) :
    World.Evolves actor world (changeEvents (method.changes world))
      (world.applyAll (method.changes world)) := by
  cases method with
  | setStorage address key value =>
      have permitted : actor.MayCause (.writeSlot address key value) := by
        cases actor <;> exact asked
      exact .change permitted trivial
  | emitLog log =>
      have permitted : actor.MayCause (.appendLog log) := by cases actor <;> exact asked
      exact .change permitted trivial
  | accessAccount address =>
      have permitted : actor.MayCause (.warmAccount address) := by cases actor <;> trivial
      exact .change permitted trivial
  | accessStorage address key =>
      have permitted : actor.MayCause (.warmSlot address key) := by cases actor <;> exact asked
      exact .change permitted trivial
  | selfdestruct address beneficiary =>
      have mayMark : actor.MayCause (.markDestructed address) := by cases actor <;> exact asked
      have mayMove : actor.MayCause (.transfer address beneficiary (world.balance address)) := by
        cases actor <;> exact asked
      rw [HostMethod.changes, MockAction.destruction]
      split
      · exact .change mayMark trivial
      · exact (World.Evolves.change mayMove (Nat.le_refl _)).append (.change mayMark trivial)
  | _ => exact .rest actor world

namespace MockAction

variable {nested : Executor Unit Nat (MockContext Nat)} {before after : MockProcess}
  {actor : Actor} {vm : Vm Nat} {message : Message} {ending : Ending ExecutionResult}

/-- A nested message that does not succeed leaves the world as it was. -/
def Restores (before : MockProcess) : Ending ExecutionResult → MockProcess → Prop
  | .returned result, after => result.isSuccess = false → after.hosts.world = before.hosts.world
  | .faulted _, _ => True

section Executed

variable {executing : Actor}

theorem rolledBack_of_executed (executed : (startedFrom before message).Evolves executing after) :
    after.hosts.world.rolledBack before.hosts.world = before.hosts.world := by
  obtain ⟨_, _, history, _⟩ := executed
  rw [startedFrom_world] at history
  exact World.rolledBack_eq ((World.newestLogs_applyAll _ _).trans history.newestLogs)

theorem kept_evolves (asked : actor.MayAsk (.call message))
    (paid : ¬ message.Unpaid before.hosts.world)
    (executed : (startedFrom before message).Evolves
      (.code (message.started before.hosts.world)) after) (output : Bytes) :
    before.Evolves actor
      ((after.changedAll (message.closing before.hosts.world output)).journaled
        (.frameClosed true)) := by
  obtain ⟨inner, since, evolves, same⟩ := executed
  rw [startedFrom_world] at evolves
  refine ⟨_, since_kept since output, ?_, ?_⟩
  · change World.Evolves actor before.hosts.world _ (after.changedAll _).hosts.world
    rw [Process.changedAll_world]
    exact .kept output asked paid evolves
  · exact (sameSetting_startedFrom.trans same).trans (Process.sameSetting_changedAll after _)

theorem undone_evolves (asked : actor.MayAsk (.call message))
    (paid : ¬ message.Unpaid before.hosts.world)
    (executed : (startedFrom before message).Evolves
      (.code (message.started before.hosts.world)) after) :
    before.Evolves actor
      ((after.rolledBack before.hosts.world).journaled (.frameClosed false)) := by
  -- The logs are truncated instead of restored, which comes to the same because
  -- an execution only appends to them.
  have restored := rolledBack_of_executed executed
  obtain ⟨inner, since, evolves, same⟩ := executed
  rw [startedFrom_world] at evolves
  refine ⟨_, since_undone since, ?_, (sameSetting_startedFrom.trans same).withWorld _⟩
  change World.Evolves actor before.hosts.world _ (after.hosts.world.rolledBack _)
  rw [restored]
  exact .undone asked paid evolves

theorem abandoned_breaks (asked : actor.MayAsk (.call message))
    (paid : ¬ message.Unpaid before.hosts.world)
    (executed : (startedFrom before message).Evolves
      (.code (message.started before.hosts.world)) after) (fault : Fault) :
    before.Breaks actor fault after := by
  obtain ⟨inner, since, evolves, same⟩ := executed
  rw [startedFrom_world] at evolves
  have opening := World.Reaches.changes (Message.coversAll_opening paid)
  exact ⟨_, since_startedFrom.append since, (opening.opened message).append (.evolved evolves),
    fun handle function => .abandoned handle fault function asked paid evolves,
    sameSetting_startedFrom.trans same⟩

end Executed

theorem unpaid_evolves (asked : actor.MayAsk (.call message))
    (unpaid : message.Unpaid before.hosts.world) :
    before.Evolves actor
      (((countedFrom before message).rolledBack before.hosts.world).journaled
        (.frameClosed false)) := by
  refine ⟨_, since_unpaid, ?_,
    (Process.sameSetting_changedAll (before.journaled _) message.counting).withWorld _⟩
  change World.Evolves actor before.hosts.world _
    ((countedFrom before message).hosts.world.rolledBack _)
  rw [countedFrom_rolledBack]
  exact .unpaid asked unpaid

theorem overflown_breaks (asked : actor.MayAsk (.call message))
    (overflows : message.Overflows before.hosts.world) (fault : Fault) :
    before.Breaks actor fault (before.journaled (.frameOpened message)) :=
  ⟨_, Process.since_journaled before _, .opened message (.rest _),
    fun handle function => .overflown handle fault function asked overflows, .refl _⟩

/-- A nested message opens a frame, and leaves nothing behind unless it
succeeds. -/
theorem FrameEnds.evolves (nestedEvolves : EvolvesNested nested) (isExample : vm.IsExample)
    (uses : before.hosts.UsesExampleVm) (asked : actor.MayAsk (.call message))
    (ends : FrameEnds nested before vm message ending after) :
    MethodEvolves actor before ending after ∧ Restores before ending after := by
  have usesStarted : (startedFrom before message).hosts.UsesExampleVm :=
    sameSetting_startedFrom.usesExampleVm uses
  have nestedEnsures := nestedEvolves vm (message.started before.hosts.world)
    (message.startedCode (before.hosts.world.applyAll (message.opening before.hosts.world)))
    (startedFrom before message) isExample usesStarted
  cases ends with
  | overflown overflows =>
      exact ⟨overflown_breaks asked overflows _, trivial⟩
  | unpaid unpaid => exact ⟨unpaid_evolves asked unpaid, fun _ => countedFrom_rolledBack⟩
  | abandoned paid executed =>
      have evolves := nestedEnsures _ _ executed
      exact ⟨abandoned_breaks asked paid evolves _, trivial⟩
  | undone paid executed =>
      have evolves := nestedEnsures _ _ executed
      exact ⟨undone_evolves asked paid evolves, fun _ => rolledBack_of_executed evolves⟩
  | @kept result _ paid executed succeeded =>
      have evolves := nestedEnsures _ _ executed
      refine ⟨kept_evolves asked paid evolves result.output, fun unsuccessful => ?_⟩
      rw [message.isSuccess_answered, succeeded] at unsuccessful
      cases unsuccessful

theorem CallEnds.evolves (nestedEvolves : EvolvesNested nested)
    (uses : before.hosts.UsesExampleVm) (asked : actor.MayAsk (.call message))
    (ends : CallEnds nested before message ending after) :
    MethodEvolves actor before ending after ∧ Restores before ending after := by
  have remembered : before.Evolves actor (before.withCall message) :=
    ⟨[], Process.since_nil rfl, .rest _ _, ⟨rfl, rfl, rfl⟩⟩
  cases ends with
  | failing fault => exact ⟨.of_evolves (.refl actor before) _, trivial⟩
  | unserved => exact ⟨.of_evolves remembered _, fun _ => rfl⟩
  | @framed vm _ _ found frame =>
      have usesCalled : (before.withCall message).hosts.UsesExampleVm := uses
      obtain ⟨evolves, restores⟩ := frame.evolves nestedEvolves (uses vm found) usesCalled asked
      exact ⟨.prepend remembered evolves, restores⟩

/-- Whatever method a mock context serves, its world evolves. -/
theorem hosting_evolves (nestedEvolves : EvolvesNested nested)
    (uses : before.hosts.UsesExampleVm) {method : HostMethod} (asked : actor.MayAsk method) :
    (carryOut nested (MockContext.hosting () method)).Ensures before
      (MethodEvolves actor before) := by
  refine (hosting_serves nested before method).imp ?_
  intro ending after serves
  cases serves with
  | still => exact .of_evolves (.refl actor before) ending
  | changed answer =>
      refine ⟨_, Process.since_changedAll before _, ?_, Process.sameSetting_changedAll before _⟩
      rw [Process.changedAll_world]
      exact asked.changes_evolve before.hosts.world
  | called ends => exact (ends.evolves nestedEvolves uses asked).1

end MockAction

section Callbacks

/-- The message that native code sends when it performs a call in a frame for
another. -/
def Message.nested (message : Message) (kind : CallKind) (address : Address) (granted : Int)
    (value salt : Word) (input : Bytes) : Message where
  kind := kind
  isStatic := message.isStatic
  depth := message.depth + 1
  gas := Int64.ofInt granted
  recipient :=
    match kind with
    | .call => address
    | .callCode | .delegateCall => message.recipient
    | .create | .create2 => .zero 20
  sender :=
    match kind with
    | .delegateCall => message.sender
    | _ => message.recipient
  input := input
  value :=
    match kind with
    | .delegateCall => message.value
    | _ => value
  salt := salt
  codeAddress := address

theorem Message.isStatic_toNative (message : Message) :
    message.toNative.isStatic = message.isStatic := by
  have crossed := toMessage_toNative message
  simp only [NativeMessage.toMessage, Message.toNative, CallKind.ofRaw_raw, Except.map,
    Except.ok.injEq] at crossed
  exact congrArg Message.isStatic crossed

theorem Message.sends_nested {message : Message} {kind : CallKind} {granted : Int}
    {value : Word} (address : Address) (salt : Word) (input : Bytes)
    (granted_nonneg : 0 ≤ granted) (granted_lt : granted < startingGas message.toNative)
    (granted_fits : granted ≤ Int64.maxValue.toInt) (shallow : message.depth < maxCallDepth)
    (readOnly : message.isStatic = true →
      kind.isCreate = false ∧ (kind = .call → value = .zero 32)) :
    message.Sends (message.nested kind address granted value salt input) := by
  have fits : granted < 2 ^ 63 := by
    have most : Int64.maxValue.toInt = 2 ^ 63 - 1 := by decide
    omega
  have gas_eq : (Int64.ofInt granted).toInt = granted :=
    Int64.toInt_ofInt_of_le (by omega) fits
  have starting : startingGas message.toNative = max message.gas.toInt 0 := rfl
  exact {
    isStatic_eq := rfl
    depth_lt := shallow
    depth_eq := rfl
    gas_nonneg := by simp only [nested, gas_eq]; exact granted_nonneg
    gas_lt := by simp only [nested, gas_eq]; omega
    sender_eq := rfl
    recipient_eq := rfl
    value_eq := fun delegates => by
      have kind_eq : kind = .delegateCall := delegates
      simp only [nested, kind_eq]
    readOnly := fun static => by
      obtain ⟨creates, unvalued⟩ := readOnly static
      refine ⟨creates, fun calls => ?_⟩
      have kind_eq : kind = .call := calls
      simp only [nested, kind_eq]
      exact unvalued kind_eq }

theorem decode_call (message : Message) :
    (Request.call (some message.toNative)).decode =
      .ok ⟨.call message, ExecutionResult.toNative⟩ := by
  simp [Request.decode, Request.followMessage, Request.follow, toMessage_toNative, bind, pure,
    Except.bind, Except.pure]

theorem decode_emitLog (address : Address) (data : Bytes) (topics : List Word) :
    (Request.emitLog (some address) (.lend data) (.live topics)).decode =
      .ok ⟨.emitLog ⟨address, data, topics⟩, id⟩ := by
  cases data <;> rfl

/-- Wherever a request of a frame is delivered, it asks for a method that the code of
the frame may ask for. -/
theorem mayAsk_of_decode {provider : Provider} {verbosity handle : Nat} {message : Message}
    {request : Request}
    (asked : (ExampleVm.frameOf provider verbosity handle message).MayAsk
      (startingGas message.toNative) request)
    {delivery : request.Delivery} (decoded : request.decode = .ok delivery) :
    (Actor.code message).MayAsk delivery.method := by
  have static_eq := message.isStatic_toNative
  cases asked with
  | setStorage key value writable =>
      cases decoded
      exact ⟨rfl, static_eq.symm.trans writable⟩
  | selfdestruct beneficiary writable =>
      cases decoded
      exact ⟨rfl, static_eq.symm.trans writable⟩
  | emitLog topics writable =>
      cases (decode_emitLog _ _ _).symm.trans decoded
      exact ⟨rfl, static_eq.symm.trans writable⟩
  | call kind address granted value salt input granted_nonneg granted_lt fits shallow readOnly =>
      cases (decode_call (message.nested kind address granted value salt input)).symm.trans decoded
      exact message.sends_nested address salt input granted_nonneg granted_lt fits shallow
        fun static => readOnly (static_eq.trans static)
  | _ =>
      cases decoded
      trivial

end Callbacks

section Executions

variable {nested : Executor Unit Nat (MockContext Nat)}

/-- A callback of the code of a message evolves the world for this code. -/
theorem deliver_evolves (nestedEvolves : EvolvesNested nested) {provider : Provider}
    {verbosity own handle : Nat} {message : Message} {request : Request} {process : MockProcess}
    (asked : (ExampleVm.frameOf provider verbosity own message).Asks
      (startingGas message.toNative) handle request)
    (uses : process.hosts.UsesExampleVm) :
    (deliver MockContext.hosting nested handle request).Ensures process fun _ after =>
      process.Evolves (.code message) after := by
  have requested : process.Evolves (.code message)
      (process.journaled (.requested request.name handle)) := .journaled _ rfl _
  refine ensures_deliver (requested.trans (.journaled _ rfl _))
    (fun error _ => requested.trans (.journaled _ rfl _)) ?_
  intro host delivery _ decoded
  have announced : process.Evolves (.code message)
      ((process.journaled (.requested request.name handle)).announced delivery.method) := by
    refine requested.trans (.of_events ?_ (Process.since_announced _ delivery.method)
      (Process.announced_hosts _ _))
    intro event member
    obtain ⟨inner, rfl⟩ := Process.mem_announcing member
    rfl
  have usesAnnounced : ((process.journaled (.requested request.name handle)).announced
      delivery.method).hosts.UsesExampleVm := by simpa using uses
  refine (MockAction.hosting_evolves nestedEvolves usesAnnounced
    (mayAsk_of_decode asked.2 decoded)).imp ?_
  intro ending after evolves
  cases ending with
  | returned answer => exact announced.trans evolves
  | faulted fault =>
      exact announced.trans (MethodEvolves.refused evolves handle request.name.text)

def ExampleVm.nativeExecute (provider : Provider) : NativeExecute Nat :=
  fun verbosity arguments => (verbosity, execute provider (some verbosity) arguments)

theorem Vm.IsExample.executes {vm : Vm Nat} (isExample : vm.IsExample) :
    ∃ provider, vm.native.execute = some (ExampleVm.nativeExecute provider) := by
  obtain ⟨provider, native_eq⟩ := isExample
  exact ⟨provider, by rw [native_eq]; rfl⟩

theorem begun_evolves (actor : Actor) (process : MockProcess) (vm : Vm Nat)
    (run : NativeExecute Nat) (message : Message) (code : Bytes) :
    process.Evolves actor (process.begun vm run () message code) := by
  refine .of_events ?_ (process.since_begun vm run () message code) rfl
  intro event member
  rcases Process.mem_beginning member with rfl | rfl | ⟨_, _, _, _, rfl⟩ <;> rfl

theorem concluded_evolves (actor : Actor) (process : MockProcess) (handle : Nat)
    (native : NativeResult) :
    process.Evolves actor (process.concluded handle native).2 := by
  refine .of_events ?_ (process.since_concluded handle native) (process.concluded_hosts _ _)
  intro event member
  rcases Process.mem_concluding member with rfl | ⟨_, rfl⟩ | rfl | rfl <;> rfl

/-- Whatever the example VM executes, the world evolves for the executed code. -/
theorem execute_evolves (limit : Nat) : EvolvesNested (execute MockContext.hosting limit) := by
  induction limit with
  | zero =>
      intro vm message code process _ _ ending after finished
      cases finished
  | succ limit ih =>
      intro vm message code process isExample uses
      obtain ⟨provider, executes⟩ := isExample.executes
      rw [execute, ensures_executeWith executes]
      -- Callbacks are served with a limit that is lower by one, for which the
      -- induction hypothesis covers the executions that are nested in them.
      let holds (middle : MockProcess) : Prop :=
        process.Evolves (.code message) middle ∧ middle.hosts.UsesExampleVm
      have start : holds (process.begun vm (ExampleVm.nativeExecute provider) () message code) :=
        ⟨begun_evolves _ process vm _ message code, uses⟩
      have obeys := ExampleVm.execute_obeys provider (process.privateState vm)
        process.registry.nextHandle message code
      have noted (middle : MockProcess) (event : NativeEvent) (held : holds middle) :
          holds (middle.journaled event.val) :=
        ⟨held.1.trans (.journaled _ event.byHost_eq_false _), held.2⟩
      refine (runNative_keeps noted ?_ obeys start).imp ?_
      · intro middle handle request asked held
        refine (deliver_evolves ih asked held.2).imp fun answer after evolves => ?_
        exact ⟨held.1.trans evolves, evolves.usesExampleVm held.2⟩
      · intro native middle held
        exact held.2.1.trans (concluded_evolves _ middle _ native)

end Executions

end VmBridge
