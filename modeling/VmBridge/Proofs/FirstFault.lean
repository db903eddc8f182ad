import VmBridge.Proofs.ExecutionTermination
import VmBridge.Proofs.ParkedFaults

/-!
# The first fault surfaces

Code of the example VM makes callbacks with its own handle only, and a mock
context raises the fault of a nested execution again.  So the fault with which
an execution ends is the first one that any host in the whole tree of nested
executions reported; all later ones are dropped.
-/

namespace VmBridge

open HostAction

def Ending.fault? {α : Type} : Ending α → Option Fault
  | .returned _ => none
  | .faulted fault => some fault

theorem Ending.Concludes.fault?_eq {handle : Nat} {callbacks : List Event}
    {native : NativeResult} {ending : Ending ExecutionResult}
    (concludes : Concludes handle callbacks native ending) :
    ending.fault? = callbacks.findSome? (Event.faultUnder? handle) := by
  cases concludes with
  | faulted first => exact first.symm
  | returned faultless => exact faultless.symm

namespace Event

/-- The first fault that some events report. -/
def firstFault? (events : List Event) : Option Fault := events.findSome? hostFault?

/-- Of the handles below a number none has a fault reported. -/
def FreshFaults (bound : Nat) (events : List Event) : Prop :=
  ∀ handle < bound, events.findSome? (faultUnder? handle) = none

theorem firstFault?_append (events others : List Event) :
    firstFault? (events ++ others) = (firstFault? events).or (firstFault? others) :=
  List.findSome?_append

theorem FreshFaults.append {bound : Nat} {events others : List Event}
    (first : FreshFaults bound events) (second : FreshFaults bound others) :
    FreshFaults bound (events ++ others) := by
  intro handle less
  rw [List.findSome?_append, first handle less, second handle less]
  rfl

theorem FreshFaults.mono {bound less : Nat} {events : List Event}
    (fresh : FreshFaults bound events) (le : less ≤ bound) : FreshFaults less events :=
  fun handle below => fresh handle (Nat.lt_of_lt_of_le below le)

/-- Events report no fault at all. -/
def Faultless (events : List Event) : Prop := ∀ event ∈ events, event.hostFault? = none

theorem Faultless.firstFault?_eq {events : List Event} (faultless : Faultless events) :
    firstFault? events = none :=
  List.findSome?_eq_none_iff.mpr faultless

theorem faultUnder?_eq_none {event : Event} (faultless : event.hostFault? = none)
    (handle : Nat) : event.faultUnder? handle = none := by
  cases event with
  | refused other error =>
      change error.hostFault? = none at faultless
      rw [faultUnder?, faultless, ite_self]
  | _ => rfl

theorem Faultless.faultUnder?_eq {events : List Event} (faultless : Faultless events)
    (handle : Nat) : events.findSome? (faultUnder? handle) = none :=
  List.findSome?_eq_none_iff.mpr fun event member =>
    faultUnder?_eq_none (faultless event member) handle

theorem Faultless.fresh {events : List Event} (faultless : Faultless events) (bound : Nat) :
    FreshFaults bound events :=
  fun handle _ => faultless.faultUnder?_eq handle

theorem faultless_nil : Faultless [] := by simp [Faultless]

theorem faultless_cons {event : Event} {events : List Event} (first : event.hostFault? = none)
    (rest : Faultless events) : Faultless (event :: events) := by
  intro other member
  rcases List.mem_cons.mp member with rfl | later
  · exact first
  · exact rest other later

theorem Faultless.append {events others : List Event} (first : Faultless events)
    (second : Faultless others) : Faultless (events ++ others) := by
  intro event member
  rcases List.mem_append.mp member with earlier | later
  · exact first event earlier
  · exact second event later

theorem faultless_changeEvents (changes : List Change) : Faultless (changeEvents changes) := by
  intro event member
  obtain ⟨change, _, rfl⟩ := List.mem_map.mp member
  rfl

end Event

namespace Process

variable {κ ν σ : Type}

theorem faultless_beginning (vm : Vm ν) (message : Message) (code : Bytes) (handle : Nat) :
    Event.Faultless (beginning vm message code handle) := by
  intro event member
  rcases mem_beginning member with rfl | rfl | ⟨_, _, _, _, rfl⟩ <;> rfl

theorem faultless_concluding (middle : Process κ ν σ) (handle : Nat) (native : NativeResult) :
    Event.Faultless (middle.concluding handle native) := by
  intro event member
  rcases mem_concluding member with rfl | ⟨_, rfl⟩ | rfl | rfl <;> rfl

end Process

/-- Between two states only new handles had faults reported, and no other fault came
before the one of the ending. -/
def Relays {α : Type} (before : MockProcess) (ending : Ending α) (after : MockProcess) : Prop :=
  ∃ events, before.Since after events ∧
    Event.FreshFaults before.registry.nextHandle events ∧
    (Event.firstFault? events).or ending.fault? = ending.fault?

/-- Nested executions end with the first fault that is reported during them. -/
def RelaysNested (nested : Executor Unit Nat (MockContext Nat)) : Prop :=
  ∀ vm message code process, vm.IsExample → process.hosts.UsesExampleVm →
    (nested vm () message code).Ensures process fun ending after =>
      ∃ events, process.Since after events ∧
        Event.FreshFaults process.registry.nextHandle events ∧
        Event.firstFault? events = ending.fault?

theorem relays_of_faultless {α : Type} {before after : MockProcess} {events : List Event}
    (since : before.Since after events) (faultless : Event.Faultless events)
    (ending : Ending α) : Relays before ending after :=
  ⟨events, since, faultless.fresh _, by rw [faultless.firstFault?_eq, Option.none_or]⟩

/-- Around a nested execution that ends with the first fault during it nothing else
is reported. -/
theorem relays_around {α : Type} {before after : MockProcess} {ending : Ending α}
    {front inner back : List Event} (since : before.Since after (front ++ inner ++ back))
    (frontFaultless : Event.Faultless front) (backFaultless : Event.Faultless back)
    (fresh : Event.FreshFaults before.registry.nextHandle inner)
    (first : Event.firstFault? inner = ending.fault?) : Relays before ending after := by
  refine ⟨_, since, ((frontFaultless.fresh _).append fresh).append (backFaultless.fresh _), ?_⟩
  rw [Event.firstFault?_append, Event.firstFault?_append, frontFaultless.firstFault?_eq,
    backFaultless.firstFault?_eq, first, Option.none_or, Option.or_none, Option.or_self]

namespace MockAction

variable {nested : Executor Unit Nat (MockContext Nat)} {before after : MockProcess} {vm : Vm Nat}
  {message : Message} {ending : Ending ExecutionResult}

theorem FrameEnds.relays (nestedRelays : RelaysNested nested) (isExample : vm.IsExample)
    (uses : before.hosts.UsesExampleVm)
    (ends : FrameEnds nested before vm message ending after) : Relays before ending after := by
  have usesStarted : (startedFrom before message).hosts.UsesExampleVm :=
    sameSetting_startedFrom.usesExampleVm uses
  have nestedEnsures := nestedRelays vm (message.started before.hosts.world)
    (message.startedCode (before.hosts.world.applyAll (message.opening before.hosts.world)))
    (startedFrom before message) isExample usesStarted
  rw [startedFrom_registry] at nestedEnsures
  have front (changes : List Change) :
      Event.Faultless (.frameOpened message :: changeEvents changes) :=
    Event.faultless_cons rfl (Event.faultless_changeEvents changes)
  have closed {kept : Bool} : Event.Faultless [.frameClosed kept] :=
    Event.faultless_cons rfl Event.faultless_nil
  cases ends with
  | overflown => exact relays_of_faultless (Process.since_journaled before _) (front []) _
  | unpaid => exact relays_of_faultless since_unpaid ((front _).append closed) _
  | abandoned _ executed =>
      obtain ⟨inner, since, fresh, first⟩ := nestedEnsures _ _ executed
      have happened := since_startedFrom.append since
      rw [← List.append_nil inner, ← List.append_assoc] at happened
      exact relays_around happened (front _) Event.faultless_nil fresh first
  | undone _ executed =>
      obtain ⟨inner, since, fresh, first⟩ := nestedEnsures _ _ executed
      exact relays_around (since_undone since) (front _) closed fresh first
  | @kept result _ _ executed =>
      obtain ⟨inner, since, fresh, first⟩ := nestedEnsures _ _ executed
      have happened := since_kept since result.output
      rw [List.append_assoc _ (changeEvents _)] at happened
      exact relays_around happened (front _)
        ((Event.faultless_changeEvents _).append closed) fresh first

theorem CallEnds.relays (nestedRelays : RelaysNested nested) (uses : before.hosts.UsesExampleVm)
    (ends : CallEnds nested before message ending after) : Relays before ending after := by
  cases ends with
  | failing | unserved =>
      exact relays_of_faultless (Process.since_nil rfl) Event.faultless_nil _
  | @framed vm _ _ found frame =>
      have usesCalled : (before.withCall message).hosts.UsesExampleVm := uses
      have relays := frame.relays nestedRelays (uses vm found) usesCalled
      exact relays

/-- Whatever method a mock context serves, it relays the first fault. -/
theorem hosting_relays (nestedRelays : RelaysNested nested) (uses : before.hosts.UsesExampleVm)
    (method : HostMethod) :
    (carryOut nested (MockContext.hosting () method)).Ensures before (Relays before) := by
  refine (hosting_serves nested before method).imp ?_
  intro ending after serves
  cases serves with
  | still => exact relays_of_faultless (Process.since_nil rfl) Event.faultless_nil ending
  | changed answer =>
      exact relays_of_faultless (Process.since_changedAll before _)
        (Event.faultless_changeEvents _) _
  | called ends => exact ends.relays nestedRelays uses

end MockAction

namespace Event

/-- The first fault that some events report is the first one under a handle, and
none is reported under a handle below. -/
structure OwnFaults (handle : Nat) (events : List Event) : Prop where
  fresh : FreshFaults handle events
  first_eq : firstFault? events = events.findSome? (faultUnder? handle)

namespace OwnFaults

variable {handle : Nat} {events others : List Event}

theorem of_faultless (faultless : Faultless events) : OwnFaults handle events where
  fresh := faultless.fresh handle
  first_eq := by rw [faultless.firstFault?_eq, faultless.faultUnder?_eq]

theorem append (first : OwnFaults handle events) (second : OwnFaults handle others) :
    OwnFaults handle (events ++ others) where
  fresh := first.fresh.append second.fresh
  first_eq := by
    rw [firstFault?_append, List.findSome?_append, first.first_eq, second.first_eq]

/-- Events that report no fault under the handles so far, followed by a report under
the newest of them. -/
theorem reported {fault : Fault} {function : String}
    (fresh : FreshFaults (handle + 1) events)
    (first : (firstFault? events).or (some fault) = some fault) :
    OwnFaults handle (events ++ [.refused handle (.hostFaulted fault function)]) where
  fresh := by
    refine (fresh.mono (Nat.le_succ handle)).append fun other less => ?_
    simp [faultUnder?, (Nat.ne_of_lt less).symm]
  first_eq := by
    rw [firstFault?_append, List.findSome?_append, fresh handle (Nat.lt_succ_self handle)]
    simpa [firstFault?, faultUnder?, hostFault?, CallbackError.hostFault?] using first

end OwnFaults

end Event

section Executions

variable {nested : Executor Unit Nat (MockContext Nat)} {handle : Nat}

/-- A callback of an execution's own code reports a fault only if it is the first
one of all. -/
theorem deliver_ownFaults (nestedRelays : RelaysNested nested) {process : MockProcess}
    {request : Request} (known : handle < process.registry.nextHandle)
    (uses : process.hosts.UsesExampleVm) :
    (deliver MockContext.hosting nested handle request).Ensures process fun _ after =>
      ∃ events, process.Since after events ∧ Event.OwnFaults handle events := by
  have requested : process.Since (process.journaled (.requested request.name handle))
      [.requested request.name handle] := Process.since_journaled _ _
  have turnedDown (error : CallbackError) (faultless : error.hostFault? = none) :
      Event.Faultless [.requested request.name handle, .refused handle error] :=
    Event.faultless_cons rfl (Event.faultless_cons faultless Event.faultless_nil)
  refine ensures_deliver
    ⟨_, requested.append (Process.since_journaled _ _), .of_faultless (turnedDown _ rfl)⟩
    (fun error undecoded => ⟨_, requested.append (Process.since_journaled _ _),
      .of_faultless (turnedDown error (request.checksOnly_decode error undecoded))⟩) ?_
  intro host delivery _ _
  let asked := (process.journaled (.requested request.name handle)).announced delivery.method
  have announced : process.Since asked
      ([.requested request.name handle] ++ Process.announcing delivery.method) :=
    requested.append (Process.since_announced _ delivery.method)
  have quiet : Event.Faultless
      ([.requested request.name handle] ++ Process.announcing delivery.method) := by
    refine Event.faultless_cons rfl fun event member => ?_
    obtain ⟨message, rfl⟩ := Process.mem_announcing member
    rfl
  have usesAsked : asked.hosts.UsesExampleVm := by simpa [asked] using uses
  refine (MockAction.hosting_relays nestedRelays usesAsked delivery.method).imp ?_
  rintro ending after ⟨events, since, fresh, first⟩
  have freshBelow : Event.FreshFaults (handle + 1) events := by
    have same : asked.registry = process.registry := Process.announced_registry _ _
    rw [same] at fresh
    exact fresh.mono known
  cases ending with
  | returned answer =>
      have none_first : Event.firstFault? events = none := by simpa [Ending.fault?] using first
      refine ⟨_, announced.append since, .append (.of_faultless quiet) ?_⟩
      refine ⟨freshBelow.mono (Nat.le_succ handle), ?_⟩
      rw [none_first, freshBelow handle (Nat.lt_succ_self handle)]
  | faulted fault =>
      have parked : after.Since (after.parked handle fault request.name.text)
          [.refused handle (.hostFaulted fault request.name.text)] := rfl
      exact ⟨_, announced.append (since.append parked),
        .append (.of_faultless quiet) (.reported freshBelow first)⟩

theorem NativeEvent.hostFault?_eq_none (event : NativeEvent) : event.val.hostFault? = none := by
  obtain ⟨event, native⟩ := event
  cases event <;> first | rfl | cases native

/-- The code of the example VM reports faults under its own handle only, and of
these the first one is the first of all. -/
theorem runNative_ownFaults (limit : Nat)
    (nestedRelays : RelaysNested (execute MockContext.hosting limit)) {provider : Provider}
    {verbosity : Nat} {message : Message} {code : Bytes} {begun : MockProcess}
    (known : handle < begun.registry.nextHandle)
    (uses : begun.hosts.UsesExampleVm) :
    (runNative MockContext.hosting (execute MockContext.hosting limit)
      (ExampleVm.execute provider (some verbosity) (invocation handle message code))).Ensures
        begun fun _ middle =>
          ∃ events, begun.Since middle events ∧ Event.OwnFaults handle events := by
  -- A later callback needs the earlier handle to be taken, or else a nested
  -- execution could get this handle for itself.
  let holds (middle : MockProcess) : Prop :=
    (∃ events, begun.Since middle events ∧ Event.OwnFaults handle events) ∧
      handle < middle.registry.nextHandle ∧ middle.hosts.UsesExampleVm
  have start : holds begun :=
    ⟨⟨[], Process.since_nil rfl, .of_faultless Event.faultless_nil⟩, known, uses⟩
  have noted (middle : MockProcess) (event : NativeEvent) (held : holds middle) :
      holds (middle.journaled event.val) := by
    obtain ⟨⟨events, since, own⟩, later⟩ := held
    have quiet : Event.Faultless [event.val] :=
      Event.faultless_cons event.hostFault?_eq_none Event.faultless_nil
    exact ⟨⟨_, since.append (Process.since_journaled middle _),
      own.append (.of_faultless quiet)⟩, later⟩
  have obeys := ExampleVm.execute_obeys provider verbosity handle message code
  refine (runNative_keeps noted ?_ obeys start).imp fun _ middle held => held.2.1
  rintro middle other request asked ⟨⟨events, since, own⟩, knownThen, usesThen⟩
  intro answer after answered
  have same : other = handle := asked.1
  have evolves := deliver_evolves (execute_evolves limit) asked usesThen answer after answered
  subst same
  obtain ⟨later, since', own'⟩ :=
    deliver_ownFaults nestedRelays knownThen usesThen answer after answered
  obtain ⟨_, keeps⟩ := deliver_keeps (execute_keeps MockContext.hosting limit) other request
    knownThen answer after answered
  exact ⟨⟨_, since.append since', own.append own'⟩,
    Nat.lt_of_lt_of_le knownThen keeps.nextHandle_le, evolves.usesExampleVm usesThen⟩

/-- Executions of the example VM end with the first fault of all. -/
theorem execute_relays (limit : Nat) : RelaysNested (execute MockContext.hosting limit) := by
  induction limit with
  | zero =>
      intro vm message code process _ _ ending after finished
      cases finished
  | succ limit ih =>
      intro vm message code process isExample uses
      obtain ⟨provider, executes⟩ := isExample.executes
      rw [execute, ensures_executeWith executes]
      intro native middle ran
      let begun := process.begun vm (ExampleVm.nativeExecute provider) () message code
      have known : process.registry.nextHandle < begun.registry.nextHandle := Nat.lt_succ_self _
      obtain ⟨callbacks, keeps⟩ :=
        runNative_keepsHandle (execute_keeps MockContext.hosting limit) _ known native middle ran
      obtain ⟨events, since, own⟩ := runNative_ownFaults limit ih known uses native middle ran
      rw [since.unique keeps.since] at own
      have happened := ((process.since_begun vm _ () message code).append keeps.since).append
        (middle.since_concluded process.registry.nextHandle native)
      have front := Process.faultless_beginning vm message code process.registry.nextHandle
      have back := middle.faultless_concluding process.registry.nextHandle native
      refine ⟨_, happened, ((front.fresh _).append own.fresh).append (back.fresh _), ?_⟩
      rw [Event.firstFault?_append, Event.firstFault?_append, front.firstFault?_eq,
        back.firstFault?_eq, Option.none_or, Option.or_none, own.first_eq,
        (concluded_executes keeps native).concludes.fault?_eq]

end Executions

namespace MockContext

/-- An execution from outside ends with the first fault of all. -/
theorem run_firstFault {limit : Nat} {message : Message} {before : MockProcess}
    (uses : before.hosts.UsesExampleVm) :
    (run limit message).Ensures before fun ending after =>
      ∃ events, before.Since after events ∧ ending.fault? = Event.firstFault? events := by
  cases found : before.hosts.vm with
  | none =>
      rw [Bridge.ensures_of_apply (run_of_no_vm found)]
      exact ⟨[], Process.since_nil rfl, rfl⟩
  | some vm =>
      rw [Bridge.ensures_congr (run_of_vm found)]
      refine (execute_relays limit vm message _ before (uses vm found) uses).imp ?_
      rintro ending after ⟨events, since, _, first⟩
      exact ⟨events, since, first.symm⟩

end MockContext

/-- Whatever native code does with whatever handles, an execution ends with the first
fault that was reported under its handle, or else with its copied result, and
the result is released in between; a callback reports a fault exactly if its
host method failed with it.  In a mock context on the example VM the fault with
which an execution from outside ends is the first one anywhere. -/
theorem executions_end_with_firstFault :
    (∀ {κ ν σ : Type} (hosting : Hosting κ ν σ) (limit : Nat) (vm : Vm ν)
        (run : NativeExecute ν) (host : κ) (message : Message) (code : Bytes)
        (before : Process κ ν σ), vm.native.execute = some run →
      ((execute hosting (limit + 1) vm host message code).Finishes before ↔
          (runNative hosting (execute hosting limit) (before.course vm run message code)).Finishes
            (before.begun vm run host message code)) ∧
        ((execute hosting (limit + 1) vm host message code).Ensures before fun ending after =>
          ∃ callbacks native middle,
            runNative hosting (execute hosting limit) (before.course vm run message code)
                (before.begun vm run host message code) = some (native, middle) ∧
              (before.begun vm run host message code).Since middle callbacks ∧
              before.Executes vm message code after ending callbacks native) ∧
        ∀ handle request process,
          (deliver hosting (execute hosting limit) handle request).Ensures process
            fun _ after => ∀ fault,
              after.journal.head? =
                  some (.refused handle (.hostFaulted fault request.name.text)) ↔
                hostFaultOf hosting (execute hosting limit) handle request process =
                  some fault) ∧
      ∀ (limit : Nat) (message : Message) (before : MockProcess), before.hosts.UsesExampleVm →
        (message.spendableGas < limit → (MockContext.run limit message).Finishes before) ∧
          (MockContext.run limit message).Ensures before fun ending after =>
            ∃ events, before.Since after events ∧
              ending.fault? = Event.firstFault? events := by
  constructor
  · intro κ ν σ hosting limit vm run host message code before executes
    obtain ⟨finishes, concludes⟩ :=
      execute_concludes hosting limit executes host message code before
    exact ⟨finishes, concludes, deliver_reports (execute_endsFaultless hosting limit)⟩
  · intro limit message before uses
    exact ⟨MockContext.run_finishes uses, MockContext.run_firstFault uses⟩

/-- A context in which no balance can be read.  The code of the first account calls
the second one, which cannot count another creation, and then asks for a
balance. -/
def failingTwice : MockContext Nat :=
  { MockContext.onExampleVm [
      (.ofNat 20 1, .running [
        .plainCall .call (.ofNat 20 2) 10 [], .balance (.ofNat 20 1)]),
      (.ofNat 20 2, { Account.running [.plainCall .create (.zero 20) 5 []] with
        nonce := 0xffffffffffffffff })] with
    faultIn := some .getBalance }

/-- A native result with a status that has no name, a created account, and output that has
to be released. -/
def endowedResult : NativeResult where
  status := 40
  gasLeft := 9
  gasRefund := -2
  output := .live [1, 2]
  release := some ⟨.bundled, [1, 2]⟩
  createAddress := .ofNat 20 5

/-- A VM whose native code tries a handle that is not its own and ends with the result. -/
def endowedVm : Vm Unit where
  identity := 0
  native :=
    { provider := .bundled
      interfaceVersion := interfaceVersion
      name := none
      version := none
      initial := ()
      hasDestroy := true
      capabilities := none
      setOption := none
      execute := some fun state arguments =>
        (state, .ask (arguments.handle + 1) (.getBlockHash 0) fun _ => .done endowedResult) }
  library := none

/-- In the failing context the fault of the creation comes first, two executions deep.  The
VM with the result returns a copy of it, made before the output was released, and only
then gives up its handle. -/
theorem ends_of_failingTwice_of_endowedVm :
    let message := Message.calling (.ofNat 20 1) 100
    let code := failingTwice.world.code (.ofNat 20 1)
    let hosting : Hosting Unit Unit Unit := fun _ _ => HostAction.fail .wordless
    let result : ExecutionResult := ⟨.unknown 40, 9, -2, [1, 2], some (.ofNat 20 5)⟩
    (MockContext.run 101 message).Finishes (.initial failingTwice) ∧
      ((MockContext.run 101 message).Ensures (.initial failingTwice) fun ending _ =>
        ending.fault? = some (.text "attempt to add with overflow")) ∧
      ((execute MockContext.hosting 101 ExampleVm.bundled () message code).Ensures
        (.initial failingTwice) fun ending after => ∃ callbacks native,
          (Process.initial failingTwice).Executes ExampleVm.bundled message code after ending
            callbacks native) ∧
      ∃ after, execute hosting 1 endowedVm () default [] (.initial ()) =
          some (.returned result, after) ∧
        (∃ callbacks, (Process.initial ()).Executes endowedVm default [] after
          (.returned result) callbacks endowedResult) ∧
        after.journal.take 4 =
          [.executed result, .unregistered 1, .released ⟨.bundled, [1, 2]⟩, .copied 1] := by
  obtain ⟨general, mock⟩ := executions_end_with_firstFault
  have uses : failingTwice.UsesExampleVm := by
    intro vm found
    cases found
    exact ExampleVm.isExample_bundled
  obtain ⟨finishes, ends⟩ := mock 101 (.calling (.ofNat 20 1) 100) (.initial failingTwice) uses
  refine ⟨finishes (by decide), fun ending after finished => ?_, ?_, ?_⟩
  · have journal : ((MockContext.run 101 (.calling (.ofNat 20 1) 100)
        (.initial failingTwice)).map fun result =>
          Event.firstFault? result.2.journal.reverse) =
        some (some (.text "attempt to add with overflow")) := by decide +kernel
    obtain ⟨events, since, first⟩ := ends ending after finished
    have events_eq : after.journal.reverse = events := by
      rw [since]
      simp [Process.initial]
    rw [finished, Option.map_some, Option.some.injEq, events_eq] at journal
    exact first.trans journal
  · obtain ⟨_, concludes, _⟩ := general MockContext.hosting 100 ExampleVm.bundled
      (ExampleVm.nativeExecute .bundled) () (.calling (.ofNat 20 1) 100)
      (failingTwice.world.code (.ofNat 20 1)) (.initial failingTwice) rfl
    refine concludes.imp ?_
    rintro ending after ⟨callbacks, native, _, _, _, executes⟩
    exact ⟨callbacks, native, executes⟩
  · obtain ⟨_, concludes, _⟩ := general (fun _ _ => HostAction.fail .wordless) 0 endowedVm _ ()
      default [] (Process.initial () : Process Unit Unit Unit) rfl
    obtain ⟨callbacks, native, middle, ran, _, executes⟩ := concludes _ _ rfl
    cases ran
    exact ⟨_, rfl, ⟨callbacks, executes⟩, rfl⟩

end VmBridge
