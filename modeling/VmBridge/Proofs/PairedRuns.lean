import VmBridge.Proofs.AlikeContexts
import VmBridge.Proofs.FirstFault

/-!
# Two runs side by side

Two computations of the bridge run side by side if they lead to related results, or
both come to no end.  `Bridge.Paired` says so, and composes as the computations do.

`NativeRun.Alike` relates courses of native code that make the same callbacks with
different handles and may note different things aside.  `runNative_paired` says that
alike courses for alike contexts lead to the same value and to alike contexts, while
the same happens but for handles and verbosities.
-/

namespace VmBridge

open HostAction

variable {κ ν σ α β γ δ : Type}

namespace Bridge

/-- Two computations lead to related results, or both come to no end. -/
def Paired (action : Bridge κ ν σ α) (before : Process κ ν σ) (other : Bridge κ ν σ β)
    (start : Process κ ν σ)
    (related : α → Process κ ν σ → β → Process κ ν σ → Prop) : Prop :=
  Option.Rel (fun result result' => related result.1 result.2 result'.1 result'.2)
    (action before) (other start)

section Rules

variable {action : Bridge κ ν σ α} {other : Bridge κ ν σ β} {before start : Process κ ν σ}
  {related : α → Process κ ν σ → β → Process κ ν σ → Prop}

theorem paired_of_apply {value : α} {value' : β} {after after' : Process κ ν σ}
    (finished : action before = some (value, after))
    (finished' : other start = some (value', after'))
    (holds : related value after value' after') : Paired action before other start related := by
  rw [Paired, finished, finished']
  exact .some holds

theorem Paired.imp {weaker : α → Process κ ν σ → β → Process κ ν σ → Prop}
    (paired : Paired action before other start related)
    (weaken : ∀ value after value' after', related value after value' after' →
      weaker value after value' after') :
    Paired action before other start weaker := by
  rw [Paired] at paired ⊢
  generalize action before = result, other start = result' at paired ⊢
  cases paired with
  | some holds => exact .some (weaken _ _ _ _ holds)
  | none => exact .none

/-- What each of two computations ensures may be used beside what relates them. -/
theorem Paired.and_ensures {holds : α → Process κ ν σ → Prop} {holds' : β → Process κ ν σ → Prop}
    (paired : Paired action before other start related) (ensured : action.Ensures before holds)
    (ensured' : other.Ensures start holds') :
    Paired action before other start fun value after value' after' =>
      related value after value' after' ∧ holds value after ∧ holds' value' after' := by
  rw [Paired] at paired ⊢
  rw [Ensures] at ensured ensured'
  generalize action before = result, other start = result' at paired ensured ensured' ⊢
  cases paired with
  | some related => exact .some ⟨related, ensured _ _ rfl, ensured' _ _ rfl⟩
  | none => exact .none

theorem paired_bind {next : α → Bridge κ ν σ γ} {next' : β → Bridge κ ν σ δ}
    {ending : γ → Process κ ν σ → δ → Process κ ν σ → Prop}
    (paired : Paired action before other start fun value middle value' middle' =>
      Paired (next value) middle (next' value') middle' ending) :
    Paired (action >>= next) before (other >>= next') start ending := by
  rw [Paired] at paired ⊢
  rw [bind_apply, bind_apply]
  generalize action before = result, other start = result' at paired ⊢
  cases paired with
  | some rest => exact rest
  | none => exact .none

/-- Two executions run side by side if their native code does. -/
theorem paired_executeWith {hosting : Hosting κ ν σ} {nested : Executor κ ν σ} {vm vm' : Vm ν}
    {run run' : NativeExecute ν} (executes : vm.native.execute = some run)
    (executes' : vm'.native.execute = some run') {host host' : κ} {message message' : Message}
    {code code' : Bytes}
    {ends : Ending ExecutionResult → Process κ ν σ → Ending ExecutionResult → Process κ ν σ → Prop}
    (paired : Paired (runNative hosting nested (before.course vm run message code))
      (before.begun vm run host message code)
      (runNative hosting nested (start.course vm' run' message' code'))
      (start.begun vm' run' host' message' code') fun native middle native' turn =>
        ends (middle.concluded before.registry.nextHandle native).1
          (middle.concluded before.registry.nextHandle native).2
          (turn.concluded start.registry.nextHandle native').1
          (turn.concluded start.registry.nextHandle native').2) :
    Paired (executeWith hosting nested vm host message code) before
      (executeWith hosting nested vm' host' message' code') start ends := by
  rw [Paired] at paired ⊢
  rw [executeWith_apply hosting nested executes, executeWith_apply hosting nested executes']
  generalize runNative hosting nested (before.course vm run message code)
    (before.begun vm run host message code) = result,
    runNative hosting nested (start.course vm' run' message' code')
      (start.begun vm' run' host' message' code') = result' at paired ⊢
  cases paired with
  | some holds => exact .some holds
  | none => exact .none

end Rules

end Bridge

namespace Event

/-- What is left of an event without its handle and without what depends on a
verbosity.  Nothing is left of what only a verbosity makes native code note. -/
def essence? : Event → Option Event
  | .registered _ => some (.registered 0)
  | .unregistered _ => some (.unregistered 0)
  | .requested method _ => some (.requested method 0)
  | .refused _ error => some (.refused 0 error)
  | .executing message codeSize _ => some (.executing message codeSize 0)
  | .copied _ => some (.copied 0)
  | .commandCharged position opcode gasLeft _ =>
      some (.commandCharged position opcode gasLeft false)
  | .codeStarted _ _ _ | .codeAborted _ _ | .codeFinished _ _ _ => none
  | event => some event

def essence (events : List Event) : List Event := events.filterMap essence?

/-- Of every report of a fault the fault is left. -/
theorem hostFault?_essence? (event : Event) :
    event.essence?.bind hostFault? = event.hostFault? := by
  cases event <;> rfl

theorem firstFault?_essence (events : List Event) :
    firstFault? (essence events) = firstFault? events := by
  rw [firstFault?, firstFault?, essence]
  induction events with
  | nil => rfl
  | cons event events ih =>
      have left := hostFault?_essence? event
      rw [List.filterMap_cons, List.findSome?_cons, ← left]
      cases event.essence? with
      | none => exact ih
      | some rest => rw [List.findSome?_cons, ih, Option.bind_some]

end Event

namespace Process

/-- In two runs the same happened, but for handles and verbosities. -/
def Parallel (before after start finish : Process κ ν σ) : Prop :=
  ∃ events events', before.Since after events ∧ start.Since finish events' ∧
    Event.essence events = Event.essence events'

namespace Parallel

variable {before middle after start turn finish : Process κ ν σ}

theorem refl (before start : Process κ ν σ) : Parallel before before start start :=
  ⟨[], [], rfl, rfl, rfl⟩

theorem trans (first : Parallel before middle start turn)
    (second : Parallel middle after turn finish) : Parallel before after start finish := by
  obtain ⟨events, events', since, since', same⟩ := first
  obtain ⟨others, others', later, later', same'⟩ := second
  refine ⟨_, _, since.append later, since'.append later', ?_⟩
  rw [Event.essence, Event.essence, List.filterMap_append, List.filterMap_append]
  rw [Event.essence, Event.essence] at same same'
  rw [same, same']

theorem journaled {event event' : Event} (same : event.essence? = event'.essence?)
    (before start : Process κ ν σ) :
    Parallel before (before.journaled event) start (start.journaled event') := by
  refine ⟨[event], [event'], rfl, rfl, ?_⟩
  rw [Event.essence, Event.essence, List.filterMap_cons, List.filterMap_cons, same]

/-- What nothing is left of may happen in the first run alone. -/
theorem aside {event : Event} (silent : event.essence? = none) (before start : Process κ ν σ) :
    Parallel before (before.journaled event) start start :=
  ⟨[event], [], rfl, rfl, List.filterMap_cons_none silent⟩

theorem symm (parallel : Parallel before after start finish) :
    Parallel start finish before after := by
  obtain ⟨events, events', since, since', same⟩ := parallel
  exact ⟨events', events, since', since, same.symm⟩

end Parallel

end Process
/-- What two runs that are alike lead to: the same value and alike contexts, while
the same happened. -/
structure Alongside (before start : MockProcess) (value : α) (after : MockProcess) (value' : α)
    (finish : MockProcess) : Prop where
  value_eq : value = value'
  alike : after.hosts.Alike finish.hosts
  parallel : before.Parallel after start finish

theorem Alongside.prepend {before middle start turn after finish : MockProcess} {value value' : α}
    (parallel : before.Parallel middle start turn)
    (alongside : Alongside middle turn value after value' finish) :
    Alongside before start value after value' finish :=
  { alongside with parallel := parallel.trans alongside.parallel }

/-- Executions by example VMs for alike contexts are alike. -/
def ExecutesAlike (nested : Executor Unit Nat (MockContext Nat)) : Prop :=
  ∀ (vm vm' : Vm Nat) message code (before start : MockProcess), vm.IsExample →
    vm.native = vm'.native → before.hosts.Alike start.hosts →
    Bridge.Paired (nested vm () message code) before (nested vm' () message code) start
      (Alongside before start)

section Hosts

variable {nested : Executor Unit Nat (MockContext Nat)}

theorem runHost_paired (nestedAlike : ExecutesAlike nested)
    {run run' : HostRun Unit Nat (MockContext Nat) α} (alike : run.Alike run')
    (before start : MockProcess) :
    Bridge.Paired (runHost nested run) before (runHost nested run') start
      (Alongside before start) := by
  induction alike generalizing before start with
  | done ending alike =>
      exact Bridge.paired_of_apply rfl rfl ⟨rfl, alike, .refl before start⟩
  | note event _ ih =>
      refine Bridge.paired_bind (Bridge.paired_of_apply rfl rfl ?_)
      have noted : before.Parallel (before.journaled event.val) start (start.journaled event.val) :=
        .journaled rfl before start
      exact (ih _ _).imp fun _ _ _ _ alongside => alongside.prepend noted
  | execute isExample native_eq message code alike resumes ih =>
      refine Bridge.paired_bind (Bridge.paired_of_apply rfl rfl ?_)
      refine Bridge.paired_bind ?_
      refine (nestedAlike _ _ message code _ _ isExample native_eq alike).imp ?_
      intro ending middle ending' turn alongside
      obtain ⟨rfl, alike, parallel⟩ := alongside
      refine Bridge.paired_bind (Bridge.paired_of_apply rfl rfl ?_)
      exact (ih ending _ _ alike middle turn).imp fun _ _ _ _ later => later.prepend parallel

theorem carryOut_paired (nestedAlike : ExecutesAlike nested) {action action' : MockAction Nat α}
    (works : MockAction.Alike action action') {before start : MockProcess}
    (alike : before.hosts.Alike start.hosts) :
    Bridge.Paired (carryOut nested action) before (carryOut nested action') start
      (Alongside before start) :=
  runHost_paired nestedAlike (works _ _ alike) before start

/-- Callbacks with live handles are alike. -/
theorem deliver_paired (nestedAlike : ExecutesAlike nested) {handle handle' : Nat}
    (request : Request) {before start : MockProcess}
    (resolved : before.registry.resolve handle = some ())
    (resolved' : start.registry.resolve handle' = some ())
    (alike : before.hosts.Alike start.hosts) :
    Bridge.Paired (deliver MockContext.hosting nested handle request) before
      (deliver MockContext.hosting nested handle' request) start (Alongside before start) := by
  let asked := before.journaled (.requested request.name handle)
  let asked' := start.journaled (.requested request.name handle')
  have requested : before.Parallel asked start asked' := ⟨[_], [_], rfl, rfl, rfl⟩
  cases decoded : request.decode with
  | error error =>
      exact Bridge.paired_of_apply (deliver_undecoded resolved decoded)
        (deliver_undecoded resolved' decoded)
        ⟨rfl, alike, requested.trans ⟨[_], [_], rfl, rfl, rfl⟩⟩
  | ok delivery =>
      have announced : asked.Parallel (asked.announced delivery.method) asked'
          (asked'.announced delivery.method) :=
        ⟨_, _, asked.since_announced _, asked'.since_announced _, rfl⟩
      rw [Bridge.Paired, deliver_served resolved decoded, deliver_served resolved' decoded]
      refine Bridge.paired_bind ?_
      have alikeAsked : (asked.announced delivery.method).hosts.Alike
          (asked'.announced delivery.method).hosts := by simpa [asked, asked'] using alike
      refine (carryOut_paired nestedAlike (MockAction.alike_hosting delivery.method)
        alikeAsked).imp ?_
      intro ending after ending' finish alongside
      obtain ⟨rfl, alikeAfter, parallel⟩ := alongside
      have happened := (requested.trans announced).trans parallel
      cases ending with
      | returned answer => exact Bridge.paired_of_apply rfl rfl ⟨rfl, alikeAfter, happened⟩
      | faulted fault =>
          have parked : after.Parallel (after.parked handle fault request.name.text) finish
              (finish.parked handle' fault request.name.text) := ⟨[_], [_], rfl, rfl, rfl⟩
          exact Bridge.paired_of_apply rfl rfl ⟨rfl, alikeAfter, happened.trans parked⟩

end Hosts

/-- Two courses of native code make the same callbacks with different handles.  What
they note is the same but for what only a verbosity makes them note. -/
inductive NativeRun.Alike (handle handle' : Nat) : NativeRun α → NativeRun α → Prop where
  | done (value : α) : Alike handle handle' (.done value) (.done value)
  | note {event event' : NativeEvent} {rest rest' : NativeRun α}
      (same : event.val.essence? = event'.val.essence?) (alike : Alike handle handle' rest rest') :
      Alike handle handle' (.note event rest) (.note event' rest')
  | aside {event : NativeEvent} {rest rest' : NativeRun α}
      (silent : event.val.essence? = none) (alike : Alike handle handle' rest rest') :
      Alike handle handle' (.note event rest) rest'
  | aside' {event : NativeEvent} {rest rest' : NativeRun α}
      (silent : event.val.essence? = none) (alike : Alike handle handle' rest rest') :
      Alike handle handle' rest (.note event rest')
  | ask (request : Request) {resume resume' : request.Answer → NativeRun α}
      (resumes : ∀ answer, Alike handle handle' (resume answer) (resume' answer)) :
      Alike handle handle' (.ask handle request resume) (.ask handle' request resume')

theorem NativeRun.Alike.bind {handle handle' : Nat} {run run' : NativeRun α}
    {next next' : α → NativeRun β} (alike : Alike handle handle' run run')
    (goesOn : ∀ value, Alike handle handle' (next value) (next' value)) :
    Alike handle handle' (run.bind next) (run'.bind next') := by
  induction alike with
  | done value => exact goesOn value
  | note same _ ih => exact .note same ih
  | aside silent _ ih => exact .aside silent ih
  | aside' silent _ ih => exact .aside' silent ih
  | ask request _ ih => exact .ask request ih

/-- A handle is known and leads to the only host. -/
structure Process.Serving (process : MockProcess) (handle : Nat) : Prop where
  known : handle < process.registry.nextHandle
  resolved : process.registry.resolve handle = some ()

theorem Process.Serving.journaled {handle : Nat} {process : MockProcess}
    (serving : process.Serving handle) (event : Event) :
    (process.journaled event).Serving handle :=
  ⟨serving.known, serving.resolved⟩

theorem Process.Serving.kept {handle : Nat} {before after : MockProcess} {events : List Event}
    (serving : before.Serving handle) (keeps : before.Keeps handle after events) :
    after.Serving handle where
  known := Nat.lt_of_lt_of_le serving.known keeps.nextHandle_le
  resolved := by
    have resolved := serving.resolved
    rw [Registry.resolve_eq] at resolved ⊢
    rw [keeps.registration_eq, Option.map_map]
    exact resolved

section Native

variable {nested : Executor Unit Nat (MockContext Nat)}

theorem runNative_paired (nestedAlike : ExecutesAlike nested) (nestedKeeps : KeepsKnown nested)
    {handle handle' : Nat} {course course' : NativeRun α}
    (alike : course.Alike handle handle' course') {before start : MockProcess}
    (serving : before.Serving handle) (serving' : start.Serving handle')
    (alikeHosts : before.hosts.Alike start.hosts) :
    Bridge.Paired (runNative MockContext.hosting nested course) before
      (runNative MockContext.hosting nested course') start (Alongside before start) := by
  induction alike generalizing before start with
  | done value => exact Bridge.paired_of_apply rfl rfl ⟨rfl, alikeHosts, .refl before start⟩
  | @note event event' rest rest' same _ ih =>
      refine Bridge.paired_bind (Bridge.paired_of_apply rfl rfl ?_)
      have noted := Process.Parallel.journaled same before start
      exact (ih (serving.journaled event.val) (serving'.journaled event'.val) alikeHosts).imp
        fun _ _ _ _ later => later.prepend noted
  | @aside event rest rest' silent _ ih =>
      have noted := Process.Parallel.aside silent before start
      have rested := (ih (serving.journaled event.val) serving' alikeHosts).imp
        fun _ _ _ _ later => later.prepend noted
      exact rested
  | @aside' event rest rest' silent _ ih =>
      have noted := (Process.Parallel.aside silent start before).symm
      have rested := (ih serving (serving'.journaled event.val) alikeHosts).imp
        fun _ _ _ _ later => later.prepend noted
      exact rested
  | ask request _ ih =>
      refine Bridge.paired_bind ?_
      have paired := (deliver_paired nestedAlike request serving.resolved serving'.resolved
        alikeHosts).and_ensures (deliver_keeps nestedKeeps handle request serving.known)
        (deliver_keeps nestedKeeps handle' request serving'.known)
      refine paired.imp ?_
      rintro answer middle answer' turn ⟨⟨rfl, alikeMiddle, parallel⟩, ⟨_, keeps⟩, ⟨_, keeps'⟩⟩
      exact (ih answer (serving.kept keeps) (serving'.kept keeps') alikeMiddle).imp
        fun _ _ _ _ later => later.prepend parallel

end Native

end VmBridge
