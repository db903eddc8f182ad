import VmBridge.Proofs.BridgeEnsures
import VmBridge.Proofs.RegistrySteps

/-!
# The course of one execution

An execution has three parts: it begins by registering its host, lets the
native code run, and concludes by copying and releasing the native result and
giving up the handle.  `executeWith_apply` takes an execution apart into these
parts, of which only the middle one may fail to end.

While the native code runs its callbacks are delivered.  A callback is refused
at once, or it is served by a method of its host, and then
`deliver_served` reduces it to that method.
-/

namespace VmBridge

variable {κ ν σ : Type}

/-- A native execute function. -/
abbrev NativeExecute (ν : Type) : Type := ν → Invocation → ν × NativeRun NativeResult

namespace Process

/-- The state and the native code with which the execution of a message
begins. -/
def begun (before : Process κ ν σ) (vm : Vm ν) (run : NativeExecute ν) (host : κ)
    (message : Message) (code : Bytes) : Process κ ν σ :=
  let handle := before.registry.nextHandle
  let arguments := invocation handle message code
  let announced : Process κ ν σ :=
    (({ before with registry := before.registry.register host }.journaled
      (.registered handle)).journaled (.executing message code.length handle)).journaled
      (.entered vm.native.provider arguments.revision message.toNative arguments.code)
  { announced with
    privateStates :=
      announced.privateStates.insert vm.identity (run (before.privateState vm) arguments).1 }

def course (before : Process κ ν σ) (vm : Vm ν) (run : NativeExecute ν)
    (message : Message) (code : Bytes) : NativeRun NativeResult :=
  (run (before.privateState vm) (invocation before.registry.nextHandle message code)).2

/-- The events with which an execution begins. -/
def beginning (vm : Vm ν) (message : Message) (code : Bytes) (handle : Nat) : List Event :=
  [.registered handle, .executing message code.length handle,
    .entered vm.native.provider (invocation handle message code).revision message.toNative
      (invocation handle message code).code]

/-- The events of the release of a native result: one if it has a release
function, and none if it has not. -/
def releasing (native : NativeResult) : List Event := (native.release.map .released).toList

/-- The state after the native result has been copied and released. -/
def settled (middle : Process κ ν σ) (handle : Nat) (native : NativeResult) :
    Process κ ν σ :=
  { middle with journal := (.copied handle :: releasing native).reverse ++ middle.journal }

/-- The state after a handle has been given up. -/
def closed (process : Process κ ν σ) (handle : Nat) : Process κ ν σ :=
  if process.registry.isLive handle then
    { process with registry := process.registry.unregister handle }.journaled
      (.unregistered handle)
  else process

/-- How an execution ends, and the state that it leaves. -/
def concluded (middle : Process κ ν σ) (handle : Nat) (native : NativeResult) :
    Ending ExecutionResult × Process κ ν σ :=
  let closed :=
    { middle.settled handle native with registry := middle.registry.clearFault handle }.closed
      handle
  match middle.registry.parkedFault handle with
  | some fault => (.faulted fault, closed)
  | none => (.returned native.toResult, closed.journaled (.executed native.toResult))

/-- The events with which an execution concludes. -/
def concluding (middle : Process κ ν σ) (handle : Nat) (native : NativeResult) : List Event :=
  .copied handle :: releasing native ++
    (if middle.registry.isLive handle then [.unregistered handle] else []) ++
    (if (middle.registry.parkedFault handle).isNone then [.executed native.toResult] else [])

theorem since_begun (before : Process κ ν σ) (vm : Vm ν) (run : NativeExecute ν) (host : κ)
    (message : Message) (code : Bytes) :
    before.Since (before.begun vm run host message code)
      (beginning vm message code before.registry.nextHandle) :=
  rfl

theorem since_settled (middle : Process κ ν σ) (handle : Nat) (native : NativeResult) :
    middle.Since (middle.settled handle native) (.copied handle :: releasing native) :=
  rfl

theorem since_closed (process : Process κ ν σ) (handle : Nat) :
    process.Since (process.closed handle)
      (if process.registry.isLive handle then [.unregistered handle] else []) := by
  rw [closed]
  split
  · rfl
  · rfl

theorem since_concluded (middle : Process κ ν σ) (handle : Nat) (native : NativeResult) :
    middle.Since (middle.concluded handle native).2 (middle.concluding handle native) := by
  let cleared : Process κ ν σ :=
    { middle.settled handle native with registry := middle.registry.clearFault handle }
  have live_eq : cleared.registry.isLive handle = middle.registry.isLive handle :=
    middle.registry.isLive_clearFault handle handle
  have closing : middle.Since (cleared.closed handle) (.copied handle :: releasing native ++
      (if middle.registry.isLive handle then [.unregistered handle] else [])) := by
    rw [← live_eq]
    exact (since_settled middle handle native).append (since_closed cleared handle)
  rw [concluded, concluding]
  cases middle.registry.parkedFault handle with
  | none => exact closing.append (since_journaled _ _)
  | some fault =>
      rw [Option.isNone_some, if_neg Bool.false_ne_true, List.append_nil]
      exact closing

theorem mem_beginning {vm : Vm ν} {message : Message} {code : Bytes} {handle : Nat}
    {event : Event} (member : event ∈ beginning vm message code handle) :
    event = .registered handle ∨ event = .executing message code.length handle ∨
      ∃ provider revision native span, event = .entered provider revision native span := by
  simp only [beginning, List.mem_cons, List.not_mem_nil, or_false] at member
  rcases member with rfl | rfl | rfl
  · exact Or.inl rfl
  · exact Or.inr (Or.inl rfl)
  · exact Or.inr (Or.inr ⟨_, _, _, _, rfl⟩)

theorem mem_concluding {middle : Process κ ν σ} {handle : Nat} {native : NativeResult}
    {event : Event} (member : event ∈ middle.concluding handle native) :
    event = .copied handle ∨ (∃ release, event = .released release) ∨
      event = .unregistered handle ∨ event = .executed native.toResult := by
  simp only [concluding, releasing, List.mem_append, List.mem_cons, Option.mem_toList,
    Option.map_eq_some_iff] at member
  rcases member with ((copied | ⟨release, _, released⟩) | unregistered) | executed
  · exact Or.inl copied
  · exact Or.inr (Or.inl ⟨release, released.symm⟩)
  · split at unregistered
    · exact Or.inr (Or.inr (Or.inl (List.mem_singleton.mp unregistered)))
    · cases unregistered
  · split at executed
    · exact Or.inr (Or.inr (Or.inr (List.mem_singleton.mp executed)))
    · cases executed

@[simp] theorem closed_hosts (process : Process κ ν σ) (handle : Nat) :
    (process.closed handle).hosts = process.hosts := by
  rw [closed]
  split <;> rfl

@[simp] theorem concluded_hosts (middle : Process κ ν σ) (handle : Nat)
    (native : NativeResult) : (middle.concluded handle native).2.hosts = middle.hosts := by
  rw [concluded]
  split
  · exact closed_hosts _ _
  · exact closed_hosts _ _

theorem concluded_registry (middle : Process κ ν σ) (handle : Nat) (native : NativeResult) :
    (middle.concluded handle native).2.registry =
      if middle.registry.isLive handle then
        (middle.registry.clearFault handle).unregister handle
      else middle.registry.clearFault handle := by
  let cleared : Process κ ν σ :=
    { middle.settled handle native with registry := middle.registry.clearFault handle }
  have closed_registry : (cleared.closed handle).registry =
      if middle.registry.isLive handle then
        (middle.registry.clearFault handle).unregister handle
      else middle.registry.clearFault handle := by
    have live_eq : cleared.registry.isLive handle = middle.registry.isLive handle :=
      middle.registry.isLive_clearFault handle handle
    rw [closed, live_eq]
    split <;> rfl
  rw [concluded]
  split
  · exact closed_registry
  · exact closed_registry

theorem concluded_nextHandle (middle : Process κ ν σ) (handle : Nat) (native : NativeResult) :
    (middle.concluded handle native).2.registry.nextHandle = middle.registry.nextHandle := by
  rw [concluded_registry]
  split <;> simp

/-- The state after a message has been announced to its host. -/
def announced (process : Process κ ν σ) : HostMethod → Process κ ν σ
  | .call message => process.journaled (.nestedCall message)
  | _ => process

/-- The events of the announcement of a method. -/
def announcing : HostMethod → List Event
  | .call message => [.nestedCall message]
  | _ => []

theorem since_announced (process : Process κ ν σ) (method : HostMethod) :
    process.Since (process.announced method) (announcing method) := by
  cases method <;> rfl

theorem mem_announcing {method : HostMethod} {event : Event}
    (member : event ∈ announcing method) : ∃ message, event = .nestedCall message := by
  cases method with
  | call message => exact ⟨message, List.mem_singleton.mp member⟩
  | _ => cases member

@[simp] theorem announced_hosts (process : Process κ ν σ) (method : HostMethod) :
    (process.announced method).hosts = process.hosts := by
  cases method <;> rfl

@[simp] theorem announced_registry (process : Process κ ν σ) (method : HostMethod) :
    (process.announced method).registry = process.registry := by
  cases method <;> rfl

/-- The state after a callback has been refused. -/
def refused (process : Process κ ν σ) (handle : Nat) (error : CallbackError) :
    Process κ ν σ :=
  process.journaled (.refused handle error)

/-- The state after the host of a callback has failed: the fault is parked and
the callback is refused. -/
def parked (process : Process κ ν σ) (handle : Nat) (fault : Fault) (function : String) :
    Process κ ν σ :=
  { process with registry := process.registry.recordFault handle fault }.refused handle
    (.hostFaulted fault function)

end Process

theorem releaseResult_apply (native : NativeResult) (process : Process κ ν σ) :
    releaseResult native process =
      some ((), { process with
        journal := (Process.releasing native).reverse ++ process.journal }) := by
  rw [releaseResult, Process.releasing]
  cases native.release <;> rfl

theorem unregister_apply (handle : Nat) (process : Process κ ν σ) :
    (Bridge.unregister handle : Bridge κ ν σ Bool) process =
      some (process.registry.isLive handle, process.closed handle) := by
  rw [Process.closed]
  cases live : process.registry.isLive handle with
  | true => rw [Bridge.unregister_apply_of_live process live, if_pos rfl]
  | false => rw [Bridge.unregister_apply_of_not_live process live, if_neg (by simp)]

/-- How an execution concludes once its result has been copied and released. -/
theorem conclude_apply (handle : Nat) (native : NativeResult) (middle : Process κ ν σ) :
    (do
      Bridge.record (.copied handle)
      releaseResult native
      let fault ← Bridge.takeFault handle
      let _ ← Bridge.unregister handle
      match fault with
      | some fault => pure (.faulted fault)
      | none => do
          Bridge.record (.executed native.toResult)
          pure (.returned native.toResult) : Bridge κ ν σ (Ending ExecutionResult)) middle =
      some (middle.concluded handle native) := by
  have settled_eq : { middle.journaled (.copied handle) with
      journal := (Process.releasing native).reverse ++
        (middle.journaled (.copied handle)).journal } = middle.settled handle native := by
    simp [Process.settled, Process.journaled]
  rw [Bridge.bind_apply, Bridge.record_apply, Option.bind_some, Bridge.bind_apply,
    releaseResult_apply, settled_eq, Option.bind_some, Bridge.bind_apply,
    Bridge.takeFault_apply, Option.bind_some, Bridge.bind_apply, unregister_apply,
    Process.concluded]
  change (match middle.registry.parkedFault handle with | some fault => _ | none => _ :
    Bridge κ ν σ (Ending ExecutionResult)) _ = _
  cases middle.registry.parkedFault handle <;> rfl

/-- An execution by a VM that can execute begins, runs the native code, and
concludes. -/
theorem executeWith_apply (hosting : Hosting κ ν σ) (nested : Executor κ ν σ) {vm : Vm ν}
    {run : NativeExecute ν} (executes : vm.native.execute = some run) (host : κ)
    (message : Message) (code : Bytes) (before : Process κ ν σ) :
    executeWith hosting nested vm host message code before =
      (runNative hosting nested (before.course vm run message code)
        (before.begun vm run host message code)).map fun result =>
          result.2.concluded before.registry.nextHandle result.1 := by
  have parts : executeWith hosting nested vm host message code before =
      (runNative hosting nested (before.course vm run message code)
        (before.begun vm run host message code)).bind fun result =>
          (do
            Bridge.record (.copied before.registry.nextHandle)
            releaseResult result.1
            let fault ← Bridge.takeFault before.registry.nextHandle
            let _ ← Bridge.unregister before.registry.nextHandle
            match fault with
            | some fault => pure (.faulted fault)
            | none => do
                Bridge.record (.executed result.1.toResult)
                pure (.returned result.1.toResult) :
              Bridge κ ν σ (Ending ExecutionResult)) result.2 := by
    simp only [executeWith, executes, executeNative, bind_assoc, pure_bind]
    rfl
  rw [parts]
  cases runNative hosting nested (before.course vm run message code)
      (before.begun vm run host message code) with
  | none => rfl
  | some result => exact conclude_apply _ result.1 result.2

section Executions

variable {hosting : Hosting κ ν σ} {nested : Executor κ ν σ} {vm : Vm ν} {run : NativeExecute ν}
  {host : κ} {message : Message} {code : Bytes} {before : Process κ ν σ}

/-- What holds after an execution is what holds when its native code is done and
it has been concluded. -/
theorem ensures_executeWith {holds : Ending ExecutionResult → Process κ ν σ → Prop}
    (executes : vm.native.execute = some run) :
    (executeWith hosting nested vm host message code).Ensures before holds ↔
      (runNative hosting nested (before.course vm run message code)).Ensures
        (before.begun vm run host message code) fun native middle =>
          holds (middle.concluded before.registry.nextHandle native).1
            (middle.concluded before.registry.nextHandle native).2 := by
  simp only [Bridge.Ensures, executeWith_apply hosting nested executes, Option.map_eq_some_iff,
    Prod.exists]
  constructor
  · intro ensured native middle ran
    exact ensured _ _ ⟨native, middle, ran, rfl⟩
  · rintro ensured ending after ⟨native, middle, ran, concluded_eq⟩
    have held := ensured native middle ran
    rw [concluded_eq] at held
    exact held

/-- An execution comes to an end exactly when its native code does. -/
theorem finishes_executeWith (executes : vm.native.execute = some run) :
    (executeWith hosting nested vm host message code).Finishes before ↔
      (runNative hosting nested (before.course vm run message code)).Finishes
        (before.begun vm run host message code) := by
  rw [Bridge.Finishes, executeWith_apply hosting nested executes, Option.isSome_map]
  rfl

theorem executeWith_unsupported (unsupported : vm.native.execute = none) :
    executeWith hosting nested vm host message code before =
      some (.returned .internalError, before.journaled (.executionUnsupported vm.name)) := by
  simp only [executeWith, unsupported]
  rfl

end Executions

/-- The fault of a host behind an error. -/
def CallbackError.hostFault? : CallbackError → Option Fault
  | .hostFaulted fault _ => some fault
  | _ => none

/-- The fault of a host that an event reports. -/
def Event.hostFault? : Event → Option Fault
  | .refused _ error => error.hostFault?
  | _ => none

section Callbacks

variable {hosting : Hosting κ ν σ} {nested : Executor κ ν σ} {handle : Nat}
  {request : Request} {before : Process κ ν σ}

/-- The answer to a callback whose host method has ended. -/
def answerCallback (handle : Nat) (request : Request) (delivery : request.Delivery) :
    Ending delivery.method.Answer → Bridge κ ν σ request.Answer
  | .returned answer => pure (delivery.encode answer)
  | .faulted fault => fun process =>
      some (request.fallback, process.parked handle fault request.name.text)

theorem deliver_unresolved (unresolved : before.registry.resolve handle = none) :
    deliver hosting nested handle request before =
      some (request.fallback, (before.journaled (.requested request.name handle)).refused handle
        (.contextNotFound handle request.name.text)) := by
  simp only [deliver, Bridge.bind_apply, Bridge.record_apply, Option.bind_some,
    Bridge.get_apply, Process.journaled_registry, unresolved]
  rfl

theorem deliver_undecoded {host : κ} {error : CallbackError}
    (resolved : before.registry.resolve handle = some host)
    (undecoded : request.decode = .error error) :
    deliver hosting nested handle request before =
      some (request.fallback,
        (before.journaled (.requested request.name handle)).refused handle error) := by
  simp only [deliver, Bridge.bind_apply, Bridge.record_apply, Option.bind_some,
    Bridge.get_apply, Process.journaled_registry, resolved, undecoded]
  rfl

theorem announce_apply (method : HostMethod) (process : Process κ ν σ) :
    (announce method : Bridge κ ν σ Unit) process = some ((), process.announced method) := by
  cases method <;> rfl

theorem deliver_served {host : κ} {delivery : request.Delivery}
    (resolved : before.registry.resolve handle = some host)
    (decoded : request.decode = .ok delivery) :
    deliver hosting nested handle request before =
      (HostAction.carryOut nested (hosting host delivery.method) >>=
        answerCallback handle request delivery)
          ((before.journaled (.requested request.name handle)).announced delivery.method) := by
  have same : ((before.journaled (.requested request.name handle)).announced
      delivery.method).hosts = before.hosts := Process.announced_hosts _ _
  simp only [deliver, Bridge.bind_apply, Bridge.record_apply, Option.bind_some,
    Bridge.get_apply, Process.journaled_registry, resolved, decoded, announce_apply,
    HostAction.carryOut, same, Process.journaled_hosts]
  refine Option.bind_congr fun result _ => ?_
  cases result.1 <;> rfl

/-- What holds after a callback, however it was answered. -/
theorem ensures_deliver {holds : request.Answer → Process κ ν σ → Prop}
    (unresolved : holds request.fallback
      ((before.journaled (.requested request.name handle)).refused handle
        (.contextNotFound handle request.name.text)))
    (undecoded : ∀ error, request.decode = .error error → holds request.fallback
      ((before.journaled (.requested request.name handle)).refused handle error))
    (served : ∀ host delivery, before.registry.resolve handle = some host →
      request.decode = .ok delivery →
      (HostAction.carryOut nested (hosting host delivery.method)).Ensures
        ((before.journaled (.requested request.name handle)).announced delivery.method)
        fun ending after =>
          match ending with
          | .returned answer => holds (delivery.encode answer) after
          | .faulted fault =>
              holds request.fallback (after.parked handle fault request.name.text)) :
    (deliver hosting nested handle request).Ensures before holds := by
  cases resolved : before.registry.resolve handle with
  | none => exact (Bridge.ensures_of_apply (deliver_unresolved resolved) _).mpr unresolved
  | some host =>
      cases decoded : request.decode with
      | error error =>
          exact (Bridge.ensures_of_apply (deliver_undecoded resolved decoded) _).mpr
            (undecoded error decoded)
      | ok delivery =>
          rw [Bridge.ensures_congr (deliver_served resolved decoded), Bridge.ensures_bind]
          refine (served host delivery resolved decoded).imp fun ending after held => ?_
          cases ending with
          | returned answer => exact (Bridge.ensures_pure after _ _).mpr held
          | faulted fault => exact (Bridge.ensures_of_apply rfl _).mpr held

theorem finishes_deliver
    (served : ∀ host delivery, before.registry.resolve handle = some host →
      request.decode = .ok delivery →
      (HostAction.carryOut nested (hosting host delivery.method)).Finishes
        ((before.journaled (.requested request.name handle)).announced delivery.method)) :
    (deliver hosting nested handle request).Finishes before := by
  cases resolved : before.registry.resolve handle with
  | none => exact Bridge.finishes_of_apply (deliver_unresolved resolved)
  | some host =>
      cases decoded : request.decode with
      | error error => exact Bridge.finishes_of_apply (deliver_undecoded resolved decoded)
      | ok delivery =>
          rw [Bridge.finishes_congr (deliver_served resolved decoded), Bridge.finishes_bind]
          refine ⟨served host delivery resolved decoded, fun ending after _ => ?_⟩
          cases ending <;> rfl

end Callbacks

end VmBridge
