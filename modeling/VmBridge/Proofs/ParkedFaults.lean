import VmBridge.Proofs.ExecutionSteps
import VmBridge.Proofs.ResultForms

/-!
# Faults are parked until their execution ends

A host that fails while it serves a callback does not unwind through native
code: its fault is parked under the handle of the callback.  Executions that
are nested in another one have other handles, so they leave its registration
in place, and of all faults that are reported under its handle the first one
stays parked.  `execute_concludes` says what becomes of it when the execution
ends.
-/

namespace VmBridge

variable {κ ν σ α : Type}

/-- A registration after a fault may have been reported: the first one stays. -/
def Registration.keep (registration : Registration κ) (fault : Option Fault) :
    Registration κ :=
  { registration with fault := registration.fault.or fault }

@[simp] theorem Registration.keep_none (registration : Registration κ) :
    registration.keep none = registration := by
  simp [keep]

theorem Registration.keep_keep (registration : Registration κ) (first second : Option Fault) :
    (registration.keep first).keep second = registration.keep (first.or second) := by
  simp [keep, Option.or_assoc]

namespace Event

/-- The fault of a host that an event reports under a handle. -/
def faultUnder? (handle : Nat) : Event → Option Fault
  | .refused other error => if other = handle then error.hostFault? else none
  | _ => none

/-- Whether an event belongs to the conclusion of the execution under a
handle. -/
def concludes (handle : Nat) : Event → Bool
  | .copied other => other == handle
  | .unregistered other => other == handle
  | _ => false

/-- An event has nothing to do with the fault or the conclusion of the execution
under a handle. -/
def Foreign (handle : Nat) (event : Event) : Prop :=
  event.faultUnder? handle = none ∧ event.concludes handle = false

theorem foreign_of_byNativeCode (handle : Nat) (event : NativeEvent) :
    event.val.Foreign handle := by
  obtain ⟨event, native⟩ := event
  cases event <;> first | exact ⟨rfl, rfl⟩ | cases native

theorem foreign_of_byHost (handle : Nat) (event : HostEvent) : event.val.Foreign handle := by
  obtain ⟨event, byHost⟩ := event
  cases event <;> first | exact ⟨rfl, rfl⟩ | cases byHost

end Event

namespace Request

/-- A check of arguments fails without a fault of a host. -/
def ChecksOnly (check : Except CallbackError α) : Prop :=
  ∀ error, check = .error error → error.hostFault? = none

theorem checksOnly_pure (value : α) : ChecksOnly (pure value) := by
  intro error failed
  cases failed

theorem checksOnly_bind {β : Type} {check : Except CallbackError α}
    {next : α → Except CallbackError β} (first : ChecksOnly check)
    (second : ∀ value, ChecksOnly (next value)) : ChecksOnly (check >>= next) := by
  intro error failed
  cases checked : check with
  | error reason =>
      rw [checked] at failed
      cases failed
      exact first _ checked
  | ok value =>
      rw [checked] at failed
      exact second value error failed

theorem checksOnly_follow {β : Type} (pointer : Option β) (parameter function : String) :
    ChecksOnly (follow pointer parameter function) := by
  cases pointer with
  | none =>
      intro error failed
      cases failed
      rfl
  | some value => exact checksOnly_pure value

theorem checksOnly_followSpan {β : Type} (span : Span β) (parameter function : String) :
    ChecksOnly (followSpan span parameter function) := by
  rw [followSpan]
  cases span.read? with
  | none =>
      intro error failed
      cases failed
      rfl
  | some items => exact checksOnly_pure items

theorem checksOnly_followMessage (pointer : Option NativeMessage) (function : String) :
    ChecksOnly (followMessage pointer function) := by
  refine checksOnly_bind (checksOnly_follow _ _ _) fun native => ?_
  cases native.toMessage with
  | error kind =>
      intro error failed
      cases failed
      rfl
  | ok message => exact checksOnly_pure message

/-- Arguments that cannot be decoded are no fault of a host. -/
theorem checksOnly_decode (request : Request) : ChecksOnly request.decode := by
  cases request with
  | getTxContext => exact checksOnly_pure _
  | getBlockHash number => exact checksOnly_pure _
  | call pointer =>
      exact checksOnly_bind (checksOnly_followMessage _ _) fun _ => checksOnly_pure _
  | accountExists | getBalance | getCodeSize | getCodeHash | accessAccount =>
      exact checksOnly_bind (checksOnly_follow _ _ _) fun _ => checksOnly_pure _
  | getStorage | selfdestruct | accessStorage =>
      exact checksOnly_bind (checksOnly_follow _ _ _) fun _ =>
        checksOnly_bind (checksOnly_follow _ _ _) fun _ => checksOnly_pure _
  | copyCode =>
      exact checksOnly_bind (checksOnly_follow _ _ _) fun _ =>
        checksOnly_bind (checksOnly_followSpan _ _ _) fun _ => checksOnly_pure _
  | setStorage =>
      exact checksOnly_bind (checksOnly_follow _ _ _) fun _ =>
        checksOnly_bind (checksOnly_follow _ _ _) fun _ =>
          checksOnly_bind (checksOnly_follow _ _ _) fun _ => checksOnly_pure _
  | emitLog =>
      exact checksOnly_bind (checksOnly_follow _ _ _) fun _ =>
        checksOnly_bind (checksOnly_followSpan _ _ _) fun _ =>
          checksOnly_bind (checksOnly_followSpan _ _ _) fun _ => checksOnly_pure _

end Request

namespace Process

/-- While some events happen the registration of a handle stays as it is, but for
the first fault that is reported under the handle. -/
structure Keeps (handle : Nat) (before after : Process κ ν σ) (events : List Event) :
    Prop where
  since : before.Since after events
  nextHandle_le : before.registry.nextHandle ≤ after.registry.nextHandle
  registration_eq : after.registry.registration? handle =
    (before.registry.registration? handle).map
      (·.keep (events.findSome? (Event.faultUnder? handle)))
  unconcluded : ∀ event ∈ events, event.concludes handle = false

namespace Keeps

variable {handle : Nat} {before middle after : Process κ ν σ} {events others : List Event}

theorem refl (handle : Nat) (process : Process κ ν σ) : process.Keeps handle process [] where
  since := since_nil rfl
  nextHandle_le := Nat.le_refl _
  registration_eq := by simp
  unconcluded := by simp

theorem trans (start : Keeps handle before middle events)
    (finish : Keeps handle middle after others) :
    Keeps handle before after (events ++ others) where
  since := start.since.append finish.since
  nextHandle_le := Nat.le_trans start.nextHandle_le finish.nextHandle_le
  registration_eq := by
    rw [finish.registration_eq, start.registration_eq, List.findSome?_append, Option.map_map]
    congr 1
    funext registration
    exact registration.keep_keep _ _
  unconcluded event member := by
    rcases List.mem_append.mp member with earlier | later
    · exact start.unconcluded event earlier
    · exact finish.unconcluded event later

/-- Foreign events keep a registration that nothing else changes. -/
theorem of_foreign (since : before.Since after events)
    (nextHandle_le : before.registry.nextHandle ≤ after.registry.nextHandle)
    (same : after.registry.registration? handle = before.registry.registration? handle)
    (foreign : ∀ event ∈ events, event.Foreign handle) : Keeps handle before after events where
  since := since
  nextHandle_le := nextHandle_le
  registration_eq := by
    have faultless : events.findSome? (Event.faultUnder? handle) = none :=
      List.findSome?_eq_none_iff.mpr fun event member => (foreign event member).1
    rw [faultless, same]
    simp
  unconcluded event member := (foreign event member).2

theorem journaled {event : Event} (foreign : event.Foreign handle) (process : Process κ ν σ) :
    Keeps handle process (process.journaled event) [event] :=
  of_foreign (since_journaled process event) (Nat.le_refl _) rfl (by simpa using foreign)

/-- Refusing a callback whose host has not failed parks nothing. -/
theorem refused {error : CallbackError} (faultless : error.hostFault? = none) (other : Nat)
    (process : Process κ ν σ) :
    Keeps handle process (process.refused other error) [.refused other error] := by
  refine journaled ⟨?_, rfl⟩ process
  rw [Event.faultUnder?, faultless, ite_self]

/-- Parking a fault keeps it under its handle if it is the first one. -/
theorem parked (other : Nat) (fault : Fault) (function : String) (process : Process κ ν σ) :
    Keeps handle process (process.parked other fault function)
      [.refused other (.hostFaulted fault function)] where
  since := rfl
  nextHandle_le := Nat.le_of_eq (process.registry.nextHandle_recordFault other fault).symm
  registration_eq := by
    change (process.registry.recordFault other fault).registration? handle = _
    rw [Registry.registration?_recordFault]
    by_cases same : other = handle
    · rw [if_pos same]
      simp [Event.faultUnder?, CallbackError.hostFault?, same, Registration.keep]
    · rw [if_neg same]
      simp [Event.faultUnder?, same]
  unconcluded event member := by
    rw [List.mem_singleton.mp member]
    rfl

theorem announced (method : HostMethod) (process : Process κ ν σ) :
    Keeps handle process (process.announced method) (announcing method) := by
  have same : (process.announced method).registry = process.registry :=
    announced_registry process method
  refine of_foreign (process.since_announced method)
    (Nat.le_of_eq (congrArg Registry.nextHandle same.symm)) (by rw [same]) ?_
  intro event member
  obtain ⟨message, rfl⟩ := mem_announcing member
  exact ⟨rfl, rfl⟩

/-- The beginning of an execution with another handle. -/
theorem begun (vm : Vm ν) (run : NativeExecute ν) (host : κ) (message : Message) (code : Bytes)
    (known : handle < before.registry.nextHandle) :
    Keeps handle before (before.begun vm run host message code)
      (beginning vm message code before.registry.nextHandle) := by
  refine of_foreign (before.since_begun vm run host message code) (Nat.le_succ _) ?_ ?_
  · change (before.registry.register host).registration? handle = _
    rw [Registry.registration?_register, if_neg (by omega)]
  · intro event member
    rcases mem_beginning member with rfl | rfl | ⟨_, _, _, _, rfl⟩ <;> exact ⟨rfl, rfl⟩

/-- The conclusion of an execution with another handle. -/
theorem concluded {other : Nat} (different : other ≠ handle) (native : NativeResult) :
    Keeps handle middle (middle.concluded other native).2 (middle.concluding other native) := by
  refine of_foreign (middle.since_concluded other native) ?_ ?_ ?_
  · exact Nat.le_of_eq (middle.concluded_nextHandle other native).symm
  · rw [concluded_registry]
    split
    · rw [Registry.registration?_unregister, if_neg different, Registry.registration?_clearFault,
        if_neg different]
    · rw [Registry.registration?_clearFault, if_neg different]
  · intro event member
    rcases mem_concluding member with rfl | ⟨_, rfl⟩ | rfl | rfl
    · exact ⟨rfl, beq_false_of_ne different⟩
    · exact ⟨rfl, rfl⟩
    · exact ⟨rfl, beq_false_of_ne different⟩
    · exact ⟨rfl, rfl⟩

end Keeps

end Process

section Executions

variable {hosting : Hosting κ ν σ} {nested : Executor κ ν σ} {handle : Nat}

/-- Executions keep the registration of every handle that is known when they
begin. -/
def KeepsKnown (nested : Executor κ ν σ) : Prop :=
  ∀ (handle : Nat) (vm : Vm ν) (host : κ) (message : Message) (code : Bytes)
    (before : Process κ ν σ), handle < before.registry.nextHandle →
    (nested vm host message code).Ensures before fun _ after =>
      ∃ events, before.Keeps handle after events

theorem runHost_keeps (nestedKeeps : KeepsKnown nested) (run : HostRun κ ν σ α)
    {before : Process κ ν σ} (known : handle < before.registry.nextHandle) :
    (runHost nested run).Ensures before fun _ after =>
      ∃ events, before.Keeps handle after events := by
  induction run generalizing before with
  | done ending state =>
      simp only [runHost, Bridge.ensures_bind, Bridge.ensures_setHosts, Bridge.ensures_pure]
      exact ⟨[], .of_foreign rfl (Nat.le_refl _) rfl (by simp)⟩
  | note event rest ih =>
      simp only [runHost, Bridge.ensures_bind, Bridge.ensures_record]
      have noted := Process.Keeps.journaled (Event.foreign_of_byHost handle event) before
      have known' : handle < (before.journaled event.val).registry.nextHandle := known
      refine (ih known').imp ?_
      rintro _ after ⟨events, keeps⟩
      exact ⟨_, noted.trans keeps⟩
  | execute vm host message code state resume ih =>
      simp only [runHost, Bridge.ensures_bind, Bridge.ensures_setHosts, Bridge.ensures_get]
      have replaced : before.Keeps handle { before with hosts := state } [] :=
        .of_foreign rfl (Nat.le_refl _) rfl (by simp)
      refine (nestedKeeps handle vm host message code { before with hosts := state } known).imp ?_
      rintro ending middle ⟨events, keeps⟩
      refine (ih ending middle.hosts (Nat.lt_of_lt_of_le known keeps.nextHandle_le)).imp ?_
      rintro _ after ⟨later, keeps'⟩
      exact ⟨_, (replaced.trans keeps).trans keeps'⟩

theorem deliver_keeps (nestedKeeps : KeepsKnown nested) (other : Nat) (request : Request)
    {before : Process κ ν σ} (known : handle < before.registry.nextHandle) :
    (deliver hosting nested other request).Ensures before fun _ after =>
      ∃ events, before.Keeps handle after events := by
  have requested : before.Keeps handle (before.journaled (.requested request.name other))
      [.requested request.name other] := .journaled ⟨rfl, rfl⟩ before
  refine ensures_deliver ⟨_, requested.trans (.refused rfl other _)⟩
    (fun error undecoded => ⟨_, requested.trans
      (.refused (request.checksOnly_decode error undecoded) other _)⟩) ?_
  intro host delivery _ _
  have asked := requested.trans (.announced delivery.method _)
  refine (runHost_keeps nestedKeeps _ (Nat.lt_of_lt_of_le known asked.nextHandle_le)).imp ?_
  rintro ending after ⟨events, keeps⟩
  cases ending with
  | returned answer => exact ⟨_, asked.trans keeps⟩
  | faulted fault => exact ⟨_, (asked.trans keeps).trans (.parked other fault _ after)⟩

theorem runNative_keepsHandle (nestedKeeps : KeepsKnown nested) (course : NativeRun α)
    {before : Process κ ν σ} (known : handle < before.registry.nextHandle) :
    (runNative hosting nested course).Ensures before fun _ after =>
      ∃ events, before.Keeps handle after events := by
  let holds (middle : Process κ ν σ) : Prop := ∃ events, before.Keeps handle middle events
  have noted (middle : Process κ ν σ) (event : NativeEvent) (held : holds middle) :
      holds (middle.journaled event.val) := by
    obtain ⟨events, keeps⟩ := held
    exact ⟨_, keeps.trans (.journaled (Event.foreign_of_byNativeCode handle event) middle)⟩
  have start : holds before := ⟨[], .refl handle before⟩
  refine (runNative_keeps noted ?_ course.obeys_any start).imp fun _ after held => held.2
  rintro middle other request - ⟨events, keeps⟩
  have known' := Nat.lt_of_lt_of_le known keeps.nextHandle_le
  refine (deliver_keeps nestedKeeps other request known').imp ?_
  rintro _ after ⟨later, keeps'⟩
  exact ⟨_, keeps.trans keeps'⟩

theorem execute_keeps (hosting : Hosting κ ν σ) (limit : Nat) :
    KeepsKnown (execute hosting limit) := by
  induction limit with
  | zero =>
      intro handle vm host message code before _ ending after finished
      cases finished
  | succ limit ih =>
      intro handle vm host message code before known
      rw [execute]
      cases executes : vm.native.execute with
      | none =>
          rw [Bridge.ensures_of_apply (executeWith_unsupported executes)]
          exact ⟨_, .journaled ⟨rfl, rfl⟩ before⟩
      | some run =>
          rw [ensures_executeWith executes]
          have begun := Process.Keeps.begun vm run host message code known
          have known' := Nat.lt_of_lt_of_le known begun.nextHandle_le
          refine (runNative_keepsHandle ih _ known').imp ?_
          rintro native middle ⟨events, keeps⟩
          exact ⟨_, (begun.trans keeps).trans (.concluded (by omega) native)⟩

end Executions

/-- What is journaled of an ending: results are, faults are raised again. -/
def Ending.reporting : Ending ExecutionResult → List Event
  | .returned result => [.executed result]
  | .faulted _ => []

/-- How an execution ends whose native code ended with a result after some events: with the
first fault under its handle, or else with a copy of the result. -/
inductive Ending.Concludes (handle : Nat) (callbacks : List Event) (native : NativeResult) :
    Ending ExecutionResult → Prop where
  | faulted {fault : Fault}
      (first : callbacks.findSome? (Event.faultUnder? handle) = some fault) :
      Concludes handle callbacks native (.faulted fault)
  | returned {result : ExecutionResult}
      (faultless : callbacks.findSome? (Event.faultUnder? handle) = none)
      (copied : native.CopiedAs result) : Concludes handle callbacks native (.returned result)

namespace Process

/-- An execution under the next handle ran from one state to another: its native
code ended with a result after some events, and the result was copied,
released if it has a release function, and only then the handle given up. -/
structure Executes (vm : Vm ν) (message : Message) (code : Bytes) (before after : Process κ ν σ)
    (ending : Ending ExecutionResult) (callbacks : List Event) (native : NativeResult) :
    Prop where
  since : before.Since after
    (beginning vm message code before.registry.nextHandle ++ callbacks ++
      (.copied before.registry.nextHandle :: releasing native) ++
      [.unregistered before.registry.nextHandle] ++ ending.reporting)
  concludes : Ending.Concludes before.registry.nextHandle callbacks native ending
  unconcluded : ∀ event ∈ callbacks, event.concludes before.registry.nextHandle = false
  given_up : after.registry.isLive before.registry.nextHandle = false

/-- What is journaled last when an execution is concluded is its result. -/
theorem reporting_concluded (middle : Process κ ν σ) (handle : Nat) (native : NativeResult) :
    (middle.concluded handle native).1.reporting =
      if (middle.registry.parkedFault handle).isNone then [.executed native.toResult] else [] := by
  rw [concluded]
  cases middle.registry.parkedFault handle <;> rfl

theorem concludes_concluded {middle : Process κ ν σ} {handle : Nat} {callbacks : List Event}
    (fault_eq : middle.registry.parkedFault handle =
      callbacks.findSome? (Event.faultUnder? handle)) (native : NativeResult) :
    Ending.Concludes handle callbacks native (middle.concluded handle native).1 := by
  rw [concluded]
  cases parked : middle.registry.parkedFault handle with
  | none => exact .returned (fault_eq.symm.trans parked) native.copiedAs_toResult
  | some fault => exact .faulted (fault_eq.symm.trans parked)

end Process

section Conclusion

variable {vm : Vm ν} {run : NativeExecute ν} {host : κ} {message : Message} {code : Bytes}
  {before : Process κ ν σ}

theorem concluded_executes {middle : Process κ ν σ} {callbacks : List Event}
    (keeps : (before.begun vm run host message code).Keeps before.registry.nextHandle middle
      callbacks) (native : NativeResult) :
    before.Executes vm message code (middle.concluded before.registry.nextHandle native).2
      (middle.concluded before.registry.nextHandle native).1 callbacks native := by
  have registered : (before.begun vm run host message code).registry.registration?
      before.registry.nextHandle = some ⟨host, none⟩ := by
    change (before.registry.register host).registration? _ = _
    rw [Registry.registration?_register, if_pos rfl]
  have registration_eq := keeps.registration_eq
  rw [registered, Option.map_some] at registration_eq
  have live : middle.registry.isLive before.registry.nextHandle = true := by
    rw [Registry.isLive_eq, registration_eq]
    rfl
  have fault_eq : middle.registry.parkedFault before.registry.nextHandle =
      callbacks.findSome? (Event.faultUnder? before.registry.nextHandle) := by
    rw [Registry.parkedFault_eq, registration_eq]
    simp [Registration.keep]
  refine ⟨?_, Process.concludes_concluded fault_eq native, keeps.unconcluded, ?_⟩
  · have happened := ((before.since_begun vm run host message code).append keeps.since).append
      (middle.since_concluded before.registry.nextHandle native)
    rw [Process.concluding, if_pos live] at happened
    rw [Process.reporting_concluded]
    simpa using happened
  · rw [Process.concluded_registry, if_pos live, Registry.isLive_eq,
      Registry.registration?_unregister, if_pos rfl]
    rfl

/-- An execution by a VM that can execute comes to an end if its native code does,
and it ends with the first fault that was reported under its handle, or else
with the copied native result. -/
theorem execute_concludes (hosting : Hosting κ ν σ) (limit : Nat)
    (executes : vm.native.execute = some run) (host : κ) (message : Message) (code : Bytes)
    (before : Process κ ν σ) :
    ((execute hosting (limit + 1) vm host message code).Finishes before ↔
        (runNative hosting (execute hosting limit) (before.course vm run message code)).Finishes
          (before.begun vm run host message code)) ∧
      (execute hosting (limit + 1) vm host message code).Ensures before fun ending after =>
        ∃ callbacks native middle,
          runNative hosting (execute hosting limit) (before.course vm run message code)
              (before.begun vm run host message code) = some (native, middle) ∧
            (before.begun vm run host message code).Since middle callbacks ∧
            before.Executes vm message code after ending callbacks native := by
  rw [execute]
  refine ⟨finishes_executeWith executes, (ensures_executeWith executes).mpr ?_⟩
  intro native middle ran
  have known : before.registry.nextHandle <
      (before.begun vm run host message code).registry.nextHandle := Nat.lt_succ_self _
  obtain ⟨callbacks, keeps⟩ :=
    runNative_keepsHandle (execute_keeps hosting limit) _ known native middle ran
  exact ⟨callbacks, native, middle, ran, keeps.since, concluded_executes keeps native⟩

end Conclusion

section Reports

variable {hosting : Hosting κ ν σ} {nested : Executor κ ν σ}

/-- The fault with which the host method of a callback fails, if it does. -/
def hostFaultOf (hosting : Hosting κ ν σ) (nested : Executor κ ν σ) (handle : Nat)
    (request : Request) (before : Process κ ν σ) : Option Fault :=
  match before.registry.resolve handle, request.decode with
  | some host, .ok delivery =>
      match HostAction.carryOut nested (hosting host delivery.method)
          ((before.journaled (.requested request.name handle)).announced delivery.method) with
      | some (.faulted fault, _) => some fault
      | _ => none
  | _, _ => none

/-- The newest event is no report of a fault. -/
def Process.NewestFaultless (process : Process κ ν σ) : Prop :=
  process.journal.head?.bind Event.hostFault? = none

/-- Executions do not end with the report of a fault. -/
def EndsFaultless (nested : Executor κ ν σ) : Prop :=
  ∀ vm host message code before, (nested vm host message code).Ensures before fun _ after =>
    after.NewestFaultless

theorem runHost_endsFaultless (nestedEnds : EndsFaultless nested) (run : HostRun κ ν σ α)
    {before : Process κ ν σ} (start : before.NewestFaultless) :
    (runHost nested run).Ensures before fun _ after => after.NewestFaultless := by
  induction run generalizing before with
  | done ending state =>
      simp only [runHost, Bridge.ensures_bind, Bridge.ensures_setHosts, Bridge.ensures_pure]
      exact start
  | note event rest ih =>
      simp only [runHost, Bridge.ensures_bind, Bridge.ensures_record]
      refine ih ?_
      obtain ⟨event, byHost⟩ := event
      cases event <;> first | rfl | cases byHost
  | execute vm host message code state resume ih =>
      simp only [runHost, Bridge.ensures_bind, Bridge.ensures_setHosts, Bridge.ensures_get]
      exact (nestedEnds vm host message code _).imp fun ending middle ends =>
        ih ending middle.hosts ends

theorem Process.newestFaultless_of_since {before after : Process κ ν σ} {events : List Event}
    (since : before.Since after events) (nonempty : events ≠ [])
    (faultless : ∀ event ∈ events, event.hostFault? = none) : after.NewestFaultless := by
  cases reversed : events.reverse with
  | nil => exact absurd (List.reverse_eq_nil_iff.mp reversed) nonempty
  | cons last rest =>
      have member : last ∈ events.reverse := by
        rw [reversed]
        exact List.mem_cons_self
      rw [NewestFaultless, since, reversed]
      exact faultless last (List.mem_reverse.mp member)

theorem execute_endsFaultless (hosting : Hosting κ ν σ) (limit : Nat) :
    EndsFaultless (execute hosting limit) := by
  cases limit with
  | zero =>
      intro vm host message code before ending after finished
      cases finished
  | succ limit =>
      intro vm host message code before
      rw [execute]
      cases executes : vm.native.execute with
      | none =>
          rw [Bridge.ensures_of_apply (executeWith_unsupported executes)]
          rfl
      | some run =>
          rw [ensures_executeWith executes]
          intro native middle _
          refine Process.newestFaultless_of_since (middle.since_concluded _ native) ?_ ?_
          · simp [Process.concluding]
          · intro event member
            rcases Process.mem_concluding member with rfl | ⟨_, rfl⟩ | rfl | rfl <;> rfl

theorem Process.NewestFaultless.head?_ne {process : Process κ ν σ}
    (newest : process.NewestFaultless) (handle : Nat) (fault : Fault) (function : String) :
    process.journal.head? ≠ some (.refused handle (.hostFaulted fault function)) := by
  intro reported
  rw [NewestFaultless, reported] at newest
  cases newest

/-- After a callback the newest event reports a fault exactly if the host method of
the callback has failed with this fault. -/
theorem deliver_reports (nestedEnds : EndsFaultless nested) (handle : Nat) (request : Request)
    (before : Process κ ν σ) :
    (deliver hosting nested handle request).Ensures before fun _ after => ∀ fault,
      after.journal.head? = some (.refused handle (.hostFaulted fault request.name.text)) ↔
        hostFaultOf hosting nested handle request before = some fault := by
  have turnedDown {error : CallbackError} (faultless : error.hostFault? = none) :
      ((before.journaled (.requested request.name handle)).refused handle
        error).NewestFaultless :=
    faultless
  cases resolved : before.registry.resolve handle with
  | none =>
      rw [Bridge.ensures_of_apply (deliver_unresolved resolved)]
      intro fault
      simp only [hostFaultOf, resolved, reduceCtorEq, iff_false]
      exact (turnedDown rfl).head?_ne handle fault _
  | some host =>
      cases decoded : request.decode with
      | error error =>
          rw [Bridge.ensures_of_apply (deliver_undecoded resolved decoded)]
          intro fault
          simp only [hostFaultOf, resolved, decoded, reduceCtorEq, iff_false]
          exact (turnedDown (request.checksOnly_decode error decoded)).head?_ne handle fault _
      | ok delivery =>
          rw [Bridge.ensures_congr (deliver_served resolved decoded), Bridge.ensures_bind]
          have announced : ((before.journaled (.requested request.name handle)).announced
              delivery.method).NewestFaultless := by
            cases delivery.method <;> rfl
          intro ending middle served
          have ends := runHost_endsFaultless nestedEnds _ announced ending middle served
          simp only [hostFaultOf, resolved, decoded, served]
          cases ending with
          | returned answer =>
              refine (Bridge.ensures_pure middle _ _).mpr fun fault => ?_
              simp only [reduceCtorEq, iff_false]
              exact ends.head?_ne handle fault _
          | faulted reason =>
              refine (Bridge.ensures_of_apply rfl _).mpr fun fault => ?_
              simp [Process.parked, Process.refused]

end Reports

end VmBridge
