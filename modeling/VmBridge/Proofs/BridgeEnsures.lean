import VmBridge.Execution

/-!
# What computations of the bridge ensure

A computation of the bridge transforms the shared state and comes to no end
when executions nest too deeply.  `Bridge.Ensures` says what holds at every
end of a computation, and `Bridge.Finishes` that there is one.  Both are
determined step by step, so that a property of a computation follows from
properties of its parts.

`NativeRun.Obeys` says of native code that it makes only certain callbacks and
ends only with certain values, whatever the callbacks are answered.
`HostAction.carryOut` is a host method as a computation of the bridge.  It turns the
steps of the method into steps of the bridge.
-/

namespace VmBridge

variable {κ ν σ α β : Type}

namespace Process

/-- The state after one more event. -/
def journaled (process : Process κ ν σ) (event : Event) : Process κ ν σ :=
  { process with journal := event :: process.journal }

@[simp] theorem journaled_hosts (process : Process κ ν σ) (event : Event) :
    (process.journaled event).hosts = process.hosts :=
  rfl

@[simp] theorem journaled_registry (process : Process κ ν σ) (event : Event) :
    (process.journaled event).registry = process.registry :=
  rfl

@[simp] theorem journaled_journal (process : Process κ ν σ) (event : Event) :
    (process.journaled event).journal = event :: process.journal :=
  rfl

/-- Between two states exactly the given events happened, in this order. -/
def Since (before after : Process κ ν σ) (events : List Event) : Prop :=
  after.journal = events.reverse ++ before.journal

theorem since_nil {before after : Process κ ν σ} (same : after.journal = before.journal) :
    before.Since after [] :=
  same

theorem since_journaled (process : Process κ ν σ) (event : Event) :
    process.Since (process.journaled event) [event] :=
  rfl

theorem Since.append {first second third : Process κ ν σ} {earlier later : List Event}
    (start : first.Since second earlier) (finish : second.Since third later) :
    first.Since third (earlier ++ later) := by
  rw [Since, finish, start, List.reverse_append, List.append_assoc]

/-- The events between two states are determined by the states. -/
theorem Since.unique {before after : Process κ ν σ} {events others : List Event}
    (happened : before.Since after events) (happened' : before.Since after others) :
    events = others := by
  have reversed := List.append_cancel_right (happened.symm.trans happened')
  exact List.reverse_inj.mp reversed

/-- After an empty journal the events are those of the whole journal. -/
theorem Since.reverse_journal {before after : Process κ ν σ} {events : List Event}
    (happened : before.Since after events) (empty : before.journal = []) :
    after.journal.reverse = events := by
  rw [happened, empty, List.append_nil, List.reverse_reverse]

end Process

namespace Bridge

/-- A condition holds at every end of a computation. -/
def Ensures (action : Bridge κ ν σ α) (before : Process κ ν σ)
    (holds : α → Process κ ν σ → Prop) : Prop :=
  ∀ value after, action before = some (value, after) → holds value after

/-- A computation comes to an end. -/
def Finishes (action : Bridge κ ν σ α) (before : Process κ ν σ) : Prop :=
  (action before).isSome = true

theorem Ensures.imp {action : Bridge κ ν σ α} {before : Process κ ν σ}
    {holds weaker : α → Process κ ν σ → Prop} (ensured : action.Ensures before holds)
    (weaken : ∀ value after, holds value after → weaker value after) :
    action.Ensures before weaker :=
  fun value after finished => weaken value after (ensured value after finished)

theorem bind_apply (action : Bridge κ ν σ α) (next : α → Bridge κ ν σ β)
    (before : Process κ ν σ) :
    (action >>= next) before =
      (action before).bind fun result => next result.1 result.2 :=
  rfl

theorem ensures_of_apply {action : Bridge κ ν σ α} {before after : Process κ ν σ} {value : α}
    (finished : action before = some (value, after)) (holds : α → Process κ ν σ → Prop) :
    action.Ensures before holds ↔ holds value after := by
  constructor
  · intro ensured
    exact ensured value after finished
  · intro held value' after' finished'
    rw [finished] at finished'
    cases finished'
    exact held

theorem ensures_congr {action other : Bridge κ ν σ α} {before start : Process κ ν σ}
    (same : action before = other start) {holds : α → Process κ ν σ → Prop} :
    action.Ensures before holds ↔ other.Ensures start holds := by
  simp only [Ensures, same]

theorem finishes_congr {action other : Bridge κ ν σ α} {before start : Process κ ν σ}
    (same : action before = other start) : action.Finishes before ↔ other.Finishes start := by
  rw [Finishes, Finishes, same]

theorem finishes_of_apply {action : Bridge κ ν σ α} {before after : Process κ ν σ} {value : α}
    (finished : action before = some (value, after)) : action.Finishes before := by
  rw [Finishes, finished]
  rfl

@[simp] theorem ensures_bind {action : Bridge κ ν σ α} {next : α → Bridge κ ν σ β}
    {before : Process κ ν σ} {holds : β → Process κ ν σ → Prop} :
    (action >>= next).Ensures before holds ↔
      action.Ensures before fun value middle => (next value).Ensures middle holds := by
  constructor
  · intro ensured value middle first value' after second
    apply ensured value' after
    rw [bind_apply, first]
    exact second
  · intro ensured value after finished
    rw [bind_apply, Option.bind_eq_some_iff] at finished
    obtain ⟨⟨middleValue, middle⟩, first, second⟩ := finished
    exact ensured middleValue middle first value after second

@[simp] theorem finishes_bind {action : Bridge κ ν σ α} {next : α → Bridge κ ν σ β}
    {before : Process κ ν σ} :
    (action >>= next).Finishes before ↔
      action.Finishes before ∧
        action.Ensures before fun value middle => (next value).Finishes middle := by
  simp only [Finishes, Ensures, bind_apply]
  cases first : action before with
  | none => simp
  | some result =>
      obtain ⟨value, middle⟩ := result
      simp

section Primitives

variable (before : Process κ ν σ)

@[simp] theorem pure_apply (value : α) :
    (pure value : Bridge κ ν σ α) before = some (value, before) :=
  rfl

@[simp] theorem get_apply :
    (get : Bridge κ ν σ (Process κ ν σ)) before = some (before, before) :=
  rfl

@[simp] theorem record_apply (event : Event) :
    (record event : Bridge κ ν σ Unit) before = some ((), before.journaled event) :=
  rfl

@[simp] theorem takeFault_apply (handle : Nat) :
    (takeFault handle : Bridge κ ν σ (Option Fault)) before =
      some (before.registry.parkedFault handle,
        { before with registry := before.registry.clearFault handle }) :=
  rfl

@[simp] theorem ensures_pure (value : α) (holds : α → Process κ ν σ → Prop) :
    (pure value : Bridge κ ν σ α).Ensures before holds ↔ holds value before :=
  ensures_of_apply rfl holds

@[simp] theorem finishes_pure (value : α) : (pure value : Bridge κ ν σ α).Finishes before :=
  rfl

@[simp] theorem ensures_get (holds : Process κ ν σ → Process κ ν σ → Prop) :
    (get : Bridge κ ν σ (Process κ ν σ)).Ensures before holds ↔ holds before before :=
  ensures_of_apply rfl holds

@[simp] theorem finishes_get : (get : Bridge κ ν σ (Process κ ν σ)).Finishes before :=
  rfl

@[simp] theorem ensures_record (event : Event) (holds : Unit → Process κ ν σ → Prop) :
    (record event).Ensures before holds ↔ holds () (before.journaled event) :=
  ensures_of_apply rfl holds

@[simp] theorem finishes_record (event : Event) :
    (record event : Bridge κ ν σ Unit).Finishes before :=
  rfl

@[simp] theorem ensures_setHosts (hosts : σ) (holds : Unit → Process κ ν σ → Prop) :
    (setHosts hosts).Ensures before holds ↔ holds () { before with hosts } :=
  ensures_of_apply rfl holds

@[simp] theorem finishes_setHosts (hosts : σ) :
    (setHosts hosts : Bridge κ ν σ Unit).Finishes before :=
  rfl

@[simp] theorem ensures_setPrivateState (vm : Vm ν) (privateState : ν)
    (holds : Unit → Process κ ν σ → Prop) :
    (setPrivateState vm privateState).Ensures before holds ↔
      holds () { before with
        privateStates := before.privateStates.insert vm.identity privateState } :=
  ensures_of_apply rfl holds

@[simp] theorem finishes_setPrivateState (vm : Vm ν) (privateState : ν) :
    (setPrivateState vm privateState : Bridge κ ν σ Unit).Finishes before :=
  rfl

@[simp] theorem ensures_register (host : κ) (holds : Nat → Process κ ν σ → Prop) :
    (register host).Ensures before holds ↔
      holds before.registry.nextHandle
        ({ before with registry := before.registry.register host }.journaled
          (.registered before.registry.nextHandle)) :=
  ensures_of_apply rfl holds

@[simp] theorem finishes_register (host : κ) :
    (register host : Bridge κ ν σ Nat).Finishes before :=
  rfl

@[simp] theorem ensures_takeFault (handle : Nat)
    (holds : Option Fault → Process κ ν σ → Prop) :
    (takeFault handle).Ensures before holds ↔
      holds (before.registry.parkedFault handle)
        { before with registry := before.registry.clearFault handle } :=
  ensures_of_apply rfl holds

@[simp] theorem finishes_takeFault (handle : Nat) :
    (takeFault handle : Bridge κ ν σ (Option Fault)).Finishes before :=
  rfl

@[simp] theorem ensures_recordFault (handle : Nat) (fault : Fault)
    (holds : Unit → Process κ ν σ → Prop) :
    (recordFault handle fault).Ensures before holds ↔
      holds () { before with registry := before.registry.recordFault handle fault } :=
  ensures_of_apply rfl holds

@[simp] theorem finishes_recordFault (handle : Nat) (fault : Fault) :
    (recordFault handle fault : Bridge κ ν σ Unit).Finishes before :=
  rfl

theorem unregister_apply_of_live {handle : Nat} (live : before.registry.isLive handle = true) :
    (unregister handle : Bridge κ ν σ Bool) before =
      some (true, { before with registry := before.registry.unregister handle }.journaled
        (.unregistered handle)) := by
  change (if before.registry.isLive handle then _ else _ : Bridge κ ν σ Bool) before = _
  rw [if_pos live]
  rfl

theorem unregister_apply_of_not_live {handle : Nat}
    (dead : before.registry.isLive handle = false) :
    (unregister handle : Bridge κ ν σ Bool) before = some (false, before) := by
  change (if before.registry.isLive handle then _ else _ : Bridge κ ν σ Bool) before = _
  rw [if_neg (by simp [dead])]
  rfl

@[simp] theorem finishes_unregister (handle : Nat) :
    (unregister handle : Bridge κ ν σ Bool).Finishes before := by
  cases live : before.registry.isLive handle with
  | true => exact finishes_of_apply (unregister_apply_of_live before live)
  | false => exact finishes_of_apply (unregister_apply_of_not_live before live)

end Primitives

end Bridge

namespace NativeRun

/-- Whatever it is answered, native code makes only certain callbacks and ends
only with certain values. -/
def Obeys (asks : Nat → Request → Prop) (yields : α → Prop) : NativeRun α → Prop
  | .done value => yields value
  | .note _ rest => rest.Obeys asks yields
  | .ask handle request resume =>
      asks handle request ∧ ∀ answer, (resume answer).Obeys asks yields

theorem obeys_bind {asks : Nat → Request → Prop} {yields : β → Prop} (run : NativeRun α)
    (next : α → NativeRun β) :
    (run.bind next).Obeys asks yields ↔
      run.Obeys asks fun value => (next value).Obeys asks yields := by
  induction run with
  | done value => rfl
  | note event rest ih => exact ih
  | ask handle request resume ih =>
      simp only [bind, Obeys]
      exact and_congr Iff.rfl (forall_congr' ih)

theorem obeys_any (run : NativeRun α) :
    run.Obeys (fun _ _ => True) fun _ => True := by
  induction run with
  | done value => trivial
  | note event rest ih => exact ih
  | ask handle request resume ih => exact ⟨trivial, ih⟩

theorem Obeys.imp {asks : Nat → Request → Prop} {yields weaker : α → Prop}
    {run : NativeRun α} (obeys : run.Obeys asks yields)
    (weaken : ∀ value, yields value → weaker value) : run.Obeys asks weaker := by
  induction run with
  | done value => exact weaken value obeys
  | note event rest ih => exact ih obeys
  | ask handle request resume ih =>
      exact ⟨obeys.1, fun answer => ih answer (obeys.2 answer)⟩

end NativeRun

section Native

variable {hosting : Hosting κ ν σ} {nested : Executor κ ν σ} {asks : Nat → Request → Prop}
  {yields : α → Prop} {course : NativeRun α} {holds : Process κ ν σ → Prop}
  {before : Process κ ν σ}

/-- What every event and every callback of native code keeps holds when the code
is done. -/
theorem runNative_keeps
    (noted : ∀ (process : Process κ ν σ) (event : NativeEvent),
      holds process → holds (process.journaled event.val))
    (served : ∀ process handle request, asks handle request → holds process →
      (deliver hosting nested handle request).Ensures process fun _ after => holds after)
    (obeys : course.Obeys asks yields) (start : holds before) :
    (runNative hosting nested course).Ensures before fun value after =>
      yields value ∧ holds after := by
  induction course generalizing before with
  | done value => simpa [runNative] using ⟨obeys, start⟩
  | note event rest ih =>
      simp only [runNative, Bridge.ensures_bind, Bridge.ensures_record]
      exact ih obeys (noted before event start)
  | ask handle request resume ih =>
      simp only [runNative, Bridge.ensures_bind]
      refine (served before handle request obeys.1 start).imp ?_
      intro answer middle held
      exact ih answer (obeys.2 answer) held

/-- Native code comes to an end if each of its callbacks does. -/
theorem runNative_finishes
    (noted : ∀ (process : Process κ ν σ) (event : NativeEvent),
      holds process → holds (process.journaled event.val))
    (served : ∀ process handle request, asks handle request → holds process →
      (deliver hosting nested handle request).Ensures process fun _ after => holds after)
    (answered : ∀ process handle request, asks handle request → holds process →
      (deliver hosting nested handle request).Finishes process)
    (obeys : course.Obeys asks yields) (start : holds before) :
    (runNative hosting nested course).Finishes before := by
  induction course generalizing before with
  | done value => exact Bridge.finishes_pure before value
  | note event rest ih =>
      simp only [runNative, Bridge.finishes_bind, Bridge.finishes_record, Bridge.ensures_record,
        true_and]
      exact ih obeys (noted before event start)
  | ask handle request resume ih =>
      simp only [runNative, Bridge.finishes_bind]
      refine ⟨answered before handle request obeys.1 start, ?_⟩
      refine (served before handle request obeys.1 start).imp ?_
      intro answer middle held
      exact ih answer (obeys.2 answer) held

end Native

/-- What the state of the hosts was before a method makes no difference: the
method puts its own state in place before anything looks at it. -/
theorem runHost_replaced (nested : Executor κ ν σ) (run : HostRun κ ν σ α)
    (process : Process κ ν σ) (hosts : σ) :
    runHost nested run { process with hosts } = runHost nested run process := by
  induction run generalizing process with
  | done ending state => rfl
  | note event rest ih => exact ih (process.journaled event)
  | execute vm host message code state resume _ => rfl

namespace HostAction

/-- A host method as a computation of the bridge. -/
def carryOut (nested : Executor κ ν σ) (action : HostAction κ ν σ α) :
    Bridge κ ν σ (Ending α) := do
  let process ← get
  runHost nested (action process.hosts)

/-- How a method goes on after one of its steps. -/
def afterStep (nested : Executor κ ν σ) (next : α → HostAction κ ν σ β) :
    Ending α → Bridge κ ν σ (Ending β)
  | .returned value => carryOut nested (next value)
  | .faulted fault => pure (.faulted fault)

theorem runHost_bind (nested : Executor κ ν σ) (run : HostRun κ ν σ α)
    (next : α → HostAction κ ν σ β) :
    runHost nested (run.bind next) = runHost nested run >>= afterStep nested next := by
  induction run with
  | done ending state =>
      cases ending with
      | returned value =>
          funext process
          exact (runHost_replaced nested (next value state) process state).symm
      | faulted fault => rfl
  | note event rest ih =>
      change (Bridge.record event.val >>= fun _ => runHost nested (rest.bind next)) = _
      rw [ih, runHost, bind_assoc]
  | execute vm host message code state resume ih =>
      simp only [HostRun.bind, runHost, bind_assoc, ih]

theorem carryOut_bind (nested : Executor κ ν σ) (action : HostAction κ ν σ α)
    (next : α → HostAction κ ν σ β) :
    carryOut nested (action >>= next) = carryOut nested action >>= afterStep nested next := by
  funext process
  exact congrFun (runHost_bind nested (action process.hosts) next) process

theorem carryOut_execute (nested : Executor κ ν σ) (vm : Vm ν) (host : κ) (message : Message)
    (code : Bytes) :
    carryOut nested (execute vm host message code) = nested vm host message code := by
  funext process
  change ((nested vm host message code) process).bind _ = _
  cases nested vm host message code process <;> rfl

end HostAction

end VmBridge
