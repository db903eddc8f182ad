import VmBridge.Proofs.PairedRuns

/-!
# Verbosities and handles decide nothing

Code of the example VM makes its callbacks with the handle that it was given, and
looks at its verbosity only to note what it does.  So neither the handles of a
registry nor the verbosity of the VM have any influence on what becomes of a message:
`run_indifferent` says that two runs of the same message on alike contexts lead to
the same ending and to the same world, whatever their registries and verbosities.
-/

namespace VmBridge

variable {α β : Type}

namespace Step

variable {handle handle' : Nat}

/-- Two steps are alike if their courses are. -/
def Alike (handle handle' : Nat) (step step' : Step α) : Prop :=
  NativeRun.Alike handle handle' step.run step'.run

theorem alike_pure (value : α) : Alike handle handle' (pure value) (pure value) := .done _

theorem alike_throw (status : StatusCode) :
    Alike handle handle' (throw status : Step α) (throw status) :=
  .done _

theorem alike_bind {step step' : Step α} {next next' : α → Step β}
    (first : Alike handle handle' step step')
    (second : ∀ value, Alike handle handle' (next value) (next' value)) :
    Alike handle handle' (step >>= next) (step' >>= next') := by
  rw [Alike, ExceptT.run_bind, ExceptT.run_bind]
  refine NativeRun.Alike.bind first fun result => ?_
  cases result with
  | ok value => exact second value
  | error status => exact .done _

theorem alike_note (event : NativeEvent) : Alike handle handle' (note event) (note event) :=
  .note rfl (.done _)

end Step

/-- The same frame with another handle and another verbosity. -/
def Frame.under (frame : Frame) (handle verbosity : Nat) : Frame :=
  { frame with handle, verbosity }

section Frames

variable (frame : Frame) (handle verbosity : Nat)

theorem Step.alike_ask (request : Request) :
    Step.Alike frame.handle handle (Step.ask frame request)
      (Step.ask (frame.under handle verbosity) request) := by
  change NativeRun.Alike frame.handle handle
    (if frame.table request.name then _ else _ : Step _).run
    (if frame.table request.name then _ else _ : Step _).run
  split
  · exact .ask request fun answer => .done _
  · exact .done _

theorem performCall_alike (gasLeft : Int) (kind : CallKind) (address : Address) (gas : UInt64)
    (value salt : Word) (input : Bytes) :
    Step.Alike frame.handle handle (performCall frame gasLeft kind address gas value salt input)
      (performCall (frame.under handle verbosity) gasLeft kind address gas value salt input) := by
  unfold performCall
  change Step.Alike frame.handle handle (if frame.isStatic && _ then _ else _)
    (if frame.isStatic && _ then _ else _)
  split
  · exact Step.alike_throw _
  · change Step.Alike frame.handle handle (if maxCallDepth ≤ frame.message.depth then _ else _)
      (if maxCallDepth ≤ frame.message.depth then _ else _)
    split
    · exact Step.alike_pure _
    · refine Step.alike_bind (Step.alike_ask frame handle verbosity _) fun result => ?_
      cases result.release with
      | none => exact Step.alike_pure _
      | some release => exact Step.alike_bind (Step.alike_note _) fun _ => Step.alike_pure _

theorem perform_alike (gasLeft : Int) (command : Command) :
    Step.Alike frame.handle handle (perform frame gasLeft command)
      (perform (frame.under handle verbosity) gasLeft command) := by
  have asked (request : Request) {next next' : request.Answer → Step Progress}
      (goesOn : ∀ answer, Step.Alike frame.handle handle (next answer) (next' answer)) :
      Step.Alike frame.handle handle (Step.ask frame request >>= next)
        (Step.ask (frame.under handle verbosity) request >>= next') :=
    Step.alike_bind (Step.alike_ask frame handle verbosity request) goesOn
  cases command with
  | stop | revert | echo => exact Step.alike_pure _
  | invalid => exact Step.alike_throw _
  | loadSlot key => exact asked _ fun _ => asked _ fun _ => Step.alike_pure _
  | call kind address gas value salt input => exact performCall_alike _ _ _ _ _ _ _ _ _ _
  | accountCode address =>
      exact asked _ fun _ => asked _ fun _ => asked _ fun _ => Step.alike_pure _
  | _ => exact asked _ fun _ => Step.alike_pure _

theorem abortAt_alike (position : Nat) (status : StatusCode) :
    NativeRun.Alike frame.handle handle (abortAt frame position status)
      (abortAt (frame.under handle verbosity) position status) := by
  have ended : NativeRun.Alike frame.handle handle (.done (Outcome.aborted status))
      (.done (Outcome.aborted status)) := .done _
  rw [abortAt, abortAt]
  split <;> split
  · exact ended
  · exact .aside' rfl ended
  · exact .aside rfl ended
  · exact .note rfl ended

theorem interpret_alike (cursor : Cursor) (gasLeft : Int) (pieces : List Bytes) :
    NativeRun.Alike frame.handle handle (interpret frame cursor gasLeft pieces)
      (interpret (frame.under handle verbosity) cursor gasLeft pieces) := by
  fun_induction interpret frame cursor gasLeft pieces with
  | case1 cursor gasLeft pieces code =>
      obtain ⟨position, bytes⟩ := cursor
      obtain rfl : bytes = [] := code
      rw [interpret]
      exact .done _
  | case2 cursor gasLeft pieces opcode rest code afterOpcode short =>
      obtain ⟨position, bytes⟩ := cursor
      obtain rfl : bytes = opcode :: rest := code
      rw [interpret]
      dsimp only
      rw [if_pos short]
      exact abortAt_alike frame handle verbosity _ _
  | case3 cursor gasLeft pieces opcode rest code afterOpcode charged ih =>
      obtain ⟨position, bytes⟩ := cursor
      obtain rfl : bytes = opcode :: rest := code
      rw [interpret]
      dsimp only
      rw [if_neg charged]
      refine .note rfl ?_
      split
      · rename_i status stopped read
        split
        · rename_i status' stopped' read'
          cases read.symm.trans read'
          exact abortAt_alike frame handle verbosity _ _
        · rename_i command next read'
          cases read.symm.trans read'
      · rename_i command next read
        split
        · rename_i status stopped read'
          cases read.symm.trans read'
        · rename_i command' next' read'
          cases read.symm.trans read'
          refine NativeRun.Alike.bind (perform_alike frame handle verbosity _ command)
            fun result => ?_
          cases result with
          | error status => exact abortAt_alike frame handle verbosity _ _
          | ok progress =>
              cases flow : progress.flow with
              | proceed =>
                  simp only [flow]
                  exact ih command next read progress
              | halt =>
                  simp only [flow]
                  exact .done _
              | revert =>
                  simp only [flow]
                  exact .done _

theorem runAloud_alike (code : Bytes) :
    NativeRun.Alike frame.handle handle (ExampleVm.runAloud frame code)
      (ExampleVm.runAloud (frame.under handle verbosity) code) := by
  have ran : NativeRun.Alike frame.handle handle (runCode frame code)
      (runCode (frame.under handle verbosity) code) :=
    interpret_alike frame handle verbosity ⟨0, code⟩ (startingGas frame.message) []
  have bound_done (run : NativeRun Outcome) : run.bind .done = run := by
    induction run with
    | done outcome => rfl
    | note event rest ih => exact congrArg (NativeRun.note event) ih
    | ask handle request resume ih => exact congrArg (NativeRun.ask handle request) (funext ih)
  have ended (outcome : Outcome) :
      NativeRun.Alike frame.handle handle (.done outcome) (.done outcome) := .done outcome
  rw [ExampleVm.runAloud, ExampleVm.runAloud]
  split <;> split
  · exact ran
  · refine .aside' rfl ?_
    rw [← bound_done (runCode frame code)]
    exact ran.bind fun outcome => .aside' rfl (ended outcome)
  · refine .aside rfl ?_
    rw [← bound_done (runCode (frame.under handle verbosity) code)]
    exact ran.bind fun outcome => .aside rfl (ended outcome)
  · exact .note rfl (ran.bind fun outcome => .note rfl (ended outcome))

end Frames

/-- Executing a message, the example VM does the same with any handle and any
verbosity. -/
theorem ExampleVm.execute_alike (provider : Provider) (verbosity verbosity' handle handle' : Nat)
    (message : Message) (code : Bytes) :
    NativeRun.Alike handle handle'
      (execute provider (some verbosity) (invocation handle message code))
      (execute provider (some verbosity') (invocation handle' message code)) := by
  rw [execute_invocation, execute_invocation]
  refine NativeRun.Alike.bind ?_ fun outcome => .done _
  exact runAloud_alike (frameOf provider verbosity handle message) handle'
    (audibleVerbosity provider verbosity') code

section Executions

/-- Around the native code of two executions the same happens, if the code ended with
the same result and the executions end alike. -/
theorem Process.Executes.parallel {vm vm' : Vm Nat} {message : Message} {code : Bytes}
    {before after start finish : MockProcess} {ending : Ending ExecutionResult}
    {callbacks callbacks' : List Event} {native : NativeResult}
    (native_eq : vm.native = vm'.native)
    (executes : before.Executes vm message code after ending callbacks native)
    (executes' : start.Executes vm' message code finish ending callbacks' native)
    (same : Event.essence callbacks = Event.essence callbacks') :
    before.Parallel after start finish := by
  refine ⟨_, _, executes.since, executes'.since, ?_⟩
  have begun : Event.essence (beginning vm message code before.registry.nextHandle) =
      Event.essence (beginning vm' message code start.registry.nextHandle) := by
    rw [beginning, beginning, native_eq]
    rfl
  rw [Event.essence, Event.essence] at same begun
  simp only [Event.essence, List.filterMap_append, same, begun]
  rfl

theorem Process.serving_begun (before : MockProcess) (vm : Vm Nat) (run : NativeExecute Nat)
    (message : Message) (code : Bytes) :
    (before.begun vm run () message code).Serving before.registry.nextHandle where
  known := Nat.lt_succ_self _
  resolved := by
    change (before.registry.register ()).resolve before.registry.nextHandle = some ()
    rw [Registry.resolve_register, if_pos rfl]

/-- Executions end alike if their native code ended with the same result while the same
happened. -/
theorem Ending.Concludes.unique {handle handle' : Nat} {callbacks callbacks' : List Event}
    {native : NativeResult} {ending ending' : Ending ExecutionResult}
    (concludes : Concludes handle callbacks native ending)
    (concludes' : Concludes handle' callbacks' native ending')
    (own : Event.OwnFaults handle callbacks) (own' : Event.OwnFaults handle' callbacks')
    (same : Event.essence callbacks = Event.essence callbacks') : ending = ending' := by
  have first_eq : callbacks.findSome? (Event.faultUnder? handle) =
      callbacks'.findSome? (Event.faultUnder? handle') := by
    rw [← own.first_eq, ← own'.first_eq, ← Event.firstFault?_essence callbacks, same,
      Event.firstFault?_essence]
  cases concludes with
  | faulted first =>
      rw [first] at first_eq
      cases concludes' with
      | faulted first' => exact congrArg Ending.faulted (Option.some.inj (first_eq.trans first'))
      | returned faultless' => cases first_eq.trans faultless'
  | returned faultless copied =>
      rw [faultless] at first_eq
      cases concludes' with
      | faulted first' => cases first_eq.trans first'
      | returned _ copied' => exact congrArg Ending.returned (copied.unique copied')

theorem concluded_alongside {vm vm' : Vm Nat} {run : NativeExecute Nat} {message : Message}
    {code : Bytes} {before start middle turn : MockProcess} {native native' : NativeResult}
    {callbacks callbacks' : List Event} (native_eq : vm.native = vm'.native)
    (ran : Alongside (before.begun vm run () message code) (start.begun vm' run () message code)
      native middle native' turn)
    (keeps : (before.begun vm run () message code).Keeps before.registry.nextHandle middle
      callbacks)
    (keeps' : (start.begun vm' run () message code).Keeps start.registry.nextHandle turn callbacks')
    (own : Event.OwnFaults before.registry.nextHandle callbacks)
    (own' : Event.OwnFaults start.registry.nextHandle callbacks') :
    Alongside before start (middle.concluded before.registry.nextHandle native).1
      (middle.concluded before.registry.nextHandle native).2
      (turn.concluded start.registry.nextHandle native').1
      (turn.concluded start.registry.nextHandle native').2 := by
  obtain ⟨rfl, alike, events, events', since, since', same⟩ := ran
  rw [since.unique keeps.since, since'.unique keeps'.since] at same
  have executes := concluded_executes keeps native
  have executes' := concluded_executes keeps' native
  have ending_eq := executes.concludes.unique executes'.concludes own own' same
  refine ⟨ending_eq, by simpa using alike, ?_⟩
  rw [ending_eq] at executes
  exact executes.parallel native_eq executes' same

/-- The example VM executes a message alike for alike contexts, whatever the next handle
and its verbosity are. -/
theorem execute_paired (limit : Nat) : ExecutesAlike (execute MockContext.hosting limit) := by
  induction limit with
  | zero => exact fun _ _ _ _ _ _ _ _ _ => .none
  | succ limit ih =>
      intro vm vm' message code before start isExample native_eq alike
      obtain ⟨provider, executes⟩ := isExample.executes
      have executes' : vm'.native.execute = some (ExampleVm.nativeExecute provider) :=
        native_eq ▸ executes
      let run := ExampleVm.nativeExecute provider
      have alikeBegun : (before.begun vm run () message code).hosts.Alike
          (start.begun vm' run () message code).hosts := alike
      have serving := before.serving_begun vm run message code
      have serving' := start.serving_begun vm' run message code
      have nestedKeeps : KeepsKnown
          (execute MockContext.hosting limit : Executor Unit Nat (MockContext Nat)) :=
        execute_keeps _ limit
      have courses := ExampleVm.execute_alike provider (before.privateState vm)
        (start.privateState vm') before.registry.nextHandle start.registry.nextHandle message code
      have paired := runNative_paired ih nestedKeeps courses serving serving' alikeBegun
      have kept := paired.and_ensures (runNative_keepsHandle nestedKeeps _ serving.known)
        (runNative_keepsHandle nestedKeeps _ serving'.known)
      have owned := kept.and_ensures
        (runNative_ownFaults limit (execute_relays limit) serving.known alikeBegun.uses)
        (runNative_ownFaults limit (execute_relays limit) serving'.known
          alikeBegun.usesExampleVm)
      refine Bridge.paired_executeWith executes executes' (owned.imp ?_)
      rintro native middle native' turn ⟨⟨ran, ⟨callbacks, keeps⟩, ⟨callbacks', keeps'⟩⟩,
        ⟨events, since, own⟩, ⟨events', since', own'⟩⟩
      rw [since.unique keeps.since] at own
      rw [since'.unique keeps'.since] at own'
      exact concluded_alongside native_eq ran keeps keeps' own own'

end Executions

namespace MockContext

/-- Two runs of the same message on alike contexts lead to the same. -/
theorem run_paired (limit : Nat) (message : Message) {first second : MockProcess}
    (alike : first.hosts.Alike second.hosts) :
    Bridge.Paired (run limit message) first (run limit message) second
      (Alongside first second) := by
  have native_eq := alike.native_eq
  cases found : first.hosts.vm <;> cases found' : second.hosts.vm <;>
    rw [found, found'] at native_eq
  · exact Bridge.paired_of_apply (run_of_no_vm found) (run_of_no_vm found')
      ⟨rfl, alike, .refl first second⟩
  · cases native_eq
  · cases native_eq
  · rw [Bridge.Paired, run_of_vm found, run_of_vm found', ← alike.world_eq]
    exact execute_paired limit _ _ message _ first second (alike.uses _ found)
      (Option.some.inj native_eq) alike

/-- Neither handles nor verbosities decide anything.  Two runs of the same message, on
contexts that are the same but for the identities of their VMs, lead to the same
ending, the same world with its logs, and the same records of calls.  What happened is
the same but for handles and for what a verbosity makes the VM note.  The registries,
the verbosities and all that happened before may be any. -/
theorem run_indifferent (limit : Nat) (message : Message) (first second : MockProcess)
    (alike : first.hosts.Alike second.hosts) (enough : message.spendableGas < limit) :
    ∃ ending after after', run limit message first = some (ending, after) ∧
      run limit message second = some (ending, after') ∧
      after.hosts.world = after'.hosts.world ∧
      after.hosts.calls = after'.hosts.calls ∧
      first.Parallel after second after' := by
  have paired := run_paired limit message alike
  obtain ⟨⟨ending, after⟩, finished⟩ :=
    Option.isSome_iff_exists.mp (run_finishes alike.uses enough)
  obtain ⟨⟨ending', after'⟩, finished'⟩ :=
    Option.isSome_iff_exists.mp (run_finishes alike.usesExampleVm enough)
  rw [Bridge.Paired, finished, finished'] at paired
  obtain ⟨value_eq, alikeAfter, parallel⟩ : Alongside first second ending after ending' after' := by
    cases paired with
    | some alongside => exact alongside
  subst value_eq
  refine ⟨ending, after, after', finished, finished', alikeAfter.world_eq, ?_, parallel⟩
  rw [calls, calls, alikeAfter.newestCalls_eq]

/-- The code of the first account calls the second one, whose code is invalid. -/
def callingInvalid : MockContext Nat :=
  onExampleVm [
    (.ofNat 20 1, .running [.plainCall .call (.ofNat 20 2) 10 [], .stop]),
    (.ofNat 20 2, .running [.access (.ofNat 20 1), .invalid])]

def silentProcess : MockProcess := .initial callingInvalid

/-- A process in which the VM is verbose and two other hosts are live. -/
def verboseProcess : MockProcess :=
  { silentProcess with
    registry := (Registry.empty.register ()).register ()
    privateStates := Table.empty.insert ExampleVm.bundled.identity 2 }

/-- Verbosity and the handles in use change nothing here either. -/
theorem run_verbose :
    silentProcess.hosts.Alike verboseProcess.hosts ∧
      ∃ ending after after',
        run 101 (.calling (.ofNat 20 1) 100) silentProcess = some (ending, after) ∧
        run 101 (.calling (.ofNat 20 1) 100) verboseProcess = some (ending, after') ∧
        after.hosts.world = after'.hosts.world ∧ after.hosts.calls = after'.hosts.calls ∧
        silentProcess.Parallel after verboseProcess after' := by
  have alike : silentProcess.hosts.Alike verboseProcess.hosts := {
    world_eq := rfl
    newestCalls_eq := rfl
    txContext_eq := rfl
    faultIn_eq := rfl
    native_eq := rfl
    uses := usesExampleVm_onExampleVm _ }
  exact ⟨alike, run_indifferent 101 _ _ _ alike (by decide)⟩

end MockContext

end VmBridge
