import VmBridge.Proofs.FirstFault
import VmBridge.Proofs.MachineInterpreter
import VmBridge.Proofs.NullBuffers

/-!
# Call commands against a mock context

A call command sends a message to the host of its frame and appends what it is answered.
`CallCommand.Ends` lists how the command can end when the host is a mock context:
`perform_ends`.  The context may execute the message on any VM.  It compares the whole
status of the result with a success, and keeps the changes of the message or takes them
back: `MockAction.call_settles`.
-/

namespace VmBridge

open HostAction

variable {κ ν σ : Type}

namespace Process

/-- The state after a native result has been released. -/
def released (process : Process κ ν σ) (native : NativeResult) : Process κ ν σ :=
  { process with journal := (releasing native).reverse ++ process.journal }

theorem since_released (process : Process κ ν σ) (native : NativeResult) :
    process.Since (process.released native) (releasing native) :=
  rfl

end Process

/-- The operands of a call command. -/
structure CallCommand where
  kind : CallKind
  address : Address
  gas : UInt64
  value : Word
  salt : Word
  input : Bytes

namespace CallCommand

def command (call : CallCommand) : Command :=
  .call call.kind call.address call.gas call.value call.salt call.input

/-- The command would create an account or move value although its frame is static. -/
def Violates (call : CallCommand) (frame : Frame) : Prop :=
  frame.isStatic = true ∧
    (call.kind.isCreate = true ∨ call.kind = .call ∧ call.value ≠ .zero 32)

/-- The message that the command sends, as native code writes it. -/
def sent (call : CallCommand) (frame : Frame) (gasLeft : Int) : NativeMessage :=
  nestedMessage frame.message call.kind call.address (grantedGas call.gas gasLeft) call.value
    call.salt call.input

/-- The message that the host is asked to serve. -/
def message (call : CallCommand) (frame : Frame) (gasLeft : Int) : Message where
  kind := call.kind
  isStatic := frame.isStatic
  depth := frame.message.depth + 1
  gas := Int64.ofInt (grantedGas call.gas gasLeft)
  recipient :=
    match call.kind with
    | .call => call.address
    | .callCode | .delegateCall => frame.message.recipient
    | .create | .create2 => .zero 20
  sender :=
    match call.kind with
    | .delegateCall => frame.message.sender
    | _ => frame.message.recipient
  input := call.input
  value :=
    match call.kind with
    | .delegateCall => frame.message.value
    | _ => call.value
  salt := call.salt
  codeAddress := call.address

theorem toMessage_sent (call : CallCommand) (frame : Frame) (gasLeft : Int) :
    (call.sent frame gasLeft).toMessage = .ok (call.message frame gasLeft) := by
  simp only [sent, nestedMessage, NativeMessage.toMessage, CallKind.ofRaw_raw, Except.map,
    Span.contents_lend]
  rfl

/-- What the command leads to when its message is answered. -/
def progress (call : CallCommand) (gasLeft : Int) (answer : NativeResult) : Progress where
  gasLeft :=
    gasLeft - (grantedGas call.gas gasLeft -
      returnedGas (grantedGas call.gas gasLeft) answer.gasLeft.toInt)
  appended :=
    statusByte answer.status ::
      if call.kind.isCreate then answer.createAddress.toList else answer.output.contents
  flow := .proceed

/-- How the command goes on when its message is answered. -/
def conclude (call : CallCommand) (gasLeft : Int) (answer : NativeResult) : Step Progress := do
  match answer.release with
  | some release => Step.note ⟨.released release, byNativeCode_released release⟩
  | none => pure ()
  pure (call.progress gasLeft answer)

/-- What the command leads to in a frame that lies too deep down to send messages. -/
def unmade (call : CallCommand) (gasLeft : Int) : Progress where
  gasLeft := gasLeft
  appended :=
    statusByte StatusCode.callDepthExceeded.raw ::
      if call.kind.isCreate then (FixedBytes.zero 20).toList else []
  flow := .proceed

section Performing

variable {hosting : Hosting κ ν σ} {nested : Executor κ ν σ} {frame : Frame} {gasLeft : Int}
  {call : CallCommand} {before : Process κ ν σ}

theorem violates_iff :
    (frame.isStatic && (call.kind.isCreate || (call.kind == .call && call.value != .zero 32))) =
      true ↔ call.Violates frame := by
  simp [Violates]

theorem run_refused (violates : call.Violates frame) :
    (perform frame gasLeft call.command).run = .done (.error .staticModeViolation) := by
  change (performCall _ _ _ _ _ _ _ _).run = _
  rw [performCall, if_pos (violates_iff.mpr violates)]
  rfl

theorem runNative_conclude (answer : NativeResult) (middle : Process κ ν σ) :
    runNative hosting nested (call.conclude gasLeft answer).run middle =
      some (.ok (call.progress gasLeft answer), middle.released answer) := by
  rw [conclude, Process.released, Process.releasing]
  cases answer.release <;> rfl

variable (permitted : ¬call.Violates frame)

include permitted

theorem run_unmade (deep : maxCallDepth ≤ frame.message.depth) :
    (perform frame gasLeft call.command).run = .done (.ok (call.unmade gasLeft)) := by
  change (performCall _ _ _ _ _ _ _ _).run = _
  rw [performCall, if_neg (mt violates_iff.mp permitted), if_pos deep]
  rfl

variable (shallow : ¬maxCallDepth ≤ frame.message.depth)

include shallow

theorem perform_eq_ask :
    perform frame gasLeft call.command =
      Step.ask frame (.call (some (call.sent frame gasLeft))) >>= call.conclude gasLeft := by
  change performCall _ _ _ _ _ _ _ _ = _
  rw [performCall, if_neg (mt violates_iff.mp permitted), if_neg shallow]
  rfl

theorem run_unanswerable (empty : frame.table .call = false) :
    (perform frame gasLeft call.command).run = .done (.error .internalError) := by
  have unasked : Step.ask frame (.call (some (call.sent frame gasLeft))) =
      throw StatusCode.internalError :=
    if_neg (by simp [Request.name, empty])
  rw [perform_eq_ask permitted shallow, unasked]
  rfl

theorem runNative_sent (filled : frame.table .call = true) :
    runNative hosting nested (perform frame gasLeft call.command).run before =
      (deliver hosting nested frame.handle (.call (some (call.sent frame gasLeft))) before).map
        fun answered =>
          (.ok (call.progress gasLeft answered.1), answered.2.released answered.1) := by
  have asked : Step.ask frame (.call (some (call.sent frame gasLeft))) =
      ExceptT.lift (.ask frame.handle (.call (some (call.sent frame gasLeft))) .done) :=
    if_pos filled
  rw [perform_eq_ask permitted shallow, asked, Option.map_eq_bind]
  exact Option.bind_congr fun answered _ => runNative_conclude answered.1 answered.2

end Performing

section Serving

variable {ν : Type} (nested : Executor Unit ν (MockContext ν)) (frame : Frame) (gasLeft : Int)
  (call : CallCommand) (before : Process Unit ν (MockContext ν))

/-- The state in which the context begins to serve the message of the command. -/
def asked : Process Unit ν (MockContext ν) :=
  (before.journaled (.requested .call frame.handle)).journaled
    (.nestedCall (call.message frame gasLeft))

/-- The service of the message of the command comes to an end. -/
def Served (ending : Ending ExecutionResult) (served : Process Unit ν (MockContext ν)) : Prop :=
  carryOut nested (MockContext.hosting () (.call (call.message frame gasLeft)))
    (call.asked frame gasLeft before) = some (ending, served)

/-- How the command can end while some events happen. -/
inductive Ends :
    Except StatusCode Progress → Process Unit ν (MockContext ν) → List Event → Prop where
  | refused (violates : call.Violates frame) : Ends (.error .staticModeViolation) before []
  | unmade (permitted : ¬call.Violates frame) (deep : maxCallDepth ≤ frame.message.depth) :
      Ends (.ok (call.unmade gasLeft)) before []
  /-- There is no callback for messages. -/
  | unanswerable (empty : frame.table .call = false) : Ends (.error .internalError) before []
  | answered {result : ExecutionResult} {served : Process Unit ν (MockContext ν)}
      {inner : List Event} (shallow : ¬maxCallDepth ≤ frame.message.depth)
      (finished : call.Served nested frame gasLeft before (.returned result) served)
      (since : (call.asked frame gasLeft before).Since served inner) :
      Ends (.ok (call.progress gasLeft result.toNative)) (served.released result.toNative)
        (.requested .call frame.handle :: .nestedCall (call.message frame gasLeft) :: inner ++
          Process.releasing result.toNative)
  /-- A host failed, which the frame is told as an internal error. -/
  | contained {fault : Fault} {served : Process Unit ν (MockContext ν)} {inner : List Event}
      (shallow : ¬maxCallDepth ≤ frame.message.depth)
      (finished : call.Served nested frame gasLeft before (.faulted fault) served)
      (since : (call.asked frame gasLeft before).Since served inner) :
      Ends (.ok (call.progress gasLeft ExecutionResult.internalError.toNative))
        (served.parked frame.handle fault "call")
        (.requested .call frame.handle :: .nestedCall (call.message frame gasLeft) :: inner ++
          [.refused frame.handle (.hostFaulted fault "call")])

variable {nested frame gasLeft call before}

theorem since_asked :
    before.Since (call.asked frame gasLeft before)
      [.requested .call frame.handle, .nestedCall (call.message frame gasLeft)] :=
  rfl

theorem Ends.since {ending : Except StatusCode Progress} {after : Process Unit ν (MockContext ν)}
    {events : List Event} (ends : call.Ends nested frame gasLeft before ending after events) :
    before.Since after events := by
  cases ends with
  | refused | unmade | unanswerable => exact Process.since_nil rfl
  | @answered result served inner _ _ since =>
      exact (since_asked.append since).append (served.since_released result.toNative)
  | @contained fault served inner _ _ since =>
      have parked : served.Since (served.parked frame.handle fault "call")
          [.refused frame.handle (.hostFaulted fault "call")] := rfl
      exact (since_asked.append since).append parked

/-- Whatever the nested executions do, the journal of a method only grows. -/
theorem carryOut_since {α : Type} (nestedKeeps : KeepsKnown nested) (action : MockAction ν α)
    (process : Process Unit ν (MockContext ν)) :
    (carryOut nested action).Ensures process fun _ after =>
      ∃ events, process.Since after events := by
  have known : 0 < process.registry.nextHandle := process.registry.one_le_nextHandle
  refine (runHost_keeps nestedKeeps (action process.hosts) known).imp ?_
  rintro _ after ⟨events, keeps⟩
  exact ⟨events, keeps.since⟩

theorem perform_ends (nestedKeeps : KeepsKnown nested)
    (live : before.registry.resolve frame.handle = some ()) :
    (runNative MockContext.hosting nested (perform frame gasLeft call.command).run).Ensures before
      fun ending after => ∃ events, call.Ends nested frame gasLeft before ending after events := by
  by_cases violates : call.Violates frame
  · rw [run_refused violates]
    exact (Bridge.ensures_pure _ _ _).mpr ⟨[], .refused violates⟩
  by_cases deep : maxCallDepth ≤ frame.message.depth
  · rw [run_unmade violates deep]
    exact (Bridge.ensures_pure _ _ _).mpr ⟨[], .unmade violates deep⟩
  cases filled : frame.table .call with
  | false =>
      rw [run_unanswerable violates deep filled]
      exact (Bridge.ensures_pure _ _ _).mpr ⟨[], .unanswerable filled⟩
  | true =>
      intro ending after finished
      have decoded := Request.decode_call_of_ok (call.toMessage_sent frame gasLeft)
      rw [runNative_sent violates deep filled, deliver_served live decoded, Bridge.bind_apply,
        Option.map_eq_some_iff] at finished
      obtain ⟨⟨answer, middle⟩, delivered, concluded⟩ := finished
      obtain ⟨⟨served, later⟩, carried, encoded⟩ := Option.bind_eq_some_iff.mp delivered
      obtain ⟨inner, since⟩ := carryOut_since nestedKeeps _ _ _ _ carried
      cases served with
      | returned result =>
          cases encoded
          cases concluded
          exact ⟨_, .answered deep carried since⟩
      | faulted fault =>
          cases encoded
          cases concluded
          exact ⟨_, .contained deep carried since⟩

end Serving

end CallCommand

namespace MockAction

variable {ν : Type} {nested : Executor Unit ν (MockContext ν)}
  {before after : Process Unit ν (MockContext ν)} {vm : Vm ν} {message : Message}
  {ending : Ending ExecutionResult}

/-- Executions of nested messages append to the logs of the world and remove none. -/
def AppendsLogs (nested : Executor Unit ν (MockContext ν)) : Prop :=
  ∀ vm message code process, (nested vm () message code).Ensures process fun _ after =>
    process.hosts.world.newestLogs <:+ after.hosts.world.newestLogs

theorem newestLogs_executeStarted (appends : AppendsLogs nested)
    (executed : executeStarted nested before vm message (startedFrom before message) =
      some (ending, after)) :
    before.hosts.world.newestLogs <:+ after.hosts.world.newestLogs := by
  have opened := World.newestLogs_applyAll before.hosts.world (message.opening before.hosts.world)
  rw [← startedFrom_world] at opened
  exact opened.trans (appends _ _ _ _ _ _ executed)

theorem FrameEnds.newestLogs (appends : AppendsLogs nested)
    (ends : FrameEnds nested before vm message ending after) :
    before.hosts.world.newestLogs <:+ after.hosts.world.newestLogs := by
  cases ends with
  | overflown => exact List.suffix_rfl
  | unpaid =>
      change _ <:+ ((countedFrom before message).hosts.world.rolledBack _).newestLogs
      simp only [countedFrom_rolledBack, List.suffix_rfl]
  | abandoned _ executed => exact newestLogs_executeStarted appends executed
  | @undone _ done _ executed =>
      change _ <:+ (done.hosts.world.rolledBack _).newestLogs
      simp only [World.rolledBack_eq (newestLogs_executeStarted appends executed),
        List.suffix_rfl]
  | @kept result done _ executed =>
      change _ <:+ (done.changedAll _).hosts.world.newestLogs
      rw [Process.changedAll_world]
      exact (newestLogs_executeStarted appends executed).trans (World.newestLogs_applyAll _ _)

theorem hosting_newestLogs (appends : AppendsLogs nested) (method : HostMethod) :
    (carryOut nested (MockContext.hosting () method)).Ensures before fun _ after =>
      before.hosts.world.newestLogs <:+ after.hosts.world.newestLogs := by
  refine (hosting_serves nested before method).imp ?_
  intro ending after serves
  cases serves with
  | still => exact List.suffix_rfl
  | changed answer =>
      rw [Process.changedAll_world]
      exact World.newestLogs_applyAll _ _
  | called ends =>
      cases ends with
      | failing | unserved => exact List.suffix_rfl
      | framed _ frame =>
          have appended := frame.newestLogs appends
          exact appended

theorem execute_appendsLogs (limit : Nat) :
    AppendsLogs (execute (MockContext.hosting : Hosting Unit ν (MockContext ν)) limit) := by
  induction limit with
  | zero =>
      intro vm message code process ending after finished
      cases finished
  | succ limit ih =>
      intro vm message code process
      rw [execute]
      cases executes : vm.native.execute with
      | none =>
          rw [Bridge.ensures_of_apply (executeWith_unsupported executes)]
          exact List.suffix_rfl
      | some run =>
          rw [ensures_executeWith executes]
          let holds (middle : Process Unit ν (MockContext ν)) : Prop :=
            process.hosts.world.newestLogs <:+ middle.hosts.world.newestLogs
          have start : holds (process.begun vm run () message code) := List.suffix_rfl
          have noted (middle : Process Unit ν (MockContext ν)) (event : NativeEvent)
              (held : holds middle) : holds (middle.journaled event.val) := held
          refine (runNative_keeps noted ?_ (NativeRun.obeys_any _) start).imp ?_
          · intro middle handle request _ held
            refine ensures_deliver held (fun _ _ => held) fun host delivery _ _ => ?_
            refine (hosting_newestLogs ih delivery.method).imp ?_
            intro ending after appended
            rw [Process.announced_hosts] at appended
            cases ending <;> exact held.trans appended
          · intro native middle held
            rw [Process.concluded_hosts]
            exact held.2

/-- The changes of a nested message have been kept: its code ran to a success, and if it
created an account, the account got its code. -/
inductive Kept (nested : Executor Unit ν (MockContext ν)) (before : Process Unit ν (MockContext ν))
    (message : Message) : ExecutionResult → World → Prop where
  | kept {vm : Vm ν} {result : ExecutionResult} {done : Process Unit ν (MockContext ν)}
      (found : before.hosts.vm = some vm) (paid : ¬message.Unpaid before.hosts.world)
      (executed : executeStarted nested before vm message (startedFrom before message) =
        some (.returned result, done))
      (succeeded : result.isSuccess = true) :
      Kept nested before message (message.answered before.hosts.world result)
        (done.hosts.world.applyAll (message.closing before.hosts.world result.output))

/-- The context keeps the changes of a nested message if its result is a success, and
takes them back if it is not, whatever VM executed the message. -/
theorem call_settles (appends : AppendsLogs nested) (message : Message) :
    (carryOut nested (call message)).Ensures before fun ending after =>
      ∀ result, ending = .returned result →
        (result.isSuccess = true →
            Kept nested (before.withCall message) message result after.hosts.world) ∧
          (result.isSuccess = false → after.hosts.world = before.hosts.world) := by
  intro ending after finished result ended
  subst ended
  cases call_ends nested before message _ after finished with
  | unserved unsuccessful =>
      exact ⟨by simp [unsuccessful], fun _ => rfl⟩
  | framed found frame =>
      cases frame with
      | unpaid => exact ⟨nofun, fun _ => countedFrom_rolledBack⟩
      | undone _ executed unsuccessful =>
          refine ⟨by simp [unsuccessful], fun _ => ?_⟩
          exact World.rolledBack_eq (newestLogs_executeStarted appends executed)
      | @kept inner done paid executed succeeded =>
          refine ⟨fun _ => ?_, fun unsuccessful => ?_⟩
          · change Kept _ _ _ _ (done.changedAll _).hosts.world
            rw [Process.changedAll_world]
            exact .kept found paid executed succeeded
          · rw [message.isSuccess_answered, succeeded] at unsuccessful
            cases unsuccessful

end MockAction

end VmBridge
