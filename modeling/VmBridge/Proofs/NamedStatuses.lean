import VmBridge.Proofs.GasMeter
import VmBridge.Proofs.StatusBytes

/-!
# The example VM ends with named statuses

Whatever its callbacks are answered, the example VM aborts a frame with one of a few
statuses that have names, so the byte behind a call command tells whether a message that
the example VM executed was a success: `MockAction.call_endsPlainly`.  It never claims to have
created an account.
-/

namespace VmBridge

open HostAction

/-- A status is not just a number. -/
def StatusCode.IsNamed : StatusCode → Prop
  | .unknown _ => False
  | _ => True

theorem StatusCode.IsNamed.not_misleads {status : StatusCode} (named : status.IsNamed) :
    ¬status.Misleads := by
  rintro ⟨raw, rfl, _⟩
  exact named

/-- A named status is read back from its number. -/
theorem StatusCode.IsNamed.ofRaw_raw {status : StatusCode} (named : status.IsNamed) :
    ofRaw status.raw = status := by
  cases status with
  | unknown raw => exact named.elim
  | _ => rfl

namespace Step

variable {α β : Type}

/-- A step that aborts does so with a named status. -/
def Names (step : Step α) : Prop :=
  step.run.Obeys (fun _ _ => True) fun result =>
    match result with
    | .ok _ => True
    | .error status => status.IsNamed

theorem names_pure (value : α) : Names (pure value) :=
  trivial

theorem names_throw {status : StatusCode} (named : status.IsNamed) :
    Names (throw status : Step α) :=
  named

theorem names_bind {step : Step α} {next : α → Step β} (first : step.Names)
    (second : ∀ value, (next value).Names) : (step >>= next).Names := by
  rw [Names, ExceptT.run_bind]
  refine (NativeRun.obeys_bind step.run _).mpr (NativeRun.Obeys.imp first ?_)
  intro result named
  cases result with
  | ok value => exact second value
  | error status => exact named

theorem names_ask (frame : Frame) (request : Request) : (Step.ask frame request).Names := by
  rw [Step.ask]
  split
  · exact ⟨trivial, fun _ => trivial⟩
  · exact names_throw trivial

theorem names_ask_bind {frame : Frame} {request : Request} {next : request.Answer → Step α}
    (rest : ∀ answer, (next answer).Names) : (Step.ask frame request >>= next).Names :=
  names_bind (names_ask frame request) rest

end Step

section Commands

variable (frame : Frame) (gasLeft : Int)

theorem performCall_names (kind : CallKind) (address : Address) (gas : UInt64)
    (value salt : Word) (input : Bytes) :
    (performCall frame gasLeft kind address gas value salt input).Names := by
  unfold performCall
  split
  · exact Step.names_throw trivial
  split
  · exact Step.names_pure _
  refine Step.names_ask_bind fun result => ?_
  cases result.release with
  | none => exact Step.names_pure _
  | some release => exact Step.names_bind trivial fun _ => Step.names_pure _

theorem perform_names (command : Command) : (perform frame gasLeft command).Names := by
  cases command with
  | stop | revert | echo => exact Step.names_pure _
  | invalid => exact Step.names_throw trivial
  | call kind address gas value salt input => exact performCall_names frame gasLeft _ _ _ _ _ _
  | loadSlot key =>
      exact Step.names_ask_bind fun _ => Step.names_ask_bind fun _ => Step.names_pure _
  | accountCode address =>
      exact Step.names_ask_bind fun _ => Step.names_ask_bind fun _ =>
        Step.names_ask_bind fun _ => Step.names_pure _
  | storeSlot | balance | blockNumber | origin | blockHash | selfdestruct | access | log
  | accountExists =>
      exact Step.names_ask_bind fun _ => Step.names_pure _

theorem abortAt_names (position : Nat) {status : StatusCode} (named : status.IsNamed) :
    (abortAt frame position status).Obeys (fun _ _ => True)
      fun outcome => outcome.status.IsNamed := by
  rw [abortAt]
  split <;> exact named

theorem interpret_names (cursor : Cursor) (pieces : List Bytes) :
    (interpret frame cursor gasLeft pieces).Obeys (fun _ _ => True)
      fun outcome => outcome.status.IsNamed := by
  fun_induction interpret frame cursor gasLeft pieces with
  | case1 cursor gasLeft pieces _ => trivial
  | case2 cursor gasLeft pieces opcode rest _ afterOpcode _ =>
      exact abortAt_names frame _ trivial
  | case3 cursor gasLeft pieces opcode rest _ afterOpcode charged ih =>
      rw [NativeRun.Obeys]
      split
      · rename_i status stopped read
        have named : status.IsNamed :=
          Reader.abortsOnly_readCommand trivial trivial trivial _ _ _ _ _ read
        exact abortAt_names frame _ named
      · rename_i command next read
        refine (NativeRun.obeys_bind _ _).mpr
          (NativeRun.Obeys.imp (perform_names frame (gasLeft - 1) command) ?_)
        intro result named
        cases result with
        | error status => exact abortAt_names frame _ named
        | ok progress =>
            cases flow : progress.flow with
            | proceed =>
                simp only [flow]
                exact ih command next read progress
            | halt | revert =>
                simp only [flow]
                trivial

end Commands

/-- A native result has a named status and creates no account. -/
def NativeResult.IsPlain (native : NativeResult) : Prop :=
  (∃ status : StatusCode, status.IsNamed ∧ native.status = status.raw) ∧
    native.createAddress = .zero 20

theorem ExampleVm.execute_isPlain (provider : Provider) (verbosity : Option Nat)
    (arguments : Invocation) :
    (execute provider verbosity arguments).Obeys (fun _ _ => True) NativeResult.IsPlain := by
  have wraps {outcome : Outcome} (named : outcome.status.IsNamed) :
      (resultOf provider outcome).IsPlain :=
    ⟨⟨outcome.status, named, rfl⟩, rfl⟩
  unfold execute
  split
  · split
    · refine (NativeRun.obeys_bind _ _).mpr ?_
      rw [runAloud]
      split
      · exact (interpret_names _ _ _ _).imp fun _ named => wraps named
      · exact (NativeRun.obeys_bind _ _).mpr
          ((interpret_names _ _ _ _).imp fun _ named => wraps named)
    · exact wraps trivial
  · exact wraps trivial

/-- A result has a named status, and an account only if it is a success. -/
def ExecutionResult.IsPlain (result : ExecutionResult) : Prop :=
  result.status.IsNamed ∧ (result.isSuccess = false → result.createAddress = none)

theorem NativeResult.IsPlain.toResult {native : NativeResult} (plain : native.IsPlain) :
    native.toResult.IsPlain := by
  obtain ⟨⟨status, named, status_eq⟩, createAddress_eq⟩ := plain
  constructor
  · rw [NativeResult.toResult, status_eq, named.ofRaw_raw]
    exact named
  · intro _
    exact if_pos createAddress_eq

/-- Executions of the example VM end with plain results, or with a fault. -/
def EndsPlainly (nested : Executor Unit Nat (MockContext Nat)) : Prop :=
  ∀ vm message code process, vm.IsExample → (nested vm () message code).Ensures process
    fun ending _ => ∀ result, ending = .returned result → result.IsPlain

theorem execute_endsPlainly (limit : Nat) : EndsPlainly (execute MockContext.hosting limit) := by
  intro vm message code process isExample
  cases limit with
  | zero =>
      intro ending after finished
      cases finished
  | succ limit =>
      obtain ⟨provider, executes⟩ := isExample.executes
      rw [execute, ensures_executeWith executes]
      let holds (_ : MockProcess) : Prop := True
      have plain := ExampleVm.execute_isPlain provider (some (process.privateState vm))
        (invocation process.registry.nextHandle message code)
      refine (runNative_keeps (fun _ _ held => held) (fun _ _ _ _ _ _ _ _ => trivial) plain
        (trivial : holds _)).imp ?_
      rintro native middle ⟨plain, _⟩ result returned
      rw [Process.concluded] at returned
      split at returned
      · cases returned
      · cases returned
        exact plain.toResult

namespace MockAction

variable {nested : Executor Unit Nat (MockContext Nat)} {before : MockProcess}

theorem FrameEnds.endsPlainly (plainly : EndsPlainly nested) {vm : Vm Nat}
    (isExample : vm.IsExample) {message : Message} {result : ExecutionResult}
    {after : MockProcess} (ends : FrameEnds nested before vm message (.returned result) after) :
    result.IsPlain := by
  cases ends with
  | unpaid => exact ⟨trivial, fun _ => rfl⟩
  | undone _ executed => exact plainly _ _ _ _ isExample _ _ executed _ rfl
  | @kept inner _ _ executed succeeded =>
      obtain ⟨named, _⟩ := plainly _ _ _ _ isExample _ _ executed _ rfl
      refine ⟨?_, fun unsuccessful => ?_⟩
      · rw [Message.answered]
        split <;> exact named
      · rw [message.isSuccess_answered, succeeded] at unsuccessful
        cases unsuccessful

/-- A mock context on the example VM answers nested messages with plain results. -/
theorem call_endsPlainly (plainly : EndsPlainly nested) (uses : before.hosts.UsesExampleVm)
    (message : Message) :
    (carryOut nested (call message)).Ensures before fun ending _ =>
      ∀ result, ending = .returned result → result.IsPlain := by
  rintro ending after finished result rfl
  rw [carryOut_call] at finished
  split at finished
  · cases finished
  split at finished
  · cases finished
    exact ⟨trivial, fun _ => rfl⟩
  · rename_i vm found
    split at finished
    · cases finished
      exact ⟨trivial, fun _ => rfl⟩
    · exact (runFrame_ends nested _ vm message _ _ finished).endsPlainly plainly (uses vm found)

end MockAction

end VmBridge
