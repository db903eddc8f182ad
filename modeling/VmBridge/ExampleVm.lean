import VmBridge.Interpreter

/-!
# The example VM

The example VM executes commands.  It knows one option, `verbose`, whose
value is a single digit: from one on, executions are logged, and from two on,
every command.  Its private state is that digit.  The copy in a library of
the platform logs nothing, whatever its verbosity.
-/

namespace VmBridge.ExampleVm

/-- The name of the VM. -/
def vmName : Bytes := textBytes "example_vm"

/-- The version of the VM. -/
def vmVersion : Bytes := textBytes "0.1.0"

/-- The only option of the VM. -/
def verboseOption : Bytes := textBytes "verbose"

/-- Wrap an outcome for the caller.  Every result has a release function, also
one without output. -/
def resultOf (provider : Provider) (outcome : Outcome) : NativeResult where
  status := outcome.status.raw
  gasLeft := Int64.ofInt outcome.gasLeft
  gasRefund := 0
  output := .lend outcome.output
  release := some ⟨provider, outcome.output⟩
  createAddress := .zero 20

/-- The verbosity that can be heard outside. -/
def audibleVerbosity (provider : Provider) (verbosity : Nat) : Nat :=
  match provider with
  | .platform => 0
  | _ => verbosity

/-- Whether a raw revision is one that the VM knows. -/
def knowsRevision (revision : Int32) : Bool :=
  0 ≤ revision && revision ≤ Revision.latest.raw

/-- Run code and log its start and end if the frame is not silent. -/
def runAloud (frame : Frame) (code : Bytes) : NativeRun Outcome :=
  if frame.verbosity = 0 then runCode frame code
  else
    .note ⟨.codeStarted code.length frame.message.depth frame.message.gas, rfl⟩ <|
      (runCode frame code).bind fun outcome =>
        .note ⟨.codeFinished outcome.status (Int64.ofInt outcome.gasLeft)
          outcome.output.length, rfl⟩ (.done outcome)

/-- The native execute function.  Its own instance, the callback table and the
message must not be null, and the revision must be known. -/
def execute (provider : Provider) (verbosity : Option Nat) (arguments : Invocation) :
    NativeRun NativeResult :=
  match verbosity, arguments.table, arguments.message with
  | some verbosity, some table, some message =>
      if knowsRevision arguments.revision then
        let frame : Frame :=
          ⟨table, arguments.handle, message, audibleVerbosity provider verbosity⟩
        (runAloud frame arguments.code.contents).bind fun outcome =>
          .done (resultOf provider outcome)
      else .done (resultOf provider (.aborted .rejected))
  | _, _, _ => .done (resultOf provider (.aborted .internalError))

/-- The verbosity that an option value stands for. -/
def verbosityOf? (value : Bytes) : Option Nat :=
  match terminated value with
  | [digit] => if 48 ≤ digit && digit ≤ 57 then some (digit.toNat - 48) else none
  | _ => none

/-- The native option function: its answer and the verbosity afterwards.  A
null instance or name knows no option, and a null value is none. -/
def setOption (verbosity : Option Nat) (name value : Option Bytes) :
    OptionAnswer × Option Nat :=
  match verbosity, name with
  | some _, some name =>
      if terminated name = verboseOption then
        match value.bind verbosityOf? with
        | some chosen => (.success, some chosen)
        | none => (.invalidValue, verbosity)
      else (.invalidName, verbosity)
  | _, _ => (.invalidName, verbosity)

/-- An instance of the VM. -/
def instanceOf (provider : Provider) : NativeVm Nat where
  provider := provider
  interfaceVersion := interfaceVersion
  name := some vmName
  version := some vmVersion
  initial := 0
  hasDestroy := true
  capabilities := some fun _ => Capability.bytecode.flag
  setOption := some fun verbosity name value =>
    let (answer, chosen) := setOption (some verbosity) (some name) (some value)
    (answer.raw, chosen.getD verbosity)
  execute := some fun verbosity arguments =>
    (verbosity, execute provider (some verbosity) arguments)

/-- The create function of the VM. -/
def createFunction (provider : Provider) : CreateFunction Nat :=
  ⟨provider, some (instanceOf provider)⟩

end VmBridge.ExampleVm
