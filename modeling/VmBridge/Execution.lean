import VmBridge.Process

/-!
# Executions

An execution registers its host, lets the VM's native code run, serves the
callbacks that the code makes, copies and releases the native result, and
gives up the handle.  Nothing that a host does can unwind through native
code: a callback whose host fails is answered with its fallback, the fault is
parked under the handle, and the execution that owns the handle raises it
again after everything has been cleaned up.

Executions nest when a host answers a callback by executing another message.
`execute` limits the depth of that nesting by a number, and `executeWith` is
one level of it.
-/

namespace VmBridge

variable {κ ν σ : Type}

/-- How messages are executed: by a VM, for a host, with some code. -/
abbrev Executor (κ ν σ : Type) : Type :=
  Vm ν → κ → Message → Bytes → Bridge κ ν σ (Ending ExecutionResult)

/-- Follow a host method to its end. -/
def runHost {α : Type} (nested : Executor κ ν σ) :
    HostRun κ ν σ α → Bridge κ ν σ (Ending α)
  | .done ending hosts => do
      Bridge.setHosts hosts
      pure ending
  | .note event rest => do
      Bridge.record event.val
      runHost nested rest
  | .execute vm host message code hosts resume => do
      Bridge.setHosts hosts
      let ending ← nested vm host message code
      let process ← get
      runHost nested (resume ending process.hosts)

/-- Answer a callback with its fallback. -/
def refuse (handle : Nat) (request : Request) (error : CallbackError) :
    Bridge κ ν σ request.Answer := do
  Bridge.record (.refused handle error)
  pure request.fallback

/-- Journal the message that a method hands to a host. -/
def announce : HostMethod → Bridge κ ν σ Unit
  | .call message => Bridge.record (.nestedCall message)
  | _ => pure ()

/-- Serve a callback that was made with a handle. -/
def deliver (hosting : Hosting κ ν σ) (nested : Executor κ ν σ) (handle : Nat)
    (request : Request) : Bridge κ ν σ request.Answer := do
  Bridge.record (.requested request.name handle)
  let process ← get
  match process.registry.resolve handle with
  | none => refuse handle request (.contextNotFound handle request.name.text)
  | some host =>
      match request.decode with
      | .error error => refuse handle request error
      | .ok delivery => do
          announce delivery.method
          match ← runHost nested (hosting host delivery.method process.hosts) with
          | .returned answer => pure (delivery.encode answer)
          | .faulted fault => do
              Bridge.recordFault handle fault
              refuse handle request (.hostFaulted fault request.name.text)

/-- Follow native code to its end, serving its callbacks. -/
def runNative {α : Type} (hosting : Hosting κ ν σ) (nested : Executor κ ν σ) :
    NativeRun α → Bridge κ ν σ α
  | .done value => pure value
  | .note event rest => do
      Bridge.record event.val
      runNative hosting nested rest
  | .ask handle request resume => do
      let answer ← deliver hosting nested handle request
      runNative hosting nested (resume answer)

/-- Run the release function of a native result, if it has one. -/
def releaseResult (result : NativeResult) : Bridge κ ν σ Unit :=
  match result.release with
  | some release => Bridge.record (.released release)
  | none => pure ()

/-- The arguments that the bridge gives to a native execute function. -/
def invocation (handle : Nat) (message : Message) (code : Bytes) : Invocation where
  table := some fullTable
  handle := handle
  revision := Revision.latestStable.raw
  message := some message.toNative
  code := .lend code

/-- Call the native execute function for a registered host and copy its
result. -/
def executeNative (hosting : Hosting κ ν σ) (nested : Executor κ ν σ) (vm : Vm ν)
    (run : ν → Invocation → ν × NativeRun NativeResult) (handle : Nat)
    (message : Message) (code : Bytes) : Bridge κ ν σ ExecutionResult := do
  let process ← get
  let arguments := invocation handle message code
  Bridge.record (.entered vm.native.provider arguments.revision message.toNative
    arguments.code)
  let (privateState, course) := run (process.privateState vm) arguments
  Bridge.setPrivateState vm privateState
  let native ← runNative hosting nested course
  Bridge.record (.copied handle)
  releaseResult native
  pure native.toResult

/-- Execute a message; `nested` executes the messages inside it. -/
def executeWith (hosting : Hosting κ ν σ) (nested : Executor κ ν σ) : Executor κ ν σ :=
  fun vm host message code =>
    match vm.native.execute with
    | none => do
        Bridge.record (.executionUnsupported vm.name)
        pure (.returned .internalError)
    | some run => do
        let handle ← Bridge.register host
        Bridge.record (.executing message code.length handle)
        let result ← executeNative hosting nested vm run handle message code
        let fault ← Bridge.takeFault handle
        let _ ← Bridge.unregister handle
        match fault with
        | some fault => pure (.faulted fault)
        | none => do
            Bridge.record (.executed result)
            pure (.returned result)

/-- Execute a message with executions nested at most `limit` deep. -/
def execute (hosting : Hosting κ ν σ) :
    Nat → Vm ν → κ → Message → Bytes → Bridge κ ν σ (Ending ExecutionResult)
  | 0, _, _, _, _ => failure
  | limit + 1, vm, host, message, code =>
      executeWith hosting (execute hosting limit) vm host message code

end VmBridge
