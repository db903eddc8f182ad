import VmBridge.Execution
import VmBridge.TestHosts
import VmBridge.TestLibraries

/-!
# Sessions

A session drives VMs and hosts that it keeps under names.  Each step gives an
answer, and everything that happens during a step is attributed to it.  A VM
lives as long as a name or a host holds it.  At the end all hosts are dropped,
then all VMs in the order of their names.
-/

namespace VmBridge

/-- The computations of a session. -/
abbrev SessionBridge (α : Type) : Type := Bridge OfferedHost Nat TestHosts α

/-- How deeply executions of a session nest at most. -/
def sessionNesting : Nat := 100000

/-- Execute a message in a session. -/
def executeInSession : Executor OfferedHost Nat TestHosts :=
  execute TestHosts.hosting sessionNesting

/-- What a VM says about itself. -/
structure VmInfo where
  name : String
  version : String
  interfaceVersion : Int32
  capabilities : UInt32
  debugText : String
  /-- The description of the shared handle, if it was asked for. -/
  sharedDebugText : Option String

/-- Which of the known features a set of features has. -/
def VmInfo.features (info : VmInfo) : List Bool :=
  Capability.all.map fun capability => info.capabilities &&& capability.flag != 0

/-- What a mock context says about an account. -/
structure AccountView where
  code : Bytes
  balance : Nat
  destructed : Bool
  slots : List Word

/-- The arguments of the native execute function of a new example VM. -/
structure RawExecution where
  message : Option NativeMessage
  code : Span UInt8
  revision : Int32
  missing : List MethodName
  nullVm : Bool
  nullTable : Bool

/-- The handle with which a callback is made. -/
inductive HandleChoice where
  /-- The live registration of the host. -/
  | live
  | raw (handle : Nat)
  /-- A registration of the host that has been given up. -/
  | stale

inductive SessionStep where
  | adoptScripted (slot : Nat) (name : String)
  | adoptExample (name : String)
  | load (opener : ScriptedOpener) (path : String) (name : String)
  | loadAndConfigure (opener : ScriptedOpener) (configuration : String) (name : String)
  | platformLoad (path : String) (name : String)
  | platformLoadAndConfigure (configuration : String) (name : String)
  | info (vm : String)
  | setOption (vm : String) (option : String) (value : String)
  | destroy (vm : String)
  /-- Make a host that holds the VM under a name, if there is one. -/
  | makeHost (name : String) (vm : Option String) (make : Option (Vm Nat) → TestHost)
  | dropHost (host : String)
  | execute (vm : String) (host : String) (message : Message) (code : Bytes)
  | run (host : String) (message : Message)
  | rawExecute (host : String) (execution : RawExecution)
  | rawSetOption (option : Option Bytes) (value : Option Bytes) (nullVm : Bool)
  | callback (host : String) (handle : HandleChoice) (request : Request)
  | callMethod (host : String) (method : HostMethod)
  | query (host : String) (address : Address) (keys : List Word)
  | logs (host : String)
  | calls (host : String)
  | callCount (host : String)
  | failIn (host : String) (method : Option MethodName)
  | counters

inductive SessionAnswer where
  | nothing
  | truth (value : Bool)
  | count (value : Nat)
  | text (text : String)
  | info (info : VmInfo)
  | loaderError (error : LoaderError)
  | platformCannotOpen
  | result (result : ExecutionResult)
  | nativeResult (result : NativeResult)
  | raw (value : Int32)
  | fault (fault : Fault)
  | callback (request : Request) (answer : request.Answer)
  | method (method : HostMethod) (answer : method.Answer)
  | account (view : AccountView)
  | logs (logs : List ContractLog)
  | calls (calls : List CallRecord)
  | counters (released : Nat) (live : Nat)
  | exhausted

structure Session where
  scriptedVms : List ScriptedVm
  vms : Table String (Vm Nat)
  process : Process OfferedHost Nat TestHosts

/-- A computation of a session that sees its VMs. -/
abbrev SessionAction (α : Type) : Type := StateT (Table String (Vm Nat)) (StateT
  (Process OfferedHost Nat TestHosts) Option) α

namespace SessionAction

/-- Compute on the process alone. -/
def lift {α : Type} (computation : SessionBridge α) : SessionAction α :=
  StateT.lift computation

def getHosts : SessionAction TestHosts := do
  let process ← lift get
  pure process.hosts

def mock? (name : String) : SessionAction (Option (MockContext Nat)) := do
  match (← getHosts).get? name with
  | some (.mock context) => pure (some context)
  | _ => pure none

def describe (vm : Vm Nat) (shared : Bool) : SessionAction VmInfo := do
  let capabilities ← lift vm.capabilities
  pure {
    name := vm.name
    version := vm.version
    interfaceVersion := vm.native.interfaceVersion
    capabilities
    debugText := vm.debugText
    sharedDebugText := if shared then some (SharedVm.mk vm).debugText else none }

/-- Whether a name or a host holds a VM. -/
def isHeld (vm : Vm Nat) : SessionAction Bool := do
  let vms ← get
  let hosts ← getHosts
  pure (vms.entries.any (fun entry => entry.2.identity == vm.identity) ||
    hosts.entries.any fun entry => entry.2.vm?.any (·.identity == vm.identity))

/-- Destroy a VM if nothing holds it, and say whether it was destroyed. -/
def settle (vm : Vm Nat) : SessionAction Bool := do
  if ← isHeld vm then pure false
  else
    lift vm.destroy
    pure true

/-- Destroy the VM that something held, unless something else holds it. -/
def settleOption (vm : Option (Vm Nat)) : SessionAction Unit :=
  match vm with
  | some vm => do
      let _ ← settle vm
  | none => pure ()

/-- Keep a loaded VM under a name, in place of any other VM. -/
def keep (name : String) (loaded : SessionBridge (Except LoaderError (Vm Nat))) :
    SessionAction SessionAnswer := do
  match ← lift loaded with
  | .error error => pure (.loaderError error)
  | .ok vm => do
      let info ← describe vm false
      let replaced := (← get).get? name
      modify (·.insert name vm)
      settleOption replaced
      pure (.info info)

/-- The answer of a load through the platform, which keeps the platform's
reasons to itself. -/
def withoutReasons : SessionAnswer → SessionAnswer
  | .loaderError (.cannotOpen _) => .platformCannotOpen
  | answer => answer

/-- Put a host under a name or take it away, and let go of the VM of the host
that was there. -/
def replaceHost (name : String) (host : Option TestHost) : SessionAction Bool := do
  let hosts ← getHosts
  let replaced := hosts.get? name
  lift (Bridge.setHosts (match host with
    | some host => hosts.insert name host
    | none => hosts.erase name))
  settleOption (replaced.bind TestHost.vm?)
  pure replaced.isSome

/-- The answer to work that may end with a fault. -/
def answerOf {α : Type} (answer : α → SessionAnswer) : Ending α → SessionAnswer
  | .returned value => answer value
  | .faulted fault => .fault fault

/-- Do something for a live registration of the host under a name. -/
def registered {α : Type} (host : String) (work : Nat → SessionBridge α) :
    SessionBridge α := do
  let handle ← Bridge.register (.whole host)
  let value ← work handle
  let _ ← Bridge.unregister handle
  pure value

/-- Call the native execute function of a new example VM and release what it
returns. -/
def executeRaw (execution : RawExecution) (handle : Nat) : SessionBridge NativeResult := do
  let arguments : Invocation :=
    { table := if execution.nullTable then none
        else some fun method => method ∉ execution.missing
      handle
      revision := execution.revision
      message := execution.message
      code := execution.code }
  let verbosity := if execution.nullVm then none else some 0
  let result ← runNative TestHosts.hosting executeInSession
    (ExampleVm.execute .bundled verbosity arguments)
  releaseResult result
  pure result

/-- Make a callback and release what it answers. -/
def makeCallback (host : String) (choice : HandleChoice) (request : Request) (live : Nat) :
    SessionBridge SessionAnswer := do
  let handle ←
    match choice with
    | .live => pure live
    | .raw handle => pure handle
    | .stale => registered host pure
  let answer ← deliver TestHosts.hosting executeInSession handle request
  match releaseOfAnswer request answer with
  | some release => Bridge.record (.released release)
  | none => pure ()
  pure (.callback request answer)

/-- The number of results that the example VM in the program released. -/
def releasedByExample (journal : List Event) : Nat :=
  journal.countP fun event =>
    match event with
    | .released ⟨.bundled, _⟩ => true
    | _ => false

/-- What a mock context says about an account. -/
def viewAccount (context : MockContext Nat) (address : Address) (keys : List Word) :
    AccountView where
  code := context.world.code address
  balance := context.world.balance address
  destructed := context.world.destructed.contains address
  slots := keys.map fun key => context.world.slot address key

/-- Answer from the mock context under a name, if there is one. -/
def askMock (name : String) (answer : MockContext Nat → SessionAnswer) :
    SessionAction SessionAnswer := do
  match ← mock? name with
  | some context => pure (answer context)
  | none => pure .nothing

/-- Do something with the VM under a name, if there is one. -/
def withVm (name : String) (work : Vm Nat → SessionAction SessionAnswer) :
    SessionAction SessionAnswer := do
  match (← get).get? name with
  | some vm => work vm
  | none => pure .nothing

def perform (scriptedVms : List ScriptedVm) : SessionStep → SessionAction SessionAnswer
  | .adoptScripted slot name =>
      match scriptedVms[slot]? with
      | some vm => keep name (adopt (vm.createFunction slot))
      | none => pure .nothing
  | .adoptExample name => keep name (adopt (ExampleVm.createFunction .bundled))
  | .load opener path name => keep name (load (opener.opener scriptedVms) path)
  | .loadAndConfigure opener configuration name =>
      keep name (VmBridge.loadAndConfigure (opener.opener scriptedVms) configuration)
  | .platformLoad path name => do
      let answer ← keep name (VmBridge.load platformOpener path)
      pure (withoutReasons answer)
  | .platformLoadAndConfigure configuration name => do
      let answer ← keep name (VmBridge.loadAndConfigure platformOpener configuration)
      pure (withoutReasons answer)
  | .info name => withVm name fun vm => do
      let info ← describe vm true
      pure (.info info)
  | .setOption name option value => withVm name fun vm => do
      let answer ← lift (vm.setOption option value)
      pure (.text answer.name)
  | .destroy name => withVm name fun vm => do
      modify (·.erase name)
      let gone ← settle vm
      pure (.text (if gone then "destroyed" else "shared"))
  | .makeHost name vmName make => do
      let vms ← get
      let _ ← replaceHost name (some (make (vmName.bind vms.get?)))
      pure .nothing
  | .dropHost name => do
      let existed ← replaceHost name none
      pure (.truth existed)
  | .execute name host message code => withVm name fun vm => do
      let ending ← lift (executeInSession vm (.whole host) message code)
      pure (answerOf .result ending)
  | .run name message => do
      match ← mock? name with
      | none => pure .nothing
      | some context => do
          let hosts ← getHosts
          let ending ← lift (runHost executeInSession
            (hosts.withMock name context (MockContext.execute message)))
          pure (answerOf .result ending)
  | .rawExecute host execution => do
      let result ← lift (registered host (executeRaw execution))
      pure (.nativeResult result)
  | .rawSetOption option value nullVm =>
      let verbosity := if nullVm then none else some 0
      pure (.raw (ExampleVm.setOption verbosity option value).1.raw)
  | .callback host choice request =>
      lift (registered host (makeCallback host choice request))
  | .callMethod host method => do
      let hosts ← getHosts
      let ending ← lift (runHost executeInSession (TestHosts.hosting (.whole host) method hosts))
      pure (answerOf (.method method) ending)
  | .query name address keys =>
      askMock name fun context => .account (viewAccount context address keys)
  | .logs name => askMock name fun context => .logs context.world.logs
  | .calls name => askMock name fun context => .calls context.calls
  | .callCount name => askMock name fun context => .count context.calls.length
  | .failIn name method => do
      match ← mock? name with
      | none => pure .nothing
      | some context => do
          let hosts ← getHosts
          lift (Bridge.setHosts (hosts.insert name (.mock { context with faultIn := method })))
          pure .nothing
  | .counters => do
      let process ← lift get
      pure (.counters (releasedByExample process.journal) process.registry.size)

def sortedNames {α : Type} (table : Table String α) : List String :=
  table.keys.mergeSort

/-- Drop all hosts, then all VMs, and count the live registrations. -/
def close : SessionAction SessionAnswer := do
  for name in sortedNames (← getHosts) do
    let _ ← replaceHost name none
  for name in sortedNames (← get) do
    let vm := (← get).get? name
    modify (·.erase name)
    settleOption vm
  let process ← lift get
  pure (.count process.registry.size)

end SessionAction

/-- What a step of a session led to. -/
structure StepReport where
  answer : SessionAnswer
  events : List Event
  records : List LogRecord

namespace Session

/-- A session at its start. -/
def initial (scriptedVms : List ScriptedVm) : Session :=
  ⟨scriptedVms, .empty, .initial .empty⟩

/-- Take one step and report what happened. -/
def advance (session : Session) (kept : LogLevel) (action : SessionAction SessionAnswer) :
    StepReport × Session :=
  match (action.run session.vms).run session.process with
  | none => (⟨.exhausted, [], []⟩, session)
  | some ((answer, vms), process) =>
      let count := process.journal.length - session.process.journal.length
      let happened := (process.journal.take count).reverse
      (⟨answer, happened.filter Event.isReported, happened.filterMap (Event.record? kept)⟩,
        { session with vms, process })

/-- Take steps one after the other, and close the session. -/
def run (session : Session) (kept : LogLevel) : List SessionStep → List StepReport × StepReport
  | [] => ([], (session.advance kept SessionAction.close).1)
  | step :: steps =>
      let (report, after) :=
        session.advance kept (SessionAction.perform session.scriptedVms step)
      let (reports, final) := after.run kept steps
      (report :: reports, final)

end Session

end VmBridge
