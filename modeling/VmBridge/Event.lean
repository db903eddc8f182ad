import VmBridge.Hex
import VmBridge.QuotedText
import VmBridge.Request
import VmBridge.World

/-!
# Events and log records

Whatever the bridge, a VM or a host does is journaled as an `Event`.  The log
of the program is a rendering of the journal: `Event.record?` gives the record
that an event leaves in a log kept at some level, if it leaves one.
-/

namespace VmBridge

/-- How much a log record matters, from most to least. -/
inductive LogLevel where
  | error
  | warn
  | debug
  | trace
deriving DecidableEq

namespace LogLevel

def rank : LogLevel → Nat
  | .error => 0
  | .warn => 1
  | .debug => 2
  | .trace => 3

def text : LogLevel → String
  | .error => "error"
  | .warn => "warn"
  | .debug => "debug"
  | .trace => "trace"

/-- Whether a log kept at one level holds records of another. -/
def admits (kept level : LogLevel) : Bool := level.rank ≤ kept.rank

end LogLevel

structure LogRecord where
  level : LogLevel
  message : String
deriving DecidableEq

/-- The record of a log kept at one level for something of another.  The text is
made only if it is kept. -/
def LogLevel.record? (kept level : LogLevel) (message : Unit → String) : Option LogRecord :=
  if kept.admits level then some ⟨level, message ()⟩ else none

/-- Where a library comes from. -/
inductive LibrarySource where
  | platform
  | scripted
deriving DecidableEq

/-- Something that happened. -/
inductive Event where
  | registered (handle : Nat)
  | unregistered (handle : Nat)
  | requested (method : MethodName) (handle : Nat)
  /-- A callback was answered with its fallback. -/
  | refused (handle : Nat) (error : CallbackError)
  | nestedCall (message : Message)
  | executionUnsupported (vmName : String)
  | executing (message : Message) (codeSize : Nat) (handle : Nat)
  | entered (provider : Provider) (revision : Int32) (message : NativeMessage)
      (code : Span UInt8)
  /-- The native result of the execution under a handle was copied. -/
  | copied (handle : Nat)
  /-- The release function of a native result ran. -/
  | released (release : Release)
  | executed (result : ExecutionResult)
  | optionNameBroken (name : String)
  | optionValueBroken (name : String)
  | optionForwarded (provider : Provider) (name : Bytes) (value : Bytes)
  | optionAnswered (vmName : String) (name : String) (value : String)
      (answer : OptionAnswer)
  | optionAnswerUnknown (vmName : String) (name : String) (value : String) (raw : Int32)
  | loading (path : String)
  | opened (source : LibrarySource) (path : String)
  | lookedUp (source : LibrarySource) (symbol : String)
  /-- A symbol was not found and the next one is tried. -/
  | symbolMissing (symbol : String) (path : String) (next : String)
  | created (provider : Provider)
  | adopted (vmName : String) (version : String) (origin : String)
  | destroying (vmName : String)
  | destroyed (provider : Provider)
  | unloaded (source : LibrarySource)
  | codeStarted (codeSize : Nat) (depth : Int32) (gas : Int64)
  /-- The example VM charged one command, and may say so. -/
  | commandCharged (position : Nat) (opcode : UInt8) (gasLeft : Int) (audible : Bool)
  | codeAborted (position : Nat) (status : StatusCode)
  | codeFinished (status : StatusCode) (gasLeft : Int64) (outputSize : Nat)
  /-- A mock context begins to act on a nested message. -/
  | frameOpened (message : Message)
  /-- A mock context is done with a nested message, and keeps its changes or
  takes them back. -/
  | frameClosed (kept : Bool)
  | worldChanged (change : Change)
  | answered (request : Request) (answer : request.Answer)
  /-- A scripted host was asked. -/
  | asked (method : HostMethod)

namespace Event

/-- Whether an event is something that native code does by itself. -/
def byNativeCode : Event → Bool
  | .released _ => true
  | .codeStarted _ _ _ => true
  | .commandCharged _ _ _ _ => true
  | .codeAborted _ _ => true
  | .codeFinished _ _ _ => true
  | .answered _ _ => true
  | _ => false

/-- Whether an event is something that a host does by itself. -/
def byHost : Event → Bool
  | .frameOpened _ => true
  | .frameClosed _ => true
  | .worldChanged _ => true
  | .asked _ => true
  | _ => false

/-- The record that an event leaves in a log kept at some level. -/
def record? (kept : LogLevel) : Event → Option LogRecord
  | .registered handle =>
      kept.record? .trace fun _ => s!"registered host context handle {handle}"
  | .unregistered handle =>
      kept.record? .trace fun _ => s!"unregistered host context handle {handle}"
  | .requested method handle =>
      kept.record? .trace fun _ => s!"{method.text} (handle {handle})"
  | .refused _ error => kept.record? .error fun _ => error.display
  | .nestedCall message =>
      kept.record? .debug fun _ =>
        s!"nested call: kind={message.kind.name} " ++
          s!"depth={message.depth.toInt} gas={message.gas.toInt}"
  | .executionUnsupported vmName =>
      kept.record? .error fun _ => s!"{vmName}: VM has no execute function"
  | .executing message codeSize handle =>
      kept.record? .debug fun _ =>
        s!"execute: kind={message.kind.name} depth={message.depth.toInt} " ++
          s!"gas={message.gas.toInt} input_size={message.input.length} " ++
          s!"code_size={codeSize} handle={handle}"
  | .executed result =>
      kept.record? .debug fun _ =>
        s!"execute finished: status={result.status.text} " ++
          s!"gas_left={result.gasLeft.toInt} output_size={result.output.length}"
  | .optionNameBroken name =>
      kept.record? .warn fun _ => s!"option name {quoted name} contains a NUL byte"
  | .optionValueBroken name =>
      kept.record? .warn fun _ => s!"value of option '{name}' contains a NUL byte"
  | .optionAnswered vmName name value answer =>
      kept.record? .debug fun _ =>
        s!"{vmName}: set_option {name}={value} -> {answer.name}"
  | .optionAnswerUnknown vmName name value raw =>
      kept.record? .warn fun _ =>
        s!"{vmName}: set_option {name}={value} returned unknown result " ++
          s!"{raw.toInt}"
  | .loading path => kept.record? .debug fun _ => s!"loading VM library {path}"
  | .symbolMissing symbol path next =>
      kept.record? .debug fun _ => s!"{symbol} not found in {path}, trying {next}"
  | .adopted vmName version origin =>
      kept.record? .debug fun _ => s!"created VM {vmName} {version} from {origin}"
  | .destroying vmName => kept.record? .debug fun _ => s!"destroying VM {vmName}"
  | .codeStarted codeSize depth gas =>
      kept.record? .debug fun _ =>
        s!"executing {codeSize} bytes of code at depth {depth.toInt} " ++
          s!"with {gas.toInt} gas"
  | .commandCharged position opcode gasLeft audible =>
      if audible then
        kept.record? .trace fun _ =>
          s!"pc={position} opcode=0x{hexText [opcode]} gas_left={gasLeft}"
      else none
  | .codeAborted position status =>
      kept.record? .debug fun _ => s!"execution aborted at pc {position}: {status.text}"
  | .codeFinished status gasLeft outputSize =>
      kept.record? .debug fun _ =>
        s!"execution finished with {status.text} " ++
          s!"({gasLeft.toInt} gas left, {outputSize} bytes of output)"
  | .worldChanged (.appendLog log) =>
      kept.record? .debug fun _ =>
        s!"log from 0x{hexText log.address.toList}: " ++
          s!"{log.topics.length} topics, {log.data.length} bytes"
  | _ => none

/-- Whether an event is reported beside the log: it is an act of a scripted
VM, host or library, or was done to one. -/
def isReported : Event → Bool
  | .entered (.scripted _) _ _ _ => true
  | .released ⟨.scripted _, _⟩ => true
  | .optionForwarded (.scripted _) _ _ => true
  | .opened .scripted _ => true
  | .lookedUp .scripted _ => true
  | .created (.scripted _) => true
  | .destroyed (.scripted _) => true
  | .unloaded .scripted => true
  | .answered _ _ => true
  | .asked _ => true
  | _ => false

end Event

/-- An event that native code may note.  What the bridge journals about native
code is not among them. -/
abbrev NativeEvent : Type := { event : Event // event.byNativeCode = true }

/-- An event that a host may note. -/
abbrev HostEvent : Type := { event : Event // event.byHost = true }

end VmBridge
