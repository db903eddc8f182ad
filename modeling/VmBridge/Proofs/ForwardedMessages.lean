import VmBridge.Proofs.MessageCrossings
import VmBridge.Proofs.NestedRollback
import VmBridge.Proofs.RegistryScoping

/-!
# Messages that are forwarded

Native code may send a nested message, the host has a VM execute the message that it
was handed, and the native code of that VM may send on what it was given.  At every
moment of an execution a callback is served as it was read (`Moment.Decoded`), so each
of these levels is one crossing in both directions, and the last VM is given the first
message in its normal form however many levels there are: `messages_cross_unchanged`.
-/

namespace VmBridge

variable {κ ν σ : Type}

/-- What a host serves is what the callback was read to. -/
def Phase.Decoded : Phase κ ν σ → Prop
  | .serving _ request delivery _ _ => request.decode = .ok delivery
  | _ => True

def Turn.Decoded : Turn κ ν σ → Prop
  | .goesOn phase => phase.Decoded
  | .nests _ _ _ _ | .ends _ => True

theorem askStep_decoded (hosting : Hosting κ ν σ) (process : Process κ ν σ) (handle : Nat)
    (request : Request) (resume : request.Answer → NativeRun NativeResult) :
    (askStep hosting process handle request resume).2.Decoded := by
  simp only [askStep]
  split
  · trivial
  · split
    · trivial
    · rename_i decoded
      exact decoded

theorem Level.turn_decoded {level : Level κ ν σ} (decoded : level.phase.Decoded)
    (hosting : Hosting κ ν σ) (process : Process κ ν σ) :
    (level.turn hosting process).2.Decoded := by
  obtain ⟨own, host, phase⟩ := level
  cases phase with
  | registered | settled => trivial
  | native course =>
      cases course with
      | done | note => trivial
      | ask handle request resume => exact askStep_decoded hosting process handle request resume
  | serving handle request delivery run resume =>
      cases run with
      | done ending hosts => cases ending <;> trivial
      | note event rest => exact decoded
      | execute => trivial
  | collected native fault => cases fault <;> trivial

theorem Phase.Decoded.resumed {phase later : Phase κ ν σ} (decoded : phase.Decoded)
    {ending : Ending ExecutionResult} {hosts : σ}
    (resumed : phase.resumed ending hosts = some later) : later.Decoded := by
  cases phase with
  | serving handle request delivery run resume =>
      cases run with
      | execute =>
          cases resumed
          exact decoded
      | done | note => cases resumed
  | _ => cases resumed

namespace Moment

/-- All callbacks that are being served are served as they were read. -/
def Decoded (moment : Moment κ ν σ) : Prop :=
  ∀ level ∈ moment.levels, level.phase.Decoded

variable {hosting : Hosting κ ν σ} {moment later : Moment κ ν σ}

theorem Decoded.next (decoded : moment.Decoded) (stepped : moment.next hosting = some later) :
    later.Decoded := by
  cases step_of_next stepped with
  | unsupported | nests => exact decoded
  | registers => exact List.forall_mem_cons.mpr ⟨trivial, decoded⟩
  | @goesOn process after level outer phase turned =>
      obtain ⟨innermost, others⟩ := List.forall_mem_cons.mp decoded
      have turn_decoded := Level.turn_decoded innermost hosting process
      rw [turned] at turn_decoded
      exact List.forall_mem_cons.mpr ⟨turn_decoded, others⟩
  | ends => exact (List.forall_mem_cons.mp decoded).2
  | hears resumed =>
      obtain ⟨innermost, others⟩ := List.forall_mem_cons.mp decoded
      exact List.forall_mem_cons.mpr ⟨innermost.resumed resumed, others⟩

theorem Decoded.of_leads (decoded : moment.Decoded) (onward : moment.Leads hosting later) :
    later.Decoded := by
  induction onward with
  | refl => exact decoded
  | tail _ stepped ih => exact ih.next stepped

theorem decoded_start (process : Process κ ν σ) (vm : Vm ν) (host : κ) (message : Message)
    (code : Bytes) : (start process vm host message code []).Decoded :=
  List.forall_mem_nil _

end Moment

namespace Level

/-- Native code has sent a message in a callback, and the host is about to have a VM
execute the message that it was handed. -/
inductive Passes :
    Level κ ν σ → NativeMessage → Vm ν → κ → Message → Bytes → Prop where
  | intro (own : Nat) (actor : κ) (handle : Nat) {sent : NativeMessage} {message : Message}
      (encode : ExecutionResult → NativeResult) (vm : Vm ν) (host : κ) (code : Bytes) (hosts : σ)
      (later : Ending ExecutionResult → σ → HostRun κ ν σ ExecutionResult)
      (resume : NativeResult → NativeRun NativeResult) :
      Passes ⟨own, actor, .serving handle (.call (some sent)) ⟨.call message, encode⟩
        (.execute vm host message code hosts later) resume⟩ sent vm host message code

/-- A message has been sent and passed on through a number of executions, of which the
newest comes first: the native code of each but the first sends what it was given, in one
spelling or another.  The last host has a VM execute what has become of the message. -/
inductive Forwarded (first : NativeMessage) :
    Nat → List (Level κ ν σ) → Vm ν → κ → Message → Bytes → Prop where
  | once {level : Level κ ν σ} {outer : List (Level κ ν σ)} {vm : Vm ν} {host : κ}
      {message : Message} {code : Bytes} (passes : level.Passes first vm host message code) :
      Forwarded first 1 (level :: outer) vm host message code
  | again {count : Nat} {level : Level κ ν σ} {outer : List (Level κ ν σ)} {vm next : Vm ν}
      {host nextHost : κ} {given message : Message} {code nextCode : Bytes}
      {received sent : NativeMessage} (before : Forwarded first count outer vm host given code)
      (receives : (invocation level.handle given code).message = some received)
      (sends : sent.normalized = received.normalized)
      (passes : level.Passes sent next nextHost message nextCode) :
      Forwarded first (count + 1) (level :: outer) next nextHost message nextCode

variable {level : Level κ ν σ} {levels : List (Level κ ν σ)} {vm : Vm ν} {host : κ}
  {message : Message} {code : Bytes} {first sent : NativeMessage} {count : Nat}

theorem Passes.toNative_eq (passes : level.Passes sent vm host message code)
    (decoded : level.phase.Decoded) : message.toNative = sent.normalized := by
  cases passes
  obtain ⟨native, handed, ⟨⟩, read, same⟩ := Request.call_of_decode decoded
  cases same
  exact NativeMessage.toNative_of_toMessage read

/-- However often a message is forwarded, it stays the same up to its normal form. -/
theorem Forwarded.toNative_eq (forwarded : Forwarded first count levels vm host message code)
    (decoded : ∀ level ∈ levels, level.phase.Decoded) :
    message.toNative = first.normalized := by
  -- each level is one crossing in both directions, and a normal form does not change in one
  induction forwarded with
  | once passes => exact passes.toNative_eq (decoded _ List.mem_cons_self)
  | @again count level outer vm next host nextHost given message code nextCode received sent
      before receives sends passes ih =>
      have given_eq := ih fun other member => decoded other (List.mem_cons_of_mem _ member)
      have received_eq : given.toNative = received := Option.some.inj receives
      calc message.toNative
        _ = sent.normalized := passes.toNative_eq (decoded _ List.mem_cons_self)
        _ = received.normalized := sends
        _ = first.normalized := by
          rw [← received_eq, given_eq, NativeMessage.normalized_normalized]

theorem Forwarded.exists_passes (forwarded : Forwarded first count levels vm host message code) :
    ∃ level outer sent, levels = level :: outer ∧ level.Passes sent vm host message code := by
  cases forwarded with
  | once passes => exact ⟨_, _, _, rfl, passes⟩
  | again before receives sends passes => exact ⟨_, _, _, rfl, passes⟩

end Level

namespace Moment

/-- The native code of a VM has just been entered with a message. -/
inductive Enters (vm : Vm ν) (given : NativeMessage) (outer : List (Level κ ν σ)) :
    Moment κ ν σ → Prop where
  | intro {run : NativeExecute ν} {process : Process κ ν σ} {arguments : Invocation}
      (executes : vm.native.execute = some run) (receives : arguments.message = some given)
      (reported : process.journal.head? =
        some (.entered vm.native.provider arguments.revision given arguments.code))
      (privateState : ν) (handle : Nat) (host : κ) :
      Enters vm given outer
        ⟨process, .running, ⟨handle, host, .native (run privateState arguments).2⟩ :: outer⟩

variable {hosting : Hosting κ ν σ} {process : Process κ ν σ} {level : Level κ ν σ}
  {outer : List (Level κ ν σ)} {sent : NativeMessage} {vm : Vm ν} {host : κ} {message : Message}
  {code : Bytes}

theorem exists_enters (passes : level.Passes sent vm host message code) {run : NativeExecute ν}
    (executes : vm.native.execute = some run) :
    ∃ later, Leads hosting ⟨process, .running, level :: outer⟩ later ∧
      later.Enters vm message.toNative (level :: outer) := by
  cases passes with
  | intro own actor handle encode vm host code hosts later resume =>
      refine ⟨_, leads_step rfl (leads_begun executes host message code _ _), ?_⟩
      exact .intro executes rfl rfl _ _ host

end Moment

/-- A message that is handed to native code is read back as it was, and its input is a
null pointer exactly if it is empty.  A native message comes back in its normal form,
which comes back as it is, and one whose kind has no meaning is turned down with the
kind.  A message that has been forwarded through any number of nested calls is in the
end given to the last VM in the normal form of the message that was sent first. -/
theorem messages_cross_unchanged (hosting : Hosting κ ν σ) (before : Process κ ν σ)
    (outermost : Vm ν) (actor : κ) (initial : Message) (initialCode : Bytes) :
    (∀ message : Message, message.toNative.toMessage = .ok message ∧
        (message.toNative.input.isNull = true ↔ message.input = [])) ∧
      (∀ native : NativeMessage, native.normalized.normalized = native.normalized ∧
        (native.HasKind → ∃ message, native.toMessage = .ok message ∧
          native.normalized.toMessage = .ok message ∧ message.toNative = native.normalized) ∧
        (¬native.HasKind → native.toMessage = .error native.kind)) ∧
      ∀ moment, (Moment.start before outermost actor initial initialCode []).Leads hosting
          moment → moment.control = .running →
        ∀ first count vm host message code,
          Level.Forwarded first count moment.levels vm host message code →
          ∀ run, vm.native.execute = some run →
            ∃ later, moment.Leads hosting later ∧
              later.Enters vm first.normalized moment.levels := by
  refine ⟨fun message => ⟨toMessage_toNative message, message.isNull_toNative⟩, ?_, ?_⟩
  · intro native
    refine ⟨native.normalized_normalized, fun hasKind => ?_, fun unknown =>
      NativeMessage.toMessage_of_not_hasKind unknown⟩
    obtain ⟨message, read⟩ := NativeMessage.toMessage_of_hasKind hasKind
    exact ⟨message, read, native.toMessage_normalized.trans read,
      NativeMessage.toNative_of_toMessage read⟩
  · rintro ⟨process, control, levels⟩ reached rfl first count vm host message code forwarded run
      executes
    have decoded := (Moment.decoded_start before outermost actor initial initialCode).of_leads
      reached
    obtain ⟨level, outer, sent, rfl, passes⟩ := forwarded.exists_passes
    rw [← forwarded.toNative_eq decoded]
    exact Moment.exists_enters passes executes

/-- A message with flags that have no meaning and a null pointer that promises bytes. -/
def raggedMessage : NativeMessage :=
  { (default : Message).toNative with kind := 3, flags := 7, input := .null 5 }

/-- Native code that sends a ragged message if it is the first to run, and otherwise what
it is given, with further flags. -/
def forwardingExecute : NativeExecute Unit := fun state arguments =>
  (state, match arguments.message with
    | some given =>
        .ask arguments.handle
          (.call (some (if arguments.handle = 1 then raggedMessage
            else { given with flags := given.flags ||| 6 }))) .done
    | none => .done ExecutionResult.failure.toNative)

def forwardingVm : Vm Unit :=
  { nestingVm with native := { nestingVm.native with execute := some forwardingExecute } }

/-- A host that has nested messages executed by the same VM. -/
def forwardingHosting : Hosting Unit Unit Unit
  | _, .call message => HostAction.execute forwardingVm () message []
  | _, _ => HostAction.fail .wordless

/-- What the ragged message is read to. -/
def evenedMessage : Message := { (default : Message) with kind := .create, isStatic := true }

/-- What the second VM makes of it. -/
def respelledMessage : NativeMessage := { evenedMessage.toNative with flags := 7 }

/-- An execution whose native code has sent a message, just before the host has it
executed. -/
def forwardingLevel (handle : Nat) (sent : NativeMessage) : Level Unit Unit Unit where
  handle := handle
  host := ()
  phase := .serving handle (.call (some sent)) ⟨.call evenedMessage, ExecutionResult.toNative⟩
    (.execute forwardingVm () evenedMessage [] () .done) .done

theorem passes_forwardingLevel (handle : Nat) (sent : NativeMessage) :
    (forwardingLevel handle sent).Passes sent forwardingVm () evenedMessage [] :=
  .intro handle () handle _ _ _ _ _ _ _

/-- The third VM is given the ragged message without its odd flags and without the length
of its input. -/
theorem forwardingVm_enters :
    ∃ process later,
      let moment : Moment Unit Unit Unit := ⟨process, .running,
        [forwardingLevel 2 respelledMessage, forwardingLevel 1 raggedMessage]⟩
      (Moment.start (Process.initial ()) forwardingVm () default [] []).Leads forwardingHosting
          moment ∧
        Level.Forwarded raggedMessage 2 moment.levels forwardingVm () evenedMessage [] ∧
        moment.Leads forwardingHosting later ∧
        later.Enters forwardingVm { raggedMessage with flags := 1, input := .null 0 }
          moment.levels := by
  obtain ⟨-, -, forwards⟩ := messages_cross_unchanged forwardingHosting (Process.initial ())
    forwardingVm () default []
  have reached : (Moment.start (Process.initial ()) forwardingVm () default [] []).Leads
      forwardingHosting ⟨_, .running,
        [forwardingLevel 2 respelledMessage, forwardingLevel 1 raggedMessage]⟩ :=
    Moment.leads_step rfl (Moment.leads_step rfl (Moment.leads_step rfl (Moment.leads_step rfl
      (Moment.leads_step rfl (Moment.leads_step rfl (.single rfl))))))
  have respelled : respelledMessage.normalized = evenedMessage.toNative.normalized := rfl
  have forwarded : Level.Forwarded raggedMessage 2
      [forwardingLevel 2 respelledMessage, forwardingLevel 1 raggedMessage] forwardingVm ()
      evenedMessage [] :=
    .again (.once (passes_forwardingLevel 1 _)) rfl respelled (passes_forwardingLevel 2 _)
  obtain ⟨later, onward, enters⟩ := forwards _ reached rfl _ _ _ _ _ _ forwarded _ rfl
  exact ⟨_, later, reached, forwarded, onward, enters⟩

end VmBridge
