import VmBridge.Proofs.CheckedContext
import VmBridge.Proofs.FaultOrigins
import VmBridge.Proofs.FirstFault
import VmBridge.Proofs.InterpreterSafety

/-!
# When the execution of a message fails

The execution of a message for a mock context fails exactly if a method fails for a
reason of its own on the way: `MockContext.run_faults_iff`.  Nothing else can go wrong,
because all operations on the way are defined.  `Moment.Defined` says so for one moment:
whatever callback is made can be delivered, the context serves it as with checked
operations, the answer is one that native code can have, and a machine that checks its
operations executes the code without a crash.
-/

namespace VmBridge

open MockContext (hosting)

variable {κ ν σ : Type}

/-- What native code gets back from a method that has come to an end. -/
def Request.Delivery.answer {request : Request} (delivery : request.Delivery) :
    Ending delivery.method.Answer → request.Answer
  | .returned value => delivery.encode value
  | .faulted _ => request.fallback

theorem Request.admits_fallback (request : Request) : request.Admits request.fallback := by
  cases request with
  | getCodeSize pointer => exact Nat.zero_le _
  | copyCode pointer offset buffer => rfl
  | _ => trivial

/-- The native code that executes a message does the same as a machine that checks its
operations, which does not crash. -/
def NativeExecute.Interprets (run : NativeExecute Nat) (verbosity handle : Nat)
    (message : Message) (code : Bytes) : Prop :=
  ∃ provider,
    let frame := ExampleVm.frameOf provider verbosity handle message
    (run verbosity (invocation handle message code)).2 =
        ((ExampleVm.runAloud frame code).bind fun outcome =>
          .done (ExampleVm.resultOf provider outcome)) ∧
      (Machine.run frame code (Machine.enoughSteps frame code)
        (Machine.start frame.message)).Agrees (fun finish outcome => finish = .ended outcome)
          (runCode frame code)

theorem ExampleVm.nativeExecute_interprets (provider : Provider) (verbosity handle : Nat)
    (message : Message) {code : Bytes} (fits : code.length ≤ maxAllocation) :
    (nativeExecute provider).Interprets verbosity handle message code := by
  have addressable : code.length < addressCount := Nat.lt_of_le_of_lt fits (by decide)
  refine ⟨provider, execute_invocation provider verbosity handle message code, ?_⟩
  exact Machine.run_agrees addressable _ (Machine.matches_start _ code) (Nat.lt_succ_self _)

namespace Moment

/-- The innermost execution makes a callback. -/
def Asks (moment : Moment κ ν σ) : Prop :=
  moment.control = .running ∧ ∃ level outer, moment.levels = level :: outer ∧ level.phase.Asks

/-- Whatever is done next for a mock context is defined, as long as codes have sizes that
can be allocated. -/
structure Defined (moment : Moment Unit Nat (MockContext Nat)) : Prop where
  /-- The handle of a callback is live, and its arguments can be decoded. -/
  reaches : moment.Asks → ∃ method, moment.Calls () method
  checks : moment.process.hosts.world.FitsMemory → ∀ method, moment.Calls () method →
    CheckedContext.hosting () method moment.process.hosts =
      hosting () method moment.process.hosts
  /-- A method fails for its own reasons or because an execution that it asked for did. -/
  fails : ∀ method, moment.Calls () method →
    (hosting () method moment.process.hosts).FailsIf (moment.process.hosts.Fails method)
  admits : ∀ level ∈ moment.levels, ∀ handle request (delivery : request.Delivery) ending hosts
    resume, level.phase = .serving handle request delivery (.done ending hosts) resume →
      hosts.world.FitsMemory → request.Admits (delivery.answer ending)
  interprets : ∀ level ∈ moment.levels, ∀ vm run message code,
    level.phase = .registered vm run message code → code.length ≤ maxAllocation →
      run.Interprets (moment.process.privateState vm) level.handle message code

variable {base : Registry Unit} {moment : Moment Unit Nat (MockContext Nat)}

theorem Sound.reaches (sound : moment.Sound base) (asks : moment.Asks) :
    ∃ method, moment.Calls () method := by
  obtain ⟨process, control, levels⟩ := moment
  obtain ⟨rfl, level, outer, rfl, asking⟩ := asks
  have phaseSound := sound.phases level List.mem_cons_self
  have live := sound.order.resolve_eq
  obtain ⟨own, host, phase⟩ := level
  cases phase with
  | native course =>
      cases course with
      | ask handle request resume =>
          obtain ⟨⟨rfl, delivery, decoded⟩, _⟩ := phaseSound
          exact ⟨delivery.method, rfl, _, _, rfl, _, _, _, rfl, live, delivery, decoded, rfl⟩
      | done native => cases asking
      | note event rest => cases asking
  | _ => cases asking

theorem Sound.defined (sound : moment.Sound base) : moment.Defined where
  reaches := sound.reaches
  checks fits method _ :=
    CheckedContext.hosting_eq (fun address => Nat.lt_of_le_of_lt (fits address) (by decide)) method
  fails method _ := MockAction.failsIf_hosting sound.uses method
  admits := by
    rintro ⟨own, host, phase⟩ member handle request delivery ending hosts resume rfl fits
    obtain ⟨_, _, admitted, _⟩ := sound.phases _ member
    cases ending with
    | returned value => exact admitted fits
    | faulted fault => exact request.admits_fallback
  interprets := by
    rintro ⟨own, host, phase⟩ member vm run message code rfl fits
    obtain ⟨provider, rfl⟩ := sound.phases _ member
    exact ExampleVm.nativeExecute_interprets provider _ own message fits

/-- A moment on the way when a mock context has a VM execute a message. -/
def Visited (before : MockProcess) (vm : Vm Nat) (message : Message)
    (moment : Moment Unit Nat (MockContext Nat)) : Prop :=
  (start before vm () message (before.hosts.world.code message.codeAddress) []).Leads hosting
    moment

end Moment

namespace MockContext

variable {before : MockProcess} {vm : Vm Nat} {message : Message} {limit : Nat}

/-- The execution of a message for a mock context with the example VM comes to an end,
and it fails exactly if a method is called on the way, however deep, that was told to
fail, that looks for a block while the window of known blocks starts below all numbers,
or that counts a creation of a sender whose count is full.  At every moment on the way,
all that is done is defined apart from this. -/
theorem run_faults_iff (found : before.hosts.vm = some vm) (isExample : vm.IsExample)
    (enough : message.spendableGas < limit) :
    ∃ ending after, run limit message before = some (ending, after) ∧
      ((∃ fault, ending = .faulted fault) ↔
        ∃ moment method, Moment.Visited before vm message moment ∧ moment.Calls () method ∧
          moment.process.hosts.Fails method) ∧
      ∀ moment, Moment.Visited before vm message moment → moment.Defined := by
  have uses : before.hosts.UsesExampleVm := by
    intro other found'
    rw [found, Option.some.injEq] at found'
    exact found' ▸ isExample
  obtain ⟨⟨ending, after⟩, finished⟩ := Option.isSome_iff_exists.mp (run_finishes uses enough)
  have executed := finished
  rw [run_of_vm found] at executed
  have finish := (Moment.execute_iff_leads hosting vm () message _ before ending after).mp
    ⟨limit, executed⟩
  refine ⟨ending, after, finished, ?_, fun moment visited => ?_⟩
  · rw [← Ending.faults_iff, Moment.ends_faulted_iff isExample uses finish]
    constructor
    · rintro ⟨moment, visited, method, calls, fails⟩
      exact ⟨moment, method, visited, calls, fails⟩
    · rintro ⟨moment, method, visited, calls, fails⟩
      exact ⟨moment, visited, method, calls, fails⟩
  · exact ((Moment.sound_start isExample uses).of_leads visited).defined

/-- A context whose window of known blocks starts below all numbers.  The code of the
first account calls the second one, which looks for a block before the current one. -/
def earlyChain : MockContext Nat :=
  { onExampleVm [
      (.ofNat 20 1, .running [.plainCall .call (.ofNat 20 2) 10 []]),
      (.ofNat 20 2, .running [.blockHash 0x8000000000000005])] with
    txContext := { defaultTxContext with blockNumber := Int64.minValue + 10 } }

/-- The fault of the inner execution leaves the outer one. -/
theorem run_earlyChain :
    let before := Process.initial earlyChain
    let message := Message.calling (.ofNat 20 1) 100
    before.hosts.vm = some ExampleVm.bundled ∧ ExampleVm.bundled.IsExample ∧
      message.spendableGas < 101 ∧
      ∃ fault after, run 101 message before = some (.faulted fault, after) ∧
        ∃ moment method, Moment.Visited before ExampleVm.bundled message moment ∧
          moment.Calls () method ∧ moment.process.hosts.Fails method ∧ moment.Defined := by
  intro before message
  have enough : message.spendableGas < 101 := by decide
  obtain ⟨ending, after, finished, faults_iff, defined⟩ :=
    run_faults_iff (rfl : before.hosts.vm = some ExampleVm.bundled) ExampleVm.isExample_bundled
      enough
  have ran : ((run 101 message before).map fun ended => ended.1.fault?.isSome) = some true := by
    decide +kernel
  rw [finished] at ran
  refine ⟨rfl, ExampleVm.isExample_bundled, enough, ?_⟩
  cases ending with
  | returned result => cases ran
  | faulted fault =>
      obtain ⟨moment, method, visited, calls, fails⟩ := faults_iff.mp ⟨fault, rfl⟩
      exact ⟨fault, after, finished, moment, method, visited, calls, fails, defined moment visited⟩

end MockContext

end VmBridge
