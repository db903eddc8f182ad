import VmBridge.Proofs.ExecutionTermination
import VmBridge.Proofs.MachineAgreement
import VmBridge.Proofs.MethodFaults
import VmBridge.Proofs.RegistryScoping

/-!
# Where faults come from

A fault is parked under the handle of the execution whose callback met it and is raised
again when that execution ends, so it travels outward until it leaves the outermost
one.  An execution of the example VM therefore ends with a fault exactly if some method
fails for a reason of its own on the way, however deep: `Moment.ends_faulted_iff`.
-/

namespace VmBridge

variable {κ ν σ α : Type}

section Callbacks

variable {own handle : Nat} {provider : Provider} {verbosity : Nat} {message : Message}
  {request : Request}

/-- A callback with some handle of its own whose arguments can be decoded. -/
def Request.Reaches (own handle : Nat) (request : Request) : Prop :=
  handle = own ∧ ∃ delivery, request.decode = .ok delivery

theorem NativeRun.Obeys.imp_asks {asks weaker : Nat → Request → Prop} {yields : α → Prop}
    {run : NativeRun α} (obeys : run.Obeys asks yields)
    (weaken : ∀ handle request, asks handle request → weaker handle request) :
    run.Obeys weaker yields := by
  induction run with
  | done value => exact obeys
  | note event rest ih => exact ih obeys
  | ask handle request resume ih =>
      exact ⟨weaken handle request obeys.1, fun answer => ih answer (obeys.2 answer)⟩

/-- Whatever code of the example VM asks for can be decoded. -/
theorem reaches_of_asks
    (asked : (ExampleVm.frameOf provider verbosity own message).Asks
      (startingGas message.toNative) handle request) :
    request.Reaches own handle := by
  obtain ⟨handle_eq, mayAsk⟩ := asked
  refine ⟨handle_eq, ?_⟩
  cases mayAsk with
  | emitLog topics => exact ⟨_, decode_emitLog _ _ _⟩
  | call kind address granted value salt input =>
      exact ⟨_, decode_call (message.nested kind address granted value salt input)⟩
  | _ => exact ⟨_, rfl⟩

/-- The codes of all accounts have sizes that can be allocated. -/
def World.FitsMemory (world : World) : Prop :=
  ∀ address, (world.code address).length ≤ maxAllocation

open MockAction in
/-- A method of a mock context gives back an answer that a callback can have. -/
theorem MockAction.yields_admitted {delivery : request.Delivery} (context : MockContext Nat)
    (decoded : request.decode = .ok delivery) :
    (MockContext.hosting () delivery.method context).Yields fun answer later =>
      later.world.FitsMemory → request.Admits (delivery.encode answer) := by
  cases request with
  | getCodeSize pointer =>
      cases pointer with
      | none => cases decoded
      | some address =>
          cases decoded
          change ((check .getCodeSize >>= fun _ => _ : MockAction Nat Nat) context).Yields _
          rw [checked_apply]
          split
          · trivial
          · exact fun fits => fits address
  | copyCode pointer offset span =>
      match pointer, span with
      | none, _ => cases decoded
      | some _, .null (_ + 1) => cases decoded
      | some _, .null 0 | some _, .live _ =>
          cases decoded
          exact HostRun.yields_of_forall (fun answer _ _ => answer.2.length_toList) _
  | _ => exact HostRun.yields_of_forall (fun _ _ _ => trivial) _

end Callbacks

/-- What holds of an active execution of the example VM for a mock context, as far as it
has come: it asks only for what can be decoded, under its own handle, what serves it
fails for known reasons, and the answers are such as a callback can have. -/
def Phase.Sound (own : Nat) : Phase Unit Nat (MockContext Nat) → Prop
  | .registered _ run _ _ => ∃ provider, run = ExampleVm.nativeExecute provider
  | .native course => course.Obeys (fun handle request => request.Reaches own handle) fun _ => True
  | .serving handle request delivery run resume => handle = own ∧
      (∃ failing, run.FailsIf failing) ∧
      (run.Yields fun answer later =>
        later.world.FitsMemory → request.Admits (delivery.encode answer)) ∧
      ∀ answer, (resume answer).Obeys (fun handle request => request.Reaches own handle)
        fun _ => True
  | .settled _ | .collected _ _ => True

/-- A callback is made next. -/
def Phase.Asks : Phase κ ν σ → Prop
  | .native (.ask _ _ _) => True
  | _ => False

namespace Level

/-- The native code of an execution makes a callback that reaches a method of a host. -/
def Calls (process : Process κ ν σ) (level : Level κ ν σ) (host : κ) (method : HostMethod) :
    Prop :=
  ∃ handle request resume, level.phase = .native (.ask handle request resume) ∧
    process.registry.resolve handle = some host ∧
      ∃ delivery, request.decode = .ok delivery ∧ delivery.method = method

/-- An execution makes a callback to a method that fails for a reason of its own. -/
def MeetsFault (process : MockProcess) (level : Level Unit Nat (MockContext Nat)) : Prop :=
  ∃ method, level.Calls process () method ∧ process.hosts.Fails method

/-- An execution is bound to end with a fault. -/
def Doomed (registry : Registry κ) (level : Level κ ν σ) : Prop :=
  match level.phase with
  | .collected _ fault => fault.isSome = true
  | .serving _ _ _ run _ => (registry.parkedFault level.handle).isSome = true ∨ run.Fails
  | _ => (registry.parkedFault level.handle).isSome = true

variable {process : MockProcess} {level : Level Unit Nat (MockContext Nat)}

theorem not_meetsFault (silent : ¬level.phase.Asks) : ¬level.MeetsFault process := by
  rintro ⟨_, ⟨handle, request, resume, phase_eq, _⟩, _⟩
  rw [phase_eq] at silent
  exact silent trivial

end Level

/-- One step of a sound execution: it stays sound, and it is bound to end with a fault
afterwards exactly if it was before or met a fault in this step. -/
def Turn.Relays (level : Level Unit Nat (MockContext Nat)) (before after : MockProcess) :
    Turn Unit Nat (MockContext Nat) → Prop
  | .goesOn phase => phase.Sound level.handle ∧
      ((⟨level.handle, level.host, phase⟩ : Level _ _ _).Doomed after.registry ↔
        level.Doomed before.registry ∨ level.MeetsFault before)
  | .nests vm _ _ _ => vm.IsExample ∧ ¬level.MeetsFault before ∧
      (level.Doomed after.registry ↔ level.Doomed before.registry)
  | .ends ending => ¬level.MeetsFault before ∧ (ending.Faults ↔ level.Doomed before.registry)

theorem isSome_parkedFault_recordFault {registry : Registry κ} {handle : Nat} {host : κ}
    (live : registry.resolve handle = some host) (fault : Fault) :
    ((registry.recordFault handle fault).parkedFault handle).isSome = true := by
  have isLive : registry.isLive handle = true := (registry.isLive_iff handle).mpr ⟨host, live⟩
  rw [Registry.parkedFault_recordFault, if_pos ⟨rfl, isLive⟩]
  cases registry.parkedFault handle <;> rfl

theorem Process.parkedFault_closed (process : Process κ ν σ) {handle other : Nat}
    (different : other ≠ handle) :
    (process.closed handle).registry.parkedFault other = process.registry.parkedFault other := by
  rw [closed]
  split
  · exact (Registry.parkedFault_unregister _ _ _).trans (if_neg different.symm)
  · rfl

open MockContext (hosting)

namespace Level

variable {process : MockProcess} {level : Level Unit Nat (MockContext Nat)}

/-- What a step of an execution leaves alone: the VM of the context, and the faults of
other executions. -/
def Spares (level : Level Unit Nat (MockContext Nat)) (before after : MockProcess) : Prop :=
  after.hosts.UsesExampleVm ∧ ∀ other, other ≠ level.handle →
    after.registry.parkedFault other = before.registry.parkedFault other

theorem turn_asking {handle : Nat} {request : Request}
    {resume : request.Answer → NativeRun NativeResult} {delivery : request.Delivery} {host : κ}
    {level : Level κ ν σ} {hosting : Hosting κ ν σ} {process : Process κ ν σ}
    (asks : level.phase = .native (.ask handle request resume))
    (resolved : process.registry.resolve handle = some host)
    (decoded : request.decode = .ok delivery) :
    level.turn hosting process =
      ((process.journaled (.requested request.name handle)).announced delivery.method,
        .goesOn (.serving handle request delivery (hosting host delivery.method process.hosts)
          resume)) := by
  rw [turn, asks]
  simp only [askStep, resolved, decoded]

section Turns

variable {own handle : Nat} {host : Unit} {request : Request}
  {resume : request.Answer → NativeRun NativeResult} {delivery : request.Delivery}

theorem meetsFault_asking (live : process.registry.resolve handle = some ())
    (decoded : request.decode = .ok delivery) :
    (⟨own, host, .native (.ask handle request resume)⟩ : Level _ _ _).MeetsFault process ↔
      process.hosts.Fails delivery.method := by
  constructor
  · rintro ⟨_, ⟨_, _, _, ⟨⟩, _, other, decoded', rfl⟩, fails⟩
    cases decoded.symm.trans decoded'
    exact fails
  · exact fun fails => ⟨_, ⟨_, _, _, rfl, live, _, decoded, rfl⟩, fails⟩

/-- A callback reaches a method, which fails at once exactly if it has a reason. -/
theorem asking_relays (phase_eq : level.phase = .native (.ask handle request resume))
    (sound : level.phase.Sound level.handle)
    (live : process.registry.resolve level.handle = some ())
    (uses : process.hosts.UsesExampleVm) :
    level.Spares process (level.turn hosting process).1 ∧
      (level.turn hosting process).2.Relays level process (level.turn hosting process).1 := by
  obtain ⟨own, host, phase⟩ := level
  subst phase_eq
  obtain ⟨⟨rfl, delivery, decoded⟩, answered⟩ := sound
  rw [turn_asking rfl live decoded]
  have failsIf := MockAction.failsIf_hosting uses delivery.method
  have admitted := MockAction.yields_admitted process.hosts decoded
  refine ⟨⟨?_, fun other _ => ?_⟩, ⟨rfl, ⟨_, failsIf⟩, admitted, answered⟩, ?_⟩
  · rwa [Process.announced_hosts]
  · rw [Process.announced_registry]
    rfl
  · rw [meetsFault_asking live decoded, ← failsIf.fails_iff]
    simp only [Doomed, Process.announced_registry, Process.journaled_registry]

/-- A method goes on, and its fault is parked when it has failed. -/
theorem serving_relays {run : HostRun Unit Nat (MockContext Nat) delivery.method.Answer}
    (phase_eq : level.phase = .serving handle request delivery run resume)
    (sound : level.phase.Sound level.handle)
    (live : process.registry.resolve level.handle = some ())
    (uses : process.hosts.UsesExampleVm) :
    level.Spares process (level.turn hosting process).1 ∧
      (level.turn hosting process).2.Relays level process (level.turn hosting process).1 := by
  obtain ⟨own, host, phase⟩ := level
  subst phase_eq
  obtain ⟨rfl, ⟨failing, failsIf⟩, admitted, answered⟩ := sound
  have unmet : ¬(⟨handle, host, .serving handle request delivery run resume⟩ :
      Level _ _ _).MeetsFault process := not_meetsFault id
  cases run with
  | done ending hosts =>
      obtain ⟨faults_iff, usesLater⟩ := failsIf
      cases ending with
      | returned value =>
          refine ⟨⟨usesLater, fun _ _ => rfl⟩, answered _, ?_⟩
          exact ((or_iff_left unmet).trans (or_iff_left id)).symm
      | faulted fault =>
          refine ⟨⟨usesLater, fun other different => ?_⟩, answered _, ?_⟩
          · exact (Registry.parkedFault_recordFault _ _ _ _).trans
              (if_neg fun same => different same.1.symm)
          · exact ⟨fun _ => Or.inl (Or.inr trivial), fun _ =>
              isSome_parkedFault_recordFault live fault⟩
  | note event rest =>
      exact ⟨⟨uses, fun _ _ => rfl⟩, ⟨rfl, ⟨failing, failsIf⟩, admitted, answered⟩,
        (or_iff_left unmet).symm⟩
  | execute vm inner message code hosts later =>
      obtain ⟨spared, isExample, usesLater, resumed⟩ := failsIf
      exact ⟨⟨usesLater, fun _ _ => rfl⟩, isExample, unmet, Iff.rfl⟩

end Turns

theorem turn_relays (sound : level.phase.Sound level.handle)
    (live : process.registry.resolve level.handle = some ())
    (uses : process.hosts.UsesExampleVm) :
    level.Spares process (level.turn hosting process).1 ∧
      (level.turn hosting process).2.Relays level process (level.turn hosting process).1 := by
  obtain ⟨own, host, phase⟩ := level
  have unmet (silent : ¬phase.Asks) : ¬(⟨own, host, phase⟩ : Level _ _ _).MeetsFault process :=
    not_meetsFault silent
  cases phase with
  | registered vm run message code =>
      obtain ⟨provider, rfl⟩ := sound
      refine ⟨⟨uses, fun _ _ => rfl⟩, ?_, (or_iff_left (unmet id)).symm⟩
      exact (ExampleVm.execute_obeys provider _ own message code).imp_asks
        fun _ _ asked => reaches_of_asks asked
  | native course =>
      cases course with
      | done native => exact ⟨⟨uses, fun _ _ => rfl⟩, trivial, (or_iff_left (unmet id)).symm⟩
      | note event rest => exact ⟨⟨uses, fun _ _ => rfl⟩, sound, (or_iff_left (unmet id)).symm⟩
      | ask handle request resume => exact asking_relays rfl sound live uses
  | serving handle request delivery run resume => exact serving_relays rfl sound live uses
  | settled native =>
      refine ⟨⟨uses, fun other different => ?_⟩, trivial, (or_iff_left (unmet id)).symm⟩
      exact (Registry.parkedFault_clearFault _ _ _).trans (if_neg different.symm)
  | collected native fault =>
      have spares : (⟨own, host, .collected native fault⟩ : Level _ _ _).Spares process
          (process.closed own) :=
        ⟨(process.closed_hosts own).symm ▸ uses,
          fun _ different => process.parkedFault_closed different⟩
      cases fault with
      | none => exact ⟨spares, unmet id, False.elim, fun doomed => nomatch doomed⟩
      | some fault => exact ⟨spares, unmet id, fun _ => rfl, fun _ => trivial⟩

/-- An execution that hears of the end of another one is doomed if that has faulted. -/
theorem resumed_relays {ending : Ending ExecutionResult} {phase : Phase Unit Nat (MockContext Nat)}
    (sound : level.phase.Sound level.handle) (uses : process.hosts.UsesExampleVm)
    (resumed : level.phase.resumed ending process.hosts = some phase) :
    phase.Sound level.handle ∧
      ((⟨level.handle, level.host, phase⟩ : Level _ _ _).Doomed process.registry ↔
        ending.Faults ∨ level.Doomed process.registry) := by
  obtain ⟨own, host, outerPhase⟩ := level
  cases outerPhase with
  | serving handle request delivery run resume =>
      obtain ⟨rfl, ⟨failing, failsIf⟩, admitted, answered⟩ := sound
      cases run with
      | execute vm inner message code hosts later =>
          cases resumed
          obtain ⟨_, _, _, rest⟩ := failsIf
          have later_failsIf := rest ending process.hosts uses
          refine ⟨⟨rfl, ⟨_, later_failsIf⟩, admitted _ _, answered⟩, ?_⟩
          simp only [Doomed, later_failsIf.fails_iff, HostRun.Fails, or_false]
          exact or_comm
      | _ => cases resumed
  | _ => cases resumed

end Level

/-- Whether an execution is doomed depends on the registry only by its own fault. -/
theorem Level.doomed_congr {level : Level κ ν σ} {before after : Registry κ}
    (same : after.parkedFault level.handle = before.parkedFault level.handle) :
    level.Doomed after ↔ level.Doomed before := by
  obtain ⟨handle, host, phase⟩ := level
  cases phase <;> simp only [Doomed, same]

namespace Moment

/-- The innermost execution makes a callback that reaches a method of a host. -/
def Calls (moment : Moment κ ν σ) (host : κ) (method : HostMethod) : Prop :=
  moment.control = .running ∧ ∃ level outer, moment.levels = level :: outer ∧
    level.Calls moment.process host method

/-- A method is called that fails for a reason of its own. -/
def MeetsFault (moment : Moment Unit Nat (MockContext Nat)) : Prop :=
  ∃ method, moment.Calls () method ∧ moment.process.hosts.Fails method

/-- A fault is on its way out: an execution has ended with it, or one that is active is
bound to. -/
def Doomed (moment : Moment κ ν σ) : Prop :=
  (∃ ending, moment.control = .ended ending ∧ ending.Faults) ∨
    ∃ level ∈ moment.levels, level.Doomed moment.process.registry

structure Sound (base : Registry Unit) (moment : Moment Unit Nat (MockContext Nat)) :
    Prop where
  order : moment.InOrder base
  uses : moment.process.hosts.UsesExampleVm
  phases : ∀ level ∈ moment.levels, level.phase.Sound level.handle
  starts : ∀ vm host message code, moment.control = .starting vm host message code →
    vm.IsExample

variable {base : Registry Unit} {moment later : Moment Unit Nat (MockContext Nat)}
  {process after : MockProcess} {level : Level Unit Nat (MockContext Nat)}
  {outer : List (Level Unit Nat (MockContext Nat))} {control : Control Unit Nat}

theorem doomed_ended {ending : Ending ExecutionResult} :
    Doomed ⟨process, .ended ending, outer⟩ ↔
      ending.Faults ∨ ∃ other ∈ outer, other.Doomed process.registry := by
  simp [Doomed]

theorem doomed_starting {vm : Vm Nat} {host : Unit} {message : Message} {code : Bytes} :
    Doomed ⟨process, .starting vm host message code, outer⟩ ↔
      ∃ other ∈ outer, other.Doomed process.registry := by
  simp [Doomed]

theorem exists_doomed_cons {registry : Registry Unit} :
    (∃ other ∈ level :: outer, other.Doomed registry) ↔
      level.Doomed registry ∨ ∃ other ∈ outer, other.Doomed registry := by
  simp

theorem doomed_running : Doomed ⟨process, .running, level :: outer⟩ ↔
    level.Doomed process.registry ∨ ∃ other ∈ outer, other.Doomed process.registry := by
  simp [Doomed]

/-- Only the fault of the innermost execution changes in a step of it. -/
theorem InOrder.spared (order : InOrder base ⟨process, control, level :: outer⟩)
    (spares : level.Spares process after) :
    (∃ other ∈ outer, other.Doomed after.registry) ↔
      ∃ other ∈ outer, other.Doomed process.registry := by
  have different (other : Level Unit Nat (MockContext Nat)) (member : other ∈ outer) :
      other.handle ≠ level.handle := by
    have older := List.rel_of_pairwise_cons order.growing (List.mem_map_of_mem member)
    exact Nat.ne_of_lt older
  constructor
  · rintro ⟨other, member, doomed⟩
    exact ⟨other, member, (Level.doomed_congr (spares.2 _ (different other member))).mp doomed⟩
  · rintro ⟨other, member, doomed⟩
    exact ⟨other, member, (Level.doomed_congr (spares.2 _ (different other member))).mpr doomed⟩

/-- A new execution has no fault yet and leaves those of the others alone. -/
theorem InOrder.spared_register (order : InOrder base ⟨process, control, outer⟩) (host : Unit) :
    (∃ other ∈ outer, other.Doomed (process.withHost host).registry) ↔
      ∃ other ∈ outer, other.Doomed process.registry := by
  have same (other : Level Unit Nat (MockContext Nat)) (member : other ∈ outer) :
      (process.withHost host).registry.parkedFault other.handle =
        process.registry.parkedFault other.handle := by
    have known := (order.between _ (List.mem_map_of_mem member)).2
    exact (Registry.parkedFault_register _ _ _).trans (if_neg (Nat.ne_of_gt known))
  constructor
  · rintro ⟨other, member, doomed⟩
    exact ⟨other, member, (Level.doomed_congr (same other member)).mp doomed⟩
  · rintro ⟨other, member, doomed⟩
    exact ⟨other, member, (Level.doomed_congr (same other member)).mpr doomed⟩

theorem InOrder.resolve_eq (order : InOrder base ⟨process, control, level :: outer⟩) :
    process.registry.resolve level.handle = some () :=
  order.leads _ List.mem_cons_self

theorem meetsFault_running : MeetsFault ⟨process, .running, level :: outer⟩ ↔
    level.MeetsFault process := by
  constructor
  · rintro ⟨method, ⟨_, _, _, ⟨⟩, calls⟩, fails⟩
    exact ⟨method, calls, fails⟩
  · rintro ⟨method, calls, fails⟩
    exact ⟨method, ⟨rfl, _, _, rfl, calls⟩, fails⟩

theorem Sound.next (sound : moment.Sound base) (stepped : moment.next hosting = some later) :
    later.Sound base ∧ (later.Doomed ↔ moment.Doomed ∨ moment.MeetsFault) := by
  have order : later.InOrder base :=
    Registry.Extends.of_changes sound.order (next_changes stepped)
  obtain ⟨process, control, levels⟩ := moment
  obtain ⟨order₀, uses, phases, starts⟩ := sound
  cases control with
  | starting vm host message code =>
      obtain ⟨provider, executes⟩ := (starts vm host message code rfl).executes
      simp only [Moment.next, executes, Option.some.injEq] at stepped
      subst stepped
      have head : ¬(⟨process.registry.nextHandle, host, .registered vm
          (ExampleVm.nativeExecute provider) message code⟩ :
            Level Unit Nat (MockContext Nat)).Doomed (process.withHost host).registry := by
        have fresh : (process.withHost host).registry.parkedFault process.registry.nextHandle =
            none :=
          (Registry.parkedFault_register _ _ _).trans (if_pos rfl)
        simp [Level.Doomed, fresh]
      have unmet : ¬MeetsFault ⟨process, .starting vm host message code, levels⟩ := by
        rintro ⟨_, ⟨⟨⟩, _⟩, _⟩
      refine ⟨⟨order, uses, ?_, by rintro _ _ _ _ ⟨⟩⟩, ?_⟩
      · exact List.forall_mem_cons.mpr ⟨⟨provider, rfl⟩, phases⟩
      · rw [doomed_running, doomed_starting, or_iff_right head, or_iff_left unmet]
        exact order₀.spared_register host
  | running =>
      cases levels with
      | nil => cases stepped
      | cons level outer =>
          have relays := Level.turn_relays (phases level List.mem_cons_self) order₀.resolve_eq uses
          have outerSound : ∀ other ∈ outer, other.phase.Sound other.handle :=
            fun other member => phases other (List.mem_cons_of_mem _ member)
          rcases turned : level.turn hosting process with ⟨after, turn⟩
          rw [turned] at relays
          obtain ⟨spares, relays⟩ := relays
          have spared := order₀.spared spares
          simp only [Moment.next, turned] at stepped
          rw [doomed_running, meetsFault_running]
          cases turn with
          | goesOn phase =>
              cases stepped
              obtain ⟨phaseSound, doomed_iff⟩ := relays
              refine ⟨⟨order, spares.1, ?_, by rintro _ _ _ _ ⟨⟩⟩, ?_⟩
              · exact List.forall_mem_cons.mpr ⟨phaseSound, outerSound⟩
              · rw [doomed_running, doomed_iff, spared, or_right_comm]
          | nests vm host message code =>
              cases stepped
              obtain ⟨isExample, unmet, doomed_iff⟩ := relays
              refine ⟨⟨order, spares.1, phases, ?_⟩, ?_⟩
              · rintro _ _ _ _ ⟨⟩
                exact isExample
              · rw [doomed_starting, exists_doomed_cons, doomed_iff, spared,
                  or_iff_left unmet]
          | ends ending =>
              cases stepped
              obtain ⟨unmet, faults_iff⟩ := relays
              refine ⟨⟨order, spares.1, outerSound, by rintro _ _ _ _ ⟨⟩⟩, ?_⟩
              rw [doomed_ended, faults_iff, spared, or_iff_left unmet]
  | ended ending =>
      cases levels with
      | nil => cases stepped
      | cons level outer =>
          simp only [Moment.next, Option.map_eq_some_iff] at stepped
          obtain ⟨phase, resumed, rfl⟩ := stepped
          have unmet : ¬MeetsFault ⟨process, .ended ending, level :: outer⟩ := by
            rintro ⟨_, ⟨⟨⟩, _⟩, _⟩
          obtain ⟨phaseSound, doomed_iff⟩ :=
            Level.resumed_relays (phases level List.mem_cons_self) uses resumed
          refine ⟨⟨order, uses, ?_, by rintro _ _ _ _ ⟨⟩⟩, ?_⟩
          · exact List.forall_mem_cons.mpr
              ⟨phaseSound, fun other member => phases other (List.mem_cons_of_mem _ member)⟩
          · rw [doomed_running, doomed_ended, exists_doomed_cons, doomed_iff, or_assoc,
              or_iff_left unmet]

theorem Sound.of_leads (sound : moment.Sound base) (onward : moment.Leads hosting later) :
    later.Sound base := by
  induction onward with
  | refl => exact sound
  | tail _ stepped ih => exact (ih.next stepped).1

/-- A fault that is on its way stays on its way. -/
theorem Sound.doomed_of_leads (sound : moment.Sound base) (doomed : moment.Doomed)
    (onward : moment.Leads hosting later) : later.Doomed := by
  induction onward with
  | refl => exact doomed
  | tail onward stepped ih => exact ((sound.of_leads onward).next stepped).2.mpr (Or.inl ih)

/-- A fault that is on its way comes from a method that failed for a reason of its own. -/
theorem Sound.exists_meetsFault (sound : moment.Sound base) (spared : ¬moment.Doomed)
    (onward : moment.Leads hosting later) (doomed : later.Doomed) :
    ∃ middle, moment.Leads hosting middle ∧ middle.MeetsFault := by
  induction onward with
  | refl => exact absurd doomed spared
  | tail onward stepped ih =>
      rcases ((sound.of_leads onward).next stepped).2.mp doomed with before | meets
      · exact ih before
      · exact ⟨_, onward, meets⟩

variable {before : MockProcess} {vm : Vm Nat} {message : Message} {code : Bytes}

theorem sound_start (isExample : vm.IsExample) (uses : before.hosts.UsesExampleVm) :
    (start before vm () message code []).Sound before.registry where
  order := inOrder_start before vm () message code
  uses := uses
  phases _ member := nomatch member
  starts := by
    rintro _ _ _ _ ⟨⟩
    exact isExample

/-- An execution for a mock context that uses the example VM ends with a fault exactly if
some method is called on the way that fails for a reason of its own. -/
theorem ends_faulted_iff (isExample : vm.IsExample) (uses : before.hosts.UsesExampleVm)
    {ending : Ending ExecutionResult} {after : MockProcess}
    (finish : (start before vm () message code []).Leads hosting ⟨after, .ended ending, []⟩) :
    ending.Faults ↔
      ∃ moment, (start before vm () message code []).Leads hosting moment ∧
        moment.MeetsFault := by
  have sound : (start before vm () message code []).Sound before.registry :=
    sound_start isExample uses
  have doomed_iff : Doomed ⟨after, .ended ending, []⟩ ↔ ending.Faults := by simp [Doomed]
  rw [← doomed_iff]
  constructor
  · intro doomed
    have spared : ¬(start before vm () message code []).Doomed := by simp [Doomed, start]
    exact sound.exists_meetsFault spared finish doomed
  · rintro ⟨moment, onward, meets⟩
    have rest := finish.leads_of_next_eq_none rfl onward
    rcases Relation.ReflTransGen.cases_head rest with rfl | ⟨middle, stepped, rest⟩
    · obtain ⟨_, ⟨⟨⟩, _⟩, _⟩ := meets
    · obtain ⟨soundMiddle, doomedMiddle⟩ := (sound.of_leads onward).next stepped
      exact soundMiddle.doomed_of_leads (doomedMiddle.mpr (Or.inr meets)) rest

end Moment

end VmBridge
