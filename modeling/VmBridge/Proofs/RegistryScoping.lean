import VmBridge.Proofs.CallbackOutcomes
import VmBridge.Proofs.ExecutionMoments
import VmBridge.Proofs.RegistryHistory

/-!
# Executions keep the registry in order

While executions are active the registry leads to their hosts, each under a
handle of its own, and otherwise where it led before: `Registry.Extends`.  Every
step of an execution preserves this, so it holds at every moment, with one entry
for each active execution and with handles that grow inward.  When the
execution has ended, by returning or by a fault, the registry leads where it led
before, and the handle of the execution leads nowhere from then on.  This is
`executions_are_scoped`.
-/

namespace VmBridge

variable {κ ν σ : Type}

namespace Registry

/-- Two registries lead to the same hosts and hand out the same handle next. -/
structure SameHosts (first second : Registry κ) : Prop where
  nextHandle_eq : second.nextHandle = first.nextHandle
  resolve_eq : ∀ handle, second.resolve handle = first.resolve handle

theorem SameHosts.refl (registry : Registry κ) : registry.SameHosts registry :=
  ⟨rfl, fun _ => rfl⟩

theorem sameHosts_recordFault (registry : Registry κ) (handle : Nat) (fault : Fault) :
    registry.SameHosts (registry.recordFault handle fault) :=
  ⟨registry.nextHandle_recordFault handle fault, fun query =>
    registry.resolve_recordFault handle query fault⟩

theorem sameHosts_clearFault (registry : Registry κ) (handle : Nat) :
    registry.SameHosts (registry.clearFault handle) :=
  ⟨registry.nextHandle_clearFault handle, fun query => registry.resolve_clearFault handle query⟩

/-- A registry leads where another one does, and to some active hosts besides,
of which the newest one comes first. -/
structure Extends (base : Registry κ) (active : List (Nat × κ)) (registry : Registry κ) :
    Prop where
  /-- Handles grow from each host to the newer ones. -/
  growing : active.Pairwise fun newer older => older.1 < newer.1
  leads : ∀ entry ∈ active, registry.resolve entry.1 = some entry.2
  vacant : ∀ entry ∈ active, base.resolve entry.1 = none
  others : ∀ handle, (∀ entry ∈ active, entry.1 ≠ handle) →
    registry.resolve handle = base.resolve handle
  nextHandle_le : base.nextHandle ≤ registry.nextHandle
  between : ∀ entry ∈ active, base.nextHandle ≤ entry.1 ∧ entry.1 < registry.nextHandle

namespace Extends

variable {base registry other : Registry κ} {active : List (Nat × κ)} {handle : Nat} {host : κ}

theorem refl (base : Registry κ) : base.Extends [] base where
  growing := .nil
  leads := by simp
  vacant := by simp
  others := by simp
  nextHandle_le := Nat.le_refl _
  between := by simp

theorem of_sameHosts (ext : base.Extends active registry) (same : registry.SameHosts other) :
    base.Extends active other where
  growing := ext.growing
  leads entry member := (same.resolve_eq _).trans (ext.leads entry member)
  vacant := ext.vacant
  others handle different := (same.resolve_eq _).trans (ext.others handle different)
  nextHandle_le := by
    rw [same.nextHandle_eq]
    exact ext.nextHandle_le
  between := by
    rw [same.nextHandle_eq]
    exact ext.between

theorem register (ext : base.Extends active registry) (host : κ) :
    base.Extends ((registry.nextHandle, host) :: active) (registry.register host) where
  growing := by
    refine .cons (fun entry member => ?_) ext.growing
    exact (ext.between entry member).2
  leads := by
    rintro entry (_ | ⟨_, member⟩)
    · rw [resolve_register, if_pos rfl]
    · have bounds := ext.between entry member
      rw [resolve_register, if_neg (by omega)]
      exact ext.leads entry member
  vacant := by
    rintro entry (_ | ⟨_, member⟩)
    · exact resolve_eq_none ext.nextHandle_le
    · exact ext.vacant entry member
  others handle different := by
    have newer := different (registry.nextHandle, host) List.mem_cons_self
    rw [resolve_register, if_neg newer]
    exact ext.others handle fun entry member => different entry (List.mem_cons_of_mem _ member)
  nextHandle_le := Nat.le_succ_of_le ext.nextHandle_le
  between := by
    rintro entry (_ | ⟨_, member⟩)
    · exact ⟨ext.nextHandle_le, Nat.lt_succ_self _⟩
    · have bounds := ext.between entry member
      exact ⟨bounds.1, Nat.lt_succ_of_lt bounds.2⟩

theorem unregister (ext : base.Extends ((handle, host) :: active) registry) :
    base.Extends active (registry.unregister handle) where
  growing := ext.growing.of_cons
  leads entry member := by
    have older : entry.1 < handle := List.rel_of_pairwise_cons ext.growing member
    rw [resolve_unregister, if_neg (by omega)]
    exact ext.leads entry (List.mem_cons_of_mem _ member)
  vacant entry member := ext.vacant entry (List.mem_cons_of_mem _ member)
  others query different := by
    rw [resolve_unregister]
    split
    · rename_i same
      subst same
      exact (ext.vacant (handle, host) List.mem_cons_self).symm
    · rename_i unequal
      refine ext.others query fun entry member => ?_
      rcases List.mem_cons.mp member with rfl | older
      · exact unequal
      · exact different entry older
  nextHandle_le := ext.nextHandle_le
  between entry member := ext.between entry (List.mem_cons_of_mem _ member)

end Extends

/-- What a step makes of the active hosts and of the registry: both stay, a host is
registered, or the newest host gives its handle up. -/
inductive Changes : List (Nat × κ) → Registry κ → List (Nat × κ) → Registry κ → Prop where
  | stays {active : List (Nat × κ)} {registry other : Registry κ}
      (same : registry.SameHosts other) : Changes active registry active other
  | enters (active : List (Nat × κ)) (registry : Registry κ) (host : κ) :
      Changes active registry ((registry.nextHandle, host) :: active) (registry.register host)
  | leaves {active : List (Nat × κ)} {registry other : Registry κ} {handle : Nat} {host : κ}
      (same : (registry.unregister handle).SameHosts other) :
      Changes ((handle, host) :: active) registry active other

section Changes

variable {base registry other : Registry κ} {active later : List (Nat × κ)}

theorem Extends.of_changes (ext : base.Extends active registry)
    (changes : Changes active registry later other) : base.Extends later other := by
  cases changes with
  | stays same => exact ext.of_sameHosts same
  | enters _ _ host => exact ext.register host
  | leaves same => exact ext.unregister.of_sameHosts same

theorem Changes.nextHandle_le (changes : Changes active registry later other) :
    registry.nextHandle ≤ other.nextHandle := by
  cases changes with
  | stays same => exact Nat.le_of_eq same.nextHandle_eq.symm
  | enters => exact Nat.le_succ _
  | leaves same => exact Nat.le_of_eq same.nextHandle_eq.symm

end Changes

end Registry

/-- When a handle is given up the registry leads to the same hosts without it, also
when it led to none before. -/
theorem Process.sameHosts_closed (process : Process κ ν σ) (handle : Nat) :
    (process.registry.unregister handle).SameHosts (process.closed handle).registry := by
  rw [closed]
  split
  · exact .refl _
  · rename_i dead
    refine ⟨rfl, fun query => ?_⟩
    rw [Registry.resolve_unregister]
    split
    · rename_i same
      subst same
      cases resolved : process.registry.resolve handle with
      | none => rfl
      | some host => exact absurd ((Registry.isLive_iff _ _).mpr ⟨host, resolved⟩) dead
    · rfl

/-- What one step of an active execution makes of the registry: it gives up the handle
of the execution if the execution ends, and otherwise leads where it led. -/
def Turn.Keeps (handle : Nat) (before after : Registry κ) : Turn κ ν σ → Prop
  | .goesOn _ => before.SameHosts after
  | .nests _ _ _ _ => before.SameHosts after
  | .ends _ => (before.unregister handle).SameHosts after

theorem askStep_sameHosts (hosting : Hosting κ ν σ) (process : Process κ ν σ) (handle : Nat)
    (request : Request) (resume : request.Answer → NativeRun NativeResult) :
    process.registry.SameHosts (askStep hosting process handle request resume).1.registry := by
  simp only [askStep]
  split
  · exact .refl _
  · split
    · exact .refl _
    · simpa using Registry.SameHosts.refl process.registry

theorem Level.turn_keeps (hosting : Hosting κ ν σ) (process : Process κ ν σ)
    (level : Level κ ν σ) :
    (level.turn hosting process).2.Keeps level.handle process.registry
      (level.turn hosting process).1.registry := by
  obtain ⟨handle, host, phase⟩ := level
  cases phase with
  | registered vm run message code => exact .refl _
  | native course =>
      cases course with
      | done native => exact .refl _
      | note event rest => exact .refl _
      | ask other request resume => exact askStep_sameHosts hosting process other request resume
  | serving other request delivery run resume =>
      cases run with
      | done ending hosts =>
          cases ending with
          | returned value => exact .refl _
          | faulted fault => exact process.registry.sameHosts_recordFault other fault
      | note event rest => exact .refl _
      | execute vm inner message code hosts later => exact .refl _
  | settled native => exact process.registry.sameHosts_clearFault handle
  | collected native fault =>
      cases fault with
      | none => exact process.sameHosts_closed handle
      | some fault => exact process.sameHosts_closed handle

namespace Moment

/-- The handles and the hosts of the active executions, the innermost one first. -/
def active (moment : Moment κ ν σ) : List (Nat × κ) :=
  moment.levels.map fun level => (level.handle, level.host)

/-- At a moment the registry leads to the hosts of the active executions besides
where it led before. -/
def InOrder (base : Registry κ) (moment : Moment κ ν σ) : Prop :=
  base.Extends moment.active moment.process.registry

variable {hosting : Hosting κ ν σ} {base : Registry κ} {moment later : Moment κ ν σ}

theorem next_changes (stepped : moment.next hosting = some later) :
    Registry.Changes moment.active moment.process.registry later.active
      later.process.registry := by
  cases step_of_next stepped with
  | unsupported | hears => exact .stays (.refl _)
  | registers => exact .enters _ _ _
  | @goesOn process after level outer phase turned =>
      have keeps := level.turn_keeps hosting process
      rw [turned] at keeps
      exact .stays keeps
  | @nests process after level outer vm host message code turned =>
      have keeps := level.turn_keeps hosting process
      rw [turned] at keeps
      exact .stays keeps
  | @ends process after level outer ending turned =>
      have keeps := level.turn_keeps hosting process
      rw [turned] at keeps
      exact .leaves keeps

/-- The registry stays in order along every course of steps. -/
theorem InOrder.of_leads (order : moment.InOrder base) (onward : moment.Leads hosting later) :
    later.InOrder base := by
  induction onward with
  | refl => exact order
  | tail _ stepped ih => exact Registry.Extends.of_changes ih (next_changes stepped)

theorem Leads.nextHandle_le (onward : moment.Leads hosting later) :
    moment.process.registry.nextHandle ≤ later.process.registry.nextHandle := by
  induction onward with
  | refl => exact Nat.le_refl _
  | tail _ stepped ih => exact Nat.le_trans ih (next_changes stepped).nextHandle_le

theorem inOrder_start (process : Process κ ν σ) (vm : Vm ν) (host : κ) (message : Message)
    (code : Bytes) : (start process vm host message code []).InOrder process.registry :=
  .refl process.registry

/-- Once the execution with some handle is over, the handle leads nowhere, whatever
happens to the registry. -/
theorem InOrder.resolve_of_over (order : moment.InOrder base) (onward : moment.Leads hosting later)
    {level : Level κ ν σ} (member : level ∈ moment.levels)
    (gone : ∀ other ∈ later.levels, other.handle ≠ level.handle)
    (operations : List (Registry.Operation κ)) :
    (later.process.registry.afterAll operations).resolve level.handle = none := by
  have entry := (List.mem_map_of_mem member : (level.handle, level.host) ∈ moment.active)
  have gone_active : ∀ entry ∈ later.active, entry.1 ≠ level.handle := by
    intro entry active
    obtain ⟨other, other_mem, rfl⟩ := List.mem_map.mp active
    exact gone other other_mem
  have dead : later.process.registry.resolve level.handle = none := by
    rw [(order.of_leads onward).others level.handle gone_active]
    exact order.vacant _ entry
  have known : level.handle < later.process.registry.nextHandle :=
    Nat.lt_of_lt_of_le (order.between _ entry).2 onward.nextHandle_le
  exact Registry.resolve_afterAll_of_dead known dead operations

end Moment

theorem declined_of_unresolved {handle : Nat} {process : Process κ ν σ}
    (unresolved : process.registry.resolve handle = none) (request : Request) :
    Declined handle request process request.fallback
      ((process.journaled (.requested request.name handle)).refused handle
        (.contextNotFound handle request.name.text)) :=
  declined_of_deliver_eq (Or.inl unresolved) fun _ _ => deliver_unresolved unresolved

/-- At every moment of an execution the registry leads to the hosts of the active
executions besides where it led before.  When one of them is over, all callbacks with
its handle are declined from then on, whatever happens to the registry.  The moments
come to an end as the execution does, and then the registry leads where it led
before. -/
theorem executions_are_scoped (hosting : Hosting κ ν σ) (vm : Vm ν) (host : κ)
    (message : Message) (code : Bytes) (before : Process κ ν σ) :
    (∀ moment, (Moment.start before vm host message code []).Leads hosting moment →
        moment.InOrder before.registry ∧
          ∀ later, moment.Leads hosting later → ∀ level ∈ moment.levels,
            (∀ other ∈ later.levels, other.handle ≠ level.handle) →
              ∀ operations request (process : Process κ ν σ),
                process.registry = later.process.registry.afterAll operations →
                  ∃ answer after, Declined level.handle request process answer after) ∧
      ∀ ending after,
        ((∃ limit, execute hosting limit vm host message code before = some (ending, after)) ↔
            (Moment.start before vm host message code []).Leads hosting
              ⟨after, .ended ending, []⟩) ∧
          ∀ limit, execute hosting limit vm host message code before = some (ending, after) →
            ∀ handle, after.registry.resolve handle = before.registry.resolve handle := by
  have order (moment : Moment κ ν σ)
      (onward : (Moment.start before vm host message code []).Leads hosting moment) :
      moment.InOrder before.registry :=
    (Moment.inOrder_start before vm host message code).of_leads onward
  constructor
  · intro moment reached
    refine ⟨order moment reached, ?_⟩
    intro later onward level member gone operations request process process_eq
    have unresolved : process.registry.resolve level.handle = none := by
      rw [process_eq]
      exact (order moment reached).resolve_of_over onward member gone operations
    exact ⟨_, _, declined_of_unresolved unresolved request⟩
  · intro ending after
    have finishes := Moment.execute_iff_leads hosting vm host message code before ending after
    refine ⟨finishes, fun limit finished handle => ?_⟩
    have finish := finishes.mp ⟨limit, finished⟩
    exact (order _ finish).others handle (by simp [Moment.active])

/-- Native code that asks for a nested message, unless it runs for one. -/
def nestingExecute : NativeExecute Unit := fun state arguments =>
  (state, match arguments.message with
    | some message =>
        if message.depth = 0 then
          .ask arguments.handle (.call (some { message with depth := 1 })) .done
        else .done ExecutionResult.failure.toNative
    | none => .done ExecutionResult.failure.toNative)

def nestingVm : Vm Unit where
  identity := 0
  native :=
    { provider := .bundled
      interfaceVersion := interfaceVersion
      name := none
      version := none
      initial := ()
      hasDestroy := true
      capabilities := none
      setOption := none
      execute := some nestingExecute }
  library := none

/-- Hosts that have nested messages executed for the second of them. -/
def nestingHosting : Hosting Bool Unit Unit
  | _, .call message => HostAction.execute nestingVm true message []
  | _, _ => HostAction.fail .wordless

/-- While the nested message is executed both handles lead to their hosts; in the end
none does, and the inner one is of no use any more. -/
theorem execute_nestingVm :
    ∃ moment ending after,
      (Moment.start (Process.initial ()) nestingVm false default [] []).Leads nestingHosting
          moment ∧
        moment.active = [(2, true), (1, false)] ∧ moment.InOrder .empty ∧
        execute nestingHosting 2 nestingVm false default [] (Process.initial ()) =
          some (ending, after) ∧
        (∀ handle, after.registry.resolve handle = none) ∧
        ∃ answer final, Declined 2 .getTxContext after answer final := by
  obtain ⟨moments, endings⟩ :=
    executions_are_scoped nestingHosting nestingVm false default [] (Process.initial ())
  have reached : (Moment.start (Process.initial ()) nestingVm false default [] []).Leads
      nestingHosting _ :=
    Moment.leads_step rfl
      (Moment.leads_step rfl (Moment.leads_step rfl (Moment.leads_step rfl (.single rfl))))
  obtain ⟨order, declined⟩ := moments _ reached
  obtain ⟨finishes, restored⟩ := endings _ _
  have onward := (finishes.mp ⟨2, rfl⟩).leads_of_next_eq_none rfl reached
  exact ⟨_, _, _, reached, rfl, order, rfl, restored 2 rfl,
    declined _ onward _ List.mem_cons_self (by simp) [] _ _ rfl⟩

end VmBridge
