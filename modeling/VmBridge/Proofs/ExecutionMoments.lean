import Mathlib.Logic.Relation
import VmBridge.Proofs.ExecutionSteps

/-!
# The moments of an execution

`execute` says how an execution ends, but not what the program looks like on the
way.  This module plays executions step by step.  A `Moment` is the shared
state together with the executions that are active: each has its handle and its
host, and its `Phase` says how far it has come.  `Moment.next` takes one step,
in which the innermost execution moves on, begins a nested one, or ends.

The steps lead where `execute` says: `execute_iff_leads`.  In one direction the
steps of an execution are put together along its native code and the methods of
its hosts.  In the other an execution for which no limit is enough nests without
bound, and then its steps come to no end.
-/

namespace VmBridge

variable {κ ν σ : Type}

/-- How far an active execution has come. -/
inductive Phase (κ ν σ : Type) where
  /-- Its host has been registered. -/
  | registered (vm : Vm ν) (run : NativeExecute ν) (message : Message) (code : Bytes)
  /-- Its native code runs. -/
  | native (course : NativeRun NativeResult)
  /-- A method of some host serves a callback of its native code. -/
  | serving (handle : Nat) (request : Request) (delivery : request.Delivery)
      (run : HostRun κ ν σ delivery.method.Answer)
      (resume : request.Answer → NativeRun NativeResult)
  /-- Its native result has been copied and released. -/
  | settled (native : NativeResult)
  /-- The fault that was parked under its handle has been collected. -/
  | collected (native : NativeResult) (fault : Option Fault)

/-- An active execution. -/
structure Level (κ ν σ : Type) where
  handle : Nat
  host : κ
  phase : Phase κ ν σ

/-- What an active execution does in one step. -/
inductive Turn (κ ν σ : Type) where
  | goesOn (phase : Phase κ ν σ)
  /-- A host of the execution has a VM execute a message. -/
  | nests (vm : Vm ν) (host : κ) (message : Message) (code : Bytes)
  | ends (ending : Ending ExecutionResult)

/-- What comes next at a moment. -/
inductive Control (κ ν : Type) where
  /-- A VM is to execute a message. -/
  | starting (vm : Vm ν) (host : κ) (message : Message) (code : Bytes)
  /-- The innermost active execution moves on. -/
  | running
  /-- An execution has ended, and whoever asked for it hears of it. -/
  | ended (ending : Ending ExecutionResult)

/-- One moment of a program: the shared state, what comes next, and the active
executions with the innermost one first. -/
structure Moment (κ ν σ : Type) where
  process : Process κ ν σ
  control : Control κ ν
  levels : List (Level κ ν σ)

namespace Process

/-- The state after the host of an execution has been registered. -/
def withHost (process : Process κ ν σ) (host : κ) : Process κ ν σ :=
  { process with registry := process.registry.register host }.journaled
    (.registered process.registry.nextHandle)

/-- The state after the native code of an execution has been entered. -/
def entered (process : Process κ ν σ) (handle : Nat) (vm : Vm ν) (run : NativeExecute ν)
    (message : Message) (code : Bytes) : Process κ ν σ :=
  let arguments := invocation handle message code
  let announced := (process.journaled (.executing message code.length handle)).journaled
    (.entered vm.native.provider arguments.revision message.toNative arguments.code)
  { announced with
    privateStates :=
      announced.privateStates.insert vm.identity (run (process.privateState vm) arguments).1 }

/-- The state after the fault under a handle has been collected. -/
def collected (process : Process κ ν σ) (handle : Nat) : Process κ ν σ :=
  { process with registry := process.registry.clearFault handle }

end Process

/-- A callback of native code reaches a method of a host or is refused. -/
def askStep (hosting : Hosting κ ν σ) (process : Process κ ν σ) (handle : Nat)
    (request : Request) (resume : request.Answer → NativeRun NativeResult) :
    Process κ ν σ × Phase κ ν σ :=
  let requested := process.journaled (.requested request.name handle)
  match process.registry.resolve handle with
  | none =>
      (requested.refused handle (.contextNotFound handle request.name.text),
        .native (resume request.fallback))
  | some host =>
      match request.decode with
      | .error error => (requested.refused handle error, .native (resume request.fallback))
      | .ok delivery =>
          (requested.announced delivery.method,
            .serving handle request delivery (hosting host delivery.method process.hosts) resume)

/-- One step of an active execution. -/
def Level.turn (hosting : Hosting κ ν σ) (process : Process κ ν σ) (level : Level κ ν σ) :
    Process κ ν σ × Turn κ ν σ :=
  match level.phase with
  | .registered vm run message code =>
      (process.entered level.handle vm run message code,
        .goesOn (.native (run (process.privateState vm)
          (invocation level.handle message code)).2))
  | .native (.done native) =>
      (process.settled level.handle native, .goesOn (.settled native))
  | .native (.note event rest) => (process.journaled event.val, .goesOn (.native rest))
  | .native (.ask handle request resume) =>
      let (asked, phase) := askStep hosting process handle request resume
      (asked, .goesOn phase)
  | .serving _ _ delivery (.done (.returned answer) hosts) resume =>
      ({ process with hosts }, .goesOn (.native (resume (delivery.encode answer))))
  | .serving handle request _ (.done (.faulted fault) hosts) resume =>
      ({ process with hosts }.parked handle fault request.name.text,
        .goesOn (.native (resume request.fallback)))
  | .serving handle request delivery (.note event rest) resume =>
      (process.journaled event.val, .goesOn (.serving handle request delivery rest resume))
  | .serving _ _ _ (.execute vm host message code hosts _) _ =>
      ({ process with hosts }, .nests vm host message code)
  | .settled native =>
      (process.collected level.handle,
        .goesOn (.collected native (process.registry.parkedFault level.handle)))
  | .collected _ (some fault) => (process.closed level.handle, .ends (.faulted fault))
  | .collected native none =>
      ((process.closed level.handle).journaled (.executed native.toResult),
        .ends (.returned native.toResult))

/-- How an active execution goes on when one that it asked for has ended. -/
def Phase.resumed (ending : Ending ExecutionResult) (hosts : σ) :
    Phase κ ν σ → Option (Phase κ ν σ)
  | .serving handle request delivery (.execute _ _ _ _ _ later) resume =>
      some (.serving handle request delivery (later ending hosts) resume)
  | _ => none

namespace Moment

/-- The next moment, unless everything has ended. -/
def next (hosting : Hosting κ ν σ) (moment : Moment κ ν σ) : Option (Moment κ ν σ) :=
  match moment.control, moment.levels with
  | .starting vm host message code, levels =>
      match vm.native.execute with
      | none =>
          some ⟨moment.process.journaled (.executionUnsupported vm.name),
            .ended (.returned .internalError), levels⟩
      | some run =>
          some ⟨moment.process.withHost host, .running,
            ⟨moment.process.registry.nextHandle, host, .registered vm run message code⟩ ::
              levels⟩
  | .running, level :: outer =>
      match level.turn hosting moment.process with
      | (process, .goesOn phase) => some ⟨process, .running, { level with phase } :: outer⟩
      | (process, .nests vm host message code) =>
          some ⟨process, .starting vm host message code, level :: outer⟩
      | (process, .ends ending) => some ⟨process, .ended ending, outer⟩
  | .ended ending, level :: outer =>
      (level.phase.resumed ending moment.process.hosts).map fun phase =>
        ⟨moment.process, .running, { level with phase } :: outer⟩
  | .running, [] => none
  | .ended _, [] => none

/-- The ways in which one moment follows another. -/
inductive Step (hosting : Hosting κ ν σ) : Moment κ ν σ → Moment κ ν σ → Prop where
  | unsupported {process : Process κ ν σ} {vm : Vm ν} {host : κ} {message : Message}
      {code : Bytes} {levels : List (Level κ ν σ)} (executes : vm.native.execute = none) :
      Step hosting ⟨process, .starting vm host message code, levels⟩
        ⟨process.journaled (.executionUnsupported vm.name), .ended (.returned .internalError),
          levels⟩
  | registers {process : Process κ ν σ} {vm : Vm ν} {run : NativeExecute ν} {host : κ}
      {message : Message} {code : Bytes} {levels : List (Level κ ν σ)}
      (executes : vm.native.execute = some run) :
      Step hosting ⟨process, .starting vm host message code, levels⟩
        ⟨process.withHost host, .running,
          ⟨process.registry.nextHandle, host, .registered vm run message code⟩ :: levels⟩
  | goesOn {process after : Process κ ν σ} {level : Level κ ν σ} {outer : List (Level κ ν σ)}
      {phase : Phase κ ν σ} (turned : level.turn hosting process = (after, .goesOn phase)) :
      Step hosting ⟨process, .running, level :: outer⟩
        ⟨after, .running, { level with phase } :: outer⟩
  | nests {process after : Process κ ν σ} {level : Level κ ν σ} {outer : List (Level κ ν σ)}
      {vm : Vm ν} {host : κ} {message : Message} {code : Bytes}
      (turned : level.turn hosting process = (after, .nests vm host message code)) :
      Step hosting ⟨process, .running, level :: outer⟩
        ⟨after, .starting vm host message code, level :: outer⟩
  | ends {process after : Process κ ν σ} {level : Level κ ν σ} {outer : List (Level κ ν σ)}
      {ending : Ending ExecutionResult}
      (turned : level.turn hosting process = (after, .ends ending)) :
      Step hosting ⟨process, .running, level :: outer⟩ ⟨after, .ended ending, outer⟩
  | hears {process : Process κ ν σ} {level : Level κ ν σ} {outer : List (Level κ ν σ)}
      {ending : Ending ExecutionResult} {phase : Phase κ ν σ}
      (resumed : level.phase.resumed ending process.hosts = some phase) :
      Step hosting ⟨process, .ended ending, level :: outer⟩
        ⟨process, .running, { level with phase } :: outer⟩

theorem step_of_next {hosting : Hosting κ ν σ} {moment later : Moment κ ν σ}
    (stepped : moment.next hosting = some later) : Step hosting moment later := by
  obtain ⟨process, control, levels⟩ := moment
  cases control with
  | starting vm host message code =>
      cases executes : vm.native.execute with
      | none =>
          simp only [next, executes, Option.some.injEq] at stepped
          subst stepped
          exact .unsupported executes
      | some run =>
          simp only [next, executes, Option.some.injEq] at stepped
          subst stepped
          exact .registers executes
  | running =>
      cases levels with
      | nil => cases stepped
      | cons level outer =>
          rcases turned : level.turn hosting process with ⟨after, turn⟩
          simp only [next, turned] at stepped
          cases turn with
          | goesOn phase =>
              cases stepped
              exact .goesOn turned
          | nests vm host message code =>
              cases stepped
              exact .nests turned
          | ends ending =>
              cases stepped
              exact .ends turned
  | ended ending =>
      cases levels with
      | nil => cases stepped
      | cons level outer =>
          simp only [next, Option.map_eq_some_iff] at stepped
          obtain ⟨phase, resumed, rfl⟩ := stepped
          exact .hears resumed

/-- The moment at which a VM is to execute a message, while some executions are
active. -/
def start (process : Process κ ν σ) (vm : Vm ν) (host : κ) (message : Message) (code : Bytes)
    (levels : List (Level κ ν σ)) : Moment κ ν σ :=
  ⟨process, .starting vm host message code, levels⟩

/-- Some steps lead from one moment to another. -/
def Leads (hosting : Hosting κ ν σ) : Moment κ ν σ → Moment κ ν σ → Prop :=
  Relation.ReflTransGen fun moment later => moment.next hosting = some later

section Steps

variable {hosting : Hosting κ ν σ} {moment middle later other : Moment κ ν σ}

theorem leads_step (stepped : moment.next hosting = some middle)
    (onward : middle.Leads hosting later) : moment.Leads hosting later :=
  Relation.ReflTransGen.head stepped onward

theorem Leads.eq_of_next_eq_none (stopped : moment.next hosting = none)
    (onward : moment.Leads hosting later) : later = moment := by
  rcases Relation.ReflTransGen.cases_head onward with same | ⟨middle, stepped, _⟩
  · exact same.symm
  · rw [stopped] at stepped
    cases stepped

/-- Of two moments that a moment leads to, the one at which nothing comes next is
the later one. -/
theorem Leads.leads_of_next_eq_none (stopped : later.next hosting = none)
    (finish : moment.Leads hosting later) (onward : moment.Leads hosting other) :
    other.Leads hosting later := by
  have unique : Relator.RightUnique
      fun moment later : Moment κ ν σ => moment.next hosting = some later :=
    fun _ _ _ stepped stepped' => Option.some.inj (stepped.symm.trans stepped')
  rcases Relation.ReflTransGen.total_of_right_unique unique finish onward with beyond | before
  · rw [Leads.eq_of_next_eq_none stopped beyond]
    exact .refl
  · exact before

/-- A moment that leads to an end leads only to moments of bounded depth. -/
theorem Leads.exists_depth (stopped : later.next hosting = none)
    (finish : moment.Leads hosting later) :
    ∃ depth, ∀ other, moment.Leads hosting other → other.levels.length ≤ depth := by
  induction finish using Relation.ReflTransGen.head_induction_on with
  | refl =>
      exact ⟨later.levels.length, fun other onward =>
        Nat.le_of_eq (by rw [Leads.eq_of_next_eq_none stopped onward])⟩
  | @head moment middle stepped _ ih =>
      obtain ⟨depth, bounded⟩ := ih
      refine ⟨max moment.levels.length depth, fun other onward => ?_⟩
      rcases Relation.ReflTransGen.cases_head onward with rfl | ⟨middle', stepped', onward'⟩
      · exact Nat.le_max_left _ _
      · cases Option.some.inj (stepped.symm.trans stepped')
        exact Nat.le_trans (bounded other onward') (Nat.le_max_right _ _)

end Steps

/-- A moment leads where a computation of the bridge ends.  If the computation
comes to no end, the moment leads to one at which some number of executions are
active. -/
def Plays {α : Type} (hosting : Hosting κ ν σ) (depth : Nat) (moment : Moment κ ν σ)
    (result : Option (α × Process κ ν σ)) (finish : α → Process κ ν σ → Moment κ ν σ) : Prop :=
  match result with
  | some (value, after) => moment.Leads hosting (finish value after)
  | none => ∃ later, moment.Leads hosting later ∧ depth ≤ later.levels.length

section Plays

variable {α β : Type} {hosting : Hosting κ ν σ} {depth : Nat} {moment middle : Moment κ ν σ}
  {result : Option (α × Process κ ν σ)} {finish : α → Process κ ν σ → Moment κ ν σ}

theorem Plays.of_leads (onward : moment.Leads hosting middle)
    (plays : middle.Plays hosting depth result finish) :
    moment.Plays hosting depth result finish := by
  match result with
  | some (value, after) => exact Relation.ReflTransGen.trans onward plays
  | none =>
      obtain ⟨later, onward', deep⟩ := plays
      exact ⟨later, onward.trans onward', deep⟩

theorem Plays.of_step (stepped : moment.next hosting = some middle)
    (plays : middle.Plays hosting depth result finish) :
    moment.Plays hosting depth result finish :=
  .of_leads (.single stepped) plays

theorem Plays.bind {next : α × Process κ ν σ → Option (β × Process κ ν σ)}
    {finish' : β → Process κ ν σ → Moment κ ν σ}
    (plays : moment.Plays hosting depth result finish)
    (rest : ∀ value after, (finish value after).Plays hosting depth (next (value, after)) finish') :
    moment.Plays hosting depth (result.bind next) finish' := by
  match result with
  | some (value, after) => exact .of_leads plays (rest value after)
  | none => exact plays

end Plays

/-- Executions that fail do so because they nest too deeply, and otherwise the
steps of the machine lead to their end. -/
def PlaysNested (hosting : Hosting κ ν σ) (nested : Executor κ ν σ) (limit : Nat) : Prop :=
  ∀ (vm : Vm ν) (host : κ) (message : Message) (code : Bytes) (before : Process κ ν σ)
    (levels : List (Level κ ν σ)),
    (start before vm host message code levels).Plays hosting (levels.length + limit)
      (nested vm host message code before) fun ending after => ⟨after, .ended ending, levels⟩

section Courses

variable {hosting : Hosting κ ν σ} {nested : Executor κ ν σ} {limit : Nat}

theorem plays_serving (nestedPlays : PlaysNested hosting nested limit) (own : Nat) (actor : κ)
    (outer : List (Level κ ν σ)) (handle : Nat) (request : Request)
    (delivery : request.Delivery) (resume : request.Answer → NativeRun NativeResult)
    (run : HostRun κ ν σ delivery.method.Answer) (before : Process κ ν σ) :
    Plays hosting (outer.length + 1 + limit)
      ⟨before, .running,
        ⟨own, actor, .serving handle request delivery run resume⟩ :: outer⟩
      ((runHost nested run >>= answerCallback handle request delivery) before)
      fun answer after =>
        ⟨after, .running, ⟨own, actor, .native (resume answer)⟩ :: outer⟩ := by
  induction run generalizing before with
  | done ending hosts =>
      cases ending with
      | returned value => exact .of_step rfl .refl
      | faulted fault => exact .of_step rfl .refl
  | note event rest ih => exact .of_step rfl (ih (before.journaled event.val))
  | execute vm host message code hosts later ih =>
      have parts : (runHost nested (.execute vm host message code hosts later) >>=
          answerCallback handle request delivery) before =
          (nested vm host message code { before with hosts }).bind fun result =>
            (runHost nested (later result.1 result.2.hosts) >>=
              answerCallback handle request delivery) result.2 := by
        simp only [runHost, bind_assoc]
        rfl
      rw [parts]
      refine .of_step rfl ((nestedPlays vm host message code _ (_ :: outer)).bind ?_)
      intro ending middle
      exact .of_step rfl (ih ending middle.hosts middle)

theorem next_of_ask {own : Nat} {actor : κ} {outer : List (Level κ ν σ)} {before : Process κ ν σ}
    {handle : Nat} {request : Request} {resume : request.Answer → NativeRun NativeResult}
    {asked : Process κ ν σ} {phase : Phase κ ν σ}
    (step_eq : askStep hosting before handle request resume = (asked, phase)) :
    next hosting ⟨before, .running,
        ⟨own, actor, .native (.ask handle request resume)⟩ :: outer⟩ =
      some ⟨asked, .running, ⟨own, actor, phase⟩ :: outer⟩ := by
  simp only [next, Level.turn, step_eq]

theorem plays_deliver (nestedPlays : PlaysNested hosting nested limit) (own : Nat) (actor : κ)
    (outer : List (Level κ ν σ)) (handle : Nat) (request : Request)
    (resume : request.Answer → NativeRun NativeResult) (before : Process κ ν σ) :
    Plays hosting (outer.length + 1 + limit)
      ⟨before, .running, ⟨own, actor, .native (.ask handle request resume)⟩ :: outer⟩
      (deliver hosting nested handle request before) fun answer after =>
        ⟨after, .running, ⟨own, actor, .native (resume answer)⟩ :: outer⟩ := by
  cases resolved : before.registry.resolve handle with
  | none =>
      rw [deliver_unresolved resolved]
      exact .of_step (next_of_ask (by simp only [askStep, resolved])) .refl
  | some host =>
      cases decoded : request.decode with
      | error error =>
          rw [deliver_undecoded resolved decoded]
          exact .of_step (next_of_ask (by simp only [askStep, resolved, decoded])) .refl
      | ok delivery =>
          have step_eq : askStep hosting before handle request resume =
              ((before.journaled (.requested request.name handle)).announced delivery.method,
                .serving handle request delivery (hosting host delivery.method before.hosts)
                  resume) := by
            simp only [askStep, resolved, decoded]
          rw [deliver_served resolved decoded, Bridge.bind_apply, HostAction.carryOut,
            Bridge.bind_apply, Bridge.get_apply, Option.bind_some, Process.announced_hosts,
            Process.journaled_hosts]
          exact .of_step (next_of_ask step_eq)
            (plays_serving nestedPlays own actor outer handle request delivery resume _ _)

theorem plays_native (nestedPlays : PlaysNested hosting nested limit) (own : Nat) (actor : κ)
    (outer : List (Level κ ν σ)) (course : NativeRun NativeResult) (before : Process κ ν σ) :
    Plays hosting (outer.length + 1 + limit)
      ⟨before, .running, ⟨own, actor, .native course⟩ :: outer⟩
      (runNative hosting nested course before) fun native after =>
        ⟨after, .running, ⟨own, actor, .native (.done native)⟩ :: outer⟩ := by
  induction course generalizing before with
  | done native => exact .refl
  | note event rest ih => exact .of_step rfl (ih (before.journaled event.val))
  | ask handle request resume ih =>
      exact (plays_deliver nestedPlays own actor outer handle request resume before).bind ih

theorem leads_begun {vm : Vm ν} {run : NativeExecute ν} (executes : vm.native.execute = some run)
    (host : κ) (message : Message) (code : Bytes) (before : Process κ ν σ)
    (levels : List (Level κ ν σ)) :
    (start before vm host message code levels).Leads hosting
      ⟨before.begun vm run host message code, .running,
        ⟨before.registry.nextHandle, host, .native (before.course vm run message code)⟩ ::
          levels⟩ := by
  have registered : next hosting (start before vm host message code levels) =
      some ⟨before.withHost host, .running,
        ⟨before.registry.nextHandle, host, .registered vm run message code⟩ :: levels⟩ := by
    simp only [next, start, executes]
  exact leads_step registered (.single rfl)

theorem leads_concluded (handle : Nat) (host : κ) (native : NativeResult)
    (middle : Process κ ν σ) (levels : List (Level κ ν σ)) :
    Leads hosting ⟨middle, .running, ⟨handle, host, .native (.done native)⟩ :: levels⟩
      ⟨(middle.concluded handle native).2, .ended (middle.concluded handle native).1,
        levels⟩ := by
  let settled : Moment κ ν σ :=
    ⟨middle.settled handle native, .running, ⟨handle, host, .settled native⟩ :: levels⟩
  have collected : settled.Leads hosting
      ⟨settled.process.collected handle, .running,
        ⟨handle, host, .collected native (middle.registry.parkedFault handle)⟩ :: levels⟩ :=
    .single rfl
  refine (leads_step rfl collected).tail ?_
  rw [Process.concluded]
  cases middle.registry.parkedFault handle <;> rfl

theorem plays_execute (hosting : Hosting κ ν σ) (limit : Nat) :
    PlaysNested hosting (execute hosting limit) limit := by
  induction limit with
  | zero => exact fun vm host message code before levels => ⟨_, .refl, Nat.le_refl _⟩
  | succ limit ih =>
      intro vm host message code before levels
      cases executes : vm.native.execute with
      | none =>
          rw [execute, executeWith_unsupported executes]
          exact .of_step (by simp only [next, start, executes]) .refl
      | some run =>
          have depth_eq : levels.length + (limit + 1) = levels.length + 1 + limit := by omega
          rw [execute, executeWith_apply hosting _ executes, Option.map_eq_bind, depth_eq]
          have middle := plays_native ih before.registry.nextHandle host levels
            (before.course vm run message code) (before.begun vm run host message code)
          exact .of_leads (leads_begun executes host message code before levels)
            (middle.bind fun native after => leads_concluded _ host native after levels)

end Courses

/-- An execution ends as the steps of the machine do. -/
theorem execute_iff_leads (hosting : Hosting κ ν σ) (vm : Vm ν) (host : κ) (message : Message)
    (code : Bytes) (before : Process κ ν σ) (ending : Ending ExecutionResult)
    (after : Process κ ν σ) :
    (∃ limit, execute hosting limit vm host message code before = some (ending, after)) ↔
      (start before vm host message code []).Leads hosting ⟨after, .ended ending, []⟩ := by
  constructor
  · rintro ⟨limit, finished⟩
    have plays := plays_execute hosting limit vm host message code before []
    rw [finished] at plays
    exact plays
  · intro leads
    -- nesting cannot use up a limit above the depth of every moment on the way
    obtain ⟨depth, bounded⟩ := leads.exists_depth rfl
    have plays := plays_execute hosting (depth + 1) vm host message code before []
    cases finished : execute hosting (depth + 1) vm host message code before with
    | none =>
        rw [finished] at plays
        obtain ⟨later, onward, deep⟩ := plays
        have shallow := bounded later onward
        rw [List.length_nil] at deep
        omega
    | some result =>
        rw [finished] at plays
        obtain ⟨ending', after'⟩ := result
        cases Leads.eq_of_next_eq_none rfl (leads.leads_of_next_eq_none rfl plays)
        exact ⟨_, finished⟩

end Moment

end VmBridge
