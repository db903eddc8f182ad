import VmBridge.Proofs.MockContextSteps

/-!
# What a mock context does when it serves a method

A method either leaves the context as it is, or makes the changes that are its
own, or is a nested message.  `FrameEnds` lists the ends of the frame of a
nested message, `CallEnds` those of the message, and `Serves` those of all
methods.  What holds of every method of a mock context follows from these
cases, without a look at how the methods are written.
-/

namespace VmBridge

open HostAction

variable {ν : Type}

namespace MockAction

section Readings

variable {α β : Type}

/-- A piece of work only reads the context. -/
def Reads (action : MockAction ν α) : Prop :=
  ∀ context, ∃ ending, action context = .done ending context

theorem reads_pure (value : α) : Reads (pure value : MockAction ν α) :=
  fun _ => ⟨.returned value, rfl⟩

theorem reads_fail (fault : Fault) : Reads (HostAction.fail fault : MockAction ν α) :=
  fun _ => ⟨.faulted fault, rfl⟩

theorem reads_bind {action : MockAction ν α} {next : α → MockAction ν β}
    (first : Reads action) (second : ∀ value, Reads (next value)) :
    Reads (action >>= next) := by
  intro context
  obtain ⟨ending, acted⟩ := first context
  change ∃ ending, (action context).bind next = .done ending context
  rw [acted]
  cases ending with
  | returned value => exact second value context
  | faulted fault => exact ⟨.faulted fault, rfl⟩

theorem reads_getState : Reads (HostAction.getState : MockAction ν (MockContext ν)) :=
  fun context => ⟨.returned context, rfl⟩

theorem reads_check (method : MethodName) : Reads (check method : MockAction ν Unit) := by
  refine reads_bind reads_getState fun context => ?_
  split
  · exact reads_fail _
  · exact reads_pure ()

theorem reads_getWorld : Reads (getWorld : MockAction ν World) :=
  reads_bind reads_getState fun _ => reads_pure _

theorem reads_world (look : World → α) :
    Reads (do let world ← getWorld; pure (look world) : MockAction ν α) :=
  reads_bind reads_getWorld fun _ => reads_pure _

theorem reads_getCode (address : Address) : Reads (getCode address : MockAction ν Bytes) :=
  reads_bind (reads_check _) fun _ => reads_world _

theorem reads_getBlockHash (number : Int64) :
    Reads (getBlockHash number : MockAction ν Word) := by
  refine reads_bind (reads_check _) fun _ => reads_bind reads_getState fun context => ?_
  dsimp only
  split
  · exact reads_pure _
  · split
    · exact reads_fail _
    · split
      · exact reads_pure _
      · exact reads_pure _

/-- A method only reads. -/
def onlyReads : HostMethod → Bool
  | .setStorage _ _ _ | .selfdestruct _ _ | .call _ | .emitLog _ | .accessAccount _
  | .accessStorage _ _ => false
  | _ => true

theorem reads_hosting {method : HostMethod} (reading : onlyReads method = true) :
    Reads (MockContext.hosting () method : MockAction ν method.Answer) := by
  cases method with
  | accountExists address => exact reads_bind (reads_check _) fun _ => reads_world _
  | getStorage address key => exact reads_bind (reads_check _) fun _ => reads_world _
  | getBalance address => exact reads_bind (reads_check _) fun _ => reads_world _
  | getCodeSize address => exact reads_bind (reads_check _) fun _ => reads_world _
  | getCodeHash address =>
      refine reads_bind (reads_check _) fun _ => reads_bind reads_getWorld fun world => ?_
      split
      · exact reads_pure _
      · exact reads_pure _
  | getCode address => exact reads_getCode address
  | copyCode address offset size buffer =>
      exact reads_bind (reads_getCode address) fun _ => reads_pure _
  | getTxContext =>
      exact reads_bind (reads_check _) fun _ => reads_bind reads_getState fun _ => reads_pure _
  | getBlockHash number => exact reads_getBlockHash number
  | _ => cases reading

end Readings

section Services

variable (nested : Executor Unit ν (MockContext ν)) (before : Process Unit ν (MockContext ν))

theorem carryOut_reads {α : Type} {action : MockAction ν α} (reads : Reads action) :
    ∃ ending, carryOut nested action before = some (ending, before) := by
  obtain ⟨ending, acted⟩ := reads before.hosts
  refine ⟨ending, ?_⟩
  change runHost nested (action before.hosts) before = _
  rw [acted]
  rfl

/-- The state in which the creation of a message has been counted. -/
def countedFrom (message : Message) : Process Unit ν (MockContext ν) :=
  (before.journaled (.frameOpened message)).changedAll message.counting

/-- The state in which the code of a nested message starts. -/
def startedFrom (message : Message) : Process Unit ν (MockContext ν) :=
  (before.journaled (.frameOpened message)).changedAll (message.opening before.hosts.world)

def executeStarted (vm : Vm ν) (message : Message) :
    Bridge Unit ν (MockContext ν) (Ending ExecutionResult) :=
  nested vm () (message.started before.hosts.world)
    (message.startedCode (before.hosts.world.applyAll (message.opening before.hosts.world)))

section Frames

variable {before} {message : Message} {after : Process Unit ν (MockContext ν)}
  {inner : List Event}

theorem countedFrom_rolledBack :
    (countedFrom before message).hosts.world.rolledBack before.hosts.world =
      before.hosts.world := by
  refine World.rolledBack_eq ?_
  rw [countedFrom, Process.changedAll_world]
  exact World.newestLogs_applyAll _ _

theorem startedFrom_world :
    (startedFrom before message).hosts.world =
      before.hosts.world.applyAll (message.opening before.hosts.world) :=
  Process.changedAll_world _ _

theorem startedFrom_registry : (startedFrom before message).registry = before.registry :=
  Process.changedAll_registry _ _

theorem sameSetting_startedFrom :
    before.hosts.SameSetting (startedFrom before message).hosts :=
  Process.sameSetting_changedAll (before.journaled (.frameOpened message)) _

theorem since_startedFrom :
    before.Since (startedFrom before message)
      (.frameOpened message :: changeEvents (message.opening before.hosts.world)) :=
  (Process.since_journaled before _).append (Process.since_changedAll _ _)

theorem since_unpaid :
    before.Since
      (((countedFrom before message).rolledBack before.hosts.world).journaled
        (.frameClosed false))
      (.frameOpened message :: changeEvents message.counting ++ [.frameClosed false]) :=
  ((Process.since_journaled before _).append (Process.since_changedAll _ _)).append
    (Process.since_journaled ((countedFrom before message).rolledBack _) _)

theorem since_undone (since : (startedFrom before message).Since after inner) :
    before.Since ((after.rolledBack before.hosts.world).journaled (.frameClosed false))
      (.frameOpened message :: changeEvents (message.opening before.hosts.world) ++ inner ++
        [.frameClosed false]) :=
  (since_startedFrom.append since).append (Process.since_journaled (after.rolledBack _) _)

theorem since_kept (since : (startedFrom before message).Since after inner) (output : Bytes) :
    before.Since
      ((after.changedAll (message.closing before.hosts.world output)).journaled
        (.frameClosed true))
      (.frameOpened message :: changeEvents (message.opening before.hosts.world) ++ inner ++
        changeEvents (message.closing before.hosts.world output) ++ [.frameClosed true]) :=
  ((since_startedFrom.append since).append (Process.since_changedAll after _)).append
    (Process.since_journaled (after.changedAll _) _)

end Frames

/-- How the frame of a nested message can end. -/
inductive FrameEnds (vm : Vm ν) (message : Message) :
    Ending ExecutionResult → Process Unit ν (MockContext ν) → Prop where
  /-- The creation of an account cannot be counted any more. -/
  | overflown (overflows : message.Overflows before.hosts.world) :
      FrameEnds vm message (.faulted (.text "attempt to add with overflow"))
        (before.journaled (.frameOpened message))
  | unpaid (unpaid : message.Unpaid before.hosts.world) :
      FrameEnds vm message (.returned (.new .insufficientBalance message.gas []))
        (((countedFrom before message).rolledBack before.hosts.world).journaled
          (.frameClosed false))
  /-- A host failed during the execution. -/
  | abandoned {fault : Fault} {after : Process Unit ν (MockContext ν)}
      (paid : ¬ message.Unpaid before.hosts.world)
      (executed : executeStarted nested before vm message (startedFrom before message) =
        some (.faulted fault, after)) :
      FrameEnds vm message (.faulted fault) after
  | undone {result : ExecutionResult} {after : Process Unit ν (MockContext ν)}
      (paid : ¬ message.Unpaid before.hosts.world)
      (executed : executeStarted nested before vm message (startedFrom before message) =
        some (.returned result, after))
      (unsuccessful : result.isSuccess = false) :
      FrameEnds vm message (.returned result)
        ((after.rolledBack before.hosts.world).journaled (.frameClosed false))
  | kept {result : ExecutionResult} {after : Process Unit ν (MockContext ν)}
      (paid : ¬ message.Unpaid before.hosts.world)
      (executed : executeStarted nested before vm message (startedFrom before message) =
        some (.returned result, after))
      (succeeded : result.isSuccess = true) :
      FrameEnds vm message (.returned (message.answered before.hosts.world result))
        ((after.changedAll (message.closing before.hosts.world result.output)).journaled
          (.frameClosed true))

theorem runFrame_ends (vm : Vm ν) (message : Message) :
    (carryOut nested (runFrame vm message)).Ensures before
      (FrameEnds nested before vm message) := by
  rw [Bridge.ensures_congr (carryOut_runFrame nested vm), Bridge.ensures_bind]
  let opened := before.journaled (.frameOpened message)
  by_cases overflows : message.Overflows opened.hosts.world
  · rw [Bridge.ensures_of_apply (carryOut_dispatch_overflown nested vm overflows)]
    simp only [closeFrame, Bridge.ensures_pure]
    exact .overflown overflows
  by_cases unpaid : message.Unpaid opened.hosts.world
  · have unsuccessful :
        ¬ (ExecutionResult.new .insufficientBalance message.gas []).isSuccess = true :=
      Bool.false_ne_true
    rw [Bridge.ensures_of_apply (carryOut_dispatch_unpaid nested vm overflows unpaid),
      Bridge.ensures_of_apply (closeFrame_unsuccessful unsuccessful _ _)]
    exact .unpaid unpaid
  rw [Bridge.ensures_congr (carryOut_dispatch_started nested vm overflows unpaid),
    Bridge.ensures_bind]
  intro ending after executed
  cases ending with
  | faulted fault =>
      simp only [finishDispatch, closeFrame, Bridge.ensures_pure]
      exact .abandoned unpaid executed
  | returned result =>
      by_cases succeeded : result.isSuccess = true
      · have answered := (message.isSuccess_answered opened.hosts.world result).trans succeeded
        rw [Bridge.ensures_of_apply (finishDispatch_succeeded succeeded _ after),
          Bridge.ensures_of_apply (closeFrame_succeeded answered _ _)]
        exact .kept unpaid executed succeeded
      · rw [Bridge.ensures_of_apply (finishDispatch_unsuccessful succeeded _ after),
          Bridge.ensures_of_apply (closeFrame_unsuccessful succeeded _ _)]
        exact .undone unpaid executed (Bool.not_eq_true _ |>.mp succeeded)

/-- How the service of a nested message can end. -/
inductive CallEnds (message : Message) :
    Ending ExecutionResult → Process Unit ν (MockContext ν) → Prop where
  | failing (fault : Fault) : CallEnds message (.faulted fault) before
  /-- There is no VM, or the message is too deep down. -/
  | unserved {result : ExecutionResult} (unsuccessful : result.isSuccess = false) :
      CallEnds message (.returned result) (before.withCall message)
  | framed {vm : Vm ν} {ending : Ending ExecutionResult}
      {after : Process Unit ν (MockContext ν)} (found : before.hosts.vm = some vm)
      (ends : FrameEnds nested (before.withCall message) vm message ending after) :
      CallEnds message ending after

theorem call_ends (message : Message) :
    (carryOut nested (call message)).Ensures before (CallEnds nested before message) := by
  intro ending after finished
  rw [carryOut_call] at finished
  split at finished
  · cases finished
    exact .failing _
  split at finished
  · cases finished
    exact .unserved rfl
  · rename_i vm found
    split at finished
    · cases finished
      exact .unserved rfl
    · exact .framed found (runFrame_ends nested _ vm message ending after finished)

end Services

end MockAction

/-- The changes that a host method makes on its own. -/
def HostMethod.changes (world : World) : HostMethod → List Change
  | .setStorage address key value => [.writeSlot address key value]
  | .selfdestruct address beneficiary => MockAction.destruction world address beneficiary
  | .emitLog log => [.appendLog log]
  | .accessAccount address => [.warmAccount address]
  | .accessStorage address key => [.warmSlot address key]
  | _ => []

namespace MockAction

section Services

variable (nested : Executor Unit ν (MockContext ν)) (before : Process Unit ν (MockContext ν))

/-- How the service of a method can end. -/
inductive Serves : (method : HostMethod) → Ending method.Answer →
    Process Unit ν (MockContext ν) → Prop where
  /-- The method only read, or it failed before it did anything. -/
  | still {method : HostMethod} (ending : Ending method.Answer) : Serves method ending before
  | changed {method : HostMethod} (answer : method.Answer) :
      Serves method (.returned answer) (before.changedAll (method.changes before.hosts.world))
  | called {message : Message} {ending : Ending ExecutionResult}
      {after : Process Unit ν (MockContext ν)} (ends : CallEnds nested before message ending after) :
      Serves (.call message) ending after

theorem serves_checked {method : HostMethod} {name : MethodName}
    {action : MockAction ν method.Answer} {answer : method.Answer}
    (finished : carryOut nested action before =
      some (.returned answer, before.changedAll (method.changes before.hosts.world))) :
    (carryOut nested (check name >>= fun _ => action)).Ensures before
      (Serves nested before method) := by
  intro ending after checked
  rw [carryOut_checked] at checked
  split at checked
  · cases checked
    exact .still _
  · rw [finished] at checked
    cases checked
    exact .changed answer

theorem hosting_serves (method : HostMethod) :
    (carryOut nested (MockContext.hosting () method)).Ensures before
      (Serves nested before method) := by
  have reading (onlyReading : onlyReads method = true) :
      (carryOut nested (MockContext.hosting () method)).Ensures before
        (Serves nested before method) := by
    obtain ⟨ending, finished⟩ := carryOut_reads nested before (reads_hosting onlyReading)
    exact (Bridge.ensures_of_apply finished _).mpr (.still ending)
  cases method with
  | setStorage address key value => exact serves_checked nested before rfl
  | emitLog log => exact serves_checked nested before rfl
  | accessAccount address => exact serves_checked nested before rfl
  | accessStorage address key => exact serves_checked nested before rfl
  | selfdestruct address beneficiary =>
      intro ending after finished
      change carryOut nested (selfdestruct address beneficiary) before = _ at finished
      rw [carryOut_selfdestruct] at finished
      split at finished
      · cases finished
        exact .still _
      · cases finished
        exact .changed _
  | call message =>
      exact (call_ends nested before message).imp fun _ _ ends => .called ends
  | _ => exact reading rfl

end Services

end MockAction

end VmBridge
