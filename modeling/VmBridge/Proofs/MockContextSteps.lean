import VmBridge.Proofs.BridgeEnsures
import VmBridge.Proofs.WorldHistory

/-!
# The methods of a mock context, step by step

Each lemma says what a method of a mock context does to the process in which
it runs.  Only a nested message leads to a further execution:
`carryOut_dispatch_started` reduces its frame to that execution, and the two
lemmas before it treat the frames that never come so far.
-/

namespace VmBridge

open HostAction

variable {ν : Type}

namespace Process

/-- The state after one change of the world of the mock context. -/
def changed (process : Process Unit ν (MockContext ν)) (change : Change) :
    Process Unit ν (MockContext ν) :=
  { process.journaled (.worldChanged change) with
    hosts := { process.hosts with world := process.hosts.world.apply change } }

def changedAll (process : Process Unit ν (MockContext ν)) (changes : List Change) :
    Process Unit ν (MockContext ν) :=
  changes.foldl changed process

/-- The state after the world has gone back to a snapshot. -/
def rolledBack (process : Process Unit ν (MockContext ν)) (snapshot : World) :
    Process Unit ν (MockContext ν) :=
  { process with
    hosts := { process.hosts with world := process.hosts.world.rolledBack snapshot } }

/-- The state after a nested message has been remembered. -/
def withCall (process : Process Unit ν (MockContext ν)) (message : Message) :
    Process Unit ν (MockContext ν) :=
  { process with
    hosts := { process.hosts with
      newestCalls :=
        ⟨message.kind, message.depth, message.recipient, message.codeAddress⟩ ::
          process.hosts.newestCalls } }

theorem changedAll_append (process : Process Unit ν (MockContext ν))
    (changes more : List Change) :
    process.changedAll (changes ++ more) = (process.changedAll changes).changedAll more :=
  List.foldl_append

@[simp] theorem changedAll_world (process : Process Unit ν (MockContext ν))
    (changes : List Change) :
    (process.changedAll changes).hosts.world = process.hosts.world.applyAll changes := by
  induction changes generalizing process with
  | nil => rfl
  | cons change changes ih => exact ih (process.changed change)

theorem since_changedAll (process : Process Unit ν (MockContext ν)) (changes : List Change) :
    process.Since (process.changedAll changes) (changeEvents changes) := by
  induction changes generalizing process with
  | nil => exact since_nil rfl
  | cons change changes ih =>
      exact (since_journaled process (.worldChanged change)).append (ih (process.changed change))

theorem sameSetting_changedAll (process : Process Unit ν (MockContext ν))
    (changes : List Change) :
    process.hosts.SameSetting (process.changedAll changes).hosts := by
  induction changes generalizing process with
  | nil => exact .refl process.hosts
  | cons change changes ih =>
      have once : process.hosts.SameSetting (process.changed change).hosts := ⟨rfl, rfl, rfl⟩
      exact once.trans (ih (process.changed change))

@[simp] theorem changedAll_registry (process : Process Unit ν (MockContext ν))
    (changes : List Change) : (process.changedAll changes).registry = process.registry := by
  induction changes generalizing process with
  | nil => rfl
  | cons change changes ih => exact ih (process.changed change)

end Process

namespace MockAction

/-- A method that the context was told to fail in fails before it does
anything. -/
theorem checked_apply {α : Type} (method : MethodName) (rest : MockAction ν α)
    (context : MockContext ν) :
    (check method >>= fun _ => rest) context =
      if context.faultIn = some method then
        .done (.faulted (.text s!"{method.text} failed")) context
      else rest context := by
  change HostRun.bind ((if context.faultIn = some method then _ else _ : MockAction ν Unit)
    context) _ = _
  split
  · rfl
  · rfl

variable (nested : Executor Unit ν (MockContext ν)) (before : Process Unit ν (MockContext ν))

theorem carryOut_checked {α : Type} (method : MethodName) (rest : MockAction ν α) :
    carryOut nested (check method >>= fun _ => rest) before =
      if before.hosts.faultIn = some method then
        some (.faulted (.text s!"{method.text} failed"), before)
      else carryOut nested rest before := by
  change runHost nested ((check method >>= fun _ => rest) before.hosts) before = _
  rw [checked_apply]
  split
  · rfl
  · rfl

theorem carryOut_transfer (sender receiver : Address) (value : Word) :
    carryOut nested (transfer sender receiver value) before =
      if value.toNat = 0 then some (.returned true, before)
      else if before.hosts.world.balance sender < value.toNat then
        some (.returned false, before)
      else some (.returned true, before.changed (.transfer sender receiver value.toNat)) := by
  change runHost nested ((if value.toNat = 0 then _ else _ :
    MockAction ν Bool) before.hosts) before = _
  split
  · rfl
  · split <;> rfl

/-- What destructing an account changes: the balance moves, unless there is none
or it would come back, and the account is marked. -/
def destruction (world : World) (address beneficiary : Address) : List Change :=
  if address = beneficiary ∨ world.balance address = 0 then [.markDestructed address]
  else
    [.transfer address beneficiary (world.balance address), .markDestructed address]

theorem carryOut_selfdestruct (address beneficiary : Address) :
    carryOut nested (selfdestruct address beneficiary) before =
      if before.hosts.faultIn = some .selfdestruct then
        some (.faulted (.text "selfdestruct failed"), before)
      else
        some (.returned (decide (address ∉ before.hosts.world.destructed)),
          before.changedAll (destruction before.hosts.world address beneficiary)) := by
  rw [selfdestruct, carryOut_checked]
  split
  · rfl
  · change carryOut nested (if address = beneficiary then _ else _) before = _
    rw [destruction]
    by_cases same : address = beneficiary
    · rw [if_pos same, if_pos (Or.inl same)]
      rfl
    · rw [if_neg same, carryOut_bind, Bridge.bind_apply, carryOut_transfer]
      change Option.bind (if before.hosts.world.balance address = 0 then _ else
        if before.hosts.world.balance address < before.hosts.world.balance address then _
        else _) _ = _
      by_cases broke : before.hosts.world.balance address = 0
      · rw [if_pos broke, if_pos (Or.inr broke)]
        rfl
      · rw [if_neg broke, if_neg (Nat.lt_irrefl _),
          if_neg (fun either => either.elim same broke)]
        rfl

/-- Serving a nested message, up to the point where its frame is opened. -/
theorem carryOut_call (message : Message) :
    carryOut nested (call message) before =
      if before.hosts.faultIn = some .call then
        some (.faulted (.text "call failed"), before)
      else
        match before.hosts.vm with
        | none => some (.returned .failure, before.withCall message)
        | some vm =>
            if MockContext.maxDepth < message.depth then
              some (.returned (.new .callDepthExceeded message.gas []), before.withCall message)
            else carryOut nested (runFrame vm message) (before.withCall message) := by
  rw [call, carryOut_checked]
  split
  · rfl
  · change runHost nested ((match before.hosts.vm with | none => _ | some vm => _ :
      MockAction ν ExecutionResult) (before.withCall message).hosts) before = _
    cases before.hosts.vm with
    | none => rfl
    | some vm =>
        change runHost nested ((if _ then _ else _ : MockAction ν ExecutionResult)
          (before.withCall message).hosts) before = _
        dsimp only
        split
        · rfl
        · exact (runHost_replaced nested _ before _).symm

section Creation

variable {before} {message : Message}

theorem carryOut_newAddress_overflown (overflows : message.Overflows before.hosts.world) :
    carryOut nested (newAddress message) before =
      some (.faulted (.text "attempt to add with overflow"), before) := by
  obtain ⟨kind_eq, full⟩ := overflows
  rw [newAddress, kind_eq]
  change runHost nested ((if (before.hosts.world.account message.sender).nonce.toNat + 1 = UInt64.size
    then _ else _ : MockAction ν Address) before.hosts) before = _
  rw [if_pos full]
  rfl

theorem carryOut_newAddress (creates : message.kind.isCreate = true)
    (counts : ¬ message.Overflows before.hosts.world) :
    carryOut nested (newAddress message) before =
      some (.returned (message.target before.hosts.world),
        before.changedAll message.counting) := by
  cases kind_eq : message.kind with
  | create =>
      have room : ¬ (before.hosts.world.account message.sender).nonce.toNat + 1 = UInt64.size :=
        fun full => counts ⟨kind_eq, full⟩
      rw [newAddress, kind_eq, Message.target, kind_eq, Message.counting, kind_eq]
      change runHost nested ((if (before.hosts.world.account message.sender).nonce.toNat + 1 =
        UInt64.size then _ else _ : MockAction ν Address) before.hosts) before = _
      rw [if_neg room]
      rfl
  | create2 =>
      rw [newAddress, kind_eq, Message.target, kind_eq, Message.counting, kind_eq]
      rfl
  | call => simp [kind_eq, CallKind.isCreate] at creates
  | callCode => simp [kind_eq, CallKind.isCreate] at creates
  | delegateCall => simp [kind_eq, CallKind.isCreate] at creates

end Creation

section Frames

variable {before} {message : Message}

/-- How the service of a nested message goes on when its code is done. -/
def finishDispatch (message : Message) (world : World) :
    Ending ExecutionResult → Bridge Unit ν (MockContext ν) (Ending ExecutionResult)
  | .faulted fault => pure (.faulted fault)
  | .returned result => fun process =>
      if result.isSuccess then
        some (.returned (message.answered world result),
          process.changedAll (message.closing world result.output))
      else some (.returned result, process)

theorem finishDispatch_succeeded {result : ExecutionResult} (succeeded : result.isSuccess = true)
    (world : World) (process : Process Unit ν (MockContext ν)) :
    finishDispatch message world (.returned result) process =
      some (.returned (message.answered world result),
        process.changedAll (message.closing world result.output)) :=
  if_pos succeeded

theorem finishDispatch_unsuccessful {result : ExecutionResult}
    (unsuccessful : ¬ result.isSuccess = true) (world : World)
    (process : Process Unit ν (MockContext ν)) :
    finishDispatch message world (.returned result) process =
      some (.returned result, process) :=
  if_neg unsuccessful

theorem carryOut_transfer_paid {world : World} (moves : message.movesValue = true)
    (paid : ¬ message.Unpaid world)
    (same : before.hosts.world.balance message.sender = world.balance message.sender) :
    carryOut nested (transfer message.sender (message.target world) message.value) before =
      some (.returned true, before.changedAll (message.payment world)) := by
  have enough : ¬ world.balance message.sender < message.value.toNat := fun short =>
    paid ⟨moves, short⟩
  rw [carryOut_transfer, same, if_neg enough, Message.payment]
  by_cases nothing : message.value.toNat = 0
  · rw [if_pos nothing, if_neg (fun both => both.2 nothing)]
    rfl
  · rw [if_neg nothing, if_pos ⟨moves, nothing⟩]
    rfl

theorem carryOut_transfer_unpaid {world : World} {receiver : Address}
    (unpaid : message.Unpaid world)
    (same : before.hosts.world.balance message.sender = world.balance message.sender) :
    carryOut nested (transfer message.sender receiver message.value) before =
      some (.returned false, before) := by
  have short := unpaid.2
  rw [carryOut_transfer, same, if_pos short, if_neg (by omega)]

theorem carryOut_dispatch_overflown (vm : Vm ν)
    (overflows : message.Overflows before.hosts.world) :
    carryOut nested (dispatch vm message) before =
      some (.faulted (.text "attempt to add with overflow"), before) := by
  have creates : message.kind.isCreate = true := by rw [overflows.1]; rfl
  rw [dispatch, if_pos creates, dispatchCreation, carryOut_bind, Bridge.bind_apply,
    carryOut_newAddress_overflown nested overflows]
  rfl

theorem carryOut_dispatch_unpaid (vm : Vm ν)
    (counts : ¬ message.Overflows before.hosts.world)
    (unpaid : message.Unpaid before.hosts.world) :
    carryOut nested (dispatch vm message) before =
      some (.returned (.new .insufficientBalance message.gas []),
        before.changedAll message.counting) := by
  by_cases creates : message.kind.isCreate = true
  · have same : (before.changedAll message.counting).hosts.world.balance message.sender =
        before.hosts.world.balance message.sender := by
      rw [Process.changedAll_world, message.balance_counting]
    rw [dispatch, if_pos creates, dispatchCreation, carryOut_bind, Bridge.bind_apply,
      carryOut_newAddress nested creates counts]
    change carryOut nested _ (before.changedAll message.counting) = _
    rw [carryOut_bind, Bridge.bind_apply, carryOut_transfer_unpaid nested unpaid same]
    rfl
  · have plain : message.kind = .call := by
      simpa [Message.movesValue, creates] using unpaid.1
    rw [dispatch, if_neg creates, dispatchCall, if_pos plain, carryOut_bind, Bridge.bind_apply,
      carryOut_transfer_unpaid nested unpaid rfl, Message.counting, plain]
    rfl

theorem finishDispatch_of_not_creates (world : World)
    (creates : ¬ message.kind.isCreate = true) :
    (finishDispatch message world : _ → Bridge Unit ν (MockContext ν) _) = pure := by
  funext ending process
  cases ending with
  | faulted fault => rfl
  | returned result =>
      simp only [finishDispatch, Message.answered, Message.closing, if_neg creates]
      split <;> rfl

/-- After the code of a creation has succeeded, its output becomes the code of
the new account. -/
theorem finishDispatch_of_creates (world : World) (creates : message.kind.isCreate = true) :
    (afterStep nested fun result =>
      if result.isSuccess = true then do
        change (.deployCode (message.target world) result.output)
        pure { result with createAddress := some (message.target world) }
      else pure result) = finishDispatch (ν := ν) message world := by
  funext ending process
  cases ending with
  | faulted fault => rfl
  | returned result =>
      simp only [afterStep, finishDispatch, Message.answered, Message.closing, if_pos creates]
      by_cases succeeded : result.isSuccess = true
      · rw [if_pos succeeded, if_pos succeeded]
        rfl
      · rw [if_neg succeeded, if_neg succeeded]
        rfl

theorem carryOut_executeCode (vm : Vm ν) (process : Process Unit ν (MockContext ν)) :
    carryOut nested (do
        let world ← getWorld
        HostAction.execute vm () message (world.code message.codeAddress)) process =
      nested vm () message (process.hosts.world.code message.codeAddress) process := by
  change carryOut nested (HostAction.execute vm () message _) process = _
  rw [carryOut_execute]

/-- The frame of a message that can be counted and paid is an execution. -/
theorem carryOut_dispatch_started (vm : Vm ν)
    (counts : ¬ message.Overflows before.hosts.world)
    (paid : ¬ message.Unpaid before.hosts.world) :
    carryOut nested (dispatch vm message) before =
      (nested vm () (message.started before.hosts.world)
          (message.startedCode (before.hosts.world.applyAll
            (message.opening before.hosts.world))) >>=
        finishDispatch message before.hosts.world)
          (before.changedAll (message.opening before.hosts.world)) := by
  by_cases creates : message.kind.isCreate = true
  · have same : (before.changedAll message.counting).hosts.world.balance message.sender =
        before.hosts.world.balance message.sender := by
      rw [Process.changedAll_world, message.balance_counting]
    have moves : message.movesValue = true := by rw [Message.movesValue, creates]; rfl
    rw [dispatch, if_pos creates, dispatchCreation, carryOut_bind, Bridge.bind_apply,
      carryOut_newAddress nested creates counts]
    change carryOut nested _ (before.changedAll message.counting) = _
    rw [carryOut_bind, Bridge.bind_apply, carryOut_transfer_paid nested moves paid same,
      Message.opening, Process.changedAll_append]
    simp only [Option.bind_some, afterStep, if_true]
    rw [carryOut_bind, carryOut_execute, Message.started, if_pos creates, Message.startedCode,
      if_pos creates]
    rw [finishDispatch_of_creates nested before.hosts.world creates]
  · have uncounted : message.kind ≠ .create := by
      intro kind_eq
      simp [kind_eq, CallKind.isCreate] at creates
    rw [dispatch, if_neg creates, dispatchCall, finishDispatch_of_not_creates _ creates, bind_pure,
      Message.started, if_neg creates, Message.startedCode, if_neg creates, Message.opening,
      Message.counting, if_neg uncounted, List.nil_append]
    by_cases plain : message.kind = .call
    · have moves : message.movesValue = true := by rw [Message.movesValue, plain]; rfl
      have target_eq : message.target before.hosts.world = message.recipient := by
        rw [Message.target, plain]
      have moved := carryOut_transfer_paid nested moves paid rfl
      rw [target_eq] at moved
      rw [if_pos plain, carryOut_bind, Bridge.bind_apply, moved, ← Process.changedAll_world]
      exact carryOut_executeCode nested vm _
    · have still : message.movesValue = false := by simp [Message.movesValue, creates, plain]
      have unmoved : message.payment before.hosts.world = [] := by simp [Message.payment, still]
      rw [if_neg plain, unmoved]
      exact carryOut_executeCode nested vm before

/-- How the frame of a nested message ends when its service is done. -/
def closeFrame (snapshot : World) :
    Ending ExecutionResult → Bridge Unit ν (MockContext ν) (Ending ExecutionResult)
  | .faulted fault => pure (.faulted fault)
  | .returned result => fun process =>
      if result.isSuccess then some (.returned result, process.journaled (.frameClosed true))
      else some (.returned result, (process.rolledBack snapshot).journaled (.frameClosed false))

theorem closeFrame_succeeded {result : ExecutionResult} (succeeded : result.isSuccess = true)
    (snapshot : World) (process : Process Unit ν (MockContext ν)) :
    closeFrame snapshot (.returned result) process =
      some (.returned result, process.journaled (.frameClosed true)) :=
  if_pos succeeded

theorem closeFrame_unsuccessful {result : ExecutionResult}
    (unsuccessful : ¬ result.isSuccess = true) (snapshot : World)
    (process : Process Unit ν (MockContext ν)) :
    closeFrame snapshot (.returned result) process =
      some (.returned result, (process.rolledBack snapshot).journaled (.frameClosed false)) :=
  if_neg unsuccessful

theorem carryOut_runFrame (vm : Vm ν) :
    carryOut nested (runFrame vm message) before =
      (carryOut nested (dispatch vm message) >>= closeFrame before.hosts.world)
        (before.journaled (.frameOpened message)) := by
  rw [runFrame, carryOut_bind, Bridge.bind_apply]
  change carryOut nested _ before = _
  rw [carryOut_bind, Bridge.bind_apply]
  change carryOut nested _ (before.journaled (.frameOpened message)) = _
  rw [carryOut_bind]
  refine congrFun (bind_congr fun ending => ?_) _
  cases ending with
  | faulted fault => rfl
  | returned result =>
      funext process
      simp only [afterStep, closeFrame]
      by_cases succeeded : result.isSuccess = true
      · rw [if_pos succeeded, if_pos succeeded]
        rfl
      · rw [if_neg succeeded, if_neg succeeded]
        rfl

end Frames

end MockAction

end VmBridge
