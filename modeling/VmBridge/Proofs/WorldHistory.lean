import VmBridge.Interpreter
import VmBridge.MockContext

/-!
# Histories of a world

A mock context changes its world for somebody: for code that is executed for
a message, or for an outsider who asks it directly.  `World.Evolves` says how
a world may change while given events happen.  Changes must be within the
powers of the one who causes them.  A nested message opens a frame: the
context counts a creation and moves the value, the code of the message runs,
and a created account gets its code.  The frame is kept with all its changes,
or undone with none of them.  A frame in which a host fails is abandoned as
it stands.

Every rule describes one kind of step, so a property of all executions
follows by induction on the rules.  `World.Reaches` says in addition where a
history stands in the middle, while frames are still open.
-/

namespace VmBridge

/-- Who causes changes of a world. -/
inductive Actor where
  /-- Somebody outside of all executions, who may ask for everything. -/
  | outsider
  /-- The code that is executed for a message. -/
  | code (message : Message)

/-- The messages that the code of a message may send. -/
structure Message.Sends (outer inner : Message) : Prop where
  isStatic_eq : inner.isStatic = outer.isStatic
  depth_lt : outer.depth < maxCallDepth
  depth_eq : inner.depth = outer.depth + 1
  gas_nonneg : 0 ≤ inner.gas.toInt
  gas_lt : inner.gas.toInt < outer.gas.toInt
  sender_eq : inner.sender =
    match inner.kind with
    | .delegateCall => outer.sender
    | _ => outer.recipient
  recipient_eq : inner.recipient =
    match inner.kind with
    | .call => inner.codeAddress
    | .callCode | .delegateCall => outer.recipient
    | .create | .create2 => .zero 20
  value_eq : inner.kind = .delegateCall → inner.value = outer.value
  /-- Static code neither creates accounts nor moves value. -/
  readOnly : outer.isStatic = true →
    inner.kind.isCreate = false ∧ (inner.kind = .call → inner.value = .zero 32)

namespace Actor

/-- The host methods that an actor may ask for.  Code acts on its own account,
and on nothing but the traces of accesses when it is static. -/
def MayAsk : Actor → HostMethod → Prop
  | .outsider, _ => True
  | .code message, .setStorage address _ _ =>
      address = message.recipient ∧ message.isStatic = false
  | .code message, .selfdestruct address _ =>
      address = message.recipient ∧ message.isStatic = false
  | .code message, .emitLog log =>
      log.address = message.recipient ∧ message.isStatic = false
  | .code message, .accessStorage address _ => address = message.recipient
  | .code message, .call inner => message.Sends inner
  | .code _, _ => True

/-- The changes that an actor may cause without a nested message. -/
def MayCause : Actor → Change → Prop
  | .outsider, _ => True
  | .code message, .writeSlot address _ _ =>
      address = message.recipient ∧ message.isStatic = false
  | .code message, .transfer sender _ _ =>
      sender = message.recipient ∧ message.isStatic = false
  | .code message, .markDestructed address =>
      address = message.recipient ∧ message.isStatic = false
  | .code message, .appendLog log =>
      log.address = message.recipient ∧ message.isStatic = false
  | .code _, .warmAccount _ => True
  | .code message, .warmSlot address _ => address = message.recipient
  | .code _, .countCreation _ => False
  | .code _, .deployCode _ _ => False

end Actor

namespace World

/-- The world after some changes, in their order. -/
def applyAll (world : World) (changes : List Change) : World := changes.foldl apply world

@[simp] theorem applyAll_nil (world : World) : world.applyAll [] = world := rfl

@[simp] theorem applyAll_cons (world : World) (change : Change) (changes : List Change) :
    world.applyAll (change :: changes) = (world.apply change).applyAll changes :=
  rfl

theorem applyAll_append (world : World) (changes more : List Change) :
    world.applyAll (changes ++ more) = (world.applyAll changes).applyAll more :=
  List.foldl_append

theorem account_update (world : World) (address other : Address) (change : Account → Account) :
    (world.update address change).account other =
      if address = other then change (world.account address) else world.account other := by
  change ((world.accounts.insert address _).get? other).getD default = _
  rw [Table.get?_insert]
  split <;> rfl

theorem balance_update (world : World) (address other : Address) (change : Account → Account)
    (keeps : (change (world.account address)).balance = (world.account address).balance) :
    (world.update address change).balance other = world.balance other := by
  rw [balance, account_update]
  split
  · rename_i same
    rw [keeps, same, balance]
  · rfl

/-- A sender of value can pay it. -/
def Covers (world : World) : Change → Prop
  | .transfer sender _ amount => amount ≤ world.balance sender
  | _ => True

/-- In some changes, one after another, the senders of value can pay it. -/
def CoversAll (world : World) : List Change → Prop
  | [] => True
  | change :: rest => world.Covers change ∧ (world.apply change).CoversAll rest

theorem coversAll_append (world : World) (changes more : List Change) :
    world.CoversAll (changes ++ more) ↔
      world.CoversAll changes ∧ (world.applyAll changes).CoversAll more := by
  induction changes generalizing world with
  | nil => exact ⟨fun covered => ⟨trivial, covered⟩, And.right⟩
  | cons change changes ih =>
      rw [List.cons_append, CoversAll, CoversAll, ih, applyAll_cons, and_assoc]

end World

namespace Message

/-- The account that a message acts on: for a creation, the new one. -/
def target (message : Message) (world : World) : Address :=
  match message.kind with
  | .create =>
      MockContext.createAddress message.sender (world.account message.sender).nonce
  | .create2 => MockContext.saltedAddress message.sender message.salt message.input
  | _ => message.recipient

def movesValue (message : Message) : Bool := message.kind.isCreate || message.kind == .call

/-- A creation that can no longer be counted. -/
def Overflows (message : Message) (world : World) : Prop :=
  message.kind = .create ∧
    (world.account message.sender).nonce.toNat + 1 = UInt64.size

/-- A message whose sender cannot pay its value. -/
def Unpaid (message : Message) (world : World) : Prop :=
  message.movesValue = true ∧ world.balance message.sender < message.value.toNat

def counting (message : Message) : List Change :=
  if message.kind = .create then [.countCreation message.sender] else []

/-- The move of the value, if there is one. -/
def payment (message : Message) (world : World) : List Change :=
  if message.movesValue = true ∧ message.value.toNat ≠ 0 then
    [.transfer message.sender (message.target world) message.value.toNat]
  else []

/-- The changes before the code of a message runs. -/
def opening (message : Message) (world : World) : List Change :=
  message.counting ++ message.payment world

/-- The message for which the code runs: a creation runs in the new account. -/
def started (message : Message) (world : World) : Message :=
  if message.kind.isCreate then
    { message with
      recipient := message.target world
      codeAddress := message.target world }
  else message

/-- The changes after the code of a message has succeeded with an output. -/
def closing (message : Message) (world : World) (output : Bytes) : List Change :=
  if message.kind.isCreate then [.deployCode (message.target world) output] else []

/-- The code that runs for a message in a world that has been opened for it. -/
def startedCode (message : Message) (world : World) : Bytes :=
  if message.kind.isCreate then message.input else world.code message.codeAddress

/-- The answer to a message whose code has succeeded. -/
def answered (message : Message) (world : World) (result : ExecutionResult) :
    ExecutionResult :=
  if message.kind.isCreate then
    { result with createAddress := some (message.target world) }
  else result

@[simp] theorem isSuccess_answered (message : Message) (world : World)
    (result : ExecutionResult) :
    (message.answered world result).isSuccess = result.isSuccess := by
  rw [answered]
  split <;> rfl

theorem balance_counting (message : Message) (world : World) (address : Address) :
    (world.applyAll message.counting).balance address = world.balance address := by
  rw [counting]
  split
  · exact world.balance_update message.sender address
      (fun account => { account with nonce := account.nonce + 1 }) rfl
  · rfl

theorem coversAll_counting (message : Message) (world : World) :
    world.CoversAll message.counting := by
  rw [counting]
  split
  · exact ⟨trivial, trivial⟩
  · trivial

theorem coversAll_opening {message : Message} {world : World} (paid : ¬ message.Unpaid world) :
    world.CoversAll (message.opening world) := by
  rw [opening, World.coversAll_append]
  refine ⟨message.coversAll_counting world, ?_⟩
  rw [payment]
  split
  · rename_i moves
    refine ⟨?_, trivial⟩
    change message.value.toNat ≤ (world.applyAll message.counting).balance message.sender
    rw [message.balance_counting]
    exact Nat.le_of_not_lt fun short => paid ⟨moves.1, short⟩
  · trivial

theorem coversAll_closing (message : Message) (opened world : World) (output : Bytes) :
    world.CoversAll (message.closing opened output) := by
  rw [closing]
  split
  · exact ⟨trivial, trivial⟩
  · trivial

end Message

def changeEvents (changes : List Change) : List Event := changes.map .worldChanged

/-- How the world of a mock context may change for an actor while some events
happen. -/
inductive World.Evolves : Actor → World → List Event → World → Prop where
  | rest (actor : Actor) (world : World) : Evolves actor world [] world
  | append {actor : Actor} {first second third : World} {earlier later : List Event}
      (start : Evolves actor first earlier second) (finish : Evolves actor second later third) :
      Evolves actor first (earlier ++ later) third
  /-- Something happens outside of the context. -/
  | event {actor : Actor} {world : World} {event : Event} (elsewhere : event.byHost = false) :
      Evolves actor world [event] world
  | change {actor : Actor} {world : World} {change : Change}
      (permitted : actor.MayCause change) (covered : world.Covers change) :
      Evolves actor world [.worldChanged change] (world.apply change)
  /-- A nested message succeeds and its changes are kept. -/
  | kept {actor : Actor} {world after : World} {message : Message} {inner : List Event}
      (output : Bytes) (asked : actor.MayAsk (.call message)) (paid : ¬ message.Unpaid world)
      (executed : Evolves (.code (message.started world))
        (world.applyAll (message.opening world)) inner after) :
      Evolves actor world
        (.frameOpened message :: changeEvents (message.opening world) ++ inner ++
          changeEvents (message.closing world output) ++ [.frameClosed true])
        (after.applyAll (message.closing world output))
  /-- A nested message does not succeed and its changes are undone. -/
  | undone {actor : Actor} {world after : World} {message : Message} {inner : List Event}
      (asked : actor.MayAsk (.call message)) (paid : ¬ message.Unpaid world)
      (executed : Evolves (.code (message.started world))
        (world.applyAll (message.opening world)) inner after) :
      Evolves actor world
        (.frameOpened message :: changeEvents (message.opening world) ++ inner ++
          [.frameClosed false])
        world
  /-- The value of a nested message cannot be paid. -/
  | unpaid {actor : Actor} {world : World} {message : Message}
      (asked : actor.MayAsk (.call message)) (unpaid : message.Unpaid world) :
      Evolves actor world
        (.frameOpened message :: changeEvents message.counting ++ [.frameClosed false]) world
  /-- A host fails while the code of a nested message runs. -/
  | abandoned {actor : Actor} {world after : World} {message : Message} {inner : List Event}
      (handle : Nat) (fault : Fault) (function : String)
      (asked : actor.MayAsk (.call message)) (paid : ¬ message.Unpaid world)
      (executed : Evolves (.code (message.started world))
        (world.applyAll (message.opening world)) inner after) :
      Evolves actor world
        (.frameOpened message :: changeEvents (message.opening world) ++ inner ++
          [.refused handle (.hostFaulted fault function)])
        after
  /-- A creation cannot be counted any more. -/
  | overflown {actor : Actor} {world : World} {message : Message}
      (handle : Nat) (fault : Fault) (function : String)
      (asked : actor.MayAsk (.call message)) (overflows : message.Overflows world) :
      Evolves actor world
        [.frameOpened message, .refused handle (.hostFaulted fault function)] world

theorem World.newestLogs_apply (world : World) (change : Change) :
    world.newestLogs <:+ (world.apply change).newestLogs := by
  cases change with
  | appendLog log => exact List.suffix_cons log world.newestLogs
  | _ => exact List.suffix_rfl

theorem World.newestLogs_applyAll (world : World) (changes : List Change) :
    world.newestLogs <:+ (world.applyAll changes).newestLogs := by
  induction changes generalizing world with
  | nil => exact List.suffix_rfl
  | cons change changes ih => exact (world.newestLogs_apply change).trans (ih _)

/-- Logs are only ever appended to those of an earlier world. -/
theorem World.Evolves.newestLogs {actor : Actor} {before after : World} {events : List Event}
    (evolves : World.Evolves actor before events after) :
    before.newestLogs <:+ after.newestLogs := by
  induction evolves with
  | rest | event | undone | unpaid | overflown => exact List.suffix_rfl
  | append _ _ start finish => exact start.trans finish
  | change => exact World.newestLogs_apply _ _
  | kept _ _ _ _ ih =>
      exact (World.newestLogs_applyAll _ _).trans (ih.trans (World.newestLogs_applyAll _ _))
  | abandoned _ _ _ _ _ _ ih => exact (World.newestLogs_applyAll _ _).trans ih

namespace World

/-- Where a history that starts with a world stands after some events.  Frames may
still be open. -/
inductive Reaches : World → List Event → World → Prop where
  | evolved {actor : Actor} {before after : World} {events : List Event}
      (evolves : Evolves actor before events after) : Reaches before events after
  | opened (message : Message) {before after : World} {events : List Event}
      (inside : Reaches before events after) :
      Reaches before (.frameOpened message :: events) after
  | append {first second third : World} {earlier later : List Event}
      (start : Reaches first earlier second) (finish : Reaches second later third) :
      Reaches first (earlier ++ later) third

theorem Reaches.rest (world : World) : world.Reaches [] world := .evolved (.rest .outsider world)

theorem Reaches.change {world : World} {change : Change} (covered : world.Covers change) :
    world.Reaches [.worldChanged change] (world.apply change) := by
  have permitted : Actor.outsider.MayCause change := trivial
  exact .evolved (.change permitted covered)

theorem Reaches.changes {world : World} {changes : List Change}
    (covered : world.CoversAll changes) :
    world.Reaches (changeEvents changes) (world.applyAll changes) := by
  induction changes generalizing world with
  | nil => exact .rest world
  | cons change changes ih => exact (Reaches.change covered.1).append (ih covered.2)

/-- Every change among some events is covered where it is made. -/
def Traces (world : World) (events : List Event) : Prop :=
  ∀ earlier change later, events = earlier ++ .worldChanged change :: later →
    ∃ reached, world.Reaches earlier reached ∧ reached.Covers change

namespace Traces

variable {world middle : World} {events more : List Event}

theorem nil (world : World) : world.Traces [] := by
  intro earlier change later split
  cases earlier <;> cases split

theorem single {world : World} {event : Event}
    (covered : ∀ change, event = .worldChanged change → world.Covers change) :
    world.Traces [event] := by
  intro earlier change later split
  cases earlier with
  | nil =>
      cases split
      exact ⟨world, .rest world, covered change rfl⟩
  | cons first rest =>
      have nothing := (List.cons.inj split).2
      cases rest <;> cases nothing

/-- The events before an event of a history are a history up to there. -/
theorem append (start : world.Traces events) (reaches : world.Reaches events middle)
    (finish : middle.Traces more) : world.Traces (events ++ more) := by
  intro earlier change later split
  rcases List.append_eq_append_iff.mp split with ⟨extra, rfl, more_eq⟩ | ⟨extra, rfl, later_eq⟩
  · obtain ⟨reached, further, covered⟩ := finish extra change later more_eq
    exact ⟨reached, reaches.append further, covered⟩
  · cases extra with
    | nil =>
        obtain ⟨reached, further, covered⟩ := finish [] change later later_eq.symm
        have together := reaches.append further
        rw [List.append_nil, List.append_nil] at together
        exact ⟨reached, together, covered⟩
    | cons first rest =>
        cases later_eq
        exact start earlier change rest rfl

theorem of_append (whole : world.Traces (events ++ more)) : world.Traces events := by
  intro earlier change later split
  refine whole earlier change (later ++ more) ?_
  rw [split, List.append_assoc, List.cons_append]

theorem opened (message : Message) (inside : world.Traces events) :
    world.Traces (.frameOpened message :: events) :=
  (single fun _ => Event.noConfusion).append (.opened message (.rest world)) inside

theorem changes {changes : List Change} (covered : world.CoversAll changes) :
    world.Traces (changeEvents changes) := by
  induction changes generalizing world with
  | nil => exact nil world
  | cons change changes ih =>
      have first : world.Traces [.worldChanged change] := by
        refine single fun other same => ?_
        cases same
        exact covered.1
      exact first.append (.change covered.1) (ih covered.2)

end Traces

/-- Every change in the history of a world is covered where it is made. -/
theorem Evolves.traces {actor : Actor} {before after : World} {events : List Event}
    (evolves : Evolves actor before events after) : before.Traces events := by
  have closed (world : World) (kept : Bool) : world.Traces [.frameClosed kept] :=
    .single fun _ => Event.noConfusion
  have refused (world : World) (handle : Nat) (error : CallbackError) :
      world.Traces [.refused handle error] :=
    .single fun _ => Event.noConfusion
  induction evolves with
  | rest actor world => exact .nil world
  | append start _ first second => exact first.append (.evolved start) second
  | @event _ world event elsewhere =>
      refine .single fun change same => ?_
      rw [same] at elsewhere
      cases elsewhere
  | change _ covered =>
      refine .single fun other same => ?_
      cases same
      exact covered
  | @kept _ world after message inner output _ paid executed ih =>
      have opening := Message.coversAll_opening paid
      have closing := message.coversAll_closing world after output
      have opened := (Reaches.changes opening).opened message
      have ran := opened.append (.evolved executed)
      exact (((Traces.changes opening).opened message).append opened ih
        |>.append ran (.changes closing)).append (ran.append (.changes closing)) (closed _ true)
  | @undone _ world after message inner _ paid executed ih =>
      have opening := Message.coversAll_opening paid
      have opened := (Reaches.changes opening).opened message
      exact (((Traces.changes opening).opened message).append opened ih).append
        (opened.append (.evolved executed)) (closed _ false)
  | @unpaid _ world message =>
      have counting := message.coversAll_counting world
      exact ((Traces.changes counting).opened message).append
        ((Reaches.changes counting).opened message) (closed _ false)
  | @abandoned _ world after message inner handle fault function _ paid executed ih =>
      have opening := Message.coversAll_opening paid
      have opened := (Reaches.changes opening).opened message
      exact (((Traces.changes opening).opened message).append opened ih).append
        (opened.append (.evolved executed)) (refused _ handle _)
  | @overflown _ world message handle fault function =>
      exact (refused world handle (.hostFaulted fault function)).opened message

end World

/-- Two states of a mock context between which only its world and its record of
calls may differ. -/
structure MockContext.SameSetting {ν : Type} (before after : MockContext ν) : Prop where
  vm_eq : after.vm = before.vm
  txContext_eq : after.txContext = before.txContext
  faultIn_eq : after.faultIn = before.faultIn

namespace MockContext.SameSetting

variable {ν : Type}

theorem refl (context : MockContext ν) : context.SameSetting context := ⟨rfl, rfl, rfl⟩

theorem trans {first second third : MockContext ν} (start : first.SameSetting second)
    (finish : second.SameSetting third) : first.SameSetting third :=
  ⟨finish.vm_eq.trans start.vm_eq, finish.txContext_eq.trans start.txContext_eq,
    finish.faultIn_eq.trans start.faultIn_eq⟩

theorem withWorld {before after : MockContext ν} (same : before.SameSetting after)
    (world : World) : before.SameSetting { after with world } :=
  ⟨same.vm_eq, same.txContext_eq, same.faultIn_eq⟩

end MockContext.SameSetting

end VmBridge
