import VmBridge.Proofs.BalanceConservation
import VmBridge.Proofs.GasAccounting

/-!
# Code acts on the authority of its recipient

Every change of a world but the trace of an access is made on the authority of
one account: the one that is written, that pays, that creates, or that emits a
log.  Code that is executed for a message acts on the authority of the recipient
of the message only, and a message that it sends is executed for its own
recipient.  So an account that receives no message of a tree of executions is
spared, as `MockContext.run_spares` says: it can be paid, and nothing else.
-/

namespace VmBridge

open HostAction

/-- The account on whose authority a change is made. -/
def Change.authority : Change → Option Address
  | .writeSlot address _ _ => some address
  | .transfer sender _ _ => some sender
  | .countCreation sender => some sender
  | .deployCode address _ => some address
  | .markDestructed address => some address
  | .appendLog log => some log.address
  | .warmAccount _ | .warmSlot _ _ => none

namespace Account

variable (account : Account) (amount : Nat)

@[simp] theorem credit_storage : (account.credit amount).storage = account.storage := by rw [credit]

@[simp] theorem credit_code : (account.credit amount).code = account.code := by rw [credit]

@[simp] theorem credit_nonce : (account.credit amount).nonce = account.nonce := by rw [credit]

variable {account amount}

theorem balance_credit (fits : account.balance.toNat + amount < 2 ^ 256) :
    (account.credit amount).balance.toNat = account.balance.toNat + amount := by
  rw [credit, Word.toNat_ofNat, Nat.mod_eq_of_lt fits]

end Account

namespace World

theorem account_transfer (world : World) {sender address : Address} (receiver : Address)
    (amount : Nat) (elsewhere : sender ≠ address) :
    (world.apply (.transfer sender receiver amount)).account address =
      if receiver = address then (world.account address).credit amount
      else world.account address := by
  have debited : (world.update sender (·.debit amount)).account address =
      world.account address := by
    rw [account_update, if_neg elsewhere]
  rw [World.apply, account_update]
  split
  · rename_i paid
    rw [paid, debited]
  · exact debited

/-- Between two worlds nothing was done on the authority of an account.  What it is
paid does not wrap if all balances together have 256 bits. -/
structure Spares (before : World) (address : Address) (after : World) : Prop where
  storage_eq : (after.account address).storage = (before.account address).storage
  code_eq : (after.account address).code = (before.account address).code
  nonce_eq : (after.account address).nonce = (before.account address).nonce
  destructed_iff : address ∈ after.destructed ↔ address ∈ before.destructed
  logs_eq : ∃ newer, after.logs = before.logs ++ newer ∧ ∀ log ∈ newer, log.address ≠ address
  balance_le : before.totalBalance < 2 ^ 256 → before.balance address ≤ after.balance address
  sameTotal : before.SameTotal after

namespace Spares

variable {address : Address} {before after : World}

theorem trans {middle : World} (start : before.Spares address middle)
    (finish : middle.Spares address after) : before.Spares address after where
  storage_eq := finish.storage_eq.trans start.storage_eq
  code_eq := finish.code_eq.trans start.code_eq
  nonce_eq := finish.nonce_eq.trans start.nonce_eq
  destructed_iff := finish.destructed_iff.trans start.destructed_iff
  logs_eq := by
    obtain ⟨newer, logs_eq, others⟩ := start.logs_eq
    obtain ⟨newest, logs_eq', others'⟩ := finish.logs_eq
    refine ⟨newer ++ newest, ?_, List.forall_mem_append.mpr ⟨others, others'⟩⟩
    rw [logs_eq', logs_eq, List.append_assoc]
  balance_le below := by
    have total := start.sameTotal.exactly below
    exact Nat.le_trans (start.balance_le below) (finish.balance_le (total ▸ below))
  sameTotal := start.sameTotal.trans finish.sameTotal

/-- An account that is the same as before is spared if nothing is recorded
against it. -/
theorem of_account (same : after.account address = before.account address)
    (destructed_iff : address ∈ after.destructed ↔ address ∈ before.destructed)
    (logs_eq : ∃ newer, after.logs = before.logs ++ newer ∧
      ∀ log ∈ newer, log.address ≠ address)
    (sameTotal : before.SameTotal after) : before.Spares address after where
  storage_eq := by rw [same]
  code_eq := by rw [same]
  nonce_eq := by rw [same]
  destructed_iff := destructed_iff
  logs_eq := logs_eq
  balance_le _ := by rw [balance, balance, same]
  sameTotal := sameTotal

theorem refl (address : Address) (world : World) : world.Spares address world :=
  of_account rfl Iff.rfl ⟨[], by simp⟩ (.refl world)

theorem update {other : Address} (change : Account → Account) (elsewhere : other ≠ address)
    (sameTotal : before.SameTotal (before.update other change)) :
    before.Spares address (before.update other change) := by
  refine of_account ?_ Iff.rfl ⟨[], by simp [World.logs, World.update]⟩ sameTotal
  rw [account_update, if_neg elsewhere]

/-- A payment spares everybody but the one who pays. -/
theorem transfer {sender receiver : Address} {amount : Nat} (elsewhere : sender ≠ address)
    (covered : amount ≤ before.balance sender) :
    before.Spares address (before.apply (.transfer sender receiver amount)) := by
  have sameTotal : before.SameTotal (before.apply (.transfer sender receiver amount)) :=
    .transfer covered
  have logs_eq : ∃ newer, (before.apply (.transfer sender receiver amount)).logs =
      before.logs ++ newer ∧ ∀ log ∈ newer, log.address ≠ address :=
    ⟨[], by simp [World.logs, World.apply, World.update]⟩
  have paid_eq := before.account_transfer receiver amount elsewhere
  by_cases paid : receiver = address
  · rw [if_pos paid] at paid_eq
    have fits : before.totalBalance < 2 ^ 256 →
        before.Fits (.transfer sender receiver amount) := Covers.fits covered
    exact {
      storage_eq := by rw [paid_eq, Account.credit_storage]
      code_eq := by rw [paid_eq, Account.credit_code]
      nonce_eq := by rw [paid_eq, Account.credit_nonce]
      destructed_iff := Iff.rfl
      logs_eq := logs_eq
      balance_le := fun below => by
        have room := fits below
        rw [Fits, paid, balance, account_update, if_neg elsewhere] at room
        rw [balance, balance, paid_eq, Account.balance_credit room]
        exact Nat.le_add_right _ _
      sameTotal := sameTotal }
  · rw [if_neg paid] at paid_eq
    exact of_account paid_eq Iff.rfl logs_eq sameTotal

/-- A change spares every account on whose authority it is not made. -/
theorem apply {change : Change} (elsewhere : change.authority ≠ some address)
    (covered : before.Covers change) : before.Spares address (before.apply change) := by
  have sameTotal : before.SameTotal (before.apply change) := .apply covered
  have unlogged : ∃ newer, before.logs = before.logs ++ newer ∧
      ∀ log ∈ newer, log.address ≠ address := ⟨[], by simp⟩
  cases change with
  | writeSlot other key value =>
      exact update (·.writeSlot key value)
        (fun same => elsewhere (congrArg some same)) sameTotal
  | transfer sender receiver amount =>
      exact transfer (fun same => elsewhere (congrArg some same)) covered
  | countCreation sender =>
      exact update (fun account => { account with nonce := account.nonce + 1 })
        (fun same => elsewhere (congrArg some same)) sameTotal
  | deployCode other code =>
      exact update (fun account => { account with code })
        (fun same => elsewhere (congrArg some same)) sameTotal
  | markDestructed other =>
      refine of_account rfl ?_ unlogged sameTotal
      have different : address ≠ other := fun same => elsewhere (congrArg some same.symm)
      exact List.mem_insert_iff.trans (or_iff_right different)
  | warmAccount other => exact of_account rfl Iff.rfl unlogged sameTotal
  | warmSlot other key => exact of_account rfl Iff.rfl unlogged sameTotal
  | appendLog log =>
      refine of_account rfl Iff.rfl ⟨[log], World.logs_apply_appendLog before log, ?_⟩ sameTotal
      simpa [Change.authority] using elsewhere

theorem applyAll {changes : List Change}
    (elsewhere : ∀ change ∈ changes, change.authority ≠ some address)
    (covered : before.CoversAll changes) : before.Spares address (before.applyAll changes) := by
  induction changes generalizing before with
  | nil => exact refl address before
  | cons change changes ih =>
      obtain ⟨first, rest⟩ := List.forall_mem_cons.mp elsewhere
      exact (apply first covered.1).trans (ih rest covered.2)

end Spares

end World

def Change.ActsFor (owner : Address) (change : Change) : Prop :=
  change.authority = none ∨ change.authority = some owner

theorem Change.ActsFor.authority_ne {owner address : Address} {change : Change}
    (acts : change.ActsFor owner) (elsewhere : owner ≠ address) :
    change.authority ≠ some address := by
  rcases acts with nobody | owned
  · rw [nobody]
    exact nofun
  · rw [owned]
    exact fun same => elsewhere (Option.some.inj same)

/-- Between two worlds code acted for an owner, and some messages were executed on
its behalf. -/
structure World.Acts (owner : Address) (before after : World) (frames : List Message) :
    Prop where
  spares : ∀ address, owner ≠ address → (∀ frame ∈ frames, frame.recipient ≠ address) →
    before.Spares address after
  /-- Messages of two kinds are executed for the owner again. -/
  inherits : (∀ frame ∈ frames, frame.kind = .callCode ∨ frame.kind = .delegateCall) →
    ∀ frame ∈ frames, frame.recipient = owner

namespace World.Acts

variable {owner : Address} {before middle after : World} {frames others : List Message}

theorem refl (owner : Address) (world : World) : World.Acts owner world world [] :=
  ⟨fun address _ _ => .refl address world, fun _ => List.forall_mem_nil _⟩

theorem trans (start : World.Acts owner before middle frames)
    (finish : World.Acts owner middle after others) :
    World.Acts owner before after (frames ++ others) where
  spares address elsewhere received := by
    obtain ⟨earlier, later⟩ := List.forall_mem_append.mp received
    exact (start.spares address elsewhere earlier).trans (finish.spares address elsewhere later)
  inherits kinds := by
    obtain ⟨earlier, later⟩ := List.forall_mem_append.mp kinds
    exact List.forall_mem_append.mpr ⟨start.inherits earlier, finish.inherits later⟩

theorem changes {changes : List Change} (acts : ∀ change ∈ changes, change.ActsFor owner)
    (covered : before.CoversAll changes) :
    World.Acts owner before (before.applyAll changes) [] where
  spares _ elsewhere _ :=
    .applyAll (fun change member => (acts change member).authority_ne elsewhere) covered
  inherits _ := List.forall_mem_nil _

theorem undone (acts : World.Acts owner before after frames) :
    World.Acts owner before before frames :=
  ⟨fun address _ _ => .refl address before, acts.inherits⟩

end World.Acts

namespace Message

variable {outer message : Message} {world : World}

theorem Sends.sender_of_movesValue (sends : outer.Sends message)
    (moves : message.movesValue = true) : message.sender = outer.recipient := by
  have sender_eq := sends.sender_eq
  cases kind_eq : message.kind with
  | delegateCall => simp [movesValue, kind_eq, CallKind.isCreate] at moves
  | call | callCode | create | create2 => simpa only [kind_eq] using sender_eq

/-- What precedes the execution of a message is done by the code that sends it. -/
theorem Sends.opening_actsFor (sends : outer.Sends message) :
    ∀ change ∈ message.opening world, change.ActsFor outer.recipient := by
  refine List.forall_mem_append.mpr ⟨fun change member => ?_, fun change member => ?_⟩
  · rw [counting] at member
    split at member
    · rename_i creates
      have moves : message.movesValue = true := by rw [movesValue, creates]; rfl
      rw [List.mem_singleton.mp member, ← sends.sender_of_movesValue moves]
      exact Or.inr rfl
    · cases member
  · rw [payment] at member
    split at member
    · rename_i moves
      rw [List.mem_singleton.mp member, ← sends.sender_of_movesValue moves.1]
      exact Or.inr rfl
    · cases member

theorem closing_actsFor (output : Bytes) :
    ∀ change ∈ message.closing world output,
      change.ActsFor (message.started world).recipient := by
  intro change member
  rw [closing] at member
  split at member
  · rename_i creates
    rw [List.mem_singleton.mp member, started, if_pos creates]
    exact Or.inr rfl
  · cases member

/-- A message that hands its recipient on is executed for the sender's own
recipient. -/
theorem Sends.recipient_started (sends : outer.Sends message)
    (kinds : (message.started world).kind = .callCode ∨
      (message.started world).kind = .delegateCall) :
    (message.started world).recipient = outer.recipient := by
  have kind_eq : (message.started world).kind = message.kind := by
    rw [started]
    split <;> rfl
  rw [kind_eq] at kinds
  have recipient_eq := sends.recipient_eq
  rcases kinds with code | delegate
  · rw [started, if_neg (by simp [code, CallKind.isCreate])]
    simpa only [code] using recipient_eq
  · rw [started, if_neg (by simp [delegate, CallKind.isCreate])]
    simpa only [delegate] using recipient_eq

end Message

/-- Code that sends a message acts for its own recipient before the message is
executed, and the message is executed for the recipient of the message. -/
theorem World.Acts.sent {outer message : Message} {world after : World}
    {frames : List Message} (closing : List Change) (sends : outer.Sends message)
    (paid : ¬ message.Unpaid world)
    (executed : World.Acts (message.started world).recipient
      (world.applyAll (message.opening world)) after frames)
    (closes : ∀ change ∈ closing, change.ActsFor (message.started world).recipient)
    (covered : after.CoversAll closing) :
    World.Acts outer.recipient world (after.applyAll closing)
      (message.started world :: frames) where
  spares address elsewhere received := by
    obtain ⟨notStarted, notNested⟩ := List.forall_mem_cons.mp received
    have opened : World.Acts outer.recipient world _ [] :=
      .changes sends.opening_actsFor (Message.coversAll_opening paid)
    have closed : World.Acts (message.started world).recipient after _ [] :=
      .changes closes covered
    exact (opened.spares address elsewhere (List.forall_mem_nil _)).trans
      ((executed.trans closed).spares address notStarted (by simpa using notNested))
  inherits kinds := by
    obtain ⟨startedKind, nestedKinds⟩ := List.forall_mem_cons.mp kinds
    have same := sends.recipient_started startedKind
    refine List.forall_mem_cons.mpr ⟨same, fun frame member => ?_⟩
    exact (executed.inherits nestedKinds frame member).trans same

def Event.frame? : Event → Option Message
  | .executing message _ _ => some message
  | _ => none

/-- The messages that were executed while some events happened, in their order. -/
def Event.frames (events : List Event) : List Message := events.filterMap frame?

theorem Event.frames_append (events others : List Event) :
    frames (events ++ others) = frames events ++ frames others :=
  List.filterMap_append

theorem Event.frames_eq_nil {events : List Event}
    (none_started : ∀ event ∈ events, event.frame? = none) : frames events = [] :=
  List.filterMap_eq_nil_iff.mpr none_started

theorem Event.frames_changeEvents (changes : List Change) : frames (changeEvents changes) = [] := by
  refine frames_eq_nil fun event member => ?_
  obtain ⟨change, _, rfl⟩ := List.mem_map.mp member
  rfl

/-- Between two states code acted for an owner, and the journal tells which messages
were executed on its behalf. -/
def Process.Acts (owner : Address) (before after : MockProcess) : Prop :=
  ∃ events, before.Since after events ∧
    World.Acts owner before.hosts.world after.hosts.world (Event.frames events)

namespace Process.Acts

variable {owner : Address} {before middle after : MockProcess}

theorem trans (start : before.Acts owner middle) (finish : middle.Acts owner after) :
    before.Acts owner after := by
  obtain ⟨earlier, since, acts⟩ := start
  obtain ⟨later, since', acts'⟩ := finish
  refine ⟨_, since.append since', ?_⟩
  rw [Event.frames_append]
  exact acts.trans acts'

theorem of_still {events : List Event} (none_started : Event.frames events = [])
    (since : before.Since after events) (same : after.hosts.world = before.hosts.world) :
    before.Acts owner after := by
  refine ⟨events, since, ?_⟩
  rw [none_started, same]
  exact .refl owner _

theorem journaled {event : Event} (not_started : event.frame? = none) (process : MockProcess) :
    process.Acts owner (process.journaled event) :=
  of_still (Event.frames_eq_nil (by simpa using not_started)) (since_journaled process event) rfl

end Process.Acts

def ActsNested (nested : Executor Unit Nat (MockContext Nat)) : Prop :=
  ∀ vm message code (process : MockProcess), vm.IsExample → process.hosts.UsesExampleVm →
    (nested vm () message code).Ensures process fun _ after =>
      ∃ events frames, process.Since after events ∧
        Event.frames events = message :: frames ∧
        World.Acts message.recipient process.hosts.world after.hosts.world frames

namespace MockAction

variable {nested : Executor Unit Nat (MockContext Nat)} {before after : MockProcess} {vm : Vm Nat}
  {outer message : Message} {ending : Ending ExecutionResult}

theorem FrameEnds.acts (nestedEvolves : EvolvesNested nested) (nestedActs : ActsNested nested)
    (isExample : vm.IsExample) (uses : before.hosts.UsesExampleVm)
    (sends : outer.Sends message) (ends : FrameEnds nested before vm message ending after) :
    before.Acts outer.recipient after := by
  have usesStarted : (startedFrom before message).hosts.UsesExampleVm :=
    sameSetting_startedFrom.usesExampleVm uses
  let world := before.hosts.world
  have nestedEnsures := nestedActs vm (message.started world)
    (message.startedCode (world.applyAll (message.opening world)))
    (startedFrom before message) isExample usesStarted
  rw [startedFrom_world] at nestedEnsures
  have front (changes : List Change) :
      Event.frames (.frameOpened message :: changeEvents changes) = [] :=
    Event.frames_changeEvents changes
  cases ends with
  | overflown => exact .of_still (front []) (Process.since_journaled before _) rfl
  | unpaid =>
      refine .of_still ?_ since_unpaid countedFrom_rolledBack
      rw [Event.frames_append, front]
      rfl
  | abandoned paid executed =>
      obtain ⟨inner, frames, since, frames_eq, acts⟩ := nestedEnsures _ _ executed
      refine ⟨_, since_startedFrom.append since, ?_⟩
      rw [Event.frames_append, front, frames_eq, List.nil_append]
      exact acts.sent [] sends paid (List.forall_mem_nil _) trivial
  | undone paid executed =>
      obtain ⟨inner, frames, since, frames_eq, acts⟩ := nestedEnsures _ _ executed
      have restored := rolledBack_of_executed
        (nestedEvolves _ _ _ _ isExample usesStarted _ _ executed)
      refine ⟨_, since_undone since, ?_⟩
      rw [Event.frames_append, Event.frames_append, front, frames_eq, List.nil_append]
      change World.Acts _ _ (World.rolledBack _ _) (_ ++ [])
      rw [restored, List.append_nil]
      exact (acts.sent [] sends paid (List.forall_mem_nil _) trivial).undone
  | @kept result _ paid executed =>
      obtain ⟨inner, frames, since, frames_eq, acts⟩ := nestedEnsures _ _ executed
      refine ⟨_, since_kept since result.output, ?_⟩
      rw [Event.frames_append, Event.frames_append, Event.frames_append, front, frames_eq,
        Event.frames_changeEvents, List.nil_append, List.append_nil]
      change World.Acts _ _ (Process.changedAll _ _).hosts.world (_ ++ [])
      rw [Process.changedAll_world, List.append_nil]
      exact acts.sent _ sends paid (message.closing_actsFor result.output)
        (message.coversAll_closing _ _ _)

theorem CallEnds.acts (nestedEvolves : EvolvesNested nested) (nestedActs : ActsNested nested)
    (uses : before.hosts.UsesExampleVm) (sends : outer.Sends message)
    (ends : CallEnds nested before message ending after) : before.Acts outer.recipient after := by
  cases ends with
  | failing | unserved => exact .of_still rfl (Process.since_nil rfl) rfl
  | @framed vm _ _ found frame =>
      have usesCalled : (before.withCall message).hosts.UsesExampleVm := uses
      have acts := frame.acts nestedEvolves nestedActs (uses vm found) usesCalled sends
      exact acts

/-- What the code of a message asks for is done on the authority of its recipient. -/
theorem changes_actsFor {method : HostMethod} (asked : (Actor.code outer).MayAsk method)
    (world : World) : ∀ change ∈ method.changes world, change.ActsFor outer.recipient := by
  cases method with
  | setStorage address key value =>
      exact List.forall_mem_singleton.mpr (.inr (congrArg some asked.1))
  | emitLog log => exact List.forall_mem_singleton.mpr (.inr (congrArg some asked.1))
  | accessAccount address => exact List.forall_mem_singleton.mpr (.inl rfl)
  | accessStorage address key => exact List.forall_mem_singleton.mpr (.inl rfl)
  | selfdestruct address beneficiary =>
      have marks : Change.ActsFor outer.recipient (.markDestructed address) :=
        .inr (congrArg some asked.1)
      have pays : Change.ActsFor outer.recipient
          (.transfer address beneficiary (world.balance address)) := .inr (congrArg some asked.1)
      rw [HostMethod.changes, destruction]
      split
      · exact List.forall_mem_singleton.mpr marks
      · exact List.forall_mem_cons.mpr ⟨pays, List.forall_mem_singleton.mpr marks⟩
  | _ => exact List.forall_mem_nil _

theorem coversAll_changes (method : HostMethod) (world : World) :
    world.CoversAll (method.changes world) := by
  cases method with
  | selfdestruct address beneficiary =>
      rw [HostMethod.changes, destruction]
      split
      · exact ⟨trivial, trivial⟩
      · exact ⟨Nat.le_refl _, trivial, trivial⟩
  | setStorage | emitLog | accessAccount | accessStorage => exact ⟨trivial, trivial⟩
  | _ => trivial

/-- Whatever the code of a message asks a mock context for, it acts for the recipient
of the message. -/
theorem hosting_acts (nestedEvolves : EvolvesNested nested) (nestedActs : ActsNested nested)
    (uses : before.hosts.UsesExampleVm) {method : HostMethod}
    (asked : (Actor.code outer).MayAsk method) :
    (carryOut nested (MockContext.hosting () method)).Ensures before fun _ after =>
      before.Acts outer.recipient after := by
  refine (hosting_serves nested before method).imp ?_
  intro ending after serves
  cases serves with
  | still => exact .of_still rfl (Process.since_nil rfl) rfl
  | changed =>
      refine ⟨_, Process.since_changedAll before _, ?_⟩
      rw [Event.frames_changeEvents, Process.changedAll_world]
      exact .changes (changes_actsFor asked _) (coversAll_changes method _)
  | called ends => exact ends.acts nestedEvolves nestedActs uses asked

end MockAction

section Executions

variable {nested : Executor Unit Nat (MockContext Nat)}

theorem deliver_acts (nestedEvolves : EvolvesNested nested) (nestedActs : ActsNested nested)
    {provider : Provider} {verbosity own handle : Nat} {message : Message} {request : Request}
    {process : MockProcess}
    (asked : (ExampleVm.frameOf provider verbosity own message).Asks
      (startingGas message.toNative) handle request)
    (uses : process.hosts.UsesExampleVm) :
    (deliver MockContext.hosting nested handle request).Ensures process fun _ after =>
      process.Acts message.recipient after := by
  have requested : process.Acts message.recipient
      (process.journaled (.requested request.name handle)) := .journaled rfl process
  refine ensures_deliver (requested.trans (.journaled rfl _))
    (fun error _ => requested.trans (.journaled rfl _)) ?_
  intro host delivery _ decoded
  let announced := (process.journaled (.requested request.name handle)).announced delivery.method
  have announcing : process.Acts message.recipient announced := by
    refine requested.trans (.of_still (Event.frames_eq_nil fun event member => ?_)
      (Process.since_announced _ delivery.method) (by rw [Process.announced_hosts]))
    obtain ⟨inner, rfl⟩ := Process.mem_announcing member
    rfl
  have usesAnnounced : announced.hosts.UsesExampleVm := by simpa [announced] using uses
  refine (MockAction.hosting_acts nestedEvolves nestedActs usesAnnounced
    (mayAsk_of_decode asked.2 decoded)).imp ?_
  intro ending after acts
  cases ending with
  | returned answer => exact announcing.trans acts
  | faulted fault =>
      have since : after.Since (after.parked handle fault request.name.text)
          [.refused handle (.hostFaulted fault request.name.text)] := rfl
      have parked : after.Acts message.recipient (after.parked handle fault request.name.text) :=
        .of_still rfl since rfl
      exact (announcing.trans acts).trans parked

theorem NativeEvent.frame?_eq_none (event : NativeEvent) : event.val.frame? = none := by
  obtain ⟨event, native⟩ := event
  cases event <;> first | rfl | cases native

/-- Whatever the example VM executes, its code acts for the recipient of the
message. -/
theorem execute_acts (limit : Nat) : ActsNested (execute MockContext.hosting limit) := by
  induction limit with
  | zero =>
      intro vm message code process _ _ ending after finished
      cases finished
  | succ limit ih =>
      intro vm message code process isExample uses
      obtain ⟨provider, executes⟩ := isExample.executes
      rw [execute, ensures_executeWith executes]
      let begun := process.begun vm (ExampleVm.nativeExecute provider) () message code
      let holds (middle : MockProcess) : Prop :=
        begun.Acts message.recipient middle ∧ middle.hosts.UsesExampleVm
      have start : holds begun := ⟨.of_still rfl (Process.since_nil rfl) rfl, uses⟩
      have noted (middle : MockProcess) (event : NativeEvent) (held : holds middle) :
          holds (middle.journaled event.val) :=
        ⟨held.1.trans (.journaled event.frame?_eq_none middle), held.2⟩
      have obeys := ExampleVm.execute_obeys provider (process.privateState vm)
        process.registry.nextHandle message code
      refine (runNative_keeps noted ?_ obeys start).imp ?_
      · intro middle handle request asked held answer after answered
        have acts := deliver_acts (execute_evolves limit) ih asked held.2 answer after answered
        have evolves := deliver_evolves (execute_evolves limit) asked held.2 answer after answered
        exact ⟨held.1.trans acts, evolves.usesExampleVm held.2⟩
      · rintro native middle ⟨_, ⟨events, since, acts⟩, _⟩
        have happened := ((process.since_begun vm _ () message code).append since).append
          (middle.since_concluded process.registry.nextHandle native)
        have concluding : Event.frames (middle.concluding process.registry.nextHandle native) =
            [] := by
          refine Event.frames_eq_nil fun event member => ?_
          rcases Process.mem_concluding member with rfl | ⟨_, rfl⟩ | rfl | rfl <;> rfl
        refine ⟨_, Event.frames events, happened, ?_, ?_⟩
        · rw [Event.frames_append, Event.frames_append, concluding, List.append_nil]
          rfl
        · rw [Process.concluded_hosts]
          exact acts

end Executions

namespace MockContext

/-- However the execution of a message from outside ends, it comes to an end and
spares every account that received none of the executed messages.  If all nested
messages hand their recipient on, it spares every account but the recipient of
the message. -/
theorem run_spares (limit : Nat) (message : Message) (before : MockProcess)
    (has : before.hosts.HasExampleVm) :
    (message.spendableGas < limit → (run limit message).Finishes before) ∧
      (run limit message).Ensures before fun _ after =>
        ∃ events nested, before.Since after events ∧
          Event.frames events = message :: nested ∧
          (∀ address, (∀ frame ∈ message :: nested, frame.recipient ≠ address) →
            before.hosts.world.Spares address after.hosts.world) ∧
          ((∀ frame ∈ nested, frame.kind = .callCode ∨ frame.kind = .delegateCall) →
            ∀ address, message.recipient ≠ address →
              before.hosts.world.Spares address after.hosts.world) := by
  refine ⟨run_finishes has.uses, ?_⟩
  have uses := has.uses
  obtain ⟨vm, found, isExample⟩ := has
  rw [Bridge.ensures_congr (run_of_vm found)]
  refine (execute_acts limit vm message _ before isExample uses).imp ?_
  rintro ending after ⟨events, frames, since, frames_eq, acts⟩
  refine ⟨events, frames, since, frames_eq, fun address received => ?_,
    fun kinds address elsewhere => ?_⟩
  · obtain ⟨notOwner, notNested⟩ := List.forall_mem_cons.mp received
    exact acts.spares address notOwner notNested
  · refine acts.spares address elsewhere fun frame member => ?_
    rw [acts.inherits kinds frame member]
    exact elsewhere

/-- Three accounts.  The first runs the code of the second as its own, which writes a
slot and gives what the account has to the third. -/
def delegating : MockContext Nat :=
  onExampleVm [
    (.ofNat 20 1, { Account.running [.plainCall .delegateCall (.ofNat 20 2) 50 []] with
      balance := .ofNat 32 5 }),
    (.ofNat 20 2, .running [
      .storeSlot (.ofNat 32 1) (.ofNat 32 7), .selfdestruct (.ofNat 20 3)]),
    (.ofNat 20 3, { (default : Account) with balance := .ofNat 32 2 })]

/-- The slot is written for the first account, and every other one is spared. -/
theorem run_delegating :
    (run 101 (.calling (.ofNat 20 1) 100)).Finishes (.initial delegating) ∧
      (run 101 (.calling (.ofNat 20 1) 100)).Ensures (.initial delegating) fun _ after =>
        after.hosts.world.slot (.ofNat 20 1) (.ofNat 32 1) = .ofNat 32 7 ∧
          after.hosts.world.balance (.ofNat 20 3) = 7 ∧
          ∀ address, .ofNat 20 1 ≠ address →
            delegating.world.Spares address after.hosts.world := by
  have has : delegating.HasExampleVm := ⟨ExampleVm.bundled, rfl, ExampleVm.isExample_bundled⟩
  obtain ⟨finishes, ensured⟩ :=
    run_spares 101 (.calling (.ofNat 20 1) 100) (.initial delegating) has
  refine ⟨finishes (by decide), fun ending after finished => ?_⟩
  obtain ⟨events, nested, since, frames_eq, _, delegated⟩ := ensured ending after finished
  have events_eq := since.reverse_journal rfl
  have ran : ((run 101 (.calling (.ofNat 20 1) 100) (.initial delegating)).map fun result =>
      (result.2.hosts.world.slot (.ofNat 20 1) (.ofNat 32 1),
        result.2.hosts.world.balance (.ofNat 20 3),
        (Event.frames result.2.journal.reverse).tail.map Message.kind)) =
      some (.ofNat 32 7, 7, [.delegateCall]) := by decide +kernel
  rw [finished, Option.map_some, Option.some.injEq, Prod.mk.injEq, Prod.mk.injEq, events_eq,
    frames_eq, List.tail_cons] at ran
  obtain ⟨slot_eq, balance_eq, kinds_eq⟩ := ran
  refine ⟨slot_eq, balance_eq, delegated fun frame member => Or.inr ?_⟩
  have kind_mem : frame.kind ∈ nested.map Message.kind := List.mem_map_of_mem member
  rw [kinds_eq] at kind_mem
  exact List.mem_singleton.mp kind_mem

end MockContext

end VmBridge
