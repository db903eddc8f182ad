import VmBridge.Proofs.BalanceConservation
import VmBridge.Proofs.CreationAddresses
import VmBridge.Proofs.NamedStatuses
import VmBridge.Proofs.NestedRollback

/-!
# What a creation command leads to

A command that creates an account appends a status byte and an address.  After a success
this is the derived address of the new account, whose code is the output of the init
code, and the value was moved before the init code ran.  In every other case the address
is zero, and unless a host failed the world is as it was before: `perform_creates`.
-/

namespace VmBridge

open HostAction

namespace World

/-- An amount that the sender could pay has been moved, and no other balance changed. -/
structure Moves (before after : World) (sender receiver : Address) (amount : Nat) : Prop where
  covered : amount ≤ before.balance sender
  balance_eq : ∀ address, after.balance address =
    (before.balance address - (if sender = address then amount else 0) +
      if receiver = address then amount else 0) % 2 ^ 256

theorem balance_of_update (world : World) (address other : Address)
    (change : Account → Account) :
    (world.update address change).balance other =
      if address = other then (change (world.account address)).balance.toNat
      else world.balance other := by
  rw [balance, account_update]
  split <;> rfl

theorem moves_transfer {world : World} {sender : Address} (receiver : Address) {amount : Nat}
    (covered : amount ≤ world.balance sender) :
    world.Moves (world.apply (.transfer sender receiver amount)) sender receiver amount := by
  refine ⟨covered, fun address => ?_⟩
  have bounded (other : Address) : world.balance other < 2 ^ 256 :=
    (world.account other).balance.toNat_lt
  have debited (other : Address) : (world.update sender (·.debit amount)).balance other =
      world.balance other - if sender = other then amount else 0 := by
    rw [balance_of_update]
    split
    · rename_i same
      rw [Account.debit, Word.toNat_ofNat, same]
      exact Nat.mod_eq_of_lt (Nat.lt_of_le_of_lt (Nat.sub_le _ _) (bounded other))
    · rfl
  change ((world.update sender (·.debit amount)).update receiver (·.credit amount)).balance
    address = _
  rw [balance_of_update, debited]
  split
  · rename_i same
    subst same
    rw [← debited]
    exact Word.toNat_ofNat _
  · exact (Nat.mod_eq_of_lt (Nat.lt_of_le_of_lt (Nat.sub_le _ _) (bounded address))).symm

/-- Opening the frame of a creation moves its value to the new account. -/
theorem moves_opening {message : Message} {world : World}
    (creates : message.kind.isCreate = true) (paid : ¬message.Unpaid world) :
    world.Moves (world.applyAll (message.opening world)) message.sender (message.target world)
      message.value.toNat := by
  have moves : message.movesValue = true := by rw [Message.movesValue, creates]; rfl
  have covered : message.value.toNat ≤ world.balance message.sender :=
    Nat.le_of_not_lt fun short => paid ⟨moves, short⟩
  have counted := message.balance_counting world
  rw [Message.opening, applyAll_append, Message.payment]
  split
  · have coveredStill :
        message.value.toNat ≤ (world.applyAll message.counting).balance message.sender := by
      rwa [counted]
    have moved := moves_transfer (message.target world) coveredStill
    refine ⟨covered, fun address => ?_⟩
    rw [← counted address]
    exact moved.balance_eq address
  · rename_i nothing
    have zero : message.value.toNat = 0 := by simpa [moves] using nothing
    refine ⟨covered, fun address => ?_⟩
    have bounded : world.balance address < 2 ^ 256 := (world.account address).balance.toNat_lt
    rw [applyAll_nil, counted, zero]
    simpa using (Nat.mod_eq_of_lt bounded).symm

end World

namespace CallCommand

section Creations

variable (nested : Executor Unit Nat (MockContext Nat)) (frame : Frame) (gasLeft : Int)
  (call : CallCommand) (before : MockProcess)

/-- The state in which the code of the message of the command starts. -/
def opened : MockProcess :=
  MockAction.startedFrom ((call.asked frame gasLeft before).withCall (call.message frame gasLeft))
    (call.message frame gasLeft)

/-- The command has created an account, whose address is the end of a hash: the value was
moved, then the init code ran in the new account, and its output is the code of this
account now. -/
structure Creates (address : Address) (after : World) : Prop where
  address_eq : address = .leftPadded 20
    (keccak256 ((call.message frame gasLeft).preimage before.hosts.world)).toList
  moves : before.hosts.world.Moves (call.opened frame gasLeft before).hosts.world
    frame.message.recipient address call.value.toNat
  ran : ∃ vm init done, before.hosts.vm = some vm ∧
    nested vm ()
        { call.message frame gasLeft with recipient := address, codeAddress := address }
        call.input (call.opened frame gasLeft before) = some (.returned init, done) ∧
      init.isSuccess = true ∧ after = done.hosts.world.apply (.deployCode address init.output) ∧
      after.code address = init.output

variable {nested frame gasLeft call before} (creates : call.kind.isCreate = true)

include creates

theorem sender_message : (call.message frame gasLeft).sender = frame.message.recipient := by
  cases kind_eq : call.kind with
  | delegateCall => simp [kind_eq, CallKind.isCreate] at creates
  | _ => simp only [message, kind_eq]

theorem value_message : (call.message frame gasLeft).value = call.value := by
  cases kind_eq : call.kind with
  | delegateCall => simp [kind_eq, CallKind.isCreate] at creates
  | _ => simp only [message, kind_eq]

theorem creates_of_kept {result : ExecutionResult} {after : World}
    (kept : MockAction.Kept nested
      ((call.asked frame gasLeft before).withCall (call.message frame gasLeft))
      (call.message frame gasLeft) result after) :
    call.Creates nested frame gasLeft before (result.createAddress.getD (.zero 20)) after := by
  have createsMessage : (call.message frame gasLeft).kind.isCreate = true := creates
  let address := (call.message frame gasLeft).target before.hosts.world
  cases kept with
  | @kept vm init done found paid executed succeeded =>
      have address_eq : (Message.answered (call.message frame gasLeft) before.hosts.world
          init).createAddress.getD (.zero 20) = address := by
        rw [Message.answered, if_pos createsMessage]
        rfl
      have deploys : done.hosts.world.applyAll
          ((call.message frame gasLeft).closing before.hosts.world init.output) =
          done.hosts.world.apply (.deployCode address init.output) := by
        rw [Message.closing, if_pos createsMessage]
        rfl
      have started : (call.message frame gasLeft).started before.hosts.world =
          { call.message frame gasLeft with recipient := address, codeAddress := address } :=
        if_pos createsMessage
      have moves := World.moves_opening createsMessage paid
      rw [← MockAction.startedFrom_world, sender_message creates, value_message creates] at moves
      change call.Creates nested frame gasLeft before (Option.getD (Message.answered _
        before.hosts.world init).createAddress _) (done.hosts.world.applyAll
          (Message.closing _ before.hosts.world init.output))
      rw [address_eq, deploys]
      have derived := Message.target_eq createsMessage before.hosts.world
      refine ⟨derived, moves, vm, init, done, found, ?_, succeeded, rfl, ?_⟩
      · rw [← started]
        rw [MockAction.executeStarted, Message.startedCode, if_pos createsMessage] at executed
        exact executed
      · change ((done.hosts.world.update address _).account address).code = _
        rw [World.account_update, if_pos rfl]

end Creations

section Finishing

variable {limit : Nat} {frame : Frame} {gasLeft : Int} {call : CallCommand} {before : MockProcess}

/-- Unless it nests too deeply for the gas that is left, a command comes to an end. -/
theorem perform_finishes (uses : before.hosts.UsesExampleVm) (nonneg : 0 ≤ gasLeft)
    (enough : gasLeft.toNat < limit) :
    (runNative MockContext.hosting (execute MockContext.hosting limit)
      (perform frame gasLeft call.command).run).Finishes before := by
  by_cases violates : call.Violates frame
  · rw [run_refused violates]
    rfl
  by_cases deep : maxCallDepth ≤ frame.message.depth
  · rw [run_unmade violates deep]
    rfl
  cases filled : frame.table .call with
  | false =>
      rw [run_unanswerable violates deep filled]
      rfl
  | true =>
      have decoded := Request.decode_call_of_ok (call.toMessage_sent frame gasLeft)
      rw [Bridge.Finishes, runNative_sent violates deep filled, Option.isSome_map]
      refine finishes_deliver fun host delivery _ decoded' => ?_
      cases decoded.symm.trans decoded'
      refine MockAction.hosting_finishes (execute_finishes limit) (by simpa using uses) ?_
      rintro _ ⟨⟩
      obtain ⟨granted_nonneg, granted_le, fits⟩ := grantedGas_bounds call.gas nonneg
      have gas_eq : (call.message frame gasLeft).gas.toInt = grantedGas call.gas gasLeft :=
        gas_nestedMessage granted_nonneg fits frame.message call.kind call.address call.value
          call.salt call.input
      rw [Message.spendableGas, gas_eq]
      omega

end Finishing

/-- What a creation command that does not abort its frame has appended, and what it has
done. -/
structure CreationEnds (nested : Executor Unit Nat (MockContext Nat)) (frame : Frame)
    (gasLeft : Int) (call : CallCommand) (before after : MockProcess) (status : UInt8)
    (address : Address) : Prop where
  created : status = 0 → call.Creates nested frame gasLeft before address after.hosts.world
  unnamed : status ≠ 0 → address = .zero 20
  /-- Unless a host failed, a command that creates no account changes nothing. -/
  restored : status ≠ 0 → ∃ events, before.Since after events ∧
    (Event.firstFault? events = none → after.hosts.world = before.hosts.world)

theorem CreationEnds.of_failed {nested : Executor Unit Nat (MockContext Nat)} {frame : Frame}
    {gasLeft : Int} {call : CallCommand} {before after : MockProcess} {status : UInt8}
    {events : List Event} (nonzero : status ≠ 0) (since : before.Since after events)
    (restores : Event.firstFault? events = none → after.hosts.world = before.hosts.world) :
    CreationEnds nested frame gasLeft call before after status (.zero 20) where
  created zero := absurd zero nonzero
  unnamed _ := rfl
  restored _ := ⟨events, since, restores⟩

/-- The result of a creation that was carried out tells how the world was left. -/
theorem CreationEnds.of_answered {limit : Nat} {frame : Frame} {gasLeft : Int}
    {call : CallCommand} {before served : MockProcess} {result : ExecutionResult}
    {events : List Event} (uses : before.hosts.UsesExampleVm) (creates : call.kind.isCreate = true)
    (finished : call.Served (execute MockContext.hosting limit) frame gasLeft before
      (.returned result) served)
    (since : before.Since (served.released result.toNative) events) :
    CreationEnds (execute MockContext.hosting limit) frame gasLeft call before
      (served.released result.toNative) (statusByte result.status.raw)
      (result.createAddress.getD (.zero 20)) := by
  have usesAsked : (call.asked frame gasLeft before).hosts.UsesExampleVm := uses
  obtain ⟨named, unsuccessful_none⟩ := MockAction.call_endsPlainly (execute_endsPlainly limit)
    usesAsked (call.message frame gasLeft) _ _ finished result rfl
  obtain ⟨kept, undone⟩ := MockAction.call_settles (MockAction.execute_appendsLogs limit)
    (call.message frame gasLeft) _ served finished result rfl
  have zero_iff := statusByte_eq_zero_iff result.status
  rw [or_iff_left named.not_misleads] at zero_iff
  cases succeeded : result.isSuccess with
  | true =>
      have zero : statusByte result.status.raw = 0 := zero_iff.mpr succeeded
      exact {
        created := fun _ => creates_of_kept creates (kept succeeded)
        unnamed := fun nonzero => absurd zero nonzero
        restored := fun nonzero => absurd zero nonzero }
  | false =>
      have nonzero : statusByte result.status.raw ≠ 0 := fun zero => by
        rw [ExecutionResult.isSuccess, zero_iff.mp zero] at succeeded
        cases succeeded
      rw [unsuccessful_none succeeded]
      exact .of_failed nonzero since fun _ => undone succeeded

theorem appended_unmade {call : CallCommand} (creates : call.kind.isCreate = true)
    (gasLeft : Int) : (call.unmade gasLeft).appended =
      statusByte StatusCode.callDepthExceeded.raw :: (FixedBytes.zero 20).toList := by
  rw [unmade, if_pos creates]

theorem appended_progress {call : CallCommand} (creates : call.kind.isCreate = true)
    (gasLeft : Int) (answer : NativeResult) : (call.progress gasLeft answer).appended =
      statusByte answer.status :: answer.createAddress.toList := by
  rw [progress, if_pos creates]

/-- A creation command of the example VM comes to an end and, unless it aborts its frame,
appends a status byte and an address.  Zero is the byte of a creation that has taken
place: the address is the derived one, the value was moved to it, and its code is the
output of the init code.  Every other byte comes with the zero address, and with the
world from before the command unless a host failed. -/
theorem perform_creates (limit : Nat) (frame : Frame) (gasLeft : Int) (call : CallCommand)
    (before : MockProcess) (uses : before.hosts.UsesExampleVm)
    (live : before.registry.resolve frame.handle = some ())
    (creates : call.kind.isCreate = true) :
    (0 ≤ gasLeft → gasLeft.toNat < limit →
        (runNative MockContext.hosting (execute MockContext.hosting limit)
          (perform frame gasLeft call.command).run).Finishes before) ∧
      (runNative MockContext.hosting (execute MockContext.hosting limit)
        (perform frame gasLeft call.command).run).Ensures before fun ending after =>
        (frame.isStatic = false → frame.table .call = true → ∃ progress, ending = .ok progress) ∧
          ∀ progress, ending = .ok progress →
            progress.appended.length = 21 ∧ ∃ (status : UInt8) (address : Address),
              progress.appended = status :: address.toList ∧
                CreationEnds (execute MockContext.hosting limit) frame gasLeft call before after
                  status address := by
  refine ⟨perform_finishes uses, (perform_ends (execute_keeps _ limit) live).imp ?_⟩
  rintro ending after ⟨events, ends⟩
  have since := ends.since
  have appends {progress : Progress} {status : UInt8} {address : Address}
      (appended_eq : progress.appended = status :: address.toList)
      (outcome : CreationEnds (execute MockContext.hosting limit) frame gasLeft call before after
        status address) :
      progress.appended.length = 21 ∧ ∃ (status : UInt8) (address : Address),
        progress.appended = status :: address.toList ∧
          CreationEnds (execute MockContext.hosting limit) frame gasLeft call before after status
            address := by
    refine ⟨?_, status, address, appended_eq, outcome⟩
    rw [appended_eq, List.length_cons, address.length_toList]
  cases ends with
  | refused violates =>
      refine ⟨fun writable => ?_, nofun⟩
      rw [violates.1] at writable
      cases writable
  | unanswerable empty =>
      refine ⟨fun _ filled => ?_, nofun⟩
      rw [empty] at filled
      cases filled
  | unmade =>
      refine ⟨fun _ _ => ⟨_, rfl⟩, ?_⟩
      rintro _ ⟨⟩
      exact appends (appended_unmade creates gasLeft) (.of_failed (by decide) since fun _ => rfl)
  | contained =>
      refine ⟨fun _ _ => ⟨_, rfl⟩, ?_⟩
      rintro _ ⟨⟩
      refine appends (appended_progress creates gasLeft _)
        (.of_failed (by decide) since fun faultless => ?_)
      rw [Event.firstFault?_append, Option.or_eq_none_iff] at faultless
      cases faultless.2
  | @answered result served _ _ finished =>
      refine ⟨fun _ _ => ⟨_, rfl⟩, ?_⟩
      rintro _ ⟨⟩
      exact appends (appended_progress creates gasLeft _)
        (.of_answered uses creates finished since)

end CallCommand

namespace MockContext

/-- A context in which the first account has a balance of five. -/
def endowed : MockContext Nat :=
  onExampleVm [(.ofNat 20 1, { (default : Account) with balance := .ofNat 32 5 })]

/-- A creation with some value, whose init code answers with itself. -/
def endowing (value : Nat) : CallCommand :=
  ⟨.create, .zero 20, 5, .ofNat 32 value, .zero 32, Command.echo.encode⟩

/-- What the command leads to in this context. -/
def performEndowing (value : Nat) :
    Bridge Unit Nat (MockContext Nat) (Except StatusCode Progress) :=
  runNative hosting (VmBridge.execute hosting 10)
    (perform callingFrame 9 (endowing value).command).run

/-- The status byte behind the command, and the first fault of a host. -/
def reportEndowing (value : Nat) : Option (Option UInt8 × Option Fault) :=
  (performEndowing value (hosted endowed)).map fun ended =>
    (ended.1.toOption.bind fun progress => progress.appended.head?,
      Event.firstFault? ended.2.journal.reverse)

/-- A value that can be paid comes with a new account, and one that cannot be paid leaves
everything as it is. -/
theorem performEndowing_creates :
    let before := hosted endowed
    before.hosts.UsesExampleVm ∧ before.registry.resolve callingFrame.handle = some () ∧
      (∀ value, (endowing value).kind.isCreate = true) ∧
      (performEndowing 3).Finishes before ∧
      ((performEndowing 3).Ensures before fun _ after => ∃ address,
        (endowing 3).Creates (VmBridge.execute hosting 10) callingFrame 9 before address
          after.hosts.world) ∧
      (performEndowing 9).Ensures before fun _ after => after.hosts.world = before.hosts.world := by
  intro before
  have uses : before.hosts.UsesExampleVm := usesExampleVm_onExampleVm _
  have live : before.registry.resolve callingFrame.handle = some () := rfl
  have outcome (value : Nat) := CallCommand.perform_creates 10 callingFrame 9 (endowing value)
    before uses live rfl
  have ends {value : Nat} {byte : UInt8}
      (reported : reportEndowing value = some (some byte, none)) :
      (performEndowing value).Ensures before fun _ after => ∃ address,
        CallCommand.CreationEnds (VmBridge.execute hosting 10) callingFrame 9 (endowing value)
            before after byte address ∧
          Event.firstFault? after.journal.reverse = none := by
    intro ending after finished
    rw [reportEndowing, finished, Option.map_some, Option.some.injEq, Prod.mk.injEq] at reported
    obtain ⟨head, faultless⟩ := reported
    cases ending with
    | error status => cases head
    | ok progress =>
        obtain ⟨_, status, address, appended_eq, ended⟩ :=
          ((outcome value).2 _ after finished).2 progress rfl
        replace head : progress.appended.head? = some byte := head
        rw [appended_eq, List.head?_cons, Option.some_inj] at head
        subst head
        exact ⟨address, ended, faultless⟩
  have paid : reportEndowing 3 = some (some 0, none) := by decide +kernel
  have unpaid : reportEndowing 9 = some (some 17, none) := by decide +kernel
  refine ⟨uses, live, fun _ => rfl, (outcome 3).1 (by decide) (by decide), ?_, ?_⟩
  · refine (ends paid).imp ?_
    rintro _ after ⟨address, ended, _⟩
    exact ⟨address, ended.created rfl⟩
  · refine (ends unpaid).imp ?_
    rintro _ after ⟨address, ended, faultless⟩
    obtain ⟨events, since, restored⟩ := ended.restored (by decide)
    rw [since.reverse_journal rfl] at faultless
    exact restored faultless

end MockContext

end VmBridge
