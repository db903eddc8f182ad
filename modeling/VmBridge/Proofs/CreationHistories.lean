import VmBridge.Proofs.CreationNonces
import VmBridge.Proofs.FirstFault

/-!
# Nonces count the creations that survive

A creation without a salt is counted before its code runs, so code that runs
for it may have further creations counted, and every message that does not
succeed takes back what was counted in its frame.  If no host fails, the nonce
of every account has nevertheless grown by exactly the number of its creations
that survive, and these hashed different bytes.  A message from outside is
executed as it is: whatever its kind, it opens no frame and creates nothing.
-/

namespace VmBridge

open HostAction

/-- Unless a host failed, the accounts counted between two states exactly the
creations that survive. -/
def Process.Counts (before after : MockProcess) : Prop :=
  ∃ events, before.Since after events ∧ (Event.Faultless events →
    ∃ creations : List Creation, Event.Founds events (creations.map Creation.accounts) ∧
      before.hosts.world.Counts creations after.hosts.world)

namespace Process.Counts

variable {before middle after : MockProcess}

theorem trans (start : before.Counts middle) (finish : middle.Counts after) :
    before.Counts after := by
  obtain ⟨earlier, since, counted⟩ := start
  obtain ⟨later, since', counted'⟩ := finish
  refine ⟨_, since.append since', fun faultless => ?_⟩
  obtain ⟨first, second⟩ := List.forall_mem_append.mp faultless
  obtain ⟨creations, founds, counts⟩ := counted first
  obtain ⟨more, founds', counts'⟩ := counted' second
  refine ⟨creations ++ more, ?_, counts.trans counts'⟩
  rw [List.map_append]
  exact founds.append founds'

theorem of_events {events : List Event} (outside : ∀ event ∈ events, event.byHost = false)
    (since : before.Since after events) (same : after.hosts = before.hosts) :
    before.Counts after := by
  refine ⟨events, since, fun _ => ⟨[], .elsewhere outside, ?_⟩⟩
  rw [same]
  exact .refl _

theorem refl (process : MockProcess) : process.Counts process :=
  of_events (List.forall_mem_nil _) (since_nil rfl) rfl

theorem journaled {event : Event} (outside : event.byHost = false) (process : MockProcess) :
    process.Counts (process.journaled event) :=
  of_events (List.forall_mem_singleton.mpr outside) (since_journaled process event) rfl

/-- Once the failure of a host has been reported, nothing is said of what survives. -/
theorem parked {events : List Event} (since : before.Since after events) (handle : Nat)
    (fault : Fault) (function : String) :
    before.Counts (after.parked handle fault function) := by
  have reported : after.Since (after.parked handle fault function)
      [.refused handle (.hostFaulted fault function)] := rfl
  refine ⟨_, since.append reported, fun faultless => ?_⟩
  have quiet := faultless (.refused handle (.hostFaulted fault function)) (by simp)
  cases quiet

end Process.Counts

def CountsNested (nested : Executor Unit Nat (MockContext Nat)) : Prop :=
  ∀ vm message code (process : MockProcess), vm.IsExample → process.hosts.UsesExampleVm →
    (nested vm () message code).Ensures process fun _ after => process.Counts after

namespace MockAction

variable {nested : Executor Unit Nat (MockContext Nat)} {before after : MockProcess} {vm : Vm Nat}
  {message : Message} {ending : Ending ExecutionResult}

/-- A frame whose creation cannot be counted does not return. -/
theorem runFrame_counted (nested : Executor Unit Nat (MockContext Nat)) (before : MockProcess)
    (vm : Vm Nat) (message : Message) :
    (carryOut nested (runFrame vm message)).Ensures before fun ending _ =>
      ∀ result, ending = .returned result → ¬ message.Overflows before.hosts.world := by
  rintro ending after finished result rfl overflows
  have opened : message.Overflows (before.journaled (.frameOpened message)).hosts.world :=
    overflows
  rw [carryOut_runFrame, Bridge.bind_apply,
    carryOut_dispatch_overflown nested vm opened] at finished
  cases finished

/-- The frame of a message counts its own creation and those of the nested messages,
unless it is undone. -/
theorem FrameEnds.counts (nestedEvolves : EvolvesNested nested) (nestedActs : ActsNested nested)
    (nestedCounts : CountsNested nested) (isExample : vm.IsExample)
    (uses : before.hosts.UsesExampleVm) {result : ExecutionResult}
    (counted : ¬ message.Overflows before.hosts.world)
    (ends : FrameEnds nested before vm message (.returned result) after) :
    before.Counts after := by
  have usesStarted : (startedFrom before message).hosts.UsesExampleVm :=
    sameSetting_startedFrom.usesExampleVm uses
  let world := before.hosts.world
  let code := message.startedCode (world.applyAll (message.opening world))
  have executes := nestedCounts vm (message.started world) code _ isExample usesStarted
  have opening := Event.Founds.changeEvents (message.opening world)
  cases ends with
  | unpaid =>
      refine ⟨_, since_unpaid, fun _ => ⟨[], ?_, ?_⟩⟩
      · exact (Event.Founds.changeEvents message.counting).undone message
      · change World.Counts _ _ (World.rolledBack _ _)
        rw [countedFrom_rolledBack]
        exact .refl _
  | undone _ executed =>
      obtain ⟨inner, since, settled⟩ := executes _ _ executed
      have evolves := nestedEvolves _ _ _ _ isExample usesStarted _ _ executed
      refine ⟨_, since_undone since, fun faultless => ?_⟩
      obtain ⟨creations, founds, _⟩ :=
        settled fun event member => faultless event (by simp [member])
      refine ⟨[], (opening.append founds).undone message, ?_⟩
      change World.Counts _ _ (World.rolledBack _ _)
      rw [rolledBack_of_executed evolves]
      exact .refl _
  | @kept result _ _ executed =>
      obtain ⟨inner, since, settled⟩ := executes _ _ executed
      obtain ⟨inner', frames, since', frames_eq, _⟩ :=
        nestedActs vm (message.started world) code _ isExample usesStarted _ _ executed
      obtain rfl := since.unique since'
      have closing := Event.Founds.changeEvents (message.closing world result.output)
      refine ⟨_, since_kept since result.output, fun faultless => ?_⟩
      obtain ⟨creations, founds, counts⟩ :=
        settled fun event member => faultless event (by simp [member])
      rw [startedFrom_world] at counts
      refine ⟨message.creations world ++ creations, ?_, ?_⟩
      · have first : Event.frames (changeEvents (message.opening world) ++ inner ++
            changeEvents (message.closing world result.output)) =
            message.started world :: frames := by
          rw [Event.frames_append, Event.frames_append, Event.frames_changeEvents,
            Event.frames_changeEvents, frames_eq]
          simp
        have whole := ((opening.append founds).append closing).kept message first
        rw [List.map_append, Message.map_accounts_creations]
        simpa using whole
      · change World.Counts _ _ (Process.changedAll _ _).hosts.world
        rw [Process.changedAll_world]
        have ran := (Message.counts_opening counted).trans counts
        simpa using ran.trans (message.counts_closing result.output _)

/-- What a method of a mock context leads to: the creations that survive are counted if
it returns. -/
def MethodCounts {α : Type} (before : MockProcess) : Ending α → MockProcess → Prop
  | .returned _, after => before.Counts after
  | .faulted _, after => ∃ events, before.Since after events

theorem call_counts (nestedEvolves : EvolvesNested nested) (nestedActs : ActsNested nested)
    (nestedCounts : CountsNested nested) (uses : before.hosts.UsesExampleVm) (message : Message) :
    (carryOut nested (call message)).Ensures before (MethodCounts before) := by
  have remembered : before.Counts (before.withCall message) :=
    ⟨[], Process.since_nil rfl, fun _ => ⟨[], .nil, .refl _⟩⟩
  intro ending after finished
  rw [carryOut_call] at finished
  split at finished
  · cases finished
    exact ⟨[], Process.since_nil rfl⟩
  split at finished
  · cases finished
    exact remembered
  · rename_i vm found
    split at finished
    · cases finished
      exact remembered
    · have ends := runFrame_ends nested _ vm message ending after finished
      have counted := runFrame_counted nested _ vm message ending after finished
      have usesCalled : (before.withCall message).hosts.UsesExampleVm := uses
      cases ending with
      | returned result =>
          exact remembered.trans (ends.counts nestedEvolves nestedActs nestedCounts
            (uses vm found) usesCalled (counted result rfl))
      | faulted fault =>
          have asked : Actor.outsider.MayAsk (.call message) := trivial
          obtain ⟨events, since, _⟩ :=
            (ends.evolves nestedEvolves (uses vm found) usesCalled asked).1
          exact ⟨events, since⟩

/-- Whatever method a mock context serves, the creations that survive are counted. -/
theorem hosting_counts (nestedEvolves : EvolvesNested nested) (nestedActs : ActsNested nested)
    (nestedCounts : CountsNested nested) (uses : before.hosts.UsesExampleVm)
    (method : HostMethod) :
    (carryOut nested (MockContext.hosting () method)).Ensures before (MethodCounts before) := by
  intro ending after finished
  cases hosting_serves nested before method ending after finished with
  | still =>
      cases ending with
      | returned answer => exact .refl before
      | faulted fault => exact ⟨[], Process.since_nil rfl⟩
  | changed answer =>
      refine ⟨_, Process.since_changedAll before _, fun _ => ⟨[], .changeEvents _, ?_⟩⟩
      rw [Process.changedAll_world]
      exact .applyAll (method.isCount_changes _)
  | @called message ending after =>
      exact call_counts nestedEvolves nestedActs nestedCounts uses message ending after finished

/-- The account that a successful creation answers with is the end of the hash of what
the message hashes in the world in which it was sent. -/
theorem CallEnds.createAddress_eq {result : ExecutionResult}
    (ends : CallEnds nested before message (.returned result) after)
    (creates : message.kind.isCreate = true) (succeeded : result.isSuccess = true) :
    result.createAddress =
      some (.leftPadded 20 (keccak256 (message.preimage before.hosts.world)).toList) := by
  cases ends with
  | unserved failed =>
      rw [failed] at succeeded
      cases succeeded
  | framed _ frame =>
      cases frame with
      | unpaid => cases succeeded
      | undone _ _ failed =>
          rw [failed] at succeeded
          cases succeeded
      | kept =>
          rw [Message.answered, if_pos creates]
          exact congrArg some (Message.target_eq creates _)

end MockAction

section Executions

variable {nested : Executor Unit Nat (MockContext Nat)}

theorem deliver_counts (nestedEvolves : EvolvesNested nested) (nestedActs : ActsNested nested)
    (nestedCounts : CountsNested nested) {handle : Nat} {request : Request}
    {process : MockProcess} (uses : process.hosts.UsesExampleVm) :
    (deliver MockContext.hosting nested handle request).Ensures process fun _ after =>
      process.Counts after := by
  have requested : process.Counts (process.journaled (.requested request.name handle)) :=
    .journaled rfl process
  refine ensures_deliver (requested.trans (.journaled rfl _))
    (fun error _ => requested.trans (.journaled rfl _)) ?_
  intro host delivery _ decoded
  let announced := (process.journaled (.requested request.name handle)).announced delivery.method
  have announcing : process.Counts announced := by
    refine requested.trans (.of_events (fun event member => ?_)
      (Process.since_announced _ delivery.method) (Process.announced_hosts _ _))
    obtain ⟨inner, rfl⟩ := Process.mem_announcing member
    rfl
  have usesAnnounced : announced.hosts.UsesExampleVm := by simpa [announced] using uses
  refine (MockAction.hosting_counts nestedEvolves nestedActs nestedCounts usesAnnounced
    delivery.method).imp ?_
  intro ending after counts
  cases ending with
  | returned answer => exact announcing.trans counts
  | faulted fault =>
      obtain ⟨events, since⟩ := counts
      exact announcing.trans (.parked since handle fault request.name.text)

/-- Whatever the example VM executes, the creations that survive are counted. -/
theorem execute_counts (limit : Nat) : CountsNested (execute MockContext.hosting limit) := by
  induction limit with
  | zero =>
      intro vm message code process _ _ ending after finished
      cases finished
  | succ limit ih =>
      intro vm message code process isExample uses
      obtain ⟨provider, executes⟩ := isExample.executes
      rw [execute, ensures_executeWith executes]
      let holds (middle : MockProcess) : Prop :=
        process.Counts middle ∧ middle.hosts.UsesExampleVm
      have start : holds (process.begun vm (ExampleVm.nativeExecute provider) () message code) := by
        refine ⟨.of_events (fun event member => ?_) (process.since_begun vm _ () message code) rfl,
          uses⟩
        rcases Process.mem_beginning member with rfl | rfl | ⟨_, _, _, _, rfl⟩ <;> rfl
      have noted (middle : MockProcess) (event : NativeEvent) (held : holds middle) :
          holds (middle.journaled event.val) :=
        ⟨held.1.trans (.journaled event.byHost_eq_false middle), held.2⟩
      have obeys := ExampleVm.execute_obeys provider (process.privateState vm)
        process.registry.nextHandle message code
      refine (runNative_keeps noted ?_ obeys start).imp ?_
      · intro middle handle request asked held answer after answered
        have counts := deliver_counts (execute_evolves limit) (execute_acts limit) ih held.2
          answer after answered
        have evolves := deliver_evolves (execute_evolves limit) asked held.2 answer after answered
        exact ⟨held.1.trans counts, evolves.usesExampleVm held.2⟩
      · rintro native middle ⟨_, counts, _⟩
        refine counts.trans (.of_events (fun event member => ?_)
          (middle.since_concluded process.registry.nextHandle native)
          (middle.concluded_hosts _ native))
        rcases Process.mem_concluding member with rfl | ⟨_, rfl⟩ | rfl | rfl <;> rfl

end Executions

/-- Unless a host failed between two states, the nonces have grown by the creations
that survive.  Of one account these used different nonces, and none hashed the same
bytes as another. -/
def Process.NumbersCreations (before after : MockProcess) : Prop :=
  ∃ events, before.Since after events ∧ (Event.Faultless events →
    ∃ creations : List Creation,
      Event.survivingCreations events = creations.map Creation.accounts ∧
        before.hosts.world.Counts creations after.hosts.world ∧
        (creations.Pairwise fun first second =>
          first.sender = second.sender → first.nonce ≠ second.nonce) ∧
        (∀ creation ∈ creations, creation.preimage.length = 28) ∧
        (creations.map Creation.preimage).Nodup)

theorem Process.Counts.numbersCreations {before after : MockProcess}
    (counts : before.Counts after) : before.NumbersCreations after := by
  obtain ⟨events, since, counted⟩ := counts
  refine ⟨events, since, fun faultless => ?_⟩
  obtain ⟨creations, founds, counts⟩ := counted faultless
  refine ⟨creations, founds.survivingCreations_eq, counts, ?_,
    fun creation _ => creation.length_preimage, counts.nodup_preimages⟩
  refine counts.increasing.imp fun {first second} increases same equal => ?_
  have less := increases same
  rw [equal] at less
  exact UInt64.lt_irrefl _ less

/-- What creations hash tells them apart: without a salt the sender and its nonce, with
one the sender, the salt and the hash of the code, and the two kinds by its size. -/
structure Message.TellsApart (message other : Message) : Prop where
  of_create : message.kind = .create → other.kind = .create → ∀ world world',
    (message.preimage world).length = 28 ∧
      (message.preimage world = other.preimage world' ↔
        message.sender = other.sender ∧
          world.nonce message.sender = world'.nonce other.sender)
  of_create2 : message.kind = .create2 → other.kind = .create2 → ∀ world world',
    message.preimage world = other.preimage world' ↔
      message.sender = other.sender ∧ message.salt = other.salt ∧
        keccak256 message.input = keccak256 other.input
  of_both : message.kind = .create → other.kind = .create2 → ∀ world world',
    message.preimage world ≠ other.preimage world'

theorem Message.tellsApart (message other : Message) : message.TellsApart other where
  of_create plain plain' world world' := by
    refine ⟨length_preimage_of_create plain world, ?_⟩
    rw [preimage_of_create plain, preimage_of_create plain', Creation.preimage_inj, creation,
      creation, Creation.mk.injEq]
  of_create2 := preimage_eq_iff_of_create2
  of_both := preimage_ne

namespace MockContext

/-- Executions end, and if no host fails, the nonce of every account grows by the
number of its creations that survive.  These used different nonces and hashed
different bytes.  Wherever a nested message is served on the way, the same holds of
its part of the execution, its frame is closed with whether it succeeded, and a
creation that succeeds answers with the account at the end of the hash. -/
theorem run_numbersCreations (limit : Nat) (message : Message) (before : MockProcess)
    (uses : before.hosts.UsesExampleVm) :
    (message.spendableGas < limit → (run limit message).Finishes before) ∧
      ((run limit message).Ensures before fun _ after => before.NumbersCreations after) ∧
      (∀ (inner : Message) (middle : MockProcess), middle.hosts.UsesExampleVm →
        (carryOut (VmBridge.execute hosting limit) (MockAction.call inner)).Ensures middle
          fun ending after => ∀ result, ending = .returned result →
            middle.NumbersCreations after ∧
            ((result.isSuccess = false ∧ middle.Since after []) ∨ ∃ events,
              middle.Since after
                (.frameOpened inner :: events ++ [.frameClosed result.isSuccess])) ∧
            (inner.kind.isCreate = true → result.isSuccess = true →
              result.createAddress =
                some (.leftPadded 20 (keccak256 (inner.preimage middle.hosts.world)).toList))) ∧
      ∀ first second : Message, first.TellsApart second := by
  refine ⟨run_finishes uses, ?_, ?_, Message.tellsApart⟩
  · cases found : before.hosts.vm with
    | none =>
        rw [Bridge.ensures_of_apply (run_of_no_vm found)]
        exact (Process.Counts.refl before).numbersCreations
    | some vm =>
        rw [Bridge.ensures_congr (run_of_vm found)]
        exact (execute_counts limit vm message _ before (uses vm found) uses).imp
          fun _ _ counts => counts.numbersCreations
  · rintro inner middle usesMiddle _ after finished result rfl
    have ends := MockAction.call_ends _ middle inner _ after finished
    have counts : middle.Counts after :=
      MockAction.call_counts (execute_evolves limit) (execute_acts limit) (execute_counts limit)
        usesMiddle inner _ after finished
    have closes := ends.closes (execute_evolves limit) usesMiddle result rfl
    exact ⟨counts.numbersCreations, closes, ends.createAddress_eq⟩

/-- An account whose code creates another one, in whose code it is called again. -/
def creatingWithin : MockContext Nat :=
  onExampleVm [
    (.ofNat 20 1, .running [
      .plainCall .create (.zero 20) 100 (Command.plainCall .call (.ofNat 20 1) 100 []).encode])]

/-- With gas for five commands the third creation fails, and the first two, of which
the second happens within the first, survive. -/
theorem run_creatingWithin :
    (run 6 (.calling (.ofNat 20 1) 5)).Finishes (.initial creatingWithin) ∧
      (run 6 (.calling (.ofNat 20 1) 5)).Ensures (.initial creatingWithin) fun _ after =>
        (after.hosts.world.nonce (.ofNat 20 1)).toNat = 2 ∧
          ∃ first second : Creation,
            first.sender = .ofNat 20 1 ∧ second.sender = .ofNat 20 1 ∧
              first.preimage ≠ second.preimage := by
  obtain ⟨finishes, numbers, _⟩ := run_numbersCreations 6 (.calling (.ofNat 20 1) 5)
    (.initial creatingWithin) (usesExampleVm_onExampleVm _)
  refine ⟨finishes (by decide), fun ending after finished => ?_⟩
  have journal :
      ((run 6 (.calling (.ofNat 20 1) 5) (.initial creatingWithin)).map fun result =>
        (result.2.journal.reverse.all (·.hostFault?.isNone),
          (Event.survivingCreations result.2.journal.reverse).map Prod.fst)) =
      some (true, [.ofNat 20 1, .ofNat 20 1]) := by decide +kernel
  obtain ⟨events, since, numbered⟩ := numbers ending after finished
  rw [finished, Option.map_some, Option.some.injEq, Prod.mk.injEq, since.reverse_journal rfl,
    List.all_eq_true] at journal
  obtain ⟨faultless, creators⟩ := journal
  obtain ⟨creations, survivors, counts, _, _, distinct⟩ :=
    numbered fun event member => Option.isNone_iff_eq_none.mp (faultless event member)
  rw [survivors, List.map_map] at creators
  have senders : creations.map Creation.sender = [.ofNat 20 1, .ofNat 20 1] := creators
  obtain ⟨first, rest, rfl, first_eq, rest_eq⟩ := List.map_eq_cons_iff.mp senders
  obtain ⟨second, rest, rfl, second_eq, rest_eq⟩ := List.map_eq_cons_iff.mp rest_eq
  obtain rfl := List.map_eq_nil_iff.mp rest_eq
  refine ⟨?_, first, second, first_eq, second_eq, ?_⟩
  · have fresh : (creatingWithin.world.nonce (.ofNat 20 1)).toNat = 0 := by decide +kernel
    have total := counts.nonce_eq (.ofNat 20 1)
    change _ = (creatingWithin.world.nonce _).toNat + _ at total
    simpa [fresh, first_eq, second_eq] using total
  · simpa using distinct

end MockContext

end VmBridge
