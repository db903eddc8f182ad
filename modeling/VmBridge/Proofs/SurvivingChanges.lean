import VmBridge.Proofs.ExecutionTermination

/-!
# The changes that survive

A nested message that does not succeed takes back what happened in its frame,
also what nested messages in it had already kept.  `survivingChanges` reads
off a journal which changes are not taken back: those for which every frame
around them was closed with success.  When no host fails, the world after an
execution is the initial one with exactly these changes.
-/

namespace VmBridge

open HostAction

namespace Event

/-- The verdicts on the frames that are open when some events begin, the
innermost first.  The number counts the frames that were opened since. -/
def verdicts : Nat → List Event → List Bool
  | _, [] => []
  | nesting, .frameOpened _ :: rest => verdicts (nesting + 1) rest
  | 0, .frameClosed kept :: rest => kept :: verdicts 0 rest
  | nesting + 1, .frameClosed _ :: rest => verdicts nesting rest
  | nesting, _ :: rest => verdicts nesting rest

/-- All frames that are open when some events begin are kept in the end. -/
def keepsFrames (events : List Event) : Bool := (verdicts 0 events).all id

/-- The changes that are not taken back, in the order in which they happened. -/
def survivingChanges : List Event → List Change
  | [] => []
  | .worldChanged change :: rest =>
      if keepsFrames rest then change :: survivingChanges rest else survivingChanges rest
  | _ :: rest => survivingChanges rest

/-- Some events leave the frames around them as they are, and of their changes
exactly some survive unless a frame around them is undone. -/
structure Settle (events : List Event) (changes : List Change) : Prop where
  verdicts_append : ∀ nesting later, verdicts nesting (events ++ later) = verdicts nesting later
  surviving_append : ∀ later, survivingChanges (events ++ later) =
    (if keepsFrames later then changes else []) ++ survivingChanges later

namespace Settle

variable {events others : List Event} {changes more : List Change}

theorem keepsFrames_append (settle : Settle events changes) (later : List Event) :
    keepsFrames (events ++ later) = keepsFrames later := by
  rw [keepsFrames, settle.verdicts_append, keepsFrames]

/-- On their own the events are under no frame that could be undone. -/
theorem survivingChanges_eq (settle : Settle events changes) :
    survivingChanges events = changes := by
  have alone := settle.surviving_append []
  rw [List.append_nil] at alone
  exact alone.trans (List.append_nil changes)

theorem nil : Settle [] [] where
  verdicts_append _ _ := rfl
  surviving_append later := by simp

theorem append (first : Settle events changes) (second : Settle others more) :
    Settle (events ++ others) (changes ++ more) where
  verdicts_append nesting later := by
    rw [List.append_assoc, first.verdicts_append, second.verdicts_append]
  surviving_append later := by
    rw [List.append_assoc, first.surviving_append, second.surviving_append,
      second.keepsFrames_append]
    split <;> simp

/-- What happens outside of the context settles nothing. -/
theorem elsewhere {event : Event} (outside : event.byHost = false) : Settle [event] [] := by
  constructor
  · intro nesting later
    cases event <;> first | (cases nesting <;> rfl) | cases outside
  · intro later
    rw [ite_self]
    cases event <;> first | rfl | cases outside

theorem change (content : Change) : Settle [.worldChanged content] [content] where
  verdicts_append nesting later := by cases nesting <;> rfl
  surviving_append later := by
    change (if keepsFrames later then _ else _) = _
    split <;> rfl

theorem changeEvents (changes : List Change) : Settle (changeEvents changes) changes := by
  induction changes with
  | nil => exact nil
  | cons content changes ih => exact (change content).append ih

/-- A frame that is kept hands its changes on to the frame around it. -/
theorem kept (inner : Settle events changes) (message : Message) :
    Settle (.frameOpened message :: events ++ [.frameClosed true]) changes where
  verdicts_append nesting later := by
    change verdicts (nesting + 1) (events ++ [.frameClosed true] ++ later) = _
    rw [List.append_assoc, inner.verdicts_append]
    rfl
  surviving_append later := by
    change survivingChanges (events ++ [.frameClosed true] ++ later) = _
    rw [List.append_assoc, inner.surviving_append]
    rfl

/-- Of a frame that is undone nothing survives. -/
theorem undone (inner : Settle events changes) (message : Message) :
    Settle (.frameOpened message :: events ++ [.frameClosed false]) [] where
  verdicts_append nesting later := by
    change verdicts (nesting + 1) (events ++ [.frameClosed false] ++ later) = _
    rw [List.append_assoc, inner.verdicts_append]
    rfl
  surviving_append later := by
    change survivingChanges (events ++ [.frameClosed false] ++ later) = _
    rw [List.append_assoc, inner.surviving_append]
    simp [keepsFrames, verdicts, survivingChanges]

end Settle

end Event

/-- If no host fails, a world evolves by the changes that survive. -/
theorem World.Evolves.settle {actor : Actor} {before after : World} {events : List Event}
    (evolves : World.Evolves actor before events after)
    (faultless : ∀ event ∈ events, event.hostFault? = none) :
    ∃ changes, Event.Settle events changes ∧ after = before.applyAll changes := by
  induction evolves with
  | rest => exact ⟨[], .nil, rfl⟩
  | @append _ first _ _ earlier later _ _ start finish =>
      obtain ⟨changes, settle, rfl⟩ := start fun event member =>
        faultless event (List.mem_append_left later member)
      obtain ⟨more, settle', rfl⟩ := finish fun event member =>
        faultless event (List.mem_append_right earlier member)
      exact ⟨changes ++ more, settle.append settle', (first.applyAll_append changes more).symm⟩
  | event outside => exact ⟨[], .elsewhere outside, rfl⟩
  | @change _ _ change => exact ⟨[change], .change change, rfl⟩
  | @kept _ world _ message inner output _ _ _ ih =>
      obtain ⟨changes, settle, rfl⟩ := ih fun event member => faultless event (by simp [member])
      have whole := ((Event.Settle.changeEvents (message.opening world)).append settle).append
        (.changeEvents (message.closing world output))
      refine ⟨_, whole.kept message, ?_⟩
      rw [World.applyAll_append, World.applyAll_append]
  | @undone _ world _ message inner _ _ _ ih =>
      obtain ⟨changes, settle, _⟩ := ih fun event member => faultless event (by simp [member])
      exact ⟨[], ((Event.Settle.changeEvents (message.opening world)).append settle).undone message,
        rfl⟩
  | @unpaid _ world message =>
      exact ⟨[], (Event.Settle.changeEvents message.counting).undone message, rfl⟩
  | abandoned handle fault function =>
      have reported := faultless (.refused handle (.hostFaulted fault function)) (by simp)
      cases reported
  | overflown handle fault function =>
      have reported := faultless (.refused handle (.hostFaulted fault function)) (by simp)
      cases reported

namespace MockAction

variable {nested : Executor Unit Nat (MockContext Nat)} {before after : MockProcess} {vm : Vm Nat}
  {message : Message} {ending : Ending ExecutionResult}

/-- A frame is closed with whether its message succeeded. -/
theorem FrameEnds.closes (nestedEvolves : EvolvesNested nested) (isExample : vm.IsExample)
    (uses : before.hosts.UsesExampleVm)
    (ends : FrameEnds nested before vm message ending after) :
    ∀ result, ending = .returned result → ∃ inner,
      before.Since after (.frameOpened message :: inner ++ [.frameClosed result.isSuccess]) := by
  have usesStarted : (startedFrom before message).hosts.UsesExampleVm :=
    sameSetting_startedFrom.usesExampleVm uses
  have nestedEnsures := nestedEvolves vm (message.started before.hosts.world)
    (message.startedCode (before.hosts.world.applyAll (message.opening before.hosts.world)))
    (startedFrom before message) isExample usesStarted
  cases ends with
  | overflown | abandoned =>
      intro result ended
      cases ended
  | unpaid =>
      rintro _ ⟨⟩
      exact ⟨_, since_unpaid⟩
  | undone _ executed unsuccessful =>
      rintro _ ⟨⟩
      obtain ⟨_, since, _⟩ := nestedEnsures _ _ executed
      rw [unsuccessful]
      exact ⟨_, since_undone since⟩
  | @kept result _ _ executed succeeded =>
      rintro _ ⟨⟩
      obtain ⟨_, since, _⟩ := nestedEnsures _ _ executed
      rw [message.isSuccess_answered, succeeded]
      exact ⟨_, since_kept since result.output⟩

/-- A nested message gets a frame that is closed with whether it succeeded, unless
it is turned down without one. -/
theorem CallEnds.closes (nestedEvolves : EvolvesNested nested)
    (uses : before.hosts.UsesExampleVm) (ends : CallEnds nested before message ending after) :
    ∀ result, ending = .returned result →
      (result.isSuccess = false ∧ before.Since after []) ∨ ∃ inner,
        before.Since after
          (.frameOpened message :: inner ++ [.frameClosed result.isSuccess]) := by
  cases ends with
  | failing =>
      intro result ended
      cases ended
  | unserved unsuccessful =>
      rintro _ ⟨⟩
      exact Or.inl ⟨unsuccessful, Process.since_nil rfl⟩
  | @framed vm _ _ found frame =>
      have usesCalled : (before.withCall message).hosts.UsesExampleVm := uses
      intro result ended
      exact Or.inr (frame.closes nestedEvolves (uses vm found) usesCalled result ended)

end MockAction

namespace MockContext

/-- Executions end, and if no host fails, they lead to the initial world with the
changes that survive.  Wherever a nested message is served on the way, its
frame is closed with whether it succeeded, and unless it did the world is as
it was before. -/
theorem run_replays_survivingChanges (limit : Nat) (message : Message) (before : MockProcess)
    (uses : before.hosts.UsesExampleVm) :
    (message.spendableGas < limit → (run limit message).Finishes before) ∧
      ((run limit message).Ensures before fun _ after =>
        ∃ events, before.Since after events ∧
          ((∀ event ∈ events, event.hostFault? = none) →
            after.hosts.world =
              before.hosts.world.applyAll (Event.survivingChanges events))) ∧
      ∀ (inner : Message) (middle : MockProcess), middle.hosts.UsesExampleVm →
        (carryOut (VmBridge.execute hosting limit) (MockAction.call inner)).Ensures middle
          fun ending after => ∀ result, ending = .returned result →
            ((result.isSuccess = false ∧ middle.Since after []) ∨ ∃ events,
              middle.Since after
                (.frameOpened inner :: events ++ [.frameClosed result.isSuccess])) ∧
            (result.isSuccess = false → after.hosts.world = middle.hosts.world) := by
  refine ⟨run_finishes uses, ?_, ?_⟩
  · refine (run_evolves uses).imp ?_
    rintro _ after ⟨events, since, evolves, _⟩
    refine ⟨events, since, fun faultless => ?_⟩
    obtain ⟨changes, settle, world_eq⟩ := evolves.settle faultless
    rw [settle.survivingChanges_eq]
    exact world_eq
  · intro inner middle usesMiddle
    have asked : Actor.outsider.MayAsk (.call inner) := trivial
    refine (MockAction.call_ends _ middle inner).imp ?_
    intro ending after ends
    have framed := ends.closes (execute_evolves limit) usesMiddle
    obtain ⟨_, restores⟩ := ends.evolves (execute_evolves limit) usesMiddle asked
    rintro result rfl
    exact ⟨framed result rfl, restores⟩

/-- A context in which the code of the first account calls a second one, which
writes a slot, and a third one, which does so and reverts. -/
def keptAndUndone : MockContext Nat :=
  onExampleVm [
    (.ofNat 20 1, .running [
      .plainCall .call (.ofNat 20 2) 10 [], .plainCall .call (.ofNat 20 3) 10 []]),
    (.ofNat 20 2, .running [.storeSlot (.ofNat 32 1) (.ofNat 32 7)]),
    (.ofNat 20 3, .running [.storeSlot (.ofNat 32 1) (.ofNat 32 7), .revert])]

/-- Of the two writes only the first survives. -/
theorem run_keptAndUndone :
    (run 101 (.calling (.ofNat 20 1) 100)).Finishes (.initial keptAndUndone) ∧
      (run 101 (.calling (.ofNat 20 1) 100)).Ensures (.initial keptAndUndone) fun _ after =>
        after.hosts.world = keptAndUndone.world.applyAll
          [.writeSlot (.ofNat 20 2) (.ofNat 32 1) (.ofNat 32 7)] := by
  obtain ⟨finishes, replays, _⟩ := run_replays_survivingChanges 101 (.calling (.ofNat 20 1) 100)
    (.initial keptAndUndone) (usesExampleVm_onExampleVm _)
  refine ⟨finishes (by decide), fun ending after finished => ?_⟩
  have journal :
      ((run 101 (.calling (.ofNat 20 1) 100) (.initial keptAndUndone)).map fun result =>
        (result.2.journal.reverse.all (·.hostFault?.isNone),
          Event.survivingChanges result.2.journal.reverse)) =
      some (true, [.writeSlot (.ofNat 20 2) (.ofNat 32 1) (.ofNat 32 7)]) := by decide +kernel
  obtain ⟨events, since, replayed⟩ := replays ending after finished
  have events_eq : after.journal.reverse = events := by
    rw [since]
    simp [Process.initial]
  rw [finished, Option.map_some, Option.some.injEq, Prod.mk.injEq, events_eq,
    List.all_eq_true] at journal
  obtain ⟨faultless, survivors⟩ := journal
  rw [survivors] at replayed
  exact replayed fun event member => Option.isNone_iff_eq_none.mp (faultless event member)

end MockContext

end VmBridge
