import VmBridge.Proofs.FirstFault

/-!
# What an unsuccessful nested message leaves behind

A mock context takes the changes of a nested message back when the message
returns without success.  When a host fails on the way, nothing returns: the
fault passes by the place where the changes are taken back, and the callback is
refused with an internal error.  `deliver_call_restores` says that the world is
restored as long as no host fails, and `deliver_call_abandoned` shows what a
failure leaves behind.
-/

namespace VmBridge

open HostAction

theorem Request.call_of_decode {pointer : Option NativeMessage}
    {delivery : (Request.call pointer).Delivery}
    (decoded : (Request.call pointer).decode = .ok delivery) :
    ∃ native message, pointer = some native ∧ native.toMessage = .ok message ∧
      delivery = ⟨.call message, ExecutionResult.toNative⟩ := by
  cases pointer with
  | none => cases decoded
  | some native =>
      cases read : native.toMessage with
      | error kind =>
          simp [decode, followMessage, follow, read, bind, Except.bind] at decoded
      | ok message =>
          simp only [decode, followMessage, follow, read, bind, pure, Except.bind, Except.pure,
            Except.ok.injEq] at decoded
          exact ⟨native, message, rfl, read, decoded.symm⟩

theorem NativeMessage.gas_of_toMessage {native : NativeMessage} {message : Message}
    (read : native.toMessage = .ok message) : message.gas = native.gas := by
  rw [toMessage] at read
  cases known : CallKind.ofRaw native.kind with
  | error raw => simp [known, Except.map] at read
  | ok kind =>
      simp only [known, Except.map, Except.ok.injEq] at read
      rw [← read]

namespace MockContext

/-- What a callback for a nested message leaves behind while some events happen. -/
structure CallSettles (before : MockProcess) (answer : NativeResult) (after : MockProcess)
    (events : List Event) : Prop where
  since : before.Since after events
  /-- As long as no host fails, only a success changes the world. -/
  restores : Event.firstFault? events = none → answer.status ≠ StatusCode.success.raw →
    after.hosts.world = before.hosts.world
  refuses : Event.firstFault? events ≠ none → answer = ExecutionResult.internalError.toNative

variable {limit handle : Nat} {pointer : Option NativeMessage} {before : MockProcess}

/-- A callback that does not reach its host changes nothing. -/
theorem refused_settles (error : CallbackError) :
    ∃ events, CallSettles before ExecutionResult.internalError.toNative
      ((before.journaled (.requested .call handle)).refused handle error) events :=
  ⟨_, (Process.since_journaled before (.requested .call handle)).append
    (Process.since_journaled _ (.refused handle error)), fun _ _ => rfl, fun _ => rfl⟩

theorem deliver_call_settles (uses : before.hosts.UsesExampleVm) :
    (deliver hosting (VmBridge.execute hosting limit) handle (.call pointer)).Ensures before
      fun answer after => ∃ events, CallSettles before answer after events := by
  refine ensures_deliver (refused_settles _) (fun error _ => refused_settles error) ?_
  intro host delivery _ decoded
  obtain ⟨native, message, -, -, rfl⟩ := Request.call_of_decode decoded
  let announced := (before.journaled (.requested .call handle)).announced (.call message)
  have front : before.Since announced [.requested .call handle, .nestedCall message] := rfl
  have quiet : Event.firstFault? [.requested .call handle, .nestedCall message] = none := rfl
  intro ending after served
  have ends := MockAction.call_ends _ announced message ending after served
  have asked : Actor.outsider.MayAsk (.call message) := trivial
  have usesAnnounced : announced.hosts.UsesExampleVm := uses
  have restores := (ends.evolves (execute_evolves limit) usesAnnounced asked).2
  obtain ⟨events, since, _, first⟩ := ends.relays (execute_relays limit) usesAnnounced
  cases ending with
  | returned result =>
      have none_first : Event.firstFault? events = none := by simpa [Ending.fault?] using first
      refine ⟨_, front.append since, fun _ unsuccessful => restores ?_, fun failed => ?_⟩
      · refine Bool.eq_false_iff.mpr fun succeeded => unsuccessful ?_
        rw [ExecutionResult.isSuccess, StatusCode.isSuccess, beq_iff_eq] at succeeded
        exact congrArg StatusCode.raw succeeded
      · rw [Event.firstFault?_append, quiet, none_first] at failed
        exact absurd rfl failed
  | faulted fault =>
      have reported : after.Since (after.parked handle fault "call")
          [.refused handle (.hostFaulted fault "call")] := rfl
      refine ⟨_, (front.append since).append reported, fun none_first => ?_, fun _ => rfl⟩
      rw [Event.firstFault?_append, Option.or_eq_none_iff] at none_first
      cases none_first.2

/-- A callback for a nested message comes to an end.  As long as no host fails, the
world is as it was before unless the message succeeded; after a failure the
callback is answered with an internal error. -/
theorem deliver_call_restores (limit handle : Nat) (pointer : Option NativeMessage)
    (before : MockProcess) (uses : before.hosts.UsesExampleVm) :
    ((∀ native, pointer = some native → native.gas.toInt.toNat < limit) →
        (deliver hosting (VmBridge.execute hosting limit) handle (.call pointer)).Finishes
          before) ∧
      (deliver hosting (VmBridge.execute hosting limit) handle (.call pointer)).Ensures before
        fun answer after => ∃ events, CallSettles before answer after events := by
  refine ⟨fun enough => ?_, deliver_call_settles uses⟩
  refine finishes_deliver fun host delivery _ decoded => ?_
  obtain ⟨native, message, found, read, rfl⟩ := Request.call_of_decode decoded
  refine MockAction.hosting_finishes (execute_finishes limit) (by simpa using uses) ?_
  rintro _ ⟨⟩
  rw [Message.spendableGas, NativeMessage.gas_of_toMessage read]
  exact enough native found

/-- A mock context that is registered under the first handle. -/
def hosted (context : MockContext Nat) : MockProcess :=
  { (Process.initial context : MockProcess) with registry := Registry.empty.register () }

/-- A context in which no balance can be read.  The code of its account writes a
slot and reverts if it is asked to, or else asks for a balance. -/
def unreadable (commands : List Command) : MockContext Nat :=
  { onExampleVm [(.ofNat 20 1,
      .running (.storeSlot (.ofNat 32 1) (.ofNat 32 7) :: commands))] with
    faultIn := some .getBalance }

/-- Code that writes a slot and reverts leaves nothing behind. -/
theorem deliver_call_reverting :
    let message := (Message.calling (.ofNat 20 1) 10).toNative
    let before := hosted (unreadable [.revert])
    let callback := deliver hosting (VmBridge.execute hosting 11) 1 (.call (some message))
    callback.Finishes before ∧ callback.Ensures before fun answer after =>
      answer.status = StatusCode.revert.raw ∧ after.hosts.world = before.hosts.world := by
  have uses : (hosted (unreadable [.revert])).hosts.UsesExampleVm := by
    intro vm found
    cases found
    exact ExampleVm.isExample_bundled
  obtain ⟨finishes, settles⟩ := deliver_call_restores 11 1
    (some (Message.calling (.ofNat 20 1) 10).toNative) (hosted (unreadable [.revert])) uses
  refine ⟨finishes ?_, fun answer after finished => ?_⟩
  · rintro _ ⟨⟩
    decide
  · have run : ((deliver hosting (VmBridge.execute hosting 11) 1
        (.call (some (Message.calling (.ofNat 20 1) 10).toNative))
        (hosted (unreadable [.revert]))).map fun result =>
          (result.1.status, Event.firstFault? result.2.journal.reverse)) =
        some (StatusCode.revert.raw, none) := by decide +kernel
    obtain ⟨events, settled⟩ := settles answer after finished
    have events_eq := settled.since.reverse_journal rfl
    rw [finished, Option.map_some, Option.some.injEq, Prod.mk.injEq, events_eq] at run
    obtain ⟨status_eq, faultless⟩ := run
    refine ⟨status_eq, settled.restores faultless ?_⟩
    rw [status_eq]
    decide

/-- Code that writes a slot and then meets a failing host leaves the slot written,
although the callback is answered with an internal error. -/
theorem deliver_call_abandoned :
    ∃ answer after,
      deliver hosting (VmBridge.execute hosting 11) 1
          (.call (some (Message.calling (.ofNat 20 1) 10).toNative))
          (hosted (unreadable [.balance (.ofNat 20 1)])) = some (answer, after) ∧
        answer.status = StatusCode.internalError.raw ∧
        after.hosts.world.slot (.ofNat 20 1) (.ofNat 32 1) = .ofNat 32 7 ∧
        (unreadable [.balance (.ofNat 20 1)]).world.slot (.ofNat 20 1) (.ofNat 32 1) =
          .zero 32 := by
  have run : ((deliver hosting (VmBridge.execute hosting 11) 1
      (.call (some (Message.calling (.ofNat 20 1) 10).toNative))
      (hosted (unreadable [.balance (.ofNat 20 1)]))).map fun result =>
        (result.1.status, result.2.hosts.world.slot (.ofNat 20 1) (.ofNat 32 1))) =
      some (StatusCode.internalError.raw, .ofNat 32 7) := by decide +kernel
  rw [Option.map_eq_some_iff] at run
  obtain ⟨⟨answer, after⟩, finished, both⟩ := run
  rw [Prod.mk.injEq] at both
  exact ⟨answer, after, finished, both.1, both.2, by decide +kernel⟩

end MockContext

end VmBridge
