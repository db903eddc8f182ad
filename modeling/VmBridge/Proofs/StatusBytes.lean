import VmBridge.Proofs.CallCommands

/-!
# What a status byte tells

Behind a call command stands the lowest byte of the status of the nested message.  All
statuses with a name have different lowest bytes from that of a success.  A VM may also
end with a number that has no name, and the context keeps the whole number when it
decides on the changes of the message.  The byte is zero for a success and for the
unnamed multiples of 256: `statusByte_eq_zero_iff`.
-/

namespace VmBridge

open HostAction

/-- A status other than success has the lowest byte of a success. -/
def StatusCode.Misleads (status : StatusCode) : Prop :=
  ∃ raw, status = .unknown raw ∧ 256 ∣ raw.toInt

theorem statusByte_eq_zero_iff_dvd (raw : Int32) : statusByte raw = 0 ↔ 256 ∣ raw.toInt := by
  have byte_eq : (statusByte raw).toNat = raw.toUInt32.toNat % 256 := UInt32.toNat_toUInt8 _
  have signed : raw.toInt =
      if 2 * raw.toUInt32.toNat < 2 ^ 32 then (raw.toUInt32.toNat : Int)
      else raw.toUInt32.toNat - 2 ^ 32 :=
    BitVec.toInt_eq_toNat_cond raw.toBitVec
  rw [← UInt8.toNat_inj, byte_eq, signed, UInt8.toNat_zero]
  split <;> omega

/-- The lowest byte of a status is zero for a success, and for the numbers without a
name that it cannot tell from one. -/
theorem statusByte_eq_zero_iff (status : StatusCode) :
    statusByte status.raw = 0 ↔ status.isSuccess = true ∨ status.Misleads := by
  cases status with
  | unknown raw =>
      have unsuccessful : (StatusCode.unknown raw).isSuccess = false := rfl
      have misleads_iff : (StatusCode.unknown raw).Misleads ↔ 256 ∣ raw.toInt := by
        simp [StatusCode.Misleads]
      rw [unsuccessful, misleads_iff, ← statusByte_eq_zero_iff_dvd]
      simp [StatusCode.raw]
  | _ =>
      rw [or_iff_left (by simp [StatusCode.Misleads])]
      decide

namespace CallCommand

variable {ν : Type}

/-- A command has reported the result with which the context answered its message, and
the context has decided on the changes of the message. -/
structure Reports (nested : Executor Unit ν (MockContext ν)) (frame : Frame) (gasLeft : Int)
    (call : CallCommand) (before : Process Unit ν (MockContext ν)) (result : ExecutionResult)
    (progress : Progress) (after : Process Unit ν (MockContext ν)) : Prop where
  served : ∃ served, call.Served nested frame gasLeft before (.returned result) served ∧
    after = served.released result.toNative
  progress_eq : progress = call.progress gasLeft result.toNative
  /-- The first byte is zero exactly for a success or a number that looks like one. -/
  byte : progress.appended.head? = some 0 ↔ result.isSuccess = true ∨ result.status.Misleads
  kept : result.isSuccess = true →
    MockAction.Kept nested ((call.asked frame gasLeft before).withCall (call.message frame gasLeft))
      (call.message frame gasLeft) result after.hosts.world
  undone : result.isSuccess = false → after.hosts.world = before.hosts.world

/-- Unless a host fails, every command that is permitted reports a result, and its byte
tells whether the changes were kept unless the status misleads.  The VM of the
context may be any. -/
theorem perform_reports (limit : Nat) (frame : Frame) (gasLeft : Int) (call : CallCommand)
    (before : Process Unit ν (MockContext ν))
    (live : before.registry.resolve frame.handle = some ())
    (shallow : frame.message.depth < maxCallDepth) :
    (runNative MockContext.hosting (execute MockContext.hosting limit)
        (perform frame gasLeft call.command).run).Ensures before fun ending after =>
      (¬call.Violates frame → frame.table .call = true → ∃ progress, ending = .ok progress) ∧
        ∃ events, before.Since after events ∧
          (Event.firstFault? events = none → ∀ progress, ending = .ok progress →
            ∃ result, call.Reports (execute MockContext.hosting limit) frame gasLeft before result
              progress after) := by
  refine (perform_ends (execute_keeps _ limit) live).imp ?_
  rintro ending after ⟨events, ends⟩
  have since := ends.since
  cases ends with
  | refused violates => exact ⟨fun permitted => absurd violates permitted, [], since, nofun⟩
  | unmade _ deep => exact absurd shallow (Int32.not_lt.mpr deep)
  | unanswerable empty => exact ⟨fun _ filled => by simp [empty] at filled, [], since, nofun⟩
  | contained =>
      refine ⟨fun _ _ => ⟨_, rfl⟩, _, since, fun faultless => ?_⟩
      rw [Event.firstFault?_append, Option.or_eq_none_iff] at faultless
      cases faultless.2
  | @answered result served _ _ finished =>
      refine ⟨fun _ _ => ⟨_, rfl⟩, _, since, fun _ => ?_⟩
      rintro _ ⟨⟩
      have settled := MockAction.call_settles (MockAction.execute_appendsLogs limit)
        (call.message frame gasLeft) _ served finished result rfl
      have byte : (call.progress gasLeft result.toNative).appended.head? = some 0 ↔
          result.isSuccess = true ∨ result.status.Misleads := by
        rw [ExecutionResult.isSuccess, ← statusByte_eq_zero_iff]
        exact Option.some_inj
      exact ⟨result, {
        served := ⟨served, finished, rfl⟩
        progress_eq := rfl
        byte := byte
        kept := settled.1
        undone := settled.2 }⟩

end CallCommand

/-- A VM that writes a slot of the second account, whatever it is asked to execute, and
ends with some status. -/
def writingVm (raw : Int32) : Vm Unit where
  identity := 0
  native :=
    { provider := .bundled
      interfaceVersion := interfaceVersion
      name := none
      version := none
      initial := ()
      hasDestroy := true
      capabilities := none
      setOption := none
      execute := some fun state arguments =>
        (state, .ask arguments.handle
          (.setStorage (some (.ofNat 20 2)) (some (.ofNat 32 1)) (some (.ofNat 32 7)))
          fun _ => .done ⟨raw, 0, 0, .null 0, none, .zero 20⟩) }
  library := none

/-- A context without accounts that executes on this VM and is registered under the first
handle. -/
def onWritingVm (raw : Int32) : Process Unit Unit (MockContext Unit) :=
  let context : MockContext Unit :=
    .new .empty MockContext.defaultTxContext (some (writingVm raw))
  { (Process.initial context : Process Unit Unit (MockContext Unit)) with
    registry := Registry.empty.register () }

/-- A frame of the first account that calls back under this handle. -/
def callingFrame : Frame :=
  ⟨fullTable, 1, (Message.calling (.ofNat 20 1) 10).toNative, 0⟩

def callingSecond : CallCommand := ⟨.call, .ofNat 20 2, 5, .zero 32, .zero 32, []⟩

/-- The command of the frame, as a computation of the bridge. -/
def performCalling :
    Bridge Unit Unit (MockContext Unit) (Except StatusCode Progress) :=
  runNative MockContext.hosting (execute MockContext.hosting 1)
    (perform callingFrame 9 callingSecond.command).run

/-- The number of a named status stands behind the command, and the slot is not kept. -/
theorem performCalling_outOfGas :
    let before := onWritingVm StatusCode.outOfGas.raw
    before.registry.resolve callingFrame.handle = some () ∧
      callingFrame.message.depth < maxCallDepth ∧
      ∃ progress after, performCalling before = some (.ok progress, after) ∧
        progress.appended = [3] ∧ after.hosts.world = before.hosts.world := by
  intro before
  have live : before.registry.resolve callingFrame.handle = some () := rfl
  have shallow : callingFrame.message.depth < maxCallDepth := by decide
  have run : ((performCalling before).map fun ended =>
      (ended.1.toOption.map Progress.appended, Event.firstFault? ended.2.journal.reverse)) =
      some (some [3], none) := by decide +kernel
  rw [Option.map_eq_some_iff] at run
  obtain ⟨⟨ending, after⟩, finished, both⟩ := run
  cases ending with
  | error status => cases both
  | ok progress =>
      rw [Prod.mk.injEq] at both
      obtain ⟨appended, faultless⟩ := both
      replace appended : progress.appended = [3] := Option.some.inj appended
      obtain ⟨_, events, since, reports⟩ :=
        CallCommand.perform_reports 1 callingFrame 9 callingSecond before live shallow _ after
          finished
      rw [since.reverse_journal rfl] at faultless
      obtain ⟨result, reported⟩ := reports faultless progress rfl
      refine ⟨live, shallow, progress, after, finished, appended, reported.undone ?_⟩
      refine Bool.eq_false_iff.mpr fun succeeded => ?_
      have zero := reported.byte.mpr (Or.inl succeeded)
      rw [appended] at zero
      exact absurd zero (by decide)

/-- A status without a name reads as a success behind the command, although the slot
that the VM wrote is not kept. -/
theorem performCalling_misled :
    let before := onWritingVm 256
    ∃ progress after, performCalling before = some (.ok progress, after) ∧
      Event.firstFault? after.journal.reverse = none ∧
      progress.appended.head? = some 0 ∧
      after.hosts.world.slot (.ofNat 20 2) (.ofNat 32 1) = .zero 32 ∧
      ∃ result served,
        callingSecond.Served (execute MockContext.hosting 1) callingFrame 9 before
            (.returned result) served ∧
          result.status = .unknown 256 ∧ result.isSuccess = false := by
  intro before
  have run : ((performCalling before).map fun ended =>
      (ended.1.toOption.map Progress.appended, Event.firstFault? ended.2.journal.reverse,
        ended.2.hosts.world.slot (.ofNat 20 2) (.ofNat 32 1))) =
      some (some [0], none, .zero 32) := by decide +kernel
  have answer : (carryOut (execute MockContext.hosting 1)
      (MockContext.hosting () (.call (callingSecond.message callingFrame 9)))
      (callingSecond.asked callingFrame 9 before)).map Prod.fst =
      some (.returned ⟨.unknown 256, 0, 0, [], none⟩) := by decide +kernel
  rw [Option.map_eq_some_iff] at run answer
  obtain ⟨⟨ending, after⟩, finished, all⟩ := run
  obtain ⟨⟨_, served⟩, carried, rfl⟩ := answer
  cases ending with
  | error status => cases all
  | ok progress =>
      rw [Prod.mk.injEq, Prod.mk.injEq] at all
      obtain ⟨appended, faultless, slot_eq⟩ := all
      replace appended : progress.appended = [0] := Option.some.inj appended
      exact ⟨progress, after, finished, faultless, by rw [appended]; rfl, slot_eq, _, served,
        carried, rfl, rfl⟩

end VmBridge
