import VmBridge.Proofs.AssembledCode
import VmBridge.Proofs.NestedRollback

/-!
# The hashes of recent blocks

The example VM reads the number of a block as an unsigned number, hands it over as the
signed number with the same bits, and appends the hash that it is given.  The mock
context gives out the hashes of the last blocks before its own.  While its own number is
below the size of that window, the window reaches below zero, so the largest unsigned
numbers, which name no block, lie in it too: `runNative_blockHash`.
-/

namespace VmBridge

open MockContext (blockHashWindow)

/-- A number that a context at the given block takes for that of a recent block. -/
def Covers (current number : Nat) : Prop :=
  number < current ∧ current - number ≤ 256 ∨ 2 ^ 64 + current ≤ number + 256

instance (current number : Nat) : Decidable (Covers current number) :=
  inferInstanceAs (Decidable (_ ∨ _))

/-- As signed numbers with the same bits, exactly the covered numbers lie in the window
of a context whose own number is not negative. -/
theorem covers_iff {current : Int64} (young : 0 ≤ current.toInt) (number : UInt64) :
    Covers current.toInt.toNat number.toNat ↔
      number.toInt64.toInt < current.toInt ∧
        current.toInt - blockHashWindow ≤ number.toInt64.toInt := by
  have signed : number.toInt64.toInt =
      if 2 * number.toNat < 2 ^ 64 then (number.toNat : Int) else number.toNat - 2 ^ 64 :=
    BitVec.toInt_eq_toNat_cond number.toBitVec
  have small : number.toNat < 2 ^ 64 := number.toNat_lt
  have bounded : current.toInt < 2 ^ 63 := current.toInt_lt
  rw [signed, Covers, blockHashWindow]
  split <;> omega

variable {ν : Type}

/-- The word that is appended for the number of a block. -/
def MockContext.appendedHash (context : MockContext ν) (number : UInt64) : Word :=
  if context.faultIn ≠ some .getBlockHash ∧
      Covers context.txContext.blockNumber.toInt.toNat number.toNat then
    keccak256 (bytesOfUInt64 number)
  else .zero 32

section Service

variable (nested : Executor Unit ν (MockContext ν)) {before : Process Unit ν (MockContext ν)}
  (young : 0 ≤ before.hosts.txContext.blockNumber.toInt) (number : UInt64)

theorem carryOut_getState {α : Type} (next : MockContext ν → MockAction ν α) :
    HostAction.carryOut nested (HostAction.getState >>= next) before =
      HostAction.carryOut nested (next before.hosts) before := rfl

include young

/-- Unless it was told to fail, a context whose number is not negative always gives out
a hash. -/
theorem carryOut_getBlockHash :
    HostAction.carryOut nested (MockContext.hosting () (.getBlockHash number.toInt64)) before =
      some (if before.hosts.faultIn = some .getBlockHash then
          .faulted (.text "get_block_hash failed")
        else .returned (before.hosts.appendedHash number), before) := by
  change HostAction.carryOut nested (MockAction.getBlockHash number.toInt64) before = _
  rw [MockAction.getBlockHash, MockAction.carryOut_checked]
  by_cases failing : before.hosts.faultIn = some .getBlockHash
  · rw [if_pos failing, if_pos failing]
    rfl
  · have sized : ¬before.hosts.txContext.blockNumber.toInt - blockHashWindow <
        Int64.minValue.toInt := by
      rw [blockHashWindow, Int64.toInt_minValue]
      omega
    have bytes_eq : bytesOfInt64 number.toInt64 = bytesOfUInt64 number := rfl
    have gives (word : Word) :
        HostAction.carryOut nested (pure word : MockAction ν Word) before =
          some (.returned word, before) := rfl
    rw [if_neg failing, if_neg failing, carryOut_getState, MockContext.appendedHash]
    simp only [covers_iff young, sized, bytes_eq, failing, ne_eq, not_false_eq_true, true_and,
      if_false]
    split
    · rw [if_neg (by omega), gives]
    · split
      · rw [if_neg (by omega), gives]
      · rw [if_pos (by omega), gives]

/-- The hash of a block is asked for with the signed number with the same bits, and the
world is left as it is. -/
theorem deliver_getBlockHash {handle : Nat}
    (live : before.registry.resolve handle = some ()) :
    ∃ after : Process Unit ν (MockContext ν), after.hosts = before.hosts ∧
      (∀ query, after.registry.resolve query = before.registry.resolve query) ∧
      deliver MockContext.hosting nested handle (.getBlockHash number.toInt64) before =
        some (before.hosts.appendedHash number, after) := by
  let delivery : (Request.getBlockHash number.toInt64).Delivery :=
    ⟨.getBlockHash number.toInt64, id⟩
  have decoded : (Request.getBlockHash number.toInt64).decode = .ok delivery := rfl
  rw [deliver_served live decoded, Bridge.bind_apply]
  change ∃ after : Process Unit ν (MockContext ν), after.hosts = before.hosts ∧ _ ∧
    (HostAction.carryOut nested (MockContext.hosting () (.getBlockHash number.toInt64))
      (before.journaled (.requested .getBlockHash handle))).bind _ = _
  let asked := before.journaled (.requested .getBlockHash handle)
  have youngAsked : 0 ≤ asked.hosts.txContext.blockNumber.toInt := young
  have served := carryOut_getBlockHash nested youngAsked number
  rw [served, Option.bind_some, Process.journaled_hosts]
  by_cases failing : before.hosts.faultIn = some .getBlockHash
  · have fallback_eq : before.hosts.appendedHash number = .zero 32 :=
      if_neg fun heeds => heeds.1 failing
    rw [fallback_eq, if_pos failing]
    exact ⟨asked.parked handle (.text "get_block_hash failed") "get_block_hash", rfl,
      fun query => Registry.resolve_recordFault _ _ query _, rfl⟩
  · rw [if_neg failing]
    exact ⟨asked, rfl, fun _ => rfl, rfl⟩

/-- Where its code asks for the hash of a block, the example VM appends the hash of the
number's bytes if the number is covered, and the zero word otherwise, and then goes
on with what follows. -/
theorem runNative_blockHash {frame : Frame} (filled : frame.table .getBlockHash = true)
    (live : before.registry.resolve frame.handle = some ()) {gas : Int} (enough : 1 ≤ gas)
    (position : Nat) (rest : Bytes) (pieces : List Bytes) :
    ∃ after : Process Unit ν (MockContext ν), after.hosts = before.hosts ∧
      (∀ query, after.registry.resolve query = before.registry.resolve query) ∧
      runNative MockContext.hosting nested
          (interpret frame ⟨position, (Command.blockHash number).encode ++ rest⟩ gas pieces)
          before =
        runNative MockContext.hosting nested
          (interpret frame ⟨position + 9, rest⟩ (gas - 1)
            ((before.hosts.appendedHash number).toList :: pieces)) after := by
  have untopical : (Command.blockHash number).FewTopics := trivial
  have charged : ¬gas < 1 := by omega
  let noted := before.journaled (frame.charged position 0x08 (gas - 1)).val
  have youngNoted : 0 ≤ noted.hosts.txContext.blockNumber.toInt := young
  have liveNoted : noted.registry.resolve frame.handle = some () := live
  obtain ⟨after, hosts_eq, resolve_eq, delivered⟩ :=
    deliver_getBlockHash nested youngNoted number liveNoted
  have asked (resume : Except StatusCode Progress → NativeRun Outcome) :
      (perform frame (gas - 1) (.blockHash number)).run.bind resume =
        .ask frame.handle (.getBlockHash number.toInt64) fun hash =>
          resume (.ok ⟨gas - 1, hash.toList, .proceed⟩) :=
    Step.run_ask_bind filled _ _
  refine ⟨after, hosts_eq, resolve_eq, ?_⟩
  rw [interpret_command frame untopical charged (fun writes => nomatch writes)]
  change (runNative MockContext.hosting nested
    ((perform frame (gas - 1) (.blockHash number)).run.bind _)) noted = _
  rw [asked, runNative, Bridge.bind_apply, delivered]
  rfl

end Service

/-- The value that was returned, if any was. -/
def Ending.value? {α : Type} : Ending α → Option α
  | .returned value => some value
  | .faulted _ => none

namespace MockContext

/-- A context at the start of its chain.  The code of its account asks for a hash. -/
def atBlock (current : Int64) (number : UInt64) : MockContext Nat :=
  { onExampleVm [(.ofNat 20 1, .running [.blockHash number])] with
    txContext := { defaultTxContext with blockNumber := current } }

/-- The block before is covered. -/
theorem runNative_firstBlock :
    let before := hosted (atBlock 1 0)
    let frame : Frame := { loggingFrame with handle := 1 }
    0 ≤ before.hosts.txContext.blockNumber.toInt ∧ frame.table .getBlockHash = true ∧
      before.registry.resolve frame.handle = some () ∧ (1 : Int) ≤ 9 ∧
      ∃ after : MockProcess, after.hosts = before.hosts ∧
        runNative hosting (VmBridge.execute hosting 0)
            (interpret frame ⟨0, (Command.blockHash 0).encode ++ []⟩ 9 []) before =
          runNative hosting (VmBridge.execute hosting 0)
            (interpret frame ⟨9, []⟩ 8 [(keccak256 (bytesOfUInt64 0)).toList]) after := by
  intro before frame
  have young : 0 ≤ before.hosts.txContext.blockNumber.toInt := by decide
  have live : before.registry.resolve frame.handle = some () := rfl
  obtain ⟨after, hosts_eq, _, ran⟩ :=
    runNative_blockHash (VmBridge.execute hosting 0) young 0
      (rfl : frame.table .getBlockHash = true) live (by decide : (1 : Int) ≤ 9) 0 [] []
  exact ⟨young, rfl, live, by decide, after, hosts_eq, ran⟩

/-- At the start of a chain the largest number, which names no block, has a hash. -/
theorem run_lastBlock :
    ¬((0xffffffffffffffff : UInt64).toNat < 0 ∧ 0 - (0xffffffffffffffff : UInt64).toNat ≤ 256) ∧
      ∃ result after, run 2 (.calling (.ofNat 20 1) 10)
          (.initial (atBlock 0 0xffffffffffffffff)) = some (.returned result, after) ∧
        result.status = .success ∧ result.output ≠ (FixedBytes.zero 32).toList := by
  have ran : (((run 2 (.calling (.ofNat 20 1) 10)
      (.initial (atBlock 0 0xffffffffffffffff))).bind fun ended => ended.1.value?).map
        fun result =>
          decide (result.status = .success ∧ result.output ≠ (FixedBytes.zero 32).toList)) =
      some true := by decide +kernel
  obtain ⟨result, returned, held⟩ := Option.map_eq_some_iff.mp ran
  obtain ⟨⟨ending, after⟩, finished, value_eq⟩ := Option.bind_eq_some_iff.mp returned
  obtain ⟨success, output_ne⟩ := of_decide_eq_true held
  refine ⟨by decide, result, after, ?_, success, output_ne⟩
  cases ending with
  | faulted fault => cases value_eq
  | returned value =>
      obtain rfl := Option.some.inj value_eq
      exact finished

end MockContext

end VmBridge
