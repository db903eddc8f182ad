import Mathlib.Data.Set.Card
import VmBridge.Proofs.MockContextSteps

/-!
# Storage under a sequence of writes

A slot reads as the last word written to it.  A slot that is not stored reads as zero,
and a stored zero does so too, so reading a slot does not tell how it is kept:
`World.slot_writeSlot` describes a write by what the slots read afterwards.  The answer
to a write says whether the slot became live, that is non-zero, stopped being live, or
did neither.  `writeAll_settles` adds this up over a sequence of writes.
-/

namespace VmBridge

open HostAction

/-- A word to be written to a slot of an account. -/
structure SlotWrite where
  address : Address
  key : Word
  value : Word
deriving DecidableEq

/-- The last word that some writes write to a slot. -/
def lastWritten? (writes : List SlotWrite) (address : Address) (key : Word) : Option Word :=
  (writes.reverse.find? fun write => write.address = address ∧ write.key = key).map
    SlotWrite.value

theorem lastWritten?_cons (write : SlotWrite) (writes : List SlotWrite) (address : Address)
    (key : Word) :
    lastWritten? (write :: writes) address key =
      (lastWritten? writes address key).or
        (if write.address = address ∧ write.key = key then some write.value else none) := by
  rw [lastWritten?, lastWritten?, List.reverse_cons, List.find?_append, Option.map_or,
    List.find?_singleton]
  by_cases same : write.address = address ∧ write.key = key
  · simp [same]
  · simp [same]

/-- What the answer to a write says about the word that was replaced and the one that
was written. -/
inductive StorageStatus.Describes : Word → Word → StorageStatus → Prop where
  | assigned (word : Word) : Describes word word .assigned
  | added {value : Word} (live : value ≠ .zero 32) : Describes (.zero 32) value .added
  | deleted {current : Word} (live : current ≠ .zero 32) : Describes current (.zero 32) .deleted
  | modified {current value : Word} (live : current ≠ .zero 32) (stays : value ≠ .zero 32)
      (different : current ≠ value) : Describes current value .modified

theorem World.describes_writeStatus (current value : Word) :
    (World.writeStatus current value).Describes current value := by
  rw [writeStatus]
  by_cases same : current = value
  · subst same
    rw [if_pos rfl]
    exact .assigned current
  rw [if_neg same]
  by_cases blank : current = .zero 32
  · subst blank
    rw [if_pos rfl]
    exact .added fun zero => same zero.symm
  rw [if_neg blank]
  by_cases cleared : value = .zero 32
  · subst cleared
    rw [if_pos rfl]
    exact .deleted blank
  · rw [if_neg cleared]
    exact .modified blank cleared same

theorem Account.slot_writeSlot (account : Account) (key query value : Word) :
    (account.writeSlot key value).slot query =
      if key = query then value else account.slot query := by
  rw [slot, slot, Table.getD, Table.getD, writeSlot]
  by_cases zero : value = .zero 32
  · simp only [if_pos zero, Table.get?_erase]
    split
    · exact zero.symm
    · rfl
  · simp only [if_neg zero, Table.get?_insert]
    split <;> rfl

namespace World

/-- A write changes what its own slot reads, and no other one. -/
theorem slot_writeSlot (world : World) (address other : Address) (key query value : Word) :
    (world.apply (.writeSlot address key value)).slot other query =
      if address = other ∧ key = query then value else world.slot other query := by
  rw [slot, apply, account_update]
  by_cases same : address = other
  · subst same
    rw [if_pos rfl, Account.slot_writeSlot]
    simp only [true_and, slot]
  · simp only [same, false_and, if_false, slot]

/-- The slots of an account that do not read zero. -/
def liveSlots (world : World) (address : Address) : Set Word :=
  {key | world.slot address key ≠ .zero 32}

theorem finite_liveSlots (world : World) (address : Address) :
    (world.liveSlots address).Finite := by
  refine ((world.account address).storage.keys.finite_toSet).subset fun key live => ?_
  by_contra absent
  have unstored : (world.account address).storage.get? key = none :=
    Table.lookup_eq_none absent
  refine live ?_
  rw [slot, Account.slot, Table.getD, unstored]
  rfl

theorem liveSlots_writeSlot_other (world : World) {address other : Address}
    (different : address ≠ other) (key value : Word) :
    (world.apply (.writeSlot address key value)).liveSlots other = world.liveSlots other := by
  ext query
  simp only [liveSlots, Set.mem_ofPred_eq, slot_writeSlot, different, false_and, if_false]

theorem liveSlots_writeSlot (world : World) (address : Address) (key value : Word) :
    (world.apply (.writeSlot address key value)).liveSlots address =
      if value = .zero 32 then world.liveSlots address \ {key}
      else insert key (world.liveSlots address) := by
  ext query
  simp only [liveSlots, Set.mem_ofPred_eq, slot_writeSlot, true_and]
  by_cases same : key = query
  · subst same
    by_cases zero : value = .zero 32
    · simp [zero]
    · simp [zero]
  · have other_ne : ¬query = key := fun equal => same equal.symm
    by_cases zero : value = .zero 32
    · simp [zero, same, other_ne]
    · simp [zero, same, other_ne]

end World

/-- By how many a write with some answer makes the live slots of its account more. -/
def StorageStatus.gain : StorageStatus → Int
  | .added => 1
  | .deleted => -1
  | _ => 0

/-- The answer to a write tells how the number of live slots changes. -/
theorem StorageStatus.Describes.ncard_liveSlots {world : World} {address : Address}
    {key value : Word} {status : StorageStatus}
    (describes : status.Describes (world.slot address key) value) :
    (((world.apply (.writeSlot address key value)).liveSlots address).ncard : Int) =
      (world.liveSlots address).ncard + status.gain := by
  have finite := world.finite_liveSlots address
  have live_iff : key ∈ world.liveSlots address ↔ world.slot address key ≠ .zero 32 := Iff.rfl
  rw [World.liveSlots_writeSlot]
  generalize world.slot address key = current at describes live_iff
  cases describes with
  | assigned =>
      by_cases zero : value = .zero 32
      · rw [if_pos zero, Set.sdiff_singleton_eq_self (by simp [live_iff, zero])]
        exact (Int.add_zero _).symm
      · rw [if_neg zero, Set.insert_eq_of_mem (live_iff.mpr zero)]
        exact (Int.add_zero _).symm
  | added live =>
      have dead : key ∉ world.liveSlots address := fun member => live_iff.mp member rfl
      rw [if_neg live, Set.ncard_insert_of_notMem dead finite, gain]
      omega
  | deleted live =>
      have one := Set.ncard_sdiff_singleton_add_one (live_iff.mpr live) finite
      rw [if_pos rfl, gain]
      omega
  | modified live stays =>
      rw [if_neg stays, Set.insert_eq_of_mem (live_iff.mpr live)]
      exact (Int.add_zero _).symm

/-- The word that a slot reads after some writes: the last one written to it, or the
one from before. -/
def World.slotAfter (world : World) (writes : List SlotWrite) (address : Address) (key : Word) :
    Word :=
  (lastWritten? writes address key).getD (world.slot address key)

theorem World.slotAfter_cons (world : World) (write : SlotWrite) (writes : List SlotWrite) :
    world.slotAfter (write :: writes) =
      (world.apply (.writeSlot write.address write.key write.value)).slotAfter writes := by
  funext address key
  rw [slotAfter, slotAfter, lastWritten?_cons, slot_writeSlot]
  cases lastWritten? writes address key with
  | some value => rfl
  | none =>
      rw [Option.none_or]
      split <;> rfl

/-- How many of some writes went to an account and were answered in some way. -/
def countAnswers (address : Address) (status : StorageStatus) (writes : List SlotWrite)
    (statuses : List StorageStatus) : Nat :=
  (writes.zip statuses).countP fun answered =>
    answered.1.address = address ∧ answered.2 = status

theorem countAnswers_cons (address : Address) (write : SlotWrite) (writes : List SlotWrite)
    (answer : StorageStatus) (statuses : List StorageStatus) :
    (countAnswers address .added (write :: writes) (answer :: statuses) : Int) -
        countAnswers address .deleted (write :: writes) (answer :: statuses) =
      (if write.address = address then answer.gain else 0) +
        (countAnswers address .added writes statuses -
          countAnswers address .deleted writes statuses) := by
  simp only [countAnswers, List.zip_cons_cons, List.countP_cons, decide_eq_true_eq]
  by_cases own : write.address = address
  · cases answer <;> simp [own, StorageStatus.gain] <;> omega
  · simp [own]

section Writing

variable {ν : Type} (nested : Executor Unit ν (MockContext ν))

/-- Have a mock context write some slots one after another, whatever it answers. -/
def writeAll : List SlotWrite → Bridge Unit ν (MockContext ν) (List (Ending StorageStatus))
  | [] => pure []
  | write :: rest => do
      let ending ← carryOut nested
        (MockContext.hosting () (.setStorage write.address write.key write.value))
      let endings ← writeAll rest
      pure (ending :: endings)

/-- What a mock context answers when a slot is read. -/
def MockContext.reading (context : MockContext ν) (word : Word) : Ending Word :=
  if context.faultIn = some .getStorage then .faulted (.text "get_storage failed")
  else .returned word

theorem carryOut_getStorage (process : Process Unit ν (MockContext ν)) (address : Address)
    (key : Word) :
    carryOut nested (MockContext.hosting () (.getStorage address key)) process =
      some (process.hosts.reading (process.hosts.world.slot address key), process) := by
  change carryOut nested (MockAction.check .getStorage >>= fun _ => _) process = _
  rw [MockAction.carryOut_checked, MockContext.reading]
  split <;> rfl

/-- Some writes were answered, and left a state behind. -/
structure WritesSettle (before : Process Unit ν (MockContext ν)) (writes : List SlotWrite)
    (statuses : List StorageStatus) (after : Process Unit ν (MockContext ν)) : Prop where
  answered : statuses.length = writes.length
  /-- Each answer is about the word that its slot read just before. -/
  describes : ∀ earlier write later, writes = earlier ++ write :: later →
    ∃ status, statuses[earlier.length]? = some status ∧
      status.Describes (before.hosts.world.slotAfter earlier write.address write.key) write.value
  reads : ∀ address key,
    carryOut nested (MockContext.hosting () (.getStorage address key)) after =
      some (before.hosts.reading (before.hosts.world.slotAfter writes address key), after)
  finite : ∀ address, (after.hosts.world.liveSlots address).Finite
  counts : ∀ address,
    ((after.hosts.world.liveSlots address).ncard : Int) =
      (before.hosts.world.liveSlots address).ncard +
        (countAnswers address .added writes statuses -
          countAnswers address .deleted writes statuses)

variable {nested} {before after : Process Unit ν (MockContext ν)}

theorem WritesSettle.nil (before : Process Unit ν (MockContext ν)) :
    WritesSettle nested before [] [] before where
  answered := rfl
  describes earlier write later split := by cases earlier <;> cases split
  reads address key := carryOut_getStorage nested before address key
  finite := before.hosts.world.finite_liveSlots
  counts address := by simp [countAnswers]

theorem WritesSettle.cons {write : SlotWrite} {writes : List SlotWrite}
    {status : StorageStatus} {statuses : List StorageStatus}
    (describes : status.Describes (before.hosts.world.slot write.address write.key) write.value)
    (rest : WritesSettle nested
      (before.changed (.writeSlot write.address write.key write.value)) writes statuses after) :
    WritesSettle nested before (write :: writes) (status :: statuses) after where
  answered := congrArg (· + 1) rest.answered
  describes earlier later others split := by
    cases earlier with
    | nil =>
        cases split
        exact ⟨status, rfl, describes⟩
    | cons first earlier =>
        cases split
        obtain ⟨answer, found, told⟩ := rest.describes earlier later others rfl
        refine ⟨answer, found, ?_⟩
        rwa [World.slotAfter_cons]
  reads address key := by
    rw [World.slotAfter_cons]
    exact rest.reads address key
  finite := rest.finite
  counts address := by
    have once : (((before.hosts.world.apply
        (.writeSlot write.address write.key write.value)).liveSlots address).ncard : Int) =
        (before.hosts.world.liveSlots address).ncard +
          (if write.address = address then status.gain else 0) := by
      by_cases own : write.address = address
      · subst own
        rw [if_pos rfl, describes.ncard_liveSlots]
      · rw [if_neg own, World.liveSlots_writeSlot_other _ own, Int.add_zero]
    rw [countAnswers_cons, ← Int.add_assoc, ← once]
    exact rest.counts address

theorem carryOut_setStorage (write : SlotWrite) (process : Process Unit ν (MockContext ν)) :
    carryOut nested
        (MockContext.hosting () (.setStorage write.address write.key write.value)) process =
      if process.hosts.faultIn = some .setStorage then
        some (.faulted (.text "set_storage failed"), process)
      else
        some (.returned (World.writeStatus
            (process.hosts.world.slot write.address write.key) write.value),
          process.changed (.writeSlot write.address write.key write.value)) := by
  change carryOut nested (MockAction.check .setStorage >>= fun _ => _) process = _
  rw [MockAction.carryOut_checked]
  split <;> rfl

/-- A context that was told to fail in writing writes nothing. -/
theorem writeAll_failing (failing : before.hosts.faultIn = some .setStorage)
    (writes : List SlotWrite) :
    writeAll nested writes before =
      some (writes.map fun _ => .faulted (.text "set_storage failed"), before) := by
  induction writes with
  | nil => rfl
  | cons write writes ih =>
      rw [writeAll, Bridge.bind_apply, carryOut_setStorage, if_pos failing, Option.bind_some,
        Bridge.bind_apply, ih]
      rfl

theorem writeAll_heeding (heeds : before.hosts.faultIn ≠ some .setStorage)
    (writes : List SlotWrite) :
    ∃ statuses after,
      writeAll nested writes before = some (statuses.map .returned, after) ∧
        WritesSettle nested before writes statuses after := by
  induction writes generalizing before with
  | nil => exact ⟨[], before, rfl, .nil before⟩
  | cons write writes ih =>
      let changed := before.changed (.writeSlot write.address write.key write.value)
      have heedsStill : changed.hosts.faultIn ≠ some .setStorage := heeds
      obtain ⟨statuses, after, written, settle⟩ := ih heedsStill
      refine ⟨_ :: statuses, after, ?_, .cons (World.describes_writeStatus _ _) settle⟩
      rw [writeAll, Bridge.bind_apply, carryOut_setStorage, if_neg heeds, Option.bind_some,
        Bridge.bind_apply, written]
      rfl

/-- However many slots are written, each reads the last word written to it, or the one
from before.  Every answer tells how the word written compares with the one that was
read before it, and the number of live slots of each account has grown by the slots
that were added, less those that were deleted.  A context that was told to fail in
writing refuses all the writes and stays as it is. -/
theorem writeAll_settles (nested : Executor Unit ν (MockContext ν)) (writes : List SlotWrite)
    (before : Process Unit ν (MockContext ν)) :
    (before.hosts.faultIn = some .setStorage →
        writeAll nested writes before =
          some (writes.map fun _ => .faulted (.text "set_storage failed"), before)) ∧
      (before.hosts.faultIn ≠ some .setStorage →
        ∃ statuses after,
          writeAll nested writes before = some (statuses.map .returned, after) ∧
            WritesSettle nested before writes statuses after) :=
  ⟨fun failing => writeAll_failing failing writes, fun heeds => writeAll_heeding heeds writes⟩

end Writing

/-- An account with two stored slots, of which the first one holds a zero. -/
def withStoredZero : MockContext Unit :=
  .new
    (Table.ofList [(.ofNat 20 1, { (default : Account) with
      storage := Table.ofList [(.ofNat 32 1, .zero 32), (.ofNat 32 2, .ofNat 32 5)] })])
    MockContext.defaultTxContext none

/-- The stored zero is replaced twice and the other slot cleared, and an account that
does not exist gets another zero. -/
def rewriting : List SlotWrite := [
  ⟨.ofNat 20 1, .ofNat 32 1, .ofNat 32 7⟩, ⟨.ofNat 20 1, .ofNat 32 2, .zero 32⟩,
  ⟨.ofNat 20 2, .ofNat 32 1, .zero 32⟩, ⟨.ofNat 20 1, .ofNat 32 1, .ofNat 32 8⟩]

/-- The stored zero counts as none, so its first replacement adds a slot. -/
theorem writeAll_rewriting :
    let before : Process Unit Unit (MockContext Unit) := .initial withStoredZero
    let nested := execute MockContext.hosting 0
    before.hosts.faultIn ≠ some .setStorage ∧
      ∃ after,
        writeAll nested rewriting before =
            some ([.added, .deleted, .assigned, .modified].map .returned, after) ∧
          carryOut nested (MockContext.hosting () (.getStorage (.ofNat 20 1) (.ofNat 32 1)))
              after = some (.returned (.ofNat 32 8), after) ∧
          (after.hosts.world.liveSlots (.ofNat 20 1)).ncard =
            (before.hosts.world.liveSlots (.ofNat 20 1)).ncard := by
  intro before nested
  have heeds : before.hosts.faultIn ≠ some .setStorage := nofun
  obtain ⟨statuses, after, written, settle⟩ :=
    (writeAll_settles nested rewriting before).2 heeds
  have answers : (writeAll nested rewriting before).map Prod.fst =
      some ([.added, .deleted, .assigned, .modified].map .returned) := by decide +kernel
  rw [written, Option.map_some, Option.some.injEq] at answers
  have returned_inj : Function.Injective (Ending.returned : StorageStatus → _) :=
    fun _ _ same => Ending.returned.inj same
  obtain rfl := List.map_injective_iff.mpr returned_inj answers
  refine ⟨heeds, after, written, ?_, ?_⟩
  · have last : before.hosts.world.slotAfter rewriting (.ofNat 20 1) (.ofNat 32 1) =
        .ofNat 32 8 := by decide +kernel
    rw [settle.reads, last]
    rfl
  · have counted := settle.counts (.ofNat 20 1)
    have added : countAnswers (.ofNat 20 1) .added rewriting
        [.added, .deleted, .assigned, .modified] = 1 := by decide +kernel
    have deleted : countAnswers (.ofNat 20 1) .deleted rewriting
        [.added, .deleted, .assigned, .modified] = 1 := by decide +kernel
    rw [added, deleted] at counted
    simpa using counted

end VmBridge
