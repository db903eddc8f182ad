import Mathlib.Data.Nat.Log
import VmBridge.Proofs.MachineInterpreter
import VmBridge.Proofs.MockContextSteps
import VmBridge.Proofs.PositionalNotation

/-!
# The mock context with checked operations

Some of the operations with which a mock context computes are not defined everywhere: a
difference of amounts or sizes can be negative, a count can be full, a slice can reach
beyond its bytes, and bytes can be copied to a place of another size.  Here the context
is written down once more with these operations one by one, each of which fails where it
is not defined.  Only two of them ever fail, and these are the ones with which the mock
context fails itself: otherwise the checked context does the same as the mock context,
as long as the codes of its accounts fit into memory (`hosting_eq`).
-/

namespace VmBridge

namespace CheckedContext

section Operations

def subtract (first second : Int64) : Except Fault Int64 :=
  let difference := first.toInt - second.toInt
  if difference < Int64.minValue.toInt ∨ Int64.maxValue.toInt < difference then
    .error (.text "attempt to subtract with overflow")
  else .ok (Int64.ofInt difference)

def countUp (count : UInt64) : Except Fault UInt64 :=
  if count.toNat + 1 = UInt64.size then .error (.text "attempt to add with overflow")
  else .ok (count + 1)

/-- The difference of two sizes. -/
def sizeLess (size less : Nat) : Except Fault Nat :=
  if size < less then .error (.text "attempt to subtract with overflow") else .ok (size - less)

/-- The sum of two sizes, which must be a size too. -/
def sizeMore (size more : Nat) : Except Fault Nat :=
  if addressCount ≤ size + more then .error (.text "attempt to add with overflow")
  else .ok (size + more)

/-- The difference of two amounts of any size. -/
def amountLess (available amount : Nat) : Except Fault Nat :=
  if available < amount then
    .error (.text "Cannot subtract b from a because b is larger than a.")
  else .ok (available - amount)

/-- The bytes between two positions. -/
def slice (bytes : Bytes) (start stop : Nat) : Except Fault Bytes :=
  if stop < start ∨ bytes.length < stop then .error (.text "range out of range for slice")
  else .ok ((bytes.drop start).take (stop - start))

/-- Copy bytes to a place of the same size. -/
def copyFixed (size : Nat) (bytes : Bytes) : Except Fault (FixedBytes size) :=
  if same : bytes.length = size then .ok ⟨bytes, same⟩
  else .error (.text "copy_from_slice: source slice length does not match destination slice length")

/-- The bytes that a number needs, at least one. -/
def minimalBytes (value : Nat) : Bytes := bigEndian (Nat.log 256 value + 1) value

/-- Write a number of any size as a word, which keeps its low digits. -/
def encodeWord (value : Nat) : Except Fault Word := do
  let bytes := minimalBytes value
  if 32 < bytes.length then
    let start ← sizeLess bytes.length 32
    copyFixed 32 (← slice bytes start bytes.length)
  else
    let start ← sizeLess 32 bytes.length
    let before ← slice (FixedBytes.zero 32).toList 0 start
    let place ← slice (FixedBytes.zero 32).toList start 32
    let digits ← copyFixed place.length bytes
    copyFixed 32 (before ++ digits.toList)

/-- The address that a digest ends with. -/
def addressOf (digest : Word) : Except Fault Address := do
  copyFixed 20 (← slice digest.toList 12 32)

theorem sizeLess_eq {size less : Nat} (le : less ≤ size) :
    sizeLess size less = .ok (size - less) :=
  if_neg (Nat.not_lt.mpr le)

theorem slice_eq {bytes : Bytes} {start stop : Nat} (forward : start ≤ stop)
    (within : stop ≤ bytes.length) :
    slice bytes start stop = .ok ((bytes.drop start).take (stop - start)) :=
  if_neg (by omega)

theorem copyFixed_eq {size : Nat} {bytes : Bytes} (same : bytes.length = size) :
    copyFixed size bytes = .ok ⟨bytes, same⟩ :=
  dif_pos same

theorem ok_bind {α β : Type} (value : α) (next : α → Except Fault β) :
    (Except.ok value >>= next) = next value := rfl

/-- The last of the digits of a number are its low ones. -/
theorem drop_bigEndian (front size value : Nat) :
    (bigEndian (front + size) value).drop front = bigEndian size value := by
  have cut : (bigEndian front (value / 256 ^ size)).length = front := length_bigEndian _ _
  rw [bigEndian_add, List.drop_append_of_le_length (Nat.le_of_eq cut.symm),
    List.drop_of_length_le (Nat.le_of_eq cut), List.nil_append]

/-- Numbers of any size can be written as words. -/
theorem encodeWord_eq (value : Nat) : encodeWord value = .ok (.ofNat 32 value) := by
  let count := Nat.log 256 value + 1
  have length_eq : (minimalBytes value).length = count := length_bigEndian _ _
  rw [encodeWord, length_eq]
  split
  · rename_i long
    have digits : ((minimalBytes value).drop (count - 32)).take (count - (count - 32)) =
        bigEndian 32 value := by
      have split_eq : count = count - 32 + 32 := by omega
      have cut := drop_bigEndian (count - 32) 32 value
      rw [← split_eq] at cut
      rw [minimalBytes, cut, List.take_of_length_le]
      rw [length_bigEndian]
      omega
    rw [sizeLess_eq (by omega), ok_bind, slice_eq (by omega) (Nat.le_of_eq length_eq.symm),
      ok_bind, digits, copyFixed_eq (length_bigEndian 32 value)]
    rfl
  · rename_i short
    have zeros : (FixedBytes.zero 32).toList = List.replicate 32 0 := rfl
    have small : value < 256 ^ count := Nat.lt_pow_succ_log_self (by decide) value
    have whole : 32 ≤ (FixedBytes.zero 32).toList.length :=
      Nat.le_of_eq (FixedBytes.zero 32).length_toList.symm
    have start_le : 32 - count ≤ (FixedBytes.zero 32).toList.length := by
      rw [FixedBytes.length_toList]
      omega
    have before_eq : ((FixedBytes.zero 32).toList.drop 0).take (32 - count - 0) =
        List.replicate (32 - count) 0 := by
      rw [zeros, List.drop_zero, List.take_replicate]
      congr 1
      omega
    have place_length : (minimalBytes value).length =
        (((FixedBytes.zero 32).toList.drop (32 - count)).take (32 - (32 - count))).length := by
      rw [length_eq, List.length_take, List.length_drop, FixedBytes.length_toList]
      omega
    have padded : List.replicate (32 - count) 0 ++ minimalBytes value = bigEndian 32 value := by
      have split_eq : 32 = 32 - count + count := by omega
      rw [split_eq, bigEndian_add, Nat.div_eq_of_lt small, bigEndian_zero, ← split_eq]
      rfl
    rw [sizeLess_eq (by omega), ok_bind, slice_eq (Nat.zero_le _) start_le, ok_bind, before_eq,
      slice_eq (by omega) whole, ok_bind, copyFixed_eq place_length, ok_bind]
    change copyFixed 32 (List.replicate (32 - count) 0 ++ minimalBytes value) = _
    rw [padded, copyFixed_eq (length_bigEndian 32 value)]
    rfl

theorem addressOf_eq (digest : Word) : addressOf digest = .ok (.leftPadded 20 digest.toList) := by
  have length_eq := digest.length_toList
  have back_length : (digest.toList.drop 12).length = 20 := by
    rw [List.length_drop, length_eq]
  have low := bigEndian_ofBigEndian_append (digest.toList.take 12) (digest.toList.drop 12)
  rw [List.take_append_drop, back_length] at low
  have taken : (digest.toList.drop 12).take (32 - 12) =
      bigEndian 20 (ofBigEndian digest.toList) := by
    rw [low, List.take_of_length_le (Nat.le_of_eq back_length)]
  rw [addressOf, slice_eq (by decide) (Nat.le_of_eq length_eq.symm), ok_bind, taken,
    copyFixed_eq (length_bigEndian 20 _)]
  rfl

end Operations

section Methods

open MockAction (check getWorld setWorld recordCall)

variable {ν α : Type}

/-- A method that comes upon an operation which is not defined fails. -/
def demand : Except Fault α → MockAction ν α
  | .ok value => pure value
  | .error fault => HostAction.fail fault

def setBalance (balance : Word) (account : Account) : Account := { account with balance }

/-- The world after an amount has been moved. -/
def moved (world : World) (sender receiver : Address) (amount : Nat) : Except Fault World := do
  let left ← amountLess (world.balance sender) amount
  let debited := world.update sender (setBalance (← encodeWord left))
  let received ← encodeWord (debited.balance receiver + amount)
  pure (debited.update receiver (setBalance received))

def transfer (sender receiver : Address) (value : Word) : MockAction ν Bool := do
  let world ← getWorld
  let amount := value.toNat
  if amount = 0 then pure true
  else if world.balance sender < amount then pure false
  else
    let later ← demand (moved world sender receiver amount)
    HostAction.note ⟨.worldChanged (.transfer sender receiver amount), rfl⟩
    setWorld later
    pure true

def newAddress (message : Message) : MockAction ν Address :=
  match message.kind with
  | .create2 =>
      demand (addressOf (keccak256
        (0xff :: message.sender.toList ++ message.salt.toList ++
          (keccak256 message.input).toList)))
  | _ => do
      let world ← getWorld
      let nonce := (world.account message.sender).nonce
      let next ← demand (countUp nonce)
      HostAction.note ⟨.worldChanged (.countCreation message.sender), rfl⟩
      setWorld (world.update message.sender fun account => { account with nonce := next })
      demand (addressOf (keccak256 (message.sender.toList ++ bytesOfUInt64 nonce)))

def dispatchCreation (vm : Vm ν) (message : Message) : MockAction ν ExecutionResult := do
  let address ← newAddress message
  if ← transfer message.sender address message.value then
    let nested := { message with recipient := address, codeAddress := address }
    let result ← HostAction.execute vm () nested message.input
    if result.isSuccess then
      MockAction.change (.deployCode address result.output)
      pure { result with createAddress := some address }
    else pure result
  else pure (.new .insufficientBalance message.gas [])

def dispatchCall (vm : Vm ν) (message : Message) : MockAction ν ExecutionResult := do
  let paid ←
    if message.kind = .call then transfer message.sender message.recipient message.value
    else pure true
  if paid then
    let world ← getWorld
    HostAction.execute vm () message (world.code message.codeAddress)
  else pure (.new .insufficientBalance message.gas [])

def dispatch (vm : Vm ν) (message : Message) : MockAction ν ExecutionResult :=
  if message.kind.isCreate then dispatchCreation vm message else dispatchCall vm message

theorem byHost_frameOpened (message : Message) : (Event.frameOpened message).byHost = true := rfl

theorem byHost_frameClosed (kept : Bool) : (Event.frameClosed kept).byHost = true := rfl

def runFrame (vm : Vm ν) (message : Message) : MockAction ν ExecutionResult := do
  let snapshot ← getWorld
  HostAction.note ⟨.frameOpened message, byHost_frameOpened message⟩
  let result ← dispatch vm message
  if result.isSuccess then
    HostAction.note ⟨.frameClosed true, byHost_frameClosed true⟩
  else
    let world ← getWorld
    setWorld (world.rolledBack snapshot)
    HostAction.note ⟨.frameClosed false, byHost_frameClosed false⟩
  pure result

def call (message : Message) : MockAction ν ExecutionResult := do
  check .call
  recordCall message
  let context ← HostAction.getState
  match context.vm with
  | none => pure .failure
  | some vm =>
      if MockContext.maxDepth < message.depth then pure (.new .callDepthExceeded message.gas [])
      else runFrame vm message

/-- Write some bytes of a code, from an offset on, to the start of a buffer. -/
def copyWindow (code : Bytes) (offset count : Nat) {size : Nat} (buffer : FixedBytes size) :
    Except Fault (FixedBytes size) := do
  let place ← slice buffer.toList 0 count
  let window ← slice code offset (← sizeMore offset count)
  let written ← copyFixed place.length window
  let kept ← slice buffer.toList count size
  copyFixed size (written.toList ++ kept)

/-- Write the part of a code that starts at an offset and fits into a buffer. -/
def copied (code : Bytes) (offset size : Nat) (buffer : FixedBytes size) :
    Except Fault (Nat × FixedBytes size) := do
  if code.length ≤ offset then pure (0, buffer)
  else
    let count := min size (← sizeLess code.length offset)
    pure (count, ← copyWindow code offset count buffer)

def selfdestruct (address beneficiary : Address) : MockAction ν Bool := do
  check .selfdestruct
  let world ← getWorld
  let balance ← demand (encodeWord (world.balance address))
  if address = beneficiary then pure ()
  else
    let _ ← transfer address beneficiary balance
  MockAction.change (.markDestructed address)
  pure !world.destructed.contains address

def getBlockHash (number : Int64) : MockAction ν Word := do
  check .getBlockHash
  let context ← HostAction.getState
  let current := context.txContext.blockNumber
  if current ≤ number then pure (.zero 32)
  else
    let lowest ← demand (subtract current 256)
    if number < lowest then pure (.zero 32) else pure (keccak256 (bytesOfInt64 number))

/-- How a mock context serves its methods when each operation is checked. -/
def hosting : Hosting Unit ν (MockContext ν) := fun _ method =>
  match method with
  | .getBalance address => do
      check .getBalance
      let world ← getWorld
      demand (encodeWord (world.balance address))
  | .copyCode address offset size buffer => do
      let code ← MockAction.getCode address
      demand (copied code offset size buffer)
  | .selfdestruct address beneficiary => selfdestruct address beneficiary
  | .call message => call message
  | .getBlockHash number => getBlockHash number
  | method => MockContext.hosting () method

theorem moved_eq {world : World} {sender : Address} {amount : Nat}
    (paid : amount ≤ world.balance sender) (receiver : Address) :
    moved world sender receiver amount = .ok (world.apply (.transfer sender receiver amount)) := by
  have debited : world.update sender (setBalance (.ofNat 32 (world.balance sender - amount))) =
      world.update sender (·.debit amount) := by
    rw [World.update, World.update]
    rfl
  have credited (middle : World) :
      middle.update receiver (setBalance (.ofNat 32 (middle.balance receiver + amount))) =
        middle.update receiver (·.credit amount) := by
    rw [World.update, World.update]
    rfl
  simp only [moved, amountLess, if_neg (Nat.not_lt.mpr paid), ok_bind, encodeWord_eq, debited,
    credited]
  rfl

theorem transfer_eq (sender receiver : Address) (value : Word) :
    (transfer sender receiver value : MockAction ν Bool) =
      MockAction.transfer sender receiver value := by
  funext context
  change (if value.toNat = 0 then _ else if context.world.balance sender < value.toNat then _
    else demand (moved context.world sender receiver value.toNat) >>= fun _ => _ :
      MockAction ν Bool) context =
    (if value.toNat = 0 then _ else if context.world.balance sender < value.toNat then _
    else _ : MockAction ν Bool) context
  split
  · rfl
  · split
    · rfl
    · rename_i paid
      rw [moved_eq (Nat.not_lt.mp paid)]
      rfl

theorem newAddress_eq (message : Message) :
    (newAddress message : MockAction ν Address) = MockAction.newAddress message := by
  have counted : (do
      let world ← getWorld
      let nonce := (world.account message.sender).nonce
      let next ← demand (countUp nonce)
      HostAction.note ⟨.worldChanged (.countCreation message.sender), rfl⟩
      setWorld (world.update message.sender fun account => { account with nonce := next })
      pure (MockContext.createAddress message.sender nonce) : MockAction ν Address) = (do
      let world ← getWorld
      let nonce := (world.account message.sender).nonce
      if nonce.toNat + 1 = UInt64.size then
        HostAction.fail (.text "attempt to add with overflow")
      else
        MockAction.change (.countCreation message.sender)
        pure (MockContext.createAddress message.sender nonce)) := by
    funext context
    change (demand (countUp (context.world.account message.sender).nonce) >>= fun next => do
      HostAction.note ⟨.worldChanged (.countCreation message.sender), rfl⟩
      setWorld (context.world.update message.sender fun account => { account with nonce := next })
      pure _ : MockAction ν Address) context =
      (if (context.world.account message.sender).nonce.toNat + 1 = UInt64.size then _ else _ :
        MockAction ν Address) context
    rw [countUp]
    split
    · rfl
    · rfl
  rw [newAddress, MockAction.newAddress]
  simp only [addressOf_eq]
  cases message.kind with
  | create2 => rfl
  | create | call | delegateCall | callCode => exact counted

theorem dispatch_eq (vm : Vm ν) (message : Message) :
    dispatch vm message = MockAction.dispatch vm message := by
  have creation : dispatchCreation vm message = MockAction.dispatchCreation vm message := by
    simp only [dispatchCreation, MockAction.dispatchCreation, newAddress_eq, transfer_eq]
  have called : dispatchCall vm message = MockAction.dispatchCall vm message := by
    simp only [dispatchCall, MockAction.dispatchCall, transfer_eq]
  rw [dispatch, MockAction.dispatch, creation, called]

theorem runFrame_eq (vm : Vm ν) (message : Message) :
    runFrame vm message = MockAction.runFrame vm message := by
  simp only [runFrame, MockAction.runFrame, dispatch_eq]

theorem call_eq (message : Message) :
    (call message : MockAction ν ExecutionResult) = MockAction.call message := by
  simp only [call, runFrame_eq]
  rfl

theorem selfdestruct_eq (address beneficiary : Address) :
    (selfdestruct address beneficiary : MockAction ν Bool) =
      MockAction.selfdestruct address beneficiary := by
  have written (world : World) :
      FixedBytes.ofNat 32 (world.balance address) = (world.account address).balance :=
    FixedBytes.ofNat_toNat _
  simp only [selfdestruct, MockAction.selfdestruct, encodeWord_eq, transfer_eq, written,
    List.contains_eq_mem, decide_not]
  rfl

/-- The lower bound of the window is defined unless it lies below all 64-bit numbers. -/
theorem subtract_window (current : Int64) :
    subtract current 256 =
      if current.toInt - MockContext.blockHashWindow < Int64.minValue.toInt then
        .error (.text "attempt to subtract with overflow")
      else .ok (Int64.ofInt (current.toInt - MockContext.blockHashWindow)) := by
  have window_eq : (256 : Int64).toInt = MockContext.blockHashWindow := rfl
  have most : current.toInt ≤ Int64.maxValue.toInt := current.toInt_le
  have below : ¬Int64.maxValue.toInt < current.toInt - MockContext.blockHashWindow := by
    rw [MockContext.blockHashWindow]
    omega
  simp only [subtract, window_eq, below, or_false]

theorem getBlockHash_eq (number : Int64) :
    (getBlockHash number : MockAction ν Word) = MockAction.getBlockHash number := by
  rw [getBlockHash, MockAction.getBlockHash]
  refine congrArg (check .getBlockHash >>= ·) (funext fun _ => ?_)
  refine congrArg (HostAction.getState >>= ·) (funext fun context => ?_)
  simp only [subtract_window, Int64.le_iff_toInt_le]
  split
  · rfl
  · split
    · rfl
    · rename_i above
      have most := context.txContext.blockNumber.toInt_lt
      have lowest_eq : (Int64.ofInt (context.txContext.blockNumber.toInt -
          MockContext.blockHashWindow)).toInt =
            context.txContext.blockNumber.toInt - MockContext.blockHashWindow := by
        rw [Int64.toInt_minValue] at above
        rw [MockContext.blockHashWindow] at above ⊢
        exact Int64.toInt_ofInt_of_le (by omega) (by omega)
      change (if number < Int64.ofInt _ then _ else _ : MockAction ν Word) = _
      simp only [Int64.lt_iff_toInt_lt, lowest_eq]

section Copies

variable {code : Bytes} (fits : code.length < addressCount) (offset : Nat) {size : Nat}
  (buffer : FixedBytes size)

include fits

theorem copyWindow_eq {count : Nat} (room : count ≤ size) (within : offset + count ≤ code.length) :
    copyWindow code offset count buffer =
      .ok (buffer.overwrite ((code.drop offset).take count)) := by
  have length_buffer := buffer.length_toList
  have length_window : ((code.drop offset).take count).length = count := by
    rw [List.length_take, List.length_drop]
    omega
  have place_length : ((code.drop offset).take count).length =
      ((buffer.toList.drop 0).take (count - 0)).length := by
    rw [length_window, List.length_take, List.length_drop, length_buffer]
    omega
  have rest_eq : (buffer.toList.drop count).take (size - count) = buffer.toList.drop count :=
    List.take_of_length_le (by rw [List.length_drop, length_buffer])
  have whole : ((code.drop offset).take count ++ buffer.toList.drop count).length = size := by
    rw [List.length_append, length_window, List.length_drop, length_buffer]
    omega
  have fitting : sizeMore offset count = .ok (offset + count) := if_neg (by omega)
  rw [copyWindow, slice_eq (Nat.zero_le _) (by omega), ok_bind, fitting, ok_bind,
    slice_eq (by omega) within, ok_bind, Nat.add_sub_cancel_left, copyFixed_eq place_length,
    ok_bind, slice_eq room (Nat.le_of_eq length_buffer.symm), ok_bind, rest_eq]
  change copyFixed size ((code.drop offset).take count ++ buffer.toList.drop count) = _
  rw [copyFixed_eq whole]
  congr 1
  apply FixedBytes.ext_toList
  change (code.drop offset).take count ++ buffer.toList.drop count =
    ((code.drop offset).take count).take size ++
      buffer.toList.drop ((code.drop offset).take count).length
  have outer : ((code.drop offset).take count).take size = (code.drop offset).take count :=
    List.take_of_length_le (by rw [length_window]; exact room)
  rw [outer, length_window]

/-- A window of a code that fits into memory can always be copied. -/
theorem copied_eq : copied code offset size buffer =
    .ok ((codeWindow code offset size).length,
      buffer.overwrite (codeWindow code offset size)) := by
  rw [copied]
  split
  · rename_i past
    have nothing : codeWindow code offset size = [] := by
      rw [codeWindow, List.drop_of_length_le past, List.take_nil]
    have kept : buffer.overwrite [] = buffer := by
      apply FixedBytes.ext_toList
      simp [FixedBytes.overwrite]
    rw [nothing, kept]
    rfl
  · rename_i inside
    have window_eq : codeWindow code offset size =
        (code.drop offset).take (min size (code.length - offset)) := by
      rw [codeWindow, List.take_eq_take_iff, List.length_drop]
      omega
    have length_window : (codeWindow code offset size).length =
        min size (code.length - offset) := by
      rw [codeWindow, List.length_take, List.length_drop]
    rw [sizeLess_eq (by omega), ok_bind, length_window, window_eq]
    simp only [copyWindow_eq fits offset buffer (Nat.min_le_left size (code.length - offset))
      (by omega)]
    rfl

end Copies

/-- With checked operations the mock context serves its methods as it does without. -/
theorem hosting_eq {context : MockContext ν}
    (fits : ∀ address, (context.world.code address).length < addressCount)
    (method : HostMethod) :
    hosting () method context = MockContext.hosting () method context := by
  cases method with
  | getBalance address =>
      change ((check .getBalance >>= fun _ => getWorld >>= fun world =>
        demand (encodeWord (world.balance address))) : MockAction ν Word) context = _
      simp only [encodeWord_eq]
      rfl
  | copyCode address offset size buffer =>
      change (MockAction.getCode address context).bind _ =
        (MockAction.getCode address context).bind _
      rw [MockAction.getCode, MockAction.checked_apply]
      split
      · rfl
      · change demand (copied (context.world.code address) offset size buffer) context = _
        rw [copied_eq (fits address)]
        rfl
  | selfdestruct address beneficiary => exact congrFun (selfdestruct_eq address beneficiary) context
  | call message => exact congrFun (call_eq message) context
  | getBlockHash number => exact congrFun (getBlockHash_eq number) context
  | _ => rfl

end Methods

end CheckedContext

end VmBridge
