import VmBridge.Command

/-!
# Reading commands

The interpreter reads code through a cursor.  Every read takes a piece from
the front of the code that remains, so the cursor only moves forward:
`readCommand_advances` says that a read command lies between the cursors
before and after it.  A read that fails leaves the cursor behind the operands
that could still be read.
-/

namespace VmBridge

/-- A place in code, and the code from there on. -/
structure Cursor where
  position : Nat
  rest : Bytes
deriving DecidableEq

/-- A read from a cursor, which may abort the execution. -/
abbrev Reader (α : Type) : Type := EStateM StatusCode Cursor α

/-- The largest number of topics of a log. -/
def maxLogTopics : Nat := 4

namespace Reader

/-- Abort with a status. -/
def abort {α : Type} (status : StatusCode) : Reader α := fun cursor => .error status cursor

/-- Read a fixed number of bytes. -/
def readFixed (size : Nat) : Reader (FixedBytes size) := fun cursor =>
  if enough : (cursor.rest.take size).length = size then
    .ok ⟨cursor.rest.take size, enough⟩ ⟨cursor.position + size, cursor.rest.drop size⟩
  else
    .error .invalidInstruction cursor

/-- Read an unsigned number of some bytes. -/
def readNumber (size : Nat) : Reader Nat := do
  let bytes ← readFixed size
  pure bytes.toNat

/-- Read a number of words. -/
def readWords : Nat → Reader (List Word)
  | 0 => pure []
  | count + 1 => do
      let word ← readFixed 32
      let words ← readWords count
      pure (word :: words)

/-- Refuse to write in a static call. -/
def ensureWritable (isStatic : Bool) : Reader Unit :=
  if isStatic then abort .staticModeViolation else pure ()

/-- Read the operands of a call. -/
def readCall : Reader Command := do
  let kindNumber ← readNumber 1
  let address ← readFixed 20
  let gas ← readNumber 8
  let value ← readFixed 32
  let salt ← readFixed 32
  let length ← readNumber 2
  let input ← readFixed length
  match CallKind.ofRaw (Int32.ofNat kindNumber) with
  | .ok kind => pure (.call kind address (UInt64.ofNat gas) value salt input.toList)
  | .error _ => abort .invalidInstruction

/-- Read the topics of a log. -/
def readLog : Reader Command := do
  let count ← readNumber 1
  if maxLogTopics < count then abort .invalidInstruction
  else
    let topics ← readWords count
    pure (.log topics)

/-- Read the operands that belong to an opcode.  Commands that always write
are refused in a static call before their operands are read. -/
def readCommand (isStatic : Bool) (opcode : UInt8) : Reader Command :=
  match opcode.toNat with
  | 0x00 => pure .stop
  | 0x01 => pure .echo
  | 0x02 => do
      let key ← readFixed 32
      pure (.loadSlot key)
  | 0x03 => do
      ensureWritable isStatic
      let key ← readFixed 32
      let value ← readFixed 32
      pure (.storeSlot key value)
  | 0x04 => do
      let address ← readFixed 20
      pure (.balance address)
  | 0x05 => readCall
  | 0x06 => pure .revert
  | 0x07 => pure .blockNumber
  | 0x08 => do
      let number ← readNumber 8
      pure (.blockHash (UInt64.ofNat number))
  | 0x09 => do
      let address ← readFixed 20
      pure (.accountCode address)
  | 0x0a => do
      ensureWritable isStatic
      let beneficiary ← readFixed 20
      pure (.selfdestruct beneficiary)
  | 0x0b => do
      let address ← readFixed 20
      pure (.access address)
  | 0x0c => do
      ensureWritable isStatic
      readLog
  | 0x0d => do
      let address ← readFixed 20
      pure (.accountExists address)
  | 0x0e => pure .origin
  | 0xfe => pure .invalid
  | _ => abort .undefinedInstruction

/-- The cursor that a read leaves. -/
def cursorAfter {α : Type} : EStateM.Result StatusCode Cursor α → Cursor
  | .ok _ cursor => cursor
  | .error _ cursor => cursor

end Reader

/-- One cursor lies some bytes of code behind another. -/
def Cursor.Advances (before after : Cursor) : Prop :=
  ∃ read : Bytes, before.rest = read ++ after.rest ∧
    after.position = before.position + read.length

theorem Cursor.Advances.refl (cursor : Cursor) : cursor.Advances cursor :=
  ⟨[], rfl, rfl⟩

theorem Cursor.Advances.trans {first second third : Cursor}
    (earlier : first.Advances second) (later : second.Advances third) :
    first.Advances third := by
  obtain ⟨read, rest_eq, position_eq⟩ := earlier
  obtain ⟨more, rest_eq', position_eq'⟩ := later
  refine ⟨read ++ more, ?_, ?_⟩
  · rw [rest_eq, rest_eq', List.append_assoc]
  · rw [position_eq', position_eq, List.length_append, Nat.add_assoc]

theorem Cursor.Advances.length_le {before after : Cursor}
    (advances : before.Advances after) : after.rest.length ≤ before.rest.length := by
  obtain ⟨read, rest_eq, _⟩ := advances
  rw [rest_eq, List.length_append]
  exact Nat.le_add_left _ _

namespace Reader

/-- A read that only moves the cursor forward. -/
def MovesForward {α : Type} (reader : Reader α) : Prop :=
  ∀ cursor : Cursor, cursor.Advances (cursorAfter (reader cursor))

theorem movesForward_pure {α : Type} (value : α) : MovesForward (pure value) :=
  fun cursor => .refl cursor

theorem movesForward_abort {α : Type} (status : StatusCode) :
    MovesForward (abort status : Reader α) :=
  fun cursor => .refl cursor

theorem movesForward_bind {α β : Type} {reader : Reader α} {next : α → Reader β}
    (first : MovesForward reader) (second : ∀ value, MovesForward (next value)) :
    MovesForward (reader >>= next) := by
  intro cursor
  have step := first cursor
  change cursor.Advances (cursorAfter (EStateM.bind reader next cursor))
  rw [EStateM.bind]
  cases outcome : reader cursor with
  | ok value later =>
      rw [outcome] at step
      exact step.trans (second value later)
  | error status later =>
      rw [outcome] at step
      exact step

theorem movesForward_readFixed (size : Nat) : MovesForward (readFixed size) := by
  intro cursor
  unfold readFixed
  split
  · rename_i enough
    exact ⟨cursor.rest.take size, (List.take_append_drop _ _).symm, by simp only [cursorAfter, enough]⟩
  · exact .refl cursor

theorem movesForward_readNumber (size : Nat) : MovesForward (readNumber size) :=
  movesForward_bind (movesForward_readFixed size) fun _ => movesForward_pure _

theorem movesForward_readWords (count : Nat) : MovesForward (readWords count) := by
  induction count with
  | zero => exact movesForward_pure _
  | succ count ih =>
      exact movesForward_bind (movesForward_readFixed 32) fun _ =>
        movesForward_bind ih fun _ => movesForward_pure _

theorem movesForward_ensureWritable (isStatic : Bool) :
    MovesForward (ensureWritable isStatic) := by
  unfold ensureWritable
  split
  · exact movesForward_abort _
  · exact movesForward_pure _

theorem movesForward_readCall : MovesForward readCall := by
  refine movesForward_bind (movesForward_readNumber 1) fun kindNumber => ?_
  refine movesForward_bind (movesForward_readFixed 20) fun _ => ?_
  refine movesForward_bind (movesForward_readNumber 8) fun _ => ?_
  refine movesForward_bind (movesForward_readFixed 32) fun _ => ?_
  refine movesForward_bind (movesForward_readFixed 32) fun _ => ?_
  refine movesForward_bind (movesForward_readNumber 2) fun length => ?_
  refine movesForward_bind (movesForward_readFixed length) fun _ => ?_
  split
  · exact movesForward_pure _
  · exact movesForward_abort _

theorem movesForward_readLog : MovesForward readLog := by
  refine movesForward_bind (movesForward_readNumber 1) fun count => ?_
  split
  · exact movesForward_abort _
  · exact movesForward_bind (movesForward_readWords count) fun _ => movesForward_pure _

theorem movesForward_readCommand (isStatic : Bool) (opcode : UInt8) :
    MovesForward (readCommand isStatic opcode) := by
  have one (size : Nat) (make : FixedBytes size → Command) :
      MovesForward (do let bytes ← readFixed size; pure (make bytes)) :=
    movesForward_bind (movesForward_readFixed size) fun _ => movesForward_pure _
  unfold readCommand
  split
  · exact movesForward_pure _
  · exact movesForward_pure _
  · exact one 32 .loadSlot
  · refine movesForward_bind (movesForward_ensureWritable isStatic) fun _ => ?_
    exact movesForward_bind (movesForward_readFixed 32) fun key => one 32 (.storeSlot key)
  · exact one 20 .balance
  · exact movesForward_readCall
  · exact movesForward_pure _
  · exact movesForward_pure _
  · exact movesForward_bind (movesForward_readNumber 8) fun _ => movesForward_pure _
  · exact one 20 .accountCode
  · exact movesForward_bind (movesForward_ensureWritable isStatic) fun _ =>
      one 20 .selfdestruct
  · exact one 20 .access
  · exact movesForward_bind (movesForward_ensureWritable isStatic) fun _ =>
      movesForward_readLog
  · exact one 20 .accountExists
  · exact movesForward_pure _
  · exact movesForward_pure _
  · exact movesForward_abort _

/-- A command that was read lies between the cursors before and after it. -/
theorem readCommand_advances {isStatic : Bool} {opcode : UInt8} {before after : Cursor}
    {command : Command}
    (read : readCommand isStatic opcode before = .ok command after) :
    before.Advances after := by
  have forward := movesForward_readCommand isStatic opcode before
  rwa [read] at forward

end Reader

end VmBridge
