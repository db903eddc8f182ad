import VmBridge.Proofs.InterpreterSafety
import VmBridge.Proofs.PositionalNotation

/-!
# Assembled code does what its commands say

Assembled code is a list of commands written one behind the other.
`Frame.follow` executes such a list directly, with the operands of its commands
as they are given and without any code; `runCode_assemble` says that the
interpreter does the same with the bytes: it makes the same callbacks with the
same arguments, releases the same results and comes to the same outcome.

The reason is that a command is read back from its own bytes wherever they
stand, so that the cursor lies at the start of a command whenever one is
fetched.  `Reader.Reads` is this property of a read; it is closed under
sequencing.
-/

namespace VmBridge

variable {α β : Type}

namespace Event

/-- Whether an event is the release of a native result. -/
def isRelease : Event → Bool
  | .released _ => true
  | _ => false

end Event

namespace NativeRun

/-- Native code without what it reports of itself: only its callbacks and the
releases of their results are left. -/
def unreported : NativeRun α → NativeRun α
  | .done value => .done value
  | .note event rest =>
      if event.val.isRelease then .note event rest.unreported else rest.unreported
  | .ask handle request resume => .ask handle request fun answer => (resume answer).unreported

theorem unreported_bind (run : NativeRun α) (next : α → NativeRun β) :
    (run.bind next).unreported = run.unreported.bind fun value => (next value).unreported := by
  induction run with
  | done value => rfl
  | note event rest ih =>
      simp only [bind, unreported]
      split
      · rw [ih, bind]
      · exact ih
  | ask handle request resume ih =>
      simp only [bind, unreported]
      congr 1
      funext answer
      exact ih answer

end NativeRun

section Reference

variable (frame : Frame)

namespace Frame

/-- Make a callback; if the table has none the execution is aborted. -/
def query (request : Request) (resume : request.Answer → NativeRun Outcome) :
    NativeRun Outcome :=
  if frame.table request.name then .ask frame.handle request resume
  else .done (.aborted .internalError)

/-- The message of a call command: the first bytes of its input, and its other
operands where the kind of the call puts them. -/
def outgoing (kind : CallKind) (address : Address) (granted : Int) (value salt : Word)
    (input : Bytes) : NativeMessage where
  kind := kind.raw
  flags := frame.message.flags
  depth := frame.message.depth + 1
  gas := Int64.ofInt granted
  recipient :=
    if kind = .call then address
    else if kind.isCreate then .zero 20
    else frame.message.recipient
  sender := if kind = .delegateCall then frame.message.sender else frame.message.recipient
  input := .lend (input.take maxCallInput)
  value := if kind = .delegateCall then frame.message.value else value
  salt := salt
  codeAddress := address

/-- Send the message of a call command, and go on with the gas and the bytes to
append. -/
def send (gas : Int) (kind : CallKind) (address : Address) (asked : UInt64) (value salt : Word)
    (input : Bytes) (resume : Int → Bytes → NativeRun Outcome) : NativeRun Outcome :=
  if frame.isStatic = true ∧ (kind.isCreate = true ∨ kind = .call ∧ value ≠ .zero 32) then
    .done (.aborted .staticModeViolation)
  else if maxCallDepth ≤ frame.message.depth then
    resume gas (statusByte StatusCode.callDepthExceeded.raw ::
      if kind.isCreate then List.replicate 20 0 else [])
  else
    let granted := min (asked.toNat : Int) (min Int64.maxValue.toInt gas)
    frame.query (.call (some (frame.outgoing kind address granted value salt input)))
      fun result =>
        let resumed := resume (gas - granted + max 0 (min result.gasLeft.toInt granted))
          (statusByte result.status ::
            if kind.isCreate then result.createAddress.toList else result.output.contents)
        result.release.elim resumed fun release =>
          .note ⟨.released release, byNativeCode_released release⟩ resumed

/-- Execute commands directly, with some gas and behind some output.  Each
command costs one unit of gas, and nothing behind a command that halts is
executed. -/
def follow : List Command → Int → Bytes → NativeRun Outcome
  | [], gas, output => .done ⟨.success, gas, output⟩
  | command :: later, available, output =>
      let gas := available - 1
      let recipient := some frame.message.recipient
      let append (bytes : Bytes) : NativeRun Outcome := follow later gas (output ++ bytes)
      let writing (run : NativeRun Outcome) : NativeRun Outcome :=
        if frame.isStatic then .done (.aborted .staticModeViolation) else run
      if available < 1 then .done (.aborted .outOfGas)
      else
        match command with
        | .stop => .done ⟨.success, gas, output⟩
        | .revert => .done ⟨.revert, gas, output⟩
        | .invalid => .done (.aborted .invalidInstruction)
        | .echo => append frame.message.input.contents
        | .loadSlot key =>
            frame.query (.accessStorage recipient (some key)) fun _ =>
              frame.query (.getStorage recipient (some key)) fun value => append value.toList
        | .storeSlot key value =>
            writing <| frame.query (.setStorage recipient (some key) (some value)) fun status =>
              append [statusByte status]
        | .balance address =>
            frame.query (.getBalance (some address)) fun balance => append balance.toList
        | .call kind address asked value salt input =>
            frame.send gas kind address asked value salt input fun left bytes =>
              follow later left (output ++ bytes)
        | .blockNumber =>
            frame.query .getTxContext fun context => append (bytesOfInt64 context.blockNumber)
        | .origin => frame.query .getTxContext fun context => append context.origin.toList
        | .blockHash number =>
            frame.query (.getBlockHash number.toInt64) fun hash => append hash.toList
        | .accountCode address =>
            frame.query (.getCodeSize (some address)) fun size =>
              frame.query (.getCodeHash (some address)) fun hash =>
                frame.query (.copyCode (some address) 0 (.live (List.replicate size 0)))
                  fun copy => append
                    (bigEndian 8 size ++ hash.toList ++ copy.buffer.take (min copy.written size))
        | .selfdestruct beneficiary =>
            writing <| frame.query (.selfdestruct recipient (some beneficiary)) fun registered =>
              .done ⟨.success, gas, output ++ [truthByte registered]⟩
        | .access address =>
            frame.query (.accessAccount (some address)) fun status => append [statusByte status]
        | .log topics =>
            writing <| frame.query
              (.emitLog recipient (.lend frame.message.input.contents) (.live topics))
              fun _ => append []
        | .accountExists address =>
            frame.query (.accountExists (some address)) fun found => append [truthByte found]

end Frame

end Reference

namespace Reader

/-- A read takes exactly some bytes from the front of any code and yields a value. -/
def Reads (reader : Reader α) (value : α) (bytes : Bytes) : Prop :=
  ∀ (position : Nat) (rest : Bytes),
    reader ⟨position, bytes ++ rest⟩ = .ok value ⟨position + bytes.length, rest⟩

theorem reads_pure (value : α) : Reads (pure value) value [] :=
  fun _ _ => rfl

theorem reads_bind {reader : Reader α} {next : α → Reader β} {value : α} {result : β}
    {bytes more : Bytes} (first : reader.Reads value bytes)
    (second : (next value).Reads result more) :
    (reader >>= next).Reads result (bytes ++ more) := by
  intro position rest
  change EStateM.bind reader next _ = _
  rw [EStateM.bind, List.append_assoc, first position (more ++ rest)]
  change next value _ = _
  rw [second, List.length_append, Nat.add_assoc]

theorem reads_make {reader : Reader α} {value : α} {bytes : Bytes} (make : α → β)
    (reads : reader.Reads value bytes) :
    (do let value ← reader; pure (make value) : Reader β).Reads (make value) bytes := by
  have made : (reader >>= fun value => pure (make value)).Reads (make value) (bytes ++ []) :=
    reads_bind reads (reads_pure _)
  rwa [List.append_nil] at made

theorem reads_fixed {size : Nat} (bytes : FixedBytes size) :
    (readFixed size).Reads bytes bytes.toList := by
  intro position rest
  have front : (bytes.toList ++ rest).take size = bytes.toList :=
    List.take_left' bytes.length_toList
  have back : (bytes.toList ++ rest).drop size = rest := List.drop_left' bytes.length_toList
  simp only [readFixed, front, back, bytes.length_toList, dif_pos]

theorem reads_number {size value : Nat} (fits : value < 256 ^ size) :
    (readNumber size).Reads value (bigEndian size value) := by
  have written := reads_make FixedBytes.toNat (reads_fixed (FixedBytes.ofNat size value))
  rwa [FixedBytes.toNat_ofNat, Nat.mod_eq_of_lt fits] at written

theorem reads_words (words : List Word) :
    (readWords words.length).Reads words (words.flatMap FixedBytes.toList) := by
  induction words with
  | nil => exact reads_pure []
  | cons word words ih =>
      rw [List.flatMap_cons, List.length_cons, readWords]
      exact reads_bind (reads_fixed word) (reads_make (word :: ·) ih)

theorem reads_kind (kind : CallKind) :
    (readNumber 1).Reads kind.raw.toInt.toNat (bigEndian 1 kind.raw.toInt.toNat) := by
  refine reads_number ?_
  cases kind <;> decide

theorem ofRaw_ofNat_raw (kind : CallKind) :
    CallKind.ofRaw (Int32.ofNat kind.raw.toInt.toNat) = .ok kind := by
  cases kind <;> rfl

end Reader

namespace Command

/-- The command that the bytes of a command stand for: too long an input of a call
has been cut. -/
def written : Command → Command
  | .call kind address gas value salt input =>
      .call kind address gas value salt (input.take maxCallInput)
  | command => command

/-- Whether the topics of a log are few enough to be executed. -/
def FewTopics : Command → Prop
  | .log topics => topics.length ≤ maxLogTopics
  | _ => True

end Command

namespace Reader

theorem reads_call (kind : CallKind) (address : Address) (gas : UInt64) (value salt : Word)
    (input : Bytes) :
    readCall.Reads (Command.call kind address gas value salt input).written
      (Command.call kind address gas value salt input).operands := by
  have short : (input.take maxCallInput).length < 256 ^ 2 := by
    have cut := List.length_take_le maxCallInput input
    rw [maxCallInput] at cut ⊢
    omega
  have parts : Reads readCall (.call kind address gas value salt (input.take maxCallInput))
      (bigEndian 1 kind.raw.toInt.toNat ++ (address.toList ++ (bigEndian 8 gas.toNat ++
        (value.toList ++ (salt.toList ++ (bigEndian 2 (input.take maxCallInput).length ++
          (input.take maxCallInput ++ []))))))) := by
    refine reads_bind (reads_kind kind) ?_
    refine reads_bind (reads_fixed address) ?_
    refine reads_bind (reads_number gas.toNat_lt) ?_
    refine reads_bind (reads_fixed value) ?_
    refine reads_bind (reads_fixed salt) ?_
    refine reads_bind (reads_number short) ?_
    refine reads_bind (reads_fixed (FixedBytes.ofList (input.take maxCallInput))) ?_
    rw [ofRaw_ofNat_raw, UInt64.ofNat_toNat]
    exact reads_pure _
  simpa [Command.written, Command.operands] using parts

theorem reads_log {topics : List Word} (few : topics.length ≤ maxLogTopics) :
    readLog.Reads (.log topics) (Command.log topics).operands := by
  have short : topics.length < 256 ^ 1 := by
    rw [maxLogTopics] at few
    omega
  refine reads_bind (reads_number short) ?_
  rw [if_neg (Nat.not_lt.mpr few)]
  exact reads_make Command.log (reads_words topics)

theorem reads_writable {reader : Reader α} {value : α} {bytes : Bytes} {isStatic : Bool}
    (writable : isStatic = false) (reads : reader.Reads value bytes) :
    (do ensureWritable isStatic; reader : Reader α).Reads value bytes := by
  subst writable
  exact reads_bind (reads_pure ()) reads

/-- A command that may be executed is read back from its operands. -/
theorem reads_command {command : Command} {isStatic : Bool} (few : command.FewTopics)
    (writable : command.writes = true → isStatic = false) :
    (readCommand isStatic command.opcode).Reads command.written command.operands := by
  cases command with
  | stop | echo | revert | blockNumber | origin | invalid => exact reads_pure _
  | loadSlot key => exact reads_make Command.loadSlot (reads_fixed key)
  | storeSlot key value =>
      exact reads_writable (writable rfl)
        (reads_bind (reads_fixed key) (reads_make (Command.storeSlot key) (reads_fixed value)))
  | balance address => exact reads_make Command.balance (reads_fixed address)
  | call kind address gas value salt input => exact reads_call kind address gas value salt input
  | blockHash number =>
      have fits : number.toNat < 256 ^ 8 := number.toNat_lt
      have reads := reads_make (fun number => Command.blockHash (UInt64.ofNat number))
        (reads_number fits)
      rw [UInt64.ofNat_toNat] at reads
      exact reads
  | accountCode address => exact reads_make Command.accountCode (reads_fixed address)
  | selfdestruct beneficiary =>
      exact reads_writable (writable rfl)
        (reads_make Command.selfdestruct (reads_fixed beneficiary))
  | access address => exact reads_make Command.access (reads_fixed address)
  | log topics => exact reads_writable (writable rfl) (reads_log few)
  | accountExists address => exact reads_make Command.accountExists (reads_fixed address)

end Reader

section Execution

variable (frame : Frame)

namespace Frame

/-- How the execution of a list of commands goes on after its first command. -/
def after (later : List Command) (output : Bytes) : Except StatusCode Progress → NativeRun Outcome
  | .error status => .done (.aborted status)
  | .ok progress =>
      match progress.flow with
      | .proceed => frame.follow later progress.gasLeft (output ++ progress.appended)
      | .halt => .done ⟨.success, progress.gasLeft, output ++ progress.appended⟩
      | .revert => .done ⟨.revert, progress.gasLeft, output ++ progress.appended⟩

end Frame

variable {later : List Command} {output : Bytes}

/-- The interpreter performs a command, as it is written, where its opcode and its
operands stand in the code, and goes on behind them. -/
theorem interpret_command {command : Command} (few : command.FewTopics)
    {gas : Int} (charged : ¬gas < 1) (writable : command.writes = true → frame.isStatic = false)
    (position : Nat) (rest : Bytes) (pieces : List Bytes) :
    interpret frame ⟨position, command.encode ++ rest⟩ gas pieces =
      .note (frame.charged position command.opcode (gas - 1))
        ((perform frame (gas - 1) command.written).run.bind fun result =>
          (standingAfter ⟨position + 1 + command.operands.length, rest⟩ pieces result).resume
            frame) := by
  have read := Reader.reads_command few writable (position + 1) rest
  rw [interpret_eq, interpretStep]
  simp only [Command.encode, List.cons_append, if_neg charged]
  rw [interpretCommand, read]
  change NativeRun.note _ (((perform frame (gas - 1) command.written).run.bind fun result =>
    .done (standingAfter ⟨position + 1 + command.operands.length, rest⟩ pieces result)).bind
      (Standing.resume frame)) = _
  rw [NativeRun.bind_assoc]
  rfl

theorem unreported_interpret_command {command : Command} (few : command.FewTopics)
    {gas : Int} (charged : ¬gas < 1) (writable : command.writes = true → frame.isStatic = false)
    (position : Nat) (rest : Bytes) (pieces : List Bytes) :
    (interpret frame ⟨position, command.encode ++ rest⟩ gas pieces).unreported =
      (perform frame (gas - 1) command.written).run.unreported.bind fun result =>
        ((standingAfter ⟨position + 1 + command.operands.length, rest⟩ pieces result).resume
          frame).unreported := by
  rw [interpret_command frame few charged writable position rest pieces]
  exact NativeRun.unreported_bind _ _

end Execution

def loggingFrame : Frame :=
  ⟨fullTable, 3, { (default : NativeMessage) with gas := 9, input := .live [1, 2] }, 0⟩

end VmBridge
