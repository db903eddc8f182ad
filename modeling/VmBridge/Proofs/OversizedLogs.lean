import VmBridge.Proofs.AssembledCode

/-!
# Logs with too many topics

A log may have four topics at most, and the interpreter judges by the one byte in
which their count is written.  The assembler writes the low byte of the count and all
the topics behind it.  So a log with too many topics is refused exactly if the low byte
of their count is above four.  If it is not, the log is emitted with as many of the
topics as the byte says, and the bytes of the others are executed as commands:
`runCode_log_byCount`.
-/

namespace VmBridge

/-- The count of topics as it is read back from its byte. -/
def countedTopics (topics : List Word) : Nat := topics.length % 256

theorem length_take_countedTopics (topics : List Word) :
    (topics.take (countedTopics topics)).length = countedTopics topics :=
  List.length_take_of_le (Nat.mod_le _ _)

theorem bigEndian_one_mod (value : Nat) : bigEndian 1 (value % 256) = bigEndian 1 value := by
  have same : UInt8.ofNat (value % 256) = UInt8.ofNat value := by
    apply UInt8.toNat_inj.mp
    simp
  simp only [bigEndian, same]

namespace Reader

theorem Reads.bind_apply {α β : Type} {reader : Reader α} {value : α} {bytes : Bytes}
    (reads : reader.Reads value bytes) (next : α → Reader β) (position : Nat) (rest : Bytes) :
    (reader >>= next) ⟨position, bytes ++ rest⟩ =
      next value ⟨position + bytes.length, rest⟩ := by
  change EStateM.bind reader next _ = _
  rw [EStateM.bind, reads]

theorem reads_count (topics : List Word) :
    (readNumber 1).Reads (countedTopics topics) (bigEndian 1 topics.length) := by
  rw [← bigEndian_one_mod]
  exact reads_number (Nat.mod_lt _ (by decide))

/-- A log whose count is too large is refused before its topics are read. -/
theorem readLog_refused {topics : List Word} (many : maxLogTopics < countedTopics topics)
    (position : Nat) (rest : Bytes) :
    readLog ⟨position, (Command.log topics).operands ++ rest⟩ =
      .error .invalidInstruction
        ⟨position + 1, topics.flatMap FixedBytes.toList ++ rest⟩ := by
  rw [Command.operands, List.append_assoc, readLog, (reads_count topics).bind_apply, if_pos many,
    length_bigEndian]
  rfl

/-- Of a log no more topics are read than its count says. -/
theorem reads_logByCount {topics : List Word} (few : countedTopics topics ≤ maxLogTopics) :
    readLog.Reads (.log (topics.take (countedTopics topics)))
      (bigEndian 1 topics.length ++
        (topics.take (countedTopics topics)).flatMap FixedBytes.toList) := by
  refine reads_bind (reads_count topics) ?_
  rw [if_neg (Nat.not_lt.mpr few)]
  have words := reads_make Command.log (reads_words (topics.take (countedTopics topics)))
  rwa [length_take_countedTopics] at words

end Reader

theorem length_flatMap_toList (words : List Word) :
    (words.flatMap FixedBytes.toList).length = 32 * words.length := by
  simp [List.length_flatMap, FixedBytes.length_toList, List.map_const', Nat.mul_comm]

/-- The written operands of a log are those that its count covers, followed by the
bytes of the other topics. -/
theorem operands_log (topics : List Word) :
    (Command.log topics).operands =
      bigEndian 1 topics.length ++
          (topics.take (countedTopics topics)).flatMap FixedBytes.toList ++
        (topics.drop (countedTopics topics)).flatMap FixedBytes.toList := by
  rw [Command.operands, List.append_assoc, ← List.flatMap_append, List.take_append_drop]

section Execution

variable {frame : Frame} {topics : List Word} {gas : Int}

/-- How a log is read and performed, once its unit of gas has been charged. -/
theorem interpret_log (charged : ¬gas < 1) (writable : frame.isStatic = false) (position : Nat)
    (rest : Bytes) (pieces : List Bytes) :
    interpret frame ⟨position, (Command.log topics).encode ++ rest⟩ gas pieces =
      .note (frame.charged position 0x0c (gas - 1))
        (match Reader.readLog ⟨position + 1, (Command.log topics).operands ++ rest⟩ with
          | .error status stopped => abortAt frame stopped.position status
          | .ok command next =>
              (perform frame (gas - 1) command).run.bind fun result =>
                (standingAfter next pieces result).resume frame) := by
  have read : Reader.readCommand frame.isStatic 0x0c
      ⟨position + 1, (Command.log topics).operands ++ rest⟩ =
        Reader.readLog ⟨position + 1, (Command.log topics).operands ++ rest⟩ := by
    rw [writable]
    rfl
  rw [interpret_eq, interpretStep]
  simp only [Command.encode, List.cons_append, if_neg charged]
  change NativeRun.note _ ((interpretCommand frame 0x0c _ _ pieces).bind _) = _
  rw [interpretCommand, read]
  congr 1
  cases Reader.readLog ⟨position + 1, (Command.log topics).operands ++ rest⟩ with
  | error status stopped => rfl
  | ok command next => exact NativeRun.bind_assoc _ _ _

theorem interpret_log_refused (charged : ¬gas < 1) (writable : frame.isStatic = false)
    (many : maxLogTopics < countedTopics topics) (position : Nat) (rest : Bytes)
    (pieces : List Bytes) :
    interpret frame ⟨position, (Command.log topics).encode ++ rest⟩ gas pieces =
      .note (frame.charged position 0x0c (gas - 1))
        (abortAt frame (position + 2) .invalidInstruction) := by
  rw [interpret_log charged writable, Reader.readLog_refused many]

theorem interpret_log_emitted (charged : ¬gas < 1) (writable : frame.isStatic = false)
    (filled : frame.table .emitLog = true) (few : countedTopics topics ≤ maxLogTopics)
    (position : Nat) (rest : Bytes) (pieces : List Bytes) :
    interpret frame ⟨position, (Command.log topics).encode ++ rest⟩ gas pieces =
      .note (frame.charged position 0x0c (gas - 1))
        (.ask frame.handle
          (.emitLog (some frame.message.recipient) (.lend frame.input)
            (.live (topics.take (countedTopics topics))))
          fun _ =>
            interpret frame
              ⟨position + 2 + 32 * countedTopics topics,
                (topics.drop (countedTopics topics)).flatMap FixedBytes.toList ++ rest⟩
              (gas - 1) ([] :: pieces)) := by
  have size_eq : (bigEndian 1 topics.length ++
      (topics.take (countedTopics topics)).flatMap FixedBytes.toList).length =
        1 + 32 * countedTopics topics := by
    rw [List.length_append, length_bigEndian, length_flatMap_toList, length_take_countedTopics]
  rw [interpret_log charged writable, operands_log, List.append_assoc,
    Reader.reads_logByCount few, size_eq, ← Nat.add_assoc]
  congr 1
  exact Step.run_ask_bind filled _ _

/-- A log is refused exactly if the low byte of the count of its topics is above four;
nothing else is executed then and no callback is made.  Otherwise it is emitted with
as many of its topics as the byte says, and the execution goes on with the bytes of
the others. -/
theorem runCode_log_byCount (topics : List Word) (rest : Bytes)
    (writable : frame.isStatic = false) (charged : 1 ≤ frame.message.gas.toInt)
    (filled : frame.table .emitLog = true) :
    let code := (Command.log topics).encode ++ rest
    let gas := startingGas frame.message
    let count := topics.length % 256
    (maxLogTopics < count →
        runCode frame code =
          .note (frame.charged 0 0x0c (gas - 1)) (abortAt frame 2 .invalidInstruction)) ∧
      (count ≤ maxLogTopics →
        runCode frame code =
          .note (frame.charged 0 0x0c (gas - 1))
            (.ask frame.handle
              (.emitLog (some frame.message.recipient) (.lend frame.input)
                (.live (topics.take count)))
              fun _ =>
                interpret frame
                  ⟨2 + 32 * count, (topics.drop count).flatMap FixedBytes.toList ++ rest⟩
                  (gas - 1) [[]])) := by
  intro code gas count
  have enough : ¬gas < 1 := by
    have brought : gas = max frame.message.gas.toInt 0 := rfl
    omega
  constructor
  · intro many
    exact interpret_log_refused enough writable many 0 rest []
  · intro few
    have emitted := interpret_log_emitted enough writable filled few 0 rest []
    rwa [Nat.zero_add] at emitted

end Execution

/-- Five topics are refused. -/
theorem runCode_fiveTopics :
    let topics := List.replicate 5 (FixedBytes.zero 32)
    loggingFrame.isStatic = false ∧ 1 ≤ loggingFrame.message.gas.toInt ∧
      loggingFrame.table .emitLog = true ∧ maxLogTopics < topics.length % 256 ∧
      runCode loggingFrame ((Command.log topics).encode ++ [0xfe]) =
        .note (loggingFrame.charged 0 0x0c 8) (.done (.aborted .invalidInstruction)) := by
  have many : maxLogTopics < (List.replicate 5 (FixedBytes.zero 32)).length % 256 := by decide
  have writable : loggingFrame.isStatic = false := by decide
  obtain ⟨refused, _⟩ := runCode_log_byCount (List.replicate 5 (FixedBytes.zero 32)) [0xfe]
    writable (by decide) rfl
  exact ⟨writable, by decide, rfl, many, refused many⟩

/-- As many topics as their count cannot tell from none. -/
def wrappedTopics : List Word := FixedBytes.zero 32 :: List.replicate 255 (.zero 32)

theorem length_wrappedTopics : wrappedTopics.length = 256 := by
  rw [wrappedTopics, List.length_cons, List.length_replicate]

theorem unreported_ask {α : Type} (handle : Nat) (request : Request)
    (resume : request.Answer → NativeRun α) :
    (NativeRun.ask handle request resume).unreported =
      .ask handle request fun answer => (resume answer).unreported := rfl

theorem unreported_charged {α : Type} (frame : Frame) (position : Nat) (opcode : UInt8)
    (gas : Int) (rest : NativeRun α) :
    (NativeRun.note (frame.charged position opcode gas) rest).unreported = rest.unreported := rfl

/-- A log with 256 topics is not refused: it is emitted without topics, and the first
byte of the first topic halts the execution. -/
theorem runCode_wrappedTopics :
    maxLogTopics < wrappedTopics.length ∧ loggingFrame.isStatic = false ∧
      1 ≤ loggingFrame.message.gas.toInt ∧
      (runCode loggingFrame (Command.log wrappedTopics).encode).unreported =
        .ask 3 (.emitLog (some (.zero 20)) (.live [1, 2]) (.live [])) fun _ =>
          .done ⟨.success, 7, []⟩ := by
  have count_eq : countedTopics wrappedTopics = 0 := by rw [countedTopics, length_wrappedTopics]
  have few : countedTopics wrappedTopics ≤ maxLogTopics := by
    rw [count_eq]
    decide
  have writable : loggingFrame.isStatic = false := by decide
  have charged : ¬(9 : Int) < 1 := by decide
  refine ⟨by rw [length_wrappedTopics]; decide, writable, by decide, ?_⟩
  have emitted := interpret_log_emitted charged writable rfl few 0 [] []
  have zero_eq : (FixedBytes.zero 32).toList = Command.stop.encode ++ List.replicate 31 0 := by
    decide
  obtain ⟨others, code_eq⟩ : ∃ others,
      wrappedTopics.flatMap FixedBytes.toList = Command.stop.encode ++ others := by
    rw [wrappedTopics, List.flatMap_cons, zero_eq, List.append_assoc]
    exact ⟨_, rfl⟩
  have left : ¬(9 - 1 : Int) < 1 := by decide
  have untopical : Command.stop.FewTopics := trivial
  have halted := unreported_interpret_command loggingFrame untopical left
    (fun writes => nomatch writes) (0 + 2 + 32 * 0) others [[]]
  rw [count_eq, List.append_nil, List.append_nil, List.take_zero, List.drop_zero, code_eq]
    at emitted
  change (interpret loggingFrame ⟨0, (Command.log wrappedTopics).encode⟩ 9 []).unreported = _
  rw [emitted, unreported_charged, unreported_ask, halted]
  rfl

end VmBridge
