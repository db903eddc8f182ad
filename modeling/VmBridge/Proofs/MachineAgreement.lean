import VmBridge.Proofs.GasMeter
import VmBridge.Proofs.MachineInterpreter

/-!
# The machine agrees with the interpreter

Two courses of native code agree if they do the same and make the same callbacks
as long as the answers are admissible, and end with related values.  The machine
fetches the same commands as the reader (`fetchCommand_fetches`), carries them out
in agreement with `perform` (`carryOut_carries`), and so takes the same steps as
`interpret`, one after the other.
-/

namespace VmBridge

/-- What a callback can be answered: a size of code that can be allocated, and a
buffer that is as long as it was lent. -/
def Request.Admits : (request : Request) → request.Answer → Prop
  | .getCodeSize _, size => size ≤ maxAllocation
  | .copyCode _ _ buffer, copied => copied.buffer.length = buffer.contents.length
  | _, _ => True

namespace NativeRun

variable {α β γ δ : Type} {related : α → β → Prop}

/-- Two courses do the same as long as the answers are admissible. -/
inductive Agrees (related : α → β → Prop) : NativeRun α → NativeRun β → Prop where
  | done {value : α} {value' : β} (ended : related value value') :
      Agrees related (.done value) (.done value')
  | note {event : NativeEvent} {rest : NativeRun α} {rest' : NativeRun β}
      (agrees : Agrees related rest rest') : Agrees related (.note event rest) (.note event rest')
  | ask {handle : Nat} {request : Request} {resume : request.Answer → NativeRun α}
      {resume' : request.Answer → NativeRun β}
      (agrees : ∀ answer, request.Admits answer →
        Agrees related (resume answer) (resume' answer)) :
      Agrees related (.ask handle request resume) (.ask handle request resume')

theorem Agrees.bind {related' : γ → δ → Prop} {run : NativeRun α} {run' : NativeRun β}
    {next : α → NativeRun γ} {next' : β → NativeRun δ} (agrees : run.Agrees related run')
    (then_agrees : ∀ value value', related value value' →
      (next value).Agrees related' (next' value')) :
    (run.bind next).Agrees related' (run'.bind next') := by
  induction agrees with
  | done ended => exact then_agrees _ _ ended
  | note _ ih => exact .note ih
  | ask _ ih => exact .ask ih

theorem Agrees.and_yields {run : NativeRun α} {run' : NativeRun β}
    {asks : Nat → Request → Prop} {yields : β → Prop} (agrees : run.Agrees related run')
    (obeys : run'.Obeys asks yields) :
    run.Agrees (fun value value' => related value value' ∧ yields value') run' := by
  induction agrees with
  | done ended => exact .done ⟨ended, obeys⟩
  | note _ ih => exact .note (ih obeys)
  | ask _ ih => exact .ask fun answer admitted => ih answer admitted (obeys.2 answer)

theorem bind_done (run : NativeRun α) : run.bind .done = run := by
  induction run with
  | done value => rfl
  | note event rest ih => exact congrArg (NativeRun.note event) ih
  | ask handle request resume ih =>
      exact congrArg (NativeRun.ask handle request) (funext fun answer => ih answer)

theorem bind_assoc (run : NativeRun α) (next : α → NativeRun β) (last : β → NativeRun γ) :
    (run.bind next).bind last = run.bind fun value => (next value).bind last := by
  induction run with
  | done value => rfl
  | note event rest ih => exact congrArg (NativeRun.note event) ih
  | ask handle request resume ih =>
      exact congrArg (NativeRun.ask handle request) (funext fun answer => ih answer)

end NativeRun

namespace Machine

variable {α β : Type} {frame : Frame} {code : Bytes} {registers : Registers}

theorem bind_done {work : Machine α} {next : α → Machine β} {value : α} {later : Registers}
    (finished : work registers = .done (.ok value, later)) :
    (work >>= next) registers = next value later := by
  change (work registers).bind (andThen next) = _
  rw [finished]
  rfl

theorem bind_stopped {work : Machine α} {next : α → Machine β} {stop : Stop} {later : Registers}
    (stopped : work registers = .done (.error stop, later)) :
    (work >>= next) registers = .done (.error stop, later) := by
  change (work registers).bind (andThen next) = _
  rw [stopped]
  rfl

theorem getRegisters_bind (next : Registers → Machine β) :
    (getRegisters >>= next) registers = next registers registers :=
  rfl

/-- Work may be cut into parts anywhere. -/
instance : LawfulMonad Machine := LawfulMonad.mk' _
  (fun work => by
    funext registers
    refine Eq.trans ?_ (work registers).bind_done
    refine congrArg (work registers).bind (funext fun result => ?_)
    obtain ⟨ended | stop, later⟩ := result <;> rfl)
  (fun _ _ => rfl)
  (fun work next last => by
    funext registers
    refine ((work registers).bind_assoc _ _).trans ?_
    refine congrArg (work registers).bind (funext fun result => ?_)
    obtain ⟨value | stop, later⟩ := result <;> rfl)

theorem setRegisters_apply {later : Registers} (within : Within frame code later) :
    setRegisters frame code later registers = .done (.ok (), later) :=
  if_pos within

theorem slice_apply (registers : Registers) {bytes : Bytes} {start stop : Nat}
    (ordered : start ≤ stop) (inside : stop ≤ bytes.length) :
    slice bytes start stop registers =
      .done (.ok ((bytes.drop start).take (stop - start)), registers) := by
  rw [slice, if_pos ⟨ordered, inside⟩]
  rfl

theorem append_apply (within : Within frame code registers) (bytes : Bytes) :
    append frame code bytes registers =
      .done (.ok (), { registers with output := registers.output ++ bytes }) := by
  have later : Within frame code { registers with output := registers.output ++ bytes } := within
  exact setRegisters_apply later

section Fetching

/-- The cursor at a position of code. -/
def cursorAt (code : Bytes) (position : Nat) : Cursor := ⟨position, code.drop position⟩

theorem advances_cursorAt {position : Nat} {after : Cursor} (within : position ≤ code.length)
    (advances : (cursorAt code position).Advances after) :
    after = cursorAt code after.position ∧ after.position ≤ code.length := by
  obtain ⟨read, rest_eq, position_eq⟩ := advances
  have position_eq' : after.position = position + read.length := position_eq
  have rest_eq' : code.drop position = read ++ after.rest := rest_eq
  have total := congrArg List.length rest_eq'
  rw [List.length_drop, List.length_append] at total
  have rest_after : after.rest = code.drop after.position := by
    rw [position_eq', ← List.drop_drop, rest_eq', List.drop_left]
  refine ⟨?_, by omega⟩
  rw [cursorAt, ← rest_after]

/-- The registers after a read, and how the read ended. -/
def moved (registers : Registers) : EStateM.Result StatusCode Cursor α →
    Except Stop α × Registers
  | .ok value cursor => (.ok value, { registers with position := cursor.position })
  | .error status cursor => (.error (.abort status), { registers with position := cursor.position })

theorem moved_withPosition (position : Nat) (result : EStateM.Result StatusCode Cursor α) :
    moved { registers with position } result = moved registers result := by
  cases result <;> rfl

/-- Work does what a reader does, with the registers within their bounds. -/
structure Fetches (frame : Frame) (code : Bytes) (work : Machine α) (reader : Reader α) :
    Prop where
  forward : reader.MovesForward
  fetched : ∀ registers, Within frame code registers →
    work registers = .done (moved registers (reader (cursorAt code registers.position)))

theorem fetches_pure (value : α) : Fetches frame code (pure value) (pure value) :=
  ⟨Reader.movesForward_pure value, fun _ _ => rfl⟩

theorem fetches_abort (status : StatusCode) :
    Fetches frame code (abort status : Machine α) (Reader.abort status) :=
  ⟨Reader.movesForward_abort status, fun _ _ => rfl⟩

theorem fetches_bind {work : Machine α} {reader : Reader α} {next : α → Machine β}
    {nextReader : α → Reader β} (first : Fetches frame code work reader)
    (second : ∀ value, Fetches frame code (next value) (nextReader value)) :
    Fetches frame code (work >>= next) (reader >>= nextReader) where
  forward := Reader.movesForward_bind first.forward fun value => (second value).forward
  fetched registers within := by
    have forward := first.forward (cursorAt code registers.position)
    have finished := first.fetched registers within
    change _ = NativeRun.done (moved registers (EStateM.bind reader nextReader _))
    rw [EStateM.bind]
    cases outcome : reader (cursorAt code registers.position) with
    | error status cursor =>
        rw [outcome] at finished
        exact bind_stopped finished
    | ok value cursor =>
        rw [outcome] at finished forward
        obtain ⟨cursor_eq, position_le⟩ :
            cursor = cursorAt code cursor.position ∧ cursor.position ≤ code.length :=
          advances_cursorAt within.1 forward
        have later : Within frame code { registers with position := cursor.position } :=
          ⟨position_le, within.2⟩
        have rest := (second value).fetched _ later
        rw [← cursor_eq, moved_withPosition] at rest
        exact (bind_done finished).trans rest

theorem readFixed_cursorAt (size position : Nat) :
    Reader.readFixed size (cursorAt code position) =
      if enough : ((code.drop position).take size).length = size then
        .ok ⟨(code.drop position).take size, enough⟩ (cursorAt code (position + size))
      else .error .invalidInstruction (cursorAt code position) := by
  rw [Reader.readFixed]
  simp only [cursorAt, List.drop_drop]

variable (addressable : code.length < addressCount)

include addressable

theorem immediate_apply (size : Nat) (within : Within frame code registers) :
    immediate frame code size registers =
      if registers.position + size ≤ code.length then
        .done (.ok ((code.drop registers.position).take size),
          { registers with position := registers.position + size })
      else .done (.error (.abort .invalidInstruction), registers) := by
  rw [immediate, getRegisters_bind]
  by_cases fits : registers.position + size ≤ code.length
  · have sum_eq : (checkedAdd registers.position size).filter (· ≤ code.length) =
        some (registers.position + size) := by
      rw [checkedAdd, if_pos (by omega), Option.filter_some, if_pos (by simpa using fits)]
    have sliced := slice_apply registers
      (Nat.le_add_right registers.position size) fits
    rw [Nat.add_sub_cancel_left] at sliced
    have later : Within frame code { registers with position := registers.position + size } :=
      ⟨fits, within.2⟩
    rw [if_pos fits, sum_eq]
    exact (bind_done sliced).trans (bind_done (setRegisters_apply later))
  · have sum_eq : (checkedAdd registers.position size).filter (· ≤ code.length) = none := by
      rw [checkedAdd]
      split
      · rw [Option.filter_some, if_neg (by simpa using fits)]
      · rfl
    rw [if_neg fits, sum_eq]
    rfl

omit addressable in
theorem length_taken {size position : Nat} (fits : position + size ≤ code.length) :
    ((code.drop position).take size).length = size := by
  rw [List.length_take, List.length_drop]
  omega

theorem fetchFixed_fits {size : Nat} (within : Within frame code registers)
    (fits : registers.position + size ≤ code.length) :
    fetchFixed frame code size registers =
      .done (.ok ⟨(code.drop registers.position).take size, length_taken fits⟩,
        { registers with position := registers.position + size }) := by
  have taken := immediate_apply addressable size within
  rw [if_pos fits] at taken
  refine (bind_done taken).trans ?_
  rw [copyFixed, dif_pos (length_taken fits)]
  rfl

theorem fetchFixed_short {size : Nat} (within : Within frame code registers)
    (short : ¬ registers.position + size ≤ code.length) :
    fetchFixed frame code size registers =
      .done (.error (.abort .invalidInstruction), registers) := by
  have taken := immediate_apply addressable size within
  rw [if_neg short] at taken
  exact bind_stopped taken

theorem fetches_fixed (size : Nat) :
    Fetches frame code (fetchFixed frame code size) (Reader.readFixed size) where
  forward := Reader.movesForward_readFixed size
  fetched registers within := by
    rw [readFixed_cursorAt]
    by_cases fits : registers.position + size ≤ code.length
    · rw [fetchFixed_fits addressable within fits, dif_pos (length_taken fits)]
      rfl
    · have position_le := within.1
      rw [fetchFixed_short addressable within fits, dif_neg]
      · rfl
      · rw [List.length_take, List.length_drop]
        omega

/-- Bytes that are not copied to a place of their size are the same. -/
theorem fetches_immediate {size : Nat} {next : Bytes → Machine β}
    {nextReader : FixedBytes size → Reader β}
    (second : ∀ bytes, Fetches frame code (next bytes.toList) (nextReader bytes)) :
    Fetches frame code (immediate frame code size >>= next)
      (Reader.readFixed size >>= nextReader) where
  forward := Reader.movesForward_bind (Reader.movesForward_readFixed size) fun bytes =>
    (second bytes).forward
  fetched registers within := by
    rw [← (fetches_bind (fetches_fixed addressable size) second).fetched registers within]
    have taken := immediate_apply addressable size within
    by_cases fits : registers.position + size ≤ code.length
    · rw [if_pos fits] at taken
      have fetched : (fetchFixed frame code size >>= fun bytes => next bytes.toList) registers =
          _ := bind_done (fetchFixed_fits addressable within fits)
      exact (bind_done taken).trans fetched.symm
    · rw [if_neg fits] at taken
      exact (bind_stopped taken).trans
        (bind_stopped (fetchFixed_short addressable within fits)).symm

theorem fetches_number (size : Nat) :
    Fetches frame code (fetchNumber frame code size) (Reader.readNumber size) :=
  fetches_bind (fetches_fixed addressable size) fun _ => fetches_pure _

theorem fetches_byte : Fetches frame code (fetchByte frame code) (Reader.readNumber 1) := by
  refine fetches_immediate addressable fun bytes => ?_
  obtain ⟨byte, only⟩ := List.length_eq_one_iff.mp bytes.length_toList
  have number_eq : bytes.toNat = byte.toNat := by simp [FixedBytes.toNat, only, ofBigEndian]
  rw [only, number_eq]
  exact fetches_pure _

theorem fetches_words (count : Nat) :
    Fetches frame code (fetchWords frame code count) (Reader.readWords count) := by
  induction count with
  | zero => exact fetches_pure _
  | succ count ih =>
      exact fetches_bind (fetches_fixed addressable 32) fun _ =>
        fetches_bind ih fun _ => fetches_pure _

omit addressable in
theorem fetches_ensureWritable :
    Fetches frame code (ensureWritable frame) (Reader.ensureWritable frame.isStatic) := by
  rw [ensureWritable, Reader.ensureWritable]
  split
  · exact fetches_abort _
  · exact fetches_pure _

theorem fetches_call : Fetches frame code (fetchCall frame code) Reader.readCall := by
  refine fetches_bind (fetches_byte addressable) fun kindNumber => ?_
  refine fetches_bind (fetches_fixed addressable 20) fun address => ?_
  refine fetches_bind (fetches_number addressable 8) fun gas => ?_
  refine fetches_bind (fetches_fixed addressable 32) fun value => ?_
  refine fetches_bind (fetches_fixed addressable 32) fun salt => ?_
  refine fetches_bind (fetches_number addressable 2) fun length => ?_
  refine fetches_immediate addressable fun input => ?_
  cases CallKind.ofRaw (Int32.ofNat kindNumber) with
  | ok kind => exact fetches_pure _
  | error raw => exact fetches_abort _

theorem fetches_log : Fetches frame code (fetchLog frame code) Reader.readLog := by
  refine fetches_bind (fetches_byte addressable) fun count => ?_
  split
  · exact fetches_abort _
  · exact fetches_bind (fetches_words addressable count) fun _ => fetches_pure _

/-- The machine fetches the command that the reader reads. -/
theorem fetchCommand_fetches (opcode : UInt8) :
    Fetches frame code (fetchCommand frame code opcode)
      (Reader.readCommand frame.isStatic opcode) := by
  have one (size : Nat) (make : FixedBytes size → Command) :
      Fetches frame code (do let bytes ← fetchFixed frame code size; pure (make bytes))
        (do let bytes ← Reader.readFixed size; pure (make bytes)) :=
    fetches_bind (fetches_fixed addressable size) fun _ => fetches_pure _
  have guarded {work : Machine Command} {reader : Reader Command}
      (fetches : Fetches frame code work reader) :
      Fetches frame code (do ensureWritable frame; work)
        (do Reader.ensureWritable frame.isStatic; reader) :=
    fetches_bind fetches_ensureWritable fun _ => fetches
  unfold Reader.readCommand
  split
  case h_17 =>
    unfold fetchCommand
    split
    all_goals first | contradiction | exact fetches_abort _
  all_goals
    rename_i number_eq
    simp only [fetchCommand, number_eq]
  · exact fetches_pure _
  · exact fetches_pure _
  · exact one 32 .loadSlot
  · exact guarded (fetches_bind (fetches_fixed addressable 32) fun key => one 32 (.storeSlot key))
  · exact one 20 .balance
  · exact fetches_call addressable
  · exact fetches_pure _
  · exact fetches_pure _
  · exact fetches_bind (fetches_number addressable 8) fun _ => fetches_pure _
  · exact one 20 .accountCode
  · exact guarded (one 20 .selfdestruct)
  · exact one 20 .access
  · exact guarded (fetches_log addressable)
  · exact one 20 .accountExists
  · exact fetches_pure _
  · exact fetches_pure _

end Fetching

section Arithmetic

variable {granted : Int64}

theorem subtract_apply (registers : Registers) (first second : Int64)
    (least : Int64.minValue.toInt ≤ first.toInt - second.toInt)
    (most : first.toInt - second.toInt ≤ Int64.maxValue.toInt) :
    ∃ difference : Int64, subtract first second registers =
        .done (.ok difference, registers) ∧ difference.toInt = first.toInt - second.toInt := by
  have minValue_eq : Int64.minValue.toInt = -2 ^ 63 := by decide
  have maxValue_eq : Int64.maxValue.toInt = 2 ^ 63 - 1 := by decide
  refine ⟨Int64.ofInt (first.toInt - second.toInt), ?_,
    Int64.toInt_ofInt_of_le (by omega) (by omega)⟩
  rw [subtract, if_pos ⟨least, most⟩]
  rfl

theorem toInt_grant (asked : UInt64) (gasLeft : Int64) :
    (grant asked gasLeft).toInt = grantedGas asked gasLeft.toInt := by
  have most : Int64.maxValue.toInt = 2 ^ 63 - 1 := by decide
  have fitting : (if asked.toNat ≤ Int64.maxValue.toInt.toNat then Int64.ofNat asked.toNat
      else Int64.maxValue).toInt = min (asked.toNat : Int) Int64.maxValue.toInt := by
    split
    · rw [Int64.toInt_ofNat_of_lt (by omega)]
      omega
    · omega
  rw [grant, grantedGas, ← fitting]
  generalize (if asked.toNat ≤ Int64.maxValue.toInt.toNat then Int64.ofNat asked.toNat
    else Int64.maxValue) = limited
  simp only [Int64.lt_iff_toInt_lt]
  split <;> omega

/-- A clamp between zero and the granted gas is what comes back. -/
theorem clamp_apply (registers : Registers) (reported : Int64) (nonneg : 0 ≤ granted.toInt) :
    ∃ returned : Int64, clamp reported 0 granted registers = .done (.ok returned, registers) ∧
      returned.toInt = returnedGas granted.toInt reported.toInt := by
  have zero : (0 : Int64).toInt = 0 := rfl
  rw [clamp, returnedGas]
  simp only [Int64.lt_iff_toInt_lt, zero]
  rw [if_neg (by omega)]
  split
  · exact ⟨0, rfl, by omega⟩
  · split
    · exact ⟨granted, rfl, by omega⟩
    · exact ⟨reported, rfl, by omega⟩

/-- Neither of the two subtractions overflows, and the gas stays within its
bounds. -/
theorem pay_apply (within : Within frame code registers) (reported : Int64)
    (nonneg : 0 ≤ granted.toInt) (le : granted.toInt ≤ registers.gasLeft.toInt) :
    ∃ gasLeft : Int64, pay frame code granted reported registers =
        .done (.ok (), { registers with gasLeft }) ∧
      gasLeft.toInt = registers.gasLeft.toInt -
        (granted.toInt - returnedGas granted.toInt reported.toInt) ∧
      Within frame code { registers with gasLeft } := by
  obtain ⟨returned, clamped, returned_eq⟩ := clamp_apply registers reported nonneg
  have back := returnedGas_bounds reported.toInt nonneg
  have minValue_eq : Int64.minValue.toInt = -2 ^ 63 := by decide
  have most := Int64.toInt_le registers.gasLeft
  obtain ⟨spent, subtracted, spent_eq⟩ :=
    subtract_apply registers granted returned (by omega) (by omega)
  obtain ⟨gasLeft, settled, left_eq⟩ :=
    subtract_apply registers registers.gasLeft spent (by omega) (by omega)
  have later : Within frame code { registers with gasLeft } := by
    have bounds := within.2
    exact ⟨within.1, by simp only; omega, by simp only; omega⟩
  refine ⟨gasLeft, ?_, by omega, later⟩
  refine (bind_done clamped).trans ((bind_done subtracted).trans ?_)
  rw [getRegisters_bind]
  exact (bind_done settled).trans (setRegisters_apply later)

theorem increment_apply {number : Int32} (less : number.toInt < Int32.maxValue.toInt) :
    increment number registers = .done (.ok (number + 1), registers) := by
  rw [increment, if_pos (by omega)]
  rfl

end Arithmetic

section Commands

/-- How the registers stand after a command, beside what the command leads to. -/
def Carried (frame : Frame) (code : Bytes) (before : Registers) :
    Except Stop Flow × Registers → Except StatusCode Progress → Prop
  | (.ok flow, after), .ok progress =>
      flow = progress.flow ∧ after.position = before.position ∧
        after.gasLeft.toInt = progress.gasLeft ∧
        after.output = before.output ++ progress.appended ∧ Within frame code after
  | (.error (.abort status), after), .error status' =>
      status = status' ∧ after.position = before.position ∧ Within frame code after
  | _, _ => False

/-- The machine carries out a step of the interpreter. -/
def Carries (frame : Frame) (code : Bytes) (registers : Registers) (work : Machine Flow)
    (step : Step Progress) : Prop :=
  (work registers).Agrees (Carried frame code registers) step.run

theorem carries_done {work : Machine Flow} {flow : Flow} {later : Registers}
    {progress : Progress} (finished : work registers = .done (.ok flow, later))
    (carried : Carried frame code registers (.ok flow, later) (.ok progress)) :
    Carries frame code registers work (pure progress) := by
  rw [Carries, finished]
  exact .done carried

theorem carries_after {work : Machine α} {value : α} {next : α → Machine Flow}
    {step : Step Progress} (finished : work registers = .done (.ok value, registers))
    (carries : Carries frame code registers (next value) step) :
    Carries frame code registers (work >>= next) step := by
  rw [Carries, bind_done finished]
  exact carries

theorem carries_note {event : NativeEvent} {next : Unit → Machine Flow}
    {nextStep : Unit → Step Progress}
    (carries : Carries frame code registers (next ()) (nextStep ())) :
    Carries frame code registers (note event >>= next) (Step.note event >>= nextStep) :=
  .note carries

variable (within : Within frame code registers)

include within

theorem carries_pure (flow : Flow) :
    Carries frame code registers (pure flow) (pure ⟨registers.gasLeft.toInt, [], flow⟩) :=
  .done ⟨rfl, rfl, rfl, (List.append_nil _).symm, within⟩

theorem carries_abort (status : StatusCode) :
    Carries frame code registers (abort status) (throw status) :=
  .done ⟨rfl, rfl, within⟩

theorem carries_append (bytes : Bytes) (flow : Flow) :
    Carries frame code registers
      (do append frame code bytes; pure flow)
      (pure ⟨registers.gasLeft.toInt, bytes, flow⟩) :=
  carries_done (bind_done (append_apply within bytes)) ⟨rfl, rfl, rfl, rfl, within⟩

/-- A missing callback aborts, and any other one is asked with the same request. -/
theorem carries_ask {request : Request} {next : request.Answer → Machine Flow}
    {nextStep : request.Answer → Step Progress}
    (carries : ∀ answer, request.Admits answer →
      Carries frame code registers (next answer) (nextStep answer)) :
    Carries frame code registers (ask frame request >>= next)
      (Step.ask frame request >>= nextStep) := by
  rw [Carries, ExceptT.run_bind, Step.ask]
  change ((ask frame request registers).bind (andThen next)).Agrees _ _
  rw [ask]
  split
  · exact .ask carries
  · exact .done ⟨rfl, rfl, within⟩

/-- After a call the gas that does not come back is paid. -/
theorem carries_answered {granted : Int64} (nonneg : 0 ≤ granted.toInt)
    (le : granted.toInt ≤ registers.gasLeft.toInt) (reported : Int64) (appended : Bytes) :
    Carries frame code registers
      (do
        pay frame code granted reported
        append frame code appended
        pure .proceed)
      (pure ⟨registers.gasLeft.toInt -
        (granted.toInt - returnedGas granted.toInt reported.toInt), appended, .proceed⟩) := by
  obtain ⟨gasLeft, paid, left_eq, later⟩ := pay_apply within reported nonneg le
  exact carries_done ((bind_done paid).trans (bind_done (append_apply later appended)))
    ⟨rfl, rfl, left_eq, rfl, later⟩

theorem call_carries (kind : CallKind) (address : Address) (gas : UInt64)
    (value salt : Word) (input : Bytes) :
    Carries frame code registers
      (do call frame code kind address gas value salt input; pure .proceed)
      (performCall frame registers.gasLeft.toInt kind address gas value salt input) := by
  have granted_eq := toInt_grant gas registers.gasLeft
  obtain ⟨granted_nonneg, granted_le, _⟩ := grantedGas_bounds gas within.2.1
  rw [← granted_eq] at granted_nonneg granted_le
  unfold call performCall
  rw [← granted_eq]
  split
  · exact carries_abort within _
  split
  · exact carries_append within _ _
  rename_i shallow
  have depth_lt : frame.message.depth.toInt < Int32.maxValue.toInt := by
    have deepest : maxCallDepth.toInt < Int32.maxValue.toInt := by decide
    rw [Int32.le_iff_toInt_le] at shallow
    omega
  have nested_eq : { nestedMessage frame.message kind address
        (grant gas registers.gasLeft).toInt value salt input with
      gas := grant gas registers.gasLeft, depth := frame.message.depth + 1 } =
      nestedMessage frame.message kind address (grant gas registers.gasLeft).toInt value salt
        input := by
    simp only [nestedMessage, Int64.ofInt_toInt]
  simp only [bind_assoc]
  refine carries_after rfl (carries_after (increment_apply depth_lt) ?_)
  rw [nested_eq]
  refine carries_ask within fun result _ => ?_
  cases result.release with
  | none =>
      simp only [bind_assoc]
      exact carries_answered within granted_nonneg granted_le _ _
  | some release =>
      simp only [bind_assoc]
      exact carries_note (carries_answered within granted_nonneg granted_le _ _)

/-- The memory for the code can be allocated, and what is copied lies inside of it. -/
theorem copyCode_carries (address : Address) {size : Nat} (fits : size ≤ maxAllocation)
    (hash : Word) :
    Carries frame code registers
      (do
        let buffer ← allocate size
        let copy ← ask frame (.copyCode (some address) 0 (.live buffer))
        append frame code (bigEndian 8 size)
        append frame code hash.toList
        let written ← slice copy.buffer 0 (min copy.written size)
        append frame code written
        pure .proceed)
      (do
        let copy ← Step.ask frame
          (.copyCode (some address) 0 (.live (FixedBytes.zero size).toList))
        pure ⟨registers.gasLeft.toInt,
          bigEndian 8 size ++ hash.toList ++ copy.buffer.take (min copy.written size),
          .proceed⟩) := by
  have allocated : allocate size registers =
      .done (.ok (FixedBytes.zero size).toList, registers) := by
    rw [allocate, if_pos fits]
    rfl
  refine carries_after allocated (carries_ask within fun copy same => ?_)
  have length_eq : copy.buffer.length = size := same.trans (FixedBytes.zero size).length_toList
  let sized : Registers := { registers with output := registers.output ++ bigEndian 8 size }
  let hashed : Registers := { registers with output := sized.output ++ hash.toList }
  have sliced := slice_apply hashed (Nat.zero_le (min copy.written size))
    (show min copy.written size ≤ copy.buffer.length by omega)
  let copied : Registers := { hashed with
    output := hashed.output ++ copy.buffer.take (min copy.written size) }
  have sized_within : Within frame code sized := within
  have hashed_within : Within frame code hashed := within
  have carried : Carried frame code registers (.ok .proceed, copied)
      (.ok ⟨registers.gasLeft.toInt,
        bigEndian 8 size ++ hash.toList ++ copy.buffer.take (min copy.written size), .proceed⟩) :=
    ⟨rfl, rfl, rfl, by simp [sized, hashed, copied], within⟩
  refine carries_done ?_ carried
  refine (bind_done (append_apply within _)).trans ?_
  refine (bind_done (append_apply sized_within _)).trans ?_
  refine (bind_done sliced).trans ?_
  exact bind_done (append_apply hashed_within _)

/-- The machine carries out every command as the interpreter performs it. -/
theorem carryOut_carries (command : Command) :
    Carries frame code registers (carryOut frame code command)
      (perform frame registers.gasLeft.toInt command) := by
  cases command with
  | stop => exact carries_pure within _
  | revert => exact carries_pure within _
  | invalid => exact carries_abort within _
  | echo => exact carries_append within _ _
  | call kind address gas value salt input =>
      exact call_carries within kind address gas value salt input
  | loadSlot key =>
      exact carries_ask within fun _ _ => carries_ask within fun _ _ => carries_append within _ _
  | accountCode address =>
      refine carries_ask within fun size fits => carries_ask within fun hash _ => ?_
      exact copyCode_carries within address fits hash
  | log topics => exact carries_ask within fun _ _ => carries_pure within _
  | storeSlot | balance | blockNumber | origin | blockHash | selfdestruct | access
  | accountExists =>
      exact carries_ask within fun _ _ => carries_append within _ _

end Commands

end Machine

end VmBridge
