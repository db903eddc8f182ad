import VmBridge.Proofs.MachineAgreement

/-!
# The interpreter is safe against any host

`interpretStep` is one round of the interpreter, and the machine takes the same
steps (`step_agrees`).  Every round that continues moves forward in the code and
charges gas, so the machine executes code in a number of steps that is known
beforehand, and comes to the same end as the interpreter without a crash, whatever
its callbacks are answered: `Machine.safe_of_addressable`.
-/

namespace VmBridge

namespace NativeRun

variable {α β : Type} {related : α → β → Prop} {asks : Nat → Request → Prop}

/-- Native code makes only certain callbacks and ends only with certain values, as
long as the answers are admissible. -/
def Respects (asks : Nat → Request → Prop) (yields : α → Prop) : NativeRun α → Prop
  | .done value => yields value
  | .note _ rest => rest.Respects asks yields
  | .ask handle request resume =>
      asks handle request ∧
        ∀ answer, request.Admits answer → (resume answer).Respects asks yields

inductive MayEnd : NativeRun α → α → Prop where
  | done (value : α) : MayEnd (.done value) value
  | note {event : NativeEvent} {rest : NativeRun α} {value : α} (ends : MayEnd rest value) :
      MayEnd (.note event rest) value
  | ask {handle : Nat} {request : Request} {resume : request.Answer → NativeRun α} {value : α}
      (answer : request.Answer) (admitted : request.Admits answer)
      (ends : MayEnd (resume answer) value) : MayEnd (.ask handle request resume) value

theorem MayEnd.yields {yields : α → Prop} {run : NativeRun α} {value : α}
    (ends : run.MayEnd value) (respects : run.Respects asks yields) : yields value := by
  induction ends with
  | done value => exact respects
  | note _ ih => exact ih respects
  | ask answer admitted _ ih => exact ih (respects.2 answer admitted)

/-- Native code respects what code that it agrees with obeys. -/
theorem Agrees.respects {yields : α → Prop} {yields' : β → Prop} {run : NativeRun α}
    {run' : NativeRun β} (agrees : run.Agrees related run') (obeys : run'.Obeys asks yields')
    (carry : ∀ value value', related value value' → yields' value' → yields value) :
    run.Respects asks yields := by
  induction agrees with
  | done ended => exact carry _ _ ended obeys
  | note _ ih => exact ih obeys
  | ask _ ih => exact ⟨obeys.1, fun answer admitted => ih answer admitted (obeys.2 answer)⟩

theorem Respects.imp {stronger : Nat → Request → Prop} {yields : α → Prop} {run : NativeRun α}
    (respects : run.Respects stronger yields)
    (weaken : ∀ handle request, stronger handle request → asks handle request) :
    run.Respects asks yields := by
  induction run with
  | done value => exact respects
  | note event rest ih => exact ih respects
  | ask handle request resume ih =>
      exact ⟨weaken _ _ respects.1, fun answer admitted => ih answer (respects.2 answer admitted)⟩

end NativeRun

inductive Standing where
  | going (cursor : Cursor) (gasLeft : Int) (pieces : List Bytes)
  | ended (outcome : Outcome)
  | aborted (position : Nat) (status : StatusCode)

/-- How an execution stands after a command, by what the command led to. -/
def standingAfter (next : Cursor) (pieces : List Bytes) : Except StatusCode Progress → Standing
  | .error status => .aborted next.position status
  | .ok ⟨gasLeft, appended, .proceed⟩ => .going next gasLeft (appended :: pieces)
  | .ok ⟨gasLeft, appended, .halt⟩ =>
      .ended ⟨.success, gasLeft, joinNewest (appended :: pieces)⟩
  | .ok ⟨gasLeft, appended, .revert⟩ =>
      .ended ⟨.revert, gasLeft, joinNewest (appended :: pieces)⟩

section Rounds

variable (frame : Frame)

/-- Read a command and perform it, once its unit of gas has been charged. -/
def interpretCommand (opcode : UInt8) (cursor : Cursor) (gasLeft : Int)
    (pieces : List Bytes) : NativeRun Standing :=
  match Reader.readCommand frame.isStatic opcode cursor with
  | .error status stopped => .done (.aborted stopped.position status)
  | .ok command next =>
      (perform frame gasLeft command).run.bind fun result => .done (standingAfter next pieces result)

def interpretStep (cursor : Cursor) (gasLeft : Int) (pieces : List Bytes) :
    NativeRun Standing :=
  match cursor.rest with
  | [] => .done (.ended ⟨.success, gasLeft, joinNewest pieces⟩)
  | opcode :: rest =>
      if gasLeft < 1 then .done (.aborted (cursor.position + 1) .outOfGas)
      else
        .note (frame.charged cursor.position opcode (gasLeft - 1))
          (interpretCommand frame opcode ⟨cursor.position + 1, rest⟩ (gasLeft - 1) pieces)

/-- What remains to be done after a round. -/
def Standing.resume : Standing → NativeRun Outcome
  | .going cursor gasLeft pieces => interpret frame cursor gasLeft pieces
  | .ended outcome => .done outcome
  | .aborted position status => abortAt frame position status

theorem interpret_eq (cursor : Cursor) (gasLeft : Int) (pieces : List Bytes) :
    interpret frame cursor gasLeft pieces =
      (interpretStep frame cursor gasLeft pieces).bind (Standing.resume frame) := by
  rw [interpret, interpretStep]
  split
  · rename_i code_eq
    simp only [code_eq]
    rfl
  · rename_i opcode rest code_eq
    simp only [code_eq]
    split
    · rfl
    · change NativeRun.note _ _ = NativeRun.note _ (NativeRun.bind _ _)
      rw [interpretCommand]
      congr 1
      split
      · rename_i status stopped read
        rw [read]
        rfl
      · rename_i command next read
        rw [read]
        refine Eq.trans ?_ (NativeRun.bind_assoc _ _ _).symm
        refine congrArg (perform frame (gasLeft - 1) command).run.bind (funext fun result => ?_)
        cases result with
        | error status => rfl
        | ok progress =>
            obtain ⟨left, appended, flow⟩ := progress
            cases flow <;> rfl

/-- What a round leads to: it has moved forward in the code and charged gas, or it
ends the execution. -/
def Standing.Follows (cursor : Cursor) (gasLeft : Int) : Standing → Prop
  | .going next left _ => cursor.position < next.position ∧ left < gasLeft
  | .ended _ => True
  | .aborted _ status => status.Aborts

/-- A round asks for what its frame may ask with the gas that it has left after the
charge. -/
theorem interpretStep_obeys (cursor : Cursor) (gasLeft : Int) (pieces : List Bytes) :
    (interpretStep frame cursor gasLeft pieces).Obeys (frame.Asks gasLeft)
      (Standing.Follows cursor gasLeft) := by
  rw [interpretStep]
  split
  · trivial
  · rename_i opcode rest _
    split
    · exact (by decide : StatusCode.outOfGas.Aborts)
    · rw [NativeRun.Obeys, interpretCommand]
      split
      · rename_i status stopped read
        exact Reader.aborts_readCommand _ _ _ _ _ read
      · rename_i command next read
        have writable := Reader.yields_readCommand _ _ _ _ _ read
        obtain ⟨taken, _, position_eq⟩ := Reader.readCommand_advances read
        have forward : cursor.position < next.position := by
          change next.position = cursor.position + 1 + taken.length at position_eq
          omega
        have performed : (perform frame (gasLeft - 1) command).Obeys (frame.Asks gasLeft)
            (Progress.Spends (gasLeft - 1)) :=
          perform_obeys (by omega) (by omega) writable
        have metered : (perform frame (gasLeft - 1) command).Meters Progress.Settles
            (gasLeft - 1) := perform_meters (by omega) command
        refine (NativeRun.obeys_bind _ _).mpr
          (NativeRun.Obeys.imp (NativeRun.Obeys.and_settles performed metered) ?_)
        rintro result ⟨spent, left, settled⟩
        cases result with
        | error status => exact settled.2
        | ok progress =>
            obtain ⟨_, left_le⟩ := spent
            obtain ⟨gasLeft', appended, flow⟩ := progress
            cases flow with
            | proceed => exact ⟨forward, Int.lt_of_le_sub_one left_le⟩
            | halt | revert => trivial

/-- An outcome with neither success nor revert keeps neither gas nor output. -/
def Outcome.Burns (outcome : Outcome) : Prop :=
  ¬ outcome.status.KeepsGas → outcome.gasLeft = 0 ∧ outcome.output = []

theorem abortAt_burns (position : Nat) (status : StatusCode) :
    (abortAt frame position status).Obeys (fun _ _ => True) Outcome.Burns := by
  rw [abortAt]
  split <;> exact fun _ => ⟨rfl, rfl⟩

theorem interpret_burns (cursor : Cursor) (gasLeft : Int) (pieces : List Bytes) :
    (interpret frame cursor gasLeft pieces).Obeys (fun _ _ => True) Outcome.Burns := by
  fun_induction interpret frame cursor gasLeft pieces with
  | case1 cursor gasLeft pieces _ => exact fun aborted => absurd (Or.inl rfl) aborted
  | case2 cursor gasLeft pieces opcode rest _ afterOpcode _ => exact abortAt_burns frame _ _
  | case3 cursor gasLeft pieces opcode rest _ afterOpcode charged ih =>
      rw [NativeRun.Obeys]
      split
      · exact abortAt_burns frame _ _
      · rename_i command next read
        refine (NativeRun.obeys_bind _ _).mpr ((NativeRun.obeys_any _).imp fun result _ => ?_)
        cases result with
        | error status => exact abortAt_burns frame _ _
        | ok progress =>
            cases flow : progress.flow with
            | proceed =>
                simp only [flow]
                exact ih command next read progress
            | halt =>
                simp only [flow]
                exact fun aborted => absurd (Or.inl rfl) aborted
            | revert =>
                simp only [flow]
                exact fun aborted => absurd (Or.inr rfl) aborted

end Rounds

/-- A nested message brings at most the gas that is left, lies one level deeper, and
keeps the flags. -/
structure Frame.Sends (frame : Frame) (gasLeft : Int) (nested : NativeMessage) : Prop where
  gas_nonneg : 0 ≤ nested.gas.toInt
  gas_le : nested.gas.toInt ≤ gasLeft
  depth_eq : nested.depth.toInt = frame.message.depth.toInt + 1
  depth_le : nested.depth.toInt ≤ 1024
  flags_eq : nested.flags = frame.message.flags

/-- The callbacks of a frame when some gas is left. -/
def Frame.AsksWithin (frame : Frame) (gasLeft : Int) (handle : Nat) (request : Request) :
    Prop :=
  handle = frame.handle ∧
    ∀ message, request = .call message → ∃ nested, message = some nested ∧
      frame.Sends gasLeft nested

theorem Frame.Asks.within {frame : Frame} {gas : Int} {handle : Nat} {request : Request}
    (asks : frame.Asks gas handle request) : frame.AsksWithin (gas - 1) handle request := by
  refine ⟨asks.1, ?_⟩
  rintro message rfl
  cases asks.2 with
  | call kind address granted value salt input granted_nonneg granted_lt granted_fits shallow =>
      have gas_eq := gas_nestedMessage granted_nonneg granted_fits frame.message kind address
        value salt input
      have deepest : maxCallDepth.toInt = 1024 := by decide
      have least := Int32.le_toInt frame.message.depth
      rw [Int32.lt_iff_toInt_lt, deepest] at shallow
      have depth_eq : (frame.message.depth + 1).toInt = frame.message.depth.toInt + 1 := by
        have one : (1 : Int32).toInt = 1 := rfl
        rw [Int32.toInt_add, one]
        exact Int.bmod_eq_of_le (by omega) (by omega)
      exact ⟨_, rfl, {
        gas_nonneg := by omega
        gas_le := by omega
        depth_eq := depth_eq
        depth_le := by simp only [nestedMessage]; omega
        flags_eq := rfl }⟩

namespace Machine

variable {frame : Frame} {code : Bytes} {registers : Registers}

structure Matches (frame : Frame) (code : Bytes) (registers : Registers) (cursor : Cursor)
    (gasLeft : Int) (pieces : List Bytes) : Prop where
  within : Within frame code registers
  cursor_eq : cursor = cursorAt code registers.position
  gasLeft_eq : gasLeft = registers.gasLeft.toInt
  output_eq : registers.output = joinNewest pieces

/-- How the registers stand after a step, beside how the execution stands after the
round. -/
def Stepped (frame : Frame) (code : Bytes) : Except Stop Flow × Registers → Standing → Prop
  | (.ok .proceed, after), .going cursor gasLeft pieces =>
      Matches frame code after cursor gasLeft pieces
  | (.ok .halt, after), .ended outcome =>
      outcome = ⟨.success, after.gasLeft.toInt, after.output⟩ ∧ Within frame code after
  | (.ok .revert, after), .ended outcome =>
      outcome = ⟨.revert, after.gasLeft.toInt, after.output⟩ ∧ Within frame code after
  | (.error (.abort status), after), .aborted position status' =>
      status = status' ∧ after.position = position ∧ Within frame code after
  | _, _ => False

/-- What a step leads to.  It never crashes, and an execution that goes on has moved
forward in the code and charged gas. -/
def Leads (frame : Frame) (code : Bytes) (before : Registers) :
    Except Stop Flow × Registers → Prop
  | (.ok .proceed, after) =>
      Within frame code after ∧ before.position < after.position ∧
        after.gasLeft.toInt < before.gasLeft.toInt
  | (.ok _, after) => Within frame code after
  | (.error (.abort status), after) => ¬ status.KeepsGas ∧ Within frame code after
  | (.error (.crash _), _) => False

/-- The registers with which an execution takes its steps, whatever its callbacks are
answered. -/
inductive Visits (frame : Frame) (code : Bytes) : Registers → Prop where
  | start : Visits frame code (start frame.message)
  | step {before after : Registers} (earlier : Visits frame code before)
      (proceeds : (step frame code before).MayEnd (.ok .proceed, after)) :
      Visits frame code after

def enoughSteps (frame : Frame) (code : Bytes) : Nat :=
  min code.length (startingGas frame.message).toNat + 1

/-- Executing code is safe against any host. -/
structure Safe (frame : Frame) (code : Bytes) : Prop where
  /-- It comes to the same end as the interpreter, in time and without a crash. -/
  ends : (run frame code (enoughSteps frame code) (start frame.message)).Agrees
    (fun finish outcome => finish = .ended outcome) (runCode frame code)
  within : ∀ registers, Visits frame code registers → Within frame code registers
  /-- The gas that is left when a callback is made is without the charge. -/
  steps : ∀ registers, Visits frame code registers →
    (step frame code registers).Respects (frame.AsksWithin (registers.gasLeft.toInt - 1))
      (Leads frame code registers)
  burns : (runCode frame code).Obeys (fun _ _ => True) Outcome.Burns

theorem charge_apply (within : Within frame code registers) :
    charge frame code registers =
        .done (.error (.abort .outOfGas), registers) ∧ registers.gasLeft.toInt < 1 ∨
      ∃ gasLeft : Int64, charge frame code registers =
          .done (.ok (), { registers with gasLeft }) ∧
        1 ≤ registers.gasLeft.toInt ∧ gasLeft.toInt = registers.gasLeft.toInt - 1 ∧
        Within frame code { registers with gasLeft } := by
  have one : (1 : Int64).toInt = 1 := rfl
  rw [charge, getRegisters_bind]
  by_cases short : registers.gasLeft < 1
  · rw [if_pos short]
    exact Or.inl ⟨rfl, by rwa [Int64.lt_iff_toInt_lt, one] at short⟩
  · have enough : 1 ≤ registers.gasLeft.toInt := by
      rw [Int64.lt_iff_toInt_lt, one] at short
      omega
    have bounds := within.2
    have minValue_eq : Int64.minValue.toInt = -2 ^ 63 := by decide
    have most := Int64.toInt_le registers.gasLeft
    obtain ⟨gasLeft, subtracted, left_eq⟩ :=
      subtract_apply registers registers.gasLeft 1 (by omega) (by omega)
    rw [one] at left_eq
    have later : Within frame code { registers with gasLeft } :=
      ⟨within.1, by simp only; omega, by simp only; omega⟩
    refine Or.inr ⟨gasLeft, ?_, enough, left_eq, later⟩
    rw [if_neg short]
    exact (bind_done subtracted).trans (setRegisters_apply later)

theorem stepped_of_carried {next : Cursor} {pieces : List Bytes}
    {result : Except Stop Flow × Registers} {performed : Except StatusCode Progress}
    (carried : Carried frame code registers result performed)
    (next_eq : next = cursorAt code registers.position)
    (output_eq : registers.output = joinNewest pieces) :
    Stepped frame code result (standingAfter next pieces performed) := by
  subst next_eq
  match result, performed, carried with
  | (.error (.abort status), after), .error status', aborted => exact aborted
  | (.ok flow, after), .ok ⟨left, appended, _⟩,
      ⟨rfl, position_eq, gasLeft_eq, output_eq', within⟩ =>
      have joined : after.output = joinNewest (appended :: pieces) := by
        rw [joinNewest_cons, ← output_eq]
        exact output_eq'
      have matched : Matches frame code after (cursorAt code registers.position) left
          (appended :: pieces) :=
        ⟨within, by rw [position_eq], gasLeft_eq.symm, joined⟩
      cases flow with
      | proceed => exact matched
      | halt | revert => exact ⟨by rw [matched.gasLeft_eq, joined], within⟩

theorem toInt_gasLeft_start (frame : Frame) :
    (start frame.message).gasLeft.toInt = startingGas frame.message := by
  have zero : (0 : Int64).toInt = 0 := rfl
  rw [start, startingGas]
  simp only [Int64.lt_iff_toInt_lt, zero]
  split <;> omega

theorem matches_start (frame : Frame) (code : Bytes) :
    Matches frame code (start frame.message) ⟨0, code⟩ (startingGas frame.message) [] := by
  have gas_eq := toInt_gasLeft_start frame
  have nonneg := startingGas_nonneg frame.message
  exact ⟨⟨Nat.zero_le _, by omega, by omega⟩, rfl, gas_eq.symm, rfl⟩

theorem agrees_ended (course : NativeRun Outcome) :
    (course.bind fun outcome => .done (Finish.ended outcome)).Agrees
      (fun finish outcome => finish = .ended outcome) course := by
  induction course with
  | done outcome => exact .done rfl
  | note event rest ih => exact .note ih
  | ask handle request resume ih => exact .ask fun answer _ => ih answer

section Addressable

variable (addressable : code.length < addressCount)

include addressable

theorem command_agrees {pieces : List Bytes} (within : Within frame code registers)
    (output_eq : registers.output = joinNewest pieces) (opcode : UInt8) :
    ((fetchCommand frame code opcode >>= carryOut frame code) registers).Agrees
      (Stepped frame code)
      (interpretCommand frame opcode (cursorAt code registers.position)
        registers.gasLeft.toInt pieces) := by
  have fetches : Fetches frame code (fetchCommand frame code opcode)
      (Reader.readCommand frame.isStatic opcode) := fetchCommand_fetches addressable opcode
  have fetched := fetches.fetched registers within
  have forward := fetches.forward (cursorAt code registers.position)
  rw [interpretCommand]
  cases read : Reader.readCommand frame.isStatic opcode (cursorAt code registers.position) with
  | error status stopped =>
      rw [read] at fetched forward
      obtain ⟨_, position_le⟩ := advances_cursorAt within.1 forward
      rw [bind_stopped fetched]
      exact .done ⟨rfl, rfl, position_le, within.2⟩
  | ok command next =>
      rw [read] at fetched forward
      obtain ⟨next_eq, position_le⟩ := advances_cursorAt within.1 forward
      let later : Registers := { registers with position := next.position }
      have still : Within frame code later := ⟨position_le, within.2⟩
      have carried := carryOut_carries still command
      rw [bind_done fetched, ← NativeRun.bind_done (carryOut frame code command later)]
      exact carried.bind fun _ _ related => .done (stepped_of_carried related next_eq output_eq)

/-- The machine takes the same step as the interpreter. -/
theorem step_agrees {cursor : Cursor} {gasLeft : Int} {pieces : List Bytes}
    (same : Matches frame code registers cursor gasLeft pieces) :
    (step frame code registers).Agrees (Stepped frame code)
      (interpretStep frame cursor gasLeft pieces) := by
  obtain ⟨within, rfl, rfl, output_eq⟩ := same
  rw [step, getRegisters_bind]
  by_cases inside : registers.position < code.length
  · rw [List.getElem?_eq_getElem inside, checkedAdd, if_pos (by omega)]
    simp only [interpretStep, cursorAt, List.drop_eq_getElem_cons inside]
    have moved : Within frame code { registers with position := registers.position + 1 } :=
      ⟨inside, within.2⟩
    rw [bind_done (setRegisters_apply moved)]
    obtain ⟨charged, short⟩ | ⟨gasLeft, charged, enough, left_eq, later⟩ := charge_apply moved
    · rw [bind_stopped charged, if_pos short]
      exact .done ⟨rfl, rfl, moved⟩
    · rw [bind_done charged, getRegisters_bind, if_neg (Int.not_lt.mpr enough), ← left_eq]
      exact .note (command_agrees addressable later output_eq _)
  · rw [List.getElem?_eq_none (by omega)]
    simp only [interpretStep, cursorAt, List.drop_eq_nil_of_le (Nat.le_of_not_lt inside)]
    refine .done ⟨?_, within⟩
    rw [output_eq]

theorem step_leads (within : Within frame code registers) :
    (step frame code registers).Respects (frame.AsksWithin (registers.gasLeft.toInt - 1))
      (Leads frame code registers) := by
  have same : Matches frame code registers (cursorAt code registers.position)
      registers.gasLeft.toInt [registers.output] :=
    ⟨within, rfl, rfl, rfl⟩
  have obeys := interpretStep_obeys frame (cursorAt code registers.position)
    registers.gasLeft.toInt [registers.output]
  refine ((step_agrees addressable same).respects obeys ?_).imp fun _ _ asks => asks.within
  intro result standing stepped follows
  match result, standing, stepped with
  | (.ok .proceed, after), .going _ _ _, ⟨still, rfl, rfl, _⟩ => exact ⟨still, follows⟩
  | (.ok .halt, after), .ended outcome, ⟨_, still⟩ => exact still
  | (.ok .revert, after), .ended outcome, ⟨_, still⟩ => exact still
  | (.error (.abort status), after), .aborted _ _, ⟨rfl, _, still⟩ =>
      exact ⟨StatusCode.Aborts.not_keepsGas follows, still⟩

theorem within_of_visits (visits : Visits frame code registers) :
    Within frame code registers := by
  induction visits with
  | start => exact (matches_start frame code).within
  | step _ proceeds ih =>
      have led : Leads frame code _ (.ok .proceed, _) := proceeds.yields (step_leads addressable ih)
      exact led.1

/-- The machine comes to the end of the interpreter if its steps suffice for the code
or for the gas. -/
theorem run_agrees (steps : Nat) {cursor : Cursor} {gasLeft : Int} {pieces : List Bytes}
    (same : Matches frame code registers cursor gasLeft pieces)
    (suffice : min (code.length - registers.position) gasLeft.toNat < steps) :
    (run frame code steps registers).Agrees (fun finish outcome => finish = .ended outcome)
      (interpret frame cursor gasLeft pieces) := by
  -- A step that goes on leaves less of the code and less gas, so the smaller of both
  -- has sunk as well.
  induction steps generalizing registers cursor gasLeft pieces with
  | zero => omega
  | succ steps ih =>
      rw [run, interpret_eq]
      refine ((step_agrees addressable same).and_yields (interpretStep_obeys frame _ _ _)).bind ?_
      rintro result standing ⟨stepped, follows⟩
      match result, standing, stepped with
      | (.ok .proceed, after), .going next left longer, matched =>
          obtain ⟨forward, charged⟩ := follows
          have position_le := matched.within.1
          have nonneg := matched.within.2.1
          have position_eq : next.position = after.position := by rw [matched.cursor_eq]; rfl
          have position_eq' : cursor.position = registers.position := by rw [same.cursor_eq]; rfl
          rw [← matched.gasLeft_eq] at nonneg
          exact ih matched (by omega)
      | (.ok .halt, after), .ended outcome, ⟨outcome_eq, _⟩ =>
          exact .done (congrArg Finish.ended outcome_eq.symm)
      | (.ok .revert, after), .ended outcome, ⟨outcome_eq, _⟩ =>
          exact .done (congrArg Finish.ended outcome_eq.symm)
      | (.error (.abort status), after), .aborted position _, ⟨rfl, position_eq, _⟩ =>
          subst position_eq
          exact agrees_ended _

theorem safe_of_addressable : Safe frame code where
  ends := run_agrees addressable _ (matches_start frame code) (Nat.lt_succ_self _)
  within _ visits := within_of_visits addressable visits
  steps _ visits := step_leads addressable (within_of_visits addressable visits)
  burns := interpret_burns frame _ _ _

end Addressable

def sparingFrame : Frame := ⟨fullTable, 0, { (default : NativeMessage) with gas := 5 }, 0⟩

/-- A call with all the gas there is, and a key that is cut short. -/
def truncatedCode : Bytes :=
  (Command.plainCall .call (.ofNat 20 2) 0xffffffffffffffff []).encode ++ [0x02, 0x00]

/-- Six steps are enough for the cut code, whatever the call is answered. -/
theorem safe_truncatedCode :
    truncatedCode.length < addressCount ∧ enoughSteps sparingFrame truncatedCode = 6 ∧
      Safe sparingFrame truncatedCode :=
  ⟨by decide, by decide, safe_of_addressable (by decide)⟩

end Machine

end VmBridge
