import VmBridge.Proofs.FrameRequests

/-!
# What executed code is charged

A frame of the example VM starts with the gas of its message.  It pays one unit
for each command, and for a nested message what the answer does not give back.
`NativeRun.Meters` keeps this account along the course of native code, whatever
its callbacks are answered, and `ExampleVm.execute_meters` says what it comes to:
a frame that ends in success or revert has left exactly what it has not paid, and
an aborted frame has nothing left.
-/

namespace VmBridge

/-- A frame that ends with this status keeps the gas that it has left. -/
def StatusCode.KeepsGas (status : StatusCode) : Prop :=
  status = .success ∨ status = .revert

instance (status : StatusCode) : Decidable status.KeepsGas :=
  inferInstanceAs (Decidable (status = .success ∨ status = .revert))

/-- No caller reads this status as one with which a frame keeps its gas. -/
def StatusCode.Aborts (status : StatusCode) : Prop := ¬ (ofRaw status.raw).KeepsGas

instance (status : StatusCode) : Decidable status.Aborts :=
  inferInstanceAs (Decidable (¬ (StatusCode.ofRaw status.raw).KeepsGas))

theorem StatusCode.Aborts.not_keepsGas {status : StatusCode} (aborts : status.Aborts) :
    ¬ status.KeepsGas := by
  rintro (rfl | rfl) <;> exact absurd aborts (by decide)

/-- The gas that is charged when an event happens. -/
def Event.charge : Event → Nat
  | .commandCharged _ _ _ _ => 1
  | _ => 0

/-- The gas that a callback costs: what a nested message was granted and does not
give back. -/
def Request.cost : (request : Request) → request.Answer → Int
  | .call (some message), result =>
      message.gas.toInt - returnedGas message.gas.toInt result.gasLeft.toInt
  | _, _ => 0

namespace NativeRun

variable {α β : Type}

/-- Native code that starts with some gas and pays for its commands and callbacks
ends with a value that settles what is left. -/
def Meters (settles : Int → α → Prop) : Int → NativeRun α → Prop
  | gas, .done value => settles gas value
  | gas, .note event rest => rest.Meters settles (gas - event.val.charge)
  | gas, .ask _ request resume =>
      ∀ answer, (resume answer).Meters settles (gas - request.cost answer)

/-- An event without a charge leaves the account as it is. -/
theorem meters_noteFree {settles : Int → α → Prop} {gas : Int} {event : NativeEvent}
    (free : event.val.charge = 0) (rest : NativeRun α) :
    (NativeRun.note event rest).Meters settles gas ↔ rest.Meters settles gas := by
  rw [Meters, free]
  change rest.Meters settles (gas - 0) ↔ _
  rw [Int.sub_zero]

theorem meters_bind {settles : Int → β → Prop} {gas : Int} (run : NativeRun α)
    (next : α → NativeRun β) :
    (run.bind next).Meters settles gas ↔
      run.Meters (fun left value => (next value).Meters settles left) gas := by
  induction run generalizing gas with
  | done value => rfl
  | note event rest ih => exact ih
  | ask handle request resume ih => exact forall_congr' fun answer => ih answer

theorem Meters.imp {settles weaker : Int → α → Prop} {gas : Int} {run : NativeRun α}
    (meters : run.Meters settles gas)
    (weaken : ∀ left value, settles left value → weaker left value) :
    run.Meters weaker gas := by
  induction run generalizing gas with
  | done value => exact weaken gas value meters
  | note event rest ih => exact ih meters
  | ask handle request resume ih => exact fun answer => ih answer (meters answer)

/-- What holds of every value of native code holds beside its account. -/
theorem Meters.and_yields {settles : Int → α → Prop} {gas : Int} {run : NativeRun α}
    {asks : Nat → Request → Prop} {yields : α → Prop} (meters : run.Meters settles gas)
    (obeys : run.Obeys asks yields) :
    run.Meters (fun left value => settles left value ∧ yields value) gas := by
  induction run generalizing gas with
  | done value => exact ⟨meters, obeys⟩
  | note event rest ih => exact ih meters obeys
  | ask handle request resume ih =>
      exact fun answer => ih answer (meters answer) (obeys.2 answer)

/-- Whatever native code ends with settles its account. -/
theorem Obeys.and_settles {settles : Int → α → Prop} {gas : Int} {run : NativeRun α}
    {asks : Nat → Request → Prop} {yields : α → Prop} (obeys : run.Obeys asks yields)
    (meters : run.Meters settles gas) :
    run.Obeys asks fun value => yields value ∧ ∃ left, settles left value := by
  induction run generalizing gas with
  | done value => exact ⟨obeys, gas, meters⟩
  | note event rest ih => exact ih obeys meters
  | ask handle request resume ih =>
      exact ⟨obeys.1, fun answer => ih answer (obeys.2 answer) (meters answer)⟩

end NativeRun

namespace Step

variable {α β : Type}

/-- A step keeps its account like native code.  A step that aborts has not paid
more than there is, and does so with a status that keeps no gas. -/
def Meters (settles : Int → α → Prop) (gas : Int) (step : Step α) : Prop :=
  step.run.Meters (fun left result =>
    match result with
    | .ok value => settles left value
    | .error status => 0 ≤ left ∧ status.Aborts) gas

theorem meters_pure {settles : Int → α → Prop} {gas : Int} {value : α}
    (settled : settles gas value) : Meters settles gas (pure value) :=
  settled

theorem meters_throw {settles : Int → α → Prop} {gas : Int} {status : StatusCode}
    (nonneg : 0 ≤ gas) (aborts : status.Aborts) :
    Meters settles gas (throw status : Step α) :=
  ⟨nonneg, aborts⟩

theorem meters_bind {settles : Int → β → Prop} {gas : Int} {step : Step α}
    {next : α → Step β}
    (first : step.Meters (fun left value => (next value).Meters settles left) gas) :
    (step >>= next).Meters settles gas := by
  rw [Meters, ExceptT.run_bind]
  refine (NativeRun.meters_bind step.run _).mpr (NativeRun.Meters.imp first ?_)
  intro left result settled
  cases result with
  | ok value => exact settled
  | error status => exact settled

theorem meters_ask {frame : Frame} {request : Request}
    {settles : Int → request.Answer → Prop} {gas : Int} (nonneg : 0 ≤ gas)
    (answered : ∀ answer, settles (gas - request.cost answer) answer) :
    (Step.ask frame request).Meters settles gas := by
  rw [Step.ask]
  split
  · exact answered
  · exact meters_throw nonneg (by decide)

/-- A callback that costs nothing leaves the account as it is. -/
theorem meters_askFree {frame : Frame} {request : Request}
    {settles : Int → request.Answer → Prop} {gas : Int} (nonneg : 0 ≤ gas)
    (free : ∀ answer, request.cost answer = 0) (answered : ∀ answer, settles gas answer) :
    (Step.ask frame request).Meters settles gas := by
  refine meters_ask nonneg fun answer => ?_
  rw [free answer, Int.sub_zero]
  exact answered answer

theorem meters_noteFree {settles : Int → Unit → Prop} {gas : Int} {event : NativeEvent}
    (free : event.val.charge = 0) (settled : settles gas ()) :
    (Step.note event).Meters settles gas :=
  (NativeRun.meters_noteFree free _).mpr settled

end Step

namespace Reader

variable {α β : Type}

/-- A read that fails aborts the frame with one of some statuses. -/
def AbortsOnly (possible : StatusCode → Prop) (reader : Reader α) : Prop :=
  ∀ before status after, reader before = .error status after → possible status

/-- A read that fails aborts the frame with a status that keeps no gas. -/
def Aborts (reader : Reader α) : Prop :=
  ∀ before status after, reader before = .error status after → status.Aborts

variable {possible : StatusCode → Prop}

theorem abortsOnly_pure (value : α) : AbortsOnly possible (pure value) := by
  intro before status after failed
  cases failed

theorem abortsOnly_abort {status : StatusCode} (allowed : possible status) :
    AbortsOnly possible (abort status : Reader α) := by
  intro before status' after failed
  cases failed
  exact allowed

theorem abortsOnly_bind {reader : Reader α} {next : α → Reader β}
    (first : reader.AbortsOnly possible) (second : ∀ value, (next value).AbortsOnly possible) :
    (reader >>= next).AbortsOnly possible := by
  intro before status after failed
  change EStateM.bind reader next before = _ at failed
  rw [EStateM.bind] at failed
  split at failed
  · rename_i value cursor _
    exact second value cursor status after failed
  · rename_i reason cursor outcome
    cases failed
    exact first before status after outcome

section Operands

variable (invalid : possible .invalidInstruction)

include invalid

theorem abortsOnly_readFixed (size : Nat) : (readFixed size).AbortsOnly possible := by
  intro before status after failed
  rw [readFixed] at failed
  split at failed
  · cases failed
  · cases failed
    exact invalid

theorem abortsOnly_readNumber (size : Nat) : (readNumber size).AbortsOnly possible :=
  abortsOnly_bind (abortsOnly_readFixed invalid size) fun _ => abortsOnly_pure _

theorem abortsOnly_readWords (count : Nat) : (readWords count).AbortsOnly possible := by
  induction count with
  | zero => exact abortsOnly_pure _
  | succ count ih =>
      exact abortsOnly_bind (abortsOnly_readFixed invalid 32) fun _ =>
        abortsOnly_bind ih fun _ => abortsOnly_pure _

theorem abortsOnly_readCall : readCall.AbortsOnly possible := by
  refine abortsOnly_bind (abortsOnly_readNumber invalid 1) fun _ => ?_
  refine abortsOnly_bind (abortsOnly_readFixed invalid 20) fun _ => ?_
  refine abortsOnly_bind (abortsOnly_readNumber invalid 8) fun _ => ?_
  refine abortsOnly_bind (abortsOnly_readFixed invalid 32) fun _ => ?_
  refine abortsOnly_bind (abortsOnly_readFixed invalid 32) fun _ => ?_
  refine abortsOnly_bind (abortsOnly_readNumber invalid 2) fun length => ?_
  refine abortsOnly_bind (abortsOnly_readFixed invalid length) fun _ => ?_
  split
  · exact abortsOnly_pure _
  · exact abortsOnly_abort invalid

theorem abortsOnly_readLog : readLog.AbortsOnly possible := by
  refine abortsOnly_bind (abortsOnly_readNumber invalid 1) fun count => ?_
  split
  · exact abortsOnly_abort invalid
  · exact abortsOnly_bind (abortsOnly_readWords invalid count) fun _ => abortsOnly_pure _

end Operands

theorem abortsOnly_readCommand (invalid : possible .invalidInstruction)
    (violating : possible .staticModeViolation) (undefined : possible .undefinedInstruction)
    (isStatic : Bool) (opcode : UInt8) : (readCommand isStatic opcode).AbortsOnly possible := by
  have one (size : Nat) (make : FixedBytes size → Command) :
      (do let bytes ← readFixed size; pure (make bytes) : Reader Command).AbortsOnly possible :=
    abortsOnly_bind (abortsOnly_readFixed invalid size) fun _ => abortsOnly_pure _
  have writable : (ensureWritable isStatic).AbortsOnly possible := by
    cases isStatic with
    | false => exact abortsOnly_pure _
    | true => exact abortsOnly_abort violating
  have guarded {reader : Reader Command} (aborts : reader.AbortsOnly possible) :
      (do ensureWritable isStatic; reader : Reader Command).AbortsOnly possible :=
    abortsOnly_bind writable fun _ => aborts
  unfold readCommand
  split
  · exact abortsOnly_pure _
  · exact abortsOnly_pure _
  · exact one 32 .loadSlot
  · exact guarded
      (abortsOnly_bind (abortsOnly_readFixed invalid 32) fun key => one 32 (.storeSlot key))
  · exact one 20 .balance
  · exact abortsOnly_readCall invalid
  · exact abortsOnly_pure _
  · exact abortsOnly_pure _
  · exact abortsOnly_bind (abortsOnly_readNumber invalid 8) fun _ => abortsOnly_pure _
  · exact one 20 .accountCode
  · exact guarded (one 20 .selfdestruct)
  · exact one 20 .access
  · exact guarded (abortsOnly_readLog invalid)
  · exact one 20 .accountExists
  · exact abortsOnly_pure _
  · exact abortsOnly_pure _
  · exact abortsOnly_abort undefined

theorem aborts_readCommand (isStatic : Bool) (opcode : UInt8) :
    (readCommand isStatic opcode).Aborts :=
  abortsOnly_readCommand (by decide) (by decide) (by decide) isStatic opcode

end Reader

section Commands

variable {frame : Frame} {gasLeft : Int}

/-- After a command exactly the gas is left that has not been paid. -/
def Progress.Settles (left : Int) (progress : Progress) : Prop :=
  progress.gasLeft = left ∧ 0 ≤ left

theorem gas_nestedMessage {granted : Int} (nonneg : 0 ≤ granted)
    (fits : granted ≤ Int64.maxValue.toInt) (message : NativeMessage) (kind : CallKind)
    (address : Address) (value salt : Word) (input : Bytes) :
    (nestedMessage message kind address granted value salt input).gas.toInt = granted := by
  have most : Int64.maxValue.toInt = 2 ^ 63 - 1 := by decide
  exact Int64.toInt_ofInt_of_le (by omega) (by omega)

theorem performCall_meters (nonneg : 0 ≤ gasLeft) (kind : CallKind) (address : Address)
    (asked : UInt64) (value salt : Word) (input : Bytes) :
    (performCall frame gasLeft kind address asked value salt input).Meters Progress.Settles
      gasLeft := by
  obtain ⟨granted_nonneg, granted_le, granted_fits⟩ := grantedGas_bounds asked nonneg
  unfold performCall
  split
  · exact Step.meters_throw nonneg (by decide)
  split
  · exact Step.meters_pure ⟨rfl, nonneg⟩
  refine Step.meters_bind (Step.meters_ask nonneg fun result => ?_)
  have back := returnedGas_bounds result.gasLeft.toInt granted_nonneg
  rw [Request.cost, gas_nestedMessage granted_nonneg granted_fits]
  have settled (appended : Bytes) :
      Step.Meters Progress.Settles
        (gasLeft - (grantedGas asked gasLeft -
          returnedGas (grantedGas asked gasLeft) result.gasLeft.toInt))
        (pure ⟨_, appended, .proceed⟩) :=
    Step.meters_pure ⟨rfl, by omega⟩
  cases result.release with
  | none => exact settled _
  | some release => exact Step.meters_bind (Step.meters_noteFree rfl (settled _))

theorem perform_meters (nonneg : 0 ≤ gasLeft) (command : Command) :
    (perform frame gasLeft command).Meters Progress.Settles gasLeft := by
  have same (appended : Bytes) (flow : Flow) :
      Step.Meters Progress.Settles gasLeft (pure ⟨gasLeft, appended, flow⟩) :=
    Step.meters_pure ⟨rfl, nonneg⟩
  have asked {request : Request} {next : request.Answer → Step Progress}
      (free : ∀ answer, request.cost answer = 0)
      (rest : ∀ answer, (next answer).Meters Progress.Settles gasLeft) :
      (Step.ask frame request >>= next).Meters Progress.Settles gasLeft :=
    Step.meters_bind (Step.meters_askFree nonneg free rest)
  cases command with
  | stop | revert | echo => exact same _ _
  | invalid => exact Step.meters_throw nonneg (by decide)
  | call kind address gas value salt input =>
      exact performCall_meters nonneg kind address gas value salt input
  | loadSlot key => exact asked (fun _ => rfl) fun _ => asked (fun _ => rfl) fun _ => same _ _
  | accountCode address =>
      refine asked (fun _ => rfl) fun size => asked (fun _ => rfl) fun hash => ?_
      exact asked (fun _ => rfl) fun _ => same _ _
  | storeSlot | balance | blockNumber | origin | blockHash | selfdestruct | access | log
  | accountExists =>
      exact asked (fun _ => rfl) fun _ => same _ _

/-- What a frame says that it has left, when it has not paid some gas. -/
structure Outcome.Settles (left : Int) (outcome : Outcome) : Prop where
  nonneg : 0 ≤ outcome.gasLeft
  gasLeft_le : outcome.gasLeft ≤ left
  gasLeft_eq : ¬ outcome.status.Aborts → outcome.gasLeft = left

theorem abortAt_meters (nonneg : 0 ≤ gasLeft) (position : Nat) {status : StatusCode}
    (aborts : status.Aborts) :
    (abortAt frame position status).Meters Outcome.Settles gasLeft := by
  have settled : Outcome.Settles gasLeft (.aborted status) :=
    ⟨Int.le_refl 0, nonneg, fun keeps => absurd aborts keeps⟩
  rw [abortAt]
  split
  · exact settled
  · exact (NativeRun.meters_noteFree rfl _).mpr settled

/-- Executed code pays for what it does and settles its account at the end. -/
theorem interpret_meters (nonneg : 0 ≤ gasLeft) (cursor : Cursor) (pieces : List Bytes) :
    (interpret frame cursor gasLeft pieces).Meters Outcome.Settles gasLeft := by
  fun_induction interpret frame cursor gasLeft pieces with
  | case1 cursor gasLeft pieces _ => exact ⟨nonneg, Int.le_refl gasLeft, fun _ => rfl⟩
  | case2 cursor gasLeft pieces opcode rest _ afterOpcode _ =>
      exact abortAt_meters nonneg _ (by decide)
  | case3 cursor gasLeft pieces opcode rest _ afterOpcode charged ih =>
      have paid : 0 ≤ gasLeft - 1 := by omega
      rw [NativeRun.Meters]
      change NativeRun.Meters Outcome.Settles (gasLeft - 1) _
      split
      · rename_i status stopped read
        exact abortAt_meters paid _ (Reader.aborts_readCommand _ _ _ _ _ read)
      · rename_i command next read
        refine (NativeRun.meters_bind _ _).mpr
          (NativeRun.Meters.imp (perform_meters paid command) ?_)
        intro left result settled
        cases result with
        | error status => exact abortAt_meters settled.1 _ settled.2
        | ok progress =>
            obtain ⟨rfl, left_nonneg⟩ := settled
            have ended (status : StatusCode) (output : Bytes) :
                Outcome.Settles progress.gasLeft ⟨status, progress.gasLeft, output⟩ :=
              ⟨left_nonneg, Int.le_refl _, fun _ => rfl⟩
            cases flow : progress.flow with
            | proceed =>
                simp only [flow]
                exact ih command next read progress left_nonneg
            | halt =>
                simp only [flow]
                exact ended _ _
            | revert =>
                simp only [flow]
                exact ended _ _

end Commands

/-- What a native result says that it has left, when it has not paid some gas. -/
structure NativeResult.Settles (left : Int) (result : NativeResult) : Prop where
  nonneg : 0 ≤ result.gasLeft.toInt
  gasLeft_le : result.gasLeft.toInt ≤ left
  gasLeft_eq : (StatusCode.ofRaw result.status).KeepsGas → result.gasLeft.toInt = left

namespace ExampleVm

theorem settles_resultOf (provider : Provider) {left : Int} {outcome : Outcome}
    (settled : outcome.Settles left) (fits : outcome.gasLeft ≤ Int64.maxValue.toInt) :
    (resultOf provider outcome).Settles left := by
  have most : Int64.maxValue.toInt = 2 ^ 63 - 1 := by decide
  have nonneg := settled.nonneg
  have gas_eq : (Int64.ofInt outcome.gasLeft).toInt = outcome.gasLeft :=
    Int64.toInt_ofInt_of_le (by omega) (by omega)
  exact {
    nonneg := gas_eq ▸ settled.nonneg
    gasLeft_le := gas_eq ▸ settled.gasLeft_le
    gasLeft_eq := fun keeps => gas_eq.trans (settled.gasLeft_eq fun aborts => aborts keeps) }

theorem runCode_meters (frame : Frame) (code : Bytes) :
    (runCode frame code).Meters Outcome.Settles (startingGas frame.message) :=
  interpret_meters (startingGas_nonneg frame.message) ⟨0, code⟩ []

theorem runAloud_meters (frame : Frame) (code : Bytes) :
    (runAloud frame code).Meters Outcome.Settles (startingGas frame.message) := by
  rw [runAloud]
  split
  · exact runCode_meters frame code
  · refine (NativeRun.meters_noteFree rfl _).mpr ((NativeRun.meters_bind _ _).mpr ?_)
    refine (runCode_meters frame code).imp fun left outcome settled => ?_
    exact (NativeRun.meters_noteFree rfl _).mpr settled

/-- Executing a message, the example VM pays for what it does from the gas of the
message and settles its account at the end. -/
theorem execute_meters (provider : Provider) (verbosity handle : Nat) (message : Message)
    (code : Bytes) :
    (execute provider (some verbosity) (invocation handle message code)).Meters
      NativeResult.Settles (startingGas message.toNative) := by
  let frame := frameOf provider verbosity handle message
  rw [execute_invocation]
  refine (NativeRun.meters_bind _ _).mpr ?_
  refine ((runAloud_meters frame code).and_yields (runAloud_obeys frame code)).imp ?_
  rintro left outcome ⟨settled, _, spent⟩
  have starting := Int64.toInt_le message.gas
  have most : (0 : Int) ≤ Int64.maxValue.toInt := by decide
  refine settles_resultOf provider settled ?_
  have starting_eq : startingGas frame.message = max message.gas.toInt 0 := rfl
  omega

end ExampleVm

end VmBridge
