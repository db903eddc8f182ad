import VmBridge.ExampleVm
import VmBridge.Proofs.BridgeEnsures

/-!
# What the example VM asks for

`Frame.MayAsk` lists the callbacks that a frame of the example VM can make:
it acts on its own account, writes nothing when it is static, and grants a
nested message less gas than it has itself.  `execute_obeys` says that the
example VM makes no others.
-/

namespace VmBridge

namespace Step

variable {α β : Type}

/-- A step obeys like native code; a step that aborts ends with no value. -/
def Obeys (asks : Nat → Request → Prop) (yields : α → Prop) (step : Step α) : Prop :=
  step.run.Obeys asks fun result =>
    match result with
    | .ok value => yields value
    | .error _ => True

variable {asks : Nat → Request → Prop}

theorem obeys_pure {yields : α → Prop} {value : α} :
    Obeys asks yields (pure value) ↔ yields value :=
  Iff.rfl

theorem obeys_throw {yields : α → Prop} (status : StatusCode) :
    Obeys asks yields (throw status : Step α) :=
  trivial

theorem obeys_bind {yields : β → Prop} {step : Step α} {next : α → Step β}
    (first : step.Obeys asks fun value => (next value).Obeys asks yields) :
    (step >>= next).Obeys asks yields := by
  rw [Obeys, ExceptT.run_bind]
  refine (NativeRun.obeys_bind step.run _).mpr (NativeRun.Obeys.imp first ?_)
  intro result held
  cases result with
  | ok value => exact held
  | error status => trivial

theorem obeys_ask {frame : Frame} {request : Request} {yields : request.Answer → Prop}
    (asked : asks frame.handle request) (answered : ∀ answer, yields answer) :
    (Step.ask frame request).Obeys asks yields := by
  rw [Step.ask]
  split
  · exact ⟨asked, answered⟩
  · exact trivial

/-- A callback that is in the table is made, and the step goes on with its answer. -/
theorem run_ask_bind {γ : Type} {frame : Frame} {request : Request}
    (filled : frame.table request.name = true) (next : request.Answer → Step α)
    (resume : Except StatusCode α → NativeRun γ) :
    (ask frame request >>= next).run.bind resume =
      .ask frame.handle request fun answer => (next answer).run.bind resume := by
  rw [ask, if_pos filled]
  rfl

theorem obeys_note {event : NativeEvent} {yields : Unit → Prop} (noted : yields ()) :
    (Step.note event).Obeys asks yields :=
  noted

end Step

namespace Frame

/-- The callbacks that a frame can make with less than some gas. -/
inductive MayAsk (frame : Frame) (gas : Int) : Request → Prop where
  | accountExists (address : Address) : MayAsk frame gas (.accountExists (some address))
  | getStorage (key : Word) :
      MayAsk frame gas (.getStorage (some frame.message.recipient) (some key))
  | setStorage (key value : Word) (writable : frame.isStatic = false) :
      MayAsk frame gas (.setStorage (some frame.message.recipient) (some key) (some value))
  | getBalance (address : Address) : MayAsk frame gas (.getBalance (some address))
  | getCodeSize (address : Address) : MayAsk frame gas (.getCodeSize (some address))
  | getCodeHash (address : Address) : MayAsk frame gas (.getCodeHash (some address))
  | copyCode (address : Address) (size : Nat) :
      MayAsk frame gas (.copyCode (some address) 0 (.live (FixedBytes.zero size).toList))
  | selfdestruct (beneficiary : Address) (writable : frame.isStatic = false) :
      MayAsk frame gas (.selfdestruct (some frame.message.recipient) (some beneficiary))
  | call (kind : CallKind) (address : Address) (granted : Int) (value salt : Word)
      (input : Bytes) (granted_nonneg : 0 ≤ granted) (granted_lt : granted < gas)
      (granted_fits : granted ≤ Int64.maxValue.toInt)
      (shallow : frame.message.depth < maxCallDepth)
      (readOnly : frame.isStatic = true →
        kind.isCreate = false ∧ (kind = .call → value = .zero 32)) :
      MayAsk frame gas
        (.call (some (nestedMessage frame.message kind address granted value salt input)))
  | getTxContext : MayAsk frame gas .getTxContext
  | getBlockHash (number : Int64) : MayAsk frame gas (.getBlockHash number)
  | emitLog (topics : List Word) (writable : frame.isStatic = false) :
      MayAsk frame gas
        (.emitLog (some frame.message.recipient) (.lend frame.input) (.live topics))
  | accessAccount (address : Address) : MayAsk frame gas (.accessAccount (some address))
  | accessStorage (key : Word) :
      MayAsk frame gas (.accessStorage (some frame.message.recipient) (some key))

/-- The callbacks of a frame go to its own handle. -/
def Asks (frame : Frame) (gas : Int) (handle : Nat) (request : Request) : Prop :=
  handle = frame.handle ∧ frame.MayAsk gas request

end Frame

/-- A command that writes whatever its operands are. -/
def Command.writes : Command → Bool
  | .storeSlot _ _ | .selfdestruct _ | .log _ => true
  | _ => false

namespace Reader

/-- Whatever a read yields satisfies a condition. -/
def Yields {α : Type} (reader : Reader α) (holds : α → Prop) : Prop :=
  ∀ before value after, reader before = .ok value after → holds value

section Yields

variable {α β : Type}

theorem yields_pure {holds : α → Prop} {value : α} (held : holds value) :
    Yields (pure value) holds := by
  intro before value' after read
  cases read
  exact held

theorem yields_abort {holds : α → Prop} (status : StatusCode) :
    Yields (abort status) holds := by
  intro before value after read
  cases read

theorem yields_any (reader : Reader α) : reader.Yields fun _ => True :=
  fun _ _ _ _ => trivial

theorem yields_bind {reader : Reader α} {next : α → Reader β} {middle : α → Prop}
    {holds : β → Prop} (first : reader.Yields middle)
    (second : ∀ value, middle value → (next value).Yields holds) :
    (reader >>= next).Yields holds := by
  intro before value after read
  change EStateM.bind reader next before = _ at read
  rw [EStateM.bind] at read
  split at read
  · rename_i firstValue cursor outcome
    exact second firstValue (first before firstValue cursor outcome) cursor value after read
  · cases read

end Yields

theorem yields_ensureWritable (isStatic : Bool) :
    (ensureWritable isStatic).Yields fun _ => isStatic = false := by
  cases isStatic with
  | false => exact yields_pure rfl
  | true => exact yields_abort _

theorem yields_readCall : readCall.Yields fun command => command.writes = false := by
  iterate 7 refine yields_bind (yields_any _) fun _ _ => ?_
  split
  · exact yields_pure rfl
  · exact yields_abort _

/-- A static frame reads no command that writes. -/
theorem yields_readCommand (isStatic : Bool) (opcode : UInt8) :
    (readCommand isStatic opcode).Yields fun command =>
      command.writes = true → isStatic = false := by
  have harmless {α : Type} (reader : Reader α) (make : α → Command)
      (reads : ∀ value, (make value).writes = false) :
      (do let value ← reader; pure (make value) : Reader Command).Yields fun command =>
        command.writes = true → isStatic = false :=
    yields_bind (yields_any reader) fun value _ =>
      yields_pure fun writes => absurd writes (by simp [reads value])
  have guarded (reader : Reader Command) :
      (do ensureWritable isStatic; reader : Reader Command).Yields fun command =>
        command.writes = true → isStatic = false := by
    refine yields_bind (yields_ensureWritable isStatic) fun _ writable => ?_
    exact fun _ _ _ _ _ => writable
  have plain (command : Command) (reads : command.writes = false) :
      (pure command : Reader Command).Yields fun command =>
        command.writes = true → isStatic = false :=
    yields_pure fun writes => absurd writes (by simp [reads])
  unfold readCommand
  split
  · exact plain .stop rfl
  · exact plain .echo rfl
  · exact harmless _ .loadSlot fun _ => rfl
  · exact guarded _
  · exact harmless _ .balance fun _ => rfl
  · intro before command after read writes
    rw [yields_readCall before command after read] at writes
    cases writes
  · exact plain .revert rfl
  · exact plain .blockNumber rfl
  · exact harmless _ (fun number => .blockHash (UInt64.ofNat number)) fun _ => rfl
  · exact harmless _ .accountCode fun _ => rfl
  · exact guarded _
  · exact harmless _ .access fun _ => rfl
  · exact guarded _
  · exact harmless _ .accountExists fun _ => rfl
  · exact plain .origin rfl
  · exact plain .invalid rfl
  · exact yields_abort _

end Reader

section Commands

variable {frame : Frame} {gas gasLeft : Int}

/-- What the gas can be after a command. -/
def Progress.Spends (gasLeft : Int) (progress : Progress) : Prop :=
  0 ≤ progress.gasLeft ∧ progress.gasLeft ≤ gasLeft

theorem returnedGas_bounds {granted : Int} (reported : Int) (nonneg : 0 ≤ granted) :
    0 ≤ returnedGas granted reported ∧ returnedGas granted reported ≤ granted := by
  rw [returnedGas]
  omega

theorem grantedGas_bounds (asked : UInt64) (nonneg : 0 ≤ gasLeft) :
    0 ≤ grantedGas asked gasLeft ∧ grantedGas asked gasLeft ≤ gasLeft ∧
      grantedGas asked gasLeft ≤ Int64.maxValue.toInt := by
  have most : (0 : Int) ≤ Int64.maxValue.toInt := by decide
  rw [grantedGas]
  omega

theorem performCall_obeys (nonneg : 0 ≤ gasLeft) (below : gasLeft < gas) (kind : CallKind)
    (address : Address) (asked : UInt64) (value salt : Word) (input : Bytes) :
    (performCall frame gasLeft kind address asked value salt input).Obeys (frame.Asks gas)
      (Progress.Spends gasLeft) := by
  obtain ⟨granted_nonneg, granted_le, granted_fits⟩ := grantedGas_bounds asked nonneg
  unfold performCall
  split
  · exact Step.obeys_throw _
  · rename_i permitted
    split
    · exact Step.obeys_pure.mpr ⟨nonneg, Int.le_refl gasLeft⟩
    · rename_i shallow
      refine Step.obeys_bind (Step.obeys_ask ⟨rfl, ?_⟩ fun result => ?_)
      · refine .call kind address _ value salt input granted_nonneg (by omega) granted_fits
          (by simpa using shallow) fun static => ?_
        simpa [static] using permitted
      · have back := returnedGas_bounds result.gasLeft.toInt granted_nonneg
        have settled (appended : Bytes) : Step.Obeys (frame.Asks gas) (Progress.Spends gasLeft)
            (pure ⟨gasLeft - (grantedGas asked gasLeft -
              returnedGas (grantedGas asked gasLeft) result.gasLeft.toInt), appended,
              .proceed⟩) := by
          refine Step.obeys_pure.mpr ?_
          simp only [Progress.Spends]
          omega
        cases result.release with
        | none => exact settled _
        | some release => exact Step.obeys_bind (Step.obeys_note (settled _))

theorem perform_obeys (nonneg : 0 ≤ gasLeft) (below : gasLeft < gas) {command : Command}
    (writable : command.writes = true → frame.isStatic = false) :
    (perform frame gasLeft command).Obeys (frame.Asks gas) (Progress.Spends gasLeft) := by
  have same (appended : Bytes) (flow : Flow) :
      Step.Obeys (frame.Asks gas) (Progress.Spends gasLeft)
        (pure ⟨gasLeft, appended, flow⟩) :=
    Step.obeys_pure.mpr ⟨nonneg, Int.le_refl gasLeft⟩
  cases command with
  | stop => exact same _ _
  | revert => exact same _ _
  | invalid => exact Step.obeys_throw _
  | echo => exact same _ _
  | loadSlot key =>
      refine Step.obeys_bind (Step.obeys_ask ⟨rfl, .accessStorage key⟩ fun _ => ?_)
      exact Step.obeys_bind (Step.obeys_ask ⟨rfl, .getStorage key⟩ fun _ => same _ _)
  | storeSlot key value =>
      exact Step.obeys_bind
        (Step.obeys_ask ⟨rfl, .setStorage key value (writable rfl)⟩ fun _ => same _ _)
  | balance address =>
      exact Step.obeys_bind (Step.obeys_ask ⟨rfl, .getBalance address⟩ fun _ => same _ _)
  | call kind address asked value salt input =>
      exact performCall_obeys nonneg below kind address asked value salt input
  | blockNumber =>
      exact Step.obeys_bind (Step.obeys_ask ⟨rfl, .getTxContext⟩ fun _ => same _ _)
  | origin =>
      exact Step.obeys_bind (Step.obeys_ask ⟨rfl, .getTxContext⟩ fun _ => same _ _)
  | blockHash number =>
      exact Step.obeys_bind
        (Step.obeys_ask ⟨rfl, .getBlockHash number.toInt64⟩ fun _ => same _ _)
  | accountCode address =>
      refine Step.obeys_bind (Step.obeys_ask ⟨rfl, .getCodeSize address⟩ fun size => ?_)
      refine Step.obeys_bind (Step.obeys_ask ⟨rfl, .getCodeHash address⟩ fun _ => ?_)
      exact Step.obeys_bind
        (Step.obeys_ask ⟨rfl, .copyCode address size⟩ fun _ => same _ _)
  | selfdestruct beneficiary =>
      exact Step.obeys_bind
        (Step.obeys_ask ⟨rfl, .selfdestruct beneficiary (writable rfl)⟩ fun _ => same _ _)
  | access address =>
      exact Step.obeys_bind (Step.obeys_ask ⟨rfl, .accessAccount address⟩ fun _ => same _ _)
  | log topics =>
      have asked : frame.Asks gas frame.handle (.emitLog (some frame.message.recipient)
          (.lend frame.input) (.live topics)) := ⟨rfl, .emitLog topics (writable rfl)⟩
      exact Step.obeys_bind (Step.obeys_ask asked fun _ => same _ _)
  | accountExists address =>
      exact Step.obeys_bind (Step.obeys_ask ⟨rfl, .accountExists address⟩ fun _ => same _ _)

/-- What the gas can be at the end of a frame. -/
def Outcome.Spends (gasLeft : Int) (outcome : Outcome) : Prop :=
  0 ≤ outcome.gasLeft ∧ outcome.gasLeft ≤ gasLeft

theorem abortAt_obeys (nonneg : 0 ≤ gasLeft) (position : Nat) (status : StatusCode) :
    (abortAt frame position status).Obeys (frame.Asks gas) (Outcome.Spends gasLeft) := by
  rw [abortAt]
  split
  · exact ⟨Int.le_refl 0, nonneg⟩
  · exact ⟨Int.le_refl 0, nonneg⟩

/-- Executed code asks only for what its frame may ask, and spends gas. -/
theorem interpret_obeys (nonneg : 0 ≤ gasLeft) (within : gasLeft ≤ gas) (cursor : Cursor)
    (pieces : List Bytes) :
    (interpret frame cursor gasLeft pieces).Obeys (frame.Asks gas)
      (Outcome.Spends gasLeft) := by
  fun_induction interpret frame cursor gasLeft pieces with
  | case1 cursor gasLeft pieces _ => exact ⟨nonneg, Int.le_refl gasLeft⟩
  | case2 cursor gasLeft pieces opcode rest _ afterOpcode _ =>
      exact abortAt_obeys nonneg _ _
  | case3 cursor gasLeft pieces opcode rest _ afterOpcode charged ih =>
      rw [NativeRun.Obeys]
      split
      · exact abortAt_obeys nonneg _ _
      · rename_i command next read
        have writable := Reader.yields_readCommand _ _ _ _ _ read
        have performed : (perform frame (gasLeft - 1) command).Obeys (frame.Asks gas)
            (Progress.Spends (gasLeft - 1)) :=
          perform_obeys (by omega) (by omega) writable
        refine (NativeRun.obeys_bind _ _).mpr (NativeRun.Obeys.imp performed ?_)
        intro result spent
        cases result with
        | error status => exact abortAt_obeys nonneg _ _
        | ok progress =>
            obtain ⟨left_nonneg, left_le⟩ := spent
            have ended (status : StatusCode) (output : Bytes) :
                Outcome.Spends gasLeft ⟨status, progress.gasLeft, output⟩ :=
              ⟨left_nonneg, by simp only; omega⟩
            cases flow : progress.flow with
            | proceed =>
                have rested := ih command next read progress left_nonneg (by omega)
                simp only [flow]
                exact rested.imp fun outcome spends => ⟨spends.1, by have := spends.2; omega⟩
            | halt =>
                simp only [flow]
                exact ended _ _
            | revert =>
                simp only [flow]
                exact ended _ _

end Commands

theorem startingGas_nonneg (message : NativeMessage) : 0 ≤ startingGas message := by
  rw [startingGas]
  omega

namespace ExampleVm

theorem runAloud_obeys (frame : Frame) (code : Bytes) :
    (runAloud frame code).Obeys (frame.Asks (startingGas frame.message))
      (Outcome.Spends (startingGas frame.message)) := by
  have ran : (runCode frame code).Obeys (frame.Asks (startingGas frame.message))
      (Outcome.Spends (startingGas frame.message)) :=
    interpret_obeys (startingGas_nonneg frame.message) (Int.le_refl _) ⟨0, code⟩ []
  rw [runAloud]
  split
  · exact ran
  · exact (NativeRun.obeys_bind _ _).mpr ran

/-- The frame in which the example VM executes a message of the bridge. -/
def frameOf (provider : Provider) (verbosity handle : Nat) (message : Message) : Frame :=
  ⟨fullTable, handle, message.toNative, audibleVerbosity provider verbosity⟩

/-- Called by the bridge, the example VM runs the code and wraps the outcome. -/
theorem execute_invocation (provider : Provider) (verbosity handle : Nat) (message : Message)
    (code : Bytes) :
    execute provider (some verbosity) (invocation handle message code) =
      (runAloud (frameOf provider verbosity handle message) code).bind fun outcome =>
        .done (resultOf provider outcome) := by
  have known : knowsRevision Revision.latestStable.raw = true := by decide
  simp [execute, invocation, known, frameOf]

/-- Executing a message, the example VM asks only for what its frame may
ask. -/
theorem execute_obeys (provider : Provider) (verbosity handle : Nat) (message : Message)
    (code : Bytes) :
    (execute provider (some verbosity) (invocation handle message code)).Obeys
      ((frameOf provider verbosity handle message).Asks (startingGas message.toNative))
      fun _ => True := by
  rw [execute_invocation]
  refine (NativeRun.obeys_bind _ _).mpr ?_
  exact (runAloud_obeys (frameOf provider verbosity handle message) code).imp fun _ _ => trivial

end ExampleVm

end VmBridge
