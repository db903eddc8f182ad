import VmBridge.Proofs.AssembledCode
import VmBridge.Proofs.CallbackOutcomes
import VmBridge.Proofs.FaultOrigins
import VmBridge.Proofs.NestedRollback
import VmBridge.ScriptedHost

/-!
# Windows of a code

A host that only knows whole codes copies as much of a code, from an offset on, as fits
into a buffer.  Native code that asks for one window behind the other has the whole code
once nothing more is written: `runNative_gatherCode`.

The example VM asks a host for the size of a code, for its hash, and for one window of
that size.  The mock context answers the three from the same account, so the whole code
is appended, unless the context was told to fail in one of them: `runNative_accountCode`.
-/

namespace VmBridge

open HostAction (carryOut)

section Sizes

variable (code : Bytes) (offset size : Nat)

theorem length_codeWindow : (codeWindow code offset size).length =
    if offset < code.length then min size (code.length - offset) else 0 := by
  rw [codeWindow, List.length_take, List.length_drop]
  split <;> omega

theorem codeWindow_eq : codeWindow code offset size =
    (code.drop offset).take (codeWindow code offset size).length := by
  rw [codeWindow, List.take_eq_take_iff, List.length_take]
  omega

theorem take_append_codeWindow :
    code.take offset ++ codeWindow code offset size = code.take (offset + size) :=
  List.take_add.symm

end Sizes

theorem FixedBytes.toList_overwrite {size : Nat} (buffer : FixedBytes size) {bytes : Bytes}
    (fits : bytes.length ≤ size) :
    (buffer.overwrite bytes).toList = bytes ++ buffer.toList.drop bytes.length := by
  change bytes.take size ++ _ = _
  rw [List.take_of_length_le fits]

variable {κ ν σ : Type}

/-- In a state a host measures codes as hosts do that only know whole codes. -/
def ProvidesSize (hosting : Hosting κ ν σ) (host : κ) (state : σ) : Prop :=
  ∀ address, hosting host (.getCodeSize address) state =
    providedCodeSize (fun address => hosting host (.getCode address)) address state

/-- In a state a host copies codes as hosts do that only know whole codes. -/
def ProvidesCopy (hosting : Hosting κ ν σ) (host : κ) (state : σ) : Prop :=
  ∀ address offset size buffer, hosting host (.copyCode address offset size buffer) state =
    providedCopyCode (fun address => hosting host (.getCode address)) address offset size buffer
      state

section Callbacks

variable (hosting : Hosting κ ν σ) (nested : Executor κ ν σ) (handle : Nat)

/-- A host that serves a callback of some name gives the whole code of an account. -/
def GivesCode (name : MethodName) (host : κ) (address : Address) (code : Bytes)
    (before after : Process κ ν σ) : Prop :=
  carryOut nested (hosting host (.getCode address)) (before.journaled (.requested name handle)) =
    some (.returned code, after)

/-- Among some states, whatever is copied, a live host gives the same code of an
account. -/
structure KeepsCode (host : κ) (address : Address) (code : Bytes)
    (among : Process κ ν σ → Prop) : Prop where
  live : ∀ before, among before → before.registry.resolve handle = some host
  provides : ∀ before, among before → ProvidesCopy hosting host before.hosts
  gives : ∀ before, among before →
    ∃ after, GivesCode hosting nested handle .copyCode host address code before after ∧
      among after

/-- Native code that asks for windows of a code, one behind the other and each as wide as
its buffer, until nothing is written.  It gives up after some number of calls. -/
def gatherCode (address : Address) {width : Nat} (buffers : Nat → FixedBytes width) :
    Nat → Nat → Bytes → NativeRun (Option Bytes)
  | 0, _, _ => .done none
  | calls + 1, offset, gathered =>
      .ask handle (.copyCode (some address) offset (.live (buffers offset).toList)) fun copy =>
        if copy.written = 0 then .done (some gathered)
        else
          gatherCode address buffers calls (offset + width)
            (gathered ++ copy.buffer.take copy.written)

variable {hosting nested handle} {host : κ} {address : Address} {code : Bytes}
  {before after : Process κ ν σ}

theorem GivesCode.carryOut_map {α : Type} {name : MethodName}
    (gives : GivesCode hosting nested handle name host address code before after)
    (make : Bytes → α) :
    carryOut nested (hosting host (.getCode address) >>= fun code => pure (make code))
        (before.journaled (.requested name handle)) =
      some (.returned (make code), after) := by
  rw [HostAction.carryOut_bind, Bridge.bind_apply, gives]
  rfl

theorem deliver_getCodeSize (live : before.registry.resolve handle = some host)
    (provides : ProvidesSize hosting host before.hosts)
    (gives : GivesCode hosting nested handle .getCodeSize host address code before after) :
    deliver hosting nested handle (.getCodeSize (some address)) before =
      some (code.length, after) := by
  have measured : carryOut nested (hosting host (.getCodeSize address))
      (before.journaled (.requested .getCodeSize handle)) =
        some (.returned code.length, after) := by
    rw [← gives.carryOut_map List.length]
    change runHost nested (hosting host (.getCodeSize address) before.hosts) _ = _
    rw [provides]
    rfl
  rw [deliver_served live (Request.decode_getCodeSize address), Bridge.bind_apply]
  change (carryOut nested (hosting host (.getCodeSize address))
    (before.journaled (.requested .getCodeSize handle))).bind _ = _
  rw [measured]
  rfl

/-- A host that only knows whole codes writes the window to the start of the buffer and
reports its size. -/
theorem deliver_copyCode (live : before.registry.resolve handle = some host)
    (provides : ProvidesCopy hosting host before.hosts) (offset : Nat) {span : Span UInt8}
    {buffer : Bytes} (read : span.read? = some buffer)
    (gives : GivesCode hosting nested handle .copyCode host address code before after) :
    deliver hosting nested handle (.copyCode (some address) offset span) before =
      some (⟨(codeWindow code offset buffer.length).length,
        codeWindow code offset buffer.length ++
          buffer.drop (codeWindow code offset buffer.length).length⟩, after) := by
  let window := codeWindow code offset buffer.length
  have copied : carryOut nested
      (hosting host (.copyCode address offset buffer.length (.ofList buffer)))
      (before.journaled (.requested .copyCode handle)) =
        some (.returned (window.length, (FixedBytes.ofList buffer).overwrite window), after) := by
    rw [← gives.carryOut_map fun code =>
      ((codeWindow code offset buffer.length).length,
        (FixedBytes.ofList buffer).overwrite (codeWindow code offset buffer.length))]
    change runHost nested (hosting host (.copyCode address offset _ _) before.hosts) _ = _
    rw [provides]
    rfl
  have fits : window.length ≤ buffer.length := List.length_take_le _ _
  rw [deliver_served live (Request.decode_copyCode address offset read), Bridge.bind_apply]
  change (carryOut nested (hosting host (.copyCode address offset buffer.length (.ofList buffer)))
    (before.journaled (.requested .copyCode handle))).bind _ = _
  rw [copied, Option.bind_some, answerCallback]
  change some (CopiedCode.mk (min window.length span.size) _, after) = _
  rw [Span.size_of_read? read, Nat.min_eq_left fits, FixedBytes.toList_overwrite _ fits]
  rfl

/-- However a host copies, no more is reported than the buffer holds. -/
theorem ensures_written_le (pointer : Option Address) (offset : Nat) (span : Span UInt8) :
    (deliver hosting nested handle (.copyCode pointer offset span)).Ensures before
      fun copy _ => copy.written ≤ span.size := by
  refine ensures_deliver (Nat.zero_le _) (fun _ _ => Nat.zero_le _) ?_
  intro host delivery _ decoded ending after _
  have complete := Request.complete_of_decode decoded
  obtain ⟨method, answers, carries⟩ := complete.exists_carries trivial
  obtain ⟨encode, decoded', tells⟩ := carries.decode_eq
  obtain rfl := Except.ok.inj (decoded'.symm.trans decoded)
  cases carries with
  | copyCode address offset read =>
      cases ending with
      | returned copied =>
          change (encode copied).written ≤ span.size
          rw [tells copied]
          exact Nat.min_le_right _ _
      | faulted fault => exact Nat.zero_le _

section Gathering

variable {among : Process κ ν σ → Prop}
  (keeps : KeepsCode hosting nested handle host address code among)
  {width : Nat} (wide : 0 < width) (buffers : Nat → FixedBytes width)

include keeps wide

/-- One more call finds the next window, or that the code has ended. -/
theorem runNative_gatherCode_succ (calls offset : Nat) (gathered : Bytes) (start : among before) :
    ∃ middle, among middle ∧
      runNative hosting nested (gatherCode handle address buffers (calls + 1) offset gathered)
          before =
        if offset < code.length then
          runNative hosting nested
            (gatherCode handle address buffers calls (offset + width)
              (gathered ++ codeWindow code offset width)) middle
        else some (some gathered, middle) := by
  obtain ⟨middle, gives, later⟩ := keeps.gives before start
  have read : (Span.live (buffers offset).toList).read? = some (buffers offset).toList := rfl
  have delivered := deliver_copyCode (keeps.live before start) (keeps.provides before start)
    offset read gives
  rw [(buffers offset).length_toList] at delivered
  refine ⟨middle, later, ?_⟩
  rw [gatherCode, runNative, Bridge.bind_apply, delivered, Option.bind_some]
  have unwritten_iff : (codeWindow code offset width).length = 0 ↔ ¬offset < code.length := by
    rw [length_codeWindow]
    split <;> omega
  by_cases inside : offset < code.length
  · simp only [unwritten_iff, ite_not, if_pos inside, List.take_left]
  · simp only [unwritten_iff, ite_not, if_neg inside]
    rfl

/-- Windows of a code that follow each other make up the code. -/
theorem runNative_gatherCode {calls offset : Nat} (enough : code.length ≤ offset + calls * width)
    (start : among before) :
    ∃ after, among after ∧
      runNative hosting nested
          (gatherCode handle address buffers (calls + 1) offset (code.take offset)) before =
        some (some code, after) := by
  -- on the calls; whatever stands before the offset has been gathered
  induction calls generalizing offset before with
  | zero =>
      have past : code.length ≤ offset := by omega
      obtain ⟨middle, later, ran⟩ :=
        runNative_gatherCode_succ keeps wide buffers 0 offset (code.take offset) start
      rw [if_neg (Nat.not_lt.mpr past), List.take_of_length_le past] at ran
      exact ⟨middle, later, by rw [List.take_of_length_le past, ran]⟩
  | succ calls ih =>
      obtain ⟨middle, later, ran⟩ :=
        runNative_gatherCode_succ keeps wide buffers (calls + 1) offset (code.take offset) start
      have enoughLeft : code.length ≤ offset + width + calls * width := by
        rw [Nat.succ_mul] at enough
        omega
      rw [ran]
      split
      · rw [take_append_codeWindow]
        exact ih enoughLeft later
      · rename_i past
        rw [List.take_of_length_le (Nat.not_lt.mp past)]
        exact ⟨middle, later, rfl⟩

end Gathering

end Callbacks

/-- A callback has left the world and the handles as they were, and it has parked a fault
under its handle exactly if it failed. -/
structure Process.Reads (handle : Nat) (fails : Prop) (before after : Process κ ν σ) : Prop where
  hosts_eq : after.hosts = before.hosts
  resolve_eq : ∀ query, after.registry.resolve query = before.registry.resolve query
  keeps : ¬fails → after.registry = before.registry
  parks : fails → (after.registry.parkedFault handle).isSome = true

theorem Process.Reads.trans {handle : Nat} {fails fails' : Prop}
    {before middle after : Process κ ν σ} (first : Process.Reads handle fails before middle)
    (second : Process.Reads handle fails' middle after) :
    Process.Reads handle (fails ∨ fails') before after where
  hosts_eq := second.hosts_eq.trans first.hosts_eq
  resolve_eq query := (second.resolve_eq query).trans (first.resolve_eq query)
  keeps neither :=
    (second.keeps fun failed => neither (Or.inr failed)).trans
      (first.keeps fun failed => neither (Or.inl failed))
  parks either := by
    by_cases failed : fails'
    · exact second.parks failed
    · rw [second.keeps failed]
      exact first.parks (either.resolve_right failed)

/-- What a mock context answers to a method that it may have been told to fail in. -/
def MockContext.heeding {α : Type} (context : MockContext ν) (name : MethodName)
    (value fallback : α) : α :=
  if context.faultIn = some name then fallback else value

/-- The hash of the code of an account, or the zero word if there is no such account. -/
def World.codeHash (world : World) (address : Address) : Word :=
  match world.accounts.get? address with
  | some account => keccak256 account.code
  | none => .zero 32

/-- The size of a code, its hash and the code itself, one behind the other. -/
def World.codeReport (world : World) (address : Address) : Bytes :=
  bigEndian 8 (world.code address).length ++ (world.codeHash address).toList ++
    world.code address

/-- The context was told to fail in a method that tells about codes. -/
def MockContext.Withholds (context : MockContext ν) : Prop :=
  (context.faultIn = some .getCodeSize ∨ context.faultIn = some .getCodeHash) ∨
    context.faultIn = some .getCode

/-- What the example VM appends for the code of an account. -/
def MockContext.appendedCode (context : MockContext ν) (address : Address) : Bytes :=
  let code := context.world.code address
  let size := context.heeding .getCodeSize code.length 0
  bigEndian 8 size ++
    (context.heeding .getCodeHash (context.world.codeHash address) (.zero 32)).toList ++
    context.heeding .getCode (code.take size) []

theorem MockContext.appendedCode_eq {context : MockContext ν} (heeds : ¬context.Withholds)
    (address : Address) : context.appendedCode address = context.world.codeReport address := by
  have size_heeds : context.faultIn ≠ some .getCodeSize := fun failing =>
    heeds (Or.inl (Or.inl failing))
  have hash_heeds : context.faultIn ≠ some .getCodeHash := fun failing =>
    heeds (Or.inl (Or.inr failing))
  have code_heeds : context.faultIn ≠ some .getCode := fun failing => heeds (Or.inr failing)
  simp only [appendedCode, heeding, if_neg size_heeds, if_neg hash_heeds, if_neg code_heeds,
    List.take_length, World.codeReport]

section Reports

variable (nested : Executor Unit ν (MockContext ν)) {before : Process Unit ν (MockContext ν)}

/-- A callback to a method that only looks at the context. -/
theorem deliver_reading {handle : Nat} {request : Request} {method : HostMethod}
    {encode : method.Answer → request.Answer} (decoded : request.decode = .ok ⟨method, encode⟩)
    (live : before.registry.resolve handle = some ()) {name : MethodName} {value : method.Answer}
    (serves : MockContext.hosting () method before.hosts =
      if before.hosts.faultIn = some name then
        .done (.faulted (.text s!"{name.text} failed")) before.hosts
      else .done (.returned value) before.hosts) :
    ∃ after, Process.Reads handle (before.hosts.faultIn = some name) before after ∧
      deliver MockContext.hosting nested handle request before =
        some (before.hosts.heeding name (encode value) request.fallback, after) := by
  let asked := (before.journaled (.requested request.name handle)).announced method
  have asked_hosts : asked.hosts = before.hosts := Process.announced_hosts _ _
  have asked_registry : asked.registry = before.registry := Process.announced_registry _ _
  rw [deliver_served live decoded, Bridge.bind_apply]
  change ∃ after, _ ∧
    (runHost nested (MockContext.hosting () method asked.hosts) asked).bind _ = _
  rw [asked_hosts, serves, MockContext.heeding]
  by_cases failing : before.hosts.faultIn = some name
  · rw [if_pos failing, if_pos failing]
    let served : Process Unit ν (MockContext ν) := { asked with hosts := before.hosts }
    let fault := Fault.text s!"{name.text} failed"
    refine ⟨served.parked handle fault request.name.text, ⟨rfl, fun query => ?_,
      fun heeds => absurd failing heeds, fun _ => ?_⟩, rfl⟩
    · change (asked.registry.recordFault handle fault).resolve query = _
      rw [Registry.resolve_recordFault, asked_registry]
    · change ((asked.registry.recordFault handle fault).parkedFault handle).isSome = true
      rw [asked_registry]
      exact isSome_parkedFault_recordFault live fault
  · rw [if_neg failing, if_neg failing]
    refine ⟨{ asked with hosts := before.hosts }, ⟨rfl, fun query => ?_, fun _ => asked_registry,
      fun failed => absurd failed failing⟩, rfl⟩
    change asked.registry.resolve query = _
    rw [asked_registry]

theorem deliver_codeSize {handle : Nat} (live : before.registry.resolve handle = some ())
    (address : Address) :
    ∃ after, Process.Reads handle (before.hosts.faultIn = some .getCodeSize) before after ∧
      deliver MockContext.hosting nested handle (.getCodeSize (some address)) before =
        some (before.hosts.heeding .getCodeSize (before.hosts.world.code address).length 0,
          after) := by
  refine deliver_reading nested (Request.decode_getCodeSize address) live ?_
  change (MockAction.check .getCodeSize >>= fun _ => _) before.hosts = _
  rw [MockAction.checked_apply]
  rfl

theorem deliver_codeHash {handle : Nat} (live : before.registry.resolve handle = some ())
    (address : Address) :
    ∃ after, Process.Reads handle (before.hosts.faultIn = some .getCodeHash) before after ∧
      deliver MockContext.hosting nested handle (.getCodeHash (some address)) before =
        some (before.hosts.heeding .getCodeHash (before.hosts.world.codeHash address) (.zero 32),
          after) := by
  have decoded : Request.decode (.getCodeHash (some address)) =
      .ok ⟨.getCodeHash address, fun hash => hash⟩ := rfl
  refine deliver_reading nested decoded live ?_
  change (MockAction.check .getCodeHash >>= fun _ => _) before.hosts = _
  rw [MockAction.checked_apply, World.codeHash]
  refine congrArg (ite _ _) ?_
  change (match before.hosts.world.accounts.get? address with | some account => _ | none => _ :
    MockAction ν Word) before.hosts = _
  cases before.hosts.world.accounts.get? address <;> rfl

/-- As many bytes of a code as were asked for are found in a buffer that was filled with
zeros before. -/
theorem deliver_codeStart {handle : Nat} (live : before.registry.resolve handle = some ())
    (address : Address) (size : Nat) :
    ∃ after copy, Process.Reads handle (before.hosts.faultIn = some .getCode) before after ∧
      deliver MockContext.hosting nested handle
          (.copyCode (some address) 0 (.live (FixedBytes.zero size).toList)) before =
        some (copy, after) ∧
      copy.buffer.take (min copy.written size) =
        before.hosts.heeding .getCode ((before.hosts.world.code address).take size) [] := by
  let zeros := FixedBytes.ofList (FixedBytes.zero size).toList
  let window := codeWindow (before.hosts.world.code address) 0 zeros.toList.length
  have read : (Span.live zeros.toList).read? = some zeros.toList := rfl
  have serves : MockContext.hosting ()
      (.copyCode address 0 (FixedBytes.zero size).toList.length zeros) before.hosts =
        if before.hosts.faultIn = some .getCode then
          .done (.faulted (.text s!"{MethodName.getCode.text} failed")) before.hosts
        else .done (.returned (window.length, zeros.overwrite window)) before.hosts := by
    change HostRun.bind ((MockAction.check .getCode >>= fun _ => _ : MockAction ν Bytes)
      before.hosts) _ = _
    rw [MockAction.checked_apply]
    split <;> rfl
  obtain ⟨after, reads, delivered⟩ :=
    deliver_reading nested (Request.decode_copyCode address 0 read) live serves
  refine ⟨after, _, reads, delivered, ?_⟩
  rw [MockContext.heeding, MockContext.heeding]
  split
  · rw [Request.fallback, Nat.zero_min, List.take_zero]
  · have length_zeros : zeros.toList.length = size := List.length_replicate
    have fits : window.length ≤ zeros.toList.length := List.length_take_le _ _
    have kept : min (min window.length zeros.toList.length) size = window.length := by omega
    change (zeros.overwrite window).toList.take (min (min window.length zeros.toList.length) size) =
      _
    have written : (zeros.overwrite window).toList = window ++ zeros.toList.drop window.length :=
      zeros.toList_overwrite fits
    rw [kept, written, List.take_left, ← length_zeros]
    rfl

theorem run_accountCode {frame : Frame} (filled : ∀ name, frame.table name = true) (gas : Int)
    (address : Address) (resume : Except StatusCode Progress → NativeRun Outcome) :
    (perform frame gas (.accountCode address)).run.bind resume =
      .ask frame.handle (.getCodeSize (some address)) fun size =>
        .ask frame.handle (.getCodeHash (some address)) fun hash =>
          .ask frame.handle (.copyCode (some address) 0 (.live (FixedBytes.zero size).toList))
            fun copy => resume (.ok ⟨gas,
              bigEndian 8 size ++ hash.toList ++ copy.buffer.take (min copy.written size),
              .proceed⟩) := by
  rw [perform, Step.run_ask_bind (filled _)]
  congr 1
  funext size
  rw [Step.run_ask_bind (filled _)]
  congr 1
  funext hash
  exact Step.run_ask_bind (filled _) _ _

/-- The three callbacks for the code of an account leave the world as it is, whatever is
made of their answers. -/
theorem runNative_codeCallbacks {frame : Frame} (filled : ∀ name, frame.table name = true)
    (live : before.registry.resolve frame.handle = some ()) (gas : Int) (address : Address) :
    ∃ after, Process.Reads frame.handle before.hosts.Withholds before after ∧
      ∀ resume : Except StatusCode Progress → NativeRun Outcome,
        runNative MockContext.hosting nested
            ((perform frame gas (.accountCode address)).run.bind resume) before =
          runNative MockContext.hosting nested
            (resume (.ok ⟨gas, before.hosts.appendedCode address, .proceed⟩)) after := by
  let size := before.hosts.heeding .getCodeSize (before.hosts.world.code address).length 0
  obtain ⟨sized, readSize, answeredSize⟩ : ∃ sized,
      Process.Reads frame.handle (before.hosts.faultIn = some .getCodeSize) before sized ∧
        deliver MockContext.hosting nested frame.handle (.getCodeSize (some address)) before =
          some (size, sized) :=
    deliver_codeSize nested live address
  have liveSized : sized.registry.resolve frame.handle = some () :=
    (readSize.resolve_eq frame.handle).trans live
  obtain ⟨hashed, readHash, answeredHash⟩ := deliver_codeHash nested liveSized address
  rw [readSize.hosts_eq] at readHash answeredHash
  have readBoth := readSize.trans readHash
  have liveHashed : hashed.registry.resolve frame.handle = some () :=
    (readBoth.resolve_eq frame.handle).trans live
  obtain ⟨after, copy, readCode, answeredCode, taken⟩ :=
    deliver_codeStart nested liveHashed address size
  rw [readBoth.hosts_eq] at readCode taken
  have appended_eq : bigEndian 8 size ++
      (before.hosts.heeding .getCodeHash (before.hosts.world.codeHash address) (.zero 32)).toList ++
        copy.buffer.take (min copy.written size) = before.hosts.appendedCode address := by
    rw [taken]
    rfl
  refine ⟨after, readBoth.trans readCode, fun resume => ?_⟩
  rw [run_accountCode filled, runNative, Bridge.bind_apply, answeredSize, Option.bind_some]
  rw [runNative, Bridge.bind_apply, answeredHash, Option.bind_some]
  rw [runNative, Bridge.bind_apply, answeredCode, Option.bind_some]
  rw [appended_eq]

/-- Where its code asks for the code of an account, the example VM appends the size of
the code, its hash and the whole code, as far as the context does not fail, and goes on with
what follows. -/
theorem runNative_accountCode {frame : Frame} (filled : ∀ name, frame.table name = true)
    (live : before.registry.resolve frame.handle = some ()) {gas : Int} (enough : 1 ≤ gas)
    (address : Address) (position : Nat) (rest : Bytes) (pieces : List Bytes) :
    ∃ after, Process.Reads frame.handle before.hosts.Withholds before after ∧
      runNative MockContext.hosting nested
          (interpret frame ⟨position, (Command.accountCode address).encode ++ rest⟩ gas pieces)
          before =
        runNative MockContext.hosting nested
          (interpret frame ⟨position + 21, rest⟩ (gas - 1)
            (before.hosts.appendedCode address :: pieces)) after := by
  have untopical : (Command.accountCode address).FewTopics := trivial
  have charged : ¬gas < 1 := by omega
  have length_operands : (Command.accountCode address).operands.length = 20 :=
    address.length_toList
  let noted := before.journaled (frame.charged position 0x09 (gas - 1)).val
  have liveNoted : noted.registry.resolve frame.handle = some () := live
  obtain ⟨after, reads, ran⟩ := runNative_codeCallbacks nested filled liveNoted (gas - 1) address
  refine ⟨after, ⟨reads.hosts_eq, reads.resolve_eq, reads.keeps, reads.parks⟩, ?_⟩
  rw [interpret_command frame untopical charged (fun writes => nomatch writes)]
  change runNative MockContext.hosting nested
    ((perform frame (gas - 1) (.accountCode address)).run.bind _) noted = _
  rw [ran, length_operands]
  rfl

end Reports

/-- How codes reach native code that makes its callbacks with a handle. -/
structure CarriesCodes (hosting : Hosting κ ν σ) (nested : Executor κ ν σ) (handle : Nat) :
    Prop where
  /-- A window of the code is written to the start of the buffer, whose other bytes stay as
  they are, and its size is reported. -/
  copies : ∀ {host : κ} {before : Process κ ν σ},
    before.registry.resolve handle = some host → ProvidesCopy hosting host before.hosts →
      ∀ {address : Address} {code : Bytes} (offset : Nat) {span : Span UInt8} {buffer : Bytes}
        {after : Process κ ν σ}, span.read? = some buffer →
          GivesCode hosting nested handle .copyCode host address code before after →
            let count :=
              if offset < code.length then min buffer.length (code.length - offset) else 0
            deliver hosting nested handle (.copyCode (some address) offset span) before =
              some (⟨count, (code.drop offset).take count ++ buffer.drop count⟩, after)
  measures : ∀ {host : κ} {before : Process κ ν σ},
    before.registry.resolve handle = some host → ProvidesSize hosting host before.hosts →
      ∀ {address : Address} {code : Bytes} {after : Process κ ν σ},
        GivesCode hosting nested handle .getCodeSize host address code before after →
          deliver hosting nested handle (.getCodeSize (some address)) before =
            some (code.length, after)
  /-- The windows make up the code, whatever their width and whatever the buffers hold. -/
  gathers : ∀ {host : κ} {address : Address} {code : Bytes} {among : Process κ ν σ → Prop},
    KeepsCode hosting nested handle host address code among →
      ∀ {width : Nat} (buffers : Nat → FixedBytes width) {calls : Nat}
        {before : Process κ ν σ}, 0 < width → code.length ≤ calls * width → among before →
          ∃ after, among after ∧
            runNative hosting nested (gatherCode handle address buffers (calls + 1) 0 []) before =
              some (some code, after)
  /-- Whatever a host reports, no more than the buffer holds is answered. -/
  caps : ∀ (before : Process κ ν σ) (pointer : Option Address) (offset : Nat)
    (span : Span UInt8),
    (deliver hosting nested handle (.copyCode pointer offset span)).Ensures before
      fun copy _ => copy.written ≤ span.size

theorem carriesCodes (hosting : Hosting κ ν σ) (nested : Executor κ ν σ) (handle : Nat) :
    CarriesCodes hosting nested handle where
  copies live provides address code offset span buffer after read gives := by
    intro count
    have count_eq : (codeWindow code offset buffer.length).length = count :=
      length_codeWindow code offset buffer.length
    rw [deliver_copyCode live provides offset read gives, ← count_eq, ← codeWindow_eq]
  measures live provides address code after gives := deliver_getCodeSize live provides gives
  gathers keeps width buffers calls before wide enough start :=
    runNative_gatherCode keeps wide buffers (by rwa [Nat.zero_add]) start
  caps before pointer offset span := ensures_written_le pointer offset span

/-- Windows of codes are copied without loss, whatever the offset and the buffer, so that
codes can be put together again from windows of any width.  Where its code asks for the
code of an account, the example VM appends its size, its hash and the whole code if the
context heeds the callbacks; a context that was told to fail in one of them answers that
one with nothing, and parks a fault. -/
theorem codes_cross_whole (hosting : Hosting κ ν σ) (nested : Executor κ ν σ) (handle : Nat)
    (executor : Executor Unit ν (MockContext ν)) :
    CarriesCodes hosting nested handle ∧
      ∀ (frame : Frame) (before : Process Unit ν (MockContext ν)),
        (∀ name, frame.table name = true) →
        before.registry.resolve frame.handle = some () →
        ∀ (gas : Int), 1 ≤ gas →
          ∀ (address : Address) (position : Nat) (rest : Bytes) (pieces : List Bytes),
            ∃ after, Process.Reads frame.handle before.hosts.Withholds before after ∧
              (¬before.hosts.Withholds →
                before.hosts.appendedCode address = before.hosts.world.codeReport address) ∧
              runNative MockContext.hosting executor
                  (interpret frame ⟨position, (Command.accountCode address).encode ++ rest⟩ gas
                    pieces) before =
                runNative MockContext.hosting executor
                  (interpret frame ⟨position + 21, rest⟩ (gas - 1)
                    (before.hosts.appendedCode address :: pieces)) after := by
  refine ⟨carriesCodes hosting nested handle, ?_⟩
  intro frame before filled live gas enough address position rest pieces
  obtain ⟨after, reads, ran⟩ :=
    runNative_accountCode executor filled live enough address position rest pieces
  exact ⟨after, reads, fun heeds => MockContext.appendedCode_eq heeds address, ran⟩

/-- A host that overrides nothing and gives every account the same five bytes. -/
def ScriptedHost.fiveBytes : ScriptedHost Nat where
  overrides := false
  faultsIn := []
  faultStyle := .named
  found := true
  slotValue := .zero 32
  storageStatus := .assigned
  balance := .zero 32
  codeHash := .zero 32
  code := [1, 2, 3, 4, 5]
  destructs := false
  txContext := default
  blockHash := .zero 32
  callResult := .failure
  vm := none
  callCode := none
  codeSize := 0
  copyCount := 0
  access := .cold

/-- The process in which nothing but its registration has happened yet. -/
def ScriptedHost.offering : Process Unit Nat (ScriptedHost Nat) :=
  { (Process.initial fiveBytes : Process Unit Nat (ScriptedHost Nat)) with
    registry := Registry.empty.register () }

/-- The host is live under the first handle. -/
def ScriptedHost.Offered (process : Process Unit Nat (ScriptedHost Nat)) : Prop :=
  process.registry.resolve 1 = some () ∧ process.hosts = fiveBytes

theorem ScriptedHost.keepsCode_fiveBytes (address : Address) :
    KeepsCode hosting (execute hosting 0) 1 () address fiveBytes.code Offered where
  live before offered := offered.1
  provides before offered := by
    rw [offered.2]
    exact fun _ _ _ _ => rfl
  gives before offered := by
    obtain ⟨registry, hosts, privateStates, nextIdentity, journal⟩ := before
    obtain ⟨live, rfl⟩ := offered
    exact ⟨_, rfl, live, rfl⟩

/-- A frame for the host under the first handle. -/
def readingFrame : Frame := { loggingFrame with handle := 1 }

/-- An account with a code of two bytes that the context may withhold. -/
def MockContext.twoBytes (faultIn : Option MethodName) : MockContext Nat :=
  { onExampleVm [(.ofNat 20 12, { (default : Account) with code := [0xaa, 0xbb] })] with
    faultIn := faultIn }

/-- Five bytes are gathered from windows of two, and two bytes are appended behind their
size and their hash. -/
theorem codes_cross_whole_fiveBytes :
    let before := MockContext.hosted (MockContext.twoBytes none)
    ScriptedHost.Offered ScriptedHost.offering ∧
      (∃ after,
        runNative ScriptedHost.hosting (execute ScriptedHost.hosting 0)
            (gatherCode 1 (.zero 20) (fun _ => FixedBytes.zero 2) 4 0 []) ScriptedHost.offering =
          some (some [1, 2, 3, 4, 5], after)) ∧
      before.registry.resolve readingFrame.handle = some () ∧ ¬before.hosts.Withholds ∧
      ∃ after,
        runNative MockContext.hosting (execute MockContext.hosting 0)
            (interpret readingFrame ⟨0, (Command.accountCode (.ofNat 20 12)).encode ++ []⟩ 9 [])
            before =
          runNative MockContext.hosting (execute MockContext.hosting 0)
            (interpret readingFrame ⟨21, []⟩ 8
              [[0, 0, 0, 0, 0, 0, 0, 2] ++ (keccak256 [0xaa, 0xbb]).toList ++ [0xaa, 0xbb]])
            after := by
  intro before
  have offered : ScriptedHost.Offered ScriptedHost.offering := ⟨rfl, rfl⟩
  have live : before.registry.resolve readingFrame.handle = some () := rfl
  have heeds : ¬before.hosts.Withholds := by
    rintro ((failing | failing) | failing) <;> cases failing
  obtain ⟨carries, appends⟩ := codes_cross_whole ScriptedHost.hosting
    (execute ScriptedHost.hosting 0) 1 (execute MockContext.hosting 0)
  obtain ⟨gathered, _, ran⟩ := carries.gathers (ScriptedHost.keepsCode_fiveBytes (.zero 20))
    (fun _ => FixedBytes.zero 2) (by decide) (by decide : 5 ≤ 3 * 2) offered
  obtain ⟨after, _, appended_eq, followed⟩ :=
    appends readingFrame before (fun _ => rfl) live 9 (by decide) (.ofNat 20 12) 0 [] []
  have report_eq : before.hosts.world.codeReport (.ofNat 20 12) =
      [0, 0, 0, 0, 0, 0, 0, 2] ++ (keccak256 [0xaa, 0xbb]).toList ++ [0xaa, 0xbb] := by
    decide +kernel
  rw [appended_eq heeds, report_eq] at followed
  exact ⟨offered, ⟨gathered, ran⟩, live, heeds, after, followed⟩

/-- A context that was told to fail in telling the size of a code makes the example VM
append a size of zero and no code. -/
theorem MockContext.runNative_withheldSize :
    let before := hosted (twoBytes (some .getCodeSize))
    before.registry.resolve readingFrame.handle = some () ∧
      ∃ outcome after,
        runNative hosting (VmBridge.execute hosting 0)
            (interpret readingFrame ⟨0, (Command.accountCode (.ofNat 20 12)).encode⟩ 9 [])
            before = some (outcome, after) ∧
          outcome.status = .success ∧
          outcome.output ≠ before.hosts.world.codeReport (.ofNat 20 12) := by
  intro before
  have ran : (((runNative hosting (VmBridge.execute hosting 0)
      (interpret readingFrame ⟨0, (Command.accountCode (.ofNat 20 12)).encode⟩ 9 []))
      (hosted (twoBytes (some .getCodeSize)))).map fun ended =>
        decide (ended.1.status = .success ∧
          ended.1.output ≠ (twoBytes (some .getCodeSize)).world.codeReport (.ofNat 20 12))) =
        some true := by
    decide +kernel
  rw [Option.map_eq_some_iff] at ran
  obtain ⟨⟨outcome, after⟩, finished, held⟩ := ran
  obtain ⟨success, output_ne⟩ := of_decide_eq_true held
  exact ⟨rfl, outcome, after, finished, success, output_ne⟩

end VmBridge
