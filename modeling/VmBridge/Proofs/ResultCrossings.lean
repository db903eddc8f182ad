import VmBridge.Proofs.ForwardedMessages
import VmBridge.Proofs.NamedStatuses

/-!
# Results that cross the interface

A native result is copied into an `ExecutionResult`, and native code is handed a copy of
it again.  The copy may spell an empty output in another way and has a release function
of its own, and in all else it resembles the native result.  On the way back only two
spellings are lost, that of a named status by its number and that of the zero address as
a created account, and the result of an execution uses neither.  So the result of an
execution that is relayed by those around it arrives as it was:
`results_cross_unchanged`.
-/

namespace VmBridge

variable {κ ν σ : Type}

namespace StatusCode

theorem isNamed_ofRaw (raw : Int32) : (ofRaw raw).IsNamed ∨ ofRaw raw = .unknown raw := by
  rw [ofRaw]
  split
  case h_22 => exact Or.inr rfl
  all_goals exact Or.inl trivial

/-- A number stands in the place of a named status. -/
def HidesName (status : StatusCode) : Prop :=
  ∃ named : StatusCode, named.IsNamed ∧ status = .unknown named.raw

theorem ofRaw_raw_iff (status : StatusCode) : ofRaw status.raw = status ↔ ¬status.HidesName := by
  constructor
  · rintro same ⟨named, isNamed, rfl⟩
    change ofRaw named.raw = .unknown named.raw at same
    rw [isNamed.ofRaw_raw] at same
    rw [same] at isNamed
    exact isNamed
  · intro plain
    cases status with
    | unknown raw =>
        rcases isNamed_ofRaw raw with isNamed | unnamed
        · exact absurd ⟨ofRaw raw, isNamed, congrArg unknown (raw_ofRaw raw).symm⟩ plain
        · exact unnamed
    | _ => exact IsNamed.ofRaw_raw trivial

end StatusCode

theorem Span.contents_ne_nil {α : Type} (span : Span α) :
    span.contents ≠ [] ↔ span.isNull = false ∧ span.size ≠ 0 := by
  cases span with
  | null size => simp [contents, isNull]
  | live items => simp [contents, isNull, size]

namespace NativeResult

/-- Two native results tell the same, however they spell an empty output and whoever
releases it. -/
structure Resembles (native other : NativeResult) : Prop where
  status : native.status = other.status
  gasLeft : native.gasLeft = other.gasLeft
  gasRefund : native.gasRefund = other.gasRefund
  output : native.output.contents = other.output.contents
  createAddress : native.createAddress = other.createAddress

theorem Resembles.toResult_eq {native other : NativeResult} (resembles : native.Resembles other) :
    native.toResult = other.toResult := by
  rw [toResult, toResult, resembles.status, resembles.gasLeft, resembles.gasRefund,
    resembles.output, resembles.createAddress]

theorem resembles_toNative_toResult (native : NativeResult) :
    native.toResult.toNative.Resembles native where
  status := StatusCode.raw_ofRaw native.status
  gasLeft := rfl
  gasRefund := rfl
  output := Span.contents_lend _
  createAddress := by
    change (if native.createAddress = .zero 20 then none else some native.createAddress).getD
      (.zero 20) = native.createAddress
    split
    · rename_i zero
      exact zero.symm
    · rfl

theorem isSome_release_toNative (native : NativeResult) :
    native.toResult.toNative.release.isSome = true ↔
      native.output.isNull = false ∧ native.output.size ≠ 0 := by
  rw [← Span.contents_ne_nil]
  change (if native.output.contents.isEmpty then none else
    some (⟨.binding, native.output.contents⟩ : Release)).isSome = true ↔ _
  cases native.output.contents <;> simp

end NativeResult

theorem ExecutionResult.toResult_toNative_iff (result : ExecutionResult) :
    result.toNative.toResult = result ↔
      ¬result.status.HidesName ∧ result.createAddress ≠ some (.zero 20) := by
  obtain ⟨status, gasLeft, gasRefund, output, createAddress⟩ := result
  have address_iff : (if createAddress.getD (.zero 20) = .zero 20 then none else
      some (createAddress.getD (.zero 20))) = createAddress ↔
        createAddress ≠ some (.zero 20) := by
    cases createAddress with
    | none => simp
    | some address =>
        by_cases zero : address = .zero 20 <;> simp [zero]
  simp only [toNative, NativeResult.toResult, Span.contents_lend, ExecutionResult.mk.injEq,
    StatusCode.ofRaw_raw_iff, address_iff, true_and]

/-- What an execution returns is copied from a native result. -/
theorem Level.exists_toResult_of_ends {hosting : Hosting κ ν σ} {process after : Process κ ν σ}
    {level : Level κ ν σ} {result : ExecutionResult}
    (turned : level.turn hosting process = (after, .ends (.returned result))) :
    ∃ native : NativeResult, native.toResult = result := by
  obtain ⟨own, actor, phase⟩ := level
  cases phase with
  | registered | settled => cases turned
  | native course => cases course <;> cases turned
  | serving handle request delivery run resume =>
      cases run with
      | done ending hosts => cases ending <;> cases turned
      | note | execute => cases turned
  | collected native fault =>
      cases fault with
      | some fault => cases turned
      | none =>
          cases turned
          exact ⟨native, rfl⟩

namespace Moment

variable {hosting : Hosting κ ν σ} {moment later : Moment κ ν σ} {before process : Process κ ν σ}
  {vm : Vm ν} {host : κ} {message : Message} {code : Bytes} {result : ExecutionResult}
  {levels : List (Level κ ν σ)}

theorem toResult_toNative_of_next (stepped : moment.next hosting = some later)
    (ended : later.control = .ended (.returned result)) : result.toNative.toResult = result := by
  cases step_of_next stepped with
  | unsupported =>
      cases ended
      rfl
  | ends turned =>
      cases ended
      obtain ⟨native, rfl⟩ := Level.exists_toResult_of_ends turned
      exact native.resembles_toNative_toResult.toResult_eq
  | registers | goesOn | nests | hears => cases ended

theorem toResult_toNative_of_leads
    (reached : (start before vm host message code []).Leads hosting
      ⟨process, .ended (.returned result), levels⟩) : result.toNative.toResult = result := by
  rcases Relation.ReflTransGen.cases_tail reached with same | ⟨earlier, _, stepped⟩
  · cases same
  · exact toResult_toNative_of_next stepped rfl

/-- An execution hears of a result and relays it.  Its host returns the result from the
callback that is being served, its native code ends with one that resembles the answer,
and no fault of its hosts takes the place of the result. -/
inductive Relays (hosting : Hosting κ ν σ) : Moment κ ν σ → Moment κ ν σ → Prop where
  | intro {heard answered handed : Process κ ν σ} {result : ExecutionResult}
      {level : Level κ ν σ} {outer : List (Level κ ν σ)} {own handle : Nat} {actor : κ}
      {pointer : Option NativeMessage} {message : Message}
      {encode : ExecutionResult → NativeResult} {hosts : σ}
      {resume : NativeResult → NativeRun NativeResult} {native : NativeResult}
      (returns : Leads hosting ⟨heard, .ended (.returned result), level :: outer⟩
        ⟨answered, .running, ⟨own, actor, .serving handle (.call pointer)
          ⟨.call message, encode⟩ (.done (.returned result) hosts) resume⟩ :: outer⟩)
      (finishes : Leads hosting
        ⟨answered, .running, ⟨own, actor, .serving handle (.call pointer)
          ⟨.call message, encode⟩ (.done (.returned result) hosts) resume⟩ :: outer⟩
        ⟨handed, .running, ⟨own, actor, .native (.done native)⟩ :: outer⟩)
      (resembles : native.Resembles (encode result))
      (faultless : handed.registry.parkedFault own = none) :
      Relays hosting ⟨heard, .ended (.returned result), level :: outer⟩
        ⟨(handed.concluded own native).2, .ended (handed.concluded own native).1, outer⟩

theorem Relays.ended (relays : Relays hosting ⟨process, .ended (.returned result), levels⟩ later)
    (decoded : Decoded ⟨process, .ended (.returned result), levels⟩)
    (crosses : result.toNative.toResult = result) :
    Leads hosting ⟨process, .ended (.returned result), levels⟩ later ∧
      later.control = .ended (.returned result) := by
  cases relays with
  | @intro _ answered handed _ level outer own handle actor pointer message encode hosts resume
      native returns finishes resembles faultless =>
      have served := (decoded.of_leads returns) _ List.mem_cons_self
      obtain ⟨_, _, -, -, same⟩ := Request.call_of_decode served
      cases same
      refine ⟨(returns.trans finishes).trans (leads_concluded own actor native handed outer), ?_⟩
      have result_eq : native.toResult = result := resembles.toResult_eq.trans crosses
      simp only [Process.concluded, faultless, result_eq]

/-- However many executions relay a result, the last one of them ends with it. -/
theorem ended_of_relays
    (reached : (start before vm host message code []).Leads hosting
      ⟨process, .ended (.returned result), levels⟩)
    (relayed : Relation.ReflTransGen (Relays hosting) ⟨process, .ended (.returned result), levels⟩
      later) :
    (start before vm host message code []).Leads hosting later ∧
      later.control = .ended (.returned result) := by
  induction relayed with
  | refl => exact ⟨reached, rfl⟩
  | @tail middle later _ relays ih =>
      obtain ⟨between, control, outer⟩ := middle
      obtain ⟨onward, rfl⟩ := ih
      have decoded := (decoded_start before vm host message code).of_leads onward
      obtain ⟨leads, ended⟩ := relays.ended decoded (toResult_toNative_of_leads onward)
      exact ⟨onward.trans leads, ended⟩

end Moment

/-- A native result that is copied and handed to native code again keeps its status, its
gas, its account and its output, and it has a release function exactly if there is an
output.  A result that is handed to native code is read back as it was exactly if it
spells neither a named status by its number nor the zero address as an account.  The
result with which an execution has ended is the one with which all those end that relay
it, and if the outermost execution is among them, that is what the whole returns. -/
theorem results_cross_unchanged (hosting : Hosting κ ν σ) (before : Process κ ν σ) (vm : Vm ν)
    (host : κ) (message : Message) (code : Bytes) :
    (∀ native : NativeResult, native.toResult.toNative.Resembles native ∧
        (native.toResult.toNative.release.isSome = true ↔
          native.output.isNull = false ∧ native.output.size ≠ 0)) ∧
      (∀ result : ExecutionResult, result.toNative.toResult = result ↔
          ¬result.status.HidesName ∧ result.createAddress ≠ some (.zero 20)) ∧
      ∀ process result levels, (Moment.start before vm host message code []).Leads hosting
          ⟨process, .ended (.returned result), levels⟩ →
        ∀ later, Relation.ReflTransGen (Moment.Relays hosting)
            ⟨process, .ended (.returned result), levels⟩ later →
          (Moment.start before vm host message code []).Leads hosting later ∧
            later.control = .ended (.returned result) ∧
            (later.levels = [] → ∃ limit, execute hosting limit vm host message code before =
              some (.returned result, later.process)) := by
  refine ⟨fun native => ⟨native.resembles_toNative_toResult, native.isSome_release_toNative⟩,
    fun result => result.toResult_toNative_iff, ?_⟩
  intro process result levels reached later relayed
  obtain ⟨onward, ended⟩ := Moment.ended_of_relays reached relayed
  refine ⟨onward, ended, fun outermost => ?_⟩
  obtain ⟨after, control, outer⟩ := later
  obtain rfl : control = _ := ended
  obtain rfl : outer = _ := outermost
  exact (Moment.execute_iff_leads hosting vm host message code before _ after).mpr onward

/-- A result with a status that has no name and a null pointer that promises output. -/
def raggedResult : NativeResult where
  status := 999
  gasLeft := -5
  gasRefund := 7
  output := .null 4
  release := none
  createAddress := .ofNat 20 1

/-- Another spelling of an empty output. -/
def NativeResult.respelled (native : NativeResult) : NativeResult :=
  { native with output := .live native.output.contents }

/-- Native code that nests twice and hands on what it is answered. -/
def relayingExecute : NativeExecute Unit := fun state arguments =>
  (state, if arguments.handle = 3 then .done raggedResult
    else .ask arguments.handle (.call arguments.message) fun answer => .done answer.respelled)

def relayingVm : Vm Unit :=
  { nestingVm with native := { nestingVm.native with execute := some relayingExecute } }

/-- A host that has nested messages executed by the same VM. -/
def relayingHosting : Hosting Unit Unit Unit
  | _, .call message => HostAction.execute relayingVm () message []
  | _, _ => HostAction.fail .wordless

/-- An execution of the relaying VM that waits for a nested one. -/
def relayingLevel (handle : Nat) : Level Unit Unit Unit where
  handle := handle
  host := ()
  phase := .serving handle (.call (some (default : Message).toNative))
    ⟨.call default, ExecutionResult.toNative⟩ (.execute relayingVm () default [] () .done)
    fun answer => .done answer.respelled

theorem relays_relayingLevel {handle : Nat} {process : Process Unit Unit Unit}
    (faultless : process.registry.parkedFault handle = none) (outer : List (Level Unit Unit Unit)) :
    Moment.Relays relayingHosting
      ⟨process, .ended (.returned raggedResult.toResult), relayingLevel handle :: outer⟩
      ⟨(process.concluded handle raggedResult.toResult.toNative.respelled).2,
        .ended (.returned raggedResult.toResult), outer⟩ := by
  let answered : Moment Unit Unit Unit := ⟨process, .running,
    ⟨handle, (), .serving handle (.call (some (default : Message).toNative))
      ⟨.call default, ExecutionResult.toNative⟩
      (.done (.returned raggedResult.toResult) process.hosts)
      fun answer => .done answer.respelled⟩ :: outer⟩
  have returns : Moment.Leads relayingHosting
      ⟨process, .ended (.returned raggedResult.toResult), relayingLevel handle :: outer⟩ answered :=
    .single rfl
  have finishes : answered.Leads relayingHosting ⟨process, .running,
      ⟨handle, (), .native (.done raggedResult.toResult.toNative.respelled)⟩ :: outer⟩ :=
    .single rfl
  have relays := Moment.Relays.intro returns finishes ⟨rfl, rfl, rfl, rfl, rfl⟩ faultless
  have returned : (process.concluded handle raggedResult.toResult.toNative.respelled).1 =
      .returned raggedResult.toResult := by
    simp only [Process.concluded, faultless]
    rfl
  rwa [returned] at relays

theorem leads_raggedResult :
    ∃ process, (Moment.start (Process.initial ()) relayingVm () default [] []).Leads
        relayingHosting ⟨process, .ended (.returned raggedResult.toResult),
          [relayingLevel 2, relayingLevel 1]⟩ ∧
      process.registry.parkedFault 2 = none ∧
      (process.concluded 2 raggedResult.toResult.toNative.respelled).2.registry.parkedFault 1 =
        none := by
  have reached : (Moment.start (Process.initial ()) relayingVm () default [] []).Leads
      relayingHosting ⟨_, .ended (.returned raggedResult.toResult),
        [relayingLevel 2, relayingLevel 1]⟩ :=
    Moment.leads_step rfl (Moment.leads_step rfl (Moment.leads_step rfl (Moment.leads_step rfl
      (Moment.leads_step rfl (Moment.leads_step rfl (Moment.leads_step rfl (Moment.leads_step rfl
      (Moment.leads_step rfl (Moment.leads_step rfl (Moment.leads_step rfl (Moment.leads_step rfl
      (.single rfl))))))))))))
  exact ⟨_, reached, rfl, rfl⟩

/-- The ragged result goes through two executions and comes out as the first copy of it. -/
theorem execute_relayingVm :
    ∃ process later,
      let heard : Moment Unit Unit Unit := ⟨process, .ended (.returned raggedResult.toResult),
        [relayingLevel 2, relayingLevel 1]⟩
      (Moment.start (Process.initial ()) relayingVm () default [] []).Leads relayingHosting heard ∧
        Relation.ReflTransGen (Moment.Relays relayingHosting) heard later ∧ later.levels = [] ∧
        ∃ limit, execute relayingHosting limit relayingVm () default [] (Process.initial ()) =
          some (.returned ⟨.unknown 999, -5, 7, [], some (.ofNat 20 1)⟩, later.process) := by
  obtain ⟨-, -, relays⟩ := results_cross_unchanged relayingHosting (Process.initial ())
    relayingVm () default []
  obtain ⟨process, reached, inner, outer⟩ := leads_raggedResult
  have relayed := Relation.ReflTransGen.head (relays_relayingLevel inner [relayingLevel 1])
    (.single (relays_relayingLevel outer []))
  obtain ⟨-, -, finishes⟩ := relays _ _ _ reached _ relayed
  exact ⟨process, _, reached, relayed, rfl, finishes rfl⟩

end VmBridge
