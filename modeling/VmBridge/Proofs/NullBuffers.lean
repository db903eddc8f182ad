import VmBridge.Proofs.CallbackOutcomes

/-!
# Null buffers

A buffer reaches a callback as a pointer together with a length, and a null
pointer may only come with the length zero.  `Request.HasNullBuffer` says that a
request breaks this rule in one of its buffers.  Of the callbacks that take buffers
all but one check the rule, and decline such a request as they decline one without
an address.

The exception is the input of a nested message: a null pointer is read as an empty
input there, whatever the length says, and the message is delivered.
-/

namespace VmBridge

variable {κ ν σ : Type}

namespace Request

/-- A buffer of the request is a null pointer with a length above zero. -/
def HasNullBuffer : Request → Prop
  | .copyCode _ _ buffer => ¬buffer.Leads
  | .emitLog _ data topics => ¬data.Leads ∨ ¬topics.Leads
  | .call (some native) => ¬native.input.Leads
  | _ => False

/-- The arguments of a request are turned down because of a null pointer. -/
def Rejects {α : Type} (function : String) (check : Except CallbackError α) : Prop :=
  ∃ parameter, check = .error (.nullPointer parameter function)

section Rejects

variable {α β : Type} {function : String}

theorem rejects_bind {check : Except CallbackError α} {next : α → Except CallbackError β}
    (rejects : Rejects function check) : Rejects function (check >>= next) := by
  obtain ⟨parameter, check_eq⟩ := rejects
  exact ⟨parameter, by rw [check_eq]; rfl⟩

/-- Once a pointer is followed, either it was null or the rest decides. -/
theorem rejects_follow_bind {pointer : Option α} {parameter : String}
    {next : α → Except CallbackError β} (rest : ∀ value, Rejects function (next value)) :
    Rejects function (follow pointer parameter function >>= next) := by
  cases pointer with
  | none => exact ⟨parameter, rfl⟩
  | some value => exact rest value

theorem rejects_followSpan {span : Span α} (broken : ¬span.Leads) (parameter : String) :
    Rejects function (followSpan span parameter function) := by
  cases read : span.read? with
  | some items => exact absurd (Span.leads_of_read? read) broken
  | none => exact ⟨parameter, by rw [followSpan, read]⟩

theorem rejects_followSpan_bind {span : Span α} {parameter : String}
    {next : List α → Except CallbackError β} (rest : ∀ items, Rejects function (next items)) :
    Rejects function (followSpan span parameter function >>= next) := by
  by_cases leads : span.Leads
  · rw [followSpan_eq leads.read_eq]
    exact rest _
  · exact rejects_bind (rejects_followSpan leads parameter)

end Rejects

/-- A null buffer is found when the request is decoded, unless it is the input of a
message. -/
theorem HasNullBuffer.rejects {request : Request} (hasNull : request.HasNullBuffer)
    (notCall : request.name ≠ .call) : Rejects request.name.text request.decode := by
  cases request with
  | copyCode address offset buffer =>
      exact rejects_follow_bind fun _ => rejects_bind (rejects_followSpan hasNull _)
  | emitLog address data topics =>
      refine rejects_follow_bind fun _ => ?_
      rcases hasNull with dataBroken | topicsBroken
      · exact rejects_bind (rejects_followSpan dataBroken _)
      · exact rejects_followSpan_bind fun _ => rejects_bind (rejects_followSpan topicsBroken _)
  | call => exact absurd rfl notCall
  | _ => exact hasNull.elim

theorem HasNullBuffer.not_complete {request : Request} (hasNull : request.HasNullBuffer)
    (notCall : request.name ≠ .call) : ¬request.Complete := by
  intro complete
  cases request with
  | copyCode => exact hasNull complete.2
  | emitLog =>
      rcases hasNull with dataBroken | topicsBroken
      · exact dataBroken complete.2.1
      · exact topicsBroken complete.2.2
  | call => exact notCall rfl
  | _ => exact hasNull.elim

theorem decode_call_of_error {native : NativeMessage} {kind : Int32}
    (unread : native.toMessage = .error kind) :
    (call (some native)).decode =
      .error (.invalidParameter "kind" (toString kind.toInt) "call") := by
  simp only [decode, followMessage, follow, bind, Except.bind, unread]
  rfl

end Request

section Callbacks

variable (hosting : Hosting κ ν σ) (nested : Executor κ ν σ) (handle : Nat)
  (before : Process κ ν σ)

/-- The length that comes with a null pointer to an input makes no difference. -/
theorem deliver_nullInput (native : NativeMessage) (size : Nat) :
    deliver hosting nested handle (.call (some { native with input := .null size })) before =
      deliver hosting nested handle (.call (some { native with input := .null 0 })) before := by
  have same : { native with input := .null size }.toMessage =
      { native with input := .null 0 }.toMessage := rfl
  cases resolved : before.registry.resolve handle with
  | none =>
      rw [deliver_unresolved resolved, deliver_unresolved resolved]
      rfl
  | some host =>
      cases read : { native with input := .null 0 }.toMessage with
      | error kind =>
          rw [deliver_undecoded resolved (Request.decode_call_of_error read),
            deliver_undecoded resolved (Request.decode_call_of_error (same.trans read))]
          rfl
      | ok message =>
          rw [deliver_served resolved (Request.decode_call_of_ok read),
            deliver_served resolved (Request.decode_call_of_ok (same.trans read)),
            Bridge.bind_apply, Bridge.bind_apply]
          refine Option.bind_congr fun ended _ => ?_
          obtain ⟨ending, after⟩ := ended
          cases ending <;> rfl

/-- No null buffer reaches a host, but for the input of a nested message.  A callback
with any other null buffer is declined, and the journal blames a null pointer.  A
message with a null pointer to its input is delivered as if its input were empty. -/
theorem deliver_declines_nullBuffers {host : κ}
    (live : before.registry.resolve handle = some host) :
    (∀ request : Request, request.HasNullBuffer → request.name ≠ .call →
        ∃ parameter, ∃ after, after.journal =
            .refused handle (.nullPointer parameter request.name.text) ::
              .requested request.name handle :: before.journal ∧
          deliver hosting nested handle request before = some (request.fallback, after) ∧
          Declined handle request before request.fallback after) ∧
      ∀ (native : NativeMessage) (size : Nat),
        deliver hosting nested handle (.call (some { native with input := .null size })) before =
          deliver hosting nested handle (.call (some { native with input := .null 0 }))
            before := by
  constructor
  · intro request hasNull notCall
    obtain ⟨parameter, undecoded⟩ := hasNull.rejects notCall
    have incomplete : ¬request.Complete := hasNull.not_complete notCall
    exact ⟨parameter, _, rfl, deliver_undecoded live undecoded,
      declined_of_deliver_eq (Or.inr incomplete) fun _ _ => deliver_undecoded live undecoded⟩
  · exact deliver_nullInput hosting nested handle before

end Callbacks

/-- A log with a null pointer to three topics. -/
def promisedTopics : Request := .emitLog (some (.zero 20)) (.live [1]) (.null 3)

/-- The topics are asked for in vain, and the failing host does not hear of it. -/
theorem deliver_promisedTopics :
    singleHosted.registry.resolve 1 = some () ∧ promisedTopics.HasNullBuffer ∧
      promisedTopics.name ≠ .call ∧
      ∃ after, deliver failingHosting (execute failingHosting 0) 1 promisedTopics singleHosted =
          some ((), after) ∧
        Declined 1 promisedTopics singleHosted () after := by
  have hasNull : promisedTopics.HasNullBuffer := Or.inr fun leads => nomatch leads rfl
  have notCall : promisedTopics.name ≠ .call := by decide
  have live : singleHosted.registry.resolve 1 = some () := rfl
  obtain ⟨_, after, _, delivered, declined⟩ :=
    (deliver_declines_nullBuffers failingHosting (execute failingHosting 0) 1 singleHosted
      live).1 promisedTopics hasNull notCall
  exact ⟨live, hasNull, notCall, after, delivered, declined⟩

/-- Hosts that answer every nested message with a success. -/
def welcomingHosting : Hosting Unit Unit Unit
  | _, .call _ => pure (.success 7 [0xaa])
  | _, _ => HostAction.fail .wordless

/-- A nested message with a null pointer to one byte of input. -/
def promisedInput : Request := .call (some { (default : NativeMessage) with input := .null 1 })

/-- The message is not declined: the host hears of it, and its success goes back. -/
theorem deliver_promisedInput :
    singleHosted.registry.resolve 1 = some () ∧ promisedInput.HasNullBuffer ∧
      (∃ after, deliver welcomingHosting (execute welcomingHosting 0) 1 promisedInput
          singleHosted = some ((ExecutionResult.success 7 [0xaa]).toNative, after) ∧
        ¬promisedInput.IsDefault (ExecutionResult.success 7 [0xaa]).toNative) ∧
      ¬∃ answer after, Declined 1 promisedInput singleHosted answer after := by
  have hasNull : promisedInput.HasNullBuffer := fun leads => nomatch leads rfl
  refine ⟨rfl, hasNull, ⟨_, rfl, fun isDefault => ?_⟩, ?_⟩
  · cases isDefault
  · rintro ⟨answer, after, declined⟩
    rcases declined.unreached with unresolved | incomplete
    · cases unresolved
    · exact incomplete ⟨_, rfl, by decide, by decide⟩

end VmBridge
