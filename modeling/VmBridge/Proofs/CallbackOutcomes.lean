import Mathlib.Logic.ExistsUnique
import VmBridge.Proofs.ExecutionSteps
import VmBridge.Proofs.ResultForms

/-!
# What becomes of a callback

Native code hands over a raw request, and one of three things becomes of it.
It is served: a method of the host ran once, on the values that the request
carries, and what it returned went back.  It is declined: the host was not
asked and nothing changed but the journal.  Or it is contained: the method
failed, and its fault is parked and goes no further.

`Request.Complete` says which requests can be served, `Request.Carries` what
they carry, and `Request.IsDefault` what goes back otherwise.
`deliver_has_one_outcome` says that these three, and always exactly one of
them, are what can become of a callback, whatever the host does.
-/

namespace VmBridge

variable {κ ν σ : Type}

namespace Span

variable {α : Type}

/-- The pointer leads to the items that the count promises: it may be null only
if there are none. -/
def Leads (span : Span α) : Prop := span.isNull = true → span.size = 0

theorem Leads.read_eq {span : Span α} (leads : span.Leads) :
    span.read? = some span.contents := by
  match span with
  | .live items => rfl
  | .null 0 => rfl
  | .null (size + 1) => cases leads rfl

theorem Leads.size_eq {span : Span α} (leads : span.Leads) :
    span.size = span.contents.length := by
  cases span with
  | live items => rfl
  | null size => exact leads rfl

theorem leads_of_read? {span : Span α} {items : List α} (read : span.read? = some items) :
    span.Leads := by
  match span with
  | .live items => exact fun isNull => by cases isNull
  | .null 0 => exact fun _ => rfl
  | .null (size + 1) => cases read

theorem size_of_read? {span : Span α} {items : List α} (read : span.read? = some items) :
    span.size = items.length := by
  have leads := leads_of_read? read
  rw [leads.size_eq, Option.some.inj (leads.read_eq.symm.trans read)]

end Span

/-- A native message stands for a message: its kind is the number of the other's
kind, its lowest flag marks a static call, and its input leads to the other's. -/
structure NativeMessage.Describes (native : NativeMessage) (message : Message) : Prop where
  kind : native.kind = message.kind.raw
  isStatic : message.isStatic = true ↔ native.flags.toNat % 2 = 1
  depth : native.depth = message.depth
  gas : native.gas = message.gas
  recipient : native.recipient = message.recipient
  sender : native.sender = message.sender
  input : native.input.read? = some message.input
  value : native.value = message.value
  salt : native.salt = message.salt
  codeAddress : native.codeAddress = message.codeAddress

/-- The kinds that have a meaning are those from 0 to 4. -/
def NativeMessage.HasKind (native : NativeMessage) : Prop :=
  0 ≤ native.kind.toInt ∧ native.kind.toInt ≤ 4

theorem CallKind.exists_raw {raw : Int32} (least : 0 ≤ raw.toInt) (most : raw.toInt ≤ 4) :
    ∃ kind : CallKind, raw = kind.raw := by
  have cases_of : raw.toInt = 0 ∨ raw.toInt = 1 ∨ raw.toInt = 2 ∨ raw.toInt = 3 ∨
      raw.toInt = 4 := by omega
  rcases cases_of with value | value | value | value | value
  · exact ⟨.call, Int32.toInt_inj.mp value⟩
  · exact ⟨.delegateCall, Int32.toInt_inj.mp value⟩
  · exact ⟨.callCode, Int32.toInt_inj.mp value⟩
  · exact ⟨.create, Int32.toInt_inj.mp value⟩
  · exact ⟨.create2, Int32.toInt_inj.mp value⟩

theorem NativeMessage.isStatic_iff (native : NativeMessage) :
    native.isStatic = true ↔ native.flags.toNat % 2 = 1 := by
  have lowest : (native.flags &&& staticFlag).toNat = native.flags.toNat % 2 := by
    rw [UInt32.toNat_and]
    exact Nat.and_one_is_mod _
  rw [isStatic, bne_iff_ne, ne_eq, ← UInt32.toNat_inj, lowest]
  change ¬native.flags.toNat % 2 = 0 ↔ _
  omega

theorem NativeMessage.Describes.toMessage_eq {native : NativeMessage} {message : Message}
    (describes : native.Describes message) : native.toMessage = .ok message := by
  obtain ⟨kind, isStatic, depth, gas, recipient, sender, input, value, salt, codeAddress⟩ :=
    describes
  have leads := Span.leads_of_read? input
  have contents : native.input.contents = message.input :=
    Option.some.inj (leads.read_eq.symm.trans input)
  have flag : native.isStatic = message.isStatic :=
    Bool.eq_iff_iff.mpr ((isStatic_iff native).trans isStatic.symm)
  rw [toMessage, kind, CallKind.ofRaw_raw, flag, depth, gas, recipient, sender, contents, value,
    salt, codeAddress]
  rfl

theorem NativeMessage.exists_describes {native : NativeMessage} (hasKind : native.HasKind)
    (leads : native.input.Leads) : ∃ message, native.Describes message := by
  obtain ⟨kind, kind_eq⟩ := CallKind.exists_raw hasKind.1 hasKind.2
  exact ⟨⟨kind, native.isStatic, native.depth, native.gas, native.recipient, native.sender,
    native.input.contents, native.value, native.salt, native.codeAddress⟩,
    ⟨kind_eq, native.isStatic_iff, rfl, rfl, rfl, rfl, leads.read_eq, rfl, rfl, rfl⟩⟩

theorem NativeMessage.hasKind_of_toMessage {native : NativeMessage} {message : Message}
    (read : native.toMessage = .ok message) : native.HasKind := by
  rw [toMessage] at read
  cases known : CallKind.ofRaw native.kind with
  | error raw => simp [known, Except.map] at read
  | ok kind =>
      rw [CallKind.ofRaw] at known
      rw [HasKind]
      split at known <;> simp_all

namespace Request

/-- Every pointer that a request needs leads somewhere, and the kind of a message
has a meaning. -/
def Complete : Request → Prop
  | .accountExists address | .getBalance address | .getCodeSize address
  | .getCodeHash address | .accessAccount address => address.isSome
  | .getStorage address key | .accessStorage address key => address.isSome ∧ key.isSome
  | .setStorage address key value => address.isSome ∧ key.isSome ∧ value.isSome
  | .copyCode address _ buffer => address.isSome ∧ buffer.Leads
  | .selfdestruct address beneficiary => address.isSome ∧ beneficiary.isSome
  | .call message => ∃ native, message = some native ∧ native.HasKind
  | .getTxContext | .getBlockHash _ => True
  | .emitLog address data topics => address.isSome ∧ data.Leads ∧ topics.Leads

/-- The input of a message is not a null pointer that promises bytes. -/
def InputLeads : Request → Prop
  | .call (some native) => native.input.Leads
  | _ => True

/-- What a request asks for: the method of the host with its arguments, and which answers
tell of its result.  Of copied code no more is reported than the buffer holds, and
statuses are told by their numbers. -/
inductive Carries :
    (request : Request) → (method : HostMethod) → (method.Answer → request.Answer → Prop) →
      Prop where
  | accountExists (address : Address) :
      Carries (.accountExists (some address)) (.accountExists address)
        fun exists? answer => answer = exists?
  | getStorage (address : Address) (key : Word) :
      Carries (.getStorage (some address) (some key)) (.getStorage address key)
        fun word answer => answer = word
  | setStorage (address : Address) (key value : Word) :
      Carries (.setStorage (some address) (some key) (some value))
        (.setStorage address key value)
        fun status answer => IsNumbered StorageStatus.inOrder 0 status answer
  | getBalance (address : Address) :
      Carries (.getBalance (some address)) (.getBalance address)
        fun balance answer => answer = balance
  | getCodeSize (address : Address) :
      Carries (.getCodeSize (some address)) (.getCodeSize address)
        fun size answer => answer = size
  | getCodeHash (address : Address) :
      Carries (.getCodeHash (some address)) (.getCodeHash address)
        fun hash answer => answer = hash
  | copyCode (address : Address) (offset : Nat) {span : Span UInt8} {buffer : Bytes}
      (read : span.read? = some buffer) :
      Carries (.copyCode (some address) offset span)
        (.copyCode address offset buffer.length (.ofList buffer))
        fun copied answer => answer = ⟨min copied.1 span.size, copied.2.toList⟩
  | selfdestruct (address beneficiary : Address) :
      Carries (.selfdestruct (some address) (some beneficiary))
        (.selfdestruct address beneficiary) fun first answer => answer = first
  | call {native : NativeMessage} {message : Message} (describes : native.Describes message) :
      Carries (.call (some native)) (.call message)
        fun result answer => NativeResult.Lends answer result
  | getTxContext : Carries .getTxContext .getTxContext fun context answer => answer = context
  | getBlockHash (number : Int64) :
      Carries (.getBlockHash number) (.getBlockHash number) fun hash answer => answer = hash
  | emitLog (address : Address) {dataSpan : Span UInt8} {topicsSpan : Span Word}
      {data : Bytes} {topics : List Word} (data_read : dataSpan.read? = some data)
      (topics_read : topicsSpan.read? = some topics) :
      Carries (.emitLog (some address) dataSpan topicsSpan) (.emitLog ⟨address, data, topics⟩)
        fun done answer => answer = done
  | accessAccount (address : Address) :
      Carries (.accessAccount (some address)) (.accessAccount address)
        fun status answer => IsNumbered [AccessStatus.cold, .warm] 0 status answer
  | accessStorage (address : Address) (key : Word) :
      Carries (.accessStorage (some address) (some key)) (.accessStorage address key)
        fun status answer => IsNumbered [AccessStatus.cold, .warm] 0 status answer

/-- The default of a callback: nothing exists, is found, was written, or had been
accessed, the buffer is as it was, and a nested message failed inside of the bridge,
with the status -1 and nothing to release. -/
def IsDefault : (request : Request) → request.Answer → Prop
  | .accountExists _, answer => answer = false
  | .getStorage _ _, answer => answer = .zero 32
  | .setStorage _ _ _, answer => answer = 0
  | .getBalance _, answer => answer = .zero 32
  | .getCodeSize _, answer => answer = 0
  | .getCodeHash _, answer => answer = .zero 32
  | .copyCode _ _ buffer, answer => answer = ⟨0, buffer.contents⟩
  | .selfdestruct _ _, answer => answer = false
  | .call _, answer =>
      answer =
        { status := -1
          gasLeft := 0
          gasRefund := 0
          output := .null 0
          release := none
          createAddress := .zero 20 }
  | .getTxContext, answer =>
      answer = ⟨.zero 32, .zero 20, .zero 20, 0, 0, 0, .zero 32, .zero 32, .zero 32⟩
  | .getBlockHash _, answer => answer = .zero 32
  | .emitLog _ _ _, _ => True
  | .accessAccount _, answer => answer = 0
  | .accessStorage _ _, answer => answer = 0

theorem isDefault_fallback (request : Request) : request.IsDefault request.fallback := by
  cases request with
  | emitLog => trivial
  | _ => rfl

variable {request : Request} {method : HostMethod}
  {answers : method.Answer → request.Answer → Prop}

theorem followSpan_eq {α : Type} {span : Span α} {items : List α}
    (read : span.read? = some items) (parameter function : String) :
    followSpan span parameter function = .ok items := by
  rw [followSpan, read]

theorem decode_getCodeSize (address : Address) :
    (getCodeSize (some address)).decode = .ok ⟨.getCodeSize address, id⟩ :=
  rfl

theorem decode_copyCode (address : Address) (offset : Nat) {span : Span UInt8} {buffer : Bytes}
    (read : span.read? = some buffer) :
    (copyCode (some address) offset span).decode =
      .ok ⟨.copyCode address offset buffer.length (.ofList buffer), fun copied =>
        ⟨min copied.1 span.size, copied.2.toList⟩⟩ := by
  rw [Span.size_of_read? read]
  simp only [decode, follow, followSpan_eq read]
  rfl

theorem decode_call_of_ok {native : NativeMessage} {message : Message}
    (read : native.toMessage = .ok message) :
    (call (some native)).decode = .ok ⟨.call message, ExecutionResult.toNative⟩ := by
  simp only [decode, followMessage, follow, bind, Except.bind, read]
  rfl

/-- What a request carries is what it is decoded to, and the result is encoded as an
answer that tells of it. -/
theorem Carries.decode_eq (carries : request.Carries method answers) :
    ∃ encode, request.decode = .ok ⟨method, encode⟩ ∧
      ∀ value, answers value (encode value) := by
  cases carries with
  | copyCode address offset read =>
      exact ⟨_, decode_copyCode address offset read, fun _ => rfl⟩
  | call describes =>
      exact ⟨_, decode_call_of_ok describes.toMessage_eq, ExecutionResult.lends_toNative⟩
  | emitLog address data_read topics_read =>
      refine ⟨id, ?_, fun _ => rfl⟩
      simp only [decode, follow, followSpan_eq data_read, followSpan_eq topics_read]
      rfl
  | getCodeSize address => exact ⟨_, decode_getCodeSize address, fun _ => rfl⟩
  | setStorage => exact ⟨_, rfl, StorageStatus.isNumbered_raw⟩
  | accessAccount | accessStorage => exact ⟨_, rfl, AccessStatus.isNumbered_raw⟩
  | accountExists | getStorage | getBalance | getCodeHash | selfdestruct | getTxContext
  | getBlockHash => exact ⟨_, rfl, fun _ => rfl⟩

theorem of_bind_eq_ok {α β : Type} {check : Except CallbackError α}
    {next : α → Except CallbackError β} {value : β} (passed : (check >>= next) = .ok value) :
    ∃ first, check = .ok first ∧ next first = .ok value := by
  cases check with
  | error error => cases passed
  | ok first => exact ⟨first, rfl, passed⟩

theorem isSome_of_follow {α : Type} {pointer : Option α} {parameter function : String} {value : α}
    (followed : follow pointer parameter function = .ok value) : pointer.isSome := by
  cases pointer with
  | none => cases followed
  | some value => rfl

theorem leads_of_followSpan {α : Type} {span : Span α} {parameter function : String}
    {items : List α} (followed : followSpan span parameter function = .ok items) :
    span.Leads := by
  rw [followSpan] at followed
  cases read : span.read? with
  | none => simp [read] at followed
  | some items => exact Span.leads_of_read? read

theorem hasKind_of_followMessage {pointer : Option NativeMessage} {function : String}
    {message : Message} (followed : followMessage pointer function = .ok message) :
    ∃ native, pointer = some native ∧ native.HasKind := by
  cases pointer with
  | none => cases followed
  | some native =>
      cases read : native.toMessage with
      | error kind => simp [followMessage, follow, read, bind, Except.bind] at followed
      | ok message => exact ⟨native, rfl, NativeMessage.hasKind_of_toMessage read⟩

theorem complete_of_decode {delivery : request.Delivery}
    (decoded : request.decode = .ok delivery) : request.Complete := by
  cases request with
  | getTxContext | getBlockHash => trivial
  | accountExists | getBalance | getCodeSize | getCodeHash | accessAccount =>
      obtain ⟨address, found, -⟩ := of_bind_eq_ok decoded
      exact isSome_of_follow found
  | getStorage | accessStorage | selfdestruct =>
      obtain ⟨address, found, decoded⟩ := of_bind_eq_ok decoded
      obtain ⟨second, found', -⟩ := of_bind_eq_ok decoded
      exact ⟨isSome_of_follow found, isSome_of_follow found'⟩
  | setStorage =>
      obtain ⟨address, found, decoded⟩ := of_bind_eq_ok decoded
      obtain ⟨key, found', decoded⟩ := of_bind_eq_ok decoded
      obtain ⟨value, found'', -⟩ := of_bind_eq_ok decoded
      exact ⟨isSome_of_follow found, isSome_of_follow found', isSome_of_follow found''⟩
  | copyCode =>
      obtain ⟨address, found, decoded⟩ := of_bind_eq_ok decoded
      obtain ⟨buffer, read, -⟩ := of_bind_eq_ok decoded
      exact ⟨isSome_of_follow found, leads_of_followSpan read⟩
  | call =>
      obtain ⟨message, found, -⟩ := of_bind_eq_ok decoded
      exact hasKind_of_followMessage found
  | emitLog =>
      obtain ⟨address, found, decoded⟩ := of_bind_eq_ok decoded
      obtain ⟨data, read, decoded⟩ := of_bind_eq_ok decoded
      obtain ⟨topics, read', -⟩ := of_bind_eq_ok decoded
      exact ⟨isSome_of_follow found, leads_of_followSpan read, leads_of_followSpan read'⟩

theorem Complete.exists_carries (complete : request.Complete) (inputLeads : request.InputLeads) :
    ∃ method answers, request.Carries method answers := by
  cases request with
  | getTxContext => exact ⟨_, _, .getTxContext⟩
  | getBlockHash number => exact ⟨_, _, .getBlockHash number⟩
  | accountExists =>
      obtain ⟨address, rfl⟩ := Option.isSome_iff_exists.mp complete
      exact ⟨_, _, .accountExists address⟩
  | getBalance =>
      obtain ⟨address, rfl⟩ := Option.isSome_iff_exists.mp complete
      exact ⟨_, _, .getBalance address⟩
  | getCodeSize =>
      obtain ⟨address, rfl⟩ := Option.isSome_iff_exists.mp complete
      exact ⟨_, _, .getCodeSize address⟩
  | getCodeHash =>
      obtain ⟨address, rfl⟩ := Option.isSome_iff_exists.mp complete
      exact ⟨_, _, .getCodeHash address⟩
  | accessAccount =>
      obtain ⟨address, rfl⟩ := Option.isSome_iff_exists.mp complete
      exact ⟨_, _, .accessAccount address⟩
  | getStorage =>
      obtain ⟨address, rfl⟩ := Option.isSome_iff_exists.mp complete.1
      obtain ⟨key, rfl⟩ := Option.isSome_iff_exists.mp complete.2
      exact ⟨_, _, .getStorage address key⟩
  | accessStorage =>
      obtain ⟨address, rfl⟩ := Option.isSome_iff_exists.mp complete.1
      obtain ⟨key, rfl⟩ := Option.isSome_iff_exists.mp complete.2
      exact ⟨_, _, .accessStorage address key⟩
  | selfdestruct =>
      obtain ⟨address, rfl⟩ := Option.isSome_iff_exists.mp complete.1
      obtain ⟨beneficiary, rfl⟩ := Option.isSome_iff_exists.mp complete.2
      exact ⟨_, _, .selfdestruct address beneficiary⟩
  | setStorage =>
      obtain ⟨address, rfl⟩ := Option.isSome_iff_exists.mp complete.1
      obtain ⟨key, rfl⟩ := Option.isSome_iff_exists.mp complete.2.1
      obtain ⟨value, rfl⟩ := Option.isSome_iff_exists.mp complete.2.2
      exact ⟨_, _, .setStorage address key value⟩
  | copyCode pointer offset buffer =>
      obtain ⟨address, rfl⟩ := Option.isSome_iff_exists.mp complete.1
      exact ⟨_, _, .copyCode address offset complete.2.read_eq⟩
  | call =>
      obtain ⟨native, rfl, hasKind⟩ := complete
      obtain ⟨message, describes⟩ := NativeMessage.exists_describes hasKind inputLeads
      exact ⟨_, _, .call describes⟩
  | emitLog =>
      obtain ⟨address, rfl⟩ := Option.isSome_iff_exists.mp complete.1
      exact ⟨_, _, .emitLog address complete.2.1.read_eq complete.2.2.read_eq⟩

theorem undecoded_of_not_complete (incomplete : ¬request.Complete) :
    ∃ error, request.decode = .error error := by
  cases decoded : request.decode with
  | error error => exact ⟨error, rfl⟩
  | ok delivery => exact absurd (complete_of_decode decoded) incomplete

end Request

/-- After the host of a callback has failed, the fault is parked under its handle
unless one is parked there already, and nothing else has changed. -/
structure Process.Parks (middle : Process κ ν σ) (handle : Nat) (fault : Fault)
    (after : Process κ ν σ) : Prop where
  hosts_eq : after.hosts = middle.hosts
  privateStates_eq : after.privateStates = middle.privateStates
  nextIdentity_eq : after.nextIdentity = middle.nextIdentity
  nextHandle_eq : after.registry.nextHandle = middle.registry.nextHandle
  registration?_eq : ∀ query, after.registry.registration? query =
    if handle = query then (middle.registry.registration? query).map fun registration =>
      { registration with fault := registration.fault.or (some fault) }
    else middle.registry.registration? query

theorem Process.parks_parked (middle : Process κ ν σ) (handle : Nat) (fault : Fault)
    (function : String) : middle.Parks handle fault (middle.parked handle fault function) where
  hosts_eq := rfl
  privateStates_eq := rfl
  nextIdentity_eq := rfl
  nextHandle_eq := middle.registry.nextHandle_recordFault handle fault
  registration?_eq query := middle.registry.registration?_recordFault handle query fault

/-- The ways in which a callback can turn out. -/
inductive CallbackOutcome where
  | served
  | declined
  | contained
deriving DecidableEq

section Outcomes

variable (hosting : Hosting κ ν σ) (nested : Executor κ ν σ) (handle : Nat) (request : Request)
  (before : Process κ ν σ)

/-- A callback reaches a method of a host. -/
structure Reaches (host : κ) (method : HostMethod)
    (answers : method.Answer → request.Answer → Prop) : Prop where
  live : before.registry.resolve handle = some host
  complete : request.Complete
  carries : request.Carries method answers

/-- One run of the method of a host, from the state before the callback with
nothing but events added. -/
def invoked (host : κ) (method : HostMethod) : Option (Ending method.Answer × Process κ ν σ) :=
  HostAction.carryOut nested (hosting host method)
    ((before.journaled (.requested request.name handle)).announced method)

/-- The method that the callback reaches returned.  The answer tells of its result, and
the state is the one that the method left. -/
inductive Served : request.Answer → Process κ ν σ → Prop where
  | intro {host : κ} {method : HostMethod} {answers : method.Answer → request.Answer → Prop}
      {value : method.Answer} {answer : request.Answer} {after : Process κ ν σ}
      (reaches : Reaches handle request before host method answers)
      (returned : invoked hosting nested handle request before host method =
        some (.returned value, after))
      (answered : answers value answer) :
      Served answer after

/-- The callback reaches no method.  It was answered with its default, in the
same way for all hosts, and they, the VMs and the registry are as before. -/
structure Declined (answer : request.Answer) (after : Process κ ν σ) : Prop where
  unreached : before.registry.resolve handle = none ∨ ¬request.Complete
  isDefault : request.IsDefault answer
  unasked : ∀ (others : Hosting κ ν σ) (nestedOthers : Executor κ ν σ),
    deliver others nestedOthers handle request before = some (answer, after)
  hosts_eq : after.hosts = before.hosts
  registry_eq : after.registry = before.registry
  privateStates_eq : after.privateStates = before.privateStates
  nextIdentity_eq : after.nextIdentity = before.nextIdentity

/-- The method that the callback reaches failed.  The callback was answered with
its default, and to what the method left only the parked fault was added. -/
inductive Contained : request.Answer → Process κ ν σ → Prop where
  | intro {host : κ} {method : HostMethod} {answers : method.Answer → request.Answer → Prop}
      {fault : Fault} {middle after : Process κ ν σ} {answer : request.Answer}
      (reaches : Reaches handle request before host method answers)
      (faulted : invoked hosting nested handle request before host method =
        some (.faulted fault, middle))
      (isDefault : request.IsDefault answer) (parks : middle.Parks handle fault after) :
      Contained answer after

/-- With some answer and some state left behind, the callback turned out in a
certain way. -/
def TurnsOut (answer : request.Answer) (after : Process κ ν σ) : CallbackOutcome → Prop
  | .served => Served hosting nested handle request before answer after
  | .declined => Declined handle request before answer after
  | .contained => Contained hosting nested handle request before answer after

end Outcomes

section Deliveries

variable {hosting : Hosting κ ν σ} {nested : Executor κ ν σ} {handle : Nat} {request : Request}
  {before : Process κ ν σ} {host : κ} {method : HostMethod}
  {answers : method.Answer → request.Answer → Prop}

theorem Reaches.deliver_eq (reaches : Reaches handle request before host method answers) :
    ∃ encode, (∀ value, answers value (encode value)) ∧
      deliver hosting nested handle request before =
        (invoked hosting nested handle request before host method).bind fun result =>
          answerCallback handle request ⟨method, encode⟩ result.1 result.2 := by
  obtain ⟨encode, decoded, answered⟩ := reaches.carries.decode_eq
  exact ⟨encode, answered, deliver_served reaches.live decoded⟩

theorem declined_of_deliver_eq {error : CallbackError}
    (unreached : before.registry.resolve handle = none ∨ ¬request.Complete)
    (delivered : ∀ (others : Hosting κ ν σ) (nestedOthers : Executor κ ν σ),
      deliver others nestedOthers handle request before = some (request.fallback,
        (before.journaled (.requested request.name handle)).refused handle error)) :
    Declined handle request before request.fallback
      ((before.journaled (.requested request.name handle)).refused handle error) where
  unreached := unreached
  isDefault := request.isDefault_fallback
  unasked := delivered
  hosts_eq := rfl
  registry_eq := rfl
  privateStates_eq := rfl
  nextIdentity_eq := rfl

theorem reaches_or_declined (inputLeads : request.InputLeads) (handle : Nat)
    (before : Process κ ν σ) :
    (∃ host method answers, Reaches handle request before host method answers) ∨
      ∃ answer after, Declined handle request before answer after := by
  cases resolved : before.registry.resolve handle with
  | none =>
      exact Or.inr ⟨_, _, declined_of_deliver_eq (Or.inl resolved) fun _ _ =>
        deliver_unresolved resolved⟩
  | some host =>
      by_cases complete : request.Complete
      · obtain ⟨method, answers, carries⟩ := complete.exists_carries inputLeads
        exact Or.inl ⟨host, method, answers, resolved, complete, carries⟩
      · obtain ⟨error, undecoded⟩ := Request.undecoded_of_not_complete complete
        exact Or.inr ⟨_, _, declined_of_deliver_eq (Or.inr complete) fun _ _ =>
          deliver_undecoded resolved undecoded⟩

section Exclusion

variable {answer : request.Answer} {after : Process κ ν σ} {outcome other : CallbackOutcome}

theorem Declined.not_reaches (declined : Declined handle request before answer after) :
    ¬Reaches handle request before host method answers := by
  intro reaches
  rcases declined.unreached with unresolved | incomplete
  · rw [reaches.live] at unresolved
    cases unresolved
  · exact incomplete reaches.complete

theorem Declined.not_served (declined : Declined handle request before answer after) :
    ¬Served hosting nested handle request before answer after := by
  rintro ⟨reaches, returned⟩
  exact declined.not_reaches reaches

theorem Declined.not_contained (declined : Declined handle request before answer after) :
    ¬Contained hosting nested handle request before answer after := by
  rintro ⟨reaches, faulted⟩
  exact declined.not_reaches reaches

theorem Served.not_contained
    (served : Served hosting nested handle request before answer after) :
    ¬Contained hosting nested handle request before answer after := by
  rintro ⟨reaches', faulted⟩
  obtain ⟨reaches, returned⟩ := served
  obtain ⟨_, decoded, -⟩ := reaches.carries.decode_eq
  obtain ⟨_, decoded', -⟩ := reaches'.carries.decode_eq
  have same_host := Option.some.inj (reaches.live.symm.trans reaches'.live)
  have same_delivery := Except.ok.inj (decoded.symm.trans decoded')
  cases same_host
  cases same_delivery
  rw [returned] at faulted
  cases faulted

theorem TurnsOut.unique
    (happened : TurnsOut hosting nested handle request before answer after outcome)
    (happened' : TurnsOut hosting nested handle request before answer after other) :
    outcome = other := by
  match outcome, other with
  | .served, .served | .declined, .declined | .contained, .contained => rfl
  | .served, .declined => exact absurd happened (Declined.not_served happened')
  | .declined, .served => exact absurd happened' (Declined.not_served happened)
  | .contained, .declined => exact absurd happened (Declined.not_contained happened')
  | .declined, .contained => exact absurd happened' (Declined.not_contained happened)
  | .served, .contained => exact absurd happened' (Served.not_contained happened)
  | .contained, .served => exact absurd happened (Served.not_contained happened')

end Exclusion

theorem Reaches.turnsOut {answer : request.Answer} {after : Process κ ν σ}
    (reaches : Reaches handle request before host method answers)
    (delivered : deliver hosting nested handle request before = some (answer, after)) :
    ∃ outcome, TurnsOut hosting nested handle request before answer after outcome := by
  obtain ⟨encode, tells, deliver_eq⟩ := reaches.deliver_eq
  rw [deliver_eq, Option.bind_eq_some_iff] at delivered
  obtain ⟨⟨ending, middle⟩, ended, answered⟩ := delivered
  cases ending with
  | returned value =>
      cases answered
      exact ⟨.served, .intro reaches ended (tells value)⟩
  | faulted fault =>
      cases answered
      exact ⟨.contained, .intro reaches ended request.isDefault_fallback
        (middle.parks_parked handle fault _)⟩

theorem Reaches.finishes_iff (reaches : Reaches handle request before host method answers) :
    (deliver hosting nested handle request).Finishes before ↔
      (invoked hosting nested handle request before host method).isSome = true := by
  obtain ⟨encode, -, deliver_eq⟩ := reaches.deliver_eq
  rw [Bridge.Finishes, deliver_eq]
  cases invoked hosting nested handle request before host method with
  | none => rfl
  | some result =>
      obtain ⟨ending, middle⟩ := result
      cases ending <;> rfl

/-- A callback comes to an end unless the method that it reaches does not, and it
turns out in exactly one of three ways. -/
theorem deliver_has_one_outcome (hosting : Hosting κ ν σ) (nested : Executor κ ν σ)
    (handle : Nat) (request : Request) (before : Process κ ν σ)
    (inputLeads : request.InputLeads) :
    ((deliver hosting nested handle request).Finishes before ↔
        ∀ host method answers, Reaches handle request before host method answers →
          (invoked hosting nested handle request before host method).isSome = true) ∧
      (deliver hosting nested handle request).Ensures before fun answer after =>
        ∃! outcome, TurnsOut hosting nested handle request before answer after outcome := by
  constructor
  · constructor
    · intro finishes host method answers reaches
      exact reaches.finishes_iff.mp finishes
    · intro finish
      rcases reaches_or_declined inputLeads handle before with
        ⟨host, method, answers, reaches⟩ | ⟨answer, after, declined⟩
      · exact reaches.finishes_iff.mpr (finish host method answers reaches)
      · exact Bridge.finishes_of_apply (declined.unasked hosting nested)
  · intro answer after delivered
    have turnsOut :
        ∃ outcome, TurnsOut hosting nested handle request before answer after outcome := by
      rcases reaches_or_declined inputLeads handle before with
        ⟨host, method, answers, reaches⟩ | ⟨answer', after', declined⟩
      · exact reaches.turnsOut delivered
      · rw [declined.unasked hosting nested] at delivered
        cases delivered
        exact ⟨.declined, declined⟩
    obtain ⟨outcome, happened⟩ := turnsOut
    exact ⟨outcome, happened, fun other happened' => TurnsOut.unique happened' happened⟩

end Deliveries

/-- Hosts that fail at everything. -/
def failingHosting : Hosting Unit Unit Unit := fun _ _ => HostAction.fail .wordless

/-- A process with a single host, which is live under the first handle. -/
def singleHosted : Process Unit Unit Unit :=
  { (Process.initial () : Process Unit Unit Unit) with registry := Registry.empty.register () }

/-- A callback for a nested message of the last kind that has a meaning, without
input. -/
def emptyCreation : Request := .call (some { (default : NativeMessage) with kind := 4 })

/-- Hosts that answer every nested message with a revert, with output and an account. -/
def revertingHosting : Hosting Unit Unit Unit
  | _, .call _ => pure ⟨.revert, 7, 3, [0xaa, 0xbb], some (.ofNat 20 9)⟩
  | _, _ => HostAction.fail .wordless

theorem reaches_emptyCreation :
    Reaches 1 emptyCreation singleHosted () (.call { (default : Message) with kind := .create2 })
      fun result answer => NativeResult.Lends answer result where
  live := rfl
  complete := ⟨_, rfl, by decide, by decide⟩
  carries := .call ⟨rfl, by decide, rfl, rfl, rfl, rfl, rfl, rfl, rfl, rfl⟩

/-- The failure of the first host is contained and goes back as an internal error.  The
second host is served, and its output is lent to native code. -/
theorem deliver_emptyCreation :
    let failed : NativeResult := ⟨-1, 0, 0, .null 0, none, .zero 20⟩
    let lent : NativeResult :=
      ⟨2, 7, 3, .live [0xaa, 0xbb], some ⟨.binding, [0xaa, 0xbb]⟩, .ofNat 20 9⟩
    emptyCreation.InputLeads ∧
      (∃ after, deliver failingHosting (execute failingHosting 0) 1 emptyCreation singleHosted =
          some (failed, after) ∧
        TurnsOut failingHosting (execute failingHosting 0) 1 emptyCreation singleHosted failed
          after .contained ∧
        ∃! outcome, TurnsOut failingHosting (execute failingHosting 0) 1 emptyCreation
          singleHosted failed after outcome) ∧
      ∃ after, deliver revertingHosting (execute revertingHosting 0) 1 emptyCreation
          singleHosted = some (lent, after) ∧
        TurnsOut revertingHosting (execute revertingHosting 0) 1 emptyCreation singleHosted lent
          after .served ∧
        ∃! outcome, TurnsOut revertingHosting (execute revertingHosting 0) 1 emptyCreation
          singleHosted lent after outcome := by
  have inputLeads : emptyCreation.InputLeads := fun _ => rfl
  have lends := ExecutionResult.lends_toNative ⟨.revert, 7, 3, [0xaa, 0xbb], some (.ofNat 20 9)⟩
  refine ⟨inputLeads, ⟨_, rfl, ?_, ?_⟩, ⟨_, rfl, ?_, ?_⟩⟩
  · exact Contained.intro reaches_emptyCreation rfl rfl (Process.parks_parked _ 1 .wordless _)
  · exact (deliver_has_one_outcome _ _ _ _ _ inputLeads).2 _ _ rfl
  · exact Served.intro reaches_emptyCreation rfl lends
  · exact (deliver_has_one_outcome _ _ _ _ _ inputLeads).2 _ _ rfl

end VmBridge
