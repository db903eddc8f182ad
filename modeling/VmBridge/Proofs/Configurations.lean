import Mathlib.Data.List.TakeWhile
import VmBridge.ExampleVm
import VmBridge.Proofs.LoadingSteps

/-!
# Configurations set options

A configuration is a path and a list of options.  `Configuration.ofText` reads one
from the pieces of a text between all its commas; `Configuration.text` writes one.
The loader does not look at the pieces.  It takes one option after the other off
the text that remains, and stops at the first that is not accepted.

`loadAndConfigure_sets_options` says that the two come to the same: a configured
load is a load followed by the options of the configuration in their order, with
the same calls of the native option function.
-/

namespace VmBridge

variable {κ ν σ : Type}

section Splitting

variable {separator : Char}

theorem splitFirst_of_not_mem {text : List Char} (absent : separator ∉ text) :
    splitFirst separator text = (text, []) := by
  have other : ∀ character ∈ text, decide (character ≠ separator) = true := by
    intro character member
    exact decide_eq_true fun same => absent (same ▸ member)
  rw [splitFirst, List.takeWhile_eq_self_iff.mpr other, List.dropWhile_eq_nil_iff.mpr other,
    List.drop_nil]

theorem splitFirst_append_cons {before : List Char} (absent : separator ∉ before)
    (after : List Char) :
    splitFirst separator (before ++ separator :: after) = (before, after) := by
  have other : ∀ character ∈ before, decide (character ≠ separator) = true := by
    intro character member
    exact decide_eq_true fun same => absent (same ▸ member)
  rw [splitFirst, List.takeWhile_append_of_pos other, List.dropWhile_append_of_pos other]
  simp

/-- All pieces of a text are the part before the first separator and, if there is
one, the pieces of the rest. -/
theorem splitOn_eq_splitFirst (separator : Char) (text : List Char) :
    text.splitOn separator =
      (splitFirst separator text).1 ::
        if separator ∈ text then (splitFirst separator text).2.splitOn separator else [] := by
  by_cases present : separator ∈ text
  · obtain ⟨before, after, rfl, absent⟩ := List.eq_append_cons_of_mem present
    rw [List.splitOn_append_cons_self_of_not_mem absent, splitFirst_append_cons absent,
      if_pos present]
  · rw [List.splitOn_eq_singleton present, splitFirst_of_not_mem present, if_neg present]

end Splitting

/-- What the loader makes of a configuration. -/
structure Configuration where
  path : String
  /-- The names and values of the options. -/
  options : List (String × String)
deriving DecidableEq

namespace Configuration

def withoutEmptyEnd (pieces : List (List Char)) : List (List Char) :=
  if pieces.getLast? = some [] then pieces.dropLast else pieces

/-- An option has a name and, behind its first equals sign, a value. -/
def optionOf (piece : List Char) : String × String :=
  (String.ofList (splitFirst '=' piece).1, String.ofList (splitFirst '=' piece).2)

/-- The configuration that a text stands for. -/
def ofText (text : String) : Configuration where
  path := String.ofList ((text.toList.splitOn ',').headD [])
  options := (withoutEmptyEnd (text.toList.splitOn ',').tail).map optionOf

def text (configuration : Configuration) : String :=
  ",".intercalate
    (configuration.path :: configuration.options.map fun option => option.1 ++ "=" ++ option.2)

/-- No part of a configuration holds a character that separates parts. -/
structure Separable (configuration : Configuration) : Prop where
  path_free : ',' ∉ configuration.path.toList
  name_free : ∀ option ∈ configuration.options,
    ',' ∉ option.1.toList ∧ '=' ∉ option.1.toList
  value_free : ∀ option ∈ configuration.options, ',' ∉ option.2.toList

/-- The pieces of a text of options. -/
def pieces (options : List Char) : List (List Char) := withoutEmptyEnd (options.splitOn ',')

@[simp] theorem pieces_nil : pieces [] = [] := rfl

theorem withoutEmptyEnd_cons {piece : List Char} {rest : List (List Char)} (more : rest ≠ []) :
    withoutEmptyEnd (piece :: rest) = piece :: withoutEmptyEnd rest := by
  rw [withoutEmptyEnd, withoutEmptyEnd, List.getLast?_cons_of_ne_nil more,
    List.dropLast_cons_of_ne_nil more]
  split <;> rfl

theorem withoutEmptyEnd_of_not_mem {pieces : List (List Char)} (absent : [] ∉ pieces) :
    withoutEmptyEnd pieces = pieces :=
  if_neg fun last => absent (List.mem_of_getLast? last)

/-- The first option is what precedes the first comma, and the others are those of
the rest. -/
theorem pieces_eq_cons {options : List Char} (nonempty : options ≠ []) :
    pieces options = (splitFirst ',' options).1 :: pieces (splitFirst ',' options).2 := by
  rw [pieces, splitOn_eq_splitFirst]
  by_cases present : ',' ∈ options
  · rw [if_pos present, withoutEmptyEnd_cons (List.splitOn_ne_nil _ _), pieces]
  · have last : [options].getLast? ≠ some [] := by simpa using nonempty
    rw [if_neg present, splitFirst_of_not_mem present, withoutEmptyEnd, if_neg last, pieces_nil]

theorem path_ofText (text : String) :
    (ofText text).path = String.ofList (splitFirst ',' text.toList).1 := by
  rw [ofText, splitOn_eq_splitFirst]
  rfl

theorem options_ofText (text : String) :
    (ofText text).options = (pieces (splitFirst ',' text.toList).2).map optionOf := by
  rw [ofText, splitOn_eq_splitFirst, List.tail_cons]
  split
  · rfl
  · rename_i absent
    rw [splitFirst_of_not_mem absent]
    rfl

/-- Reading undoes writing. -/
theorem ofText_text {configuration : Configuration} (separable : configuration.Separable) :
    ofText configuration.text = configuration := by
  obtain ⟨path, options⟩ := configuration
  let written (option : String × String) : List Char :=
    option.1.toList ++ '=' :: option.2.toList
  have split_eq : (text ⟨path, options⟩).toList.splitOn ',' =
      path.toList :: options.map written := by
    have listed : (text ⟨path, options⟩).toList =
        [','].intercalate (path.toList :: options.map written) := by
      simp [text, written, String.toList_intercalate, Function.comp_def]
    rw [listed]
    refine List.splitOn_intercalate ',' ?_ (List.cons_ne_nil _ _)
    refine List.forall_mem_cons.mpr ⟨separable.path_free, List.forall_mem_map.mpr ?_⟩
    intro option member
    obtain ⟨comma_free, _⟩ := separable.name_free option member
    have value_free := separable.value_free option member
    simp [written, comma_free, value_free]
  have full : [] ∉ options.map written := by simp [written]
  have read : options.map (optionOf ∘ written) = options := by
    refine List.map_congr_left (fun option member => ?_) |>.trans (List.map_id _)
    obtain ⟨_, equals_free⟩ := separable.name_free option member
    simp [optionOf, written, splitFirst_append_cons equals_free]
  rw [ofText, split_eq, List.tail_cons, withoutEmptyEnd_of_not_mem full, List.map_map, read]
  simp

end Configuration

/-- Why a configuration fails if one of its options gets an answer. -/
def OptionAnswer.cause : OptionAnswer → LoaderCode
  | .invalidName => .invalidOptionName
  | _ => .invalidOptionValue

def Event.optionCall? : Event → Option (Provider × Bytes × Bytes)
  | .optionForwarded provider name value => some (provider, name, value)
  | _ => none

namespace Process

def optionCalls (process : Process κ ν σ) : List (Provider × Bytes × Bytes) :=
  process.journal.reverse.filterMap Event.optionCall?

@[simp] theorem optionCalls_journaled (process : Process κ ν σ) (event : Event) :
    (process.journaled event).optionCalls = process.optionCalls ++ event.optionCall?.toList := by
  rw [optionCalls, journaled_journal, List.reverse_cons, List.filterMap_append]
  cases event <;> rfl

/-- Calls of native option functions are milestones. -/
theorem Passes.optionCalls_eq {before after : Process κ ν σ} {milestones : List Milestone}
    (passes : before.Passes after milestones)
    (uncalled : ∀ milestone ∈ milestones, ∀ provider, milestone ≠ .called provider) :
    after.optionCalls = before.optionCalls := by
  obtain ⟨events, since, rfl⟩ := passes
  have silent : events.filterMap Event.optionCall? = [] := by
    refine List.filterMap_eq_nil_iff.mpr fun event member => ?_
    cases event with
    | optionForwarded provider name value =>
        exact absurd rfl (uncalled _ (List.mem_filterMap.mpr ⟨_, member, rfl⟩) provider)
    | _ => rfl
  rw [optionCalls, since, List.reverse_append, List.reverse_reverse, List.filterMap_append,
    silent, List.append_nil]
  rfl

/-- Two states differ at most in what was journaled beside the calls of native
option functions. -/
def CallsAlike (first second : Process κ ν σ) : Prop :=
  second = { first with journal := second.journal } ∧ first.optionCalls = second.optionCalls

theorem callsAlike_refl (process : Process κ ν σ) : process.CallsAlike process :=
  ⟨rfl, rfl⟩

theorem CallsAlike.symm {first second : Process κ ν σ} (alike : first.CallsAlike second) :
    second.CallsAlike first := by
  refine ⟨?_, alike.2.symm⟩
  rw [alike.1]

theorem CallsAlike.journaled {first second : Process κ ν σ} (alike : first.CallsAlike second)
    {event : Event} (silent : event.optionCall? = none) :
    first.CallsAlike (second.journaled event) := by
  obtain ⟨same, calls⟩ := alike
  refine ⟨?_, ?_⟩
  · rw [same]
    rfl
  · rw [optionCalls_journaled, silent, Option.toList_none, List.append_nil, calls]

theorem CallsAlike.journaledAll {first second : Process κ ν σ} (alike : first.CallsAlike second)
    {events : List Event} (silent : ∀ event ∈ events, event.optionCall? = none) :
    first.CallsAlike (second.journaledAll events) := by
  induction events generalizing second with
  | nil => exact alike
  | cons event rest ih =>
      obtain ⟨head, tail⟩ := List.forall_mem_cons.mp silent
      rw [← List.singleton_append, ← journaledAll_journaledAll]
      exact ih (alike.journaled head) tail

end Process

namespace Vm

theorem optionCall?_ending (vm : Vm ν) : ∀ event ∈ vm.ending, event.optionCall? = none := by
  intro event member
  rcases mem_ending member with rfl | rfl | ⟨source, rfl⟩ <;> rfl

/-- Set options one after the other, up to the first that is not accepted, whose
answer is handed back. -/
def setOptions (vm : Vm ν) : List (String × String) → Bridge κ ν σ (Option OptionAnswer)
  | [] => pure none
  | (name, value) :: rest => do
      match ← vm.setOption name value with
      | .success => vm.setOptions rest
      | refusal => pure (some refusal)

section Steps

variable {vm : Vm ν} {name value : String} {before after : Process κ ν σ}

theorem forwardOption_finishes (vm : Vm ν) (name value : String) (before : Process κ ν σ) :
    ∃ answer after, vm.forwardOption name value before = some (answer, after) := by
  rw [forwardOption]
  cases vm.native.setOption with
  | none => exact ⟨_, _, rfl⟩
  | some run =>
      dsimp only
      split
      · exact ⟨_, _, rfl⟩
      · split
        · exact ⟨_, _, rfl⟩
        · simp only [Bridge.bind_apply, Bridge.get_apply, Option.bind_some, Bridge.record_apply]
          cases OptionAnswer.ofRaw (run (before.privateState vm) (textBytes name)
            (textBytes value)).1 <;> exact ⟨_, _, rfl⟩

theorem setOption_answered {answer : OptionAnswer}
    (forwarded : vm.forwardOption name value before = some (.ok answer, after)) :
    vm.setOption name value before = some (answer, after) := by
  rw [setOption, Bridge.bind_apply, forwarded]
  rfl

theorem setOption_unknown {raw : Int32}
    (forwarded : vm.forwardOption name value before = some (.error raw, after)) :
    vm.setOption name value before =
      some (.invalidValue, after.journaled (.optionAnswerUnknown vm.name name value raw)) := by
  rw [setOption, Bridge.bind_apply, forwarded]
  rfl

theorem setOption_unsupported (name value : String) (before : Process κ ν σ)
    (unsupported : vm.supportsOptions = false) :
    vm.setOption name value before = some (.invalidName, before) := by
  have absent : vm.native.setOption = none := by simpa [supportsOptions] using unsupported
  have forwarded : vm.forwardOption name value before = some (.ok .invalidName, before) := by
    rw [forwardOption, absent]
    rfl
  exact setOption_answered forwarded

theorem setOptions_success {rest : List (String × String)}
    (answered : vm.setOption name value before = some (.success, after)) :
    vm.setOptions ((name, value) :: rest) before = vm.setOptions rest after := by
  rw [setOptions, Bridge.bind_apply, answered]
  rfl

theorem setOptions_refusal {rest : List (String × String)} {answer : OptionAnswer}
    (answered : vm.setOption name value before = some (answer, after))
    (refused : answer ≠ .success) :
    vm.setOptions ((name, value) :: rest) before = some (some answer, after) := by
  rw [setOptions, Bridge.bind_apply, answered]
  cases answer with
  | success => exact absurd rfl refused
  | invalidName => rfl
  | invalidValue => rfl

end Steps

end Vm

/-- A verdict over options and what it leaves, and the answer of the same options
set by hand and what that leaves, are of one mind. -/
inductive Concurs (after set : Process κ ν σ) :
    Except LoaderError Unit → Option OptionAnswer → Prop
  | accepted (same : after = set) : Concurs after set (.ok ()) none
  | refused {error : LoaderError} {answer : OptionAnswer} (cause : error.code = answer.cause)
      (alike : after.CallsAlike set) : Concurs after set (.error error) (some answer)

/-- One option of a configuration fails as the answer to it says. -/
theorem applyOption_concurs (vm : Vm ν) (path : String) (option : List Char)
    (before : Process κ ν σ) :
    ∃ verdict after answer set, applyOption vm path option before = some (verdict, after) ∧
      vm.setOption (Configuration.optionOf option).1 (Configuration.optionOf option).2 before =
        some (answer, set) ∧
      Concurs after set verdict (if answer = .success then none else some answer) := by
  obtain ⟨answer, after, forwarded⟩ := vm.forwardOption_finishes
    (Configuration.optionOf option).1 (Configuration.optionOf option).2 before
  have applied : applyOption vm path option before = _ :=
    (Bridge.bind_apply _ _ _).trans (congrArg (Option.bind · _) forwarded)
  cases answer with
  | ok answer =>
      cases answer with
      | success =>
          exact ⟨_, _, _, _, applied, Vm.setOption_answered forwarded, .accepted rfl⟩
      | invalidName =>
          exact ⟨_, _, _, _, applied, Vm.setOption_answered forwarded,
            .refused rfl after.callsAlike_refl⟩
      | invalidValue =>
          exact ⟨_, _, _, _, applied, Vm.setOption_answered forwarded,
            .refused rfl after.callsAlike_refl⟩
  | error raw =>
      exact ⟨_, _, _, _, applied, Vm.setOption_unknown forwarded,
        .refused rfl (after.callsAlike_refl.journaled rfl)⟩

/-- Taking one option after the other off a text comes to the same as setting
the options of all its pieces. -/
theorem applyOptions_concurs (vm : Vm ν) (path : String) (options : List Char)
    (before : Process κ ν σ) :
    ∃ verdict after refusal set, applyOptions vm path options before = some (verdict, after) ∧
      vm.setOptions ((Configuration.pieces options).map Configuration.optionOf) before =
        some (refusal, set) ∧
      Concurs after set verdict refusal := by
  fun_induction applyOptions vm path options generalizing before with
  | case1 => exact ⟨_, _, _, _, rfl, rfl, .accepted rfl⟩
  | case2 options nonempty supported ih =>
      obtain ⟨verdict, middle, answer, set, applied, answered, concurs⟩ :=
        applyOption_concurs vm path (splitFirst ',' options).1 before
      rw [Configuration.pieces_eq_cons nonempty, List.map_cons, Bridge.bind_apply, applied]
      by_cases success : answer = .success
      · subst success
        rw [if_pos rfl] at concurs
        obtain ⟨rfl⟩ := concurs
        rw [Vm.setOptions_success answered]
        exact ih middle
      · rw [if_neg success] at concurs
        obtain _ | ⟨cause, alike⟩ := concurs
        exact ⟨_, _, _, _, rfl, Vm.setOptions_refusal answered success, .refused cause alike⟩
  | case3 options nonempty unsupported =>
      rw [Configuration.pieces_eq_cons nonempty, List.map_cons]
      let option := Configuration.optionOf (splitFirst ',' options).1
      have answered := Vm.setOption_unsupported option.1 option.2 before
        (Bool.not_eq_true _ ▸ unsupported)
      exact ⟨_, _, _, _, rfl, Vm.setOptions_refusal answered nofun,
        .refused rfl before.callsAlike_refl⟩

section Loading

variable {opener : Opener ν} {text : String} {before middle : Process κ ν σ} {vm : Vm ν}

theorem loadAndConfigure_long (long : maxPathLength ≤ text.utf8ByteSize) :
    loadAndConfigure opener text before =
      some (.error (.invalidArgument (s!"invalid argument: configuration is too long " ++
        s!"(maximum allowed length is {maxPathLength})")), before) := by
  rw [loadAndConfigure, if_pos long]
  rfl

theorem loadAndConfigure_unloaded {error : LoaderError} (short : text.utf8ByteSize < maxPathLength)
    (unloaded : load opener (Configuration.ofText text).path before = some (.error error, middle)) :
    loadAndConfigure opener text before = some (.error error, middle) := by
  rw [Configuration.path_ofText] at unloaded
  rw [loadAndConfigure, if_neg (Nat.not_le.mpr short)]
  change (load opener (String.ofList (splitFirst ',' text.toList).1) before).bind _ = _
  rw [unloaded]
  rfl

/-- A VM that refuses an option of its configuration is destroyed. -/
theorem loadAndConfigure_loaded (short : text.utf8ByteSize < maxPathLength)
    (loaded : load opener (Configuration.ofText text).path before = some (.ok vm, middle)) :
    loadAndConfigure opener text before =
      (applyOptions vm (Configuration.ofText text).path (splitFirst ',' text.toList).2 middle).bind
        fun result => some (result.1.map fun _ => vm,
          if result.1.isOk then result.2 else result.2.journaledAll vm.ending) := by
  rw [Configuration.path_ofText] at loaded ⊢
  rw [loadAndConfigure, if_neg (Nat.not_le.mpr short)]
  change (load opener (String.ofList (splitFirst ',' text.toList).1) before).bind _ = _
  rw [loaded]
  change (applyOptions vm _ _ middle).bind _ = _
  refine Option.bind_congr fun result _ => ?_
  obtain ⟨verdict, after⟩ := result
  cases verdict with
  | ok _ => rfl
  | error error => exact congrArg (Option.bind · _) (vm.destroy_apply after)

end Loading

/-- How a configured load ends if its options, set one after the other, come to a
refusal or to none. -/
inductive ConfiguresAs (vm : Vm ν) (set after : Process κ ν σ) :
    Option OptionAnswer → Except LoaderError (Vm ν) → Prop
  | accepted (same : after = set) : ConfiguresAs vm set after none (.ok vm)
  | refused {error : LoaderError} {answer : OptionAnswer} (cause : error.code = answer.cause)
      (alike : after.CallsAlike set) : ConfiguresAs vm set after (some answer) (.error error)

theorem loadAndConfigure_configuresAs {opener : Opener ν} {text : String}
    {before middle : Process κ ν σ} {vm : Vm ν} (short : text.utf8ByteSize < maxPathLength)
    (loaded : load opener (Configuration.ofText text).path before = some (.ok vm, middle)) :
    ∃ refusal set outcome after,
      vm.setOptions (Configuration.ofText text).options middle = some (refusal, set) ∧
      loadAndConfigure opener text before = some (outcome, after) ∧
      ConfiguresAs vm set after refusal outcome := by
  obtain ⟨verdict, middle', refusal, set, applied, answered, concurs⟩ :=
    applyOptions_concurs vm (Configuration.ofText text).path (splitFirst ',' text.toList).2 middle
  rw [← Configuration.options_ofText] at answered
  rw [loadAndConfigure_loaded short loaded, applied]
  cases concurs with
  | accepted same => exact ⟨_, _, _, _, answered, rfl, .accepted same⟩
  | refused cause alike =>
      exact ⟨_, _, _, _, answered, rfl,
        .refused cause (alike.symm.journaledAll vm.optionCall?_ending).symm⟩

abbrev NativeSetOption (ν : Type) : Type := ν → Bytes → Bytes → Int32 × ν

/-- How many of some options a native option function accepts before it refuses
one. -/
def NativeSetOption.accepted (run : NativeSetOption ν) (state : ν) : List (String × String) → Nat
  | [] => 0
  | (name, value) :: rest =>
      let (raw, next) := run state (textBytes name) (textBytes value)
      if raw = OptionAnswer.success.raw then NativeSetOption.accepted run next rest + 1 else 0

def FreeOfZero (options : List (String × String)) : Prop :=
  ∀ option ∈ options, Vm.holdsZero option.1 = false ∧ Vm.holdsZero option.2 = false

section Offering

variable {vm : Vm ν} {run : NativeSetOption ν} {name value : String}

def Vm.callFor (vm : Vm ν) (option : String × String) : Provider × Bytes × Bytes :=
  (vm.native.provider, textBytes option.1, textBytes option.2)

theorem OptionAnswer.ofRaw_eq_success_iff (raw : Int32) :
    ofRaw raw = .ok .success ↔ raw = OptionAnswer.success.raw := by
  constructor
  · intro read
    rw [ofRaw] at read
    split at read
    · rename_i zero
      exact Int32.toInt_inj.mp zero
    all_goals cases read
  · rintro rfl
    rfl

/-- The state after a native option function was called, before its answer is
looked at. -/
def Process.offered (process : Process κ ν σ) (vm : Vm ν) (run : NativeSetOption ν)
    (name value : String) : Process κ ν σ :=
  { process.journaled
      (.optionForwarded vm.native.provider (textBytes name) (textBytes value)) with
    privateStates := process.privateStates.insert vm.identity
      (run (process.privateState vm) (textBytes name) (textBytes value)).2 }

theorem Process.privateState_offered (process : Process κ ν σ) (vm : Vm ν)
    (run : NativeSetOption ν) (name value : String) :
    (process.offered vm run name value).privateState vm =
      (run (process.privateState vm) (textBytes name) (textBytes value)).2 := by
  rw [privateState, Table.getD, offered, Table.get?_insert, if_pos rfl, Option.getD_some]

theorem Vm.forwardOption_native (native : vm.native.setOption = some run)
    (name_free : holdsZero name = false) (value_free : holdsZero value = false)
    (before : Process κ ν σ) :
    ∃ events, (∀ event ∈ events, event.optionCall? = none) ∧
      vm.forwardOption name value before =
        some (OptionAnswer.ofRaw
          (run (before.privateState vm) (textBytes name) (textBytes value)).1,
          (before.offered vm run name value).journaledAll events) := by
  simp only [forwardOption, native, name_free, value_free, Bridge.bind_apply, Bridge.get_apply,
    Option.bind_some, Bridge.record_apply, Bool.false_eq_true, if_false]
  cases OptionAnswer.ofRaw (run (before.privateState vm) (textBytes name) (textBytes value)).1 with
  | ok answer =>
      exact ⟨[.optionAnswered vm.name name value answer], by simp [Event.optionCall?], rfl⟩
  | error raw => exact ⟨[], by simp, rfl⟩

/-- An option without a zero byte is forwarded as it is. -/
theorem Vm.setOption_forwards (native : vm.native.setOption = some run)
    (name_free : holdsZero name = false) (value_free : holdsZero value = false)
    (before : Process κ ν σ) :
    ∃ answer after, vm.setOption name value before = some (answer, after) ∧
      (answer = .success ↔
        (run (before.privateState vm) (textBytes name) (textBytes value)).1 =
          OptionAnswer.success.raw) ∧
      after.privateState vm =
        (run (before.privateState vm) (textBytes name) (textBytes value)).2 ∧
      after.optionCalls = before.optionCalls ++ [vm.callFor (name, value)] := by
  obtain ⟨events, silent, forwarded⟩ :=
    forwardOption_native native name_free value_free before
  rw [← OptionAnswer.ofRaw_eq_success_iff]
  have state_eq := before.privateState_offered vm run name value
  have calls_eq := before.optionCalls_journaled
    (.optionForwarded vm.native.provider (textBytes name) (textBytes value))
  have alike := (before.offered vm run name value).callsAlike_refl.journaledAll silent
  cases read : OptionAnswer.ofRaw
      (run (before.privateState vm) (textBytes name) (textBytes value)).1 with
  | ok answer =>
      rw [read] at forwarded
      exact ⟨_, _, setOption_answered forwarded, by rw [Except.ok.injEq], state_eq,
        alike.2.symm.trans calls_eq⟩
  | error raw =>
      rw [read] at forwarded
      have warned : (before.offered vm run name value).CallsAlike
          (Process.journaled _ (.optionAnswerUnknown vm.name name value raw)) := alike.journaled rfl
      exact ⟨_, _, setOption_unknown forwarded, ⟨nofun, nofun⟩, state_eq,
        warned.2.symm.trans calls_eq⟩

theorem Vm.setOptions_offers (native : vm.native.setOption = some run)
    {options : List (String × String)} (free : FreeOfZero options) (before : Process κ ν σ) :
    ∃ refusal after, vm.setOptions options before = some (refusal, after) ∧
      (refusal = none ↔
        NativeSetOption.accepted run (before.privateState vm) options = options.length) ∧
      after.optionCalls = before.optionCalls ++
        (options.take
          (NativeSetOption.accepted run (before.privateState vm) options + 1)).map vm.callFor := by
  -- The private state of the VM is all that the native function sees of the options
  -- before, so it is what the induction hypothesis is used at.
  induction options generalizing before with
  | nil => exact ⟨_, _, rfl, by simp [NativeSetOption.accepted], by simp⟩
  | cons option rest ih =>
      obtain ⟨name, value⟩ := option
      obtain ⟨⟨name_free, value_free⟩, rest_free⟩ := List.forall_mem_cons.mp free
      obtain ⟨answer, middle, answered, success_iff, state_eq, calls_eq⟩ :=
        Vm.setOption_forwards native name_free value_free before
      rw [NativeSetOption.accepted]
      dsimp only
      by_cases success : answer = .success
      · rw [if_pos (success_iff.mp success), ← state_eq]
        obtain ⟨refusal, after, rest_eq, none_iff, rest_calls⟩ := ih rest_free middle
        refine ⟨refusal, after, (Vm.setOptions_success (success ▸ answered)).trans rest_eq, ?_, ?_⟩
        · rw [none_iff, List.length_cons, Nat.add_right_cancel_iff]
        · rw [rest_calls, calls_eq, List.append_assoc]
          rfl
      · rw [if_neg (mt success_iff.mpr success)]
        refine ⟨_, _, Vm.setOptions_refusal answered success, by simp, ?_⟩
        rw [calls_eq]
        rfl

end Offering

/-- A load calls no native option function. -/
theorem load_optionCalls {opener : Opener ν} {path : String} {before after : Process κ ν σ}
    {vm : Vm ν} (loaded : load opener path before = some (.ok vm, after)) :
    after.optionCalls = before.optionCalls := by
  obtain ⟨outcome, after', loaded', loads⟩ := load_loads opener path before
  cases loaded.symm.trans loaded'
  obtain _ | ⟨-, -, -, passes⟩ := loads
  rw [List.append_nil] at passes
  refine passes.optionCalls_eq fun milestone member provider => ?_
  rcases List.mem_append.mp member with opened | created
  · obtain ⟨asked, _, rfl⟩ := Option.map_eq_some_iff.mp (Option.mem_toList.mp opened)
    nofun
  · obtain ⟨create, _, rfl⟩ := Option.map_eq_some_iff.mp (Option.mem_toList.mp created)
    nofun

/-- A configured load is a load and then the options of the configuration, set in
their order up to the first that is refused.  It fails with the cause of that
refusal, and calls the same native option functions.  A configuration without
separating characters in its parts reaches a native VM as it was written. -/
theorem loadAndConfigure_sets_options (opener : Opener ν) (before : Process κ ν σ) :
    (∀ text : String, text.utf8ByteSize < maxPathLength →
      (∃ error after,
        load opener (Configuration.ofText text).path before = some (.error error, after) ∧
        loadAndConfigure opener text before = some (.error error, after)) ∨
      ∃ vm middle refusal set outcome after,
        load opener (Configuration.ofText text).path before = some (.ok vm, middle) ∧
        vm.setOptions (Configuration.ofText text).options middle = some (refusal, set) ∧
        loadAndConfigure opener text before = some (outcome, after) ∧
        ConfiguresAs vm set after refusal outcome) ∧
    ∀ configuration : Configuration, configuration.Separable → FreeOfZero configuration.options →
      configuration.text.utf8ByteSize < maxPathLength →
      ∀ (vm : Vm ν) (middle : Process κ ν σ) (run : NativeSetOption ν),
        load opener configuration.path before = some (.ok vm, middle) →
        vm.native.setOption = some run →
        ∃ outcome after, loadAndConfigure opener configuration.text before = some (outcome, after) ∧
          (outcome = .ok vm ↔ NativeSetOption.accepted run (middle.privateState vm)
            configuration.options = configuration.options.length) ∧
          after.optionCalls = before.optionCalls ++
            (configuration.options.take (NativeSetOption.accepted run (middle.privateState vm)
              configuration.options + 1)).map vm.callFor := by
  constructor
  · intro text short
    obtain ⟨outcome, middle, loaded, _⟩ := load_loads opener (Configuration.ofText text).path before
    cases outcome with
    | error error => exact Or.inl ⟨_, _, loaded, loadAndConfigure_unloaded short loaded⟩
    | ok vm =>
        obtain ⟨refusal, set, outcome, after, answered, configured, agrees⟩ :=
          loadAndConfigure_configuresAs short loaded
        exact Or.inr ⟨_, _, _, _, _, _, loaded, answered, configured, agrees⟩
  · intro configuration separable free short vm middle run loaded native
    have read := Configuration.ofText_text separable
    obtain ⟨refusal, set, outcome, after, answered, configured, agrees⟩ :=
      loadAndConfigure_configuresAs short (read.symm ▸ loaded)
    obtain ⟨refusal', set', answered', none_iff, calls_eq⟩ :=
      Vm.setOptions_offers native free middle
    rw [read, answered'] at answered
    cases answered
    rw [load_optionCalls loaded] at calls_eq
    refine ⟨outcome, after, configured, ?_, ?_⟩
    · rw [← none_iff]
      cases agrees <;> simp
    · rw [← calls_eq]
      cases agrees with
      | accepted same => rw [same]
      | refused cause alike => exact alike.2

/-- An opener that finds the example VM in every library. -/
def exampleOpener : Opener Nat where
  source := .platform
  openLibrary _ := .ok ⟨fun _ => some (ExampleVm.createFunction .platform)⟩

theorem load_exampleOpener {path : String} (valid : ValidPath path) (before : Process κ Nat σ) :
    ∃ middle, load exampleOpener path before =
        some (.ok ⟨before.nextIdentity, ExampleVm.instanceOf .platform, some .platform⟩, middle) ∧
      middle.privateStates = before.privateStates := by
  rw [load_found (validatePath_of_validPath valid) rfl rfl]
  exact ⟨_, instantiate_accepted rfl rfl, rfl⟩

/-- The example VM does not know the second of these options, so it is not offered
the third. -/
theorem loadAndConfigure_colourful :
    ∃ outcome after, loadAndConfigure exampleOpener
        (Configuration.text ⟨"@EXAMPLE", [("verbose", "2"), ("colour", "1"), ("verbose", "3")]⟩)
        (.initial () : Process Unit Nat Unit) = some (outcome, after) ∧
      outcome ≠ .ok ⟨0, ExampleVm.instanceOf .platform, some .platform⟩ ∧
      after.optionCalls = [(.platform, textBytes "verbose", textBytes "2"),
        (.platform, textBytes "colour", textBytes "1")] := by
  let before : Process Unit Nat Unit := .initial ()
  let vm : Vm Nat := ⟨before.nextIdentity, ExampleVm.instanceOf .platform, some .platform⟩
  have separable : Configuration.Separable
      ⟨"@EXAMPLE", [("verbose", "2"), ("colour", "1"), ("verbose", "3")]⟩ := by
    constructor <;> decide +kernel
  have free : FreeOfZero [("verbose", "2"), ("colour", "1"), ("verbose", "3")] := by
    unfold FreeOfZero
    decide +kernel
  have valid : ValidPath "@EXAMPLE" := by decide +kernel
  obtain ⟨middle, loaded, states⟩ := load_exampleOpener valid before
  obtain ⟨answers, provided, count⟩ : ∃ answers, vm.native.setOption = some answers ∧
      NativeSetOption.accepted answers 0
        [("verbose", "2"), ("colour", "1"), ("verbose", "3")] = 1 :=
    ⟨_, rfl, by decide +kernel⟩
  obtain ⟨outcome, after, configured, accepted_iff, calls_eq⟩ :=
    (loadAndConfigure_sets_options exampleOpener before).2 _ separable free (by decide +kernel)
      vm middle answers loaded provided
  have state : middle.privateState vm = 0 := by
    rw [Process.privateState, states]
    rfl
  rw [state, count] at accepted_iff calls_eq
  exact ⟨outcome, after, configured, mt accepted_iff.mp (by decide), calls_eq⟩

end VmBridge
