import Mathlib.Data.List.Basic
import VmBridge.ExecutionResult

/-!
# The two forms of a result

Native code is told of a status by a number, and of an account that was not created by
the zero address.  Which numbers, addresses and bytes of output belong to a result is
said here field by field, without the functions that turn one form into the other:
`NativeResult.CopiedAs` relates a native result to the copy that is made of it, and
`NativeResult.Lends` a result to what native code is handed.  There is no other copy of
a native result than the one that is made.
-/

namespace VmBridge

/-- A number stands for one of some names, which are numbered in their order from the
least number on. -/
structure IsNumbered {α : Type} [DecidableEq α] (names : List α) (least : Int) (name : α)
    (number : Int32) : Prop where
  mem : name ∈ names
  toInt_eq : number.toInt = least + names.idxOf name

namespace IsNumbered

variable {α : Type} [DecidableEq α] {names : List α} {least : Int} {name other : α}
  {number : Int32}

theorem name_unique (numbered : IsNumbered names least name number)
    (numbered' : IsNumbered names least other number) : name = other := by
  have same_value := numbered.toInt_eq.symm.trans numbered'.toInt_eq
  exact (List.idxOf_inj numbered.mem).mp (by omega)

theorem bounds (numbered : IsNumbered names least name number) :
    least ≤ number.toInt ∧ number.toInt < least + names.length := by
  have inside := List.idxOf_lt_length_iff.mpr numbered.mem
  have value := numbered.toInt_eq
  omega

end IsNumbered

namespace StatusCode

/-- The statuses that have names, in the order of their numbers. -/
def inOrder : List StatusCode :=
  [.outOfMemory, .rejected, .internalError, .success, .failure, .revert, .outOfGas,
    .invalidInstruction, .undefinedInstruction, .stackOverflow, .stackUnderflow,
    .badJumpDestination, .invalidMemoryAccess, .callDepthExceeded, .staticModeViolation,
    .precompileFailure, .contractValidationFailure, .argumentOutOfRange,
    .wasmUnreachableInstruction, .wasmTrap, .insufficientBalance]

/-- The number of a status.  Those with names are numbered from -3, three below success,
and an unknown status is its own number. -/
def HasNumber (status : StatusCode) (number : Int32) : Prop :=
  IsNumbered inOrder (-3) status number ∨ status = .unknown number

/-- If the status is unknown, its number lies beyond those of the statuses with names. -/
def IsProper (status : StatusCode) : Prop :=
  ∀ number, status = .unknown number → number.toInt < -3 ∨ 17 < number.toInt

theorem hasNumber_raw (status : StatusCode) : status.HasNumber status.raw := by
  cases status with
  | unknown number => exact Or.inr rfl
  | _ => exact Or.inl ⟨by decide, rfl⟩

theorem raw_ofRaw (raw : Int32) : (ofRaw raw).raw = raw := by
  rw [ofRaw]
  split
  case h_22 => rfl
  all_goals
    rename_i number
    exact Int32.toInt_inj.mp number.symm

theorem isProper_ofRaw (raw : Int32) : (ofRaw raw).IsProper := by
  intro number unnamed
  rw [ofRaw] at unnamed
  split at unnamed
  case h_22 =>
    cases unnamed
    grind
  all_goals cases unnamed

theorem IsProper.ne_unknown {status named : StatusCode} {number : Int32}
    (proper : status.IsProper) (numbered : IsNumbered inOrder (-3) named number) :
    status ≠ .unknown number := by
  intro unnamed
  have outside := proper number unnamed
  have inside : -3 ≤ number.toInt ∧ number.toInt < -3 + 21 := numbered.bounds
  omega

/-- A number is read as one status only. -/
theorem HasNumber.status_unique {status other : StatusCode} {number : Int32}
    (hasNumber : status.HasNumber number) (hasNumber' : other.HasNumber number)
    (proper : status.IsProper) (proper' : other.IsProper) : status = other := by
  rcases hasNumber with numbered | unnamed <;> rcases hasNumber' with numbered' | unnamed'
  · exact numbered.name_unique numbered'
  · exact absurd unnamed' (proper'.ne_unknown numbered)
  · exact absurd unnamed (proper.ne_unknown numbered')
  · exact unnamed.trans unnamed'.symm

end StatusCode

namespace StorageStatus

/-- The effects of a storage write, in the order of their numbers. -/
def inOrder : List StorageStatus :=
  [.assigned, .added, .deleted, .modified, .deletedAdded, .modifiedDeleted, .deletedRestored,
    .addedDeleted, .modifiedRestored]

theorem isNumbered_raw (status : StorageStatus) : IsNumbered inOrder 0 status status.raw := by
  cases status <;> exact ⟨by decide, rfl⟩

end StorageStatus

theorem AccessStatus.isNumbered_raw (status : AccessStatus) :
    IsNumbered [cold, warm] 0 status status.raw := by
  cases status <;> exact ⟨by decide, rfl⟩

namespace NativeResult

variable {native : NativeResult} {result other : ExecutionResult}

/-- A native result and a result agree in all but their output.  The zero address stands
for no account. -/
structure Describes (native : NativeResult) (result : ExecutionResult) : Prop where
  status : result.status.HasNumber native.status
  gasLeft : native.gasLeft = result.gasLeft
  gasRefund : native.gasRefund = result.gasRefund
  createAddress : native.createAddress = result.createAddress.getD (.zero 20)

/-- A result is the copy of a native result.  A null pointer is copied as an empty output,
whatever size comes with it, no named status is kept as an unknown one, and the zero
address is not kept as an account. -/
structure CopiedAs (native : NativeResult) (result : ExecutionResult) : Prop
    extends native.Describes result where
  output : native.output = .live result.output ∨
    (∃ size, native.output = .null size) ∧ result.output = []
  proper : result.status.IsProper
  created : result.createAddress ≠ some (.zero 20)

/-- A native result is what native code is handed of a result.  Only an output that is not
empty is lent, and then it has to be released. -/
structure Lends (native : NativeResult) (result : ExecutionResult) : Prop
    extends native.Describes result where
  empty : result.output = [] → native.output = .null 0 ∧ native.release = none
  filled : result.output ≠ [] → native.output = .live result.output ∧
    native.release = some ⟨.binding, result.output⟩

theorem copiedAs_toResult (native : NativeResult) : native.CopiedAs native.toResult where
  status := by
    have hasNumber := (StatusCode.ofRaw native.status).hasNumber_raw
    rwa [StatusCode.raw_ofRaw] at hasNumber
  gasLeft := rfl
  gasRefund := rfl
  createAddress := by
    rw [toResult]
    split
    · assumption
    · rfl
  output := by
    rw [toResult]
    cases native.output with
    | null size => exact Or.inr ⟨⟨size, rfl⟩, rfl⟩
    | live items => exact Or.inl rfl
  proper := StatusCode.isProper_ofRaw native.status
  created := by
    rw [toResult, ne_eq]
    split
    · intro zero
      cases zero
    · rename_i nonzero
      exact fun zero => nonzero (Option.some.inj zero)

theorem CopiedAs.createAddress_eq (copied : native.CopiedAs result) :
    result.createAddress = if native.createAddress = .zero 20 then none
      else some native.createAddress := by
  have created := copied.created
  rw [copied.createAddress]
  cases address_eq : result.createAddress with
  | none => rfl
  | some address =>
      rw [address_eq, ne_eq, Option.some.injEq] at created
      exact (if_neg created).symm

theorem CopiedAs.output_eq (copied : native.CopiedAs result) :
    result.output = native.output.contents := by
  rcases copied.output with lent | ⟨⟨size, null⟩, empty⟩
  · rw [lent]
    rfl
  · rw [null, empty]
    rfl

theorem CopiedAs.unique (copied : native.CopiedAs result) (copied' : native.CopiedAs other) :
    result = other := by
  have status_eq :=
    copied.status.status_unique copied'.status copied.proper copied'.proper
  have address_eq := copied.createAddress_eq.trans copied'.createAddress_eq.symm
  have output_eq := copied.output_eq.trans copied'.output_eq.symm
  have gas_eq := copied.gasLeft.symm.trans copied'.gasLeft
  have refund_eq := copied.gasRefund.symm.trans copied'.gasRefund
  cases result
  cases other
  rw [ExecutionResult.mk.injEq]
  exact ⟨status_eq, gas_eq, refund_eq, output_eq, address_eq⟩

end NativeResult

theorem ExecutionResult.lends_toNative (result : ExecutionResult) :
    result.toNative.Lends result where
  status := result.status.hasNumber_raw
  gasLeft := rfl
  gasRefund := rfl
  createAddress := rfl
  empty no_output := by
    rw [toNative, no_output]
    exact ⟨rfl, rfl⟩
  filled some_output := by
    rw [toNative]
    cases output : result.output with
    | nil => exact absurd output some_output
    | cons byte rest => exact ⟨rfl, rfl⟩

end VmBridge
