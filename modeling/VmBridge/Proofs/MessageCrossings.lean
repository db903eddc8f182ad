import VmBridge.Proofs.CallbackOutcomes

/-!
# Messages that cross the interface

A message crosses into native code as a `NativeMessage` and back as a `Message`.  On the
way back every flag but the lowest is lost, and so is the difference between the ways of
writing an empty input.  What is left is `NativeMessage.normalized`, the form in which a
native message comes back when it has crossed in both directions:
`NativeMessage.toNative_of_toMessage`.  Crossing again changes nothing any more.
-/

namespace VmBridge

namespace Span

variable {α : Type}

/-- A span in which nothing is written as a null pointer with the count zero. -/
def normalized : Span α → Span α
  | .live (item :: items) => .live (item :: items)
  | .live [] | .null _ => .null 0

theorem lend_contents (span : Span α) : lend span.contents = span.normalized := by
  match span with
  | .live (item :: items) => rfl
  | .live [] => rfl
  | .null size => rfl

theorem contents_normalized (span : Span α) : span.normalized.contents = span.contents := by
  rw [← lend_contents, contents_lend]

theorem normalized_normalized (span : Span α) :
    span.normalized.normalized = span.normalized := by
  rw [← lend_contents span.normalized, contents_normalized, lend_contents]

end Span

/-- The number that is turned down is the one that was read. -/
theorem CallKind.eq_of_ofRaw_eq_error {raw rejected : Int32}
    (unread : ofRaw raw = .error rejected) : rejected = raw := by
  rw [ofRaw] at unread
  split at unread <;> cases unread
  rfl

namespace NativeMessage

variable {native : NativeMessage} {message : Message}

/-- The form in which native code is given a message: of the flags only the lowest one is
set or not, and an input without bytes is a null pointer with the length zero. -/
def normalized (native : NativeMessage) : NativeMessage :=
  { native with
    flags := native.flags &&& staticFlag
    input := native.input.normalized }

theorem normalized_normalized (native : NativeMessage) :
    native.normalized.normalized = native.normalized := by
  simp only [normalized, Span.normalized_normalized, UInt32.and_assoc, UInt32.and_self]

/-- The lowest flag alone is the flag that marks a static call or none at all. -/
theorem flags_and_staticFlag (native : NativeMessage) :
    native.flags &&& staticFlag = if native.isStatic then staticFlag else 0 := by
  have lowest : (native.flags &&& staticFlag).toNat = native.flags.toNat % 2 := by
    rw [UInt32.toNat_and]
    exact Nat.and_one_is_mod _
  rw [← UInt32.toNat_inj, lowest]
  split
  · rename_i static
    exact native.isStatic_iff.mp static
  · rename_i dynamic
    have even : ¬native.flags.toNat % 2 = 1 := fun odd => dynamic (native.isStatic_iff.mpr odd)
    change native.flags.toNat % 2 = 0
    omega

theorem toMessage_of_hasKind (hasKind : native.HasKind) :
    ∃ message, native.toMessage = .ok message := by
  obtain ⟨kind, kind_eq⟩ := CallKind.exists_raw hasKind.1 hasKind.2
  rw [toMessage, kind_eq, CallKind.ofRaw_raw]
  exact ⟨_, rfl⟩

/-- A kind without a meaning is handed back. -/
theorem toMessage_of_not_hasKind (unknown : ¬native.HasKind) :
    native.toMessage = .error native.kind := by
  cases read : native.toMessage with
  | ok message => exact absurd (hasKind_of_toMessage read) unknown
  | error kind =>
      rw [toMessage] at read
      cases known : CallKind.ofRaw native.kind with
      | ok kind => simp [known, Except.map] at read
      | error rejected =>
          simp only [known, Except.map, Except.error.injEq] at read
          rw [← read, CallKind.eq_of_ofRaw_eq_error known]

/-- A native message that is read and handed to native code again arrives in its normal
form. -/
theorem toNative_of_toMessage (read : native.toMessage = .ok message) :
    message.toNative = native.normalized := by
  have hasKind := hasKind_of_toMessage read
  obtain ⟨kind, kind_eq⟩ := CallKind.exists_raw hasKind.1 hasKind.2
  rw [toMessage, kind_eq, CallKind.ofRaw_raw] at read
  cases read
  rw [normalized, flags_and_staticFlag, ← Span.lend_contents, kind_eq]
  rfl

/-- A message is read as its normal form is. -/
theorem toMessage_normalized (native : NativeMessage) :
    native.normalized.toMessage = native.toMessage := by
  have flag : native.normalized.isStatic = native.isStatic := by
    change (native.flags &&& staticFlag &&& staticFlag != 0) = (native.flags &&& staticFlag != 0)
    rw [UInt32.and_assoc, UInt32.and_self]
  have contents : native.normalized.input.contents = native.input.contents :=
    native.input.contents_normalized
  rw [toMessage, toMessage, flag, contents]
  rfl

end NativeMessage

/-- Exactly an empty input is handed over as a null pointer. -/
theorem Message.isNull_toNative (message : Message) :
    message.toNative.input.isNull = true ↔ message.input = [] := by
  rw [toNative, Span.isNull_lend, List.isEmpty_iff]

end VmBridge
