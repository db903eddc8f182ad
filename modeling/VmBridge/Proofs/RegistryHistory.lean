import VmBridge.Proofs.RegistrySteps
import Mathlib.Data.List.Induction

/-!
# What a registry makes of its history

Each operation of the registry is one critical section, so the operations of
all threads happen one after the other and form one list.  `Registry.Follows`
says what the next operation answers after such a history, in terms of the
history alone: which handles were handed out, which of them have been removed
since, and which fault was the first to be recorded since the last collection.
`afterAll_follows` says that the registry answers like this after every
history.

The scope of a registration gives up its handle when it is left, by returning
or by a fault, and also when the handle has been given up before.
-/

namespace VmBridge.Registry

variable {κ : Type}

/-- One operation on a registry. -/
inductive Operation (κ : Type) where
  | register (context : κ)
  | resolve (handle : Nat)
  | unregister (handle : Nat)
  /-- Leave the scope of the registration of a handle. -/
  | leave (handle : Nat)
  | recordFault (handle : Nat) (fault : Fault)
  | takeFault (handle : Nat)
  | size

namespace Operation

abbrev Answer : Operation κ → Type
  | .register _ => Nat
  | .resolve _ => Option κ
  | .unregister _ => Bool
  | .leave _ => Unit
  | .recordFault _ _ => Unit
  | .takeFault _ => Option Fault
  | .size => Nat

def isRegister : Operation κ → Bool
  | .register _ => true
  | _ => false

/-- An operation takes the entry of a handle out of the registry. -/
def Removes (handle : Nat) : Operation κ → Prop
  | .unregister other => other = handle
  | .leave other => other = handle
  | _ => False

/-- An operation collects the fault of a handle. -/
def Takes (handle : Nat) : Operation κ → Prop
  | .takeFault other => other = handle
  | _ => False

end Operation

/-- What a registry answers to an operation. -/
def answer (registry : Registry κ) : (operation : Operation κ) → operation.Answer
  | .register _ => registry.nextHandle
  | .resolve handle => registry.resolve handle
  | .unregister handle => registry.isLive handle
  | .leave _ => ()
  | .recordFault _ _ => ()
  | .takeFault handle => registry.parkedFault handle
  | .size => registry.size

/-- The registry after an operation. -/
def after (registry : Registry κ) : Operation κ → Registry κ
  | .register context => registry.register context
  | .resolve _ => registry
  | .unregister handle => registry.unregister handle
  | .leave handle => registry.unregister handle
  | .recordFault handle fault => registry.recordFault handle fault
  | .takeFault handle => registry.clearFault handle
  | .size => registry

/-- The registry after some operations, one after the other. -/
def afterAll (registry : Registry κ) (operations : List (Operation κ)) : Registry κ :=
  operations.foldl after registry

theorem afterAll_concat (registry : Registry κ) (past : List (Operation κ))
    (operation : Operation κ) :
    registry.afterAll (past ++ [operation]) = (registry.afterAll past).after operation := by
  rw [afterAll, List.foldl_append]
  rfl

/-- A handle that was handed out and does not lead to a host never will again. -/
theorem resolve_afterAll_of_dead {registry : Registry κ} {handle : Nat}
    (known : handle < registry.nextHandle) (dead : registry.resolve handle = none)
    (operations : List (Operation κ)) : (registry.afterAll operations).resolve handle = none := by
  induction operations generalizing registry with
  | nil => exact dead
  | cons operation later ih =>
      have known' : handle < (registry.after operation).nextHandle := by
        cases operation <;> simp [after] <;> omega
      refine ih known' ?_
      cases operation with
      | register context => rw [after, resolve_register, if_neg (by omega), dead]
      | unregister other | leave other => rw [after, resolve_unregister, dead, ite_self]
      | _ => simp [after, dead]

section Histories

/-- A handle was handed out for a context. -/
def HandedOut (past : List (Operation κ)) (handle : Nat) (context : κ) : Prop :=
  ∃ earlier later, past = earlier ++ .register context :: later ∧
    (empty.afterAll earlier).answer (.register context) = handle

/-- A handle was handed out for a context and has not been removed since. -/
def Live (past : List (Operation κ)) (handle : Nat) (context : κ) : Prop :=
  ∃ earlier later, past = earlier ++ .register context :: later ∧
    (empty.afterAll earlier).answer (.register context) = handle ∧
    ∀ operation ∈ later, ¬operation.Removes handle

/-- A handle was handed out and has been removed. -/
def Removed (past : List (Operation κ)) (handle : Nat) : Prop :=
  ∃ earlier operation later context, past = earlier ++ operation :: later ∧
    HandedOut earlier handle context ∧ operation.Removes handle

/-- No fault has been recorded for a handle since the last collection, or only while
the handle was not live. -/
def Vacant (past : List (Operation κ)) (handle : Nat) : Prop :=
  ∀ earlier fault later, past = earlier ++ .recordFault handle fault :: later →
    (∃ operation ∈ later, operation.Takes handle) ∨ ¬∃ context, Live earlier handle context

/-- A fault was recorded for a live handle, as the first one since the last
collection, and since then it was neither collected nor removed with its handle. -/
def Kept (past : List (Operation κ)) (handle : Nat) (fault : Fault) : Prop :=
  ∃ earlier later, past = earlier ++ .recordFault handle fault :: later ∧
    (∃ context, Live earlier handle context) ∧ Vacant earlier handle ∧
    ∀ operation ∈ later, ¬operation.Removes handle ∧ ¬operation.Takes handle

/-- A registry answers the next operation as it should after a history. -/
structure Follows (past : List (Operation κ)) (registry : Registry κ) : Prop where
  one_le_handle : ∀ context, 1 ≤ registry.answer (.register context)
  lt_handle : ∀ context older holder, HandedOut past older holder →
    older < registry.answer (.register context)
  /-- The counter does not run over after fewer registrations than it can count. -/
  counter_fits : ∀ context, past.countP Operation.isRegister + 1 < UInt64.size - 1 →
    registry.answer (.register context) + 1 < UInt64.size
  resolve_iff : ∀ handle context,
    registry.answer (.resolve handle) = some context ↔ Live past handle context
  resolve_removed : ∀ handle, Removed past handle → registry.answer (.resolve handle) = none
  unregister_iff : ∀ handle,
    registry.answer (.unregister handle) = true ↔ ∃ context, Live past handle context
  /-- Leaving a scope leaves all other entries as they are. -/
  leave_spares : ∀ handle other, other ≠ handle →
    (registry.after (.leave handle)).registration? other = registry.registration? other
  /-- The entry that a scope gives up is the one that it was opened with. -/
  leave_own : ∀ handle context holder, HandedOut past handle context →
    registry.answer (.resolve handle) = some holder → holder = context
  takeFault_iff : ∀ handle fault,
    registry.answer (.takeFault handle) = some fault ↔ Kept past handle fault
  takeFault_once : ∀ handle,
    (registry.after (.takeFault handle)).answer (.takeFault handle) = none
  size_eq : ∃ live : List Nat, live.Nodup ∧
    (∀ handle, handle ∈ live ↔ ∃ context, Live past handle context) ∧
    registry.answer .size = live.length

theorem splits_concat_iff {α : Type} {past earlier later : List α} {last middle : α} :
    past ++ [last] = earlier ++ middle :: later ↔
      (earlier = past ∧ middle = last ∧ later = []) ∨
        ∃ rest, later = rest ++ [last] ∧ past = earlier ++ middle :: rest := by
  constructor
  · intro split
    rcases List.eq_nil_or_concat later with rfl | ⟨rest, final, later_eq⟩
    · obtain ⟨rfl, same⟩ := List.append_inj' split rfl
      cases same
      exact Or.inl ⟨rfl, rfl, rfl⟩
    · have split' : past ++ [last] = (earlier ++ middle :: rest) ++ [final] := by
        simpa [later_eq] using split
      obtain ⟨rfl, same⟩ := List.append_inj' split' rfl
      cases same
      exact Or.inr ⟨rest, by simpa using later_eq, rfl⟩
  · rintro (⟨rfl, rfl, rfl⟩ | ⟨rest, rfl, rfl⟩)
    · rfl
    · simp

section Steps

variable (past : List (Operation κ)) (operation : Operation κ) (handle : Nat)

theorem handedOut_concat (context : κ) :
    HandedOut (past ++ [operation]) handle context ↔
      HandedOut past handle context ∨
        operation = .register context ∧ (empty.afterAll past).nextHandle = handle := by
  simp only [HandedOut, splits_concat_iff]
  constructor
  · rintro ⟨earlier, later, ⟨rfl, rfl, rfl⟩ | ⟨rest, rfl, rfl⟩, handed⟩
    · exact Or.inr ⟨rfl, handed⟩
    · exact Or.inl ⟨earlier, rest, rfl, handed⟩
  · rintro (⟨earlier, later, rfl, handed⟩ | ⟨rfl, handed⟩)
    · exact ⟨earlier, _, Or.inr ⟨later, rfl, rfl⟩, handed⟩
    · exact ⟨past, [], Or.inl ⟨rfl, rfl, rfl⟩, handed⟩

theorem live_concat (context : κ) :
    Live (past ++ [operation]) handle context ↔
      Live past handle context ∧ ¬operation.Removes handle ∨
        operation = .register context ∧ (empty.afterAll past).nextHandle = handle := by
  simp only [Live, splits_concat_iff]
  constructor
  · rintro ⟨earlier, later, ⟨rfl, rfl, rfl⟩ | ⟨rest, rfl, rfl⟩, handed, unremoved⟩
    · exact Or.inr ⟨rfl, handed⟩
    · refine Or.inl ⟨⟨earlier, rest, rfl, handed, fun other member => ?_⟩, ?_⟩
      · exact unremoved other (List.mem_append_left _ member)
      · exact unremoved operation (by simp)
  · rintro (⟨⟨earlier, later, rfl, handed, unremoved⟩, spared⟩ | ⟨rfl, handed⟩)
    · refine ⟨earlier, _, Or.inr ⟨later, rfl, rfl⟩, handed, fun other member => ?_⟩
      rcases List.mem_append.mp member with older | last
      · exact unremoved other older
      · rwa [List.mem_singleton.mp last]
    · exact ⟨past, [], Or.inl ⟨rfl, rfl, rfl⟩, handed, by simp⟩

theorem vacant_concat :
    Vacant (past ++ [operation]) handle ↔
      (Vacant past handle ∨ operation.Takes handle) ∧
        ∀ fault, operation = .recordFault handle fault → ¬∃ context, Live past handle context := by
  constructor
  · intro vacant
    refine ⟨?_, ?_⟩
    · by_cases takes : operation.Takes handle
      · exact Or.inr takes
      · refine Or.inl fun earlier fault later split => ?_
        have longer : past ++ [operation] =
            earlier ++ .recordFault handle fault :: (later ++ [operation]) := by
          rw [split]
          simp
        rcases vacant earlier fault _ longer with ⟨other, member, taken⟩ | dead
        · rcases List.mem_append.mp member with older | last
          · exact Or.inl ⟨other, older, taken⟩
          · rw [List.mem_singleton.mp last] at taken
            exact absurd taken takes
        · exact Or.inr dead
    · rintro fault rfl
      exact (vacant past fault [] rfl).resolve_left (by simp)
  · rintro ⟨vacant, unrecorded⟩ earlier fault later split
    rcases splits_concat_iff.mp split with ⟨rfl, recorded, rfl⟩ | ⟨rest, rfl, rfl⟩
    · exact Or.inr (unrecorded fault recorded.symm)
    · rcases vacant with vacant | takes
      · rcases vacant earlier fault rest rfl with ⟨other, member, taken⟩ | dead
        · exact Or.inl ⟨other, List.mem_append_left _ member, taken⟩
        · exact Or.inr dead
      · exact Or.inl ⟨operation, by simp, takes⟩

theorem kept_concat (fault : Fault) :
    Kept (past ++ [operation]) handle fault ↔
      Kept past handle fault ∧ ¬operation.Removes handle ∧ ¬operation.Takes handle ∨
        operation = .recordFault handle fault ∧ (∃ context, Live past handle context) ∧
          Vacant past handle := by
  simp only [Kept, splits_concat_iff]
  constructor
  · rintro ⟨earlier, later, ⟨rfl, rfl, rfl⟩ | ⟨rest, rfl, rfl⟩, live, vacant, kept⟩
    · exact Or.inr ⟨rfl, live, vacant⟩
    · refine Or.inl ⟨⟨earlier, rest, rfl, live, vacant, fun other member => ?_⟩, ?_⟩
      · exact kept other (List.mem_append_left _ member)
      · exact kept operation (by simp)
  · rintro (⟨⟨earlier, later, rfl, live, vacant, kept⟩, spared⟩ | ⟨rfl, live, vacant⟩)
    · refine ⟨earlier, _, Or.inr ⟨later, rfl, rfl⟩, live, vacant, fun other member => ?_⟩
      rcases List.mem_append.mp member with older | last
      · exact kept other older
      · rwa [List.mem_singleton.mp last]
    · exact ⟨past, [], Or.inl ⟨rfl, rfl, rfl⟩, live, vacant, by simp⟩

end Steps

section Answers

variable (past : List (Operation κ)) {handle : Nat}

theorem nextHandle_afterAll :
    (empty.afterAll past : Registry κ).nextHandle = past.countP Operation.isRegister + 1 := by
  induction past using List.reverseRecOn with
  | nil => rfl
  | append_singleton past operation ih =>
      rw [afterAll_concat, List.countP_append]
      cases operation <;> simp [after, ih, Operation.isRegister]

theorem lt_nextHandle {context : κ} (handed : HandedOut past handle context) :
    handle < (empty.afterAll past : Registry κ).nextHandle := by
  obtain ⟨earlier, later, rfl, rfl⟩ := handed
  change (empty.afterAll earlier).nextHandle < _
  rw [nextHandle_afterAll, nextHandle_afterAll, List.countP_append, List.countP_cons]
  simp only [Operation.isRegister, if_true]
  omega

theorem Live.handedOut {past : List (Operation κ)} {context : κ} (live : Live past handle context) :
    HandedOut past handle context := by
  obtain ⟨earlier, later, split, handed, _⟩ := live
  exact ⟨earlier, later, split, handed⟩

theorem resolve_afterAll (context : κ) :
    (empty.afterAll past).resolve handle = some context ↔ Live past handle context := by
  induction past using List.reverseRecOn with
  | nil => simp [afterAll, Live, empty, resolve]
  | append_singleton past operation ih =>
      rw [afterAll_concat, live_concat]
      cases operation with
      | register newcomer =>
          have unresolved : (empty.afterAll past).resolve (empty.afterAll past).nextHandle = none :=
            resolve_eq_none (Nat.le_refl _)
          rw [after, resolve_register]
          by_cases same : (empty.afterAll past).nextHandle = handle
          · have dead : ¬Live past handle context := by
              rw [← ih, ← same, unresolved]
              simp
            simp [same, dead]
          · simp [same, ih, Operation.Removes]
      | unregister other | leave other =>
          rw [after, resolve_unregister]
          by_cases same : other = handle <;> simp [same, ih, Operation.Removes]
      | _ => simp [after, ih, Operation.Removes]

theorem isLive_afterAll :
    (empty.afterAll past : Registry κ).isLive handle = true ↔
      ∃ context, Live past handle context := by
  rw [isLive_iff]
  exact exists_congr fun context => resolve_afterAll past context

theorem vacant_of_fresh (fresh : (empty.afterAll past : Registry κ).nextHandle ≤ handle) :
    Vacant past handle := by
  rintro earlier fault later rfl
  refine Or.inr ?_
  rintro ⟨context, live⟩
  have early := lt_nextHandle earlier live.handedOut
  rw [nextHandle_afterAll] at early fresh
  rw [List.countP_append] at fresh
  omega

/-- Under a live handle no fault is parked exactly if none has been recorded since the
last collection. -/
theorem vacant_iff (live : ∃ context, Live past handle context) :
    Vacant past handle ↔ (empty.afterAll past).parkedFault handle = none := by
  induction past using List.reverseRecOn with
  | nil => simp [Vacant, afterAll, empty, parkedFault]
  | append_singleton past operation ih =>
      obtain ⟨context, live⟩ := live
      rw [live_concat] at live
      rw [afterAll_concat, vacant_concat]
      cases operation with
      | register newcomer =>
          rw [after, parkedFault_register]
          by_cases same : (empty.afterAll past).nextHandle = handle
          · have vacant := vacant_of_fresh past (Nat.le_of_eq same)
            simp [same, vacant]
          · have older : Live past handle context := by
              simpa [same, Operation.Removes] using live
            simp [same, ih ⟨context, older⟩, Operation.Takes]
      | unregister other | leave other =>
          obtain ⟨older, spared⟩ : Live past handle context ∧ ¬other = handle := by
            simpa [Operation.Removes] using live
          rw [after, parkedFault_unregister]
          simp [spared, ih ⟨context, older⟩, Operation.Takes]
      | recordFault other fault =>
          have older : Live past handle context := by simpa [Operation.Removes] using live
          have isLive := (isLive_afterAll past).mpr ⟨context, older⟩
          rw [after, parkedFault_recordFault]
          by_cases same : other = handle
          · subst same
            have recorded : ∃ context, Live past other context := ⟨context, older⟩
            simp [isLive, recorded]
          · simp [same, ih ⟨context, older⟩, Operation.Takes]
      | takeFault other =>
          have older : Live past handle context := by simpa [Operation.Removes] using live
          rw [after, parkedFault_clearFault]
          by_cases same : other = handle <;> simp [same, ih ⟨context, older⟩, Operation.Takes]
      | resolve | size =>
          have older : Live past handle context := by simpa [Operation.Removes] using live
          simp [after, ih ⟨context, older⟩, Operation.Takes]

theorem parkedFault_afterAll (fault : Fault) :
    (empty.afterAll past : Registry κ).parkedFault handle = some fault ↔
      Kept past handle fault := by
  induction past using List.reverseRecOn with
  | nil => simp [Kept, afterAll, empty, parkedFault]
  | append_singleton past operation ih =>
      rw [afterAll_concat, kept_concat]
      cases operation with
      | register newcomer =>
          have unparked : (empty.afterAll past).parkedFault (empty.afterAll past).nextHandle =
              none := parkedFault_eq_none (Nat.le_refl _)
          rw [after, parkedFault_register]
          by_cases same : (empty.afterAll past).nextHandle = handle
          · rw [same] at unparked
            simp [same, ← ih, unparked]
          · simp [same, ih, Operation.Removes, Operation.Takes]
      | unregister other | leave other =>
          rw [after, parkedFault_unregister]
          by_cases same : other = handle <;> simp [same, ih, Operation.Removes, Operation.Takes]
      | recordFault other reason =>
          rw [after, parkedFault_recordFault]
          by_cases recorded : other = handle ∧ ∃ context, Live past handle context
          · obtain ⟨rfl, live⟩ := recorded
            have isLive := (isLive_afterAll past).mpr live
            rw [if_pos ⟨rfl, isLive⟩, ← ih, vacant_iff past live]
            cases (empty.afterAll past).parkedFault other with
            | none => simp [live, Operation.Removes, Operation.Takes]
            | some first => simp [Operation.Removes, Operation.Takes]
          · have unrecorded : ¬(other = handle ∧ (empty.afterAll past).isLive handle = true) := by
              rwa [isLive_afterAll]
            rw [if_neg unrecorded, ih]
            constructor
            · exact fun kept => Or.inl ⟨kept, not_false, not_false⟩
            · rintro (⟨kept, _⟩ | ⟨same, live, _⟩)
              · exact kept
              · cases same
                exact absurd ⟨rfl, live⟩ recorded
      | takeFault other =>
          rw [after, parkedFault_clearFault]
          by_cases same : other = handle <;> simp [same, ih, Operation.Removes, Operation.Takes]
      | resolve | size => simp [after, ih, Operation.Removes, Operation.Takes]

theorem mem_keys_afterAll :
    handle ∈ (empty.afterAll past : Registry κ).registrations.keys ↔
      ∃ context, Live past handle context := by
  rw [← isLive_afterAll, isLive, Table.contains_iff]

theorem Removed.dead {past : List (Operation κ)} (removed : Removed past handle) :
    (empty.afterAll past).resolve handle = none := by
  obtain ⟨earlier, operation, later, context, rfl, handed, removes⟩ := removed
  have known := lt_nextHandle earlier handed
  rw [afterAll, List.foldl_append, List.foldl_cons]
  refine resolve_afterAll_of_dead ?_ ?_ later
  · cases operation with
    | unregister | leave => exact known
    | _ => cases removes
  · cases operation with
    | unregister other | leave other => exact (resolve_unregister _ _ _).trans (if_pos removes)
    | _ => cases removes

theorem HandedOut.unique {past : List (Operation κ)} {context other : κ}
    (handed : HandedOut past handle context) (handed' : HandedOut past handle other) :
    context = other := by
  induction past using List.reverseRecOn with
  | nil =>
      obtain ⟨earlier, later, split, _⟩ := handed
      cases List.append_ne_nil_of_right_ne_nil earlier (List.cons_ne_nil _ later) split.symm
  | append_singleton past operation ih =>
      rcases (handedOut_concat past operation handle context).mp handed with older | ⟨rfl, rfl⟩
      · rcases (handedOut_concat past operation handle other).mp handed' with older' | ⟨_, rfl⟩
        · exact ih older older'
        · exact absurd (lt_nextHandle past older) (Nat.lt_irrefl _)
      · rcases (handedOut_concat past _ _ other).mp handed' with older' | ⟨same, _⟩
        · exact absurd (lt_nextHandle past older') (Nat.lt_irrefl _)
        · cases same
          rfl

/-- After every history a registry answers as it should. -/
theorem afterAll_follows (past : List (Operation κ)) : Follows past (empty.afterAll past) where
  one_le_handle _ := (empty.afterAll past).one_le_nextHandle
  lt_handle _ _ _ handed := lt_nextHandle past handed
  counter_fits context few := by
    change (empty.afterAll past).nextHandle + 1 < _
    rw [nextHandle_afterAll]
    omega
  resolve_iff _ context := resolve_afterAll past context
  resolve_removed _ removed := removed.dead
  unregister_iff _ := isLive_afterAll past
  leave_spares handle other different := by
    rw [after, registration?_unregister, if_neg different.symm]
  leave_own handle context holder handed resolved := by
    exact ((resolve_afterAll past holder).mp resolved).handedOut.unique handed
  takeFault_iff _ fault := parkedFault_afterAll past fault
  takeFault_once handle := by
    rw [after, answer, parkedFault_clearFault, if_pos rfl]
  size_eq := ⟨(empty.afterAll past).registrations.keys,
    (empty.afterAll past).registrations.nodup_keys, fun _ => mem_keys_afterAll past,
    (List.length_map _).symm⟩

end Answers

end Histories

end VmBridge.Registry
