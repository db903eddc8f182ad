import VmBridge.Proofs.Authority
import VmBridge.Proofs.CreationAddresses
import VmBridge.Proofs.SurvivingChanges

/-!
# Nonces count creations

Creations leave two traces.  In the journal, a message that creates without a
salt opens a frame; `survivingCreations` reads off which of these frames are
not taken back and which accounts they created.  In the world, the sender's
nonce grows by one; `World.Counts` says that it grew by the creations of a
list, each of which found as its nonce the number of those before it.
-/

namespace VmBridge

namespace Event

/-- The creation of a message without a salt, if neither its frame nor one around it
is undone.  The first message that is executed in the frame is executed for the
new account. -/
def founding (message : Message) (rest : List Event) : List (Address × Option Address) :=
  if message.kind = .create ∧ keepsFrames rest = true then
    [(message.sender, (frames rest).head?.map Message.recipient)]
  else []

/-- The creations without a salt that are not taken back, in the order in which
they began: who created, and the account for which code was executed first. -/
def survivingCreations : List Event → List (Address × Option Address)
  | [] => []
  | .frameOpened message :: rest => founding message rest ++ survivingCreations rest
  | _ :: rest => survivingCreations rest

/-- Some events leave the frames around them as they are, and of their creations
exactly some survive unless a frame around them is undone. -/
structure Founds (events : List Event) (created : List (Address × Option Address)) : Prop where
  settles : ∃ changes, Settle events changes
  surviving_append : ∀ later, survivingCreations (events ++ later) =
    (if keepsFrames later then created else []) ++ survivingCreations later

namespace Founds

variable {events others : List Event} {created more : List (Address × Option Address)}

theorem keepsFrames_append (founds : Founds events created) (later : List Event) :
    keepsFrames (events ++ later) = keepsFrames later := by
  obtain ⟨changes, settle⟩ := founds.settles
  exact settle.keepsFrames_append later

theorem survivingCreations_eq (founds : Founds events created) :
    survivingCreations events = created := by
  have alone := founds.surviving_append []
  rw [List.append_nil] at alone
  exact alone.trans (List.append_nil created)

/-- Without a frame there is no creation. -/
theorem unframed {event : Event} {changes : List Change} (settle : Settle [event] changes)
    (unopened : ∀ message, event ≠ .frameOpened message) : Founds [event] [] where
  settles := ⟨changes, settle⟩
  surviving_append later := by
    rw [ite_self, List.nil_append]
    cases event with
    | frameOpened message => exact absurd rfl (unopened message)
    | _ => rfl

theorem nil : Founds [] [] := ⟨⟨[], .nil⟩, fun _ => by simp⟩

theorem append (first : Founds events created) (second : Founds others more) :
    Founds (events ++ others) (created ++ more) where
  settles := by
    obtain ⟨changes, settle⟩ := first.settles
    obtain ⟨changes', settle'⟩ := second.settles
    exact ⟨_, settle.append settle'⟩
  surviving_append later := by
    rw [List.append_assoc, first.surviving_append, second.surviving_append,
      second.keepsFrames_append]
    split <;> simp

theorem elsewhere (outside : ∀ event ∈ events, event.byHost = false) : Founds events [] := by
  induction events with
  | nil => exact nil
  | cons event events ih =>
      obtain ⟨first, rest⟩ := List.forall_mem_cons.mp outside
      have unopened (message : Message) : event ≠ .frameOpened message := by
        rintro rfl
        cases first
      exact (unframed (.elsewhere first) unopened).append (ih rest)

theorem changeEvents (changes : List Change) : Founds (changeEvents changes) [] := by
  induction changes with
  | nil => exact nil
  | cons change changes ih =>
      have first : Founds [.worldChanged change] [] :=
        unframed (.change change) fun _ => Event.noConfusion
      exact first.append ih

/-- A frame that is kept founds the account for which its code was executed, and
then what was founded in it. -/
theorem kept (inner : Founds events created) (message : Message) {started : Message}
    {nested : List Message} (frames_eq : frames events = started :: nested) :
    Founds (.frameOpened message :: events ++ [.frameClosed true])
      ((if message.kind = .create then [(message.sender, some started.recipient)] else []) ++
        created) where
  settles := by
    obtain ⟨changes, settle⟩ := inner.settles
    exact ⟨_, settle.kept message⟩
  surviving_append later := by
    change founding message (events ++ [.frameClosed true] ++ later) ++
      survivingCreations (events ++ [.frameClosed true] ++ later) = _
    rw [List.append_assoc, inner.surviving_append, founding, inner.keepsFrames_append,
      frames_append, frames_eq]
    have closed : keepsFrames ([.frameClosed true] ++ later) = keepsFrames later := rfl
    have passed : survivingCreations ([.frameClosed true] ++ later) =
        survivingCreations later := rfl
    rw [closed, passed]
    by_cases plain : message.kind = .create <;> cases keepsFrames later <;> simp [plain]

theorem undone (inner : Founds events created) (message : Message) :
    Founds (.frameOpened message :: events ++ [.frameClosed false]) [] where
  settles := by
    obtain ⟨changes, settle⟩ := inner.settles
    exact ⟨_, settle.undone message⟩
  surviving_append later := by
    change founding message (events ++ [.frameClosed false] ++ later) ++
      survivingCreations (events ++ [.frameClosed false] ++ later) = _
    have closed : keepsFrames ([.frameClosed false] ++ later) = false := rfl
    have passed : survivingCreations ([.frameClosed false] ++ later) =
        survivingCreations later := rfl
    rw [List.append_assoc, inner.surviving_append, founding, inner.keepsFrames_append, closed,
      passed]
    simp

end Founds

end Event

namespace Account

@[simp] theorem writeSlot_nonce (account : Account) (key value : Word) :
    (account.writeSlot key value).nonce = account.nonce := by rw [writeSlot]

@[simp] theorem debit_nonce (account : Account) (amount : Nat) :
    (account.debit amount).nonce = account.nonce := by rw [debit]

end Account

def Change.isCount : Change → Bool
  | .countCreation _ => true
  | _ => false

namespace World

theorem nonce_update (world : World) (address other : Address) (change : Account → Account)
    (keeps : (change (world.account address)).nonce = (world.account address).nonce) :
    (world.update address change).nonce other = world.nonce other := by
  rw [nonce, account_update]
  split
  · rename_i same
    rw [keeps, same, nonce]
  · rfl

/-- Only the count of a creation changes a nonce. -/
theorem nonce_apply {change : Change} (uncounted : change.isCount = false) (world : World)
    (address : Address) : (world.apply change).nonce address = world.nonce address := by
  cases change with
  | countCreation => cases uncounted
  | writeSlot other key value =>
      exact world.nonce_update other address _ (Account.writeSlot_nonce _ key value)
  | deployCode other code =>
      exact world.nonce_update other address (fun account => { account with code }) rfl
  | transfer sender receiver amount =>
      have debited :=
        world.nonce_update sender address (·.debit amount) (Account.debit_nonce _ amount)
      have credited := (world.update sender (·.debit amount)).nonce_update receiver address
        (·.credit amount) (Account.credit_nonce _ amount)
      exact credited.trans debited
  | markDestructed | warmAccount | warmSlot | appendLog => rfl

theorem nonce_countCreation (world : World) (sender address : Address) :
    (world.apply (.countCreation sender)).nonce address =
      if sender = address then world.nonce sender + 1 else world.nonce address := by
  rw [nonce, apply, account_update]
  split <;> rfl

/-- Between two worlds the accounts counted some creations, in this order.  The nonce
of a creation is the number that its sender had counted before. -/
structure Counts (before : World) (creations : List Creation) (after : World) : Prop where
  nonce_eq : ∀ address, (after.nonce address).toNat =
    (before.nonce address).toNat + creations.countP (·.sender = address)
  numbered : ∀ earlier creation later, creations = earlier ++ creation :: later →
    creation.nonce.toNat =
      (before.nonce creation.sender).toNat + earlier.countP (·.sender = creation.sender)

namespace Counts

variable {before middle after : World} {creations more : List Creation}

theorem of_nonce_eq (same : ∀ address, after.nonce address = before.nonce address) :
    before.Counts [] after where
  nonce_eq address := congrArg UInt64.toNat (same address)
  numbered := by
    intro earlier creation later split
    cases earlier <;> cases split

theorem refl (world : World) : world.Counts [] world := of_nonce_eq fun _ => rfl

theorem trans (start : before.Counts creations middle) (finish : middle.Counts more after) :
    before.Counts (creations ++ more) after where
  nonce_eq address := by
    rw [finish.nonce_eq, start.nonce_eq, List.countP_append, Nat.add_assoc]
  numbered := by
    intro earlier creation later split
    have second (extra : List Creation) (more_eq : more = extra ++ creation :: later) :
        creation.nonce.toNat = (before.nonce creation.sender).toNat +
          (creations ++ extra).countP (·.sender = creation.sender) := by
      rw [finish.numbered extra creation later more_eq, start.nonce_eq, List.countP_append,
        Nat.add_assoc]
    rcases List.append_eq_append_iff.mp split with ⟨extra, rfl, more_eq⟩ | ⟨extra, rfl, later_eq⟩
    · exact second extra more_eq
    · cases extra with
      | nil => simpa using second [] later_eq.symm
      | cons first rest =>
          cases later_eq
          exact start.numbered earlier creation rest rfl

theorem applyAll {changes : List Change}
    (uncounted : ∀ change ∈ changes, change.isCount = false) :
    before.Counts [] (before.applyAll changes) := by
  induction changes generalizing before with
  | nil => exact refl before
  | cons change changes ih =>
      obtain ⟨first, rest⟩ := List.forall_mem_cons.mp uncounted
      have once : before.Counts [] (before.apply change) := of_nonce_eq (nonce_apply first before)
      exact once.trans (ih rest)

/-- An account whose nonce has room for another creation counts it. -/
theorem countCreation {sender : Address} (room : (before.nonce sender).toNat + 1 ≠ UInt64.size) :
    before.Counts [⟨sender, before.nonce sender⟩] (before.apply (.countCreation sender)) where
  nonce_eq address := by
    have counted : (before.nonce sender + 1).toNat = (before.nonce sender).toNat + 1 := by
      have bound := (before.nonce sender).toNat_lt_size
      rw [UInt64.toNat_add, UInt64.toNat_one]
      exact Nat.mod_eq_of_lt (Nat.lt_of_le_of_ne bound room)
    rw [nonce_countCreation, List.countP_singleton]
    by_cases same : sender = address
    · subst same
      simpa using counted
    · simp [same]
  numbered := by
    intro earlier creation later split
    cases earlier with
    | nil =>
        cases split
        rfl
    | cons _ rest => cases rest <;> cases (List.cons.inj split).2

/-- The nonces of one account's creations increase. -/
theorem increasing (counts : before.Counts creations after) :
    creations.Pairwise fun first second =>
      first.sender = second.sender → first.nonce < second.nonce := by
  refine List.pairwise_iff_forall_sublist.mpr fun {first second} sublist same => ?_
  obtain ⟨front, back, rfl, inFront, inBack⟩ := List.cons_sublist_iff.mp sublist
  obtain ⟨earlier, between, rfl⟩ := List.append_of_mem inFront
  obtain ⟨skipped, later, rfl⟩ := List.append_of_mem (List.singleton_sublist.mp inBack)
  have number := counts.numbered earlier first (between ++ (skipped ++ second :: later)) (by simp)
  have number' := counts.numbered (earlier ++ first :: between ++ skipped) second later (by simp)
  rw [List.countP_append, List.countP_append, List.countP_cons_of_pos (by simpa using same)]
    at number'
  rw [same] at number
  rw [UInt64.lt_iff_toNat_lt]
  omega

/-- No two of the creations hashed the same bytes. -/
theorem nodup_preimages (counts : before.Counts creations after) :
    (creations.map Creation.preimage).Nodup := by
  rw [List.Nodup, List.pairwise_map]
  refine counts.increasing.imp fun {first second} increases same => ?_
  have equal := Creation.preimage_inj.mp same
  have less := increases (congrArg Creation.sender equal)
  rw [equal] at less
  exact UInt64.lt_irrefl _ less

end Counts

end World

namespace Message

/-- The creations that are counted when the frame of a message opens in a world. -/
def creations (message : Message) (world : World) : List Creation :=
  if message.kind = .create then [message.creation world] else []

variable {message : Message} {world : World}

theorem counts_opening (counted : ¬ message.Overflows world) :
    world.Counts (message.creations world) (world.applyAll (message.opening world)) := by
  have paid (world' : World) : world'.Counts [] (world'.applyAll (message.payment world)) := by
    refine .applyAll fun change member => ?_
    rw [payment] at member
    split at member
    · rw [List.mem_singleton.mp member]
      rfl
    · cases member
  rw [opening, World.applyAll_append, creations, counting]
  split
  · rename_i plain
    have room : (world.nonce message.sender).toNat + 1 ≠ UInt64.size :=
      fun full => counted ⟨plain, full⟩
    exact (World.Counts.countCreation room).trans (paid _)
  · exact paid world

theorem counts_closing (output : Bytes) (after : World) :
    after.Counts [] (after.applyAll (message.closing world output)) := by
  refine .applyAll fun change member => ?_
  rw [closing] at member
  split at member
  · rw [List.mem_singleton.mp member]
    rfl
  · cases member

/-- The account for which the code of a creation runs is the one that its sender's
nonce determines. -/
theorem map_accounts_creations :
    (message.creations world).map Creation.accounts =
      if message.kind = .create then
        [(message.sender, some (message.started world).recipient)]
      else [] := by
  rw [creations]
  split
  · rename_i plain
    have creates : message.kind.isCreate = true := by rw [plain]; rfl
    rw [started, if_pos creates, target_eq creates, preimage_of_create plain]
    rfl
  · rfl

end Message

theorem HostMethod.isCount_changes (method : HostMethod) (world : World) :
    ∀ change ∈ method.changes world, change.isCount = false := by
  cases method with
  | setStorage | emitLog | accessAccount | accessStorage =>
      exact List.forall_mem_singleton.mpr rfl
  | selfdestruct address beneficiary =>
      rw [changes, MockAction.destruction]
      split
      · exact List.forall_mem_singleton.mpr rfl
      · exact List.forall_mem_cons.mpr ⟨rfl, List.forall_mem_singleton.mpr rfl⟩
  | _ => exact List.forall_mem_nil _

end VmBridge
