import VmBridge.Proofs.ExecutionTermination
import VmBridge.Proofs.PositionalNotation

/-!
# Value is conserved

Balances only change by transfers that their senders cover.  Although a credit
keeps the low 256 bits of a sum only, the total of all balances is the same
afterwards as a number of 256 bits.  If it was below `2 ^ 256`, no credit loses
anything, not even in a frame that is taken back later, and the total is the
same as a natural number.  `serveAll_conserves_totalBalance` says so for all
methods that a mock context serves, one after another, however deeply they nest
and whether or not they fail.
-/

namespace VmBridge

open HostAction

namespace Table

variable {κ ν : Type} [DecidableEq κ]

/-- A value in a table replaces an earlier one in a sum over all values. -/
theorem sum_put (weight : ν → Nat) (key : κ) (value : ν) (entries : List (κ × ν)) :
    ((put key value entries).map fun entry => weight entry.2).sum +
        ((lookup key entries).map weight).getD 0 =
      (entries.map fun entry => weight entry.2).sum + weight value := by
  induction entries with
  | nil => simp [put, lookup]
  | cons entry rest ih =>
      obtain ⟨other, old⟩ := entry
      by_cases same : other = key
      · simp only [put, lookup, same, if_true, List.map_cons, List.sum_cons, Option.map_some,
          Option.getD_some]
        omega
      · simp only [put, lookup, same, if_false, List.map_cons, List.sum_cons]
        omega

theorem weight_le_sum (weight : ν → Nat) (key : κ) (entries : List (κ × ν)) :
    ((lookup key entries).map weight).getD 0 ≤
      (entries.map fun entry => weight entry.2).sum := by
  induction entries with
  | nil => exact Nat.le_refl 0
  | cons entry rest ih =>
      obtain ⟨other, old⟩ := entry
      by_cases same : other = key
      · simp [lookup, same]
      · simp only [lookup, same, if_false, List.map_cons, List.sum_cons]
        omega

end Table

/-- The number that a word holds is kept modulo `2 ^ 256`. -/
theorem Word.toNat_ofNat (value : Nat) :
    (FixedBytes.ofNat 32 value).toNat = value % 2 ^ 256 :=
  FixedBytes.toNat_ofNat 32 value

theorem Word.toNat_lt (word : Word) : word.toNat < 2 ^ 256 :=
  FixedBytes.toNat_lt word

namespace World

/-- The sum of all balances. -/
def totalBalance (world : World) : Nat :=
  (world.accounts.entries.map fun entry => entry.2.balance.toNat).sum

theorem balance_eq (world : World) (address : Address) :
    world.balance address =
      ((Table.lookup address world.accounts.entries).map fun account =>
        account.balance.toNat).getD 0 := by
  rw [balance, account, Table.getD, Table.get?]
  cases Table.lookup address world.accounts.entries with
  | none => rfl
  | some account => rfl

theorem balance_le_totalBalance (world : World) (address : Address) :
    world.balance address ≤ world.totalBalance := by
  rw [balance_eq]
  exact Table.weight_le_sum (fun account : Account => account.balance.toNat) _ _

/-- An update replaces one balance in the total. -/
theorem totalBalance_update (world : World) (address : Address) (change : Account → Account) :
    (world.update address change).totalBalance + world.balance address =
      world.totalBalance + (change (world.account address)).balance.toNat := by
  rw [balance_eq]
  exact Table.sum_put (fun account : Account => account.balance.toNat) _ _ _

/-- A debit that is covered takes its amount out of the total. -/
theorem totalBalance_debit (world : World) {sender : Address} {amount : Nat}
    (covered : amount ≤ world.balance sender) :
    (world.update sender (·.debit amount)).totalBalance + amount = world.totalBalance := by
  have least := (world.account sender).balance.toNat_lt
  have debit_eq : ((world.account sender).debit amount).balance.toNat =
      world.balance sender - amount := by
    rw [Account.debit, Word.toNat_ofNat]
    exact Nat.mod_eq_of_lt (by omega)
  have replaced := world.totalBalance_update sender (·.debit amount)
  rw [debit_eq] at replaced
  omega

/-- The total of two worlds is the same as a number of 256 bits, and as a natural
number if it has no more bits. -/
structure SameTotal (before after : World) : Prop where
  modulo : after.totalBalance % 2 ^ 256 = before.totalBalance % 2 ^ 256
  exactly : before.totalBalance < 2 ^ 256 → after.totalBalance = before.totalBalance

namespace SameTotal

theorem of_eq {before after : World} (same : after.totalBalance = before.totalBalance) :
    before.SameTotal after :=
  ⟨by rw [same], fun _ => same⟩

theorem refl (world : World) : world.SameTotal world := of_eq rfl

theorem trans {first second third : World} (start : first.SameTotal second)
    (finish : second.SameTotal third) : first.SameTotal third := by
  refine ⟨finish.modulo.trans start.modulo, fun below => ?_⟩
  have middle := start.exactly below
  exact (finish.exactly (by omega)).trans middle

theorem update (world : World) (address : Address) (change : Account → Account)
    (keeps : (change (world.account address)).balance = (world.account address).balance) :
    world.SameTotal (world.update address change) := by
  have replaced := world.totalBalance_update address change
  rw [keeps, World.balance] at replaced
  exact of_eq (by omega)

/-- A transfer that is covered moves an amount within the total.  The receiver may
be the sender: its balance is read after the debit. -/
theorem transfer {world : World} {sender receiver : Address} {amount : Nat}
    (covered : amount ≤ world.balance sender) :
    world.SameTotal (world.apply (.transfer sender receiver amount)) := by
  let debited := world.update sender (·.debit amount)
  have taken : debited.totalBalance + amount = world.totalBalance :=
    world.totalBalance_debit covered
  have credit_eq : ((debited.account receiver).credit amount).balance.toNat =
      (debited.balance receiver + amount) % 2 ^ 256 :=
    Word.toNat_ofNat _
  have given := debited.totalBalance_update receiver (·.credit amount)
  rw [credit_eq] at given
  have most := debited.balance_le_totalBalance receiver
  change world.SameTotal (debited.update receiver (·.credit amount))
  constructor
  · omega
  · intro below
    rw [Nat.mod_eq_of_lt (by omega)] at given
    omega

theorem apply {world : World} {change : Change} (covered : world.Covers change) :
    world.SameTotal (world.apply change) := by
  cases change with
  | writeSlot address key value => exact update world address (·.writeSlot key value) rfl
  | transfer sender receiver amount => exact transfer covered
  | countCreation sender =>
      exact update world sender (fun account => { account with nonce := account.nonce + 1 }) rfl
  | deployCode address code => exact update world address (fun account => { account with code }) rfl
  | markDestructed address => exact of_eq rfl
  | warmAccount address => exact of_eq rfl
  | warmSlot address key => exact of_eq rfl
  | appendLog log => exact of_eq rfl

/-- Changes that are covered keep the total. -/
theorem applyAll {world : World} {changes : List Change} (covered : world.CoversAll changes) :
    world.SameTotal (world.applyAll changes) := by
  induction changes generalizing world with
  | nil => exact refl world
  | cons change changes ih => exact (apply covered.1).trans (ih covered.2)

end SameTotal

/-- However a world evolves, the total of its balances stays the same. -/
theorem Evolves.sameTotal {actor : Actor} {before after : World} {events : List Event}
    (evolves : Evolves actor before events after) : before.SameTotal after := by
  induction evolves with
  | rest | event | undone | unpaid | overflown => exact .refl _
  | append _ _ start finish => exact start.trans finish
  | change _ covered => exact .apply covered
  | @kept _ world after message _ output _ paid _ ih =>
      have opening := SameTotal.applyAll (Message.coversAll_opening paid)
      have closing := SameTotal.applyAll (message.coversAll_closing world after output)
      exact (opening.trans ih).trans closing
  | abandoned _ _ _ _ paid _ ih =>
      exact (SameTotal.applyAll (Message.coversAll_opening paid)).trans ih

theorem Reaches.sameTotal {before after : World} {events : List Event}
    (reaches : Reaches before events after) : before.SameTotal after := by
  induction reaches with
  | evolved evolves => exact evolves.sameTotal
  | opened _ _ ih => exact ih
  | append _ _ start finish => exact start.trans finish

/-- The amount that a change credits fits into the balance that it goes to. -/
def Fits (world : World) : Change → Prop
  | .transfer sender receiver amount =>
      (world.update sender (·.debit amount)).balance receiver + amount < 2 ^ 256
  | _ => True

/-- What the sender can pay fits if the total of all balances does. -/
theorem Covers.fits {world : World} {change : Change} (covered : world.Covers change)
    (below : world.totalBalance < 2 ^ 256) : world.Fits change := by
  cases change with
  | transfer sender receiver amount =>
      have taken := world.totalBalance_debit covered
      have most := (world.update sender (·.debit amount)).balance_le_totalBalance receiver
      change (world.update sender (·.debit amount)).balance receiver + amount < 2 ^ 256
      omega
  | _ => trivial

/-- In a history in which the total fits into 256 bits, every credit does. -/
theorem Traces.fits {world : World} {events : List Event} (traces : world.Traces events)
    (below : world.totalBalance < 2 ^ 256) {earlier later : List Event} {change : Change}
    (split : events = earlier ++ .worldChanged change :: later) :
    ∃ reached, world.Reaches earlier reached ∧ reached.Fits change := by
  obtain ⟨reached, reaches, covered⟩ := traces earlier change later split
  have same := reaches.sameTotal.exactly below
  exact ⟨reached, reaches, covered.fits (lt_of_eq_of_lt same below)⟩

end World

namespace MockContext

/-- Serve some methods one after another, whatever they end with. -/
def serveAll (limit : Nat) : List HostMethod → Bridge Unit Nat (MockContext Nat) Unit
  | [] => pure ()
  | method :: rest => do
      let _ ← carryOut (VmBridge.execute hosting limit) (hosting () method)
      serveAll limit rest

/-- Between two states a mock context came as far as the journal tells, and every
change on the way was covered. -/
structure Covered (before after : MockProcess) (events : List Event) : Prop where
  since : before.Since after events
  reaches : before.hosts.world.Reaches events after.hosts.world
  traces : before.hosts.world.Traces events
  uses : after.hosts.UsesExampleVm

theorem serve_covered (limit : Nat) (method : HostMethod) {before : MockProcess}
    (uses : before.hosts.UsesExampleVm) :
    (carryOut (VmBridge.execute hosting limit) (hosting () method)).Ensures before
      fun _ after => ∃ events, Covered before after events := by
  have asked : Actor.outsider.MayAsk method := trivial
  refine (MockAction.hosting_evolves (execute_evolves limit) uses asked).imp ?_
  intro ending after evolves
  cases ending with
  | returned answer =>
      obtain ⟨events, since, history, same⟩ := evolves
      exact ⟨events, since, .evolved history, history.traces, same.usesExampleVm uses⟩
  | faulted fault =>
      obtain ⟨events, since, reaches, completes, same⟩ := evolves
      exact ⟨events, since, reaches, (completes 0 "").traces.of_append, same.usesExampleVm uses⟩

theorem serveAll_covered (limit : Nat) (methods : List HostMethod) {before : MockProcess}
    (uses : before.hosts.UsesExampleVm) :
    (serveAll limit methods).Ensures before fun _ after =>
      ∃ events, Covered before after events := by
  induction methods generalizing before with
  | nil =>
      exact (Bridge.ensures_pure before () _).mpr
        ⟨[], Process.since_nil rfl, .rest _, .nil _, uses⟩
  | cons method rest ih =>
      rw [serveAll, Bridge.ensures_bind]
      refine (serve_covered limit method uses).imp ?_
      rintro _ middle ⟨earlier, first⟩
      refine (ih first.uses).imp ?_
      rintro _ after ⟨later, second⟩
      exact ⟨earlier ++ later, first.since.append second.since,
        first.reaches.append second.reaches,
        first.traces.append first.reaches second.traces, second.uses⟩

theorem serveAll_finishes (limit : Nat) (methods : List HostMethod) {before : MockProcess}
    (uses : before.hosts.UsesExampleVm)
    (enough : ∀ message, .call message ∈ methods → message.spendableGas < limit) :
    (serveAll limit methods).Finishes before := by
  induction methods generalizing before with
  | nil => rfl
  | cons method rest ih =>
      rw [serveAll, Bridge.finishes_bind]
      constructor
      · exact MockAction.hosting_finishes (execute_finishes limit) uses fun message same =>
          enough message (by simp [same])
      · refine (serve_covered limit method uses).imp ?_
        rintro _ middle ⟨_, first⟩
        exact ih first.uses fun message member =>
          enough message (List.mem_cons_of_mem method member)

/-- Whatever methods a mock context serves one after another, with nested
messages of all kinds and whether or not they fail, they come to an end and
leave the total of all balances as it was.  If it has 256 bits, no credit on
the way wraps, whether or not it is taken back later. -/
theorem serveAll_conserves_totalBalance (limit : Nat) (methods : List HostMethod)
    (before : MockProcess) (uses : before.hosts.UsesExampleVm) :
    ((∀ message, .call message ∈ methods → message.spendableGas < limit) →
        (serveAll limit methods).Finishes before) ∧
      (serveAll limit methods).Ensures before fun _ after =>
        after.hosts.world.totalBalance % 2 ^ 256 =
            before.hosts.world.totalBalance % 2 ^ 256 ∧
          (before.hosts.world.totalBalance < 2 ^ 256 →
            after.hosts.world.totalBalance = before.hosts.world.totalBalance ∧
            ∃ events, before.Since after events ∧ ∀ earlier change later,
              events = earlier ++ .worldChanged change :: later →
                ∃ reached, before.hosts.world.Reaches earlier reached ∧
                  reached.Fits change) := by
  refine ⟨serveAll_finishes limit methods uses, (serveAll_covered limit methods uses).imp ?_⟩
  rintro _ after ⟨events, covered⟩
  have same := covered.reaches.sameTotal
  refine ⟨same.modulo, fun below => ⟨same.exactly below, events, covered.since, ?_⟩⟩
  intro earlier change later split
  exact covered.traces.fits below split

/-- A context with two accounts, of which the first gives up what it has when it
is called. -/
def destructible : MockContext Nat :=
  onExampleVm [
    (.ofNat 20 1,
      { Account.running [.selfdestruct (.ofNat 20 2)] with balance := .ofNat 32 5 }),
    (.ofNat 20 2, { (default : Account) with balance := .ofNat 32 7 })]

/-- The second account pays the first one, which gives everything back, and then
gives it to a new one. -/
def payments : List HostMethod := [
  .call { Message.calling (.ofNat 20 1) 100 with
    sender := .ofNat 20 2
    value := .ofNat 32 3 },
  .selfdestruct (.ofNat 20 2) (.ofNat 20 3)]

theorem serveAll_payments :
    (serveAll 101 payments).Finishes (.initial destructible) ∧
      (serveAll 101 payments).Ensures (.initial destructible) fun _ after =>
        after.hosts.world.totalBalance = 12 := by
  obtain ⟨finishes, conserves⟩ := serveAll_conserves_totalBalance 101 payments
    (.initial destructible) (usesExampleVm_onExampleVm _)
  have total : destructible.world.totalBalance = 12 := by decide +kernel
  refine ⟨finishes ?_, conserves.imp fun _ after conserved => ?_⟩
  · intro message member
    simp only [payments, List.mem_cons, HostMethod.call.injEq, reduceCtorEq, List.not_mem_nil,
      or_false] at member
    rw [member]
    decide
  · exact (conserved.2 (lt_of_eq_of_lt total (by decide))).1.trans total

end MockContext

end VmBridge
