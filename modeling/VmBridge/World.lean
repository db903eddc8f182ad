import VmBridge.Message
import VmBridge.Table

/-!
# The world of accounts

A small in-memory world: accounts with balance, nonce, code and storage, the
accounts marked for destruction, what has been accessed, and the logs emitted
so far.  The world changes through `Change` values only, so a history of
changes determines the world that it leads to.
-/

namespace VmBridge

/-- One account.  A slot that is not stored reads as zero. -/
structure Account where
  balance : Word
  nonce : UInt64
  code : Bytes
  storage : Table Word Word
deriving Inhabited

/-- The state that executions act on. -/
structure World where
  accounts : Table Address Account
  destructed : List Address
  warmAccounts : List Address
  warmSlots : List (Address × Word)
  /-- The logs emitted so far, the newest first. -/
  newestLogs : List ContractLog
deriving Inhabited

/-- One change of the world. -/
inductive Change where
  /-- Write a storage slot, creating the account if needed. -/
  | writeSlot (address : Address) (key : Word) (value : Word)
  /-- Move an amount that the sender can pay. -/
  | transfer (sender : Address) (receiver : Address) (amount : Nat)
  | countCreation (sender : Address)
  | deployCode (address : Address) (code : Bytes)
  | markDestructed (address : Address)
  | warmAccount (address : Address)
  | warmSlot (address : Address) (key : Word)
  | appendLog (log : ContractLog)
deriving DecidableEq

namespace Account

def slot (account : Account) (key : Word) : Word := account.storage.getD key (.zero 32)

/-- Write a slot; the zero word is written by storing nothing. -/
def writeSlot (account : Account) (key value : Word) : Account :=
  { account with
    storage :=
      if value = .zero 32 then account.storage.erase key
      else account.storage.insert key value }

def debit (account : Account) (amount : Nat) : Account :=
  { account with balance := .ofNat 32 (account.balance.toNat - amount) }

/-- Add an amount to the balance, which keeps its low 256 bits. -/
def credit (account : Account) (amount : Nat) : Account :=
  { account with balance := .ofNat 32 (account.balance.toNat + amount) }

end Account

namespace World

/-- The account at an address, blank if there is none. -/
def account (world : World) (address : Address) : Account :=
  world.accounts.getD address default

/-- Change the account at an address, creating it if needed. -/
def update (world : World) (address : Address) (change : Account → Account) : World :=
  { world with accounts := world.accounts.insert address (change (world.account address)) }

/-- The number that the balance of an address writes. -/
def balance (world : World) (address : Address) : Nat :=
  (world.account address).balance.toNat

def code (world : World) (address : Address) : Bytes := (world.account address).code

def slot (world : World) (address : Address) (key : Word) : Word :=
  (world.account address).slot key

/-- The world after a change. -/
def apply (world : World) : Change → World
  | .writeSlot address key value => world.update address (·.writeSlot key value)
  | .transfer sender receiver amount =>
      (world.update sender (·.debit amount)).update receiver (·.credit amount)
  | .countCreation sender =>
      world.update sender fun account => { account with nonce := account.nonce + 1 }
  | .deployCode address code => world.update address fun account => { account with code }
  | .markDestructed address =>
      { world with destructed := world.destructed.insert address }
  | .warmAccount address =>
      { world with warmAccounts := world.warmAccounts.insert address }
  | .warmSlot address key =>
      { world with warmSlots := world.warmSlots.insert (address, key) }
  | .appendLog log => { world with newestLogs := log :: world.newestLogs }

def logs (world : World) : List ContractLog := world.newestLogs.reverse

@[simp] theorem logs_apply_appendLog (world : World) (log : ContractLog) :
    (world.apply (.appendLog log)).logs = world.logs ++ [log] := by
  simp [logs, apply]

/-- Go back to a snapshot.  The logs are not part of snapshots: they are cut
back to as many as there were. -/
def rolledBack (world snapshot : World) : World :=
  let surplus := world.newestLogs.length - snapshot.newestLogs.length
  { snapshot with newestLogs := world.newestLogs.drop surplus }

/-- Where logs have only been appended since, going back restores everything. -/
theorem rolledBack_eq {world snapshot : World}
    (appended : snapshot.newestLogs <:+ world.newestLogs) :
    world.rolledBack snapshot = snapshot := by
  rw [rolledBack, ← List.suffix_iff_eq_drop.mp appended]

/-- How writing a value to a slot is reported. -/
def writeStatus (current value : Word) : StorageStatus :=
  if current = value then .assigned
  else if current = .zero 32 then .added
  else if value = .zero 32 then .deleted
  else .modified

end World

end VmBridge
