import VmBridge.Proofs.ExecutionTermination

/-!
# Static code only reads

The context never looks whether a message is static.  That static code leaves
the accounts, the destructed ones among them and the logs as they are follows
from what the example VM asks for: no writing method, and nested messages only
that are static too, create nothing and move no value.
-/

namespace VmBridge

/-- The executed code is static. -/
def Actor.IsStatic : Actor → Prop
  | .outsider => False
  | .code message => message.isStatic = true

namespace Message

/-- What static code sends is static, and opening and closing its frame changes
nothing. -/
theorem Sends.started_eq {outer inner : Message} (sends : outer.Sends inner)
    (static : outer.isStatic = true) (world : World) : inner.started world = inner := by
  rw [started, if_neg (by simp [(sends.readOnly static).1])]

theorem Sends.opening_eq {outer inner : Message} (sends : outer.Sends inner)
    (static : outer.isStatic = true) (world : World) : inner.opening world = [] := by
  obtain ⟨creates, unvalued⟩ := sends.readOnly static
  have uncounted : inner.counting = [] := by
    rw [counting, if_neg]
    intro kind_eq
    simp [kind_eq, CallKind.isCreate] at creates
  have unpaid : inner.payment world = [] := by
    rw [payment, if_neg]
    rintro ⟨moves, nonzero⟩
    have plain : inner.kind = .call := by simpa [movesValue, creates] using moves
    rw [unvalued plain] at nonzero
    exact nonzero (by decide)
  rw [opening, uncounted, unpaid, List.append_nil]

theorem Sends.closing_eq {outer inner : Message} (sends : outer.Sends inner)
    (static : outer.isStatic = true) (world : World) (output : Bytes) :
    inner.closing world output = [] := by
  rw [closing, if_neg (by simp [(sends.readOnly static).1])]

end Message

namespace World

/-- At most the traces of accesses differ between two worlds. -/
structure SameButAccesses (before after : World) : Prop where
  accounts_eq : after.accounts = before.accounts
  destructed_eq : after.destructed = before.destructed
  logs_eq : after.logs = before.logs

namespace SameButAccesses

theorem refl (world : World) : world.SameButAccesses world := ⟨rfl, rfl, rfl⟩

theorem trans {first second third : World} (start : first.SameButAccesses second)
    (finish : second.SameButAccesses third) : first.SameButAccesses third :=
  ⟨finish.accounts_eq.trans start.accounts_eq, finish.destructed_eq.trans start.destructed_eq,
    finish.logs_eq.trans start.logs_eq⟩

/-- A change that static code may cause is the trace of an access. -/
theorem apply {actor : Actor} (static : actor.IsStatic) {change : Change}
    (permitted : actor.MayCause change) (world : World) :
    world.SameButAccesses (world.apply change) := by
  cases actor with
  | outsider => cases static
  | code message =>
      have writing {condition : Prop} (both : condition ∧ message.isStatic = false) : False :=
        Bool.false_ne_true (both.2.symm.trans static)
      cases change with
      | warmAccount address => exact ⟨rfl, rfl, rfl⟩
      | warmSlot address key => exact ⟨rfl, rfl, rfl⟩
      | writeSlot address key value => exact (writing permitted).elim
      | transfer sender receiver amount => exact (writing permitted).elim
      | markDestructed address => exact (writing permitted).elim
      | appendLog log => exact (writing permitted).elim
      | countCreation sender => exact permitted.elim
      | deployCode address code => exact permitted.elim

end SameButAccesses

/-- A world that evolves for static code keeps everything but the traces of
accesses. -/
theorem Evolves.sameButAccesses {actor : Actor} {before after : World} {events : List Event}
    (evolves : Evolves actor before events after) (static : actor.IsStatic) :
    before.SameButAccesses after := by
  induction evolves with
  | rest | event | undone | unpaid | overflown => exact .refl _
  | append _ _ start finish => exact (start static).trans (finish static)
  | change permitted _ => exact .apply static permitted _
  | @kept actor world _ message _ output asked _ _ ih =>
      cases actor with
      | outsider => cases static
      | code outer =>
          have sends : outer.Sends message := asked
          rw [sends.started_eq static, sends.opening_eq static] at ih
          rw [sends.closing_eq static]
          exact ih (sends.isStatic_eq.trans static)
  | @abandoned actor world _ message _ _ _ _ asked _ _ ih =>
      cases actor with
      | outsider => cases static
      | code outer =>
          have sends : outer.Sends message := asked
          rw [sends.started_eq static, sends.opening_eq static] at ih
          exact ih (sends.isStatic_eq.trans static)

end World

/-- Executing a static message comes to an end, and whatever this end is, only the
traces of accesses and the record of calls can have changed. -/
theorem execute_static (limit : Nat) (vm : Vm Nat) (message : Message) (code : Bytes)
    (before : MockProcess) (isExample : vm.IsExample) (uses : before.hosts.UsesExampleVm)
    (static : message.isStatic = true) :
    (message.spendableGas < limit →
        (execute MockContext.hosting limit vm () message code).Finishes before) ∧
      (execute MockContext.hosting limit vm () message code).Ensures before fun _ after =>
        before.hosts.world.SameButAccesses after.hosts.world ∧
          before.hosts.SameSetting after.hosts := by
  refine ⟨execute_finishes limit vm message code before isExample uses, ?_⟩
  refine (execute_evolves limit vm message code before isExample uses).imp ?_
  rintro _ after ⟨_, _, history, same⟩
  exact ⟨history.sameButAccesses static, same⟩

/-- A context in which the code of the first account tries to write a slot of its
own through the code of the second one. -/
def tempted : MockContext Nat :=
  .onExampleVm [
    (.ofNat 20 1, .running [
      .access (.ofNat 20 2), .plainCall .delegateCall (.ofNat 20 2) 10 []]),
    (.ofNat 20 2, .running [.storeSlot (.ofNat 32 1) (.ofNat 32 7)])]

theorem execute_tempted :
    let message := { Message.calling (.ofNat 20 1) 100 with isStatic := true }
    let code := tempted.world.code (.ofNat 20 1)
    let execution := execute MockContext.hosting 101 ExampleVm.bundled () message code
    execution.Finishes (.initial tempted) ∧
      execution.Ensures (.initial tempted) fun _ after =>
        tempted.world.SameButAccesses after.hosts.world := by
  obtain ⟨finishes, keeps⟩ := execute_static 101 ExampleVm.bundled
    { Message.calling (.ofNat 20 1) 100 with isStatic := true }
    (tempted.world.code (.ofNat 20 1)) (.initial tempted) ExampleVm.isExample_bundled
    (MockContext.usesExampleVm_onExampleVm _) rfl
  exact ⟨finishes (by decide), keeps.imp fun _ _ kept => kept.1⟩

end VmBridge
