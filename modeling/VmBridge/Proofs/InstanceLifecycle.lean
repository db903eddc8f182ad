import VmBridge.Proofs.Configurations
import VmBridge.Proofs.ExecutionSteps

/-!
# The life of an instance

A VM is adopted, loaded or loaded with a configuration, then used, and at last let
go.  Each of these passes milestones: a library is asked for, an instance is created,
its native functions are called, it is destroyed, and its library is given up.

`loading_lifecycle` gives all milestones in their order.  Whatever fails on the way,
what was acquired is given up by the end of the load, the instance before its
library.  A load that does not fail gives nothing up.  Its instance and its library
stay until the handle is let go, and only then are they given up, in that order.
-/

namespace VmBridge

variable {κ ν σ α β : Type}

namespace Process

/-- Between two states native functions of certain providers were called.  Nothing
was acquired and nothing was given up. -/
def OnlyCalls (allowed : Provider → Prop) (before after : Process κ ν σ) : Prop :=
  ∃ calls, (∀ call ∈ calls, ∃ provider, allowed provider ∧ call = .called provider) ∧
    before.Passes after calls

namespace OnlyCalls

variable {allowed : Provider → Prop} {before middle after : Process κ ν σ}

theorem of_journal_eq (same : after.journal = before.journal) : OnlyCalls allowed before after :=
  ⟨[], by simp, [], since_nil same, rfl⟩

theorem trans (start : OnlyCalls allowed before middle) (finish : OnlyCalls allowed middle after) :
    OnlyCalls allowed before after := by
  obtain ⟨calls, called, passes⟩ := start
  obtain ⟨others, called', passes'⟩ := finish
  exact ⟨_, List.forall_mem_append.mpr ⟨called, called'⟩, passes.trans passes'⟩

theorem of_since {events : List Event} (since : before.Since after events)
    (calls : ∀ event ∈ events, ∀ milestone, event.milestone? = some milestone →
      ∃ provider, allowed provider ∧ milestone = .called provider) :
    OnlyCalls allowed before after := by
  refine ⟨_, ?_, events, since, rfl⟩
  intro milestone member
  obtain ⟨event, event_mem, event_eq⟩ := List.mem_filterMap.mp member
  exact calls event event_mem milestone event_eq

theorem journaled {event : Event} (silent : event.milestone? = none) (process : Process κ ν σ) :
    OnlyCalls allowed process (process.journaled event) := by
  refine of_since (since_journaled process event) ?_
  rintro other member milestone passed
  rw [List.mem_singleton.mp member, silent] at passed
  cases passed

end OnlyCalls

end Process

section Options

variable {vm : Vm ν} {before : Process κ ν σ}

theorem forwardOption_onlyCalls (name value : String) :
    (vm.forwardOption name value).Ensures before fun _ after =>
      before.OnlyCalls (· = vm.native.provider) after := by
  rw [Vm.forwardOption]
  cases vm.native.setOption with
  | none => exact (Bridge.ensures_pure before _ _).mpr (.of_journal_eq rfl)
  | some run =>
      dsimp only
      split
      · simp only [Bridge.ensures_bind, Bridge.ensures_record, Bridge.ensures_pure]
        exact .journaled rfl before
      · split
        · simp only [Bridge.ensures_bind, Bridge.ensures_record, Bridge.ensures_pure]
          exact .journaled rfl before
        · simp only [Bridge.ensures_bind, Bridge.ensures_get, Bridge.ensures_record,
            Bridge.ensures_setPrivateState]
          have offered : before.OnlyCalls (· = vm.native.provider)
              (before.offered vm run name value) := by
            refine ⟨[.called vm.native.provider], by simp, ?_⟩
            exact ⟨[.optionForwarded vm.native.provider (textBytes name) (textBytes value)],
              rfl, rfl⟩
          cases OptionAnswer.ofRaw
              (run (before.privateState vm) (textBytes name) (textBytes value)).1 with
          | ok answer =>
              simp only [Bridge.ensures_bind, Bridge.ensures_record, Bridge.ensures_pure]
              exact offered.trans (.journaled rfl _)
          | error raw => exact (Bridge.ensures_pure _ _ _).mpr offered

theorem setOption_onlyCalls (name value : String) :
    (vm.setOption name value).Ensures before fun _ after =>
      before.OnlyCalls (· = vm.native.provider) after := by
  rw [Vm.setOption, Bridge.ensures_bind]
  refine (forwardOption_onlyCalls name value).imp fun answer middle calls => ?_
  cases answer with
  | ok answer => exact (Bridge.ensures_pure middle _ _).mpr calls
  | error raw =>
      simp only [Bridge.ensures_bind, Bridge.ensures_record, Bridge.ensures_pure]
      exact calls.trans (.journaled rfl middle)

theorem applyOption_onlyCalls (path : String) (option : List Char) :
    (applyOption vm path option).Ensures before fun _ after =>
      before.OnlyCalls (· = vm.native.provider) after := by
  rw [applyOption, Bridge.ensures_bind]
  refine (forwardOption_onlyCalls _ _).imp fun answer middle calls => ?_
  split <;> exact (Bridge.ensures_pure middle _ _).mpr calls

theorem applyOptions_onlyCalls (path : String) (options : List Char) :
    (applyOptions vm path options).Ensures before fun _ after =>
      before.OnlyCalls (· = vm.native.provider) after := by
  fun_induction applyOptions vm path options generalizing before with
  | case1 => exact (Bridge.ensures_pure before _ _).mpr (.of_journal_eq rfl)
  | case2 options nonempty supported ih =>
      rw [Bridge.ensures_bind]
      refine (applyOption_onlyCalls path _).imp fun verdict middle calls => ?_
      cases verdict with
      | ok _ => exact ih.imp fun _ after later => calls.trans later
      | error error => exact (Bridge.ensures_pure middle _ _).mpr calls
  | case3 => exact (Bridge.ensures_pure before _ _).mpr (.of_journal_eq rfl)

end Options

section Executions

abbrev AnyProvider (_ : Provider) : Prop := True

variable {hosting : Hosting κ ν σ} {nested : Executor κ ν σ} {before : Process κ ν σ}

/-- Executions call native functions, and acquire and give up nothing. -/
def ExecutesOnly (nested : Executor κ ν σ) : Prop :=
  ∀ vm host message code before, (nested vm host message code).Ensures before fun _ after =>
    before.OnlyCalls AnyProvider after

theorem Event.milestone?_of_byNativeCode (event : NativeEvent) : event.val.milestone? = none := by
  obtain ⟨event, native⟩ := event
  cases event <;> first | rfl | cases native

theorem Event.milestone?_of_byHost (event : HostEvent) : event.val.milestone? = none := by
  obtain ⟨event, byHost⟩ := event
  cases event <;> first | rfl | cases byHost

theorem runHost_onlyCalls (nestedOnly : ExecutesOnly nested) (run : HostRun κ ν σ α) :
    (runHost nested run).Ensures before fun _ after => before.OnlyCalls AnyProvider after := by
  induction run generalizing before with
  | done ending state =>
      simp only [runHost, Bridge.ensures_bind, Bridge.ensures_setHosts, Bridge.ensures_pure]
      exact .of_journal_eq rfl
  | note event rest ih =>
      simp only [runHost, Bridge.ensures_bind, Bridge.ensures_record]
      have noted : before.OnlyCalls AnyProvider (before.journaled event.val) :=
        .journaled (Event.milestone?_of_byHost event) before
      exact ih.imp fun _ after later => noted.trans later
  | execute vm host message code state resume ih =>
      simp only [runHost, Bridge.ensures_bind, Bridge.ensures_setHosts, Bridge.ensures_get]
      have replaced : before.OnlyCalls AnyProvider { before with hosts := state } :=
        .of_journal_eq rfl
      refine (nestedOnly vm host message code _).imp fun ending middle executed => ?_
      exact (ih ending middle.hosts).imp fun _ after later =>
        (replaced.trans executed).trans later

theorem deliver_onlyCalls (nestedOnly : ExecutesOnly nested) (handle : Nat) (request : Request) :
    (deliver hosting nested handle request).Ensures before fun _ after =>
      before.OnlyCalls AnyProvider after := by
  have requested : before.OnlyCalls AnyProvider
      (before.journaled (.requested request.name handle)) := .journaled rfl before
  refine ensures_deliver (requested.trans (.journaled rfl _))
    (fun error _ => requested.trans (.journaled rfl _)) ?_
  intro host delivery _ _
  have announced : before.OnlyCalls AnyProvider
      ((before.journaled (.requested request.name handle)).announced delivery.method) := by
    refine requested.trans (.of_since (Process.since_announced _ _) ?_)
    intro event member milestone passed
    obtain ⟨message, rfl⟩ := Process.mem_announcing member
    cases passed
  refine (runHost_onlyCalls nestedOnly _).imp fun ending after later => ?_
  cases ending with
  | returned answer => exact announced.trans later
  | faulted fault =>
      have parked : after.OnlyCalls AnyProvider (after.parked handle fault request.name.text) :=
        .journaled rfl _
      exact (announced.trans later).trans parked

theorem begun_onlyCalls (vm : Vm ν) (run : NativeExecute ν) (host : κ) (message : Message)
    (code : Bytes) : before.OnlyCalls AnyProvider (before.begun vm run host message code) := by
  refine .of_since (before.since_begun vm run host message code) ?_
  intro event member milestone passed
  rcases Process.mem_beginning member with rfl | rfl | ⟨_, _, _, _, rfl⟩
  · cases passed
  · cases passed
  · cases passed
    exact ⟨_, trivial, rfl⟩

theorem concluded_onlyCalls (handle : Nat) (native : NativeResult) :
    before.OnlyCalls AnyProvider (before.concluded handle native).2 := by
  refine .of_since (before.since_concluded handle native) ?_
  intro event member milestone passed
  rcases Process.mem_concluding member with rfl | ⟨_, rfl⟩ | rfl | rfl <;> cases passed

theorem execute_onlyCalls (hosting : Hosting κ ν σ) (limit : Nat) :
    ExecutesOnly (execute hosting limit) := by
  induction limit with
  | zero => exact fun _ _ _ _ _ _ _ finished => nomatch finished
  | succ limit ih =>
      intro vm host message code before
      rw [execute]
      cases executes : vm.native.execute with
      | none =>
          exact (Bridge.ensures_of_apply (executeWith_unsupported executes) _).mpr
            (.journaled rfl before)
      | some run =>
          rw [ensures_executeWith executes]
          let start := before.begun vm run host message code
          have begun : before.OnlyCalls AnyProvider start :=
            begun_onlyCalls vm run host message code
          have ran : (runNative hosting (execute hosting limit)
              (before.course vm run message code)).Ensures start fun _ middle =>
                True ∧ start.OnlyCalls AnyProvider middle := runNative_keeps
            (fun process event calls =>
              calls.trans (.journaled (Event.milestone?_of_byNativeCode event) process))
            (fun process handle request _ calls =>
              (deliver_onlyCalls ih handle request).imp fun _ after later => calls.trans later)
            (before.course vm run message code).obeys_any (.of_journal_eq rfl)
          exact ran.imp fun native middle calls =>
            (begun.trans calls.2).trans (concluded_onlyCalls _ native)

end Executions

/-- A way of getting hold of a VM. -/
inductive Loading (ν : Type) where
  | adopt (create : CreateFunction ν)
  | load (opener : Opener ν) (path : String)
  | configure (opener : Opener ν) (configuration : String)

namespace Loading

def run : Loading ν → Bridge κ ν σ (Except LoaderError (Vm ν))
  | adopt create => VmBridge.adopt create
  | load opener path => VmBridge.load opener path
  | configure opener configuration => loadAndConfigure opener configuration

/-- What there is to get hold of. -/
def provision : Loading ν → Provision ν
  | adopt create => ⟨none, none, some create⟩
  | load opener path => opener.provision path
  | configure opener configuration =>
      if configuration.utf8ByteSize < maxPathLength then
        opener.provision (Configuration.ofText configuration).path
      else ⟨none, none, none⟩

end Loading

inductive Use (κ ν σ : Type) where
  | capabilities
  | setOption (name value : String)
  | execute (hosting : Hosting κ ν σ) (limit : Nat) (host : κ) (message : Message) (code : Bytes)

def Use.run (vm : Vm ν) : Use κ ν σ → Bridge κ ν σ Unit
  | capabilities => do
      let _ ← vm.capabilities
      pure ()
  | setOption name value => do
      let _ ← vm.setOption name value
      pure ()
  | execute hosting limit host message code => do
      let _ ← VmBridge.execute hosting limit vm host message code
      pure ()

def Vm.useAll (vm : Vm ν) : List (Use κ ν σ) → Bridge κ ν σ Unit
  | [] => pure ()
  | use :: uses => do
      use.run vm
      vm.useAll uses

/-- A way of letting a handle go. -/
inductive Disposal where
  | direct
  /-- As a shared handle. -/
  | shared
  /-- After it was shared and taken back. -/
  | takenBack

def Disposal.run (vm : Vm ν) : Disposal → Bridge κ ν σ Unit
  | direct => vm.destroy
  | shared => (SharedVm.mk vm).destroy
  | takenBack => (SharedVm.mk vm).inner.destroy

theorem Process.OnlyCalls.any {allowed : Provider → Prop} {before after : Process κ ν σ}
    (calls : before.OnlyCalls allowed after) : before.OnlyCalls AnyProvider after := by
  obtain ⟨calls, called, passes⟩ := calls
  refine ⟨calls, fun call member => ?_, passes⟩
  obtain ⟨provider, _, call_eq⟩ := called call member
  exact ⟨provider, trivial, call_eq⟩

theorem Vm.capabilities_apply (vm : Vm ν) (before : Process κ ν σ) :
    ∃ features, vm.capabilities before = some (features, before) := by
  rw [capabilities, Bridge.bind_apply, Bridge.get_apply, Option.bind_some]
  cases vm.native.capabilities <;> exact ⟨_, rfl⟩

theorem Use.run_onlyCalls (vm : Vm ν) (use : Use κ ν σ) (before : Process κ ν σ) :
    (use.run vm).Ensures before fun _ after => before.OnlyCalls AnyProvider after := by
  cases use with
  | capabilities =>
      obtain ⟨features, reported⟩ := vm.capabilities_apply before
      rw [run, Bridge.ensures_bind, Bridge.ensures_of_apply reported, Bridge.ensures_pure]
      exact .of_journal_eq rfl
  | setOption name value =>
      rw [run, Bridge.ensures_bind]
      refine (setOption_onlyCalls name value).imp fun _ after calls => ?_
      exact (Bridge.ensures_pure after _ _).mpr calls.any
  | execute hosting limit host message code =>
      rw [run, Bridge.ensures_bind]
      refine (execute_onlyCalls hosting limit vm host message code before).imp
        fun _ after calls => ?_
      exact (Bridge.ensures_pure after _ _).mpr calls

theorem Vm.useAll_onlyCalls (vm : Vm ν) (uses : List (Use κ ν σ)) (before : Process κ ν σ) :
    (vm.useAll uses).Ensures before fun _ after => before.OnlyCalls AnyProvider after := by
  induction uses generalizing before with
  | nil => exact (Bridge.ensures_pure before _ _).mpr (.of_journal_eq rfl)
  | cons use uses ih =>
      rw [useAll, Bridge.ensures_bind]
      refine (use.run_onlyCalls vm before).imp fun _ middle calls => ?_
      exact (ih middle).imp fun _ after later => calls.trans later

/-- Only valid paths are asked for. -/
theorem Loading.validPath_of_asked {loading : Loading ν} {asked : LibrarySource × String}
    (asks : loading.provision.asked = some asked) : ValidPath asked.2 := by
  have of_opener (opener : Opener ν) (path : String)
      (asks : (opener.provision path).asked = some asked) : ValidPath asked.2 := by
    rw [Opener.provision] at asks
    split at asks
    · rename_i valid
      split at asks <;> (cases asks; exact valid)
    · cases asks
  cases loading with
  | adopt create => cases asks
  | load opener path => exact of_opener opener path asks
  | configure opener configuration =>
      rw [provision] at asks
      split at asks
      · exact of_opener opener _ asks
      · cases asks

/-- Options are set between the acquisition of everything and the end of a load. -/
theorem Provision.Loads.configured {provision : Provision ν} {vm : Vm ν}
    {before middle after : Process κ ν σ} (loads : provision.Loads [] before middle (.ok vm))
    (calls : middle.OnlyCalls (· = vm.native.provider) after) :
    ∃ calls, (∀ call ∈ calls, provision.Calls call) ∧
      provision.Loads calls before after (.ok vm) ∧
      ∀ error, provision.Loads calls before (after.journaledAll vm.ending) (.error error) := by
  obtain _ | ⟨created, held, version, passes⟩ := loads
  obtain ⟨calls, called, passes'⟩ := calls
  rw [List.append_nil] at passes
  have acquired := passes.trans passes'
  have ended := after.passes_journaledAll vm.ending
  rw [milestones_ending created held] at ended
  refine ⟨calls, fun call member => ?_, .loaded created held version acquired,
    fun error => .failed (acquired.trans ended)⟩
  obtain ⟨provider, rfl, call_eq⟩ := called call member
  exact ⟨vm.native, created, call_eq⟩

theorem Loading.run_loads (loading : Loading ν) (before : Process κ ν σ) :
    ∃ outcome after calls, loading.run before = some (outcome, after) ∧
      (∀ call ∈ calls, loading.provision.Calls call) ∧
      loading.provision.Loads calls before after outcome := by
  cases loading with
  | adopt create =>
      obtain ⟨outcome, after, made, loads⟩ := instantiate_loads create none staticOrigin before
      exact ⟨outcome, after, [], made, by simp, loads⟩
  | load opener path =>
      obtain ⟨outcome, after, loaded, loads⟩ := load_loads opener path before
      exact ⟨outcome, after, [], loaded, by simp, loads⟩
  | configure opener configuration =>
      rw [run, provision]
      by_cases short : configuration.utf8ByteSize < maxPathLength
      · rw [if_pos short]
        obtain ⟨outcome, middle, loaded, loads⟩ :=
          load_loads opener (Configuration.ofText configuration).path before
        cases outcome with
        | error error =>
            exact ⟨_, _, [], loadAndConfigure_unloaded short loaded, by simp, loads⟩
        | ok vm =>
            obtain ⟨verdict, after, _, _, applied, _⟩ := applyOptions_concurs vm
              (Configuration.ofText configuration).path
              (splitFirst ',' configuration.toList).2 middle
            obtain ⟨calls, called, accepted, refused⟩ :=
              loads.configured (applyOptions_onlyCalls _ _ verdict after applied)
            rw [loadAndConfigure_loaded short loaded, applied]
            cases verdict with
            | ok _ => exact ⟨_, _, calls, rfl, called, accepted⟩
            | error error => exact ⟨_, _, calls, rfl, called, refused error⟩
      · rw [if_neg short, loadAndConfigure_long (Nat.not_lt.mp short)]
        exact ⟨_, _, [], rfl, by simp, .failed ⟨[], rfl, rfl⟩⟩

theorem Disposal.run_apply (disposal : Disposal) (vm : Vm ν) (before : Process κ ν σ) :
    disposal.run vm before = some ((), before.journaledAll vm.ending) := by
  cases disposal <;> exact vm.destroy_apply before

/-- A load, the uses of what was loaded, and its end.  The create function is called
at most once.  A load that fails gives up what it acquired, the instance before its
library.  A load that does not fail has an instance of the right version, which is
destroyed when its handle is let go, and not before, and then its library is given
up.  Only valid paths reach the opener. -/
theorem loading_lifecycle (loading : Loading ν) (before : Process κ ν σ) :
    (∀ asked, loading.provision.asked = some asked → ValidPath asked.2) ∧
    ∃ outcome after calls, loading.run before = some (outcome, after) ∧
      (∀ call ∈ calls, loading.provision.Calls call) ∧
      loading.provision.Loads calls before after outcome ∧
      ∀ vm, outcome = .ok vm → ∀ (uses : List (Use κ ν σ)) (used : Process κ ν σ),
        vm.useAll uses after = some ((), used) → ∀ disposal : Disposal,
        ∃ final others, disposal.run vm used = some ((), final) ∧
          (∀ other ∈ others, ∃ provider, other = .called provider) ∧
          after.Passes used others ∧ used.Passes final loading.provision.givingUp := by
  refine ⟨fun asked asks => loading.validPath_of_asked asks, ?_⟩
  obtain ⟨outcome, after, calls, loaded, called, loads⟩ := loading.run_loads before
  refine ⟨outcome, after, calls, loaded, called, loads, ?_⟩
  rintro vm rfl uses used finished disposal
  obtain ⟨others, called', passes⟩ := vm.useAll_onlyCalls uses after () used finished
  obtain _ | ⟨created, held, _, _⟩ := loads
  have ended := used.passes_journaledAll vm.ending
  rw [milestones_ending created held] at ended
  refine ⟨_, others, disposal.run_apply vm used, fun other member => ?_, passes, ended⟩
  obtain ⟨provider, _, other_eq⟩ := called' other member
  exact ⟨provider, other_eq⟩

/-- An example VM of an older version of the interface. -/
def outdatedVm : NativeVm Nat := { ExampleVm.instanceOf .platform with interfaceVersion := 9 }

/-- An opener that finds an outdated VM in every library. -/
def outdatedOpener : Opener Nat where
  source := .platform
  openLibrary _ := .ok ⟨fun _ => some ⟨.platform, some outdatedVm⟩⟩

/-- An opener that finds the example VM in every library. -/
def currentOpener : Opener Nat where
  source := .platform
  openLibrary _ := .ok ⟨fun _ => some (ExampleVm.createFunction .platform)⟩

/-- A VM tells what it can do, takes an option and executes a message without code. -/
def someUses : List (Use Unit Nat Unit) :=
  [.capabilities, .setOption "verbose" "1",
    .execute (fun _ _ => HostAction.fail .wordless) 2 () default []]

theorem exists_useAll_current :
    ∃ vm loaded used, loadAndConfigure currentOpener "@EXAMPLE,verbose=1"
          (.initial () : Process Unit Nat Unit) = some (.ok vm, loaded) ∧
        vm.useAll someUses loaded = some ((), used) := by
  have finishes : ((do
      match ← loadAndConfigure currentOpener "@EXAMPLE,verbose=1" with
      | .ok vm => vm.useAll someUses
      | .error _ => fun _ => none : Bridge Unit Nat Unit Unit) (.initial ())).isSome = true := by
    decide +kernel
  obtain ⟨used, finished⟩ := Option.isSome_iff_exists.mp finishes
  rw [Bridge.bind_apply, Option.bind_eq_some_iff] at finished
  obtain ⟨⟨outcome, loaded⟩, ran, finished⟩ := finished
  cases outcome with
  | ok vm => exact ⟨vm, loaded, _, ran, finished⟩
  | error error => cases finished

/-- An outdated VM is destroyed by the end of its load, and then its library is given up.  A
VM of the current version is loaded with an option, used, shared and taken back, and
only then destroyed, before its library is given up. -/
theorem lifecycles_of_outdated_of_current :
    (∃ error after calls, load outdatedOpener "@EXAMPLE" (.initial () : Process Unit Nat Unit) =
        some (.error error, after) ∧
      (∀ call ∈ calls, call = .called .platform) ∧
      Process.Passes (.initial ()) after
        ([.opened .platform "@EXAMPLE", .created .platform] ++ calls ++
          [.destroyed .platform, .unloaded .platform])) ∧
    ∃ vm loaded used final calls others,
      loadAndConfigure currentOpener "@EXAMPLE,verbose=1"
          (.initial () : Process Unit Nat Unit) = some (.ok vm, loaded) ∧
        vm.useAll someUses loaded = some ((), used) ∧
        Disposal.takenBack.run vm used = some ((), final) ∧
        (∀ call ∈ calls, call = .called .platform) ∧
        (∀ other ∈ others, ∃ provider, other = .called provider) ∧
        Process.Passes (.initial ()) loaded
          ([.opened .platform "@EXAMPLE", .created .platform] ++ calls) ∧
        loaded.Passes used others ∧
        used.Passes final [.destroyed .platform, .unloaded .platform] := by
  have valid : ValidPath "@EXAMPLE" := by decide +kernel
  constructor
  · have provision_eq : (Loading.load outdatedOpener "@EXAMPLE").provision =
        ⟨some (.platform, "@EXAMPLE"), some .platform, some ⟨.platform, some outdatedVm⟩⟩ := by
      rw [Loading.provision, Opener.provision, if_pos valid]
      rfl
    obtain ⟨-, outcome, after, calls, loaded, called, loads, -⟩ :=
      loading_lifecycle (.load outdatedOpener "@EXAMPLE") (.initial () : Process Unit Nat Unit)
    rw [provision_eq] at called loads
    cases loads with
    | failed passes =>
        refine ⟨_, after, calls, loaded, fun call member => ?_, passes⟩
        obtain ⟨native, created, call_eq⟩ := called call member
        cases created
        exact call_eq
    | loaded created held version passes =>
        rw [← Option.some.inj created] at version
        exact absurd version (by decide)
  · have provision_eq : (Loading.configure currentOpener "@EXAMPLE,verbose=1").provision =
        ⟨some (.platform, "@EXAMPLE"), some .platform,
          some ⟨.platform, some (ExampleVm.instanceOf .platform)⟩⟩ := by
      have short : "@EXAMPLE,verbose=1".utf8ByteSize < maxPathLength := by decide +kernel
      have path_eq : (Configuration.ofText "@EXAMPLE,verbose=1").path = "@EXAMPLE" := by
        decide +kernel
      rw [Loading.provision, if_pos short, path_eq, Opener.provision, if_pos valid]
      rfl
    obtain ⟨vm, loaded, used, ran, finished⟩ := exists_useAll_current
    obtain ⟨-, outcome, after, calls, ran', called, loads, ends⟩ :=
      loading_lifecycle (.configure currentOpener "@EXAMPLE,verbose=1")
        (.initial () : Process Unit Nat Unit)
    cases ran.symm.trans ran'
    rw [provision_eq] at called loads ends
    obtain ⟨final, others, ended, called', passes', givenUp⟩ :=
      ends vm rfl someUses used finished .takenBack
    cases loads with
    | loaded created held version passes =>
        refine ⟨vm, loaded, used, final, calls, others, ran, finished, ended, ?_, called', passes,
          passes', givenUp⟩
        intro call member
        obtain ⟨native, provided, call_eq⟩ := called call member
        cases provided
        exact call_eq

end VmBridge
