import VmBridge.Loader
import VmBridge.Proofs.BridgeEnsures

/-!
# The steps of a load

A load fails at its path, at the library, at the create function, at the instance
or at its version, or it is successful.  Each case is one equation: the outcome and
the events that happened.  What has been acquired by then is given up by the last
events of the failing cases.

Options, uses and the end of a VM are journaled too, by `Vm.ending` when a handle
is destroyed.
-/

namespace VmBridge

variable {κ ν σ : Type}

namespace Process

def journaledAll (process : Process κ ν σ) (events : List Event) : Process κ ν σ :=
  { process with journal := events.reverse ++ process.journal }

theorem journaledAll_journaledAll (process : Process κ ν σ) (earlier later : List Event) :
    (process.journaledAll earlier).journaledAll later =
      process.journaledAll (earlier ++ later) := by
  simp [journaledAll]

end Process

namespace Vm

/-- The events with which a library is given up. -/
def closing (library : Option LibrarySource) : List Event :=
  (library.map Event.unloaded).toList

/-- The events with which the handle of a VM comes to its end. -/
def ending (vm : Vm ν) : List Event :=
  (if vm.native.hasDestroy then [.destroying vm.name, .destroyed vm.native.provider] else []) ++
    closing vm.library

theorem mem_ending {vm : Vm ν} {event : Event} (member : event ∈ vm.ending) :
    event = .destroying vm.name ∨ event = .destroyed vm.native.provider ∨
      ∃ source, event = .unloaded source := by
  rcases List.mem_append.mp member with destroys | closes
  · split at destroys
    · rcases List.mem_cons.mp destroys with rfl | last
      · exact Or.inl rfl
      · exact Or.inr (Or.inl (List.mem_singleton.mp last))
    · cases destroys
  · obtain ⟨source, _, rfl⟩ := Option.map_eq_some_iff.mp (Option.mem_toList.mp closes)
    exact Or.inr (Or.inr ⟨source, rfl⟩)

theorem closeLibrary_apply (library : Option LibrarySource) (before : Process κ ν σ) :
    closeLibrary library before = some ((), before.journaledAll (closing library)) := by
  cases library <;> rfl

theorem destroy_apply (vm : Vm ν) (before : Process κ ν σ) :
    vm.destroy before = some ((), before.journaledAll vm.ending) := by
  rw [destroy, ending]
  split
  · change closeLibrary vm.library (before.journaledAll [_, _]) = _
    rw [closeLibrary_apply, Process.journaledAll_journaledAll]
  · exact closeLibrary_apply vm.library before

end Vm

/-- The create function of a library: the one under the library's own symbol, or
else the one under the default symbol. -/
def Library.create? (library : Library ν) (path : String) : Option (CreateFunction ν) :=
  (library.createFunction? (createSymbol path)).or (library.createFunction? defaultSymbol)

/-- The events of the search for a create function. -/
def Library.searching (library : Library ν) (source : LibrarySource) (path : String) :
    List Event :=
  .lookedUp source (createSymbol path) ::
    if (library.createFunction? (createSymbol path)).isSome then []
    else [.symbolMissing (createSymbol path) path defaultSymbol, .lookedUp source defaultSymbol]

theorem findCreateFunction_apply (source : LibrarySource) (library : Library ν) (path : String)
    (before : Process κ ν σ) :
    findCreateFunction source library path before =
      some ((match library.create? path with
        | some create => .ok create
        | none => .error (.symbolNotFound s!"QRVMC create function not found in {path}")),
        before.journaledAll (library.searching source path)) := by
  rw [findCreateFunction, Library.create?, Library.searching]
  cases library.createFunction? (createSymbol path) with
  | some create => rfl
  | none => cases library.createFunction? defaultSymbol <;> rfl

section Instances

variable {create : CreateFunction ν} {library : Option LibrarySource} {origin : String}
  {native : NativeVm ν} {before : Process κ ν σ}

theorem instantiate_null (null : create.instance? = none) :
    instantiate create library origin before =
      some (.error (.vmCreationFailure s!"creating QRVMC VM of {origin} has failed"),
        before.journaledAll (.created create.provider :: Vm.closing library)) := by
  have given : instantiate create library origin before =
      (Vm.closeLibrary library (before.journaled (.created create.provider))).bind fun result =>
        some (.error (.vmCreationFailure s!"creating QRVMC VM of {origin} has failed"),
          result.2) := by
    rw [instantiate, Bridge.bind_apply, Bridge.record_apply, null]
    rfl
  rw [given, Vm.closeLibrary_apply]
  exact congrArg (fun after => some (_, after)) (before.journaledAll_journaledAll [_] _)

/-- The state after an instance has been created and taken over. -/
def Process.taking (process : Process κ ν σ) (create : CreateFunction ν) : Process κ ν σ :=
  { process.journaled (.created create.provider) with nextIdentity := process.nextIdentity + 1 }

theorem instantiate_mismatched (created : create.instance? = some native)
    (mismatched : native.interfaceVersion ≠ interfaceVersion) :
    instantiate create library origin before =
      some (.error (.versionMismatch (s!"QRVMC ABI version " ++
          s!"{native.interfaceVersion.toInt} of {origin} mismatches the expected " ++
          s!"version {interfaceVersion.toInt}")),
        (before.taking create).journaledAll
          (Vm.ending ⟨before.nextIdentity, native, library⟩)) := by
  have given : instantiate create library origin before =
      ((Vm.destroy ⟨before.nextIdentity, native, library⟩) (before.taking create)).bind
        fun result => some (.error (.versionMismatch (s!"QRVMC ABI version " ++
          s!"{native.interfaceVersion.toInt} of {origin} mismatches the expected " ++
          s!"version {interfaceVersion.toInt}")), result.2) := by
    rw [instantiate, Bridge.bind_apply, Bridge.record_apply, created, Option.bind_some]
    change (if native.interfaceVersion = interfaceVersion then _ else _ :
      Bridge κ ν σ (Except LoaderError (Vm ν))) (before.taking create) = _
    rw [if_neg mismatched]
    rfl
  rw [given, Vm.destroy_apply]
  rfl

theorem instantiate_accepted (created : create.instance? = some native)
    (matching : native.interfaceVersion = interfaceVersion) :
    instantiate create library origin before =
      some (.ok ⟨before.nextIdentity, native, library⟩,
        (before.taking create).journaled
          (.adopted (Vm.name ⟨before.nextIdentity, native, library⟩)
            (Vm.version ⟨before.nextIdentity, native, library⟩) origin)) := by
  rw [instantiate, Bridge.bind_apply, Bridge.record_apply, created, Option.bind_some]
  change (if native.interfaceVersion = interfaceVersion then _ else _ :
    Bridge κ ν σ (Except LoaderError (Vm ν))) (before.taking create) = _
  rw [if_pos matching]
  rfl

end Instances

section Libraries

variable {opener : Opener ν} {path : String} {before : Process κ ν σ}

/-- The state after an opener has been asked for the library at a path. -/
def Process.opening (process : Process κ ν σ) (opener : Opener ν) (path : String) :
    Process κ ν σ :=
  process.journaledAll [.loading path, .opened opener.source path]

theorem load_invalid {error : LoaderError} (invalid : validatePath path = .error error) :
    load opener path before = some (.error error, before) := by
  rw [load, invalid]
  rfl

theorem load_unopened {message : Option String} (valid : validatePath path = .ok ())
    (unopened : opener.openLibrary path = .error message) :
    load opener path before =
      some (.error (.cannotOpen (message.getD s!"cannot open {path}")),
        before.opening opener path) := by
  simp only [load, valid, unopened]
  rfl

theorem load_unfound {library : Library ν} (valid : validatePath path = .ok ())
    (opened : opener.openLibrary path = .ok library) (unfound : library.create? path = none) :
    load opener path before =
      some (.error (.symbolNotFound s!"QRVMC create function not found in {path}"),
        (before.opening opener path).journaledAll
          (library.searching opener.source path ++ [.unloaded opener.source])) := by
  simp only [load, valid, opened, Bridge.bind_apply, Bridge.record_apply, Option.bind_some,
    findCreateFunction_apply, unfound]
  exact congrArg (fun after => some (_, after))
    ((before.opening opener path).journaledAll_journaledAll _ [.unloaded opener.source])

theorem load_found {library : Library ν} {create : CreateFunction ν}
    (valid : validatePath path = .ok ()) (opened : opener.openLibrary path = .ok library)
    (found : library.create? path = some create) :
    load opener path before =
      instantiate create (some opener.source) path
        ((before.opening opener path).journaledAll (library.searching opener.source path)) := by
  simp only [load, valid, opened, Bridge.bind_apply, Bridge.record_apply, Option.bind_some,
    findCreateFunction_apply, found]
  rfl

end Libraries

/-- A path that openers are asked for. -/
def ValidPath (path : String) : Prop := path ≠ "" ∧ path.utf8ByteSize ≤ maxPathLength

instance : DecidablePred ValidPath := fun path =>
  inferInstanceAs (Decidable (path ≠ "" ∧ path.utf8ByteSize ≤ maxPathLength))

theorem validatePath_of_validPath {path : String} (valid : ValidPath path) :
    validatePath path = .ok () := by
  rw [validatePath, if_neg (by simpa using valid.1), if_neg (Nat.not_lt.mpr valid.2)]

theorem exists_error_of_not_validPath {path : String} (invalid : ¬ValidPath path) :
    ∃ error, validatePath path = .error error := by
  rw [validatePath]
  split
  · exact ⟨_, rfl⟩
  · rename_i nonempty
    rw [if_pos (Nat.not_le.mp fun short => invalid ⟨by simpa using nonempty, short⟩)]
    exact ⟨_, rfl⟩

/-- A step in the life of an instance or its library. -/
inductive Milestone where
  | opened (source : LibrarySource) (path : String)
  | created (provider : Provider)
  /-- A native function of an instance was called. -/
  | called (provider : Provider)
  | destroyed (provider : Provider)
  | unloaded (source : LibrarySource)

def Event.milestone? : Event → Option Milestone
  | .opened source path => some (.opened source path)
  | .created provider => some (.created provider)
  | .entered provider _ _ _ => some (.called provider)
  | .optionForwarded provider _ _ => some (.called provider)
  | .destroyed provider => some (.destroyed provider)
  | .unloaded source => some (.unloaded source)
  | _ => none

/-- Between two states exactly the given milestones were passed, in this order. -/
def Process.Passes (before after : Process κ ν σ) (milestones : List Milestone) : Prop :=
  ∃ events, before.Since after events ∧ events.filterMap Event.milestone? = milestones

namespace Process

theorem passes_journaledAll (process : Process κ ν σ) (events : List Event) :
    process.Passes (process.journaledAll events) (events.filterMap Event.milestone?) :=
  ⟨events, rfl, rfl⟩

theorem Passes.trans {first second third : Process κ ν σ} {earlier later : List Milestone}
    (start : first.Passes second earlier) (finish : second.Passes third later) :
    first.Passes third (earlier ++ later) := by
  obtain ⟨events, since, rfl⟩ := start
  obtain ⟨others, since', rfl⟩ := finish
  exact ⟨_, since.append since', List.filterMap_append⟩

end Process

/-- What a load gets hold of: the library it is asked to open, if any, and the
instance that it creates, if any. -/
structure Provision (ν : Type) where
  asked : Option (LibrarySource × String)
  library : Option LibrarySource
  create? : Option (CreateFunction ν)

namespace Provision

def instance? (provision : Provision ν) : Option (NativeVm ν) :=
  provision.create?.bind CreateFunction.instance?

/-- The milestones at which everything has been acquired. -/
def acquiring (provision : Provision ν) : List Milestone :=
  (provision.asked.map fun asked => .opened asked.1 asked.2).toList ++
    (provision.create?.map fun create => .created create.provider).toList

/-- The milestones at which everything is given up. -/
def givingUp (provision : Provision ν) : List Milestone :=
  let destructible := provision.instance?.filter (·.hasDestroy)
  (destructible.map fun native => .destroyed native.provider).toList ++
    (provision.library.map .unloaded).toList

def Calls (provision : Provision ν) (milestone : Milestone) : Prop :=
  ∃ native, provision.instance? = some native ∧ milestone = .called native.provider

/-- How a load ends during which some native functions were called.  If it fails, all
that it got hold of has been given up again; if not, the VM holds it. -/
inductive Loads (provision : Provision ν) (calls : List Milestone)
    (before after : Process κ ν σ) : Except LoaderError (Vm ν) → Prop
  | failed {error : LoaderError}
      (passes : before.Passes after (provision.acquiring ++ calls ++ provision.givingUp)) :
      Loads provision calls before after (.error error)
  | loaded {vm : Vm ν} (created : provision.instance? = some vm.native)
      (held : vm.library = provision.library)
      (version : vm.native.interfaceVersion = interfaceVersion)
      (passes : before.Passes after (provision.acquiring ++ calls)) :
      Loads provision calls before after (.ok vm)

end Provision

/-- What an opener provides for a path.  It is not asked for invalid ones. -/
def Opener.provision (opener : Opener ν) (path : String) : Provision ν :=
  if ValidPath path then
    match opener.openLibrary path with
    | .error _ => ⟨some (opener.source, path), none, none⟩
    | .ok library => ⟨some (opener.source, path), some opener.source, library.create? path⟩
  else ⟨none, none, none⟩

section Lifecycle

variable {before middle after : Process κ ν σ}

theorem milestones_closing (library : Option LibrarySource) :
    (Vm.closing library).filterMap Event.milestone? = (library.map .unloaded).toList := by
  cases library <;> rfl

theorem milestones_ending {vm : Vm ν} {provision : Provision ν}
    (created : provision.instance? = some vm.native) (held : vm.library = provision.library) :
    vm.ending.filterMap Event.milestone? = provision.givingUp := by
  rw [Vm.ending, List.filterMap_append, milestones_closing, held, Provision.givingUp, created,
    Option.filter_some]
  cases vm.native.hasDestroy <;> rfl

theorem milestones_searching (library : Library ν) (source : LibrarySource) (path : String) :
    (library.searching source path).filterMap Event.milestone? = [] := by
  rw [Library.searching]
  cases (library.createFunction? (createSymbol path)).isSome <;> rfl

/-- What has been asked for is acquired first. -/
theorem Provision.Loads.after_opening {source : LibrarySource} {path : String}
    {library : Option LibrarySource} {create? : Option (CreateFunction ν)}
    {calls : List Milestone} {outcome : Except LoaderError (Vm ν)}
    (opened : before.Passes middle [.opened source path])
    (loads : Loads ⟨none, library, create?⟩ calls middle after outcome) :
    Loads ⟨some (source, path), library, create?⟩ calls before after outcome := by
  cases loads with
  | failed passes => exact .failed (opened.trans passes)
  | loaded created held version passes =>
      exact .loaded created held version (opened.trans passes)

theorem instantiate_loads (create : CreateFunction ν) (library : Option LibrarySource)
    (origin : String) (before : Process κ ν σ) :
    ∃ outcome after, instantiate create library origin before = some (outcome, after) ∧
      Provision.Loads ⟨none, library, some create⟩ [] before after outcome := by
  let provision : Provision ν := ⟨none, library, some create⟩
  have taking : before.Passes (before.taking create) provision.acquiring :=
    ⟨[.created create.provider], rfl, rfl⟩
  cases created : create.instance? with
  | none =>
      have absent : provision.instance? = none := created
      have giving : (Vm.closing library).filterMap Event.milestone? = provision.givingUp := by
        rw [milestones_closing, Provision.givingUp, absent]
        rfl
      have ended := congrArg (Milestone.created create.provider :: ·) giving
      exact ⟨_, _, instantiate_null created, .failed ⟨_, rfl, ended⟩⟩
  | some native =>
      let vm : Vm ν := ⟨before.nextIdentity, native, library⟩
      have held : provision.instance? = some vm.native := created
      by_cases matching : native.interfaceVersion = interfaceVersion
      · have adopted :=
          (before.taking create).passes_journaledAll [.adopted vm.name vm.version origin]
        exact ⟨_, _, instantiate_accepted created matching,
          .loaded held rfl matching (taking.trans adopted)⟩
      · have ended := (before.taking create).passes_journaledAll vm.ending
        rw [milestones_ending held rfl] at ended
        exact ⟨_, _, instantiate_mismatched created matching, .failed (taking.trans ended)⟩

/-- A load calls no native function of the instance that it creates. -/
theorem load_loads (opener : Opener ν) (path : String) (before : Process κ ν σ) :
    ∃ outcome after, load opener path before = some (outcome, after) ∧
      (opener.provision path).Loads [] before after outcome := by
  by_cases valid : ValidPath path
  · have validated := validatePath_of_validPath valid
    have opening : before.Passes (before.opening opener path) [.opened opener.source path] :=
      before.passes_journaledAll _
    rw [Opener.provision, if_pos valid]
    cases opened : opener.openLibrary path with
    | error message => exact ⟨_, _, load_unopened validated opened, .failed opening⟩
    | ok library =>
        dsimp only
        cases found : library.create? path with
        | none =>
            have closed := opening.trans ((before.opening opener path).passes_journaledAll
              (library.searching opener.source path ++ [.unloaded opener.source]))
            rw [List.filterMap_append, milestones_searching] at closed
            exact ⟨_, _, load_unfound validated opened found, .failed closed⟩
        | some create =>
            have searched := opening.trans ((before.opening opener path).passes_journaledAll
              (library.searching opener.source path))
            rw [milestones_searching] at searched
            rw [load_found validated opened found]
            obtain ⟨outcome, after, made, loads⟩ := instantiate_loads create (some opener.source)
              path ((before.opening opener path).journaledAll
                (library.searching opener.source path))
            exact ⟨outcome, after, made, loads.after_opening searched⟩
  · obtain ⟨error, invalid⟩ := exists_error_of_not_validPath valid
    rw [Opener.provision, if_neg valid]
    exact ⟨_, _, load_invalid invalid, .failed ⟨[], rfl, rfl⟩⟩

end Lifecycle

end VmBridge
