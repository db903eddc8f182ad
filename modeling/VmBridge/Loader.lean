import VmBridge.LoaderError
import VmBridge.SymbolName
import VmBridge.VmControl

/-!
# Loading VMs

A VM is loaded by opening its library, looking up a create function, calling
it, and checking what it made.  Whatever fails on the way, an instance that
was made is destroyed and the library is given up.  A configuration is a path
followed by options, all separated by commas; each option is a name and,
after an equals sign, a value.
-/

namespace VmBridge

variable {κ ν σ : Type}

/-- The longest path in bytes, and one more than the longest configuration. -/
def maxPathLength : Nat := 4096

/-- What the messages call the origin of a VM that needs no library. -/
def staticOrigin : String := "static create function"

/-- Check the length of a path. -/
def validatePath (path : String) : Except LoaderError Unit :=
  if path.isEmpty then
    .error (.invalidArgument "invalid argument: file name cannot be empty")
  else if maxPathLength < path.utf8ByteSize then
    .error (.invalidArgument (s!"invalid argument: file name is too long " ++
      s!"({path.utf8ByteSize}, maximum allowed length is {maxPathLength})"))
  else .ok ()

/-- Look up the create function of a library: first under the library's own
symbol, then under the default one. -/
def findCreateFunction (source : LibrarySource) (library : Library ν) (path : String) :
    Bridge κ ν σ (Except LoaderError (CreateFunction ν)) := do
  let symbol := createSymbol path
  Bridge.record (.lookedUp source symbol)
  match library.createFunction? symbol with
  | some create => pure (.ok create)
  | none => do
      Bridge.record (.symbolMissing symbol path defaultSymbol)
      Bridge.record (.lookedUp source defaultSymbol)
      match library.createFunction? defaultSymbol with
      | some create => pure (.ok create)
      | none =>
          pure (.error (.symbolNotFound s!"QRVMC create function not found in {path}"))

/-- Take over a new instance under a fresh identity. -/
def takeOver (native : NativeVm ν) (library : Option LibrarySource) :
    Bridge κ ν σ (Vm ν) := do
  let process ← get
  set { process with nextIdentity := process.nextIdentity + 1 }
  pure ⟨process.nextIdentity, native, library⟩

/-- Create an instance and accept it if it speaks the right version of the
interface. -/
def instantiate (create : CreateFunction ν) (library : Option LibrarySource)
    (origin : String) : Bridge κ ν σ (Except LoaderError (Vm ν)) := do
  Bridge.record (.created create.provider)
  match create.instance? with
  | none => do
      Vm.closeLibrary library
      pure (.error (.vmCreationFailure s!"creating QRVMC VM of {origin} has failed"))
  | some native => do
      let vm ← takeOver native library
      if native.interfaceVersion = interfaceVersion then
        Bridge.record (.adopted vm.name vm.version origin)
        pure (.ok vm)
      else
        vm.destroy
        pure (.error (.versionMismatch (s!"QRVMC ABI version " ++
          s!"{native.interfaceVersion.toInt} of {origin} mismatches the expected " ++
          s!"version {interfaceVersion.toInt}")))

/-- Accept a VM that is linked into the program. -/
def adopt (create : CreateFunction ν) : Bridge κ ν σ (Except LoaderError (Vm ν)) :=
  instantiate create none staticOrigin

/-- Load the VM of the library at a path. -/
def load (opener : Opener ν) (path : String) :
    Bridge κ ν σ (Except LoaderError (Vm ν)) :=
  match validatePath path with
  | .error error => pure (.error error)
  | .ok () => do
      Bridge.record (.loading path)
      Bridge.record (.opened opener.source path)
      match opener.openLibrary path with
      | .error message =>
          pure (.error (.cannotOpen (message.getD s!"cannot open {path}")))
      | .ok library => do
          match ← findCreateFunction opener.source library path with
          | .error error => do
              Vm.closeLibrary (some opener.source)
              pure (.error error)
          | .ok create => instantiate create (some opener.source) path

/-- The parts of a text before and after the first separator; without one, the
whole text and nothing. -/
def splitFirst (separator : Char) (text : List Char) : List Char × List Char :=
  (text.takeWhile (· ≠ separator), (text.dropWhile (· ≠ separator)).drop 1)

theorem length_splitFirst_lt (separator : Char) (text : List Char) (nonempty : text ≠ []) :
    (splitFirst separator text).2.length < text.length := by
  have parts := congrArg List.length
    (@List.takeWhile_append_dropWhile _ (fun character => character ≠ separator) text)
  have positive : 0 < text.length := List.length_pos_iff.mpr nonempty
  simp only [splitFirst, List.length_drop, List.length_append] at *
  omega

/-- Apply one option, given as a name and a value joined by an equals sign. -/
def applyOption (vm : Vm ν) (path : String) (option : List Char) :
    Bridge κ ν σ (Except LoaderError Unit) := do
  let (nameCharacters, valueCharacters) := splitFirst '=' option
  let name := String.ofList nameCharacters
  let value := String.ofList valueCharacters
  match ← vm.forwardOption name value with
  | .ok .success => pure (.ok ())
  | .ok .invalidName =>
      pure (.error (.invalidOptionName
        s!"{vm.name} ({path}): unknown option '{name}'"))
  | .ok .invalidValue =>
      pure (.error (.invalidOptionValue
        s!"{vm.name} ({path}): unsupported value '{value}' for option '{name}'"))
  | .error _ =>
      pure (.error (.invalidOptionValue (s!"{vm.name} ({path}): " ++
        s!"unknown error when setting value '{value}' for option '{name}'")))

/-- Apply a list of options separated by commas, up to the first that
fails. -/
def applyOptions (vm : Vm ν) (path : String) (options : List Char) :
    Bridge κ ν σ (Except LoaderError Unit) :=
  if _ : options = [] then pure (.ok ())
  else if vm.supportsOptions then do
    match ← applyOption vm path (splitFirst ',' options).1 with
    | .ok () => applyOptions vm path (splitFirst ',' options).2
    | .error error => pure (.error error)
  else
    pure (.error (.invalidOptionName
      s!"{vm.name} ({path}) does not support any options"))
termination_by options.length
decreasing_by exact length_splitFirst_lt ',' options ‹_›

/-- Load a VM and apply options as a configuration says.  A VM that refuses
an option is destroyed. -/
def loadAndConfigure (opener : Opener ν) (configuration : String) :
    Bridge κ ν σ (Except LoaderError (Vm ν)) :=
  if maxPathLength ≤ configuration.utf8ByteSize then
    pure (.error (.invalidArgument (s!"invalid argument: configuration is too long " ++
      s!"(maximum allowed length is {maxPathLength})")))
  else do
    let (pathCharacters, options) := splitFirst ',' configuration.toList
    let path := String.ofList pathCharacters
    match ← load opener path with
    | .error error => pure (.error error)
    | .ok vm => do
        match ← applyOptions vm path options with
        | .ok () => pure (.ok vm)
        | .error error => do
            vm.destroy
            pure (.error error)

end VmBridge
