/-!
# Loader errors

Loading a VM fails for one of seven causes, each with a message, or with a
bare code.
-/

namespace VmBridge

/-- The numbered causes of the native loader interface. -/
inductive LoaderCode where
  | success
  | cannotOpen
  | symbolNotFound
  | invalidArgument
  | vmCreationFailure
  | versionMismatch
  | invalidOptionName
  | invalidOptionValue
  | unspecified
deriving DecidableEq

namespace LoaderCode

/-- The number that stands for a cause. -/
def raw : LoaderCode → Int32
  | .success => 0
  | .cannotOpen => 1
  | .symbolNotFound => 2
  | .invalidArgument => 3
  | .vmCreationFailure => 4
  | .versionMismatch => 5
  | .invalidOptionName => 6
  | .invalidOptionValue => 7
  | .unspecified => -1

/-- The cause with a given number; other numbers are unspecified. -/
def ofRaw (raw : Int32) : LoaderCode :=
  match raw.toInt with
  | 0 => .success
  | 1 => .cannotOpen
  | 2 => .symbolNotFound
  | 3 => .invalidArgument
  | 4 => .vmCreationFailure
  | 5 => .versionMismatch
  | 6 => .invalidOptionName
  | 7 => .invalidOptionValue
  | _ => .unspecified

/-- The name of a cause. -/
def name : LoaderCode → String
  | .success => "Success"
  | .cannotOpen => "CannotOpen"
  | .symbolNotFound => "SymbolNotFound"
  | .invalidArgument => "InvalidArgument"
  | .vmCreationFailure => "VmCreationFailure"
  | .versionMismatch => "AbiVersionMismatch"
  | .invalidOptionName => "InvalidOptionName"
  | .invalidOptionValue => "InvalidOptionValue"
  | .unspecified => "Unspecified"

end LoaderCode

/-- Why a VM could not be loaded. -/
inductive LoaderError where
  | cannotOpen (message : String)
  | symbolNotFound (message : String)
  | invalidArgument (message : String)
  | vmCreationFailure (message : String)
  | versionMismatch (message : String)
  | invalidOptionName (message : String)
  | invalidOptionValue (message : String)
  | unspecified (code : Int32)
deriving DecidableEq

namespace LoaderError

/-- The error of a raw code.  The message counts only beside a code that names
a cause. -/
def ofCode (code : Int32) (message : Option String) : LoaderError :=
  match message with
  | none => .unspecified code
  | some message =>
      match LoaderCode.ofRaw code with
      | .cannotOpen => .cannotOpen message
      | .symbolNotFound => .symbolNotFound message
      | .invalidArgument => .invalidArgument message
      | .vmCreationFailure => .vmCreationFailure message
      | .versionMismatch => .versionMismatch message
      | .invalidOptionName => .invalidOptionName message
      | .invalidOptionValue => .invalidOptionValue message
      | .success | .unspecified => .unspecified code

/-- The cause of an error. -/
def code : LoaderError → LoaderCode
  | .cannotOpen _ => .cannotOpen
  | .symbolNotFound _ => .symbolNotFound
  | .invalidArgument _ => .invalidArgument
  | .vmCreationFailure _ => .vmCreationFailure
  | .versionMismatch _ => .versionMismatch
  | .invalidOptionName _ => .invalidOptionName
  | .invalidOptionValue _ => .invalidOptionValue
  | .unspecified _ => .unspecified

/-- The message of an error, if it has one. -/
def message? : LoaderError → Option String
  | .cannotOpen message
  | .symbolNotFound message
  | .invalidArgument message
  | .vmCreationFailure message
  | .versionMismatch message
  | .invalidOptionName message
  | .invalidOptionValue message => some message
  | .unspecified _ => none

/-- The full text of an error. -/
def display : LoaderError → String
  | .cannotOpen message
  | .symbolNotFound message
  | .invalidArgument message
  | .vmCreationFailure message
  | .versionMismatch message
  | .invalidOptionName message
  | .invalidOptionValue message => s!"QRVMC loading error: {message}"
  | .unspecified code => s!"QRVMC loading error {code.toInt}"

end LoaderError

end VmBridge
