/-!
# Faults

A host method can fail in the middle of its work.  It then leaves a fault
behind, which travels outward past native code: it is parked while native
code is on the way and raised again behind it.
-/

namespace VmBridge

/-- What a failing host method leaves behind. -/
inductive Fault where
  | text (message : String)
  | wordless
deriving DecidableEq

/-- The description of a fault in messages. -/
def Fault.message : Fault → String
  | .text message => message
  | .wordless => "non-string panic payload"

/-- How a piece of host work ends. -/
inductive Ending (α : Type) where
  | returned (value : α)
  | faulted (fault : Fault)
deriving DecidableEq

/-- Why a callback could not be delivered to a host, or failed there.  Each
cause names the callback. -/
inductive CallbackError where
  /-- The handle does not resolve to a live host. -/
  | contextNotFound (handle : Nat) (function : String)
  /-- A pointer that must lead somewhere is null. -/
  | nullPointer (parameter : String) (function : String)
  /-- An argument lies outside its range. -/
  | invalidParameter (parameter : String) (value : String) (function : String)
  | hostFaulted (fault : Fault) (function : String)
deriving DecidableEq

namespace CallbackError

def function : CallbackError → String
  | .contextNotFound _ function => function
  | .nullPointer _ function => function
  | .invalidParameter _ _ function => function
  | .hostFaulted _ function => function

/-- The full text of an error, as it is logged. -/
def display : CallbackError → String
  | .contextNotFound handle function =>
      s!"[{function}] Host context not found for handle {handle}"
  | .nullPointer parameter function =>
      s!"[{function}] Null pointer passed for '{parameter}'"
  | .invalidParameter parameter value function =>
      s!"[{function}] Invalid parameter '{parameter}' with value '{value}'"
  | .hostFaulted fault function =>
      s!"[{function}] Host context panicked: {fault.message}"

/-- The cause alone. -/
def message : CallbackError → String
  | .contextNotFound handle _ => s!"handle {handle} is not registered"
  | .nullPointer parameter _ => s!"'{parameter}' is null"
  | .invalidParameter parameter value _ => s!"'{parameter}' has invalid value '{value}'"
  | .hostFaulted fault _ => fault.message

def category : CallbackError → String
  | .contextNotFound _ _ => "context"
  | .nullPointer _ _ => "parameter"
  | .invalidParameter _ _ _ => "parameter"
  | .hostFaulted _ _ => "host"

end CallbackError

end VmBridge
