/-
**What can go wrong.**

An operation on a test network fails with an `OperationError`.  A configuration fails to load with
a `ConfigError`.  Callers that do not care for the details see both through `Error`, which sorts
them into six classes.  Each type has one function `message` with the wording.

Main definitions:

* `Testbed.OperationError` — causes of a failed operation;
* `Testbed.ConfigError` — causes of a configuration that cannot be used;
* `Testbed.Error` — the classes that the library reports;
* `Testbed.OperationError.toError` — the class of a cause.
-/

set_option autoImplicit false

namespace Testbed

/-- Why an operation failed. -/
inductive OperationError where
  /-- The container runtime refused a call. -/
  | api (text : String)
  /-- The container runtime cannot be reached. -/
  | connection (text : String)
  | containerNotFound (id : String)
  /-- The container is already in the state that was asked for. -/
  | notModified (id : String)
  | invalidTemplate (container reason : String)
  | notAFile (container path : String)
  /-- An archive cannot be written or read. -/
  | archive (text : String)
  /-- The content of a file is not what the operation expects. -/
  | content (text : String)
  | invalidPattern (pattern reason : String)
  | unknownNode (node : String)
  | networkNotReady (reason : String)
  | invalidSetting (field reason : String)
  /-- A local file or stream cannot be read or written. -/
  | io (text : String)
  /-- A concurrent task ended without a result. -/
  | task (text : String)
  deriving DecidableEq, Repr, Inhabited

/-- The wording of a failed operation. -/
def OperationError.message : OperationError → String
  | .api text => "docker api error: " ++ text
  | .connection text => "docker connection error: " ++ text
  | .containerNotFound id => "container not found: " ++ id
  | .notModified id => "container '" ++ id ++ "' not modified"
  | .invalidTemplate container reason => "invalid template '" ++ container ++ "': " ++ reason
  | .notAFile container path =>
    "expected a file but '" ++ path ++ "' in container '" ++ container ++ "' is not one"
  | .archive text => "archive error: " ++ text
  | .content text => "content error: " ++ text
  | .invalidPattern pattern reason => "invalid log pattern '" ++ pattern ++ "': " ++ reason
  | .unknownNode node => "unknown node: " ++ node
  | .networkNotReady reason => "network not ready: " ++ reason
  | .invalidSetting field reason => "config error: " ++ field ++ ": " ++ reason
  | .io text => "local io error: " ++ text
  | .task text => "task error: " ++ text

/-- Did the operation fail because its input does not meet what it asks for? -/
def OperationError.isPrecondition : OperationError → Bool
  | .invalidTemplate .. | .notAFile .. => true
  | _ => false

/-- Why a configuration cannot be used. -/
inductive ConfigError where
  | fileNotFound (path : String)
  | parseFailed (reason : String)
  | invalidValue (field reason : String)
  deriving DecidableEq, Repr, Inhabited

/-- The wording of a configuration that cannot be used. -/
def ConfigError.message : ConfigError → String
  | .fileNotFound path => "config file not found: " ++ path
  | .parseFailed reason => "failed to parse config: " ++ reason
  | .invalidValue field reason => "invalid config value for '" ++ field ++ "': " ++ reason

/-- The classes of failures that the library reports. -/
inductive Error where
  | config (cause : ConfigError)
  | runtime (text : String)
  | notFound (text : String)
  | precondition (text : String)
  | notReady (text : String)
  | io (text : String)
  deriving DecidableEq, Repr, Inhabited

/-- The wording of a failure. -/
def Error.message : Error → String
  | .config cause => "config error: " ++ cause.message
  | .runtime text => "orchestrator error: runtime api error: " ++ text
  | .notFound text => "orchestrator error: container not found: " ++ text
  | .precondition text => "orchestrator error: precondition violated: " ++ text
  | .notReady text => "orchestrator error: network not ready: " ++ text
  | .io text => "io error: " ++ text

/-- The class of a failed operation.  Causes that a caller can act upon keep their own text, all
others are reported as failures of the runtime with their whole wording. -/
def OperationError.toError (e : OperationError) : Error :=
  match e with
  | .io text => .io text
  | .containerNotFound id => .notFound id
  | .invalidTemplate .. | .notAFile .. => .precondition e.message
  | .networkNotReady reason => .notReady reason
  | _ => .runtime e.message

end Testbed
