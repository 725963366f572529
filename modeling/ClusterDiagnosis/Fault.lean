import ClusterDiagnosis.Value.Written

/-!
Everything that can end an operation early, by cause. Texts are made in one place, `Fault.text`.
-/

set_option autoImplicit false
set_option relaxedAutoImplicit false

namespace ClusterDiagnosis

/-- How a value fails to have the shape an operation needs. -/
inductive Mismatch where
  /-- A field or an operation is asked of a value that has none. -/
  | noField
  /-- A value of this type cannot take part in the operation. -/
  | wrongType
  /-- A text or number has no reading of the kind asked for. -/
  | unreadable
  /-- A number is too large for the result. -/
  | outOfRange
  /-- A record refuses a field of the wrong type, a missing or a surplus field. -/
  | refused
  /-- Bytes are not UTF-8. -/
  | undecodable
  /-- A name is looked up in a table without it. -/
  | missingKey
  /-- The first element is asked of something empty. -/
  | noElement
  /-- A file name is too long to be looked up. -/
  | fileName
  /-- The rights to look up a file are missing. -/
  | fileRights
  /-- A structure is nested too deeply. -/
  | tooDeep
  deriving DecidableEq, Repr

/-- What is known about an error from outside the program, besides its name and text. -/
inductive Origin where
  | plain
  /-- Waiting for something took too long. -/
  | timeout
  /-- The cluster's interface answered with an error. -/
  | cluster (status reason body : Value)
  /-- A place for the cluster configuration holds none. -/
  | noConfiguration
  /-- A package is not installed. -/
  | notInstalled
  deriving Repr

/-- An error raised by something outside the program. -/
structure ExternalError where
  label : String
  message : String
  origin : Origin
  deriving Repr

/-- A cause that ends an operation. -/
inductive Fault where
  | serviceMissing (message : String)
  | unknownAnalyzer (kind : String)
  | configuration (message : String)
  | integration (message : String)
  /-- An access to the cluster failed. -/
  | access (message : String)
  | completion (code message : String)
  | cancelled (message : String)
  | timedOut (message : String)
  | notImplemented (message : String)
  | mismatch (m : Mismatch)
  | external (e : ExternalError)
  deriving Repr

namespace ExternalError

/-- The text of an error. The cluster's interface states its answer in lines of its own. -/
def text (e : ExternalError) : String :=
  match e.origin with
  | .cluster status reason body =>
    "(" ++ status.text ++ ")\nReason: " ++ reason.text ++ "\n" ++
      (if body.counts then "HTTP response body: " ++ body.text ++ "\n" else "")
  | _ => e.message

end ExternalError

namespace Fault

/-- The text of a fault. Those of a mismatch have none. -/
def text : Fault → String
  | serviceMissing m => m
  | unknownAnalyzer kind => "unknown analyzer kind: " ++ kind
  | configuration m => m
  | integration m => m
  | access m => m
  | completion _ m => m
  | cancelled m => m
  | timedOut m => m
  | notImplemented m => m
  | mismatch _ => ""
  | external e => e.text

/-- The name of a kind of fault, as an error code shows it. -/
def label : Fault → String
  | serviceMissing _ => "CompletionServiceNotConfigured"
  | unknownAnalyzer _ => "UnknownAnalyzerError"
  | configuration _ => "ConfigurationError"
  | integration _ => "IntegrationError"
  | access _ => "UpstreamQueryError"
  | completion _ _ => "CompletionError"
  | cancelled _ => "RunCancelled"
  | timedOut _ => "RunTimeout"
  | notImplemented _ => "NotImplementedError"
  | mismatch _ => "Mismatch"
  | external e => e.label

/-- No completion service is at hand. -/
def noService : Fault :=
  .serviceMissing "AI provider not initialized"

/-- A completion error whose text is its code unless there is another. -/
def ofCode (code message : String) : Fault :=
  .completion code (if message.isEmpty then code else message)

/-- Whether the run itself is over, by cancellation or for lack of time. -/
def endsRun : Fault → Bool
  | cancelled _ => true
  | timedOut _ => true
  | _ => false

/-- Whether the fault lies in the configuration. -/
def isConfiguration : Fault → Bool
  | serviceMissing _ => true
  | unknownAnalyzer _ => true
  | configuration _ => true
  | integration _ => true
  | _ => false

/-- Whether an error from outside says that waiting took too long. -/
def isTimeout : Fault → Bool
  | external e => match e.origin with
    | .timeout => true
    | _ => false
  | _ => false

/-- Whether an error from outside says that a package is not installed. -/
def isNotInstalled : Fault → Bool
  | external e => match e.origin with
    | .notInstalled => true
    | _ => false
  | _ => false

end Fault

end ClusterDiagnosis
