import NodeDiagnostics.Net.Status
import NodeDiagnostics.Net.Target
import NodeDiagnostics.Text.Quoted

namespace NodeDiagnostics

inductive ClusterError where
  | api (status : Nat) (reason message : String)
  | upgrade (status : Nat)
  /-- The request has no target that could be sent, so nothing was asked. -/
  | unsendable (fault : Net.TargetFault)
deriving DecidableEq, Repr

def ClusterError.message : ClusterError → String
  | .api status reason message =>
    let (quotedMessage, quotedReason) := (Text.quoted message, Text.quoted reason)
    s!"ApiError: {message}: {reason} (ErrorResponse \x7b status: \"Failure\", message: " ++
      s!"{quotedMessage}, reason: {quotedReason}, code: {status} \x7d)"
  | .upgrade status =>
    "failed to upgrade to a WebSocket connection: failed to switch protocol: " ++
      Net.statusLine status
  | .unsendable fault => "Failed to build request: failed to build request: " ++ fault.text

inductive Error where
  | unsupported (reason : String)
  | collection (step cause : String)
  | resource (name reason : String)
  | emptyTrace (trace : String)
  | storageNotConfigured
  | containerCreation (status : Nat) (code : String)
  | upload (item : String) (cause : Error)
  | storage (status : Nat) (code : String)
  | cluster (cause : ClusterError)
  | configuration (reason : String)
  | io (reason : String)
deriving DecidableEq, Repr

namespace Error

def message : Error → String
  | unsupported reason => "unsupported environment: " ++ reason
  | collection step cause => step ++ ": " ++ cause
  | resource name reason => "failed to initialize " ++ name ++ ": " ++ reason
  | emptyTrace trace => "no events were published for trace " ++ trace
  | storageNotConfigured => "Storage not configured."
  | containerCreation status code =>
    s!"create container with storage error: status {status}, code {code}"
  | upload item cause => "append file " ++ item ++ " to blob: " ++ cause.message
  | storage status code => s!"storage request failed with status {status}: {code}"
  | cluster cause => "Kubernetes error: " ++ cause.message
  | configuration reason => "Configuration error: " ++ reason
  | io reason => "IO error: " ++ reason

def during (step : String) (cause : Error) : Error := collection step cause.message

def isUnsupported : Error → Bool
  | unsupported _ => true
  | _ => false

def isResource : Error → Bool
  | resource _ _ => true
  | _ => false

def noSuchFile : String := "No such file or directory (os error 2)"

def invalidArgument : String := "Invalid argument (os error 22)"

def notSocket : String := "Socket operation on non-socket (os error 88)"

def notText : String := "stream did not contain valid UTF-8"

end Error
end NodeDiagnostics
