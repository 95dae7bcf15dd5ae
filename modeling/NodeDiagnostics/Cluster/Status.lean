import NodeDiagnostics.Json.Shape

namespace NodeDiagnostics.Cluster.Status

open Json.Shape

def someText : Json.Shape := optional text

def cause : Json.Shape :=
  .record "StatusCause" [("field", someText), ("message", someText), ("reason", someText)]

def details : Json.Shape :=
  .record "StatusDetails" [
    ("causes", optional (listOf cause)),
    ("group", someText),
    ("kind", someText),
    ("name", someText),
    ("retryAfterSeconds", optional int32),
    ("uid", someText)]

def metadata : Json.Shape :=
  .record "ListMeta" [
    ("continue", someText),
    ("remainingItemCount", optional int64),
    ("resourceVersion", someText),
    ("selfLink", someText)]

/-- The whole object. The two members that name its type may be missing, but not be null. -/
def object : Json.Shape :=
  .record "Status" [
    ("apiVersion", word "v1"),
    ("kind", word "Status"),
    ("code", optional int32),
    ("details", optional details),
    ("message", someText),
    ("metadata", optional metadata),
    ("reason", someText),
    ("status", someText)]

end NodeDiagnostics.Cluster.Status
