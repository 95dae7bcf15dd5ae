import NodeDiagnostics.CommandLine

namespace NodeDiagnostics.CommandLine

def programName : String := "node-diagnostics"

def summary : String :=
  "Per-node Kubernetes diagnostics agent with live DNS/TCP tracing and blob export"

def usage : String := "Usage: " ++ programName ++ " [OPTIONS]"

def options : List String :=
  ["  -v, --verbose                Enable verbose logging",
    "      --trace-duration <SECS>  Length of the DNS/TCP trace window [default: 30]",
    "      --once                   Exit after one collection pass instead of waiting for Ctrl-C",
    "      --proc-root <DIR>        procfs mount of the host PID namespace [default: /proc]",
    "  -h, --help                   Print help",
    "  -V, --version                Print version"]

def help : String :=
  "\n".intercalate ([summary, "", usage, "", "Options:"] ++ options)

namespace Refusal

def isRequest : Refusal → Bool
  | help | version => true
  | _ => false

def text : Refusal → String
  | help => CommandLine.help
  | version => programName ++ " " ++ CommandLine.version
  | unknownArgument => "error: unexpected argument found"
  | noValue => "error: a value is required for an option but none was supplied"
  | unsuitableValue => "error: invalid value for an option"
  | givenTwice => "error: an option cannot be used multiple times"
  | unwantedValue => "error: unexpected value for an option found; no more were expected"

def exitCode (r : Refusal) : UInt32 := if r.isRequest then 0 else 2

def report (r : Refusal) : String :=
  if r.isRequest then r.text
  else "\n".intercalate [r.text, "", usage, "", "For more information, try '--help'."]

end Refusal
end NodeDiagnostics.CommandLine
