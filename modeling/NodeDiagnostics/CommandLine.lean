import NodeDiagnostics.Text.Numeral

/-!
The command line. A long option may carry its value behind an equals sign or in the next argument;
in that case the value is only looked at when the next option is, or at the end. So an unknown
argument is reported before an unsuitable value right in front of it.
-/
namespace NodeDiagnostics.CommandLine

structure Arguments where
  verbose : Bool
  traceDuration : UInt64
  once : Bool
  processRoot : String
deriving DecidableEq, Repr

def defaults : Arguments := ⟨false, 30, false, "/proc"⟩

def version : String := "0.1.0"

inductive Refusal where
  | help
  | version
  | unknownArgument
  | noValue
  | unsuitableValue
  | givenTwice
  | unwantedValue
deriving DecidableEq, Repr

inductive Flag where
  | verbose
  | traceDuration
  | once
  | processRoot
  | help
  | version
deriving DecidableEq, Repr

namespace Flag

def ofName? : List Char → Option Flag
  | cs => match String.ofList cs with
    | "verbose" => some verbose
    | "trace-duration" => some traceDuration
    | "once" => some once
    | "proc-root" => some processRoot
    | "help" => some help
    | "version" => some version
    | _ => none

def ofLetter? : Char → Option Flag
  | 'v' => some verbose
  | 'h' => some help
  | 'V' => some version
  | _ => none

def takesValue : Flag → Bool
  | traceDuration | processRoot => true
  | _ => false

end Flag

structure State where
  arguments : Arguments
  given : List Flag
  /-- A flag with its value still to be looked at, or still to come. -/
  pending : Option (Flag × Option String)
deriving DecidableEq, Repr

def initial : State := ⟨defaults, [], none⟩

def give (s : State) (flag : Flag) (value : Option String) : Except Refusal State :=
  let once (change : Arguments → Except Refusal Arguments) : Except Refusal State :=
    if flag ∈ s.given then .error .givenTwice
    else (change s.arguments).map fun a => { s with arguments := a, given := flag :: s.given }
  match flag, value with
  | .help, _ => .error .help
  | .version, _ => .error .version
  | .verbose, _ => once fun a => .ok { a with verbose := true }
  | .once, _ => once fun a => .ok { a with once := true }
  | .traceDuration, none => .error .noValue
  | .processRoot, none => .error .noValue
  | .traceDuration, some v => once fun a =>
    match Text.unsigned? 10 UInt64.size v.toList with
    | some n => .ok { a with traceDuration := n.toUInt64 }
    | none => .error .unsuitableValue
  | .processRoot, some v => once fun a =>
    if v.isEmpty then .error .noValue else .ok { a with processRoot := v }

def settle (s : State) : Except Refusal State :=
  match s.pending with
  | none => .ok s
  | some (flag, value) => give { s with pending := none } flag value

def settleAndGive (s : State) (flag : Flag) (value : Option String) : Except Refusal State := do
  give (← settle s) flag value

def letters (s : State) : List Char → Except Refusal State
  | [] => .ok s
  | c :: rest => match Flag.ofLetter? c with
    | some flag => do letters (← settleAndGive s flag none) rest
    | none => .error .unknownArgument

def long (s : State) (cs : List Char) : Except Refusal State :=
  let value := match cs.dropWhile (· != '=') with
    | [] => none
    | _ :: v => some (String.ofList v)
  match Flag.ofName? (cs.takeWhile (· != '=')), value with
  | none, _ => .error .unknownArgument
  | some flag, some v =>
    if flag.takesValue then settleAndGive s flag (some v) else .error .unwantedValue
  | some flag, none =>
    -- the value is in the next argument, if there is one
    if flag.takesValue then (settle s).map fun s => { s with pending := some (flag, none) }
    else settleAndGive s flag none

def plain (s : State) (arg : String) : Except Refusal State :=
  match s.pending with
  | some (flag, none) => .ok { s with pending := some (flag, some arg) }
  | _ => .error .unknownArgument

/-- Read the arguments one by one; behind `--` there is room for none. -/
def readFrom (s : State) : List String → Except Refusal State
  | [] => settle s
  | arg :: rest => match arg.toList with
    | ['-', '-'] => if rest.isEmpty then settle s else .error .unknownArgument
    | '-' :: '-' :: cs => do readFrom (← long s cs) rest
    | '-' :: c :: cs => do readFrom (← letters s (c :: cs)) rest
    | _ => do readFrom (← plain s arg) rest

def parse (args : List String) : Except Refusal Arguments :=
  (readFrom initial args).map (·.arguments)

example : (parse ["-v", "--trace-duration", "+5", "--proc-root=x=y"]).toOption =
    some ⟨true, 5, false, "x=y"⟩ := by decide +kernel

end NodeDiagnostics.CommandLine
