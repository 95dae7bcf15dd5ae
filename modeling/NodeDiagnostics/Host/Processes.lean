import NodeDiagnostics.Container
import NodeDiagnostics.Text.Utf8
import Std.Data.ExtTreeMap.Lemmas

/-!
Finding a container's first process. Every process of a container carries the runtime's identifier
in the path of its control group, and the process with the least number is the first.
-/
namespace NodeDiagnostics.Host

structure ProcessEntry where
  name : String
  cgroup : Option (List UInt8)
deriving DecidableEq, Repr

def afterScheme? : List Char → Option (List Char)
  | [] => none
  | c :: rest =>
    -- the last mark counts, so the rest is searched first
    match afterScheme? rest with
    | some r => some r
    | none => match c :: rest with
      | ':' :: '/' :: '/' :: r => some r
      | _ => none

def cleanId (id : String) : String :=
  String.ofList ((afterScheme? id.toList).getD id.toList)

/-- The least size of an identifier; a shorter one could be part of an unrelated path. -/
def minimumIdSize : Nat := 12

def containsText (text part : List Char) : Bool :=
  match text with
  | [] => part.isEmpty
  | c :: rest => part.isPrefixOf (c :: rest) || containsText rest part

def ProcessEntry.process? (e : ProcessEntry) : Option (Pid × List Char) := do
  let pid ← Text.unsigned? 10 UInt32.size e.name.toList
  let text ← Text.ofUtf8? (← e.cgroup)
  some (pid.toUInt32, text.toList)

def wanted (ids : List String) : List (String × List Char) :=
  (ids.map fun id => (id, cleanId id)).filterMap fun (id, clean) =>
    if minimumIdSize ≤ clean.utf8ByteSize then some (id, clean.toList) else none

def note (found : Std.ExtTreeMap String Pid) (id : String) (pid : Pid) :
    Std.ExtTreeMap String Pid :=
  match found[id]? with
  | some known => if pid < known then found.insert id pid else found
  | none => found.insert id pid

/-- The first process of each container that has one, in one pass over the processes. -/
def resolveAll (entries : List ProcessEntry) (ids : List String) : Std.ExtTreeMap String Pid :=
  (entries.filterMap ProcessEntry.process?).foldl
    (fun found (pid, cgroup) =>
      (wanted ids).foldl
        (fun found (id, clean) => if containsText cgroup clean then note found id pid else found)
        found)
    ∅

def resolve? (entries : List ProcessEntry) (id : String) : Option Pid :=
  (resolveAll entries [id])[id]?

end NodeDiagnostics.Host
