import NodeDiagnostics.Error
import NodeDiagnostics.Json.Basic

namespace NodeDiagnostics

abbrev Pid := UInt32

structure Container where
  id : String
  namespaceName : String
  pod : String
  name : String
  /-- The container's first process, by which a registry knows it. -/
  pid : Pid
  hostNetwork : Bool
deriving DecidableEq, Repr, Inhabited

namespace Container

def path (c : Container) : String :=
  "/namespaces/" ++ c.namespaceName ++ "/pods/" ++ c.pod ++ "/containers/" ++ c.name

def toJson (c : Container) : Json :=
  .object [("id", .text c.id), ("namespace", .text c.namespaceName), ("pod", .text c.pod),
    ("name", .text c.name), ("pid", .integer c.pid.toNat), ("host_network", .bool c.hostNetwork)]

/-- A container of which every text and the process are given; it has a network of its own unless
it is said to share the node's. -/
def ofJson? (j : Json) : Option Container := do
  let text (name : String) : Option String := do (← j.member? name).text?
  let pid ← (← j.member? "pid").integer?
  return ⟨← text "id", ← text "namespace", ← text "pod", ← text "name", pid.toNat.toUInt32,
    ((j.member? "host_network").bind Json.bool?).getD false⟩

end Container

inductive ContainerEvent where
  | added (c : Container)
  | removed (c : Container)
deriving DecidableEq, Repr

def ContainerEvent.container : ContainerEvent → Container
  | added c => c
  | removed c => c

/-- The containers a tracer is meant for: a field that is absent admits every value. -/
structure Selector where
  namespaceName : Option String
  pod : Option String
  container : Option String
deriving DecidableEq, Repr

namespace Selector

def everything : Selector := ⟨none, none, none⟩

def admits (wanted : Option String) (actual : String) : Bool := wanted.all (· == actual)

def selects (s : Selector) (c : Container) : Bool :=
  admits s.namespaceName c.namespaceName && admits s.pod c.pod && admits s.container c.name

theorem everything_selects (c : Container) : everything.selects c = true := rfl

end Selector
end NodeDiagnostics
