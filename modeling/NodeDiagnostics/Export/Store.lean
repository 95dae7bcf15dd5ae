import NodeDiagnostics.Tracer
import Std.Data.ExtTreeMap.Lemmas

namespace NodeDiagnostics.Export

structure ObjectStore (σ : Type) where
  ensureContainer : Request σ (Except Error Unit)
  put : String → List UInt8 → Request σ (Except Error Unit)

structure MemoryStore where
  objects : Std.ExtTreeMap String (List UInt8)
  containerCreated : Bool
  refusesContainer : Bool
  /-- Objects whose last part of the key is one of these are refused. -/
  failing : List String
  puts : Nat

namespace MemoryStore

def empty : MemoryStore := ⟨∅, false, false, [], 0⟩

def itemOf (key : String) : String :=
  String.ofList (key.toList.reverse.takeWhile (· != '/')).reverse

def ensureContainer : Request MemoryStore (Except Error Unit) := fun m =>
  if m.refusesContainer then
    (.error (.containerCreation 403 "AuthorizationPermissionMismatch"), m)
  else (.ok (), { m with containerCreated := true })

def put (key : String) (content : List UInt8) : Request MemoryStore (Except Error Unit) := fun m =>
  let m := { m with puts := m.puts + 1 }
  if itemOf key ∈ m.failing then (.error (.storage 500 "InternalError"), m)
  else (.ok (), { m with objects := m.objects.insert key content })

theorem getElem?_put_of_ok {m m' : MemoryStore} {key other : String} {content : List UInt8}
    (h : put key content m = (.ok (), m')) :
    m'.objects[other]? = if key = other then some content else m.objects[other]? := by
  simp only [put] at h
  split at h
  · simp at h
  · simp only [Prod.mk.injEq, true_and] at h
    subst h
    simp [Std.ExtTreeMap.getElem?_insert]

def store : ObjectStore MemoryStore := ⟨ensureContainer, put⟩

end MemoryStore
end NodeDiagnostics.Export
