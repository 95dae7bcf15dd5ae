import NodeDiagnostics.Export.Store
import NodeDiagnostics.Text.Utf8

/-!
Uploading what collectors have gathered. Objects are named by the time of the run, the node and
the item. The container is seen to once, before the first upload, and again only as long as that
fails.
-/
namespace NodeDiagnostics.Export

abbrev Items := Std.ExtTreeMap String String

structure Destination where
  time : String
  node : String
deriving DecidableEq, Repr

namespace Destination

def path (d : Destination) : String :=
  String.ofList (d.time.toList.map fun c => if c = ':' then '-' else c) ++ "/" ++ d.node

def key (d : Destination) (item : String) : String := d.path ++ "/" ++ item

end Destination

structure ExportState (σ : Type) where
  containerReady : Bool
  host : σ

namespace ExportState

variable {σ α : Type}

def initial (host : σ) : ExportState σ := ⟨false, host⟩

def ask (request : Request σ α) : Request (ExportState σ) α := fun s =>
  let (answer, host) := request s.host
  (answer, { s with host := host })

def ensure (store : ObjectStore σ) : Request (ExportState σ) (Except Error Unit) := fun s =>
  if s.containerReady then (.ok (), s)
  else match ask store.ensureContainer s with
    | (.ok (), s) => (.ok (), { s with containerReady := true })
    | (.error e, s) => (.error e, s)

def putItem (store : ObjectStore σ) (d : Destination) (item : String) (content : List UInt8) :
    Request (ExportState σ) (Except Error Unit) := fun s =>
  let (answer, s) := ask (store.put (d.key item) content) s
  -- the failure names the item and not the key
  (answer.mapError (.upload item), s)

def putAll (store : ObjectStore σ) (d : Destination) :
    List (String × String) → Request (ExportState σ) (Except Error Unit)
  | [] => .always (.ok ())
  | (item, content) :: rest =>
    (putItem store d item (Text.utf8 content)).andThen fun () => putAll store d rest

/-- Upload a producer's items by ascending names. The container comes first, so trouble with it is
reported ahead of anything that the producer lacks. -/
def exportItems (store : ObjectStore σ) (d : Destination) (data : Request σ (Except Error Items)) :
    Request (ExportState σ) (Except Error Unit) :=
  (ensure store).andThen fun () =>
    (ask data).andThen fun items => putAll store d items.toList

def exportStream (store : ObjectStore σ) (d : Destination) (item : String)
    (content : Request σ (Except Error (List UInt8))) :
    Request (ExportState σ) (Except Error Unit) :=
  (ensure store).andThen fun () =>
    (ask content).andThen fun bytes => putItem store d item bytes

end ExportState
end NodeDiagnostics.Export
