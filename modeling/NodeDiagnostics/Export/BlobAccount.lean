import NodeDiagnostics.Export.PercentEncoding
import NodeDiagnostics.Export.Store
import NodeDiagnostics.Net.Url
import NodeDiagnostics.Settings

namespace NodeDiagnostics.Export

structure BlobAccount where
  account : String
  container : String
  sasKey : String
  sasKeyType : String
  hostSuffix : String
  endpoint : Option String
deriving DecidableEq, Repr

structure BlobRequest where
  url : String
  version : String
  blobType : Option String
  length : Option Nat
  body : List UInt8
deriving DecidableEq, Repr

def BlobRequest.target (r : BlobRequest) : String := Net.Url.target r.url

structure BlobResponse where
  status : Nat
  errorCode : Option (List UInt8)
deriving DecidableEq, Repr

namespace BlobResponse

def isSuccess (r : BlobResponse) : Bool := 200 ≤ r.status && r.status < 300

def isPad (b : UInt8) : Bool := b == 32 || b == 9

/-- The named error; unknown if none is named or the name is not made of visible characters. -/
def code (r : BlobResponse) : String :=
  match r.errorCode with
  | none => "unknown"
  | some bytes =>
    let value := ((bytes.dropWhile isPad).reverse.dropWhile isPad).reverse
    if value.all fun b => b == 9 || (32 ≤ b && b < 127) then
      String.ofList (value.map fun b => Char.ofNat b.toNat)
    else "unknown"

end BlobResponse

namespace BlobAccount

def ofSettings (s : Settings) (hostSuffix : String) : BlobAccount :=
  ⟨s.account, s.blobContainer, s.sasKey, s.sasKeyType, hostSuffix, none⟩

/-- Send requests elsewhere; slashes at the end do not count. -/
def withEndpoint (a : BlobAccount) (endpoint : String) : BlobAccount :=
  { a with
    endpoint := some (String.ofList (endpoint.toList.reverse.dropWhile (· == '/')).reverse) }

def containerUrl (a : BlobAccount) : Except Error String :=
  if a.account = "" ∨ a.sasKey = "" ∨ a.container = "" then .error .storageNotConfigured
  else
    let endpoint := a.endpoint.getD ("https://" ++ a.account ++ ".blob." ++ a.hostSuffix)
    .ok (endpoint ++ "/" ++ a.container)

def sasQuery (a : BlobAccount) : String := String.ofList (a.sasKey.toList.dropWhile (· == '?'))

def apiVersion : String := "2021-08-06"

def containerKeyType : String := "Container"

def creationRequest (a : BlobAccount) (url : String) : BlobRequest :=
  ⟨url ++ "?restype=container&" ++ a.sasQuery, apiVersion, none, some 0, []⟩

def putRequest (a : BlobAccount) (url key : String) (content : List UInt8) : BlobRequest :=
  -- an empty object states no length
  ⟨url ++ "/" ++ encodeName key ++ "?" ++ a.sasQuery, apiVersion, some "BlockBlob",
    if content.isEmpty then none else some content.length, content⟩

variable {σ : Type}

/-- Create the container, unless the signature is one for a container. That it exists is no
failure. -/
def ensureContainer (a : BlobAccount) (send : BlobRequest → Request σ BlobResponse) :
    Request σ (Except Error Unit) := fun s =>
  match a.containerUrl with
  | .error e => (.error e, s)
  | .ok url =>
    if a.sasKeyType = containerKeyType then (.ok (), s)
    else
      let (response, s) := send (a.creationRequest url) s
      if response.isSuccess || (response.status == 409 && response.code == "ContainerAlreadyExists")
      then (.ok (), s)
      else (.error (.containerCreation response.status response.code), s)

def put (a : BlobAccount) (send : BlobRequest → Request σ BlobResponse) (key : String)
    (content : List UInt8) : Request σ (Except Error Unit) := fun s =>
  match a.containerUrl with
  | .error e => (.error e, s)
  | .ok url =>
    let (response, s) := send (a.putRequest url key content) s
    if response.isSuccess then (.ok (), s)
    else (.error (.storage response.status response.code), s)

def store (a : BlobAccount) (send : BlobRequest → Request σ BlobResponse) : ObjectStore σ :=
  ⟨a.ensureContainer send, a.put send⟩

end BlobAccount
end NodeDiagnostics.Export
