import NodeDiagnostics.Error
import NodeDiagnostics.Text.Blank

namespace NodeDiagnostics

structure Settings where
  os : String
  node : String
  excluded : List String
  account : String
  sasKey : String
  blobContainer : String
  sasKeyType : String
deriving DecidableEq, Repr

namespace Settings

def nodeVariable : String := "HOST_NODE_NAME"

def excludedVariable : String := "COLLECTOR_LIST"

def variableNames : List String :=
  [nodeVariable, excludedVariable, "AZURE_BLOB_ACCOUNT_NAME", "AZURE_BLOB_SAS_KEY",
    "AZURE_BLOB_CONTAINER_NAME", "AZURE_STORAGE_SAS_KEY_TYPE"]

def wordsOf (s : String) : List String := (Text.words s.toList).map String.ofList

/-- The settings that the variables describe. Only the node's name has to be given; an absent
variable counts as empty. -/
def ofVariables (os : String) (lookup : String → Option String) : Except Error Settings :=
  let value (name : String) : String := (lookup name).getD ""
  let node := Text.trim (value nodeVariable).toList
  if node.isEmpty then
    .error (.configuration (nodeVariable ++ " value not set for container"))
  else .ok {
    os
    node := String.ofList node
    excluded := wordsOf (value excludedVariable)
    account := value "AZURE_BLOB_ACCOUNT_NAME"
    sasKey := value "AZURE_BLOB_SAS_KEY"
    blobContainer := value "AZURE_BLOB_CONTAINER_NAME"
    sasKeyType := value "AZURE_STORAGE_SAS_KEY_TYPE" }

def excludes (s : Settings) (name : String) : Bool := s.excluded.contains name

def checkIncluded (s : Settings) (name : String) : Except Error Unit :=
  if s.excludes name then
    .error (.unsupported ("Not included because '" ++ name ++ "' is in " ++ excludedVariable ++
      " variable. Included values: " ++ " ".intercalate s.excluded))
  else .ok ()

def checkLinux (s : Settings) : Except Error Unit :=
  if s.os = "linux" then .ok () else .error (.unsupported ("unsupported OS: " ++ s.os))

end Settings
end NodeDiagnostics
