import NodeDiagnostics.Json.Reader
import NodeDiagnostics.Text.Utf8

namespace NodeDiagnostics.Cloud

def filePath : String := "/etc/kubernetes/azure.json"

def publicSuffix : String := "core.windows.net"

def suffixOf (cloud : String) : String :=
  match String.ofList (cloud.toList.map Char.toLower) with
  | "azurechinacloud" => "core.chinacloudapi.cn"
  | "azureusgovernmentcloud" => "core.usgovcloudapi.net"
  | "azureusgovernment" => "core.usgovcloudapi.net"
  | _ => publicSuffix

def string : Json.Reader String
  | '"' :: rest => Json.readString rest
  | cs => Json.fail .notValue cs

/-- The value of a member of the description: the text of the cloud's name, or `none` for a member
that is passed over whatever its value. -/
def memberValue (name : String) : Json.Reader (Option String) :=
  if name = "cloud" then string.map some else Json.skip.map fun _ => none

def names : Json.Reader (List String)
  | '\x7b' :: rest =>
    (Json.readItems .reading .curly (Json.readMember .reading memberValue)).map
      (·.filterMap (·.2)) rest
  | '[' :: rest => Json.readItems .reading .square string rest
  | cs => Json.fail .notValue cs

def name? (text : String) : Option String :=
  match Json.readWhole names text.toList with
  | .ok [] => some ""
  | .ok [name] => some name
  | _ => none

def storageSuffix (file : Option (List UInt8)) : String :=
  match (file.bind Text.ofUtf8?).bind name? with
  | some name => suffixOf name
  | none => publicSuffix

example : storageSuffix (some (Text.utf8 "\x7b\"cloud\":\"AzureChinaCloud\",\"n\":1e999\x7d")) =
    "core.chinacloudapi.cn" := by decide +kernel

end NodeDiagnostics.Cloud
