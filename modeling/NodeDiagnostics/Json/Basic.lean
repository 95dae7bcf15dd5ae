import NodeDiagnostics.Number.Binary64

namespace NodeDiagnostics

inductive Json where
  | null
  | bool (b : Bool)
  | integer (n : Int)
  | real (x : Number.Binary64)
  | text (s : String)
  | array (items : List Json)
  | object (members : List (String × Json))
deriving Repr, Inhabited

namespace Json

def insertMember (name : String) (value : Json) : List (String × Json) → List (String × Json)
  | [] => [(name, value)]
  | (n, v) :: rest =>
    if name < n then (name, value) :: (n, v) :: rest
    else if name = n then (name, value) :: rest
    else (n, v) :: insertMember name value rest

/-- Ascending members, the last of those with one name. -/
def sorted (members : List (String × Json)) : List (String × Json) :=
  members.foldl (fun acc m => insertMember m.1 m.2 acc) []

def member? (j : Json) (name : String) : Option Json :=
  match j with
  | object members => (members.find? (·.1 = name)).map (·.2)
  | _ => none

def text? : Json → Option String
  | text s => some s
  | _ => none

def integer? : Json → Option Int
  | integer n => some n
  | _ => none

def bool? : Json → Option Bool
  | bool b => some b
  | _ => none

def items? : Json → Option (List Json)
  | array items => some items
  | _ => none

def members? : Json → Option (List (String × Json))
  | object members => some members
  | _ => none

def isNull : Json → Bool
  | null => true
  | _ => false

end Json
end NodeDiagnostics
