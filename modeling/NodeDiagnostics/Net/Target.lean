import NodeDiagnostics.Net.Form

namespace NodeDiagnostics.Net

inductive TargetFault where
  | tooLong
  | badCharacter
deriving DecidableEq, Repr

def TargetFault.text : TargetFault → String
  | tooLong => "uri too long"
  | badCharacter => "invalid uri character"

structure Target where
  path : String
  parameters : List (String × String)
deriving DecidableEq, Repr

namespace Target

def maxSize : Nat := 65534

def isVisible (c : Char) : Bool := 0x20 < c.toNat && c.toNat ≠ 0x7f

def isPathChar (c : Char) : Bool := isVisible c && c ≠ '<' && c ≠ '>' && c.toNat ≠ 0x60

def isQueryChar (c : Char) : Bool := isVisible c && c ≠ '<' && c ≠ '>' && c ≠ '"'

def text (path : String) (parameters : List (String × String)) : String :=
  path ++ "?" ++ String.ofList (parameters.flatMap Form.encodeParameter)

def ofText (s : String) : Except TargetFault Target :=
  let shown := s.toList.takeWhile (· ≠ '#')
  let path := shown.takeWhile (· ≠ '?')
  let query := (shown.dropWhile (· ≠ '?')).drop 1
  if maxSize < s.utf8ByteSize then .error .tooLong
  else if path.all isPathChar && query.all isQueryChar then
    .ok ⟨String.ofList path, Form.parameters query⟩
  else .error .badCharacter

example : (ofText (text "/a\"é" [("k", "v w")])).toOption = some ⟨"/a\"é", [("k", "v w")]⟩ := by
  decide +kernel
example : (ofText "/a?b#c d").toOption = some ⟨"/a", [("b", "")]⟩ ∧
    (ofText "/a?\"").toOption = none := by decide +kernel

end Target
end NodeDiagnostics.Net
