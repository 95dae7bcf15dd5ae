import NodeDiagnostics.Text.Numeral
import NodeDiagnostics.Text.Utf8

namespace NodeDiagnostics.Export

def isPlain (b : UInt8) : Bool :=
  (65 ≤ b && b ≤ 90) || (97 ≤ b && b ≤ 122) || (48 ≤ b && b ≤ 57) ||
    b == 45 || b == 95 || b == 46 || b == 126 || b == 47

def encodeByte (b : UInt8) : List Char :=
  if isPlain b then [Char.ofNat b.toNat] else Text.percentByte b

def encodeName (name : String) : String :=
  String.ofList ((Text.utf8 name).flatMap encodeByte)

example : encodeName "a b:c/é" = "a%20b%3Ac/%C3%A9" := by decide +kernel

end NodeDiagnostics.Export
