import NodeDiagnostics.Text.Utf8

/-!
Domain names on the wire: labels behind their lengths, ended by a zero byte. A name in a question
is never compressed, so a length of 64 or more ends the reading.
-/
namespace NodeDiagnostics.Dns

def readLabels? : List UInt8 → Option (List (List UInt8) × List UInt8)
  | [] => none
  | n :: rest =>
    -- either of the two high bits rules out that this is the length of a label
    if n = 0 then some ([], rest)
    else if n &&& 0xc0 ≠ 0 ∨ rest.length < n.toNat then none
    else do
      let (labels, rest') ← readLabels? (rest.drop n.toNat)
      some (rest.take n.toNat :: labels, rest')
termination_by bytes => bytes.length
decreasing_by simp only [List.length_drop, List.length_cons]; omega

def maxNameSize : Nat := 255

/-- Every label followed by a dot; the root alone is a single dot. -/
def nameText (labels : List (List UInt8)) : String :=
  if labels.isEmpty then "."
  else String.join (labels.map fun l => Text.ofUtf8Lossy l ++ ".")

def readName? (bytes : List UInt8) : Option (String × List UInt8) := do
  let (labels, rest) ← readLabels? bytes
  let name := nameText labels
  if name.utf8ByteSize ≤ maxNameSize then some (name, rest) else none

example : readName? [1, 0x61, 2, 0x62, 0x63, 0, 9] = some ("a.bc.", [9]) := by
  simp [readName?, readLabels?, nameText]; decide +kernel

end NodeDiagnostics.Dns
