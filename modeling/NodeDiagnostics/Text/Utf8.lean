/-!
UTF-8 read byte by byte. A byte that cannot continue the sequence before it ends that sequence as
invalid and is then looked at afresh, so every longest invalid piece counts once.
-/
namespace NodeDiagnostics.Text

structure Unfinished where
  bits : Nat
  missing : Nat
  low : UInt8
  high : UInt8

def lead (b : UInt8) : List (Option Char) × Option Unfinished :=
  if b < 0x80 then ([some (Char.ofNat b.toNat)], none)
  else if 0xc2 ≤ b ∧ b ≤ 0xdf then ([], some ⟨b.toNat - 0xc0, 1, 0x80, 0xbf⟩)
  else if b = 0xe0 then ([], some ⟨0, 2, 0xa0, 0xbf⟩)
  else if b = 0xed then ([], some ⟨0xd, 2, 0x80, 0x9f⟩)
  else if 0xe1 ≤ b ∧ b ≤ 0xef then ([], some ⟨b.toNat - 0xe0, 2, 0x80, 0xbf⟩)
  else if b = 0xf0 then ([], some ⟨0, 3, 0x90, 0xbf⟩)
  else if 0xf1 ≤ b ∧ b ≤ 0xf3 then ([], some ⟨b.toNat - 0xf0, 3, 0x80, 0xbf⟩)
  else if b = 0xf4 then ([], some ⟨4, 3, 0x80, 0x8f⟩)
  else ([none], none)

def feed (pending : Option Unfinished) (b : UInt8) : List (Option Char) × Option Unfinished :=
  match pending with
  | none => lead b
  | some p =>
    if p.low ≤ b ∧ b ≤ p.high then
      let bits := p.bits * 64 + (b.toNat - 0x80)
      if p.missing ≤ 1 then ([some (Char.ofNat bits)], none)
      else ([], some ⟨bits, p.missing - 1, 0x80, 0xbf⟩)
    else
      let (pieces, next) := lead b
      (none :: pieces, next)

/-- The scalar values of a byte string, `none` standing for each invalid piece. -/
def scalarsFrom (pending : Option Unfinished) : List UInt8 → List (Option Char)
  | [] => if pending.isSome then [none] else []
  | b :: rest =>
    let (pieces, next) := feed pending b
    pieces ++ scalarsFrom next rest

def scalars (bytes : List UInt8) : List (Option Char) := scalarsFrom none bytes

def ofUtf8? (bytes : List UInt8) : Option String :=
  ((scalars bytes).mapM id).map String.ofList

def validPart (bytes : List UInt8) : String :=
  String.ofList (((scalars bytes).takeWhile Option.isSome).filterMap id)

def ofUtf8Lossy (bytes : List UInt8) : String :=
  String.ofList ((scalars bytes).map fun c => c.getD '\ufffd')

def utf8 (s : String) : List UInt8 := s.toList.flatMap String.utf8EncodeChar

example : ofUtf8? (utf8 "aé€😀") = some "aé€😀" := by decide +kernel
example : validPart [0xc3, 0xa9, 0xe2, 0x82, 0x62] = "é" := by decide +kernel
example : ofUtf8Lossy [0x61, 0xe2, 0x82, 0x62, 0xff, 0xf0] = "a\ufffdb\ufffd\ufffd" := by
  decide +kernel

end NodeDiagnostics.Text
