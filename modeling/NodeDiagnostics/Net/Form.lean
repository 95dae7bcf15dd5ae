import NodeDiagnostics.Text.Numeral
import NodeDiagnostics.Text.Utf8

namespace NodeDiagnostics.Net.Form

def isPlain (b : UInt8) : Bool :=
  (65 ≤ b && b ≤ 90) || (97 ≤ b && b ≤ 122) || (48 ≤ b && b ≤ 57) ||
    b == 42 || b == 45 || b == 46 || b == 95

def encodeByte (b : UInt8) : List Char :=
  if isPlain b then [Char.ofNat b.toNat] else if b = 0x20 then ['+'] else Text.percentByte b

def encode (s : String) : List Char := (Text.utf8 s).flatMap encodeByte

def encodeParameter (p : String × String) : List Char :=
  '&' :: encode p.1 ++ '=' :: encode p.2

/-- The bytes that a written name or value stands for. A percent sign without two digits behind it
stands for itself. -/
def writtenBytes : List Char → List UInt8
  | [] => []
  | '+' :: rest => 0x20 :: writtenBytes rest
  | '%' :: a :: b :: rest =>
    match Text.natural? 16 [a, b] with
    | some n => n.toUInt8 :: writtenBytes rest
    | none => 0x25 :: writtenBytes (a :: b :: rest)
  | c :: rest => String.utf8EncodeChar c ++ writtenBytes rest

def decode (cs : List Char) : String := Text.ofUtf8Lossy (writtenBytes cs)

/-- What a piece between ampersands gives: up to its first equals sign the name, behind it the
value, which is empty where there is none. -/
def decodeParameter (piece : List Char) : String × String :=
  (decode (piece.takeWhile (· ≠ '=')), decode ((piece.dropWhile (· ≠ '=')).drop 1))

def parameters (cs : List Char) : List (String × String) :=
  ((cs.splitOnP (· == '&')).filter fun piece => !piece.isEmpty).map decodeParameter

example : parameters ([("a b", "é&"), ("", "~*")].flatMap encodeParameter) =
    [("a b", "é&"), ("", "~*")] := by decide +kernel
example : parameters "x&&y=%4z=+".toList = [("x", ""), ("y", "%4z= ")] := by decide +kernel

end NodeDiagnostics.Net.Form
