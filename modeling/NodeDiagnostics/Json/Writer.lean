import NodeDiagnostics.Json.Basic
import NodeDiagnostics.Number.Shortest
import NodeDiagnostics.Text.Numeral

namespace NodeDiagnostics.Json

def escapeChar (c : Char) : List Char :=
  if c = '"' then ['\\', '"']
  else if c = '\\' then ['\\', '\\']
  else if c = '\n' then ['\\', 'n']
  else if c = '\r' then ['\\', 'r']
  else if c = '\t' then ['\\', 't']
  else if c = '\x08' then ['\\', 'b']
  else if c = '\x0c' then ['\\', 'f']
  else if c.toNat < 0x20 then ['\\', 'u', '0', '0'] ++ Text.hexByte false c.toNat.toUInt8
  else [c]

def writeString (s : String) : List Char :=
  '"' :: s.toList.flatMap escapeChar ++ ['"']

def writeInteger (n : Int) : List Char :=
  if n < 0 then '-' :: Nat.toDigits 10 n.natAbs else Nat.toDigits 10 n.natAbs

mutual

def compactChars : Json → List Char
  | .null => ['n', 'u', 'l', 'l']
  | .bool true => ['t', 'r', 'u', 'e']
  | .bool false => ['f', 'a', 'l', 's', 'e']
  | .integer n => writeInteger n
  | .real x => x.text
  | .text s => writeString s
  | .array items => '[' :: compactItems items ++ [']']
  | .object members => '\x7b' :: compactMembers members ++ ['\x7d']

def compactItems : List Json → List Char
  | [] => []
  | [j] => compactChars j
  | j :: rest => compactChars j ++ ',' :: compactItems rest

def compactMembers : List (String × Json) → List Char
  | [] => []
  | [(name, j)] => writeString name ++ ':' :: compactChars j
  | (name, j) :: rest => writeString name ++ ':' :: compactChars j ++ ',' :: compactMembers rest

end

def newline (level : Nat) : List Char := '\n' :: List.replicate (2 * level) ' '

mutual

def prettyChars (level : Nat) : Json → List Char
  | .array [] => ['[', ']']
  | .array items => '[' :: prettyItems (level + 1) items ++ newline level ++ [']']
  | .object [] => ['\x7b', '\x7d']
  | .object members =>
    '\x7b' :: prettyMembers (level + 1) members ++ newline level ++ ['\x7d']
  | .null => ['n', 'u', 'l', 'l']
  | .bool true => ['t', 'r', 'u', 'e']
  | .bool false => ['f', 'a', 'l', 's', 'e']
  | .integer n => writeInteger n
  | .real x => x.text
  | .text s => writeString s

def prettyItems (level : Nat) : List Json → List Char
  | [] => []
  | [j] => newline level ++ prettyChars level j
  | j :: rest => newline level ++ prettyChars level j ++ ',' :: prettyItems level rest

def prettyMembers (level : Nat) : List (String × Json) → List Char
  | [] => []
  | [(name, j)] => newline level ++ writeString name ++ ':' :: ' ' :: prettyChars level j
  | (name, j) :: rest =>
    newline level ++ writeString name ++ ':' :: ' ' :: prettyChars level j ++
      ',' :: prettyMembers level rest

end

def escapeUnit (n : Nat) : List Char :=
  ['\\', 'u'] ++ Text.hexByte false (n / 0x100).toUInt8 ++ Text.hexByte false (n % 0x100).toUInt8

/-- A character in ASCII: one escape, or two for what lies beyond the first plane. -/
def asciiChar (c : Char) : List Char :=
  if c.toNat < 0x80 then [c]
  else if c.toNat < 0x10000 then escapeUnit c.toNat
  else
    escapeUnit (0xd800 + (c.toNat - 0x10000) / 0x400) ++
      escapeUnit (0xdc00 + (c.toNat - 0x10000) % 0x400)

def asciiText (s : String) : String := String.ofList (s.toList.flatMap asciiChar)

def compact (j : Json) : String := String.ofList j.compactChars

def pretty (j : Json) : String := String.ofList (j.prettyChars 0)

example : compact (.object [("a", .array [.integer (-1), .null]), ("b", .text "\"\x01\n")]) =
    "\x7b\"a\":[-1,null],\"b\":\"\\\"\\u0001\\n\"\x7d" := by decide +kernel
example : pretty (.object [("a", .array []), ("b", .array [.bool true])]) =
    "\x7b\n  \"a\": [],\n  \"b\": [\n    true\n  ]\n\x7d" := by decide +kernel
example : asciiText "\"é😀\"" = "\"\\u00e9\\ud83d\\ude00\"" := by decide +kernel

end NodeDiagnostics.Json
