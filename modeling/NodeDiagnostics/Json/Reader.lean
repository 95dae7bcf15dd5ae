import NodeDiagnostics.Json.Token
import NodeDiagnostics.Json.Writer

namespace NodeDiagnostics.Json

def isSpace (c : Char) : Bool := c == ' ' || c == '\n' || c == '\t' || c == '\r'

def skipSpace (cs : List Char) : List Char := cs.dropWhile isSpace

def expect (v : Json) : List Char → Reader Json
  | [], cs => .ok (v, cs)
  | _ :: _, [] => fail .noMore []
  | w :: word, c :: cs => if w = c then expect v word cs else fail .notWord cs

structure Manner where
  string : Reader String
  number : Reader Json
  /-- A comma is told from one that has a value behind it before that value is looked for. -/
  minds : Bool

def Manner.reading : Manner := ⟨readString, readNumber, true⟩

def Manner.readingBytes : Manner := ⟨readByteString, readNumber, true⟩

def Manner.passing : Manner where
  string := (takeString .ending .nothing).map fun _ => ""
  number := (takeNumeral .ending).map fun _ => .null
  minds := false

inductive Bracket where
  | square
  | curly
deriving DecidableEq, Repr

namespace Bracket

def close : Bracket → Char
  | square => ']'
  | curly => '\x7d'

def unclosed : Bracket → Cause
  | square => .openArray
  | curly => .openObject

def unseparated : Bracket → Cause
  | square => .noCommaInArray
  | curly => .noCommaInObject

end Bracket

def behindComma (m : Manner) (b : Bracket) (cs : List Char) : Except Fault (List Char) :=
  match skipSpace cs with
  | [] => if m.minds then fail .noMore [] else .ok []
  | c :: rest => if m.minds && c == b.close then fail .trailingComma rest else .ok (c :: rest)

/-- The items behind an opening bracket up to the closing one, each read by `item`; the fuel
bounds their number. -/
def readSeries {α : Type} (m : Manner) (b : Bracket) (item : Reader α) : Nat → Reader (List α)
  | 0, cs => fail b.unclosed cs
  | fuel + 1, cs => do
    let (first, rest) ← item cs
    match skipSpace rest with
    | [] => fail b.unclosed []
    | ',' :: rest =>
      let (others, rest) ← readSeries m b item fuel (← behindComma m b rest)
      .ok (first :: others, rest)
    | c :: rest => if c = b.close then .ok ([first], rest) else fail b.unseparated rest

def readItems {α : Type} (m : Manner) (b : Bracket) (item : Reader α) : Reader (List α) :=
  fun cs => match skipSpace cs with
    | [] => fail b.unclosed []
    -- every item takes a character, so there are no more items than characters
    | c :: rest => if c = b.close then .ok ([], rest) else readSeries m b item cs.length (c :: rest)

def readMember {α : Type} (m : Manner) (value : String → Reader α) : Reader (String × α)
  | '"' :: rest => do
    let (name, rest) ← m.string rest
    match skipSpace rest with
    | [] => fail .openObject []
    | ':' :: rest =>
      let (v, rest) ← value name (skipSpace rest)
      .ok ((name, v), rest)
    | _ :: rest => fail .noColon rest
  | [] => fail .openObject []
  | _ :: rest => fail .nameNotText rest

def readScalar (m : Manner) : Reader Json
  | 'n' :: rest => expect .null ['u', 'l', 'l'] rest
  | 't' :: rest => expect (.bool true) ['r', 'u', 'e'] rest
  | 'f' :: rest => expect (.bool false) ['a', 'l', 's', 'e'] rest
  | '"' :: rest => m.string.map .text rest
  | [] => fail .noMore []
  | c :: rest => if c = '-' ∨ c.isDigit then m.number (c :: rest) else fail .notValue rest

def readValue (m : Manner) : Nat → Reader Json
  | 0, '[' :: rest => fail .tooDeep rest
  | 0, '\x7b' :: rest => fail .tooDeep rest
  | depth + 1, '[' :: rest =>
    (readItems m .square (readValue m depth)).map .array rest
  | depth + 1, '\x7b' :: rest =>
    (readItems m .curly (readMember m fun _ => readValue m depth)).map
      (fun members => .object (sorted members)) rest
  | _, cs => readScalar m cs

def readWhole {α : Type} (r : Reader α) (cs : List Char) : Except Fault α := do
  let (v, rest) ← r (skipSpace cs)
  match skipSpace rest with
  | [] => .ok v
  | _ :: rest => fail .trailingText rest

def read? (s : String) : Option Json := (readWhole (readValue .reading 127) s.toList).toOption

def skip : Reader Unit := fun cs => (readValue .passing cs.length).map (fun _ => ()) cs

example : (read? " \x7b\"b\":1,\"a\":[true,\"\\ud83d\\ude00\"],\"b\":-0\x7d\n").map compact =
    some "\x7b\"a\":[true,\"😀\"],\"b\":-0.0\x7d" := by decide +kernel
example : (read? "[1,]").isNone ∧ (read? "\"\\ud83d\"").isNone ∧ (read? "1e309").isNone := by
  decide +kernel
example : (skip "[1e309,\"\\ud83d\"],".toList).toOption = some ((), [',']) := by decide +kernel

end NodeDiagnostics.Json
