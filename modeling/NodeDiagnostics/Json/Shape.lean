import NodeDiagnostics.Json.Reader
import NodeDiagnostics.Text.Quoted

/-!
Shapes that a value is held against without being kept. The text is given byte by byte: every
character stands for one byte, so that places in the text count bytes.
-/
namespace NodeDiagnostics.Json

abbrev Shape := Reader Unit

def describe : Json → String
  | null => "null"
  | bool b => "boolean `" ++ toString b ++ "`"
  | integer n => "integer `" ++ toString n ++ "`"
  | real x => "floating point `" ++ String.ofList x.text ++ "`"
  | text s => "string " ++ Text.quoted s
  | array _ => "sequence"
  | object _ => "map"

namespace Shape

/-- Complain about the value at the front of a text: of another type than the expected one, or
none at all. A value without brackets is read first. -/
def refuse {α : Type} (expected : String) (cs : List Char) : Except Fault α :=
  match cs with
  | '[' :: _ => fail (.wrongType (describe (.array [])) expected) cs
  | '\x7b' :: _ => fail (.wrongType (describe (.object [])) expected) cs
  | _ => do
    let (v, rest) ← readScalar .readingBytes cs
    fail (.wrongType (describe v) expected) rest

def readText : Reader String := fun cs =>
  match skipSpace cs with
  | '"' :: rest => readByteString rest
  | cs => refuse "a string" cs

def text : Shape := readText.map fun _ => ()

def pastObject (cs : List Char) : List Char :=
  match skipSpace cs with
  | '\x7d' :: rest => rest
  | rest => rest

/-- A member that has to be one string. The complaint comes when its object is left. -/
def word (w : String) : Shape := fun cs => do
  let (s, rest) ← readText cs
  if s = w then .ok ((), rest) else fail (.wrongValue (describe (.text s)) w) (pastObject rest)

def integer (name : String) (low high : Int) : Shape := fun cs =>
  match skipSpace cs with
  | '[' :: rest => refuse name ('[' :: rest)
  | '\x7b' :: rest => refuse name ('\x7b' :: rest)
  | cs => do
    match ← readScalar .readingBytes cs with
    | (.integer n, rest) =>
      if low ≤ n ∧ n ≤ high then .ok ((), rest)
      else fail (.wrongValue (describe (.integer n)) name) rest
    | (v, rest) => fail (.wrongType (describe v) name) rest

def int32 : Shape := integer "i32" (-0x80000000) 0x7fffffff

def int64 : Shape := integer "i64" (-0x8000000000000000) 0x7fffffffffffffff

def optional (shape : Shape) : Shape := fun cs =>
  match skipSpace cs with
  | 'n' :: rest => (expect .null ['u', 'l', 'l']).map (fun _ => ()) rest
  | cs => shape cs

def listOf (item : Shape) : Shape := fun cs =>
  match skipSpace cs with
  | '[' :: rest => (readItems .readingBytes .square item).map (fun _ => ()) rest
  | cs => refuse "a sequence" cs

def pastFirst (cs : List Char) : List Char :=
  match skipSpace cs with
  | ']' :: rest => rest
  | ',' :: rest => skipSpace rest
  | rest => rest

/-- An object whose members of known names have the shapes given; the others may be anything. -/
def record (name : String) (members : List (String × Shape)) : Shape := fun cs =>
  let value (member : String) : Shape := ((members.find? (·.1 = member)).map (·.2)).getD skip
  match skipSpace cs with
  | '\x7b' :: rest =>
    (readItems .readingBytes .curly (readMember .readingBytes value)).map (fun _ => ()) rest
  | '[' :: rest => fail (.wrongType (describe (.array [])) name) (pastFirst rest)
  | cs => refuse name cs

def flaw? (shape : Shape) (bytes : List UInt8) : Option Flaw :=
  let text := bytes.map fun b => Char.ofNat b.toNat
  match readWhole shape text with
  | .ok () => none
  | .error fault => some (fault.locate text)

end Shape

example : ((Shape.record "Point" [("x", .int32)]).flaw?
    (Text.utf8 "\x7b\"é\":[],\"x\":1.5\x7d")).map Flaw.text =
    some "invalid type: floating point `1.5`, expected i32 at line 1 column 16" := by
  decide +kernel
example : ((Shape.listOf (.optional .text)).flaw? (Text.utf8 "[null,\n\"n\",]")).map Flaw.text =
    some "trailing comma at line 2 column 5" := by decide +kernel

end NodeDiagnostics.Json
