import NodeDiagnostics.Json.Fault
import NodeDiagnostics.Text.Numeral
import NodeDiagnostics.Text.Utf8

/-!
The tokens of JSON text that carry a value: numerals and strings. A token is read for what it
says or only to find its end; then a number may be of any size and a surrogate may stand alone.
-/
namespace NodeDiagnostics.Json

inductive Aim where
  | content
  | ending
deriving DecidableEq, Repr

structure Numeral where
  negative : Bool
  whole : List Nat
  fraction : List Nat
  exponent : Option (Bool × List Nat)
deriving DecidableEq, Repr

def takeDigits (cs : List Char) : List Nat × List Char :=
  ((cs.takeWhile Char.isDigit).map fun c => c.toNat - '0'.toNat, cs.dropWhile Char.isDigit)

def noDigit {α : Type} (aim : Aim) : List Char → Except Fault α
  | [] => fail (match aim with | .content => .noMore | .ending => .badNumber) []
  | _ :: rest => fail .badNumber rest

def takeSomeDigits (aim : Aim) : Reader (List Nat) := fun cs =>
  match takeDigits cs with
  | ([], rest) => noDigit aim rest
  | r => .ok r

def takeWhole (aim : Aim) : Reader (List Nat) := fun cs =>
  match takeSomeDigits aim cs with
  | .ok (0 :: _ :: _, _) => fail .badNumber (cs.drop 2)
  | r => r

def takeFraction (aim : Aim) : Reader (List Nat)
  | '.' :: rest => takeSomeDigits aim rest
  | cs => .ok ([], cs)

def takeExponent (aim : Aim) : Reader (Option (Bool × List Nat)) := fun cs =>
  let digits (negative : Bool) : Reader (Option (Bool × List Nat)) :=
    (takeSomeDigits aim).map fun ds => some (negative, ds)
  match cs with
  | 'e' :: rest | 'E' :: rest => match rest with
    | '+' :: rest => digits false rest
    | '-' :: rest => digits true rest
    | _ => digits false rest
  | cs => .ok (none, cs)

def takeNumeral (aim : Aim) : Reader Numeral := fun cs => do
  let (negative, cs) := match cs with
    | '-' :: rest => (true, rest)
    | cs => (false, cs)
  let (whole, cs) ← takeWhole aim cs
  let (fraction, cs) ← takeFraction aim cs
  let (exponent, cs) ← takeExponent aim cs
  .ok (⟨negative, whole, fraction, exponent⟩, cs)

def accumulate : Nat → List Nat → Nat × List Nat
  | n, [] => (n, [])
  | n, d :: rest =>
    if n * 10 + d < UInt64.size then accumulate (n * 10 + d) rest else (n, d :: rest)

def dividePower (x : Number.Binary64) (k : Nat) : Option Number.Binary64 :=
  -- no greater power of ten is a finite number
  if h : k ≤ 308 then do x.div? (← Number.Binary64.ofNat? (Nat.pow 10 k))
  else if x.isZero then some x
  else do dividePower (← x.div? (← Number.Binary64.ofNat? (Nat.pow 10 308))) (k - 308)
termination_by k

/-- A significand of 64 bits times a power of ten: both are rounded before they are multiplied or
divided, and the result is rounded again. -/
def scaleTen? (significand : Nat) (exponent : Int) : Option Number.Binary64 := do
  let x ← Number.Binary64.ofNat? significand
  if exponent < 0 then dividePower x exponent.natAbs
  else if exponent ≤ 308 then x.mul? (← Number.Binary64.ofNat? (Nat.pow 10 exponent.toNat))
  else if x.isZero then some x
  else none

namespace Numeral

def ofDigits (ds : List Nat) : Nat := ds.foldl (fun n d => n * 10 + d) 0

def isWhole (n : Numeral) : Bool := n.fraction.isEmpty && n.exponent.isNone

def power (n : Numeral) : Int :=
  match n.exponent with
  | none => 0
  | some (negative, ds) => if negative then -(ofDigits ds : Int) else ofDigits ds

/-- The number that a numeral stands for. A whole number of 64 bits stays whole, except minus
zero; all others are double-precision numbers, and one that is too large has no value. -/
def value? (n : Numeral) : Option Json :=
  let signed (x : Number.Binary64) : Json := .real (if n.negative then x.negate else x)
  let (whole, wholeRest) := accumulate 0 n.whole
  if n.isWhole && wholeRest.isEmpty then
    if !n.negative then some (.integer whole)
    else if 0 < whole ∧ whole ≤ 0x8000000000000000 then some (.integer (-(whole : Int)))
    else (Number.Binary64.ofNat? whole).map signed
  else
    let (significand, fractionRest) := accumulate whole n.fraction
    let shift : Int := (wholeRest.length : Int) - (n.fraction.length - fractionRest.length : Nat)
    (scaleTen? significand (shift + n.power)).map signed

def beyondWord : Nat → List Nat → List Nat
  | _, [] => []
  | n, d :: rest => if 0x80000000 ≤ n * 10 + d then rest else beyondWord (n * 10 + d) rest

/-- How many of the numeral's last digits are not looked at when it is too large: those of the
exponent that follow when it has left 31 bits. -/
def unseen (n : Numeral) : Nat :=
  match n.exponent with
  | none => 0
  | some (_, ds) => (beyondWord 0 ds).length

end Numeral

def readNumber : Reader Json := fun cs => do
  let (n, rest) ← takeNumeral .content cs
  match n.value? with
  | some v => .ok (v, rest)
  | none => fail .hugeNumber (cs.drop (cs.length - rest.length - n.unseen))

inductive Element where
  | plain (c : Char)
  | escaped (c : Char)
deriving DecidableEq, Repr

def Element.char : Element → Char
  | plain c => c
  | escaped c => c

def Element.bytes : Element → List UInt8
  | plain c => [c.toNat.toUInt8]
  | escaped c => String.utf8EncodeChar c

def shortEscape? : Char → Option Char
  | '"' => some '"'
  | '\\' => some '\\'
  | '/' => some '/'
  | 'b' => some '\x08'
  | 'f' => some '\x0c'
  | 'n' => some '\n'
  | 'r' => some '\r'
  | 't' => some '\t'
  | _ => none

/-- What the last characters of a string have begun: an escape, the digits of a 16-bit unit, or
the escape of a pair's second unit. A unit that is to complete a pair knows the first one. -/
inductive Pending where
  | nothing
  | escape
  | digits (first : Option Nat) (written : List Char)
  | pair (first : Nat)
  | pairEscape (first : Nat)
deriving DecidableEq, Repr

def joinUnit (first : Option Nat) (unit : Nat) : Except Cause (Char ⊕ Nat) :=
  let isSecond := decide (0xdc00 ≤ unit ∧ unit < 0xe000)
  match first with
  | some first =>
    if isSecond then .ok (.inl (Char.ofNat (0x10000 + (first - 0xd800) * 0x400 + (unit - 0xdc00))))
    else .error .loneSurrogate
  | none =>
    if isSecond then .error .loneSurrogate
    else if 0xd800 ≤ unit ∧ unit < 0xdc00 then .ok (.inr unit)
    else .ok (.inl (Char.ofNat unit))

def pushElement (e : Element) (r : Except Fault (List Element × List Char)) :
    Except Fault (List Element × List Char) :=
  r.map fun (es, rest) => (e :: es, rest)

def takeString (aim : Aim) : Pending → Reader (List Element)
  | _, [] => fail .openString []
  | .nothing, c :: rest =>
    if c = '"' then .ok ([], rest)
    else if c = '\\' then takeString aim .escape rest
    else if c.toNat < 0x20 then
      fail .controlCharacter (match aim with | .content => rest | .ending => c :: rest)
    else pushElement (.plain c) (takeString aim .nothing rest)
  | .escape, c :: rest =>
    if c = 'u' then takeString aim (.digits none []) rest
    else match shortEscape? c with
      | some e => pushElement (.escaped e) (takeString aim .nothing rest)
      | none => fail .badEscape rest
  | .digits first written, c :: rest =>
    if written.length < 3 then takeString aim (.digits first (written ++ [c])) rest
    else match Text.natural? 16 (written ++ [c]) with
      | none => fail .badEscape rest
      | some unit => match aim, joinUnit first unit with
        | .ending, _ => takeString aim .nothing rest
        | .content, .ok (.inl e) => pushElement (.escaped e) (takeString aim .nothing rest)
        | .content, .ok (.inr first) => takeString aim (.pair first) rest
        | .content, .error cause => fail cause rest
  | .pair first, c :: rest =>
    if c = '\\' then takeString aim (.pairEscape first) rest else fail .halfPair rest
  | .pairEscape first, c :: rest =>
    if c = 'u' then takeString aim (.digits (some first) []) rest else fail .halfPair rest

def readString : Reader String :=
  (takeString .content .nothing).map fun es => String.ofList (es.map Element.char)

/-- A string behind its opening quote, in a text whose characters stand for the bytes of UTF-8. The
place of an invalid piece is as far before the string's end as there are bytes, escapes being
resolved, from the piece on. -/
def readByteString : Reader String := fun cs => do
  let (es, rest) ← takeString .content .nothing cs
  let bytes := es.flatMap Element.bytes
  match Text.ofUtf8? bytes with
  | some s => .ok (s, rest)
  | none =>
    let invalid := bytes.length - (Text.utf8 (Text.validPart bytes)).length
    fail .badBytes (cs.drop (cs.length - rest.length - invalid))

end NodeDiagnostics.Json
