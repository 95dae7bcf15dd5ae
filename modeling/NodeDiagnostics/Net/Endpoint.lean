import NodeDiagnostics.Text.Numeral

namespace NodeDiagnostics.Net

inductive Address where
  | v4 (octets : Vector UInt8 4)
  | v6 (octets : Vector UInt8 16)
deriving DecidableEq, Repr

namespace Address

def ofOctets? (octets : List UInt8) : Option Address :=
  if four : octets.length = 4 then some (v4 ⟨octets.toArray, by simpa using four⟩)
  else if sixteen : octets.length = 16 then some (v6 ⟨octets.toArray, by simpa using sixteen⟩)
  else none

def octets : Address → List UInt8
  | v4 o => o.toList
  | v6 o => o.toList

def version : Address → UInt8
  | v4 _ => 4
  | v6 _ => 6

def groups : List UInt8 → List Nat
  | a :: b :: rest => (a.toNat * 256 + b.toNat) :: groups rest
  | _ => []

def zeroRun (gs : List Nat) : Nat := (gs.takeWhile (· == 0)).length

def longestZeroRun (gs : List Nat) : Nat × Nat :=
  (List.range gs.length).foldl
    (fun best i =>
      let run := zeroRun (gs.drop i)
      if best.2 < run then (i, run) else best)
    (0, 0)

def dotted (octets : List UInt8) : List Char :=
  List.intercalate ['.'] (octets.map fun o => Nat.toDigits 10 o.toNat)

def colonHex (gs : List Nat) : List Char :=
  List.intercalate [':'] (gs.map Text.hex)

/-- Eight groups, a run of zeros shortened; an IPv4 address in IPv6 form shows its dotted part. -/
def groupsText (gs : List Nat) (octets : List UInt8) : List Char :=
  if gs.take 6 = [0, 0, 0, 0, 0, 0xffff] then
    [':', ':', 'f', 'f', 'f', 'f', ':'] ++ dotted (octets.drop 12)
  else
    let (start, run) := longestZeroRun gs
    if run < 2 then colonHex gs
    else colonHex (gs.take start) ++ [':', ':'] ++ colonHex (gs.drop (start + run))

def text : Address → String
  | v4 o => String.ofList (dotted o.toList)
  | v6 o => String.ofList (groupsText (groups o.toList) o.toList)

def octet? (cs : List Char) : Option UInt8 :=
  match cs with
  | '0' :: _ :: _ => none
  | _ => if 3 < cs.length then none else
    (Text.natural? 10 cs).bind fun n => if n < 256 then some n.toUInt8 else none

def dotted? (cs : List Char) : Option (List UInt8) := do
  let octets ← (cs.splitOn '.').mapM octet?
  if octets.length = 4 then some octets else none

def groups? : List (List Char) → Option (List UInt8)
  | [] => some []
  | [last] =>
    -- the last group may be an IPv4 address
    if last.contains '.' then dotted? last else group? last
  | g :: rest => do return (← group? g) ++ (← groups? rest)
where
  group? (g : List Char) : Option (List UInt8) :=
    if 4 < g.length then none
    else (Text.natural? 16 g).map fun n => [(n / 256).toUInt8, (n % 256).toUInt8]

def splitGap : List Char → List Char × Option (List Char)
  | ':' :: ':' :: rest => ([], some rest)
  | c :: rest =>
    let (before, after) := splitGap rest
    (c :: before, after)
  | [] => ([], none)

def side? (cs : List Char) : Option (List UInt8) :=
  if cs.isEmpty then some [] else groups? (cs.splitOn ':')

def ofChars? (cs : List Char) : Option Address :=
  if cs.contains ':' then
    match splitGap cs with
    | (whole, none) => do
      let octets ← side? whole
      if octets.length = 16 then ofOctets? octets else none
    | (before, some after) => do
      let front ← side? before
      let back ← side? after
      if front.length + back.length < 16 then
        ofOctets? (front ++ List.replicate (16 - front.length - back.length) 0 ++ back)
      else none
  else dotted? cs |>.bind ofOctets?

end Address

structure Endpoint where
  address : Address
  port : UInt16
deriving DecidableEq, Repr

namespace Endpoint

def text (e : Endpoint) : String :=
  match e.address with
  | .v4 _ => e.address.text ++ ":" ++ toString e.port.toNat
  | .v6 _ => "[" ++ e.address.text ++ "]:" ++ toString e.port.toNat

/-- The endpoint that a text stands for; an IPv6 address has to stand in brackets. -/
def ofChars? (cs : List Char) : Option Endpoint :=
  let (host, port, bracketed) := match cs with
    | '[' :: rest => (rest.takeWhile (· != ']'), (rest.dropWhile (· != ']')).drop 2, true)
    | _ => (cs.takeWhile (· != ':'), (cs.dropWhile (· != ':')).drop 1, false)
  do
    let address ← Address.ofChars? host
    let number ← Text.unsigned? 10 UInt16.size port
    if (address.version == 6) = bracketed then some ⟨address, number.toUInt16⟩ else none

example :
    (ofChars? "[2001:db8:0:0:1:0:0:1]:53".toList).map text = some "[2001:db8::1:0:0:1]:53" := by
  decide +kernel
example : (ofChars? "[::ffff:10.0.0.1]:1".toList).map text = some "[::ffff:10.0.0.1]:1" := by
  decide +kernel
example : (ofChars? "10.0.0.1:65535".toList).map text = some "10.0.0.1:65535" := by decide +kernel

end Endpoint
end NodeDiagnostics.Net
