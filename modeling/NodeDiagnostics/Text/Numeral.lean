namespace NodeDiagnostics.Text

def digitValue? (radix : Nat) (c : Char) : Option Nat :=
  let value? :=
    if '0' ≤ c ∧ c ≤ '9' then some (c.toNat - '0'.toNat)
    else if 'a' ≤ c ∧ c ≤ 'z' then some (c.toNat - 'a'.toNat + 10)
    else if 'A' ≤ c ∧ c ≤ 'Z' then some (c.toNat - 'A'.toNat + 10)
    else none
  value?.filter (· < radix)

def digitsFrom? (radix : Nat) : Nat → List Char → Option Nat
  | n, [] => some n
  | n, c :: rest => (digitValue? radix c).bind fun d => digitsFrom? radix (n * radix + d) rest

def natural? (radix : Nat) (cs : List Char) : Option Nat :=
  if cs.isEmpty then none else digitsFrom? radix 0 cs

/-- A number below `limit`, perhaps behind a plus sign. -/
def unsigned? (radix limit : Nat) : List Char → Option Nat
  | '+' :: rest => (natural? radix rest).filter (· < limit)
  | cs => (natural? radix cs).filter (· < limit)

def signed? (low high : Int) (cs : List Char) : Option Int :=
  let value? : Option Int := match cs with
    | '+' :: rest => (natural? 10 rest).map (↑·)
    | '-' :: rest => (natural? 10 rest).map fun n => -(n : Int)
    | cs => (natural? 10 cs).map (↑·)
  value?.filter fun i => low ≤ i && i ≤ high

def hexDigit (upper : Bool) (n : Nat) : Char :=
  if n < 10 then Char.ofNat ('0'.toNat + n)
  else Char.ofNat ((if upper then 'A' else 'a').toNat + (n - 10))

def hex (n : Nat) : List Char := Nat.toDigits 16 n

def hexByte (upper : Bool) (b : UInt8) : List Char :=
  [hexDigit upper (b.toNat / 16), hexDigit upper (b.toNat % 16)]

def percentByte (b : UInt8) : List Char := '%' :: hexByte true b

def padded (width n : Nat) : List Char :=
  let digits := Nat.toDigits 10 n
  List.replicate (width - digits.length) '0' ++ digits

example : unsigned? 16 UInt8.size "+0Ff".toList = some 255 := by decide
example : unsigned? 10 UInt8.size "256".toList = none := by decide
example : signed? (-128) 127 "-128".toList = some (-128) := by decide
example : signed? (-128) 127 "-".toList = none := by decide

end NodeDiagnostics.Text
