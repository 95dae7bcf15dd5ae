import NodeDiagnostics.Number.Binary64

/-!
The fewest decimal digits that read back as the same double-precision number, the nearest of them
where several do, and how they are written: positionally from `1e-5` up to, but without, `1e16`,
with an exponent elsewhere.
-/
namespace NodeDiagnostics.Number

structure Decimal where
  digits : Nat
  count : Nat
  point : Int
deriving DecidableEq, Repr

namespace Binary64

/-- The numbers that round to a positive `x` lie between these two multiples of `2 ^ exponent /
4`. -/
def neighbourhood (x : Binary64) : Nat × Nat :=
  let m := x.significand
  (if m = Nat.pow 2 52 ∧ -1074 < x.exponent then 4 * m - 1 else 4 * m - 2, 4 * m + 2)

def decimalPoint (num den : Nat) : Nat → Int → Int
  | 0, k => k
  | fuel + 1, k =>
    if num * Nat.pow 10 (-k).toNat < den * Nat.pow 10 k.toNat then k
    else decimalPoint num den fuel (k + 1)

/-- Does the multiple `c` of `10 ^ u` round to `x`? The ends count when the significand is even.
-/
def readsBack (x : Binary64) (c : Nat) (u : Int) : Bool :=
  let (low, high) := x.neighbourhood
  let unit := Nat.pow 2 x.exponent.toNat * Nat.pow 10 (-u).toNat
  let scaled := 4 * c * Nat.pow 10 u.toNat * Nat.pow 2 (-x.exponent).toNat
  let (low, high) := (low * unit, high * unit)
  if x.significand % 2 = 0 then low ≤ scaled && scaled ≤ high
  else low < scaled && scaled < high

def decimalOf? (x : Binary64) (point : Int) (count : Nat) : Option Decimal :=
  let (num, den) := x.ratio
  let u := point - count
  let (n, d) := (num * Nat.pow 10 (-u).toNat, den * Nat.pow 10 u.toNat)
  let below := n / d
  let near := nearestEven n d
  let other := if near = below then below + 1 else below
  if readsBack x near u then some ⟨near, count, point⟩
  else if readsBack x other u then some ⟨other, count, point⟩
  else none

/-- The shortest decimal that reads back; seventeen digits always do. -/
def shortest (x : Binary64) : Decimal :=
  let (num, den) := x.ratio
  let guess : Int := ((Nat.log2 num : Int) - Nat.log2 den - 1) * 30103 / 100000
  let point := decimalPoint num den 4 guess
  ((List.range 17).findSome? fun i => decimalOf? x point (i + 1)).getD ⟨0, 1, 1⟩

def digitsAndPoint (x : Binary64) : List Char × Int :=
  let d := x.shortest
  let text := Nat.toDigits 10 d.digits
  let point := d.point + ((text.length : Int) - d.count)
  let kept := (text.reverse.dropWhile (· == '0')).reverse
  (kept, point)

def text (x : Binary64) : List Char :=
  let sign := if x.negative then ['-'] else []
  if x.isZero then sign ++ ['0', '.', '0']
  else
    let (digits, point) := x.digitsAndPoint
    sign ++
      if 0 < point ∧ point ≤ 16 then
        let p := point.toNat
        if digits.length ≤ p then
          digits ++ List.replicate (p - digits.length) '0' ++ ['.', '0']
        else digits.take p ++ '.' :: digits.drop p
      else if -5 < point ∧ point ≤ 0 then
        ['0', '.'] ++ List.replicate (-point).toNat '0' ++ digits
      else
        let mantissa := digits.take 1 ++ if digits.length ≤ 1 then [] else '.' :: digits.drop 1
        let e := point - 1
        mantissa ++ ['e', if e < 0 then '-' else '+'] ++ Nat.toDigits 10 e.natAbs

end Binary64
end NodeDiagnostics.Number
