/-!
Double-precision numbers as exact values: a sign, a significand below `2 ^ 53` and a power of two
from `-1074` on. Rounding is to the nearest such value, a tie going to the even significand, and
fails only where that value would be infinite.
-/
namespace NodeDiagnostics.Number

/-- The finite number `significand * 2 ^ exponent`, negated if `negative`. -/
structure Binary64 where
  negative : Bool
  significand : Nat
  exponent : Int
deriving DecidableEq, Repr, Inhabited

namespace Binary64

def zero : Binary64 := ⟨false, 0, -1074⟩

def isZero (x : Binary64) : Bool := x.significand == 0

def negate (x : Binary64) : Binary64 := { x with negative := !x.negative }

/-- The quotient in units of `2 ^ e`, as a fraction. -/
def scaled (num den : Nat) (e : Int) : Nat × Nat :=
  (num * Nat.pow 2 (-e).toNat, den * Nat.pow 2 e.toNat)

def nearestEven (num den : Nat) : Nat :=
  let q := num / den
  let r := num % den
  if den < 2 * r ∨ (den = 2 * r ∧ q % 2 = 1) then q + 1 else q

def unitExponent (num den : Nat) : Int :=
  let guess : Int := (Nat.log2 num : Int) - Nat.log2 den - 52
  let (n, d) := scaled num den guess
  max (-1074) (if n < Nat.pow 2 52 * d then guess - 1 else guess)

def ofRatio? (negative : Bool) (num den : Nat) : Option Binary64 :=
  if num = 0 then some { zero with negative }
  else
    let e := unitExponent num den
    let (n, d) := scaled num den e
    let s := nearestEven n d
    let (s, e) := if s = Nat.pow 2 53 then (Nat.pow 2 52, e + 1) else (s, e)
    if 971 < e then none else some ⟨negative, s, e⟩

def ratio (x : Binary64) : Nat × Nat :=
  (x.significand * Nat.pow 2 x.exponent.toNat, Nat.pow 2 (-x.exponent).toNat)

def mul? (x y : Binary64) : Option Binary64 :=
  let (a, b) := x.ratio
  let (c, d) := y.ratio
  ofRatio? (x.negative != y.negative) (a * c) (b * d)

def div? (x y : Binary64) : Option Binary64 :=
  let (a, b) := x.ratio
  let (c, d) := y.ratio
  if c = 0 then some zero else ofRatio? (x.negative != y.negative) (a * d) (b * c)

def ofNat? (n : Nat) : Option Binary64 := ofRatio? false n 1

example : ofNat? 1 = some ⟨false, Nat.pow 2 52, -52⟩ := by decide +kernel
example : ofRatio? false 1 10 = some ⟨false, 0x1999999999999a, -56⟩ := by decide +kernel
example : ofRatio? false 5 (Nat.pow 10 324) = some ⟨false, 1, -1074⟩ := by decide +kernel
example : ofNat? (Nat.pow 10 309) = none := by decide +kernel

end Binary64
end NodeDiagnostics.Number
