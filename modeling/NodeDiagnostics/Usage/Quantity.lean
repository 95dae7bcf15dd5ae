import NodeDiagnostics.Error
import NodeDiagnostics.Text.Blank

/-!
Amounts of a resource such as `250m`, `1.5Gi` or `12e3`, held as an exact fraction of two words of
128 bits. An amount that does not fit is refused, and so is a scaled amount that does not fit into
64.
-/
namespace NodeDiagnostics.Usage

def word128? (n : Int) : Option Int :=
  if -Int.pow 2 127 ≤ n ∧ n < Int.pow 2 127 then some n else none

def powerOfTen? (k : Nat) : Option Int := if k ≤ 38 then some (Int.pow 10 k) else none

/-- `numerator / denominator`, not reduced. -/
structure Quantity where
  numerator : Int
  denominator : Int
deriving DecidableEq, Repr

inductive Multiplier where
  | binary (power : Nat)
  | decimal (exponent : Int)
deriving DecidableEq, Repr

namespace Multiplier

def ofChars? : List Char → Option Multiplier
  | ['K', 'i'] => some (binary 1)
  | ['M', 'i'] => some (binary 2)
  | ['G', 'i'] => some (binary 3)
  | ['T', 'i'] => some (binary 4)
  | ['P', 'i'] => some (binary 5)
  | ['E', 'i'] => some (binary 6)
  | ['n'] => some (decimal (-9))
  | ['u'] => some (decimal (-6))
  | ['m'] => some (decimal (-3))
  | [] => some (decimal 0)
  | ['k'] => some (decimal 3)
  | ['M'] => some (decimal 6)
  | ['G'] => some (decimal 9)
  | ['T'] => some (decimal 12)
  | ['P'] => some (decimal 15)
  | ['E'] => some (decimal 18)
  | 'e' :: digits => (Text.signed? (-0x80000000) 0x7fffffff digits).map decimal
  | 'E' :: digits => (Text.signed? (-0x80000000) 0x7fffffff digits).map decimal
  | _ => none

def scale? (q : Quantity) : Multiplier → Option Quantity
  | binary power => (word128? (q.numerator * Int.pow 1024 power)).map ({ q with numerator := · })
  | decimal exponent => do
    let factor ← powerOfTen? exponent.natAbs
    if 0 ≤ exponent then (word128? (q.numerator * factor)).map ({ q with numerator := · })
    else (word128? (q.denominator * factor)).map ({ q with denominator := · })

end Multiplier

namespace Quantity

def isNumberChar (c : Char) : Bool := c.isDigit || c == '.' || c == '+' || c == '-'

def isSign (c : Char) : Bool := c == '+' || c == '-'

/-- The number before the letters: at most one point, and a digit or sign somewhere behind it or a
digit before it. The sign is read from the digits joined over the point. -/
def number? (cs : List Char) : Option Quantity := do
  let whole := cs.takeWhile (· != '.')
  let fraction := (cs.dropWhile (· != '.')).drop 1
  if (whole.dropWhile isSign).isEmpty && fraction.isEmpty then none
  else
    let numerator ← Text.signed? (-Int.pow 2 127) (Int.pow 2 127 - 1) (whole ++ fraction)
    let denominator ← powerOfTen? fraction.length
    some ⟨numerator, denominator⟩

def ofChars? (cs : List Char) : Option Quantity := do
  let q ← number? (cs.takeWhile isNumberChar)
  let m ← Multiplier.ofChars? (cs.dropWhile isNumberChar)
  m.scale? q

def parse (text : String) : Except Error Quantity :=
  match ofChars? (Text.trim text.toList) with
  | some q => .ok q
  | none => .error (.configuration ("invalid quantity " ++ Text.quoted text))

def scaledCeil (q : Quantity) (scale : Int) : Except Error Int :=
  match word128? (q.numerator * scale) with
  | none => .error (.configuration "quantity overflow")
  | some n =>
    -- division rounds down, below zero too
    let value := n / q.denominator + if n % q.denominator = 0 then 0 else 1
    if -0x8000000000000000 ≤ value ∧ value < 0x8000000000000000 then .ok value
    else .error (.configuration "quantity overflow")

example : ((parse " 1.5Gi").bind (·.scaledCeil 1)).toOption = some 1610612736 := by decide +kernel
example : ((parse "123456789n").bind (·.scaledCeil 1000)).toOption = some 124 := by decide +kernel
example : (parse "12Xi").toOption = none := by decide +kernel

end Quantity
end NodeDiagnostics.Usage
