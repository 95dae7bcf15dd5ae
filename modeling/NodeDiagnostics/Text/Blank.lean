namespace NodeDiagnostics.Text

def inRanges (ranges : List (Nat × Nat)) (n : Nat) : Bool :=
  ranges.any fun r => r.1 ≤ n && n ≤ r.2

def blankRanges : List (Nat × Nat) :=
  [(0x9, 0xd), (0x20, 0x20), (0x85, 0x85), (0xa0, 0xa0), (0x1680, 0x1680), (0x2000, 0x200a),
    (0x2028, 0x2029), (0x202f, 0x202f), (0x205f, 0x205f), (0x3000, 0x3000)]

/-- White space of any script; the zero-width spaces are not blank. -/
def isBlank (c : Char) : Bool := inRanges blankRanges c.toNat

def trim (cs : List Char) : List Char :=
  ((cs.dropWhile isBlank).reverse.dropWhile isBlank).reverse

def words (cs : List Char) : List (List Char) :=
  (cs.splitOnP isBlank).filter fun w => !w.isEmpty

example : trim "\u00a0 a b\u3000".toList = "a b".toList := by decide
example : words " a\u2003b\u200bc\n".toList = ["a".toList, "b\u200bc".toList] := by decide

end NodeDiagnostics.Text
