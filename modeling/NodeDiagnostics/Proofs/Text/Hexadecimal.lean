import NodeDiagnostics.Proofs.Text.Numeral

namespace NodeDiagnostics.Text

structure HexDigit where
  value : Fin 16
  upper : Bool
deriving DecidableEq, Repr

def HexDigit.char (d : HexDigit) : Char := hexDigit d.upper d.value

def hexChars (ds : List HexDigit) : List Char := ds.map HexDigit.char

def hexValue (ds : List HexDigit) : Nat := ds.foldl (fun n d => n * 16 + d.value) 0

def isHexDigit (c : Char) : Bool :=
  ('0' ≤ c && c ≤ '9') || ('a' ≤ c && c ≤ 'f') || ('A' ≤ c && c ≤ 'F')

/-- The number in digits, perhaps behind a plus sign. -/
def Lenient (cs : List Char) (n : Nat) : Prop :=
  ∃ ds, ds ≠ [] ∧ (cs = hexChars ds ∨ cs = '+' :: hexChars ds) ∧ n = hexValue ds

theorem forall_byte {P : UInt8 → Prop} (every : ∀ n < 256, P (UInt8.ofNat n)) (b : UInt8) :
    P b := by
  have this := every b.toNat b.toNat_lt
  rwa [UInt8.ofNat_toNat] at this

theorem forall_hexDigit {P : HexDigit → Prop} (every : ∀ value upper, P ⟨value, upper⟩)
    (d : HexDigit) : P d := every d.value d.upper

theorem digitValue?_hexDigit (d : HexDigit) : digitValue? 16 d.char = some d.value.val := by
  revert d
  exact forall_hexDigit (by decide)

theorem isHexDigit_char (d : HexDigit) : isHexDigit d.char = true := by
  revert d
  exact forall_hexDigit (by decide)

theorem digitValue?_hex_iff {c : Char} {n : Nat} :
    digitValue? 16 c = some n ↔ ∃ d : HexDigit, c = d.char ∧ n = d.value.val := by
  constructor
  · intro read
    simp only [digitValue?, Option.filter_eq_some_iff, decide_eq_true_eq] at read
    obtain ⟨value, small⟩ := read
    split_ifs at value with digit lower upper <;> have place := Option.some.inj value
    · have few : n < 10 := by
        have high : c.toNat ≤ '9'.toNat := Char.le_def.mp digit.2
        have size : '9'.toNat = '0'.toNat + 9 := rfl
        omega
      refine ⟨⟨⟨n, small⟩, true⟩, ?_, rfl⟩
      rw [HexDigit.char, hexDigit, if_pos few, ofNat_place digit.1 place]
    · obtain ⟨many, place⟩ : ¬ n < 10 ∧ c.toNat - 'a'.toNat = n - 10 := by omega
      refine ⟨⟨⟨n, small⟩, false⟩, ?_, rfl⟩
      rw [HexDigit.char, hexDigit, if_neg many, if_neg Bool.false_ne_true,
        ofNat_place lower.1 place]
    · obtain ⟨many, place⟩ : ¬ n < 10 ∧ c.toNat - 'A'.toNat = n - 10 := by omega
      refine ⟨⟨⟨n, small⟩, true⟩, ?_, rfl⟩
      rw [HexDigit.char, hexDigit, if_neg many, if_pos rfl, ofNat_place upper.1 place]
  · rintro ⟨d, rfl, rfl⟩
    exact digitValue?_hexDigit d

theorem unsigned?_hex_iff {limit n : Nat} {cs : List Char} :
    unsigned? 16 limit cs = some n ↔ Lenient cs n ∧ n < limit := by
  have unsigned (d : HexDigit) : d.char ≠ '+' := by
    revert d
    exact forall_hexDigit (by decide)
  rw [unsigned?_iff digitValue?_hex_iff unsigned]
  constructor
  · rintro ⟨ds, digits, written, rfl, small⟩
    exact ⟨⟨ds, digits, written, rfl⟩, small⟩
  · rintro ⟨⟨ds, digits, written, rfl⟩, small⟩
    exact ⟨ds, digits, written, rfl, small⟩

theorem hexDigit_of_mem {ds : List HexDigit} : ∀ c ∈ hexChars ds, isHexDigit c = true := by
  intro c member
  obtain ⟨d, -, rfl⟩ := List.mem_map.mp member
  exact isHexDigit_char d

theorem Lenient.chars {cs : List Char} {n : Nat} (written : Lenient cs n) :
    ∀ c ∈ cs, isHexDigit c = true ∨ c = '+' := by
  obtain ⟨ds, -, rfl | rfl, -⟩ := written
  · exact fun c member => .inl (hexDigit_of_mem c member)
  · rintro c (_ | ⟨_, member⟩)
    · exact .inr rfl
    · exact .inl (hexDigit_of_mem c member)

end NodeDiagnostics.Text
