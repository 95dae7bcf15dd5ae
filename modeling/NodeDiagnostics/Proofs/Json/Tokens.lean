import Mathlib.Data.List.Basic
import Mathlib.Tactic.SplitIfs
import NodeDiagnostics.Json.Reader

namespace NodeDiagnostics.Json

/-- The text does not start with what could still belong to a number. -/
def Ends (cs : List Char) : Prop :=
  ∀ c ∈ cs.head?, c.isDigit = false ∧ c ≠ '.' ∧ c ≠ 'e' ∧ c ≠ 'E'

def digits (n : Nat) : List Nat := (Nat.toDigits 10 n).map fun c => c.toNat - '0'.toNat

theorem ofDigits_digits (n : Nat) : Numeral.ofDigits (digits n) = n := by
  have value := Nat.ofDigitChars_ten_toDigits (n := n)
  rw [Nat.ofDigitChars_eq_foldl] at value
  rw [Numeral.ofDigits, digits, List.foldl_map]
  simpa only [Nat.mul_comm] using value

theorem digits_of_lt {n : Nat} (small : n < 10) : digits n = [n] := by
  have single : ∀ d < 10, [d.digitChar].map (fun c => c.toNat - '0'.toNat) = [d] := by decide
  rw [digits, Nat.toDigits_of_lt_base small]
  exact single n small

theorem digits_of_le {n : Nat} (large : 10 ≤ n) : digits n = digits (n / 10) ++ [n % 10] := by
  have last := digits_of_lt (Nat.mod_lt n (by decide : 0 < 10))
  rw [digits, Nat.toDigits_of_lt_base (Nat.mod_lt n (by decide))] at last
  rw [digits, Nat.toDigits_of_base_le (by decide) large, List.map_append, digits]
  exact congrArg _ last

theorem digits_leading {n : Nat} {more : List Nat} (zero : digits n = 0 :: more) : more = [] := by
  -- Digits come off at the end, so the leading one is that of all the others.
  induction n using Nat.strongRecOn generalizing more with
  | ind n ih =>
    rcases Nat.lt_or_ge n 10 with small | large
    · rw [digits_of_lt small] at zero
      exact (List.cons.inj zero).2.symm
    · rw [digits_of_le large] at zero
      cases front : digits (n / 10) with
      | nil => simp [digits] at front
      | cons d ds =>
        rw [front] at zero
        obtain ⟨rfl, -⟩ := List.cons.inj zero
        have only := ih (n / 10) (Nat.div_lt_self (by omega) (by decide)) front
        have value := ofDigits_digits (n / 10)
        rw [front, only] at value
        simp [Numeral.ofDigits] at value
        omega

theorem takeDigits_toDigits (n : Nat) {rest : List Char} (ends : Ends rest) :
    takeDigits (Nat.toDigits 10 n ++ rest) = (digits n, rest) := by
  have all : ∀ c ∈ Nat.toDigits 10 n, c.isDigit = true := fun c member =>
    Nat.isDigit_of_mem_toDigits (by decide) (by decide) member
  have none : rest.takeWhile Char.isDigit = [] ∧ rest.dropWhile Char.isDigit = rest := by
    cases rest with
    | nil => exact ⟨rfl, rfl⟩
    | cons c rest =>
      have other := (ends c rfl).1
      simp [other]
  rw [takeDigits, List.takeWhile_append_of_pos all, List.dropWhile_append_of_pos all, none.1,
    none.2, List.append_nil]
  rfl

theorem takeWhole_toDigits (n : Nat) {rest : List Char} (ends : Ends rest) :
    takeWhole .content (Nat.toDigits 10 n ++ rest) = .ok (digits n, rest) := by
  have some : takeSomeDigits .content (Nat.toDigits 10 n ++ rest) = .ok (digits n, rest) := by
    rw [takeSomeDigits, takeDigits_toDigits n ends]
    cases taken : digits n with
    | nil => simp [digits] at taken
    | cons d ds => rfl
  rw [takeWhole, some]
  split
  · rename_i zero
    cases digits_leading (congrArg Prod.fst (Except.ok.inj zero))
  · rfl

theorem takeFraction_none {rest : List Char} (ends : Ends rest) :
    takeFraction .content rest = .ok ([], rest) := by
  cases rest with
  | nil => rfl
  | cons c rest =>
    obtain ⟨-, point, -, -⟩ := ends c rfl
    simp [takeFraction, point]

theorem takeExponent_none {rest : List Char} (ends : Ends rest) :
    takeExponent .content rest = .ok (none, rest) := by
  cases rest with
  | nil => rfl
  | cons c rest =>
    obtain ⟨-, -, small, large⟩ := ends c rfl
    simp [takeExponent, small, large]

theorem takeNumeral_toDigits (n : Nat) {rest : List Char} (ends : Ends rest) :
    takeNumeral .content (Nat.toDigits 10 n ++ rest) = .ok (⟨false, digits n, [], none⟩, rest) := by
  have whole := takeWhole_toDigits n ends
  cases text : Nat.toDigits 10 n with
  | nil => exact absurd text Nat.toDigits_ne_nil
  | cons c cs =>
    have digit : c.isDigit = true := Nat.isDigit_of_mem_toDigits (by decide) (by decide)
      (text ▸ List.mem_cons_self : c ∈ Nat.toDigits 10 n)
    have unsigned : c ≠ '-' := by
      rintro rfl
      exact absurd digit (by decide)
    rw [text, List.cons_append] at whole
    simp [takeNumeral, bind, Except.bind, unsigned, whole, takeFraction_none ends,
      takeExponent_none ends]

theorem takeNumeral_negative (n : Nat) {rest : List Char} (ends : Ends rest) :
    takeNumeral .content ('-' :: (Nat.toDigits 10 n ++ rest)) =
      .ok (⟨true, digits n, [], none⟩, rest) := by
  simp [takeNumeral, bind, Except.bind, takeWhole_toDigits n ends, takeFraction_none ends,
    takeExponent_none ends]

theorem le_foldl_digits (ds : List Nat) (n : Nat) : n ≤ ds.foldl (fun n d => n * 10 + d) n := by
  induction ds generalizing n with
  | nil => exact Nat.le_refl n
  | cons d ds ih => exact Nat.le_trans (by omega) (ih (n * 10 + d))

theorem accumulate_of_lt {n : Nat} {ds : List Nat}
    (fits : ds.foldl (fun n d => n * 10 + d) n < UInt64.size) :
    accumulate n ds = (ds.foldl (fun n d => n * 10 + d) n, []) := by
  induction ds generalizing n with
  | nil => rfl
  | cons d ds ih =>
    rw [accumulate, if_pos (Nat.lt_of_le_of_lt (le_foldl_digits ds _) fits), ih fits]
    rfl

def Word (n : Int) : Prop := -0x8000000000000000 ≤ n ∧ n < UInt64.size

theorem readNumber_writeInteger {n : Int} (word : Word n) {rest : List Char} (ends : Ends rest) :
    readNumber (writeInteger n ++ rest) = .ok (.integer n, rest) := by
  obtain ⟨low, high⟩ := word
  have fits : (digits n.natAbs).foldl (fun n d => n * 10 + d) 0 < UInt64.size := by
    have value := ofDigits_digits n.natAbs
    rw [Numeral.ofDigits] at value
    rw [value]
    simp only [UInt64.size] at high ⊢
    omega
  have whole : accumulate 0 (digits n.natAbs) = (n.natAbs, []) := by
    rw [accumulate_of_lt fits]
    exact congrArg (·, []) (ofDigits_digits n.natAbs)
  by_cases negative : n < 0
  · have value : (⟨true, digits n.natAbs, [], none⟩ : Numeral).value? = some (.integer n) := by
      have size : 0 < n.natAbs ∧ n.natAbs ≤ 0x8000000000000000 := by omega
      have back : -(n.natAbs : Int) = n := by omega
      simp only [Numeral.value?, Numeral.isWhole, whole, back]
      simp [size]
    rw [writeInteger, if_pos negative, List.cons_append, readNumber, takeNumeral_negative _ ends]
    simp only [bind, Except.bind, value]
  · have value : (⟨false, digits n.natAbs, [], none⟩ : Numeral).value? = some (.integer n) := by
      have back : (n.natAbs : Int) = n := by omega
      simp only [Numeral.value?, Numeral.isWhole, whole, back]
      simp
    rw [writeInteger, if_neg negative, readNumber, takeNumeral_toDigits _ ends]
    simp only [bind, Except.bind, value]

theorem takeString_short {letter c : Char} (short : shortEscape? letter = some c)
    (rest : List Char) : takeString .content .nothing ('\\' :: letter :: rest) =
      pushElement (.escaped c) (takeString .content .nothing rest) := by
  have other : letter ≠ 'u' := by
    rintro rfl
    cases short
  simp [takeString, other, short]

theorem takeString_unit {c : Char} (control : c.toNat < 0x20) (rest : List Char) :
    takeString .content .nothing
        (['\\', 'u', '0', '0'] ++ Text.hexByte false c.toNat.toUInt8 ++ rest) =
      pushElement (.escaped c) (takeString .content .nothing rest) := by
  have value : ∀ n < 0x20, ∃ h l, Text.hexByte false (Nat.toUInt8 n) = [h, l] ∧
      Text.natural? 16 ['0', '0', h, l] = some n := by
    intro n small
    refine ⟨_, _, rfl, ?_⟩
    revert n
    decide
  obtain ⟨h, l, hex, value⟩ := value c.toNat control
  have whole : joinUnit none c.toNat = .ok (.inl c) := by
    rw [joinUnit, if_neg (by simp; omega), if_neg (by omega), Char.ofNat_toNat]
  simp [takeString, hex, value, whole]

/-- Every character is read back from its written form, as it stands or out of an escape. -/
theorem takeString_escapeChar (c : Char) (rest : List Char) :
    ∃ e : Element, e.char = c ∧ takeString .content .nothing (escapeChar c ++ rest) =
      pushElement e (takeString .content .nothing rest) := by
  unfold escapeChar
  split_ifs with quote backslash line feed tab back page control
  · subst quote
    exact ⟨.escaped _, rfl, takeString_short rfl rest⟩
  · subst backslash
    exact ⟨.escaped _, rfl, takeString_short rfl rest⟩
  · subst line
    exact ⟨.escaped _, rfl, takeString_short rfl rest⟩
  · subst feed
    exact ⟨.escaped _, rfl, takeString_short rfl rest⟩
  · subst tab
    exact ⟨.escaped _, rfl, takeString_short rfl rest⟩
  · subst back
    exact ⟨.escaped _, rfl, takeString_short rfl rest⟩
  · subst page
    exact ⟨.escaped _, rfl, takeString_short rfl rest⟩
  · exact ⟨.escaped c, rfl, takeString_unit control rest⟩
  · exact ⟨.plain c, rfl, by simp [takeString, quote, backslash, control]⟩

theorem takeString_escaped (cs rest : List Char) :
    ∃ es : List Element, es.map Element.char = cs ∧
      takeString .content .nothing (cs.flatMap escapeChar ++ '"' :: rest) = .ok (es, rest) := by
  induction cs with
  | nil => exact ⟨[], rfl, by simp [takeString]⟩
  | cons c cs ih =>
    obtain ⟨es, chars, taken⟩ := ih
    obtain ⟨e, char, step⟩ := takeString_escapeChar c (cs.flatMap escapeChar ++ '"' :: rest)
    refine ⟨e :: es, by rw [List.map_cons, char, chars], ?_⟩
    rw [List.flatMap_cons, List.append_assoc, step, taken]
    rfl

theorem readString_escaped (s : String) (rest : List Char) :
    readString (s.toList.flatMap escapeChar ++ '"' :: rest) = .ok (s, rest) := by
  obtain ⟨es, chars, taken⟩ := takeString_escaped s.toList rest
  simp only [readString, Reader.map, taken, Except.map, chars, String.ofList_toList]

end NodeDiagnostics.Json
