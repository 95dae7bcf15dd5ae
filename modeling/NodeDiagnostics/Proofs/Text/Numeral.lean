import Mathlib.Data.List.Basic
import Mathlib.Tactic.Ring
import NodeDiagnostics.Text.Numeral

namespace NodeDiagnostics.Text

section Alphabet

variable {radix limit n m : Nat} {δ : Type} {char : δ → Char} {value : δ → Nat} {cs : List Char}
  (reads : ∀ {c n}, digitValue? radix c = some n ↔ ∃ d, c = char d ∧ n = value d)

include reads

theorem digitsFrom?_iff : digitsFrom? radix n cs = some m ↔
    ∃ ds : List δ, cs = ds.map char ∧ m = ds.foldl (fun n d => n * radix + value d) n := by
  induction cs generalizing n with
  | nil =>
    rw [digitsFrom?, Option.some.injEq]
    constructor
    · rintro rfl
      exact ⟨[], rfl, rfl⟩
    · rintro ⟨ds, none, rfl⟩
      rw [List.map_eq_nil_iff.mp none.symm]
      rfl
  | cons c cs ih =>
    simp only [digitsFrom?, Option.bind_eq_some_iff, reads, ih]
    constructor
    · rintro ⟨-, ⟨d, rfl, rfl⟩, ds, rfl, rfl⟩
      exact ⟨d :: ds, rfl, rfl⟩
    · rintro ⟨ds, written, rfl⟩
      obtain ⟨d, ds, rfl, rfl, rfl⟩ := List.map_eq_cons_iff.mp written.symm
      exact ⟨value d, ⟨d, rfl, rfl⟩, ds, rfl, rfl⟩

theorem natural?_iff : natural? radix cs = some n ↔
    ∃ ds : List δ, ds ≠ [] ∧ cs = ds.map char ∧
      n = ds.foldl (fun n d => n * radix + value d) 0 := by
  rw [natural?]
  split
  · next none =>
    rw [List.isEmpty_iff.mp none]
    refine iff_of_false nofun ?_
    rintro ⟨ds, digits, written, -⟩
    exact digits (List.map_eq_nil_iff.mp written.symm)
  · next digits =>
    rw [digitsFrom?_iff reads]
    refine exists_congr fun ds => (and_iff_right_of_imp ?_).symm
    rintro ⟨rfl, -⟩ rfl
    exact digits rfl

/-- A number is read exactly where digits that give a value below the limit stand, alone or behind a
plus sign. -/
theorem unsigned?_iff (unsigned : ∀ d, char d ≠ '+') : unsigned? radix limit cs = some n ↔
    ∃ ds : List δ, ds ≠ [] ∧ (cs = ds.map char ∨ cs = '+' :: ds.map char) ∧
      n = ds.foldl (fun n d => n * radix + value d) 0 ∧ n < limit := by
  have plain {ds : List δ} {rest : List Char} : ds.map char ≠ '+' :: rest := by
    intro same
    obtain ⟨d, -, -, plus, -⟩ := List.map_eq_cons_iff.mp same
    exact unsigned d plus
  rw [unsigned?.eq_def]
  split
  · next rest =>
    simp only [Option.filter_eq_some_iff, decide_eq_true_eq, natural?_iff reads]
    constructor
    · rintro ⟨⟨ds, digits, rfl, rfl⟩, small⟩
      exact ⟨ds, digits, .inr rfl, rfl, small⟩
    · rintro ⟨ds, digits, written, rfl, small⟩
      rcases written with alone | behind
      · exact absurd alone.symm plain
      · exact ⟨⟨ds, digits, (List.cons.inj behind).2, rfl⟩, small⟩
  · next alone =>
    simp only [Option.filter_eq_some_iff, decide_eq_true_eq, natural?_iff reads]
    constructor
    · rintro ⟨⟨ds, digits, rfl, rfl⟩, small⟩
      exact ⟨ds, digits, .inl rfl, rfl, small⟩
    · rintro ⟨ds, digits, written, rfl, small⟩
      rcases written with rfl | behind
      · exact ⟨⟨ds, digits, rfl, rfl⟩, small⟩
      · exact absurd behind (alone _)

end Alphabet

abbrev Digit := Fin 10

def Digit.char (d : Digit) : Char := Char.ofNat ('0'.toNat + d)

def digitChars (ds : List Digit) : List Char := ds.map Digit.char

def placeValue : List Digit → Nat
  | [] => 0
  | d :: ds => d * 10 ^ ds.length + placeValue ds

inductive Sign where
  | plus
  | minus
deriving DecidableEq, Repr

namespace Sign

def char : Sign → Char
  | plus => '+'
  | minus => '-'

def value : Option Sign → Int
  | some minus => -1
  | _ => 1

def chars : Option Sign → List Char
  | none => []
  | some s => [s.char]

end Sign

theorem placeValue_append (front back : List Digit) :
    placeValue (front ++ back) = placeValue front * 10 ^ back.length + placeValue back := by
  induction front with
  | nil => simp [placeValue]
  | cons d front ih =>
    rw [List.cons_append, placeValue, ih, placeValue, List.length_append]
    ring

theorem digitValue?_char (d : Digit) : digitValue? 10 d.char = some d.val := by
  revert d
  decide

theorem ofNat_place {base c : Char} {n : Nat} (above : base ≤ c)
    (place : c.toNat - base.toNat = n) : Char.ofNat (base.toNat + n) = c := by
  have low : base.toNat ≤ c.toNat := Char.le_def.mp above
  rw [← place, Nat.add_sub_cancel' low, Char.ofNat_toNat]

theorem digitValue?_eq_some_iff {c : Char} {n : Nat} :
    digitValue? 10 c = some n ↔ ∃ d : Digit, c = d.char ∧ n = d.val := by
  constructor
  · intro read
    simp only [digitValue?, Option.filter_eq_some_iff, decide_eq_true_eq] at read
    obtain ⟨value, small⟩ := read
    refine ⟨⟨n, small⟩, ?_, rfl⟩
    split_ifs at value with digit lower upper
    · exact (ofNat_place digit.1 (Option.some.inj value)).symm
    · have := Option.some.inj value
      omega
    · have := Option.some.inj value
      omega
  · rintro ⟨d, rfl, rfl⟩
    exact digitValue?_char d

theorem Digit.char_injective {d e : Digit} (same : d.char = e.char) : d = e := by
  have read := digitValue?_char d
  rw [same, digitValue?_char] at read
  exact Fin.ext (Option.some.inj read).symm

theorem foldl_digits (n : Nat) (ds : List Digit) :
    ds.foldl (fun n d => n * 10 + d.val) n = n * 10 ^ ds.length + placeValue ds := by
  induction ds generalizing n with
  | nil => simp [placeValue]
  | cons d ds ih =>
    rw [List.foldl_cons, ih, placeValue, List.length_cons]
    ring

theorem natural?_eq_some_iff {n : Nat} {cs : List Char} :
    natural? 10 cs = some n ↔ ∃ ds, ds ≠ [] ∧ cs = digitChars ds ∧ n = placeValue ds := by
  simp only [natural?_iff digitValue?_eq_some_iff, foldl_digits, Nat.zero_mul, Nat.zero_add]
  rfl

theorem unsigned?_eq_some_iff {limit n : Nat} {cs : List Char} :
    unsigned? 10 limit cs = some n ↔ ∃ ds, ds ≠ [] ∧
      (cs = digitChars ds ∨ cs = '+' :: digitChars ds) ∧ n = placeValue ds ∧ n < limit := by
  have unsigned (d : Digit) : d.char ≠ '+' := by
    revert d
    decide
  simp only [unsigned?_iff digitValue?_eq_some_iff unsigned, foldl_digits, Nat.zero_mul,
    Nat.zero_add]
  rfl

theorem map_natural?_eq_some_iff {f : Int → Int} {i : Int} {cs : List Char} :
    Option.map f (do return ((← natural? 10 cs) : Int)) = some i ↔
      ∃ ds, ds ≠ [] ∧ cs = digitChars ds ∧ i = f (placeValue ds) := by
  simp only [Option.map_eq_some_iff, Option.bind_eq_bind, Option.bind_eq_some_iff, Option.pure_def,
    Option.some.injEq, natural?_eq_some_iff]
  constructor
  · rintro ⟨-, ⟨-, ⟨ds, digits, rfl, rfl⟩, rfl⟩, rfl⟩
    exact ⟨ds, digits, rfl, rfl⟩
  · rintro ⟨ds, digits, rfl, rfl⟩
    exact ⟨_, ⟨_, ⟨ds, digits, rfl, rfl⟩, rfl⟩, rfl⟩

theorem Digit.char_ne_sign (d : Digit) (s : Sign) : d.char ≠ s.char := by
  cases s <;> revert d <;> decide

theorem digitChars_unsigned (ds : List Digit) (s : Sign) (rest : List Char) :
    digitChars ds ≠ s.char :: rest := by
  intro signed
  obtain ⟨d, -, -, same, -⟩ := List.map_eq_cons_iff.mp signed
  exact d.char_ne_sign s same

theorem digitChars_injective {ds es : List Digit} (same : digitChars ds = digitChars es) :
    ds = es :=
  List.map_injective_iff.mpr (fun _ _ => Digit.char_injective) same

theorem signed_unique {first second : Option Sign} {ds es : List Digit}
    (same : Sign.chars first ++ digitChars ds = Sign.chars second ++ digitChars es) :
    first = second ∧ ds = es := by
  match first, second with
  | none, none => exact ⟨rfl, digitChars_injective same⟩
  | none, some s => exact absurd same (digitChars_unsigned ds s _)
  | some s, none => exact absurd same.symm (digitChars_unsigned es s _)
  | some s, some t =>
    obtain ⟨signs, digits⟩ := List.cons.inj same
    refine ⟨?_, digitChars_injective digits⟩
    revert signs
    cases s <;> cases t <;> decide

theorem forall_mem_signed {P : Char → Prop} (signs : ∀ s : Sign, P s.char)
    (digits : ∀ d : Digit, P d.char) (sign : Option Sign) (ds : List Digit) :
    ∀ c ∈ Sign.chars sign ++ digitChars ds, P c := by
  intro c member
  rcases List.mem_append.mp member with front | back
  · cases sign with
    | none => cases front
    | some s => exact List.mem_singleton.mp front ▸ signs s
  · obtain ⟨d, -, rfl⟩ := List.mem_map.mp back
    exact digits d

theorem signed?_eq_some_iff {low high i : Int} {cs : List Char} :
    signed? low high cs = some i ↔ ∃ sign ds, ds ≠ [] ∧ cs = Sign.chars sign ++ digitChars ds ∧
      i = Sign.value sign * placeValue ds ∧ low ≤ i ∧ i ≤ high := by
  simp only [signed?, Option.filter_eq_some_iff, Bool.and_eq_true, decide_eq_true_eq]
  constructor
  · rintro ⟨value, within⟩
    split at value
    · obtain ⟨ds, digits, rfl, rfl⟩ := map_natural?_eq_some_iff.mp value
      exact ⟨some .plus, ds, digits, rfl, (one_mul _).symm, within⟩
    · obtain ⟨ds, digits, rfl, rfl⟩ := map_natural?_eq_some_iff.mp value
      exact ⟨some .minus, ds, digits, rfl, (neg_one_mul _).symm, within⟩
    · obtain ⟨ds, digits, rfl, rfl⟩ := map_natural?_eq_some_iff.mp value
      exact ⟨none, ds, digits, rfl, (one_mul _).symm, within⟩
  · rintro ⟨sign, ds, digits, rfl, rfl, within⟩
    refine ⟨?_, within⟩
    match sign with
    | some .plus => exact map_natural?_eq_some_iff.mpr ⟨ds, digits, rfl, one_mul _⟩
    | some .minus => exact map_natural?_eq_some_iff.mpr ⟨ds, digits, rfl, neg_one_mul _⟩
    | none =>
      rw [Sign.chars, List.nil_append]
      split
      · next rest signed => exact absurd signed (digitChars_unsigned ds .plus rest)
      · next rest signed => exact absurd signed (digitChars_unsigned ds .minus rest)
      · exact map_natural?_eq_some_iff.mpr ⟨ds, digits, rfl, one_mul _⟩

theorem signed?_written {low high i : Int} (sign : Option Sign) {ds : List Digit}
    (digits : ds ≠ []) : signed? low high (Sign.chars sign ++ digitChars ds) = some i ↔
      i = Sign.value sign * placeValue ds ∧ low ≤ i ∧ i ≤ high := by
  rw [signed?_eq_some_iff]
  constructor
  · rintro ⟨sign', ds', -, same, read⟩
    obtain ⟨rfl, rfl⟩ := signed_unique same
    exact read
  · intro read
    exact ⟨sign, ds, digits, rfl, read⟩

end NodeDiagnostics.Text
