import Mathlib.Data.List.TakeWhile
import NodeDiagnostics.Proofs.Usage.Amount

namespace NodeDiagnostics.Usage
open Text

namespace Multiplier

theorem ofChars?_small (cs : List Char) :
    ofChars? ('e' :: cs) = (signed? (-0x80000000) 0x7fffffff cs).map decimal := by
  simp [ofChars?]

theorem ofChars?_capital {cs : List Char} (some : cs ≠ []) (other : cs ≠ ['i']) :
    ofChars? ('E' :: cs) = (signed? (-0x80000000) 0x7fffffff cs).map decimal := by
  unfold ofChars?
  split <;> simp_all

theorem ofChars?_chars (s : Suffix) : ofChars? s.chars = some s.multiplier := by
  cases s with
  | nothing => rfl
  | decimal letter => cases letter <;> rfl
  | binary letter => cases letter <;> rfl
  | exponent e =>
    let text := Sign.chars e.sign ++ digitChars e.digits
    have read : signed? (-0x80000000) 0x7fffffff text = some e.power :=
      (signed?_written e.sign e.written).mpr ⟨rfl, e.least, e.most⟩
    have legible {cs : List Char} (none : signed? (-0x80000000) 0x7fffffff cs = none) :
        text ≠ cs := by
      rintro same
      rw [← same, read] at none
      contradiction
    rw [Suffix.chars, Exponent.chars, Exponent.mark]
    split
    · rw [ofChars?_capital (legible (by decide)) (legible (by decide)), read]
      rfl
    · rw [ofChars?_small, read]
      rfl

theorem ofChars?_sound {cs : List Char} {m : Multiplier} (read : ofChars? cs = some m) :
    ∃ s : Suffix, cs = s.chars := by
  unfold ofChars? at read
  split at read
  · exact ⟨.binary .kibi, rfl⟩
  · exact ⟨.binary .mebi, rfl⟩
  · exact ⟨.binary .gibi, rfl⟩
  · exact ⟨.binary .tebi, rfl⟩
  · exact ⟨.binary .pebi, rfl⟩
  · exact ⟨.binary .exbi, rfl⟩
  · exact ⟨.decimal .nano, rfl⟩
  · exact ⟨.decimal .micro, rfl⟩
  · exact ⟨.decimal .milli, rfl⟩
  · exact ⟨.nothing, rfl⟩
  · exact ⟨.decimal .kilo, rfl⟩
  · exact ⟨.decimal .mega, rfl⟩
  · exact ⟨.decimal .giga, rfl⟩
  · exact ⟨.decimal .tera, rfl⟩
  · exact ⟨.decimal .peta, rfl⟩
  · exact ⟨.decimal .exa, rfl⟩
  · obtain ⟨i, value, -⟩ := Option.map_eq_some_iff.mp read
    obtain ⟨sign, ds, written, rfl, rfl, least, most⟩ := signed?_eq_some_iff.mp value
    exact ⟨.exponent ⟨false, sign, ds, written, least, most⟩, rfl⟩
  · obtain ⟨i, value, -⟩ := Option.map_eq_some_iff.mp read
    obtain ⟨sign, ds, written, rfl, rfl, least, most⟩ := signed?_eq_some_iff.mp value
    exact ⟨.exponent ⟨true, sign, ds, written, least, most⟩, rfl⟩
  · contradiction

end Multiplier

namespace Quantity

theorem within_word_iff (n : Int) :
    -Int.pow 2 127 ≤ n ∧ n ≤ Int.pow 2 127 - 1 ↔ Word128 n := by
  have same : Int.pow 2 127 = 2 ^ 127 := rfl
  rw [same, Word128]
  omega

theorem cut_at_point {front : List Char} (pointless : ∀ c ∈ front, c ≠ '.')
    (fraction : Option (List Digit)) :
    (front ++ Amount.pointed fraction).takeWhile (· != '.') = front ∧
      ((front ++ Amount.pointed fraction).dropWhile (· != '.')).drop 1 =
        digitChars (fraction.getD []) := by
  have all : ∀ c ∈ front, (c != '.') = true := fun c member => bne_iff_ne.mpr (pointless c member)
  rw [List.takeWhile_append_of_pos all, List.dropWhile_append_of_pos all]
  cases fraction <;> simp [Amount.pointed, digitChars]

theorem number?_amount {q : Quantity} (a : Amount) : number? a.number = some q ↔
    Word128 a.unscaled.numerator ∧ Word128 a.unscaled.denominator ∧ q = a.unscaled := by
  have pointless := forall_mem_signed (P := (· ≠ '.')) (fun s => by cases s <;> decide)
    (by decide) a.sign a.whole
  obtain ⟨whole, fraction⟩ := cut_at_point pointless a.fraction
  have joined : Sign.chars a.sign ++ digitChars a.whole ++ digitChars a.decimals =
      Sign.chars a.sign ++ digitChars (a.whole ++ a.decimals) := by
    simp [digitChars]
  have places : (digitChars a.decimals).length = a.decimals.length := List.length_map _
  -- Where nothing is behind the point, there is a digit before it, which is no sign.
  have present : ¬ (((Sign.chars a.sign ++ digitChars a.whole).dropWhile isSign).isEmpty &&
      (digitChars a.decimals).isEmpty) = true := by
    simp only [Bool.and_eq_true, List.isEmpty_iff, List.dropWhile_eq_nil_iff]
    rintro ⟨signs, none⟩
    have unsigned : ∀ d : Digit, isSign d.char ≠ true := by decide
    have written := a.written
    rw [← Amount.decimals, List.map_eq_nil_iff.mp none, List.append_nil] at written
    obtain ⟨d, member⟩ := List.exists_mem_of_ne_nil _ written
    exact unsigned d (signs _ (List.mem_append_right _ (List.mem_map_of_mem member)))
  rw [number?, Amount.number, ← List.append_assoc, whole, fraction, ← Amount.decimals,
    if_neg present, joined]
  simp only [Option.bind_eq_bind, Option.bind_eq_some_iff, powerOfTen?_eq, places,
    Option.ite_none_right_eq_some, Option.some.injEq]
  constructor
  · rintro ⟨n, value, -, ⟨denominator, rfl⟩, rfl⟩
    obtain ⟨rfl, numerator⟩ := (signed?_written a.sign a.written).mp value
    exact ⟨(within_word_iff _).mp numerator, denominator, rfl⟩
  · rintro ⟨numerator, denominator, rfl⟩
    exact ⟨_, (signed?_written a.sign a.written).mpr ⟨rfl, (within_word_iff _).mpr numerator⟩, _,
      ⟨denominator, rfl⟩, rfl⟩

theorem point_cases (cs : List Char) :
    (cs.takeWhile (· != '.') = cs ∧ (cs.dropWhile (· != '.')).drop 1 = []) ∨
      cs = cs.takeWhile (· != '.') ++ '.' :: (cs.dropWhile (· != '.')).drop 1 := by
  have whole := List.takeWhile_append_dropWhile (p := (· != '.')) (l := cs)
  have first := List.head?_dropWhile_not (· != '.') cs
  cases behind : cs.dropWhile (· != '.') with
  | nil =>
    rw [behind, List.append_nil] at whole
    exact .inl ⟨whole, rfl⟩
  | cons c rest =>
    rw [behind] at whole first
    have point : c = '.' := by simpa using first
    subst point
    exact .inr whole.symm

/-- A signed number that is parted has its sign in front, or the first part is empty. -/
theorem parted {front back : List Char} {sign : Option Sign} {ds : List Digit}
    (glued : front ++ back = Sign.chars sign ++ digitChars ds) :
    (∃ whole fraction, front = Sign.chars sign ++ digitChars whole ∧ back = digitChars fraction ∧
      ds = whole ++ fraction) ∨ front = [] ∧ ∃ s : Sign, back = s.char :: digitChars ds := by
  rcases List.append_eq_append_iff.mp glued with ⟨later, signs, rfl⟩ | ⟨earlier, rfl, digits⟩
  · cases sign with
    | none =>
      obtain ⟨rfl, rfl⟩ := List.append_eq_nil_iff.mp signs.symm
      exact .inl ⟨[], ds, rfl, rfl, rfl⟩
    | some s =>
      rcases List.append_eq_singleton_iff.mp signs.symm with ⟨rfl, rfl⟩ | ⟨rfl, rfl⟩
      · exact .inr ⟨rfl, s, rfl⟩
      · exact .inl ⟨[], ds, rfl, rfl, rfl⟩
  · obtain ⟨whole, fraction, rfl, rfl, rfl⟩ := List.map_eq_append_iff.mp digits
    exact .inl ⟨whole, fraction, rfl, rfl, rfl⟩

theorem number?_sound {cs : List Char} {q : Quantity} (read : number? cs = some q) :
    (∃ sign whole fraction, whole ++ fraction.getD [] ≠ [] ∧
      cs = Sign.chars sign ++ digitChars whole ++ Amount.pointed fraction) ∨
    ∃ (s : Sign) (ds : List Digit), ds ≠ [] ∧ cs = '.' :: s.char :: digitChars ds := by
  rw [number?] at read
  split at read
  · contradiction
  · simp only [Option.bind_eq_bind, Option.bind_eq_some_iff] at read
    obtain ⟨n, value, -⟩ := read
    obtain ⟨sign, ds, written, glued, -⟩ := signed?_eq_some_iff.mp value
    rcases point_cases cs with ⟨pointless, nothing⟩ | pointed
    · rw [pointless, nothing, List.append_nil] at glued
      refine .inl ⟨sign, ds, none, by simpa using written, ?_⟩
      rw [glued]
      exact (List.append_nil _).symm
    · rcases parted glued with ⟨whole, fraction, front, back, rfl⟩ | ⟨front, s, back⟩
      · rw [front, back] at pointed
        exact .inl ⟨sign, whole, some fraction, written, pointed⟩
      · rw [front, back] at pointed
        exact .inr ⟨s, ds, written, pointed⟩

end Quantity

theorem Suffix.apart (s : Suffix) :
    s.chars.takeWhile Quantity.isNumberChar = [] ∧
      s.chars.dropWhile Quantity.isNumberChar = s.chars := by
  match s with
  | nothing => exact ⟨rfl, rfl⟩
  | decimal letter => cases letter <;> exact ⟨rfl, rfl⟩
  | binary letter => cases letter <;> exact ⟨rfl, rfl⟩
  | exponent ⟨capital, _, _, _, _, _⟩ => cases capital <;> exact ⟨rfl, rfl⟩

namespace Amount

theorem forall_mem_number {P : Char → Prop} (signs : ∀ s : Sign, P s.char)
    (digits : ∀ d : Digit, P d.char) (point : P '.') (a : Amount) : ∀ c ∈ a.number, P c := by
  intro c member
  rw [number, ← List.append_assoc, List.mem_append] at member
  rcases member with front | back
  · exact forall_mem_signed signs digits a.sign a.whole c front
  · cases fraction : a.fraction with
    | none =>
      rw [fraction] at back
      cases back
    | some ds =>
      rw [fraction] at back
      rcases List.mem_cons.mp back with rfl | behind
      · exact point
      · exact forall_mem_signed signs digits none ds c behind

theorem number_all (a : Amount) : ∀ c ∈ a.number, Quantity.isNumberChar c = true :=
  forall_mem_number (fun s => by cases s <;> rfl) (by decide) (by decide) a

theorem unblank (a : Amount) : ∀ c ∈ a.chars, isBlank c = false := by
  have signs : ∀ s : Sign, isBlank s.char = false := fun s => by cases s <;> rfl
  have digits : ∀ d : Digit, isBlank d.char = false := by decide
  intro c member
  rcases List.mem_append.mp member with number | letters
  · exact forall_mem_number (P := (isBlank · = false)) signs digits (by decide) a c number
  · match a.suffix, letters with
    | .decimal letter, letters =>
      rw [List.mem_singleton.mp letters]
      cases letter <;> rfl
    | .binary letter, letters =>
      rcases List.mem_pair.mp letters with rfl | rfl
      · cases letter <;> rfl
      · rfl
    | .exponent e, letters =>
      rcases List.mem_cons.mp letters with rfl | power
      · rw [Exponent.mark]
        split <;> rfl
      · exact forall_mem_signed (P := (isBlank · = false)) signs digits _ _ c power

end Amount

theorem trim_unblank {cs : List Char} (unblank : ∀ c ∈ cs, isBlank c = false) : trim cs = cs := by
  have kept {l : List Char} (visible : ∀ c ∈ l, isBlank c = false) : l.dropWhile isBlank = l := by
    refine List.dropWhile_eq_self_iff.mpr fun some blank => ?_
    rw [visible _ (List.getElem_mem some)] at blank
    contradiction
  rw [trim, kept unblank, kept (fun c member => unblank c (List.mem_reverse.mp member)),
    List.reverse_reverse]

namespace Quantity

def SignBehindPoint (cs : List Char) : Prop :=
  ∃ (s : Sign) (ds : List Digit) (suffix : Suffix), ds ≠ [] ∧
    cs = '.' :: s.char :: (digitChars ds ++ suffix.chars)

theorem not_signBehindPoint (a : Amount) : ¬ SignBehindPoint a.chars := by
  rintro ⟨s, ds, suffix, -, same⟩
  obtain ⟨sign, whole, fraction, letters, written⟩ := a
  have signs : ∀ s : Sign, s.char ≠ '.' := fun s => by cases s <;> decide
  have digits : ∀ d : Digit, d.char ≠ '.' := by decide
  match sign, whole, fraction with
  | some t, _, _ => exact signs t (List.cons.inj same).1
  | none, d :: _, _ => exact digits d (List.cons.inj same).1
  | none, [], some (d :: _) => exact d.char_ne_sign s (List.cons.inj (List.cons.inj same).2).1
  | none, [], some [] => exact written rfl
  | none, [], none => exact written rfl

theorem ofChars?_sound {cs : List Char} {q : Quantity} (read : ofChars? cs = some q) :
    (∃ a : Amount, cs = a.chars) ∨ SignBehindPoint cs := by
  simp only [ofChars?, Option.bind_eq_bind, Option.bind_eq_some_iff] at read
  obtain ⟨u, number, m, letters, -⟩ := read
  have split := List.takeWhile_append_dropWhile (p := isNumberChar) (l := cs)
  obtain ⟨suffix, behind⟩ := Multiplier.ofChars?_sound letters
  rw [behind] at split
  rcases number?_sound number with ⟨sign, whole, fraction, written, front⟩ | ⟨s, ds, some, front⟩
  · rw [front] at split
    refine .inl ⟨⟨sign, whole, fraction, suffix, written⟩, ?_⟩
    rw [← split, Amount.chars, Amount.number, List.append_assoc (Sign.chars sign)]
  · rw [front] at split
    exact .inr ⟨s, ds, suffix, some, split.symm⟩

theorem ofChars?_amount {q : Quantity} (a : Amount) :
    ofChars? a.chars = some q ↔ a.Fits ∧ q = a.quantity := by
  have number : a.chars.takeWhile isNumberChar = a.number := by
    rw [Amount.chars, List.takeWhile_append_of_pos a.number_all, a.suffix.apart.1, List.append_nil]
  have suffix : a.chars.dropWhile isNumberChar = a.suffix.chars := by
    rw [Amount.chars, List.dropWhile_append_of_pos a.number_all, a.suffix.apart.2]
  rw [ofChars?, number, suffix, Multiplier.ofChars?_chars]
  simp only [Option.bind_eq_bind, Option.bind_eq_some_iff, number?_amount, Option.some.injEq,
    exists_eq_left']
  constructor
  · rintro ⟨-, ⟨numerator, denominator, rfl⟩, scaled⟩
    exact (Multiplier.scale?_eq_some_iff _ numerator denominator).mp scaled
  · rintro ⟨fits, rfl⟩
    obtain ⟨numerator, denominator⟩ := fits.unscaled
    exact ⟨_, ⟨numerator, denominator, rfl⟩,
      (Multiplier.scale?_eq_some_iff _ numerator denominator).mpr ⟨fits, rfl⟩⟩

theorem parse_eq_ok_iff {text : String} {q : Quantity} :
    parse text = .ok q ↔ ofChars? (trim text.toList) = some q := by
  rw [parse]
  split <;> simp_all

theorem parse_eq_error_iff {text : String} :
    parse text = .error (.configuration ("invalid quantity " ++ quoted text)) ↔
      ofChars? (trim text.toList) = none := by
  rw [parse]
  split <;> simp_all

/-- What is accepted is an amount exactly if no sign stands behind a leading point. -/
theorem accepted_written_iff {text : String} {q : Quantity} (accepted : parse text = .ok q) :
    (∃ a : Amount, trim text.toList = a.chars) ↔ ¬ SignBehindPoint (trim text.toList) := by
  constructor
  · rintro ⟨a, same⟩
    rw [same]
    exact not_signBehindPoint a
  · intro inFront
    exact (ofChars?_sound (parse_eq_ok_iff.mp accepted)).resolve_right inFront

theorem plain_written : parse " -1.5Ki" = .ok ⟨-15360, 10⟩ ∧
    ∃ a : Amount, trim " -1.5Ki".toList = a.chars := by
  have accepted : parse " -1.5Ki" = .ok ⟨-15360, 10⟩ := by decide +kernel
  refine ⟨accepted, (accepted_written_iff accepted).mpr ?_⟩
  rintro ⟨s, ds, suffix, -, same⟩
  have first : (trim " -1.5Ki".toList).head? = some '-' := by decide
  rw [same] at first
  exact absurd (Option.some.inj first) (by decide)

theorem sign_behind_point_accepted : parse ".+5" = .ok ⟨5, 100⟩ ∧
    ¬ ∃ a : Amount, trim ".+5".toList = a.chars := by
  refine ⟨by decide +kernel, ?_⟩
  rintro ⟨a, same⟩
  have text : trim ".+5".toList = ['.', '+', '5'] := by decide
  exact not_signBehindPoint a ⟨.plus, [5], .nothing, by decide, same.symm.trans text⟩

end Quantity
end NodeDiagnostics.Usage
