import Mathlib.Data.List.TakeWhile
import NodeDiagnostics.Net.Endpoint
import NodeDiagnostics.Proofs.Text.Hexadecimal

namespace NodeDiagnostics.Text

theorem digitsFrom?_concat (radix n : Nat) (cs : List Char) (c : Char) :
    digitsFrom? radix n (cs ++ [c]) = (digitsFrom? radix n cs).bind fun m =>
      (digitValue? radix c).map fun d => m * radix + d := by
  induction cs generalizing n with
  | nil => cases value : digitValue? radix c <;> simp [digitsFrom?, value]
  | cons b cs ih => cases value : digitValue? radix b <;> simp [digitsFrom?, value, ih]

theorem digitValue?_digitChar {d : Nat} (small : d < 16) :
    digitValue? 16 d.digitChar = some d := by
  have every : ∀ d < 16, digitValue? 16 d.digitChar = some d := by decide
  exact every d small

theorem natural?_hex (n : Nat) : natural? 16 (hex n) = some n := by
  have read : digitsFrom? 16 0 (hex n) = some n := by
    induction n using Nat.strongRecOn with
    | ind n ih =>
      by_cases one : n < 16
      · rw [hex, Nat.toDigits_of_lt_base one]
        simp [digitsFrom?, digitValue?_digitChar one]
      · have shorter := ih (n / 16) (by omega)
        rw [hex] at shorter
        rw [hex, Nat.toDigits_of_base_le (by decide) (by omega), digitsFrom?_concat, shorter,
          Option.bind_some, digitValue?_digitChar (Nat.mod_lt n (by decide)), Option.map_some]
        congr 1
        omega
  rw [natural?, if_neg (by simp [hex, Nat.toDigits_ne_nil]), read]

theorem hex_plain (n : Nat) : ∀ c ∈ hex n, c ≠ ':' ∧ c ≠ '.' := by
  induction n using Nat.strongRecOn with
  | ind n ih =>
    by_cases one : n < 16
    · rw [hex, Nat.toDigits_of_lt_base one]
      simp
    · rw [hex, Nat.toDigits_of_base_le (by decide) (by omega)]
      exact List.forall_mem_append.mpr ⟨ih (n / 16) (by omega), by simp⟩

end NodeDiagnostics.Text

namespace NodeDiagnostics.Net.Address
open Text (hex)

theorem octet?_toDigits (o : UInt8) : octet? (Nat.toDigits 10 o.toNat) = some o := by
  refine Text.forall_byte (P := fun o => octet? (Nat.toDigits 10 o.toNat) = some o) ?_ o
  decide +kernel

theorem toDigits_plain (o : UInt8) : ∀ c ∈ Nat.toDigits 10 o.toNat, c ≠ '.' ∧ c ≠ ':' := by
  intro c member
  have digit := Nat.isDigit_of_mem_toDigits (by decide) (by decide) member
  constructor <;> rintro rfl <;> exact absurd digit (by decide)

theorem dotted?_dotted {octets : List UInt8} (four : octets.length = 4) :
    dotted? (dotted octets) = some octets := by
  have some_piece : octets.map (fun o => Nat.toDigits 10 o.toNat) ≠ [] := by
    intro none
    rw [List.map_eq_nil_iff.mp none] at four
    cases four
  have pieces : (dotted octets).splitOn '.' = octets.map fun o => Nat.toDigits 10 o.toNat := by
    refine List.splitOn_intercalate '.' ?_ some_piece
    intro piece member
    obtain ⟨o, -, rfl⟩ := List.mem_map.mp member
    exact fun dot => (toDigits_plain o '.' dot).1 rfl
  have each : (octets.map fun o => Nat.toDigits 10 o.toNat).mapM octet? = some octets := by
    have everyone := List.mapM_pure (m := Option) (l := octets) (f := id)
    rw [List.mapM_map]
    simpa [octet?_toDigits, Function.comp_def] using everyone
  rw [dotted?, pieces, each]
  simp [four]

def bytesOf (gs : List Nat) : List UInt8 :=
  gs.flatMap fun g => [(g / 256).toUInt8, (g % 256).toUInt8]

theorem groups_spec : ∀ {octets : List UInt8} {n : Nat}, octets.length = 2 * n →
    bytesOf (groups octets) = octets ∧ (groups octets).length = n ∧
      ∀ g ∈ groups octets, g < 65536
  | [], n, even => by
    have none : n = 0 := by simpa using even
    simp [groups, bytesOf, none]
  | [a], n, odd => by
    simp only [List.length_singleton] at odd
    omega
  | a :: b :: rest, n, even => by
    have shorter : rest.length = 2 * (n - 1) := by
      simp only [List.length_cons] at even
      omega
    obtain ⟨same, size, small⟩ := groups_spec shorter
    have below := a.toNat_lt
    have below' := b.toNat_lt
    have first : (a.toNat * 256 + b.toNat) / 256 = a.toNat := by omega
    have second : (a.toNat * 256 + b.toNat) % 256 = b.toNat := by omega
    refine ⟨?_, ?_, ?_⟩
    · have rest_same : (groups rest).flatMap
          (fun g => [(g / 256).toUInt8, (g % 256).toUInt8]) = rest := same
      simp [groups, bytesOf, first, second, rest_same]
    · simp only [List.length_cons] at even
      simp only [groups, List.length_cons, size]
      omega
    · simp only [groups, List.forall_mem_cons]
      exact ⟨by omega, small⟩

theorem group?_hex {g : Nat} (small : g < 65536) :
    groups?.group? (hex g) = some [(g / 256).toUInt8, (g % 256).toUInt8] := by
  have short : (hex g).length ≤ 4 := (Nat.length_toDigits_le_iff (by decide) (by decide)).mpr small
  rw [groups?.group?, if_neg (by omega), Text.natural?_hex, Option.map_some]

theorem groups?_append {gs : List Nat} (small : ∀ g ∈ gs, g < 65536) {last : List (List Char)}
    {octets : List UInt8} (some_last : last ≠ []) (read : groups? last = some octets) :
    groups? (gs.map hex ++ last) = some (bytesOf gs ++ octets) := by
  induction gs with
  | nil => simpa [bytesOf] using read
  | cons g gs ih =>
    obtain ⟨here, later⟩ := List.forall_mem_cons.mp small
    obtain ⟨next, others, split⟩ := List.exists_cons_of_ne_nil
      (List.append_ne_nil_of_right_ne_nil (gs.map hex) some_last)
    have rest := ih later
    rw [split] at rest
    rw [List.map_cons, List.cons_append, split, groups?, group?_hex here, rest]
    · simp [bytesOf]
    · simp

theorem groups?_hex {gs : List Nat} (small : ∀ g ∈ gs, g < 65536) (some_group : gs ≠ []) :
    groups? (gs.map hex) = some (bytesOf gs) := by
  obtain ⟨front, g, rfl⟩ := (List.eq_nil_or_concat gs).resolve_left some_group
  rw [List.concat_eq_append] at small ⊢
  obtain ⟨before, here⟩ := List.forall_mem_append.mp small
  have dotless : '.' ∉ hex g := fun dot => (Text.hex_plain g '.' dot).2 rfl
  have last : groups? [hex g] = some (bytesOf [g]) := by
    rw [groups?, if_neg (by simpa using dotless), group?_hex (here g (List.mem_singleton_self g))]
    rfl
  rw [List.map_append]
  simpa [bytesOf] using groups?_append before (List.cons_ne_nil _ _) last

theorem side?_colonHex {gs : List Nat} (small : ∀ g ∈ gs, g < 65536) :
    side? (colonHex gs) = some (bytesOf gs) := by
  by_cases none : gs = []
  · subst none
    rfl
  · have pieces : (colonHex gs).splitOn ':' = gs.map hex := by
      refine List.splitOn_intercalate ':' ?_ (by simpa using none)
      intro piece member
      obtain ⟨g, -, rfl⟩ := List.mem_map.mp member
      exact fun colon => (Text.hex_plain g ':' colon).1 rfl
    have text : colonHex gs ≠ [] := by
      intro empty
      have one : gs.map hex = [[]] := by rw [← pieces, empty]; rfl
      obtain ⟨g, rest, rfl, blank, -⟩ := List.map_eq_cons_iff.mp one
      exact Nat.toDigits_ne_nil blank
    rw [side?, if_neg (by simpa using text), pieces, groups?_hex small none]

theorem splitGap_append {front : List Char} (free : ':' ∉ front) (rest : List Char) :
    splitGap (front ++ rest) = (front ++ (splitGap rest).1, (splitGap rest).2) := by
  induction front with
  | nil => rfl
  | cons c front ih =>
    rw [List.mem_cons, not_or] at free
    rw [List.cons_append, splitGap, ih free.2]
    · rfl
    · rintro other rfl
      exact absurd rfl free.1

theorem colonHex_cons (g : Nat) (gs : List Nat) : colonHex (g :: gs) =
    hex g ++ (if gs = [] then [] else ':' :: colonHex gs) := by
  cases gs <;> simp [colonHex, List.intercalate]

/-- A gap, or the end of the text, behind groups. -/
theorem splitGap_colonHex (gs : List Nat) (tail : List Char) {gap : Option (List Char)}
    (begins : splitGap tail = ([], gap)) : splitGap (colonHex gs ++ tail) = (colonHex gs, gap) := by
  have free (g : Nat) : ':' ∉ hex g := fun colon => (Text.hex_plain g ':' colon).1 rfl
  induction gs with
  | nil => simpa [colonHex] using begins
  | cons g gs ih =>
    rw [colonHex_cons, List.append_assoc, splitGap_append (free g)]
    cases gs with
    | nil => simp [begins]
    | cons g' gs =>
      -- one colon is no gap, because a digit follows it
      obtain ⟨digit, digits, written⟩ :=
        List.exists_cons_of_ne_nil (Nat.toDigits_ne_nil (n := g') (b := 16))
      have no_colon : digit ≠ ':' := (Text.hex_plain g' digit (by simp [hex, written])).1
      have next : colonHex (g' :: gs) ++ tail = digit ::
          (digits ++ (if gs = [] then [] else ':' :: colonHex gs) ++ tail) := by
        simp [colonHex_cons, hex, written]
      have colon : splitGap (':' :: (colonHex (g' :: gs) ++ tail)) =
          (':' :: colonHex (g' :: gs), gap) := by
        rw [next, splitGap, ← next, ih]
        simpa using no_colon
      simp [colon]

theorem longestZeroRun_spec (gs : List Nat) : (longestZeroRun gs).2 = 0 ∨
    (longestZeroRun gs).2 = zeroRun (gs.drop (longestZeroRun gs).1) := by
  have kept : ∀ (places : List Nat) (best : Nat × Nat),
      best.2 = 0 ∨ best.2 = zeroRun (gs.drop best.1) →
      let last := places.foldl
        (fun best i => if best.2 < zeroRun (gs.drop i) then (i, zeroRun (gs.drop i)) else best) best
      last.2 = 0 ∨ last.2 = zeroRun (gs.drop last.1) := by
    intro places
    induction places with
    | nil => exact fun _ known => known
    | cons i places ih =>
      intro best known
      rw [List.foldl_cons]
      refine ih _ ?_
      split
      · exact .inr rfl
      · exact known
  exact kept _ (0, 0) (.inl rfl)

theorem drop_eq_zeros (gs : List Nat) (start : Nat) :
    gs.drop start = List.replicate (zeroRun (gs.drop start)) 0 ++
      gs.drop (start + zeroRun (gs.drop start)) := by
  have zeros : (gs.drop start).takeWhile (· == 0) =
      List.replicate (zeroRun (gs.drop start)) 0 := by
    refine List.eq_replicate_of_mem fun g member => ?_
    simpa using List.mem_takeWhile_imp member
  have front : (gs.drop start).take (zeroRun (gs.drop start)) =
      (gs.drop start).takeWhile (· == 0) :=
    (List.prefix_iff_eq_take.mp (List.takeWhile_prefix _)).symm
  rw [← zeros, ← front, ← List.drop_drop, List.take_append_drop]

theorem bytesOf_append (front back : List Nat) :
    bytesOf (front ++ back) = bytesOf front ++ bytesOf back := by
  simp [bytesOf]

theorem length_bytesOf (gs : List Nat) : (bytesOf gs).length = 2 * gs.length := by
  simp [bytesOf, List.length_flatMap, Nat.mul_comm]

theorem bytesOf_zeros (n : Nat) : bytesOf (List.replicate n 0) = List.replicate (2 * n) 0 := by
  refine List.eq_replicate_iff.mpr ⟨by simp [length_bytesOf], fun octet member => ?_⟩
  simp only [bytesOf, List.mem_flatMap, List.mem_replicate] at member
  obtain ⟨g, ⟨-, rfl⟩, inside⟩ := member
  simpa using inside

theorem ofChars?_gap {text before after : List Char} {front back : List UInt8}
    (split : splitGap text = (before, some after)) (colon : ':' ∈ text)
    (left : side? before = some front) (right : side? after = some back)
    (some_gap : front.length + back.length < 16) :
    ofChars? text = ofOctets?
      (front ++ List.replicate (16 - front.length - back.length) 0 ++ back) := by
  simp [ofChars?, split, colon, left, right, some_gap]

theorem colon_not_mem_dotted (octets : List UInt8) : ':' ∉ dotted octets := by
  have free (o : UInt8) : ':' ∉ Nat.toDigits 10 o.toNat := fun colon =>
    (toDigits_plain o ':' colon).2 rfl
  induction octets with
  | nil => simp [dotted]
  | cons o octets ih =>
    cases octets with
    | nil => simpa [dotted] using free o
    | cons o' octets => simpa [dotted, List.intercalate_cons_cons, free] using ih

theorem side?_mapped {octets : List UInt8} (four : octets.length = 4) :
    side? (['f', 'f', 'f', 'f', ':'] ++ dotted octets) = some (0xff :: 0xff :: octets) := by
  have pieces : (['f', 'f', 'f', 'f', ':'] ++ dotted octets).splitOn ':' =
      [0xffff].map hex ++ [dotted octets] := by
    have joined : ['f', 'f', 'f', 'f', ':'] ++ dotted octets =
        [':'].intercalate ([0xffff].map hex ++ [dotted octets]) := by
      have digits : hex 0xffff = ['f', 'f', 'f', 'f'] := by decide
      simp [List.intercalate_cons_cons, digits]
    rw [joined]
    refine List.splitOn_intercalate ':' ?_ (by simp)
    refine List.forall_mem_append.mpr ⟨by decide, ?_⟩
    simpa using colon_not_mem_dotted octets
  have dot : '.' ∈ dotted octets := by
    match octets, four with
    | [a, b, c, d], _ => simp [dotted, List.intercalate]
  have last : groups? [dotted octets] = some octets := by
    rw [groups?, if_pos (by simpa using dot), dotted?_dotted four]
  rw [side?, if_neg (by simp), pieces, groups?_append (by decide) (by simp) last]
  rfl

section Octets
variable {octets : List UInt8} {gs : List Nat}

theorem ofChars?_mapped (whole : bytesOf gs = octets) (eight : gs.length = 8)
    (mapped : gs.take 6 = [0, 0, 0, 0, 0, 0xffff]) :
    ofChars? ([':', ':', 'f', 'f', 'f', 'f', ':'] ++ dotted (octets.drop 12)) =
      ofOctets? octets := by
  have front : octets = List.replicate 10 0 ++ 0xff :: 0xff :: bytesOf (gs.drop 6) := by
    rw [← whole, ← List.take_append_drop 6 gs, bytesOf_append, mapped]
    rfl
  have last : octets.drop 12 = bytesOf (gs.drop 6) := by
    rw [front]
    rfl
  have four : (bytesOf (gs.drop 6)).length = 4 := by simp [length_bytesOf, eight]
  let after := ['f', 'f', 'f', 'f', ':'] ++ dotted (bytesOf (gs.drop 6))
  have gap : splitGap ([':', ':'] ++ after) = ([], some after) := rfl
  have read := ofChars?_gap gap (by simp) rfl (side?_mapped four) (by simp [four])
  rw [last, front]
  refine Eq.trans read (congrArg ofOctets? ?_)
  simp [four]

theorem ofChars?_colonHex (whole : bytesOf gs = octets) (eight : gs.length = 8)
    (small : ∀ g ∈ gs, g < 65536) : ofChars? (colonHex gs) = ofOctets? octets := by
  have gapless := splitGap_colonHex gs [] rfl
  rw [List.append_nil] at gapless
  have colon : ':' ∈ colonHex gs := by
    match gs, eight with
    | a :: b :: rest, _ => simp [colonHex_cons]
  have sixteen : octets.length = 16 := by simp [← whole, length_bytesOf, eight]
  simp [ofChars?, colon, gapless, side?_colonHex small, whole, sixteen]

theorem ofChars?_shortened (whole : bytesOf gs = octets) (eight : gs.length = 8)
    (small : ∀ g ∈ gs, g < 65536) {start length : Nat} (long : 2 ≤ length)
    (zeros : length = zeroRun (gs.drop start)) :
    ofChars? (colonHex (gs.take start) ++ [':', ':'] ++ colonHex (gs.drop (start + length))) =
      ofOctets? octets := by
  have dropped := drop_eq_zeros gs start
  rw [← zeros] at dropped
  have parts : gs = gs.take start ++ (List.replicate length 0 ++ gs.drop (start + length)) := by
    rw [← dropped, List.take_append_drop]
  have sizes := congrArg List.length parts
  simp only [eight, List.length_append, List.length_replicate] at sizes
  have gap := splitGap_colonHex (gs.take start)
    ([':', ':'] ++ colonHex (gs.drop (start + length))) rfl
  have left : side? (colonHex (gs.take start)) = some (bytesOf (gs.take start)) :=
    side?_colonHex fun g member => small g (List.mem_of_mem_take member)
  have right : side? (colonHex (gs.drop (start + length))) =
      some (bytesOf (gs.drop (start + length))) :=
    side?_colonHex fun g member => small g (List.mem_of_mem_drop member)
  have front := length_bytesOf (gs.take start)
  have back := length_bytesOf (gs.drop (start + length))
  rw [List.append_assoc, ofChars?_gap gap (by simp) left right (by omega)]
  refine congrArg ofOctets? ?_
  have filled : 16 - (bytesOf (gs.take start)).length -
      (bytesOf (gs.drop (start + length))).length = 2 * length := by omega
  calc bytesOf (gs.take start) ++ List.replicate _ 0 ++ bytesOf (gs.drop (start + length))
    _ = bytesOf (gs.take start ++ (List.replicate length 0 ++ gs.drop (start + length))) := by
      rw [filled, ← bytesOf_zeros, bytesOf_append, bytesOf_append, List.append_assoc]
    _ = octets := by rw [← parts, whole]

end Octets

/-- The address that is written is read again. -/
theorem ofChars?_text (a : Address) : ofChars? a.text.toList = some a := by
  cases a with
  | v4 o =>
    rw [text, String.toList_ofList, ofChars?, if_neg (by simpa using colon_not_mem_dotted o.toList),
      dotted?_dotted (by simp)]
    simp [ofOctets?, Vector.toList]
  | v6 o =>
    have sixteen : o.toList.length = 2 * 8 := by simp
    obtain ⟨whole, eight, small⟩ := groups_spec sixteen
    have octets : ofOctets? o.toList = some (v6 o) := by simp [ofOctets?, Vector.toList]
    rw [text, String.toList_ofList, ← octets]
    generalize groups o.toList = gs at whole eight small
    have run := longestZeroRun_spec gs
    unfold groupsText
    generalize longestZeroRun gs = longest at run ⊢
    split
    · next mapped => exact ofChars?_mapped whole eight mapped
    · dsimp only
      split
      · exact ofChars?_colonHex whole eight small
      · exact ofChars?_shortened whole eight small (by omega) (run.resolve_left (by omega))

theorem text_injective {a b : Address} (same : a.text = b.text) : a = b := by
  have read := ofChars?_text a
  rw [same, ofChars?_text] at read
  exact (Option.some.inj read).symm

end NodeDiagnostics.Net.Address
