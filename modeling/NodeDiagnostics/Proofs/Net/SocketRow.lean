import NodeDiagnostics.Net.SocketTable
import NodeDiagnostics.Proofs.Dns.Layout
import NodeDiagnostics.Proofs.Text.Hexadecimal
import NodeDiagnostics.Proofs.Text.Words

/-!
Rows of the socket table as they are written: a slot, the two endpoints with the words of their
addresses and their ports, the state, and further columns. What is read as a row is exactly what is
written so, if a plus sign in front of each number is allowed for.
-/
namespace NodeDiagnostics.Net.Socket

open NodeDiagnostics.Text (Spaced Lenient hexChars hexValue isHexDigit HexDigit)

/-- How numbers are written: the words of an address, ports, states. -/
structure Style where
  word : List Char → Nat → Prop
  port : List Char → Nat → Prop
  state : List Char → Nat → Prop

def wordValue (octets : List UInt8) : Nat := octets.foldr (fun o n => o.toNat + 0x100 * n) 0

inductive AddressText (word : List Char → Nat → Prop) : List Char → Address → Prop where
  | v4 {cs} (o : Vector UInt8 4) (whole : word cs (wordValue o.toList)) :
      AddressText word cs (.v4 o)
  | v6 {a b c d} (o : Vector UInt8 16) (first : word a (wordValue (o.toList.take 4)))
      (second : word b (wordValue ((o.toList.drop 4).take 4)))
      (third : word c (wordValue ((o.toList.drop 8).take 4)))
      (fourth : word d (wordValue (o.toList.drop 12))) :
      AddressText word (a ++ (b ++ (c ++ d))) (.v6 o)

def EndpointText (style : Style) (cs : List Char) (e : Endpoint) : Prop :=
  ∃ address port, cs = address ++ ':' :: port ∧ AddressText style.word address e.address ∧
    style.port port e.port.toNat

def RowText (style : Style) (row : List Char) (s : Socket) : Prop :=
  ∃ slot own peer state columns, Spaced (slot :: own :: peer :: state :: columns) row ∧
    EndpointText style own s.own ∧ EndpointText style peer s.peer ∧ style.state state s.state.toNat

/-- What the reader takes: eight characters for a word, and elsewhere any number of digits. -/
def lenient : Style where
  word cs n := cs.length = 8 ∧ Lenient cs n
  port := Lenient
  state := Lenient

theorem wordOctets?_eq_some_iff {cs : List Char} {octets : List UInt8} :
    wordOctets? cs = some octets ↔ octets.length = 4 ∧ Lenient cs (wordValue octets) := by
  rw [wordOctets?, Option.map_eq_some_iff]
  simp only [Text.unsigned?_hex_iff]
  constructor
  · rintro ⟨n, ⟨written, small⟩, rfl⟩
    refine ⟨rfl, ?_⟩
    have value : wordValue [n.toUInt8, (n / 0x100).toUInt8, (n / 0x10000).toUInt8,
        (n / 0x1000000).toUInt8] = n := by
      simp [wordValue, UInt32.size] at small ⊢
      omega
    rwa [value]
  · rintro ⟨four, written⟩
    match octets with
    | [a, b, c, d] =>
      have ha := a.toNat_lt
      have hb := b.toNat_lt
      have hc := c.toNat_lt
      have hd := d.toNat_lt
      refine ⟨_, ⟨written, ?_⟩, ?_⟩
      · simp [wordValue, UInt32.size]
        omega
      · simp only [wordValue, List.foldr_cons, List.foldr_nil, List.cons.injEq, and_true]
        refine ⟨?_, ?_, ?_, ?_⟩ <;>
        · apply UInt8.toNat_inj.mp
          rw [Nat.toUInt8, UInt8.toNat_ofNat']
          omega

section Quarters

variable {α : Type} {a b c d : List α} {n : Nat}

theorem quarters (front : a.length = n ∧ b.length = n) (third : c.length = n) :
    let whole := a ++ (b ++ (c ++ d))
    whole.take n = a ∧ (whole.drop n).take n = b ∧ (whole.drop (2 * n)).take n = c ∧
      whole.drop (3 * n) = d := by
  obtain ⟨rfl, second⟩ := front
  have two : (a ++ (b ++ (c ++ d))).drop (2 * a.length) = c ++ d := by
    rw [← List.append_assoc]
    exact List.drop_left' (by rw [List.length_append]; omega)
  have three : (a ++ (b ++ (c ++ d))).drop (3 * a.length) = d := by
    rw [← List.append_assoc, ← List.append_assoc]
    exact List.drop_left' (by rw [List.length_append, List.length_append]; omega)
  refine ⟨List.take_left, ?_, ?_, three⟩
  · rw [List.drop_left, List.take_left' second]
  · rw [two, List.take_left' third]

theorem append_quarters (whole : List α) (n : Nat) :
    whole.take n ++ ((whole.drop n).take n ++ ((whole.drop (2 * n)).take n ++
      whole.drop (3 * n))) = whole := by
  have second := List.take_append_drop n (whole.drop n)
  have third := List.take_append_drop n (whole.drop (2 * n))
  rw [List.drop_drop, show n + n = 2 * n by omega] at second
  rw [List.drop_drop, show 2 * n + n = 3 * n by omega] at third
  rw [third, second, List.take_append_drop]

end Quarters

theorem address?_long {cs : List Char} (long : cs.length = 32) :
    address? cs = (wordOctets? (cs.take 8)).bind fun w =>
      (wordOctets? ((cs.drop 8).take 8)).bind fun x =>
      (wordOctets? ((cs.drop 16).take 8)).bind fun y =>
      (wordOctets? (cs.drop 24)).bind fun z => Address.ofOctets? (w ++ x ++ y ++ z) := by
  rw [address?, if_neg (by omega), if_pos long]
  rfl

theorem AddressText.of_word {cs : List Char} {a : Address} (eight : cs.length = 8)
    (read : wordOctets? cs = some a.octets) : AddressText lenient.word cs a := by
  obtain ⟨four, written⟩ := wordOctets?_eq_some_iff.mp read
  cases a with
  | v4 o => exact .v4 o ⟨eight, written⟩
  | v6 o => exact absurd (o.length_toList.symm.trans four) (by decide)

theorem AddressText.of_words {cs : List Char} {a : Address} {w x y z : List UInt8}
    (long : cs.length = 32) (first : wordOctets? (cs.take 8) = some w)
    (second : wordOctets? ((cs.drop 8).take 8) = some x)
    (third : wordOctets? ((cs.drop 16).take 8) = some y)
    (fourth : wordOctets? (cs.drop 24) = some z) (shaped : a.octets = w ++ (x ++ (y ++ z))) :
    AddressText lenient.word cs a := by
  rw [wordOctets?_eq_some_iff] at first second third fourth
  cases a with
  | v4 o =>
    have size := congrArg List.length shaped
    simp only [Address.octets, List.length_append, o.length_toList] at size
    omega
  | v6 o =>
    have octets : o.toList = w ++ (x ++ (y ++ z)) := shaped
    obtain ⟨rfl, rfl, rfl, rfl⟩ : o.toList.take 4 = w ∧ (o.toList.drop 4).take 4 = x ∧
        (o.toList.drop 8).take 4 = y ∧ o.toList.drop 12 = z := by
      rw [octets]
      exact quarters ⟨first.1, second.1⟩ third.1
    rw [← append_quarters cs 8]
    refine .v6 o ⟨?_, first.2⟩ ⟨?_, second.2⟩ ⟨?_, third.2⟩ ⟨?_, fourth.2⟩ <;>
    · simp only [List.length_take, List.length_drop]
      omega

theorem AddressText.read {cs : List Char} {a : Address}
    (written : AddressText lenient.word cs a) : address? cs = some a := by
  have read {cs : List Char} {octets : List UInt8} (four : octets.length = 4)
      (written : lenient.word cs (wordValue octets)) : wordOctets? cs = some octets :=
    wordOctets?_eq_some_iff.mpr ⟨four, written.2⟩
  cases written with
  | v4 o whole =>
    rw [address?, if_pos whole.1, read o.length_toList whole]
    exact Address.ofOctets?_octets (.v4 o)
  | @v6 a b c d o first second third fourth =>
    have size := o.length_toList
    have long : (a ++ (b ++ (c ++ d))).length = 32 := by
      simp only [List.length_append, first.1, second.1, third.1, fourth.1]
    obtain ⟨ha, hb, hc, hd⟩ : (a ++ (b ++ (c ++ d))).take 8 = a ∧
        ((a ++ (b ++ (c ++ d))).drop 8).take 8 = b ∧
        ((a ++ (b ++ (c ++ d))).drop 16).take 8 = c ∧ (a ++ (b ++ (c ++ d))).drop 24 = d :=
      quarters ⟨first.1, second.1⟩ third.1
    have whole : o.toList.take 4 ++ (o.toList.drop 4).take 4 ++ (o.toList.drop 8).take 4 ++
        o.toList.drop 12 = o.toList := by
      rw [List.append_assoc, List.append_assoc]
      exact append_quarters o.toList 4
    rw [address?_long long, ha, hb, hc, hd, read (by simp [size]) first,
      read (by simp [size]) second, read (by simp [size]) third, read (by simp [size]) fourth]
    simp only [Option.bind_some, whole]
    exact Address.ofOctets?_octets (.v6 o)

theorem address?_eq_some_iff {cs : List Char} {a : Address} :
    address? cs = some a ↔ AddressText lenient.word cs a := by
  refine ⟨fun read => ?_, AddressText.read⟩
  by_cases eight : cs.length = 8
  · rw [address?, if_pos eight] at read
    obtain ⟨octets, word, shaped⟩ := Option.bind_eq_some_iff.mp read
    obtain rfl := Address.ofOctets?_eq_some_iff.mp shaped
    exact .of_word eight word
  · by_cases long : cs.length = 32
    · rw [address?_long long] at read
      simp only [Option.bind_eq_some_iff, Address.ofOctets?_eq_some_iff] at read
      obtain ⟨w, first, x, second, y, third, z, fourth, shaped⟩ := read
      rw [List.append_assoc, List.append_assoc] at shaped
      exact .of_words long first second third fourth shaped
    · rw [address?, if_neg eight, if_neg long] at read
      contradiction

theorem AddressText.chars {cs : List Char} {a : Address}
    (written : AddressText lenient.word cs a) : ∀ c ∈ cs, isHexDigit c = true ∨ c = '+' := by
  cases written with
  | v4 o whole => exact whole.2.chars
  | v6 o first second third fourth =>
    simp only [List.forall_mem_append]
    exact ⟨first.2.chars, second.2.chars, third.2.chars, fourth.2.chars⟩

theorem AddressText.length {cs : List Char} {a : Address}
    (written : AddressText lenient.word cs a) : cs.length = 8 ∨ cs.length = 32 := by
  cases written with
  | v4 o whole => exact .inl whole.1
  | v6 o first second third fourth =>
    simp only [List.length_append, first.1, second.1, third.1, fourth.1]
    exact .inr trivial

theorem AddressText.colonless {cs : List Char} {a : Address}
    (written : AddressText lenient.word cs a) : ':' ∉ cs := by
  intro colon
  exact absurd (written.chars ':' colon) (by decide)

theorem beside_colon {cs : List Char} (plain : ':' ∉ cs) : ∀ c ∈ cs, (c != ':') = true := by
  intro c member
  simpa using ne_of_mem_of_not_mem member plain

theorem endpoint?_colonless {cs : List Char} (plain : ':' ∉ cs) : endpoint? cs = none := by
  have none : (cs ++ []).dropWhile (· != ':') = [] := by
    rw [List.dropWhile_append_of_pos (beside_colon plain)]
    rfl
  rw [List.append_nil] at none
  rw [endpoint?, none]

theorem endpoint?_append {address : List Char} (plain : ':' ∉ address) (port : List Char) :
    endpoint? (address ++ ':' :: port) = (Text.unsigned? 16 UInt16.size port).bind fun n =>
      (address? address).bind fun a => some ⟨a, n.toUInt16⟩ := by
  have behind : (address ++ ':' :: port).dropWhile (· != ':') = ':' :: port := by
    rw [List.dropWhile_append_of_pos (beside_colon plain)]
    rfl
  have front : (address ++ ':' :: port).takeWhile (· != ':') = address := by
    rw [List.takeWhile_append_of_pos (beside_colon plain)]
    exact List.append_nil address
  rw [endpoint?, behind, front]
  rfl

theorem endpoint?_eq_some_iff {cs : List Char} {e : Endpoint} :
    endpoint? cs = some e ↔ EndpointText lenient cs e := by
  constructor
  · intro read
    by_cases colon : ':' ∈ cs
    · obtain ⟨address, port, rfl, plain⟩ := List.eq_append_cons_of_mem colon
      rw [endpoint?_append plain] at read
      simp only [Option.bind_eq_some_iff, Text.unsigned?_hex_iff, address?_eq_some_iff] at read
      obtain ⟨n, ⟨port, small⟩, a, address, same⟩ := read
      cases same
      refine ⟨_, _, rfl, address, ?_⟩
      rwa [Nat.toUInt16, UInt16.toNat_ofNat', Nat.mod_eq_of_lt small]
    · rw [endpoint?_colonless colon] at read
      contradiction
  · rintro ⟨address, port, rfl, written, number⟩
    have small : e.port.toNat < UInt16.size := e.port.toNat_lt
    rw [endpoint?_append written.colonless, Text.unsigned?_hex_iff.mpr ⟨number, small⟩,
      written.read, Option.bind_some, Option.bind_some, Nat.toUInt16, UInt16.ofNat_toNat]

theorem ofRow?_eq_some_iff {row : List Char} {s : Socket} :
    ofRow? row = some s ↔ RowText lenient row s := by
  constructor
  · intro read
    rw [ofRow?] at read
    split at read
    · next slot own peer state columns fields =>
      simp only [Option.bind_eq_bind, Option.bind_eq_some_iff, endpoint?_eq_some_iff,
        Text.unsigned?_hex_iff] at read
      obtain ⟨_, own, _, peer, n, ⟨state, small⟩, same⟩ := read
      cases same
      refine ⟨_, _, _, _, _, Text.words_eq_iff.mp fields, own, peer, ?_⟩
      rwa [Nat.toUInt8, UInt8.toNat_ofNat', Nat.mod_eq_of_lt small]
    · contradiction
  · rintro ⟨slot, own, peer, state, columns, fields, ownText, peerText, stateText⟩
    have small : s.state.toNat < UInt8.size := s.state.toNat_lt
    rw [ofRow?, fields.words_eq]
    simp only [endpoint?_eq_some_iff.mpr ownText, endpoint?_eq_some_iff.mpr peerText,
      Text.unsigned?_hex_iff.mpr ⟨stateText, small⟩, Option.bind_eq_bind, Option.bind_some,
      Nat.toUInt8, UInt8.ofNat_toNat]

end NodeDiagnostics.Net.Socket
