import NodeDiagnostics.Proofs.Net.SocketRow

namespace NodeDiagnostics.Net.Socket

open NodeDiagnostics.Text (Spaced Lenient hexChars hexValue isHexDigit HexDigit)

def Digits (size : Nat) (cs : List Char) (n : Nat) : Prop :=
  ∃ ds : List HexDigit, ds.length = size ∧ cs = hexChars ds ∧ n = hexValue ds

/-- Words in upper-case digits, and no number with a sign or of another width. -/
def kernel : Style where
  word cs n := ∃ ds : List HexDigit, ds.length = 8 ∧ (∀ d ∈ ds, d.upper = true) ∧
    cs = hexChars ds ∧ n = hexValue ds
  port := Digits 4
  state := Digits 2

theorem Digits.lenient {size n : Nat} {cs : List Char} (written : Digits (size + 1) cs n) :
    Lenient cs n := by
  obtain ⟨ds, width, rfl, rfl⟩ := written
  exact ⟨ds, List.ne_nil_of_length_eq_add_one width, .inl rfl, rfl⟩

theorem kernel_word {cs : List Char} {n : Nat} (written : kernel.word cs n) :
    lenient.word cs n := by
  obtain ⟨ds, width, -, rfl, rfl⟩ := written
  exact ⟨by simpa [hexChars] using width, Digits.lenient ⟨ds, width, rfl, rfl⟩⟩

theorem AddressText.mono {word word' : List Char → Nat → Prop} {cs : List Char} {a : Address}
    (weaker : ∀ {cs n}, word cs n → word' cs n) (written : AddressText word cs a) :
    AddressText word' cs a := by
  cases written with
  | v4 o whole => exact .v4 o (weaker whole)
  | v6 o first second third fourth =>
    exact .v6 o (weaker first) (weaker second) (weaker third) (weaker fourth)

theorem EndpointText.relaxed {cs : List Char} {e : Endpoint} (written : EndpointText kernel cs e) :
    EndpointText lenient cs e := by
  obtain ⟨address, port, rfl, whole, number⟩ := written
  exact ⟨address, port, rfl, whole.mono kernel_word, Digits.lenient number⟩

theorem RowText.relaxed {row : List Char} {s : Socket} (written : RowText kernel row s) :
    RowText lenient row s := by
  obtain ⟨slot, own, peer, state, columns, fields, ownText, peerText, stateText⟩ := written
  exact ⟨slot, own, peer, state, columns, fields, ownText.relaxed, peerText.relaxed,
    Digits.lenient stateText⟩

theorem isBlank_of_isHexDigit {c : Char} (digit : isHexDigit c = true) :
    Text.isBlank c = false := by
  have between : '0'.toNat ≤ c.toNat ∧ c.toNat ≤ 'f'.toNat := by
    simp only [isHexDigit, Bool.or_eq_true, Bool.and_eq_true, decide_eq_true_eq] at digit
    rcases digit with (⟨low, high⟩ | ⟨low, high⟩) | ⟨low, high⟩
    · exact ⟨low, Nat.le_trans high (by decide)⟩
    · exact ⟨Nat.le_trans (by decide) low, high⟩
    · exact ⟨Nat.le_trans (by decide) low, Nat.le_trans high (by decide)⟩
  have zero : '0'.toNat = 0x30 := rfl
  have last : 'f'.toNat = 0x66 := rfl
  simp only [Text.isBlank, Text.inRanges, Text.blankRanges, List.any_cons, List.any_nil,
    Bool.or_false, Bool.or_eq_false_iff, Bool.and_eq_false_iff, decide_eq_false_iff_not]
  omega

theorem EndpointText.erase_colon {cs : List Char} {e : Endpoint}
    (written : EndpointText lenient cs e) :
    ∀ c ∈ cs.erase ':', isHexDigit c = true ∨ c = '+' := by
  obtain ⟨address, port, rfl, whole, number⟩ := written
  rw [List.erase_append_right _ whole.colonless, List.erase_cons_head, List.forall_mem_append]
  exact ⟨whole.chars, Lenient.chars number⟩

theorem EndpointText.solid {cs : List Char} {e : Endpoint} (written : EndpointText lenient cs e) :
    cs ≠ [] ∧ ∀ c ∈ cs, Text.isBlank c = false := by
  refine ⟨?_, fun c member => ?_⟩
  · obtain ⟨address, port, rfl, -⟩ := written
    simp
  · by_cases colon : c = ':'
    · rw [colon]
      decide
    · rcases written.erase_colon c ((List.mem_erase_of_ne colon).mpr member) with digit | rfl
      · exact isBlank_of_isHexDigit digit
      · decide

section Writing

def byteDigits (b : UInt8) : List HexDigit :=
  [⟨⟨b.toNat / 16, by have := b.toNat_lt; omega⟩, true⟩,
    ⟨⟨b.toNat % 16, Nat.mod_lt _ (by decide)⟩, true⟩]

def wordDigits (octets : List UInt8) : List HexDigit := octets.reverse.flatMap byteDigits

def addressChars : Address → List Char
  | .v4 o => hexChars (wordDigits o.toList)
  | .v6 o => hexChars (wordDigits (o.toList.take 4)) ++
    (hexChars (wordDigits ((o.toList.drop 4).take 4)) ++
      (hexChars (wordDigits ((o.toList.drop 8).take 4)) ++
        hexChars (wordDigits (o.toList.drop 12))))

def portDigits (port : UInt16) : List HexDigit :=
  wordDigits [UInt8.ofNat port.toNat, UInt8.ofNat (port.toNat / 0x100)]

def endpointChars (e : Endpoint) : List Char :=
  addressChars e.address ++ ':' :: hexChars (portDigits e.port)

def rowWords (s : Socket) : List (List Char) :=
  [['0', ':'], endpointChars s.own, endpointChars s.peer, hexChars (wordDigits [s.state])]

def rowChars (s : Socket) : List Char := (rowWords s).flatMap (' ' :: ·)

theorem hexValue_wordDigits (octets : List UInt8) :
    hexValue (wordDigits octets) = wordValue octets := by
  induction octets with
  | nil => rfl
  | cons o octets ih =>
    rw [wordDigits, hexValue] at ih
    rw [wordDigits, hexValue, List.reverse_cons, List.flatMap_append, List.foldl_append, ih]
    simp only [byteDigits, List.flatMap_cons, List.flatMap_nil, List.append_nil, List.foldl_cons,
      List.foldl_nil, wordValue, List.foldr_cons]
    omega

theorem length_wordDigits (octets : List UInt8) :
    (wordDigits octets).length = 2 * octets.length := by
  induction octets with
  | nil => rfl
  | cons o octets ih =>
    rw [wordDigits] at ih
    simp only [wordDigits, List.reverse_cons, List.flatMap_append, List.length_append, ih,
      List.length_cons]
    rfl

theorem kernel_wordDigits {octets : List UInt8} (four : octets.length = 4) :
    kernel.word (hexChars (wordDigits octets)) (wordValue octets) := by
  refine ⟨wordDigits octets, by rw [length_wordDigits, four], ?_, rfl,
    (hexValue_wordDigits octets).symm⟩
  intro d member
  obtain ⟨o, -, digit⟩ := List.mem_flatMap.mp member
  rcases digit with _ | ⟨_, _ | ⟨_, ⟨⟩⟩⟩ <;> rfl

theorem addressText (a : Address) : AddressText kernel.word (addressChars a) a := by
  cases a with
  | v4 o => exact .v4 o (kernel_wordDigits o.length_toList)
  | v6 o =>
    have size := o.length_toList
    exact .v6 o (kernel_wordDigits (by simp [size])) (kernel_wordDigits (by simp [size]))
      (kernel_wordDigits (by simp [size])) (kernel_wordDigits (by simp [size]))

theorem endpointText (e : Endpoint) : EndpointText kernel (endpointChars e) e := by
  refine ⟨_, _, rfl, addressText e.address, portDigits e.port, length_wordDigits _, rfl, ?_⟩
  have := e.port.toNat_lt
  rw [portDigits, hexValue_wordDigits]
  simp [wordValue]
  omega

theorem stateText (state : UInt8) :
    kernel.state (hexChars (wordDigits [state])) state.toNat :=
  ⟨wordDigits [state], length_wordDigits _, rfl, (hexValue_wordDigits [state]).symm⟩

theorem solid_rowWords (s : Socket) :
    ∀ w ∈ rowWords s, w ≠ [] ∧ ∀ c ∈ w, Text.isBlank c = false := by
  simp only [rowWords, List.forall_mem_cons]
  refine ⟨⟨List.cons_ne_nil _ _, by decide, by decide, List.forall_mem_nil _⟩,
    (endpointText s.own).relaxed.solid, (endpointText s.peer).relaxed.solid,
    ⟨List.cons_ne_nil _ _, ?_⟩, List.forall_mem_nil _⟩
  exact fun c member => isBlank_of_isHexDigit (Text.hexDigit_of_mem c member)

theorem rowText (s : Socket) : RowText kernel (rowChars s) s :=
  ⟨_, _, _, _, [], Text.spaced_flatMap (solid_rowWords s), endpointText s.own,
    endpointText s.peer, stateText s.state⟩

theorem rowChars_single (s : Socket) : '\n' ∉ rowChars s := by
  intro newline
  obtain ⟨w, word, inside⟩ := List.mem_flatMap.mp newline
  rcases List.mem_cons.mp inside with space | inside
  · exact absurd space (by decide)
  · exact absurd ((solid_rowWords s w word).2 '\n' inside) (by decide)

end Writing

/-- A line that is no socket: too few fields, or in a field that matters a character, its colon
apart, that is neither a digit nor a plus sign. -/
inductive Stray (row : List Char) : Prop where
  | short {ws} (spaced : Spaced ws row) (few : ws.length < 4)
  | foreign {slot own peer state columns}
      (spaced : Spaced (slot :: own :: peer :: state :: columns) row) {c}
      (inside : c ∈ own.erase ':' ∨ c ∈ peer.erase ':' ∨ c ∈ state)
      (foreign : isHexDigit c = false ∧ c ≠ '+')

theorem Stray.unread {row : List Char} (stray : Stray row) : ofRow? row = none := by
  cases read : ofRow? row with
  | none => rfl
  | some s =>
    obtain ⟨slot, own, peer, state, columns, fields, ownText, peerText, stateText⟩ :=
      ofRow?_eq_some_iff.mp read
    cases stray with
    | short spaced few =>
      rw [← spaced.words_eq, fields.words_eq] at few
      simp only [List.length_cons] at few
      omega
    | @foreign _ _ _ _ _ spaced c inside foreign =>
      have same := spaced.words_eq
      rw [fields.words_eq] at same
      cases same
      have known : isHexDigit c = true ∨ c = '+' := by
        rcases inside with inside | inside | inside
        · exact ownText.erase_colon c inside
        · exact peerText.erase_colon c inside
        · exact Lenient.chars stateText c inside
      simp [foreign] at known

inductive Line where
  | socket (row : List Char) (s : Socket) (written : RowText kernel row s) (single : '\n' ∉ row)
  | stray (row : List Char) (stray : Stray row) (single : '\n' ∉ row)

namespace Line

def text : Line → List Char
  | socket row .. => row
  | stray row .. => row

def socket? : Line → Option Socket
  | socket _ s .. => some s
  | stray .. => none

theorem single (l : Line) : '\n' ∉ l.text := by
  cases l with
  | socket row s written single => exact single
  | stray row stray single => exact single

theorem read (l : Line) : ofRow? l.text = l.socket? := by
  cases l with
  | socket row s written single => exact ofRow?_eq_some_iff.mpr written.relaxed
  | stray row stray single => exact stray.unread

def ofSocket (s : Socket) : Line := socket (rowChars s) s (rowText s) (rowChars_single s)

end Line

def tableText (heading : List Char) (lines : List Line) (ended : Bool) : String :=
  String.ofList (['\n'].intercalate (heading :: lines.map Line.text) ++
    if ended then ['\n'] else [])

theorem splitOn_tableText {heading : List Char} (single : '\n' ∉ heading) (lines : List Line)
    (ended : Bool) : (tableText heading lines ended).toList.splitOn '\n' =
      heading :: (lines.map Line.text ++ if ended then [[]] else []) := by
  have apart : ∀ l ∈ heading :: lines.map Line.text, '\n' ∉ l := by
    rw [List.forall_mem_cons, List.forall_mem_map]
    exact ⟨single, fun l _ => l.single⟩
  have split := List.splitOn_intercalate '\n' apart (List.cons_ne_nil _ _)
  rw [tableText, String.toList_ofList]
  cases ended with
  | false => simpa using split
  | true =>
    have behind := List.splitOnP_append_cons (p := (· == '\n'))
      (['\n'].intercalate (heading :: lines.map Line.text)) [] (beq_self_eq_true '\n')
    rw [List.splitOn] at split ⊢
    rw [if_pos rfl, behind, split]
    rfl

/-- Exactly the sockets are read, in their order, whatever stray lines stand between them. -/
theorem written_sockets_read {heading : List Char} (single : '\n' ∉ heading) (lines : List Line)
    (ended : Bool) : ofTable (tableText heading lines ended) = lines.filterMap Line.socket? := by
  have last : (if ended then [[]] else [] : List (List Char)).filterMap ofRow? = [] := by
    cases ended <;> rfl
  rw [ofTable, splitOn_tableText single, List.drop_one, List.tail_cons, List.filterMap_append, last,
    List.append_nil, List.filterMap_map]
  exact List.filterMap_congr fun l _ => l.read

def client : Socket where
  own := ⟨.v4 #v[10, 244, 1, 5], 8080⟩
  peer := ⟨.v4 #v[10, 0, 2, 15], 41202⟩
  state := established

def loopback : Socket where
  own := ⟨.v6 #v[0, 0, 0, 0, 0, 0, 0, 0, 0, 0, 0, 0, 0, 0, 0, 1], 80⟩
  peer := ⟨.v6 (Vector.replicate 16 0), 0⟩
  state := listening

example : rowChars client = " 0: 0501F40A:1F90 0F02000A:A0F2 01".toList := by decide +kernel
example : addressChars loopback.own.address = "00000000000000000000000001000000".toList := by
  decide +kernel

def clientLine : Line :=
  .socket "   0: 0501F40A:1F90 0F02000A:A0F2 01 00000000:00000000  1000\r".toList client
    ⟨_, _, _, _, ["00000000:00000000".toList, "1000".toList],
      Text.words_eq_iff.mp (show _ = rowWords client ++ _ by decide +kernel),
      endpointText client.own, endpointText client.peer, stateText client.state⟩
    (by decide +kernel)

/-- A line that stops short, and one with digits beyond the sixteen. -/
def strayLines : List Line :=
  [.stray "garbage".toList (.short (Text.words_eq_iff.mp rfl) (by decide)) (by decide),
    .stray "   1: zz:zz 00:00 01".toList (.foreign (c := 'z') (Text.words_eq_iff.mp rfl)
      (by decide) (by decide)) (by decide)]

theorem stray_lines_skipped :
    '\n' ∉ "  sl  local_address".toList ∧
    ofTable (tableText "  sl  local_address".toList
      (clientLine :: strayLines ++ [Line.ofSocket loopback]) true) = [client, loopback] :=
  ⟨by decide, written_sockets_read (by decide) _ true⟩

end NodeDiagnostics.Net.Socket
