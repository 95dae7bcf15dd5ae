import NodeDiagnostics.Proofs.Net.SocketRow

/-!
The fields of the rows that are read. Widths, colons and digits are as they should be, but the
reader of numbers takes a plus sign in front of the digits, and within a word of an address it
counts as one of the eight characters. So a row that is read is proper exactly if no plus sign
stands in its fields.
-/
namespace NodeDiagnostics.Net.Socket

open NodeDiagnostics.Text (Spaced Lenient isHexDigit)

def ProperEndpoint (field : List Char) : Prop :=
  ∃ address port, field = address ++ ':' :: port ∧ (address.length = 8 ∨ address.length = 32) ∧
    (∀ c ∈ address, isHexDigit c = true) ∧ ∀ c ∈ port, isHexDigit c = true

/-- A row with two proper endpoints and a state in hexadecimal digits. -/
def Proper (row : List Char) : Prop :=
  ∃ slot own peer state columns, Spaced (slot :: own :: peer :: state :: columns) row ∧
    ProperEndpoint own ∧ ProperEndpoint peer ∧ ∀ c ∈ state, isHexDigit c = true

def fields (row : List Char) : List (List Char) := ((Text.words row).drop 1).take 3

theorem fields_eq {slot own peer state : List Char} {columns : List (List Char)} {row : List Char}
    (spaced : Spaced (slot :: own :: peer :: state :: columns) row) :
    fields row = [own, peer, state] := by
  rw [fields, spaced.words_eq]
  rfl

theorem plain_iff {cs : List Char} (chars : ∀ c ∈ cs, isHexDigit c = true ∨ c = '+') :
    (∀ c ∈ cs, isHexDigit c = true) ↔ '+' ∉ cs := by
  constructor
  · intro digits plus
    exact absurd (digits '+' plus) (by decide)
  · intro unsigned c member
    rcases chars c member with digit | rfl
    · exact digit
    · exact absurd member unsigned

theorem ProperEndpoint.unsigned {field : List Char} (proper : ProperEndpoint field) :
    '+' ∉ field := by
  obtain ⟨address, port, rfl, -, address, port⟩ := proper
  simp only [List.mem_append, List.mem_cons, not_or]
  refine ⟨fun plus => ?_, by decide, fun plus => ?_⟩
  · exact absurd (address '+' plus) (by decide)
  · exact absurd (port '+' plus) (by decide)

theorem EndpointText.proper_iff {field : List Char} {e : Endpoint}
    (written : EndpointText lenient field e) : ProperEndpoint field ↔ '+' ∉ field := by
  refine ⟨ProperEndpoint.unsigned, fun unsigned => ?_⟩
  obtain ⟨address, port, rfl, whole, number⟩ := written
  simp only [List.mem_append, List.mem_cons, not_or] at unsigned
  exact ⟨address, port, rfl, whole.length, (plain_iff whole.chars).mpr unsigned.1,
    (plain_iff (Lenient.chars number)).mpr unsigned.2.2⟩

theorem RowText.proper_iff {row : List Char} {s : Socket} (written : RowText lenient row s) :
    Proper row ↔ ∀ field ∈ fields row, '+' ∉ field := by
  obtain ⟨slot, own, peer, state, columns, spaced, ownText, peerText, stateText⟩ := written
  rw [fields_eq spaced]
  simp only [List.forall_mem_cons, List.not_mem_nil, false_implies, implies_true, and_true]
  rw [← ownText.proper_iff, ← peerText.proper_iff, ← plain_iff (Lenient.chars stateText)]
  constructor
  · rintro ⟨slot', own', peer', state', columns', spaced', proper⟩
    have same := spaced'.words_eq
    rw [spaced.words_eq] at same
    cases same
    exact proper
  · intro proper
    exact ⟨slot, own, peer, state, columns, spaced, proper⟩

def rows (text : String) : List (List Char) := (text.toList.splitOn '\n').drop 1

/-- The entries of rows, each with the row that it comes from. -/
def entries (rows : List (List Char)) : List (List Char × Socket) :=
  rows.filterMap fun row => (ofRow? row).map (row, ·)

theorem entries_sockets (text : String) : (entries (rows text)).map Prod.snd = ofTable text := by
  rw [entries, List.map_filterMap]
  refine List.filterMap_congr fun row _ => ?_
  cases ofRow? row <;> rfl

theorem entries_rows (rows : List (List Char)) : ((entries rows).map Prod.fst).Sublist rows := by
  induction rows with
  | nil => exact .slnil
  | cons row rows ih =>
    rw [entries, List.filterMap_cons]
    cases ofRow? row with
    | none => exact ih.cons row
    | some s => exact ih.cons_cons row

theorem mem_entries {rows : List (List Char)} {entry : List Char × Socket}
    (member : entry ∈ entries rows) : RowText lenient entry.1 entry.2 := by
  obtain ⟨row, -, kept⟩ := List.mem_filterMap.mp member
  obtain ⟨s, read, rfl⟩ := Option.map_eq_some_iff.mp kept
  exact ofRow?_eq_some_iff.mp read

/-- Every entry comes from a row of its own, in order. In its fields each number is digits, perhaps
behind a plus sign, and the row is proper exactly if there is no plus sign. -/
theorem entries_proper_iff (text : String) :
    (entries (rows text)).map Prod.snd = ofTable text ∧
    ((entries (rows text)).map Prod.fst).Sublist (rows text) ∧
    ∀ entry ∈ entries (rows text), RowText lenient entry.1 entry.2 ∧
      (Proper entry.1 ↔ ∀ field ∈ fields entry.1, '+' ∉ field) := by
  refine ⟨entries_sockets text, entries_rows (rows text), fun entry member => ?_⟩
  have written := mem_entries member
  exact ⟨written, written.proper_iff⟩

def plainRow : List Char := "0: 0100007F:0CEA 00000000:0000 0A".toList

def signedRow : List Char := "0: +100007F:+CEA +0000000:+000 +A".toList

def listener : Socket := ⟨⟨.v4 #v[127, 0, 0, 1], 3306⟩, ⟨.v4 #v[0, 0, 0, 0], 0⟩, listening⟩

theorem plainRow_proper :
    (plainRow, listener) ∈ entries (rows (String.ofList ('\n' :: plainRow))) ∧ Proper plainRow := by
  have member : (plainRow, listener) ∈ entries (rows (String.ofList ('\n' :: plainRow))) := by
    decide +kernel
  obtain ⟨-, -, each⟩ := entries_proper_iff (String.ofList ('\n' :: plainRow))
  exact ⟨member, (each _ member).2.mpr (by decide +kernel)⟩

/-- Plus signs do not keep a row out of the table. -/
theorem signed_row_accepted :
    ofTable (String.ofList ('\n' :: signedRow)) = [listener] ∧
    (signedRow, listener) ∈ entries (rows (String.ofList ('\n' :: signedRow))) ∧
    ¬ Proper signedRow := by
  have read : ofRow? signedRow = some listener := by decide +kernel
  refine ⟨by decide +kernel, by decide +kernel, fun proper => ?_⟩
  have unsigned := (ofRow?_eq_some_iff.mp read).proper_iff.mp proper
  exact absurd unsigned (by decide +kernel)

end NodeDiagnostics.Net.Socket
