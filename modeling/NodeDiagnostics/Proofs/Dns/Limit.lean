import NodeDiagnostics.Proofs.Dns.Labels
import NodeDiagnostics.Proofs.Text.Replacement

/-!
How long a name may be. What is limited is the size of its text, which lacks the length byte of the
root but gains what the replacement of invalid bytes adds. So the limit is not that of the protocol,
255 bytes on the wire: a name of one byte more is read, and a shorter one may be refused.
-/
namespace NodeDiagnostics.Dns

/-- By how many bytes the text of a label is longer than the label. -/
def growth (label : List UInt8) : Nat := (Text.ofUtf8Lossy label).utf8ByteSize - label.length

def totalGrowth (labels : List (List UInt8)) : Nat := (labels.map growth).sum

theorem size_label (label : List UInt8) :
    (Text.ofUtf8Lossy label).utf8ByteSize = label.length + growth label :=
  (Nat.add_sub_of_le (Text.length_le_size_ofUtf8Lossy label)).symm

theorem growth_utf8 (s : String) : growth (Text.utf8 s) = 0 := by
  rw [growth, Text.ofUtf8Lossy_utf8, Text.length_utf8, Nat.sub_self]

theorem totalGrowth_utf8 (names : List String) : totalGrowth (names.map Text.utf8) = 0 := by
  induction names with
  | nil => rfl
  | cons name names ih => exact (congrArg₂ (· + ·) (growth_utf8 name) ih)

theorem size_labels (labels : List (List UInt8)) :
    (String.join (labels.map fun l => Text.ofUtf8Lossy l ++ ".")).utf8ByteSize + 1 =
      (nameBytes labels).length + totalGrowth labels := by
  induction labels with
  | nil => rfl
  | cons label labels ih =>
    have dot : ".".utf8ByteSize = 1 := rfl
    simp only [List.map_cons, String.join_cons, String.utf8ByteSize_append, size_label, dot,
      nameBytes_cons, List.length_cons, List.length_append, totalGrowth, List.sum_cons] at ih ⊢
    omega

theorem size_nameText_le_iff (labels : List (List UInt8)) :
    (nameText labels).utf8ByteSize ≤ maxNameSize ↔
      (nameBytes labels).length + totalGrowth labels ≤ 256 := by
  cases labels with
  | nil => decide
  | cons label labels =>
    rw [← size_labels]
    exact Nat.succ_le_succ_iff.symm

theorem readName?_within {labels : List (List UInt8)} (sized : ∀ l ∈ labels, Sized l)
    (rest : List UInt8) :
    readName? (nameBytes labels ++ rest) =
      if (nameBytes labels).length + totalGrowth labels ≤ 256 then some (nameText labels, rest)
      else none := by
  simp only [readName?, readLabels?_nameBytes sized rest, ← size_nameText_le_iff]
  rfl

/-- Where a name stands in a message, it is read, up to the byte behind its root, exactly if it and
its growth fit. So it is read exactly if it has at most 255 bytes, unless it has 256 and does not
grow, or has at most 255 and grows beyond 256. -/
theorem read_within_protocol_iff (before rest : List UInt8) {labels : List (List UInt8)}
    (sized : ∀ l ∈ labels, Sized l) :
    let message := before ++ (nameBytes labels ++ rest)
    let size := (nameBytes labels).length
    let read := readName? (message.drop before.length)
    (read = some (nameText labels, message.drop (before.length + size)) ∨ read = none) ∧
    (read.isSome = true ↔ size + totalGrowth labels ≤ 256) ∧
    ((read.isSome = true ↔ size ≤ 255) ↔
      (size = 256 → totalGrowth labels ≠ 0) ∧
      (size ≤ 255 → size + totalGrowth labels ≤ 256)) := by
  intro message size read
  have reading : read = if size + totalGrowth labels ≤ 256 then some (nameText labels, rest)
      else none := by
    rw [← readName?_within sized rest]
    exact congrArg readName? List.drop_left
  have behind : message.drop (before.length + size) = rest := by
    rw [← List.drop_drop, List.drop_left, List.drop_left]
  rw [reading, behind]
  by_cases fits : size + totalGrowth labels ≤ 256
  · rw [if_pos fits]
    refine ⟨.inl rfl, iff_of_true rfl fits, ?_⟩
    simp only [Option.isSome_some, true_iff]
    omega
  · rw [if_neg fits]
    refine ⟨.inr rfl, iff_of_false nofun fits, ?_⟩
    simp only [Option.isSome_none, Bool.false_eq_true, false_iff]
    omega

def longName : List String := ([63, 63, 63, 62].map (List.replicate · 'a')).map String.ofList

/-- Two labels of bytes that no text contains. -/
def garbled : List (List UInt8) := List.replicate 2 (List.replicate 63 0xff)

theorem longName_read :
    (∀ l ∈ longName.map Text.utf8, Sized l) ∧
    (nameBytes (longName.map Text.utf8)).length = 256 ∧
    (readName? (([7, 7] ++ (nameBytes (longName.map Text.utf8) ++ [0, 1])).drop 2)).isSome =
      true := by
  have sized : ∀ l ∈ longName.map Text.utf8, Sized l := by decide +kernel
  have size : (nameBytes (longName.map Text.utf8)).length = 256 := by decide +kernel
  obtain ⟨-, fits, -⟩ := read_within_protocol_iff [7, 7] [0, 1] sized
  refine ⟨sized, size, fits.mpr ?_⟩
  rw [size, totalGrowth_utf8]

theorem protocol_limit_missed :
    ((readName? (nameBytes (longName.map Text.utf8))).isSome = true ∧
      (nameBytes (longName.map Text.utf8)).length = 256) ∧
    (readName? (nameBytes garbled)).isSome = false ∧ (nameBytes garbled).length = 129 := by
  have sized : ∀ l ∈ longName.map Text.utf8, Sized l := by decide +kernel
  have size : (nameBytes (longName.map Text.utf8)).length = 256 := by decide +kernel
  have long := readName?_within sized []
  have pieces : ∀ l ∈ garbled, Sized l := by decide +kernel
  have garbage := readName?_within pieces []
  rw [List.append_nil] at long garbage
  rw [long, if_pos (by rw [size, totalGrowth_utf8]), garbage, if_neg (by decide +kernel)]
  exact ⟨⟨rfl, size⟩, rfl, by decide +kernel⟩

end NodeDiagnostics.Dns
