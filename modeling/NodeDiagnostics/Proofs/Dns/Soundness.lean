import NodeDiagnostics.Proofs.Dns.Encoding

/-!
What it takes for an accepted frame to be a DNS question in its own datagram. The reader looks
neither at the number of words of an IPv4 header, nor at its fragment offset, nor at the length that
the datagram states, and these three decide.
-/
namespace NodeDiagnostics.Dns

def Inquiry.delimited (q : Inquiry) : List UInt8 := q.bytes.take q.length.toNat

structure Whole (ip header : List UInt8) : Prop where
  words : 5 * 4 ≤ header.length
  initial : ∃ w, word? ip 6 = some w ∧ w &&& 0x1fff = 0

/-- The frame carries UDP from or to port 53 behind a whole header, and the datagram by its own
length holds the header of the message and the first question to its end. -/
def Sound (frame : List UInt8) : Prop :=
  ∃ l : Layout, l.bytes = frame ∧ l.Fits ∧ (l.version = ipv4 → Whole l.ip l.header) ∧
    ∃ rest, l.inquiry.delimited = { l.inquiry with rest }.bytes

structure Layout.Regular (l : Layout) : Prop where
  whole : l.version = ipv4 → Whole l.ip l.header
  covers : 22 + (nameBytes l.inquiry.labels).length ≤ l.inquiry.length.toNat

theorem Inquiry.delimited_iff (q : Inquiry) :
    (∃ rest, q.delimited = { q with rest }.bytes) ↔
      22 + (nameBytes q.labels).length ≤ q.length.toNat := by
  -- The bytes up to the type of the question, which do not depend on what is behind it.
  let core : List UInt8 := { q with rest := [] : Inquiry }.bytes
  have size : core.length = 22 + (nameBytes q.labels).length := by
    simp [core, bytes, message, question]
    omega
  have split (rest : List UInt8) : { q with rest : Inquiry }.bytes = core ++ rest := by
    simp [core, bytes, message, question]
  rw [← size]
  constructor
  · rintro ⟨rest, same⟩
    have long := congrArg List.length same
    rw [split, delimited, List.length_take, List.length_append] at long
    omega
  · intro covers
    refine ⟨q.rest.take (q.length.toNat - core.length), ?_⟩
    rw [split, delimited, show q.bytes = core ++ q.rest from split q.rest, List.take_append,
      List.take_of_length_le covers]

theorem Layout.Fits.sound_iff {l : Layout} (fits : l.Fits) : Sound l.bytes ↔ l.Regular := by
  constructor
  · rintro ⟨m, same, fits', whole, inside⟩
    obtain rfl := fits'.unique fits same
    exact ⟨whole, m.inquiry.delimited_iff.mp inside⟩
  · rintro ⟨whole, covers⟩
    exact ⟨l, rfl, fits, whole, l.inquiry.delimited_iff.mpr covers⟩

/-- A frame is accepted exactly if it falls into its parts: at most one VLAN tag, a packet with
UDP from or to port 53, a message that asks, a whole question. It is sound exactly if, besides, the
fields that are not looked at are in order. -/
theorem accepted_sound_iff (frame : List UInt8) (p : Packet) :
    ofFrame? frame = some p ↔
      ∃ l : Layout, l.bytes = frame ∧ l.Fits ∧ p = l.packet ∧ (Sound frame ↔ l.Regular) := by
  rw [ofFrame?_eq_some_iff]
  constructor
  · rintro ⟨l, rfl, fits, read⟩
    exact ⟨l, rfl, fits, read, fits.sound_iff⟩
  · rintro ⟨l, same, fits, read, -⟩
    exact ⟨l, same, fits, read⟩

def plainQuery : Inquiry where
  sourcePort := 41000
  destinationPort := 53
  length := 27
  checksum := 0
  id := 7
  flags := 0x0100
  questions := 1
  answers := 0
  authorities := 0
  additional := 0
  labels := [[0x61]]
  queryType := 1
  rest := [0, 1]

/-- A fragment that continues another datagram. -/
def laterFragment : Frame where
  ethernet := ⟨Vector.replicate 12 0, none⟩
  header := .v4 {
    service := 0, size := 47, identification := 1, fragment := 185, hops := 64, checksum := 0
    source := #v[10, 0, 0, 1], destination := #v[10, 0, 0, 2]
    options := [], aligned := by decide, short := by decide }
  inquiry := plainQuery

def padded : Frame where
  ethernet := ⟨Vector.replicate 12 0, none⟩
  header := .v4 {
    service := 0, size := 40, identification := 1, fragment := 0, hops := 64, checksum := 0
    source := #v[10, 0, 0, 1], destination := #v[10, 0, 0, 2]
    options := [], aligned := by decide, short := by decide }
  inquiry := { plainQuery with length := 20, labels := [], queryType := 0, rest := [0, 0, 0] }

/-- A header of four words, so that the datagram begins in its last address. -/
def stunted : Layout where
  link := List.replicate 12 0 ++ [0x08, 0x00]
  version := ipv4
  header := [0x44, 0, 0, 47, 0, 1, 0, 0, 64, 17, 0, 0, 10, 0, 0, 1]
  source := .v4 #v[10, 0, 0, 1]
  destination := .v4 #v[160, 40, 0, 53]
  inquiry := plainQuery

theorem plainQuery_asks : plainQuery.Asks := by
  refine ⟨.inr rfl, by decide, ?_, by decide +kernel⟩
  intro l member
  rw [List.mem_singleton.mp member]
  exact ⟨by decide, by decide⟩

theorem stunted_fits : stunted.Fits where
  version := .inl rfl
  link := .plain rfl rfl (by decide)
  carries := ⟨⟨0x44, rfl, by decide, rfl⟩, rfl, rfl, rfl⟩
  asks := plainQuery_asks

theorem padded_asks : padded.inquiry.Asks :=
  ⟨.inr rfl, by decide, List.forall_mem_nil _, by decide +kernel⟩

theorem unsound_accepted :
    ((ofFrame? laterFragment.bytes).isSome = true ∧ ¬ Sound laterFragment.bytes) ∧
    ((ofFrame? stunted.bytes).isSome = true ∧ ¬ Sound stunted.bytes) ∧
    ((ofFrame? padded.bytes).isSome = true ∧ ¬ Sound padded.bytes) := by
  have accepted {l : Layout} (fits : l.Fits) : (ofFrame? l.bytes).isSome = true :=
    Option.isSome_of_eq_some (ofFrame?_eq_some_iff.mpr ⟨l, rfl, fits, rfl⟩)
  have fragment : laterFragment.layout.Fits := laterFragment.fits plainQuery_asks
  have cut : padded.layout.Fits := padded.fits padded_asks
  refine ⟨⟨accepted fragment, fun sound => ?_⟩, ⟨accepted stunted_fits, fun sound => ?_⟩,
    ⟨accepted cut, fun sound => ?_⟩⟩
  · obtain ⟨w, offset, zero⟩ := (fragment.sound_iff.mp sound).whole rfl |>.initial
    cases offset
    exact absurd zero (by decide)
  · have words := (stunted_fits.sound_iff.mp sound).whole rfl |>.words
    exact absurd words (by decide)
  · have covers := (cut.sound_iff.mp sound).covers
    exact absurd covers (by decide)

end NodeDiagnostics.Dns
