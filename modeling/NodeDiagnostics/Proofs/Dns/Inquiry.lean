import NodeDiagnostics.Dns.Frame
import NodeDiagnostics.Proofs.Dns.Labels

namespace NodeDiagnostics.Dns

def wordBytes (w : UInt16) : List UInt8 := [UInt8.ofNat (w.toNat / 256), UInt8.ofNat w.toNat]

theorem wordBytes_read (high low : UInt8) :
    wordBytes (high.toUInt16 * 256 + low.toUInt16) = [high, low] := by
  have value : (high.toUInt16 * 256 + low.toUInt16).toNat = high.toNat * 256 + low.toNat := by
    have := high.toNat_lt
    have := low.toNat_lt
    simp [UInt16.toNat_add, UInt16.toNat_mul]
    omega
  have := low.toNat_lt
  rw [wordBytes, value, List.cons.injEq, List.cons.injEq]
  refine ⟨?_, ?_, rfl⟩
  · apply UInt8.toNat_inj.mp
    rw [UInt8.toNat_ofNat']
    have := high.toNat_lt
    omega
  · apply UInt8.toNat_inj.mp
    rw [UInt8.toNat_ofNat']
    omega

theorem read_wordBytes (w : UInt16) :
    (UInt8.ofNat (w.toNat / 256)).toUInt16 * 256 + (UInt8.ofNat w.toNat).toUInt16 = w := by
  apply UInt16.toNat_inj.mp
  have := w.toNat_lt
  simp [UInt16.toNat_add, UInt16.toNat_mul]
  omega

@[simp] theorem length_wordBytes (w : UInt16) : (wordBytes w).length = 2 := rfl

@[simp] theorem word?_wordBytes (w : UInt16) (rest : List UInt8) :
    word? (wordBytes w ++ rest) 0 = some w :=
  congrArg some (read_wordBytes w)

@[simp] theorem word?_behind (w : UInt16) (rest : List UInt8) (n : Nat) :
    word? (wordBytes w ++ rest) (n + 2) = word? rest n := rfl

@[simp] theorem drop_wordBytes (w : UInt16) (rest : List UInt8) (n : Nat) :
    (wordBytes w ++ rest).drop (n + 2) = rest.drop n := rfl

theorem exists_word {bytes : List UInt8} {n : Nat} (long : n + 2 ≤ bytes.length) :
    ∃ w rest, bytes = wordBytes w ++ rest ∧ n ≤ rest.length := by
  match bytes with
  | high :: low :: rest =>
    refine ⟨high.toUInt16 * 256 + low.toUInt16, rest, ?_, by simpa using long⟩
    rw [wordBytes_read]
    rfl

theorem word?_zero_eq_some_iff {bytes : List UInt8} {w : UInt16} :
    word? bytes 0 = some w ↔ ∃ rest, bytes = wordBytes w ++ rest := by
  constructor
  · intro read
    match bytes with
    | high :: low :: rest =>
      have same : high.toUInt16 * 256 + low.toUInt16 = w := Option.some.inj read
      exact ⟨rest, by rw [← same, wordBytes_read]; rfl⟩
  · rintro ⟨rest, rfl⟩
    exact word?_wordBytes w rest

theorem wordBytes_append_inj {v w : UInt16} {rest more : List UInt8} :
    wordBytes v ++ rest = wordBytes w ++ more ↔ v = w ∧ rest = more := by
  constructor
  · intro same
    have read := word?_wordBytes v rest
    rw [same, word?_wordBytes] at read
    exact ⟨(Option.some.inj read).symm, (List.append_inj same rfl).2⟩
  · rintro ⟨rfl, rfl⟩
    rfl

theorem suffix?_eq_some_iff {bytes rest : List UInt8} {n : Nat} :
    suffix? bytes n = some rest ↔ ∃ front, bytes = front ++ rest ∧ front.length = n := by
  rw [suffix?]
  constructor
  · intro read
    split at read
    · next long =>
      cases read
      exact ⟨bytes.take n, (List.take_append_drop n bytes).symm, List.length_take_of_le long⟩
    · contradiction
  · rintro ⟨front, rfl, rfl⟩
    simp

/-- A UDP datagram with a DNS message, as far as it is read. -/
structure Inquiry where
  sourcePort : UInt16
  destinationPort : UInt16
  length : UInt16
  checksum : UInt16
  id : UInt16
  flags : UInt16
  questions : UInt16
  answers : UInt16
  authorities : UInt16
  additional : UInt16
  labels : List (List UInt8)
  queryType : UInt16
  rest : List UInt8

namespace Inquiry

def question (q : Inquiry) : List UInt8 := nameBytes q.labels ++ (wordBytes q.queryType ++ q.rest)

def message (q : Inquiry) : List UInt8 :=
  wordBytes q.id ++ (wordBytes q.flags ++ (wordBytes q.questions ++ (wordBytes q.answers ++
    (wordBytes q.authorities ++ (wordBytes q.additional ++ q.question)))))

def bytes (q : Inquiry) : List UInt8 :=
  wordBytes q.sourcePort ++ (wordBytes q.destinationPort ++ (wordBytes q.length ++
    (wordBytes q.checksum ++ q.message)))

/-- What the reader asks of a datagram. -/
structure Asks (q : Inquiry) : Prop where
  port : q.sourcePort = 53 ∨ q.destinationPort = 53
  asked : q.questions ≠ 0
  sized : ∀ l ∈ q.labels, Sized l
  short : (nameText q.labels).utf8ByteSize ≤ 255

def packet (q : Inquiry) (source destination : Net.Address) : Packet where
  id := q.id
  direction := if q.flags &&& 0x8000 ≠ 0 then .response else .query
  name := nameText q.labels
  queryType := q.queryType
  responseCode := (q.flags &&& 0xf).toUInt8
  source := ⟨source, q.sourcePort⟩
  destination := ⟨destination, q.destinationPort⟩

end Inquiry

theorem message?_words (id flags questions answers authorities additional : UInt16)
    (question : List UInt8) (source destination : Net.Endpoint) :
    message? (wordBytes id ++ (wordBytes flags ++ (wordBytes questions ++ (wordBytes answers ++
        (wordBytes authorities ++ (wordBytes additional ++ question)))))) source destination =
      if questions = 0 then none
      else (readName? question).bind fun n => (word? n.2 0).bind fun queryType => some {
        id, name := n.1, queryType, source, destination
        direction := if flags &&& 0x8000 ≠ 0 then .response else .query
        responseCode := (flags &&& 0xf).toUInt8 } := by
  have long (x : List UInt8) :
      ¬ (wordBytes id ++ (wordBytes flags ++ (wordBytes questions ++ (wordBytes answers ++
        (wordBytes authorities ++ (wordBytes additional ++ x)))))).length < 12 := by
    simp
    omega
  rw [message?, if_neg (long question)]
  by_cases none : questions = 0 <;> simp [none]

theorem message?_eq_some_iff {payload : List UInt8} {source destination : Net.Endpoint}
    {p : Packet} :
    message? payload source destination = some p ↔
      ∃ q : Inquiry, q.message = payload ∧ q.sourcePort = source.port ∧
        q.destinationPort = destination.port ∧ q.questions ≠ 0 ∧ (∀ l ∈ q.labels, Sized l) ∧
        (nameText q.labels).utf8ByteSize ≤ 255 ∧
        p = q.packet source.address destination.address := by
  constructor
  · intro read
    have long : 12 ≤ payload.length := by
      by_contra short
      rw [message?, if_pos (by omega)] at read
      contradiction
    -- Twelve bytes are six words, whatever they hold.
    obtain ⟨id, _, rfl, ten⟩ := exists_word long
    obtain ⟨flags, _, rfl, eight⟩ := exists_word ten
    obtain ⟨questions, _, rfl, six⟩ := exists_word eight
    obtain ⟨answers, _, rfl, four⟩ := exists_word six
    obtain ⟨authorities, _, rfl, two⟩ := exists_word four
    obtain ⟨additional, question, rfl, -⟩ := exists_word two
    rw [message?_words] at read
    split at read
    · contradiction
    · next asked =>
      obtain ⟨⟨name, behind⟩, named, typed⟩ := Option.bind_eq_some_iff.mp read
      obtain ⟨queryType, typed, same⟩ := Option.bind_eq_some_iff.mp typed
      obtain ⟨labels, rfl, sized, rfl, short⟩ := readName?_eq_some_iff.mp named
      obtain ⟨rest, rfl⟩ := word?_zero_eq_some_iff.mp typed
      cases same
      exact ⟨⟨source.port, destination.port, 0, 0, id, flags, questions, answers, authorities,
        additional, labels, queryType, rest⟩, rfl, rfl, rfl, asked, sized, short, rfl⟩
  · rintro ⟨q, rfl, sender, receiver, asked, sized, short, rfl⟩
    have named : readName? q.question =
        some (nameText q.labels, wordBytes q.queryType ++ q.rest) :=
      readName?_eq_some_iff.mpr ⟨q.labels, rfl, sized, rfl, short⟩
    rw [Inquiry.message, message?_words, if_neg asked, named]
    simp [Inquiry.packet, sender, receiver]

def inquiry? (bytes : List UInt8) (source destination : Net.Address) : Option Packet := do
  let sourcePort ← word? bytes 0
  let destinationPort ← word? bytes 2
  if sourcePort ≠ dnsPort ∧ destinationPort ≠ dnsPort then none
  else message? (← suffix? bytes 8) ⟨source, sourcePort⟩ ⟨destination, destinationPort⟩

theorem ofFrame?_eq_bind (frame : List UInt8) :
    ofFrame? frame = (datagram? frame).bind fun d => inquiry? d.bytes d.source d.destination := rfl

theorem inquiry?_words (sourcePort destinationPort length checksum : UInt16)
    (payload : List UInt8) (source destination : Net.Address) :
    inquiry? (wordBytes sourcePort ++ (wordBytes destinationPort ++ (wordBytes length ++
        (wordBytes checksum ++ payload)))) source destination =
      if sourcePort ≠ 53 ∧ destinationPort ≠ 53 then none
      else message? payload ⟨source, sourcePort⟩ ⟨destination, destinationPort⟩ := by
  have behind : suffix? (wordBytes sourcePort ++ (wordBytes destinationPort ++
      (wordBytes length ++ (wordBytes checksum ++ payload)))) 8 = some payload :=
    suffix?_eq_some_iff.mpr ⟨wordBytes sourcePort ++ (wordBytes destinationPort ++
      (wordBytes length ++ wordBytes checksum)), by simp, rfl⟩
  simp only [inquiry?, behind, word?_wordBytes, word?_behind, dnsPort]
  rfl

theorem inquiry?_eq_some_iff {bytes : List UInt8} {source destination : Net.Address}
    {p : Packet} :
    inquiry? bytes source destination = some p ↔
      ∃ q : Inquiry, q.bytes = bytes ∧ q.Asks ∧ p = q.packet source destination := by
  constructor
  · intro read
    have long : 8 ≤ bytes.length := by
      simp only [inquiry?, Option.bind_eq_bind, Option.bind_eq_some_iff] at read
      obtain ⟨_, _, _, _, read⟩ := read
      split at read
      · contradiction
      · simp only [Option.bind_eq_some_iff] at read
        obtain ⟨_, split, -⟩ := read
        obtain ⟨front, rfl, size⟩ := suffix?_eq_some_iff.mp split
        simp [size]
    obtain ⟨sourcePort, _, rfl, six⟩ := exists_word long
    obtain ⟨destinationPort, _, rfl, four⟩ := exists_word six
    obtain ⟨length, _, rfl, two⟩ := exists_word four
    obtain ⟨checksum, payload, rfl, -⟩ := exists_word two
    rw [inquiry?_words] at read
    split at read
    · contradiction
    · next port =>
      obtain ⟨q, rfl, rfl, rfl, asked, sized, short, rfl⟩ := message?_eq_some_iff.mp read
      refine ⟨{ q with length, checksum }, rfl, ⟨?_, asked, sized, short⟩, rfl⟩
      rwa [not_and_or, not_not, not_not] at port
  · rintro ⟨q, rfl, asks, rfl⟩
    have port : ¬ (q.sourcePort ≠ 53 ∧ q.destinationPort ≠ 53) := by
      rw [not_and_or, not_not, not_not]
      exact asks.port
    rw [Inquiry.bytes, inquiry?_words, if_neg port]
    exact message?_eq_some_iff.mpr
      ⟨q, rfl, rfl, rfl, asks.asked, asks.sized, asks.short, rfl⟩

theorem Inquiry.bytes_unique {q r : Inquiry} (sized : ∀ l ∈ q.labels, Sized l)
    (sized' : ∀ l ∈ r.labels, Sized l) (same : q.bytes = r.bytes) : q = r := by
  obtain ⟨⟩ := q
  obtain ⟨⟩ := r
  simp only [bytes, message, question, wordBytes_append_inj] at same
  obtain ⟨rfl, rfl, rfl, rfl, rfl, rfl, rfl, rfl, rfl, rfl, same⟩ := same
  obtain ⟨rfl, behind⟩ := nameBytes_unique sized sized' same
  obtain ⟨rfl, rfl⟩ := wordBytes_append_inj.mp behind
  rfl

end NodeDiagnostics.Dns
