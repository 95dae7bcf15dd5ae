import NodeDiagnostics.Proofs.Json.Order
import NodeDiagnostics.Proofs.Json.Tokens

/-!
What is written, compact or pretty, reads as the value that was written, with the members of its
objects sorted. Two kinds of value are left out: numbers that are not whole, and those of more
levels than the reader allows.
-/
namespace NodeDiagnostics.Json

mutual

def normal : Json → Json
  | .array items => .array (normalItems items)
  | .object members => .object (sorted (normalMembers members))
  | .null => .null
  | .bool b => .bool b
  | .integer n => .integer n
  | .real x => .real x
  | .text s => .text s

def normalItems : List Json → List Json
  | [] => []
  | j :: rest => normal j :: normalItems rest

def normalMembers : List (String × Json) → List (String × Json)
  | [] => []
  | (name, j) :: rest => (name, normal j) :: normalMembers rest

end

theorem normalItems_eq_map (items : List Json) : normalItems items = items.map normal := by
  induction items with
  | nil => simp only [normalItems, List.map_nil]
  | cons j rest ih => simp only [normalItems, ih, List.map_cons]

theorem normalMembers_eq_map (members : List (String × Json)) :
    normalMembers members = members.map fun m => (m.1, m.2.normal) := by
  induction members with
  | nil => simp only [normalMembers, List.map_nil]
  | cons m rest ih => simp only [normalMembers, ih, List.map_cons]

/-- Values that are written with whole numbers only and in no more than the given levels. -/
inductive Readable : Nat → Json → Prop where
  | null (depth : Nat) : Readable depth .null
  | bool (depth : Nat) (b : Bool) : Readable depth (.bool b)
  | integer (depth : Nat) {n : Int} (word : Word n) : Readable depth (.integer n)
  | text (depth : Nat) (s : String) : Readable depth (.text s)
  | array {depth : Nat} {items : List Json} (each : ∀ j ∈ items, Readable depth j) :
    Readable (depth + 1) (.array items)
  | object {depth : Nat} {members : List (String × Json)}
    (each : ∀ m ∈ members, Readable depth m.2) : Readable (depth + 1) (.object members)

def opens (c : Char) : Bool := !isSpace c && c != ']' && c != '\x7d'

theorem visible_of_opens {c : Char} (h : opens c = true) : isSpace c = false := by
  simp only [opens, Bool.and_eq_true, Bool.not_eq_true'] at h
  exact h.1.1

theorem ne_close_of_opens {c : Char} (h : opens c = true) (b : Bracket) : c ≠ b.close := by
  rintro rfl
  cases b <;> exact absurd h (by decide)

/-- The text starts like an item, and a value is read from it, whatever follows. -/
structure Legible {α : Type} (read : Reader α) (a : α) (text : List Char) : Prop where
  starts : ∃ c tail, text = c :: tail ∧ opens c = true
  reads : ∀ rest, Ends rest → read (text ++ rest) = .ok (a, rest)

def Blank (cs : List Char) : Prop := ∀ c ∈ cs, isSpace c = true

theorem blank_newline (level : Nat) : Blank (newline level) := by
  intro c member
  rcases List.mem_cons.mp member with rfl | member
  · rfl
  · rw [List.eq_of_mem_replicate member]
    rfl

theorem skipSpace_blank {gap : List Char} (blank : Blank gap) {c : Char}
    (visible : isSpace c = false) (rest : List Char) :
    skipSpace (gap ++ c :: rest) = c :: rest := by
  rw [skipSpace, List.dropWhile_append_of_pos blank]
  simp [visible]

theorem skipSpace_visible {c : Char} (visible : isSpace c = false) (rest : List Char) :
    skipSpace (c :: rest) = c :: rest := by
  simp [skipSpace, visible]

theorem ends_append {gap : List Char} (blank : Blank gap) {rest : List Char} (ends : Ends rest) :
    Ends (gap ++ rest) := by
  cases gap with
  | nil => exact ends
  | cons c gap =>
    have space := blank c List.mem_cons_self
    simp only [isSpace, Bool.or_eq_true, beq_iff_eq] at space
    intro d first
    cases first
    rcases space with ((rfl | rfl) | rfl) | rfl <;> decide

theorem ends_comma (rest : List Char) : Ends (',' :: rest) := by
  intro c first
  cases first
  decide

theorem ends_close (b : Bracket) (rest : List Char) : Ends (b.close :: rest) := by
  intro c first
  cases first
  cases b <;> decide

theorem isSpace_close (b : Bracket) : isSpace b.close = false := by
  cases b <;> decide

section
variable {α β : Type}

def series (gap : List Char) (text : β → List Char) : List β → List Char
  | [] => []
  | [x] => gap ++ text x
  | x :: rest => gap ++ text x ++ ',' :: series gap text rest

variable {read : Reader α} {value : β → α} {text : β → List Char} {gap tail : List Char}

theorem length_le_series (gap : List Char) (xs : List β)
    (each : ∀ x ∈ xs, Legible read (value x) (text x)) :
    xs.length ≤ (series gap text xs).length := by
  induction xs with
  | nil => exact Nat.zero_le _
  | cons x rest ih =>
    obtain ⟨c, more, start, -⟩ := (each x List.mem_cons_self).starts
    have ih := ih fun y member => each y (List.mem_cons_of_mem x member)
    cases rest with
    | nil => simp [series, start]; omega
    | cons y rest => simp only [series, List.length_append, List.length_cons] at ih ⊢; omega

theorem Legible.skipped {a : α} {cs : List Char} (h : Legible read a cs) (blank : Blank gap)
    (rest : List Char) : skipSpace (gap ++ cs ++ rest) = cs ++ rest := by
  obtain ⟨c, more, rfl, first⟩ := h.starts
  simpa using skipSpace_blank blank (visible_of_opens first) (more ++ rest)

theorem series_cons (gap : List Char) (text : β → List Char) (x : β) (xs : List β) :
    ∃ more, series gap text (x :: xs) = gap ++ text x ++ more := by
  cases xs with
  | nil => exact ⟨[], by simp [series]⟩
  | cons y ys => exact ⟨_, rfl⟩

theorem behindComma_series (b : Bracket) (blank : Blank gap) {x : β}
    (first : Legible read (value x) (text x)) (xs : List β) (rest : List Char) :
    behindComma .reading b (series gap text (x :: xs) ++ rest) =
      .ok (skipSpace (series gap text (x :: xs) ++ rest)) := by
  obtain ⟨more, whole⟩ := series_cons gap text x xs
  rw [behindComma, whole, List.append_assoc, first.skipped blank]
  obtain ⟨c, tail, start, inner⟩ := first.starts
  simp [start, ne_close_of_opens inner b]

/-- The items of a series are read one after the other, up to the closing bracket. -/
theorem readSeries_series (b : Bracket) (blank : Blank gap) (blankTail : Blank tail)
    (x : β) (xs : List β) (each : ∀ y ∈ x :: xs, Legible read (value y) (text y)) (fuel : Nat)
    (enough : (x :: xs).length ≤ fuel) (rest : List Char) :
    readSeries .reading b read fuel
        (skipSpace (series gap text (x :: xs) ++ (tail ++ b.close :: rest))) =
      .ok ((x :: xs).map value, rest) := by
  induction xs generalizing x fuel with
  | nil =>
    obtain ⟨fuel, rfl⟩ := Nat.exists_eq_succ_of_ne_zero (Nat.ne_zero_of_lt enough)
    have first := each x List.mem_cons_self
    have taken := first.reads _ (ends_append blankTail (ends_close b rest))
    rw [series, first.skipped blank, readSeries]
    simp only [bind, Except.bind, taken, skipSpace_blank blankTail (isSpace_close b)]
    cases b <;> rfl
  | cons y ys ih =>
    obtain ⟨fuel, rfl⟩ := Nat.exists_eq_succ_of_ne_zero (Nat.ne_zero_of_lt enough)
    have first := each x List.mem_cons_self
    have second := each y (by simp)
    have others := ih y (fun z member => each z (List.mem_cons_of_mem x member)) fuel
      (Nat.le_of_succ_le_succ enough)
    have more := behindComma_series b blank second ys (tail ++ b.close :: rest)
    have taken :=
      first.reads _ (ends_comma (series gap text (y :: ys) ++ (tail ++ b.close :: rest)))
    rw [series, List.append_assoc (gap ++ text x), first.skipped blank, readSeries]
    have comma := skipSpace_visible (by decide : isSpace ',' = false)
    simp only [List.cons_append, bind, Except.bind, taken, comma, more, others, List.map_cons]
    intro impossible
    cases impossible

theorem readItems_series (b : Bracket) (blank : Blank gap) (blankTail : Blank tail)
    (xs : List β) (each : ∀ x ∈ xs, Legible read (value x) (text x)) (rest : List Char) :
    readItems .reading b read (series gap text xs ++ (tail ++ b.close :: rest)) =
      .ok (xs.map value, rest) := by
  cases xs with
  | nil =>
    rw [readItems, series, List.nil_append, skipSpace_blank blankTail (isSpace_close b)]
    simp
  | cons x xs =>
    have enough : (x :: xs).length ≤
        (series gap text (x :: xs) ++ (tail ++ b.close :: rest)).length := by
      have short := length_le_series gap (x :: xs) each
      rw [List.length_append]
      omega
    have all := readSeries_series b blank blankTail x xs each _ enough rest
    obtain ⟨more, whole⟩ := series_cons gap text x xs
    have first := each x List.mem_cons_self
    have start : skipSpace (series gap text (x :: xs) ++ (tail ++ b.close :: rest)) =
        text x ++ (more ++ (tail ++ b.close :: rest)) := by
      rw [whole, List.append_assoc, first.skipped blank]
    obtain ⟨c, tail', char, inner⟩ := first.starts
    rw [start, char, List.cons_append] at all
    rw [readItems, start, char, List.cons_append]
    simp only [if_neg (ne_close_of_opens inner b)]
    exact all

end

theorem compactItems_eq_series (items : List Json) :
    compactItems items = series [] compactChars items := by
  induction items with
  | nil => rfl
  | cons j rest ih =>
    cases rest with
    | nil => rfl
    | cons k rest => simp only [compactItems, series, ih, List.nil_append]

theorem compactMembers_eq_series (members : List (String × Json)) : compactMembers members =
    series [] (fun m => writeString m.1 ++ ':' :: compactChars m.2) members := by
  induction members with
  | nil => rfl
  | cons m rest ih =>
    cases rest with
    | nil => rfl
    | cons n rest =>
      simp only [compactMembers, series, ih, List.nil_append, List.append_assoc,
        List.cons_append]

theorem prettyItems_eq_series (level : Nat) (items : List Json) :
    prettyItems level items = series (newline level) (prettyChars level) items := by
  induction items with
  | nil => rfl
  | cons j rest ih =>
    cases rest with
    | nil => rfl
    | cons k rest => simp only [prettyItems, series, ih]

theorem prettyMembers_eq_series (level : Nat) (members : List (String × Json)) :
    prettyMembers level members = series (newline level)
      (fun m => writeString m.1 ++ ':' :: ' ' :: prettyChars level m.2) members := by
  induction members with
  | nil => rfl
  | cons m rest ih =>
    cases rest with
    | nil => simp only [prettyMembers, series, List.append_assoc]
    | cons n rest =>
      simp only [prettyMembers, series, ih, List.append_assoc, List.cons_append]

theorem legible_scalar {depth : Nat} {j : Json} {c : Char} {cs : List Char}
    (first : opens c = true) (scalar : c ≠ '[' ∧ c ≠ '\x7b')
    (reads : ∀ rest, Ends rest → readScalar .reading (c :: (cs ++ rest)) = .ok (j, rest)) :
    Legible (readValue .reading depth) j (c :: cs) := by
  refine ⟨⟨c, cs, rfl, first⟩, ?_⟩
  intro rest ends
  rw [← reads rest ends, List.cons_append]
  cases depth <;> simp [readValue, scalar]

theorem legible_text {depth : Nat} (s : String) :
    Legible (readValue .reading depth) (.text s) (writeString s) := by
  apply legible_scalar
  · decide
  · decide
  · intro rest ends
    simp [readScalar, Manner.reading, Reader.map, Except.map, readString_escaped]

theorem legible_integer {depth : Nat} {n : Int} (word : Word n) :
    Legible (readValue .reading depth) (.integer n) (writeInteger n) := by
  have start : ∃ c cs, writeInteger n = c :: cs ∧ (c = '-' ∨ c.isDigit = true) := by
    cases text : Nat.toDigits 10 n.natAbs with
    | nil => exact absurd text Nat.toDigits_ne_nil
    | cons c cs =>
      have digit : c.isDigit = true := Nat.isDigit_of_mem_toDigits (by decide) (by decide)
        (text ▸ List.mem_cons_self : c ∈ Nat.toDigits 10 n.natAbs)
      rw [writeInteger, text]
      split
      · exact ⟨_, _, rfl, .inl rfl⟩
      · exact ⟨_, _, rfl, .inr digit⟩
  obtain ⟨c, cs, text, numeral⟩ := start
  let marks := [' ', '\n', '\t', '\r', ']', '\x7d', '[', '\x7b', 'n', 't', 'f', '"']
  have apart : marks.all (fun d => d != '-' && !d.isDigit) = true := by decide
  have other : ∀ d ∈ marks, c ≠ d := by
    rintro d member rfl
    have clean := List.all_eq_true.mp apart c member
    rcases numeral with rfl | digit
    · simp at clean
    · simp [digit] at clean
  simp only [marks, List.forall_mem_cons] at other
  rw [text]
  apply legible_scalar
  · simp [opens, isSpace, other]
  · simp [other]
  · intro rest ends
    have reads := readNumber_writeInteger word ends
    rw [text, List.cons_append] at reads
    rw [← reads]
    simp [readScalar, other, numeral, Manner.reading]

theorem Legible.member {read : Reader α} {a : α} {cs gap : List Char} (h : Legible read a cs)
    (blank : Blank gap) (name : String) :
    Legible (readMember .reading fun _ => read) (name, a)
      (writeString name ++ ':' :: (gap ++ cs)) := by
  refine ⟨⟨_, _, rfl, by decide⟩, ?_⟩
  intro rest ends
  have taken := readString_escaped name (':' :: (gap ++ cs ++ rest))
  have value := h.reads rest ends
  simp only [writeString, List.append_assoc, List.cons_append, List.nil_append] at taken ⊢
  have mark := skipSpace_visible (by decide : isSpace ':' = false)
  simp only [readMember, Manner.reading, bind, Except.bind, taken, mark]
  rw [← List.append_assoc, h.skipped blank, value]

theorem legible_array {depth : Nat} {gap tail : List Char} (blank : Blank gap)
    (blankTail : Blank tail) (text : Json → List Char) {items : List Json}
    (each : ∀ j ∈ items, Legible (readValue .reading depth) j.normal (text j)) :
    Legible (readValue .reading (depth + 1)) (normal (.array items))
      ('[' :: series gap text items ++ tail ++ [']']) := by
  refine ⟨⟨_, _, rfl, by decide⟩, ?_⟩
  intro rest ends
  have all := readItems_series .square blank blankTail items each rest
  simp only [Bracket.close] at all
  simp [readValue, Reader.map, Except.map, all, normal, normalItems_eq_map]

theorem legible_object {depth : Nat} {gap tail colon : List Char} (blank : Blank gap)
    (blankTail : Blank tail) (blankColon : Blank colon) (text : Json → List Char)
    {members : List (String × Json)}
    (each : ∀ m ∈ members, Legible (readValue .reading depth) m.2.normal (text m.2)) :
    Legible (readValue .reading (depth + 1)) (normal (.object members))
      ('\x7b' :: series gap (fun m => writeString m.1 ++ ':' :: (colon ++ text m.2)) members ++
        tail ++ ['\x7d']) := by
  refine ⟨⟨_, _, rfl, by decide⟩, ?_⟩
  intro rest ends
  have all := readItems_series .curly blank blankTail members
    (fun m member => (each m member).member blankColon m.1) rest
  simp only [Bracket.close] at all
  simp [readValue, Reader.map, Except.map, all, normal, normalMembers_eq_map]

theorem blank_nil : Blank [] := fun _ member => nomatch member

theorem legible_null (depth : Nat) :
    Legible (readValue .reading depth) .null ['n', 'u', 'l', 'l'] :=
  legible_scalar (by decide) (by decide) fun _ _ => rfl

theorem legible_bool (depth : Nat) (b : Bool) :
    Legible (readValue .reading depth) (.bool b) (compactChars (.bool b)) := by
  cases b with
  | true => exact legible_scalar (by decide) (by decide) fun _ _ => rfl
  | false => exact legible_scalar (by decide) (by decide) fun _ _ => rfl

theorem Readable.legible_compact {depth : Nat} {j : Json} (h : Readable depth j) :
    Legible (readValue .reading depth) j.normal j.compactChars := by
  induction h with
  | null => exact legible_null _
  | bool depth b => exact legible_bool depth b
  | integer depth word => exact legible_integer word
  | text depth s => exact legible_text s
  | array each ih =>
    have whole := legible_array blank_nil blank_nil compactChars ih
    simpa [compactChars, compactItems_eq_series] using whole
  | object each ih =>
    have whole := legible_object blank_nil blank_nil blank_nil compactChars ih
    simpa [compactChars, compactMembers_eq_series] using whole

theorem Readable.legible_pretty {depth : Nat} {j : Json} (h : Readable depth j) (level : Nat) :
    Legible (readValue .reading depth) j.normal (j.prettyChars level) := by
  induction h generalizing level with
  | null => exact legible_null _
  | bool depth b => cases b <;> exact legible_bool depth _
  | integer depth word => exact legible_integer word
  | text depth s => exact legible_text s
  | @array depth items each ih =>
    cases items with
    | nil => exact legible_array blank_nil blank_nil (prettyChars level) (by simp)
    | cons j rest =>
      have whole := legible_array (blank_newline (level + 1)) (blank_newline level)
        (prettyChars (level + 1)) fun j member => ih j member (level + 1)
      simpa [prettyChars, prettyItems_eq_series] using whole
  | @object depth members each ih =>
    cases members with
    | nil =>
      exact legible_object blank_nil blank_nil blank_nil (prettyChars level) (by simp)
    | cons m rest =>
      have colon : Blank [' '] := by simp [Blank, isSpace]
      have whole := legible_object (blank_newline (level + 1)) (blank_newline level) colon
        (prettyChars (level + 1)) fun m member => ih m member (level + 1)
      simpa [prettyChars, prettyMembers_eq_series] using whole

theorem Legible.read? {j : Json} {cs : List Char} (h : Legible (readValue .reading 127) j cs) :
    Json.read? (String.ofList cs) = some j := by
  have whole := h.reads [] (by simp [Ends])
  have start := h.skipped blank_nil []
  simp only [List.append_nil, List.nil_append] at whole start
  rw [Json.read?, String.toList_ofList, readWhole, start, whole]
  rfl

/-- A value is read back from its compact text, with the members of its objects sorted. -/
theorem read?_compact {j : Json} (h : Readable 127 j) : read? j.compact = some j.normal :=
  h.legible_compact.read?

theorem read?_pretty {j : Json} (h : Readable 127 j) : read? j.pretty = some j.normal :=
  (h.legible_pretty 0).read?

inductive Plain : Json → Prop where
  | text (s : String) : Plain (.text s)
  | integer {n : Nat} (fits : n < UInt64.size) : Plain (.integer n)

theorem Plain.readable {j : Json} (h : Plain j) (depth : Nat) : Readable depth j := by
  cases h with
  | text s => exact .text depth s
  | integer fits => exact .integer depth ⟨by omega, by exact_mod_cast fits⟩

theorem Plain.normal {j : Json} (h : Plain j) : j.normal = j := by
  cases h <;> rfl

theorem normal_plain {members : List (String × Json)} (plain : ∀ m ∈ members, Plain m.2) :
    normal (.object members) = .object (sorted members) := by
  have same : members.map (fun m => (m.1, m.2.normal)) = members := by
    refine (List.map_congr_left fun m member => ?_).trans (List.map_id members)
    rw [(plain m member).normal]
    rfl
  rw [normal, normalMembers_eq_map, same]

theorem normal_sorted_plain {members : List (String × Json)} (plain : ∀ m ∈ members, Plain m.2) :
    normal (.object (sorted members)) = .object (sorted members) := by
  rw [normal_plain fun m member => plain m (mem_of_mem_sorted member),
    sorted_of_ordered (ordered_sorted members)]

theorem read?_compact_plain {members : List (String × Json)} (plain : ∀ m ∈ members, Plain m.2) :
    read? (object members).compact = some (.object (sorted members)) := by
  rw [read?_compact (.object fun m member => (plain m member).readable 126), normal_plain plain]

end NodeDiagnostics.Json
