import NodeDiagnostics.Export.BlobAccount
import NodeDiagnostics.Proofs.Lists
import NodeDiagnostics.Proofs.Net.Url
import NodeDiagnostics.Proofs.Text.Utf8

/-!
Names of objects in the URLs under which they are stored. What is written for a name can be read
back, byte by byte, so no two names are written alike; a slash stays where it is, and nothing that
is written ends the path of the URL. Points are written as they are, so a name with dot segments
does not arrive as it is written: they are resolved when the request is sent.
-/
namespace NodeDiagnostics.Export

def isUnreserved (c : Char) : Bool := c.isAlphanum || ['-', '.', '_', '~'].contains c

def isUpperHexDigit (c : Char) : Bool := ('0' ≤ c && c ≤ '9') || ('A' ≤ c && c ≤ 'F')

/-- Unreserved characters, slashes, and percent signs with two upper-case digits behind them. -/
inductive Escaped : List Char → Prop where
  | nil : Escaped []
  | plain {c rest} (plain : isUnreserved c = true ∨ c = '/') (others : Escaped rest) :
      Escaped (c :: rest)
  | byte {high low rest} (first : isUpperHexDigit high = true)
      (second : isUpperHexDigit low = true) (others : Escaped rest) :
      Escaped ('%' :: high :: low :: rest)

def percentDecoded : List Char → List UInt8
  | [] => []
  | '%' :: high :: low :: rest =>
    match Text.natural? 16 [high, low] with
    | some n => n.toUInt8 :: percentDecoded rest
    | none => 0x25 :: percentDecoded (high :: low :: rest)
  | c :: rest => String.utf8EncodeChar c ++ percentDecoded rest

theorem encodeByte_cases (b : UInt8) :
    (∃ c, encodeByte b = [c] ∧ (isUnreserved c = true ∨ c = '/') ∧
        String.utf8EncodeChar c = [b]) ∨
      ∃ high low, encodeByte b = ['%', high, low] ∧ isUpperHexDigit high = true ∧
        isUpperHexDigit low = true ∧ Text.natural? 16 [high, low] = some b.toNat ∧
        [high, low] ≠ ['2', 'E'] := by
  cases plain : isPlain b with
  | true =>
    refine .inl ⟨Char.ofNat b.toNat, by rw [encodeByte, if_pos plain], ?_⟩
    revert b
    exact Text.forall_byte (by decide +kernel)
  | false =>
    refine .inr ⟨_, _, by rw [encodeByte, if_neg (by simp [plain])]; rfl, ?_⟩
    revert b
    exact Text.forall_byte (by decide +kernel)

theorem escaped_encodeName (name : String) : Escaped (encodeName name).toList := by
  rw [encodeName, String.toList_ofList]
  induction Text.utf8 name with
  | nil => exact .nil
  | cons b rest ih =>
    rw [List.flatMap_cons]
    rcases encodeByte_cases b with ⟨c, written, plain, -⟩ | ⟨high, low, written, first, second, -⟩
    · rw [written]
      exact .plain plain ih
    · rw [written]
      exact .byte first second ih

theorem ne_percent_of_plain {c : Char} (plain : isUnreserved c = true ∨ c = '/') : c ≠ '%' := by
  rintro rfl
  exact absurd plain (by decide)

theorem percentDecoded_encodeByte (b : UInt8) (rest : List Char) :
    percentDecoded (encodeByte b ++ rest) = b :: percentDecoded rest := by
  rcases encodeByte_cases b with ⟨c, written, plain, alone⟩ | ⟨high, low, written, -, -, value, -⟩
  · have other := ne_percent_of_plain plain
    have direct : percentDecoded (c :: rest) = String.utf8EncodeChar c ++ percentDecoded rest := by
      rw [percentDecoded]
      exact fun high low later same => absurd same other
    rw [written, List.singleton_append, direct, alone, List.singleton_append]
  · rw [written]
    simp [percentDecoded, value]

theorem percentDecoded_encodeName (name : String) :
    percentDecoded (encodeName name).toList = Text.utf8 name := by
  rw [encodeName, String.toList_ofList]
  induction Text.utf8 name with
  | nil => rfl
  | cons b rest ih => rw [List.flatMap_cons, percentDecoded_encodeByte, ih]

theorem encodeName_injective {s t : String} (same : encodeName s = encodeName t) : s = t := by
  have bytes : Text.utf8 s = Text.utf8 t := by
    rw [← percentDecoded_encodeName s, same, percentDecoded_encodeName]
  rw [← Text.ofUtf8Lossy_utf8 s, bytes, Text.ofUtf8Lossy_utf8]

theorem slash_mem_encodeByte (b : UInt8) : '/' ∈ encodeByte b ↔ b = 47 := by
  revert b
  exact Text.forall_byte (by decide +kernel)

theorem slash_mem_utf8EncodeChar (c : Char) : 47 ∈ String.utf8EncodeChar c ↔ c = '/' := by
  have value {n : Nat} (small : n < 256) (slash : 47 = UInt8.ofNat n) : n = 47 := by
    have same := congrArg UInt8.toNat slash
    rw [UInt8.toNat_ofNat', Nat.mod_eq_of_lt small] at same
    exact same.symm
  constructor
  · intro member
    have valid : c.val.toNat < 0xd800 ∨ 0xdfff < c.val.toNat ∧ c.val.toNat < 0x110000 := c.valid
    have same : Char.ofNat c.val.toNat = c := Char.ofNat_toNat c
    rw [String.utf8EncodeChar] at member
    generalize c.val.toNat = v at valid same member
    -- In a sequence of several bytes each byte is above those of ASCII.
    have alone : v = 47 := by
      split_ifs at member <;> simp only [List.mem_cons, List.not_mem_nil, or_false] at member
      · exact value (by omega) member
      · rcases member with byte | byte <;> have far := value (by omega) byte <;> omega
      · rcases member with byte | byte | byte <;> have far := value (by omega) byte <;> omega
      · rcases member with byte | byte | byte | byte <;> have far := value (by omega) byte <;> omega
    rw [← same, alone]
  · rintro rfl
    decide

@[simp] theorem encodeName_append (s t : String) :
    encodeName (s ++ t) = encodeName s ++ encodeName t := by
  simp [encodeName, Text.utf8, String.ofList_append]

theorem encodeName_slash : encodeName "/" = "/" := by decide

theorem encodeName_intercalate (segments : List String) :
    encodeName ("/".intercalate segments) = "/".intercalate (segments.map encodeName) := by
  induction segments with
  | nil => rfl
  | cons first rest ih =>
    cases rest with
    | nil => simp
    | cons second rest =>
      rw [String.intercalate_cons_cons, encodeName_append, encodeName_append, ih, encodeName_slash]
      simp

theorem encodeName_segments (name : String) :
    (encodeName name).toList.splitOn '/' =
      (name.toList.splitOn '/').map fun segment => (encodeName (String.ofList segment)).toList := by
  let write (c : Char) : List Char := (String.utf8EncodeChar c).flatMap encodeByte
  have free (c : Char) (other : c ≠ '/') : '/' ∉ write c := by
    intro member
    obtain ⟨b, byte, slash⟩ := List.mem_flatMap.mp member
    rw [slash_mem_encodeByte] at slash
    exact other ((slash_mem_utf8EncodeChar c).mp (slash ▸ byte))
  have pieces := splitOn_flatMap (f := write) (x := '/') (y := '/') (by decide) free name.toList
  simpa [encodeName, Text.utf8, List.flatMap_assoc] using pieces

theorem ordinary_encodeByte (b : UInt8) : (encodeByte b).all Net.Url.isOrdinary = true := by
  revert b
  exact Text.forall_byte (by decide +kernel)

theorem ordinary_encodeName (name : String) :
    ∀ c ∈ (encodeName name).toList, Net.Url.isOrdinary c = true := by
  rw [encodeName, String.toList_ofList]
  intro c member
  obtain ⟨b, -, written⟩ := List.mem_flatMap.mp member
  exact List.all_eq_true.mp (ordinary_encodeByte b) c written

theorem plainPoints_encodeByte (b : UInt8) (rest : List Char) :
    Net.Url.plainPoints (encodeByte b ++ rest) = encodeByte b ++ Net.Url.plainPoints rest := by
  have literal {c : Char} (plain : c ≠ '%') (rest : List Char) :
      Net.Url.plainPoints (c :: rest) = c :: Net.Url.plainPoints rest := by
    rw [Net.Url.plainPoints]
    · exact fun later same => absurd same plain
    · exact fun later same => absurd same plain
  rcases encodeByte_cases b with
    ⟨c, written, plain, -⟩ | ⟨high, low, written, first, second, value, other⟩
  · rw [written, List.singleton_append, List.singleton_append, literal (ne_percent_of_plain plain)]
  · have percent {c : Char} (digit : isUpperHexDigit c = true) : c ≠ '%' := by
      rintro rfl
      exact absurd digit (by decide)
    rw [written, List.cons_append, List.cons_append, List.singleton_append, Net.Url.plainPoints,
      literal (percent first), literal (percent second)]
    · rfl
    · intro later _ same
      simp only [List.cons.injEq] at same
      obtain ⟨-, rfl, -⟩ := same
      exact absurd second (by decide)
    · intro later _ same
      simp only [List.cons.injEq] at same
      obtain ⟨rfl, rfl, -⟩ := same
      exact other rfl

theorem plainPoints_encodeName (name : String) :
    Net.Url.plainPoints (encodeName name).toList = (encodeName name).toList := by
  rw [encodeName, String.toList_ofList]
  induction Text.utf8 name with
  | nil => rfl
  | cons b rest ih => rw [List.flatMap_cons, plainPoints_encodeByte, ih]

/-- A segment of a name is resolved only if it is a dot segment itself. -/
theorem fixed_encodeName {name : String} (other : name ≠ "." ∧ name ≠ "..") :
    Net.Url.Fixed (encodeName name).toList := by
  have point : encodeName "." = "." := by decide
  have points : encodeName ".." = ".." := by decide
  rw [Net.Url.Fixed, plainPoints_encodeName]
  constructor
  · intro same
    have written : encodeName name = encodeName "." := by
      rw [point]
      exact String.toList_inj.mp same
    exact other.1 (encodeName_injective written)
  · intro same
    have written : encodeName name = encodeName ".." := by
      rw [points]
      exact String.toList_inj.mp same
    exact other.2 (encodeName_injective written)

def Dotless (name : String) : Prop :=
  ∀ segment ∈ name.toList.splitOn '/', segment ≠ ['.'] ∧ segment ≠ ['.', '.']
deriving Decidable

theorem Dotless.fixed {name : String} (dotless : Dotless name) :
    ∀ segment ∈ (encodeName name).toList.splitOn '/', Net.Url.Fixed segment := by
  rw [encodeName_segments, List.forall_mem_map]
  refine fun segment member => fixed_encodeName ?_
  obtain ⟨single, double⟩ := dotless segment member
  constructor
  · intro same
    exact single (by rw [← String.toList_ofList (l := segment), same]; rfl)
  · intro same
    exact double (by rw [← String.toList_ofList (l := segment), same]; rfl)

/-- Where the container's URL is made of ordinary characters, the query that is sent is the
signature's for every name, and a name without dot segments arrives as it is written. -/
theorem target_putRequest {scheme authority base : List Char}
    (parts : Net.Url.Front scheme authority base) (a : BlobAccount) (key : String)
    (content : List UInt8) :
    let url := String.ofList (Net.Url.front scheme authority base)
    let target := (a.putRequest url key content).target.toList
    target.dropWhile (· != '?') = '?' :: Net.Url.sentQuery a.sasQuery.toList ∧
      (Dotless key →
        target.takeWhile (· != '?') = Net.Url.place base ++ '/' :: (encodeName key).toList) := by
  intro url target
  let below := base ++ '/' :: (encodeName key).toList
  have longer : Net.Url.Front scheme authority below := by
    refine ⟨?_, parts.named, parts.hosted, parts.apart⟩
    have shape : Net.Url.front scheme authority below =
        Net.Url.front scheme authority base ++ '/' :: (encodeName key).toList := by
      simp [Net.Url.front, below]
    rw [shape, List.forall_mem_append]
    exact ⟨parts.ordinary, List.forall_mem_cons.mpr ⟨rfl, ordinary_encodeName key⟩⟩
  have sent :
      target = Net.Url.path ('/' :: below) ++ '?' :: Net.Url.sentQuery a.sasQuery.toList := by
    have whole : (a.putRequest url key content).url =
        String.ofList (Net.Url.front scheme authority below ++ '?' :: a.sasQuery.toList) := by
      rw [← String.toList_inj]
      simp [BlobAccount.putRequest, url, below, Net.Url.front]
    simp only [target, BlobRequest.target, whole, longer.target_eq, String.toList_ofList]
  have unqueried : ∀ c ∈ Net.Url.path ('/' :: below), (c != '?') = true := by
    intro c member
    rw [bne_iff_ne]
    rintro rfl
    exact Net.Url.mark_not_mem_path _ member
  refine ⟨?_, fun dotless => ?_⟩
  · rw [sent, List.dropWhile_append_of_pos unqueried]
    rfl
  · rw [sent, List.takeWhile_append_of_pos unqueried,
      Net.Url.path_append longer.ordinary_below dotless.fixed]
    simp

theorem key_of_target {scheme authority base : List Char}
    (parts : Net.Url.Front scheme authority base) (a : BlobAccount) {key key' : String}
    (dotless : Dotless key) (dotless' : Dotless key') {content content' : List UInt8}
    (same :
      (a.putRequest (String.ofList (Net.Url.front scheme authority base)) key content).target =
      (a.putRequest (String.ofList (Net.Url.front scheme authority base)) key' content').target) :
    key = key' := by
  have arrives := (target_putRequest parts a key content).2 dotless
  have arrives' := (target_putRequest parts a key' content').2 dotless'
  rw [same, arrives'] at arrives
  have names := (List.cons.inj (List.append_cancel_left arrives)).2
  exact encodeName_injective (String.toList_inj.mp names.symm)

def endsPath (c : Char) : Bool := c == '?' || c == '#'

theorem putRequest_url (a : BlobAccount) (url key : String) (content : List UInt8) :
    ∃ behind, (a.putRequest url key content).url.toList = url.toList ++ behind ∧
      behind.takeWhile (!endsPath ·) = '/' :: (encodeName key).toList ∧
      behind.dropWhile (!endsPath ·) = '?' :: a.sasQuery.toList := by
  have inside : ∀ c ∈ '/' :: (encodeName key).toList, (!endsPath c) = true := by
    have ordinary : ∀ c ∈ '/' :: (encodeName key).toList, Net.Url.isOrdinary c = true :=
      List.forall_mem_cons.mpr ⟨rfl, ordinary_encodeName key⟩
    intro c member
    have query : c ≠ '?' := Net.Url.ne_of_ordinary (ordinary c member) rfl
    have fragment : c ≠ '#' := Net.Url.ne_of_ordinary (ordinary c member) rfl
    simp [endsPath, query, fragment]
  refine ⟨'/' :: (encodeName key).toList ++ '?' :: a.sasQuery.toList, ?_, ?_, ?_⟩
  · simp [BlobAccount.putRequest]
  · rw [List.takeWhile_append_of_pos inside]
    simp [endsPath]
  · rw [List.dropWhile_append_of_pos inside]
    simp [endsPath]

def diagnostics : BlobAccount := ⟨"diag", "logs", "sig=1", "", "", some "http://store"⟩

end NodeDiagnostics.Export
