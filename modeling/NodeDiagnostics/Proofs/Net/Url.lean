import NodeDiagnostics.Net.Url
import NodeDiagnostics.Proofs.Lists
import NodeDiagnostics.Proofs.Text.Hexadecimal

/-!
Where the parts of a URL end up in the target of a request. The query is what follows the first
question mark. The last segments of a path arrive as they are written, wherever the ones before them
lead, if nothing in them has to be encoded and none is made of one or two points.
-/
namespace NodeDiagnostics.Net.Url

/-- Characters that a path is sent with as they are, a backslash apart, which counts as a slash. -/
def isOrdinary (c : Char) : Bool := !encodedInPath c && c != '\\'

section Ordinary
variable {c : Char} (ordinary : isOrdinary c = true)
include ordinary

theorem encodedInPath_of_ordinary : encodedInPath c = false := by
  simp only [isOrdinary, Bool.and_eq_true, Bool.not_eq_true'] at ordinary
  exact ordinary.1

theorem solid_of_ordinary : isControlOrSpace c = false := by
  have plain := encodedInPath_of_ordinary ordinary
  simp only [encodedInPath, Bool.or_eq_false_iff] at plain
  exact plain.1.1

theorem ne_of_ordinary {mark : Char} (special : isOrdinary mark = false) : c ≠ mark := by
  rintro rfl
  exact absurd ordinary (by rw [special]; exact Bool.false_ne_true)

theorem visible_of_ordinary : isTabOrNewline c = false := by
  rw [isTabOrNewline, Bool.or_eq_false_iff, Bool.or_eq_false_iff]
  have apart {mark : Char} (special : isOrdinary mark = false) : (c == mark) = false :=
    beq_eq_false_iff_ne.mpr (ne_of_ordinary ordinary special)
  exact ⟨⟨apart rfl, apart rfl⟩, apart rfl⟩

theorem isSlash_of_ordinary : isSlash c = (c == '/') := by
  have forward : (c == '\\') = false := beq_eq_false_iff_ne.mpr (ne_of_ordinary ordinary rfl)
  rw [isSlash, forward, Bool.or_false]

end Ordinary

theorem encode_ordinary {cs : List Char} (ordinary : ∀ c ∈ cs, isOrdinary c = true) :
    encode encodedInPath cs = cs := by
  induction cs with
  | nil => rfl
  | cons c cs ih =>
    obtain ⟨first, others⟩ := List.forall_mem_cons.mp ordinary
    have plain := encodedInPath_of_ordinary first
    rw [encode, List.flatMap_cons, if_neg (by simp [plain]), ← encode, ih others]
    rfl

theorem splitOnP_ordinary {cs : List Char} (ordinary : ∀ c ∈ cs, isOrdinary c = true) :
    cs.splitOnP isSlash = cs.splitOn '/' := by
  induction cs with
  | nil => rfl
  | cons c cs ih =>
    obtain ⟨first, others⟩ := List.forall_mem_cons.mp ordinary
    rw [List.splitOnP_cons_eq_if_modifyHead, List.splitOn_cons_eq_if_modifyHead, ih others,
      isSlash_of_ordinary first]

def Fixed (segment : List Char) : Prop :=
  plainPoints segment ≠ ['.'] ∧ plainPoints segment ≠ ['.', '.']

theorem resolve_fixed {segments : List (List Char)} (fixed : ∀ s ∈ segments, Fixed s)
    (done : List (List Char)) :
    resolve done segments = done.reverse ++ segments.map (encode encodedInPath) := by
  induction segments generalizing done with
  | nil => simp [resolve]
  | cons s rest ih =>
    obtain ⟨first, others⟩ := List.forall_mem_cons.mp fixed
    simp [resolve, first.1, first.2, ih others]

theorem flatMap_slash {segments : List (List Char)} (filled : segments ≠ []) :
    segments.flatMap ('/' :: ·) = '/' :: ['/'].intercalate segments := by
  induction segments with
  | nil => exact absurd rfl filled
  | cons s rest ih =>
    cases rest with
    | nil => simp
    | cons t rest => simp [ih (List.cons_ne_nil t rest)]

def passed (done : List (List Char)) : List (List Char) → List (List Char)
  | [] => done
  | s :: rest =>
    if plainPoints s = ['.', '.'] then passed (done.drop 1) rest
    else if plainPoints s = ['.'] then passed done rest
    else passed (encode encodedInPath s :: done) rest

theorem resolve_append (done front : List (List Char)) {back : List (List Char)}
    (more : back ≠ []) : resolve done (front ++ back) = resolve (passed done front) back := by
  induction front generalizing done with
  | nil => rfl
  | cons s front ih =>
    have followed : (front ++ back).isEmpty = false := by
      simpa using fun _ : front = [] => more
    simp only [List.cons_append, resolve, passed, followed]
    split
    · exact ih _
    · split
      · exact ih _
      · exact ih _

/-- Where the segments of a path lead that others follow. -/
def place (base : List Char) : List Char :=
  (passed [] (base.splitOn '/')).reverse.flatMap ('/' :: ·)

/-- Behind ordinary characters, fixed segments are sent as they are written. -/
theorem path_append {base name : List Char}
    (ordinary : ∀ c ∈ base ++ '/' :: name, isOrdinary c = true)
    (fixed : ∀ s ∈ name.splitOn '/', Fixed s) :
    path ('/' :: (base ++ '/' :: name)) = place base ++ '/' :: name := by
  have segments : ('/' :: (base ++ '/' :: name)).splitOnP isSlash =
      [] :: (base.splitOn '/' ++ name.splitOn '/') := by
    rw [List.splitOnP_cons_eq_if_modifyHead, splitOnP_ordinary ordinary,
      List.splitOn_append_cons_self]
    rfl
  have whole : (name.splitOn '/').flatMap ('/' :: ·) = '/' :: name := by
    rw [flatMap_slash (List.splitOn_ne_nil '/' name), List.intercalate_splitOn]
  have encoded : ((name.splitOn '/').map (encode encodedInPath)).flatMap ('/' :: ·) =
      encode encodedInPath ((name.splitOn '/').flatMap ('/' :: ·)) := by
    rw [List.flatMap_map, encode, List.flatMap_assoc]
    rfl
  have behind : ∀ c ∈ '/' :: name, isOrdinary c = true := fun c member =>
    ordinary c (List.mem_append_right _ member)
  rw [path, segments]
  dsimp only
  rw [resolve_append _ _ (List.splitOn_ne_nil '/' name), resolve_fixed fixed, List.flatMap_append,
    encoded, whole, encode_ordinary behind]
  rfl

theorem mark_not_mem_percentByte (b : UInt8) : '?' ∉ Text.percentByte b := by
  revert b
  exact Text.forall_byte (by decide +kernel)

theorem mark_not_mem_encode (cs : List Char) : '?' ∉ encode encodedInPath cs := by
  intro member
  obtain ⟨c, -, written⟩ := List.mem_flatMap.mp member
  split at written
  · obtain ⟨b, -, digit⟩ := List.mem_flatMap.mp written
    exact mark_not_mem_percentByte b digit
  · next plain =>
    cases List.mem_singleton.mp written
    exact plain rfl

theorem mark_not_mem_resolve {done segments : List (List Char)} (free : ∀ s ∈ done, '?' ∉ s) :
    ∀ s ∈ resolve done segments, '?' ∉ s := by
  induction segments generalizing done with
  | nil => simpa [resolve] using free
  | cons s rest ih =>
    have dropped : ∀ t ∈ done.drop 1, '?' ∉ t :=
      fun t member => free t (List.mem_of_mem_drop member)
    have empty {l : List (List Char)} (free : ∀ t ∈ l, '?' ∉ t) : ∀ t ∈ [] :: l, '?' ∉ t :=
      List.forall_mem_cons.mpr ⟨List.not_mem_nil, free⟩
    rw [resolve]
    split
    · refine ih ?_
      split
      · exact empty dropped
      · exact dropped
    · split
      · refine ih ?_
        split
        · exact empty free
        · exact free
      · exact ih (List.forall_mem_cons.mpr ⟨mark_not_mem_encode s, free⟩)

theorem mark_not_mem_path (cs : List Char) : '?' ∉ path cs := by
  have free (segments : List (List Char)) : '?' ∉ (resolve [] segments).flatMap ('/' :: ·) := by
    intro member
    obtain ⟨s, resolved, mark⟩ := List.mem_flatMap.mp member
    rcases List.mem_cons.mp mark with slash | inside
    · exact absurd slash (by decide)
    · exact mark_not_mem_resolve (List.forall_mem_nil _) s resolved inside
  rw [path]
  split
  · exact free _
  · exact free _

def sentQuery (cs : List Char) : List Char :=
  let kept := (cs.reverse.dropWhile isControlOrSpace).reverse.filter (!isTabOrNewline ·)
  encode encodedInQuery (kept.takeWhile (· != '#'))

theorem stripped_ordinary {front : List Char} (ordinary : ∀ c ∈ front, isOrdinary c = true)
    (query : List Char) : stripped (front ++ '?' :: query) = front ++ '?' ::
      (query.reverse.dropWhile isControlOrSpace).reverse.filter (!isTabOrNewline ·) := by
  have first : (front ++ '?' :: query).dropWhile isControlOrSpace = front ++ '?' :: query := by
    cases front with
    | nil => rfl
    | cons c front =>
      have solid := solid_of_ordinary (ordinary c List.mem_cons_self)
      rw [List.cons_append, List.dropWhile_cons_of_neg (by simp [solid])]
  have last : (front ++ '?' :: query).reverse.dropWhile isControlOrSpace =
      query.reverse.dropWhile isControlOrSpace ++ '?' :: front.reverse := by
    rw [List.reverse_append, List.reverse_cons, List.append_assoc, List.singleton_append,
      dropWhile_append_kept rfl]
  have visible : front.filter (!isTabOrNewline ·) = front := by
    rw [List.filter_eq_self]
    intro c member
    rw [visible_of_ordinary (ordinary c member), Bool.not_false]
  rw [stripped, first, last, List.reverse_append, List.reverse_cons, List.reverse_reverse,
    List.append_assoc, List.singleton_append, List.filter_append, visible]
  rfl

def front (scheme authority below : List Char) : List Char :=
  scheme ++ ':' :: '/' :: '/' :: (authority ++ '/' :: below)

structure Front (scheme authority below : List Char) : Prop where
  ordinary : ∀ c ∈ front scheme authority below, isOrdinary c = true
  named : ':' ∉ scheme
  hosted : authority ≠ []
  apart : '/' ∉ authority

namespace Front
variable {scheme authority below : List Char} (parts : Front scheme authority below)
include parts

theorem ordinary_authority : ∀ c ∈ authority, isOrdinary c = true :=
  fun c member => parts.ordinary c (by simp [front, member])

theorem ordinary_below : ∀ c ∈ below, isOrdinary c = true :=
  fun c member => parts.ordinary c (by simp [front, member])

theorem authority_not_slash : ∀ c ∈ authority, isSlash c = false := by
  intro c member
  rw [isSlash_of_ordinary (parts.ordinary_authority c member), beq_eq_false_iff_ne]
  rintro rfl
  exact parts.apart member

theorem afterAuthority_eq (rest : List Char) :
    afterAuthority (front scheme authority below ++ rest) = '/' :: (below ++ rest) := by
  have unmarked : ∀ c ∈ scheme, (c != ':') = true := by
    intro c member
    rw [bne_iff_ne]
    rintro rfl
    exact parts.named member
  have within : ∀ c ∈ authority, (!(isSlash c || c == '?' || c == '#')) = true := by
    intro c member
    have query : c ≠ '?' := ne_of_ordinary (parts.ordinary_authority c member) rfl
    have fragment : c ≠ '#' := ne_of_ordinary (parts.ordinary_authority c member) rfl
    simp [parts.authority_not_slash c member, query, fragment]
  have shape : front scheme authority below ++ rest =
      scheme ++ ':' :: '/' :: '/' :: (authority ++ '/' :: (below ++ rest)) := by
    simp [front]
  have behind : (authority ++ '/' :: (below ++ rest)).dropWhile isSlash =
      authority ++ '/' :: (below ++ rest) := by
    cases characters : authority with
    | nil => exact absurd characters parts.hosted
    | cons c others =>
      have first := parts.authority_not_slash c (characters ▸ List.mem_cons_self)
      rw [List.cons_append, List.dropWhile_cons_of_neg (by simp [first])]
  rw [afterAuthority, shape, List.dropWhile_append_of_pos unmarked]
  change ((authority ++ '/' :: (below ++ rest)).dropWhile isSlash).dropWhile _ = _
  rw [behind, List.dropWhile_append_of_pos within]
  rfl

theorem target_eq (query : List Char) :
    target (String.ofList (front scheme authority below ++ '?' :: query)) =
      String.ofList (path ('/' :: below) ++ '?' :: sentQuery query) := by
  have whole : ∀ c ∈ '/' :: below, isOrdinary c = true :=
    List.forall_mem_cons.mpr ⟨rfl, parts.ordinary_below⟩
  have unfragmented : ∀ c ∈ '/' :: below, (c != '#') = true := fun c member =>
    bne_iff_ne.mpr (ne_of_ordinary (whole c member) rfl)
  have unqueried : ∀ c ∈ '/' :: below, (c != '?') = true := fun c member =>
    bne_iff_ne.mpr (ne_of_ordinary (whole c member) rfl)
  rw [target, String.toList_ofList, stripped_ordinary parts.ordinary, parts.afterAuthority_eq,
    ← List.cons_append, List.takeWhile_append_of_pos unfragmented, List.takeWhile_cons_of_pos rfl,
    List.takeWhile_append_of_pos unqueried, List.dropWhile_append_of_pos unqueried]
  simp [sentQuery]

end Front
end NodeDiagnostics.Net.Url
