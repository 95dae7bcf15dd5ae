import NodeDiagnostics.Text.Numeral

/-!
The target of a request: path and query of an absolute `http` URL, brought into the form in which
they are sent. Dot segments are resolved, a backslash counts as a slash, the fragment is left out,
and what may not stand in a URL is percent-encoded.
-/
namespace NodeDiagnostics.Net.Url

def isControlOrSpace (c : Char) : Bool := c.toNat ≤ 0x20

def isTabOrNewline (c : Char) : Bool := c == '\t' || c == '\n' || c == '\r'

/-- The text without control characters and spaces at its ends and without tabs and line ends. -/
def stripped (cs : List Char) : List Char :=
  (((cs.dropWhile isControlOrSpace).reverse.dropWhile isControlOrSpace).reverse).filter
    (!isTabOrNewline ·)

def isSlash (c : Char) : Bool := c == '/' || c == '\\'

def afterAuthority (cs : List Char) : List Char :=
  let rest := (cs.dropWhile (· != ':')).drop 1
  (rest.dropWhile isSlash).dropWhile fun c => !(isSlash c || c == '?' || c == '#')

def encodedInPath (c : Char) : Bool :=
  c.toNat ≤ 0x20 || 0x7f ≤ c.toNat || ['"', '#', '<', '>', '?', '`', '\x7b', '\x7d'].contains c

def encodedInQuery (c : Char) : Bool :=
  c.toNat ≤ 0x20 || 0x7f ≤ c.toNat || ['"', '#', '<', '>', '\''].contains c

def encode (encoded : Char → Bool) (cs : List Char) : List Char :=
  cs.flatMap fun c =>
    if encoded c then (String.utf8EncodeChar c).flatMap Text.percentByte else [c]

def plainPoints : List Char → List Char
  | '%' :: '2' :: 'e' :: rest => '.' :: plainPoints rest
  | '%' :: '2' :: 'E' :: rest => '.' :: plainPoints rest
  | c :: rest => c :: plainPoints rest
  | [] => []

/-- Resolve the segments behind those already resolved, which are given in reverse. -/
def resolve (done : List (List Char)) : List (List Char) → List (List Char)
  | [] => done.reverse
  | s :: rest =>
    let points := plainPoints s
    -- a dot segment at the end leaves an empty one, so the path ends with a slash
    if points = ['.', '.'] then
      resolve (if rest.isEmpty then [] :: done.drop 1 else done.drop 1) rest
    else if points = ['.'] then resolve (if rest.isEmpty then [] :: done else done) rest
    else resolve (encode encodedInPath s :: done) rest

def path (cs : List Char) : List Char :=
  match cs.splitOnP isSlash with
  | [] :: segments => (resolve [] segments).flatMap ('/' :: ·)
  | segments => (resolve [] segments).flatMap ('/' :: ·)

def target (url : String) : String :=
  let rest := (afterAuthority (stripped url.toList)).takeWhile (· != '#')
  let query := match rest.dropWhile (· != '?') with
    | [] => []
    | _ :: q => '?' :: encode encodedInQuery q
  String.ofList (path (rest.takeWhile (· != '?')) ++ query)

example : String.ofList (path "/a/b c/../%2E/d\\e".toList) = "/a/d/e" := by decide +kernel
example : String.ofList (encode encodedInQuery "x=' y".toList) = "x=%27%20y" := by decide +kernel

end NodeDiagnostics.Net.Url
