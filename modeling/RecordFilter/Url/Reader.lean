import RecordFilter.Url.Host

/-!
# Reading URLs

A URL must have a scheme. Blanks around it and line breaks inside of it do not count; letters of the
scheme and of a host name become small; a port that the scheme has by itself is dropped; and the
points in paths are resolved.
-/

namespace RecordFilter
namespace Url

/-- Whether a character is a control character or a space. -/
def isControlOrSpace (c : Char) : Bool :=
  c.toNat ≤ 0x20

/-- The text without what does not count. -/
def cleaned (t : Text) : Text :=
  let start := t.dropWhile isControlOrSpace
  ((start.reverse.dropWhile isControlOrSpace).reverse).filter fun c =>
    c != '\t' && c != '\n' && c != '\r'

/-- The scheme in small letters and what follows its colon. -/
def scheme? (t : Text) : Option (Text × Text) :=
  (Text.cutAt? ':' t).bind fun (scheme, rest) =>
    let allowed (c : Char) : Bool := c.isAlphanum || c == '+' || c == '-' || c == '.'
    if (scheme.head?.any Char.isAlpha) && scheme.all allowed then
      some (Text.lowerAscii scheme, rest)
    else none

/-! ## Paths -/

/-- The forms of a segment of one point. -/
def isSingleDot (segment : Text) : Bool :=
  [".", "%2e"].contains (String.ofList (Text.lowerAscii segment))

/-- The forms of a segment of two points. -/
def isDoubleDot (segment : Text) : Bool :=
  ["..", ".%2e", "%2e.", "%2e%2e"].contains (String.ofList (Text.lowerAscii segment))

/-- A segment in which every character that may not stand there is encoded. -/
def encodeSegment (t : Text) : Text :=
  Percent.encodeUnless (fun c => isPrintable c && !(" \"<>`#?\x7b\x7d".toList.contains c)) t

/-- Resolves the points among the segments. `before` holds the segments so far, the last one
first. -/
def resolve (before : List Text) : List Text → List Text
  | [] => before.reverse
  | segment :: rest =>
    let ending := if rest.isEmpty then [[]] else []
    if isDoubleDot segment then resolve (ending ++ before.drop 1) rest
    else if isSingleDot segment then resolve (ending ++ before) rest
    else resolve (encodeSegment segment :: before) rest

/-- A path with slashes; a backslash counts as one in the schemes that need a host. -/
def readPath (special : Bool) (t : Text) : Text :=
  match t with
  | [] => if special then ['/'] else []
  | _ :: rest =>
    let segments := Text.splitWhere (fun c => c == '/' || (special && c == '\\')) rest
    '/' :: Text.join ['/'] (resolve [] segments)

/-! ## Authorities -/

/-- A user or password in which every character that may not stand there is encoded. -/
def encodeCredential (t : Text) : Text :=
  Percent.encodeUnless
    (fun c => isPrintable c && !(" \"<>`#?\x7b\x7d/:;=@[\\]^|".toList.contains c)) t

/-- The text before and after the last occurrence of a character. -/
def cutAtLast? (separator : Char) (t : Text) : Option (Text × Text) :=
  (Text.cutAt? separator t.reverse).map fun (after, before) => (before.reverse, after.reverse)

/-- The host and the port; a colon inside of brackets does not separate them. -/
def hostAndPort (t : Text) : Text × Option Text :=
  let inside := if t.head? = some '[' then (t.takeWhile (· != ']')).length else 0
  match Text.cutAt? ':' (t.drop inside) with
  | some (host, port) => (t.take inside ++ host, some port)
  | none => (t, none)

/-- Reads a port; one that the scheme has by itself is dropped. -/
def readPort? (scheme : Text) : Option Text → Option (Option Nat)
  | none | some [] => some none
  | some digits =>
    ((Numeral.nat? digits).filter (· < 65536)).map fun port =>
      if defaultPort? scheme = some port then none else some port

/-- Reads an authority. -/
def readAuthority? (scheme t : Text) : Option Authority :=
  let special := isSpecial scheme
  let (credentials, location) := (cutAtLast? '@' t).getD ([], t)
  let (user, password) := (Text.cutAt? ':' credentials).getD (credentials, [])
  let (host, port) := hostAndPort location
  if host.isEmpty ∧ (special ∨ port.isSome ∨ t.contains '@') then none
  else
    (Host.read? special host).bind fun host => (readPort? scheme port).map fun port =>
      ⟨encodeCredential user, encodeCredential password, host, port⟩

/-! ## Whole URLs -/

/-- Whether a character separates the parts of a path. -/
def isSlash (special : Bool) (c : Char) : Bool :=
  c == '/' || (special && c == '\\')

/-- The authority and the path of a URL whose scheme needs a host. -/
def readHosted? (scheme t : Text) : Option (Option Authority × Text) :=
  let (authority, path) := Text.spanWhile (fun c => !isSlash true c) (t.dropWhile (isSlash true))
  (readAuthority? scheme authority).map fun authority => (some authority, readPath true path)

/-- The authority and the path of a file, which may do without a host. -/
def readFile? (t : Text) : Option (Option Authority × Text) :=
  let located (host path : Text) : Option Authority × Text :=
    (some ⟨[], [], host, none⟩, readPath true path)
  match t.span (isSlash true) with
  | ([], path) => some (located [] ('/' :: path))
  | ([_, _], rest) =>
    let (host, path) := Text.spanWhile (fun c => !isSlash true c) rest
    if host.isEmpty then some (located [] path)
    else
      (Host.read? true host).map fun host =>
        located (if host = "localhost".toList then [] else host) path
  | ([_], path) => some (located [] ('/' :: path))
  | (slashes, path) => some (located [] (slashes.drop 2 ++ path))

/-- The authority and the path of any other URL. A path that does not begin with a slash is taken as
it is. -/
def readOther? (scheme t : Text) : Option (Option Authority × Text) :=
  match Text.dropStart? "//".toList t with
  | some rest =>
    let (authority, path) := Text.spanWhile (· != '/') rest
    if authority.isEmpty then some (some ⟨[], [], [], none⟩, readPath false path)
    else (readAuthority? scheme authority).map fun authority =>
      (some authority, readPath false path)
  | none =>
    some (none,
      if t.head? = some '/' then readPath false t else Percent.encodeUnless isPrintable t)

/-- Reads a URL. -/
def read? (t : Text) : Option Url :=
  (scheme? (cleaned t)).bind fun (scheme, rest) =>
    let (rest, fragment) := Text.spanWhile (· != '#') rest
    let (location, query) := Text.spanWhile (· != '?') rest
    let special := isSpecial scheme
    let parts :=
      if scheme = "file".toList then readFile? location
      else if special then readHosted? scheme location
      else readOther? scheme location
    let encodeFragment (t : Text) : Text :=
      Percent.encodeUnless (fun c => isPrintable c && !(" \"<>`".toList.contains c)) t
    parts.map fun (authority, path) =>
      ⟨scheme, authority, path, query.tail?.map (encodeQuery special),
        fragment.tail?.map encodeFragment⟩

end Url
end RecordFilter
