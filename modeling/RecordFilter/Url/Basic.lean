import RecordFilter.Number.Digits
import RecordFilter.Text.Percent

/-!
# URLs

A URL in its parts, each of them as it is written. A query is a list of pairs in form encoding.
-/

namespace RecordFilter

/-- The part of a URL that names a host. -/
structure Authority where
  user : Text
  password : Text
  host : Text
  port : Option Nat
deriving DecidableEq, Repr

/-- A URL. -/
structure Url where
  scheme : Text
  authority : Option Authority
  path : Text
  query : Option Text
  fragment : Option Text
deriving DecidableEq, Repr

namespace Authority

/-- The user and the password before the host. -/
def credentials (a : Authority) : Text :=
  if a.user.isEmpty && a.password.isEmpty then []
  else a.user ++ (if a.password.isEmpty then [] else ':' :: a.password) ++ ['@']

/-- The text of the authority with its slashes. -/
def render (a : Authority) : Text :=
  "//".toList ++ a.credentials ++ a.host ++
    match a.port with
    | some port => ':' :: Numeral.ofNat port
    | none => []

end Authority

namespace Url

/-- A part with a mark in front, if it is there. -/
def renderPart (mark : Char) : Option Text → Text
  | some t => mark :: t
  | none => []

/-- A path as it follows a missing authority: two slashes at its beginning must not look like one. -/
def barePath (path : Text) : Text :=
  if Text.startsWith path "//".toList then "/.".toList ++ path else path

/-- The text of a URL. -/
def render (url : Url) : Text :=
  let location :=
    match url.authority with
    | some a => a.render ++ url.path
    | none => barePath url.path
  url.scheme ++ ':' :: location ++ renderPart '?' url.query ++ renderPart '#' url.fragment

/-- The schemes with a host that paths cannot do without, and their ports. -/
def hostSchemes : List (String × Nat) :=
  [("http", 80), ("https", 443), ("ws", 80), ("wss", 443), ("ftp", 21)]

/-- The port that a scheme has by itself. -/
def defaultPort? (scheme : Text) : Option Nat :=
  hostSchemes.lookup (String.ofList scheme)

/-- Whether a scheme is one whose URLs always have a host and a path. -/
def isSpecial (scheme : Text) : Bool :=
  (defaultPort? scheme).isSome || scheme == "file".toList

/-- Whether a character is visible ASCII or a space. -/
def isPrintable (c : Char) : Bool :=
  0x20 ≤ c.toNat && c.toNat < 0x7F

/-- A query in which every character that may not stand there is encoded. -/
def encodeQuery (special : Bool) (t : Text) : Text :=
  Percent.encodeUnless
    (fun c => isPrintable c && !(" \"#<>".toList.contains c) && !(special && c == '\'')) t

/-- The URL with another query, or with none. -/
def withQuery (url : Url) (query : Option Text) : Url :=
  { url with query := query.map (encodeQuery (isSpecial url.scheme)) }

/-- Decodes a piece of a form. Bytes that are no text are replaced. -/
def decodeForm (t : Text) : Text :=
  Utf8.decodeLossy (Percent.bytes (Percent.plusToSpace t))

/-- The pairs of a query. -/
def queryPairs (url : Url) : List (Text × Text) :=
  ((Text.split '&' (url.query.getD [])).filter fun part => !part.isEmpty).map fun part =>
    let (key, value) := (Text.cutAt? '=' part).getD (part, [])
    (decodeForm key, decodeForm value)

end Url
end RecordFilter
