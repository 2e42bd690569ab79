import BlocklistWatch.Web.Host

/-!
# Web addresses

Reading the address of a server and of what is asked of it. Blanks and control characters around it
and line breaks inside are ignored, a backslash counts as a slash, and dots in the path are followed.

* `Url.parse` reads an address.
* `Url.target` is the path and the query as they are sent.
-/

namespace BlocklistWatch.Web

structure Url where
  scheme : String
  path : List Char
  query : Option (List Char)
deriving DecidableEq, Repr

def hostSchemes : List String :=
  ["http", "https", "ws", "wss", "ftp"]

/-- The text without blanks and control characters at its ends and without tabs and line breaks. -/
def cleanUrl (cs : List Char) : List Char :=
  let isOuter (c : Char) : Bool := c.toNat ≤ 0x20
  let inner := ((cs.dropWhile isOuter).reverse.dropWhile isOuter).reverse
  inner.filter fun c => c != '\t' && c != '\n' && c != '\r'

def isAsciiLetter (c : Char) : Bool :=
  ('a' ≤ c && c ≤ 'z') || ('A' ≤ c && c ≤ 'Z')

def splitScheme? (cs : List Char) : Option (List Char × List Char) :=
  match cs with
  | [] => none
  | c :: _ =>
    if ¬ isAsciiLetter c then none
    else
      let isSchemeChar (c : Char) : Bool :=
        isAsciiLetter c || Text.isDigit c || c == '+' || c == '-' || c == '.'
      match cs.dropWhile isSchemeChar with
      | ':' :: rest => some ((cs.takeWhile isSchemeChar).map Text.foldChar, rest)
      | _ => none

def splitQuery (cs : List Char) : List Char × Option (List Char) :=
  let body := cs.takeWhile (· != '#')
  let front := body.takeWhile (· != '?')
  match body.dropWhile (· != '?') with
  | [] => (front, none)
  | _ :: query => (front, some query)

/-! ## Host and port -/

def dropUser (cs : List Char) : List Char :=
  (cs.reverse.takeWhile (· != '@')).reverse

/-- The host and the text of the port; colons inside brackets belong to the host. -/
def splitPort : Bool → List Char → List Char × Option (List Char)
  | _, [] => ([], none)
  | inside, c :: cs =>
    if c = ':' ∧ inside = false then ([], some cs)
    else
      let inside := if c = '[' then true else if c = ']' then false else inside
      let (host, port) := splitPort inside cs
      (c :: host, port)

/-- Whether the text of a port is one: no digits at all, or a number of 16 bits. -/
def isPort (cs : List Char) : Bool :=
  cs.all Text.isDigit && Text.digitsValue cs < UInt16.size

def checkAuthority (cs : List Char) : Option UrlError :=
  let (host, port) := splitPort false (dropUser cs)
  if host = [] then some .emptyHost
  else (checkHost host).or (if (port.map isPort).getD true then none else some .badPort)

/-! ## Paths -/

def isSingleDot (cs : List Char) : Bool :=
  let cs := cs.map Text.foldChar
  cs = ['.'] || cs = "%2e".toList

def isDoubleDot (cs : List Char) : Bool :=
  let cs := cs.map Text.foldChar
  ["..", ".%2e", "%2e.", "%2e%2e"].any fun dots => dots.toList = cs

/-- The segments of a path, the last one first, after one more; `last` says that the path ends with
it. -/
def addSegment (path : List (List Char)) (segment : List Char) (last : Bool) : List (List Char) :=
  if isDoubleDot segment then if last then [] :: path.tail else path.tail
  else if isSingleDot segment then if last then [] :: path else path
  else percentEncode escapedInPath segment :: path

/-- The segments of a path with dots followed, the last one first. -/
def followDots (path : List (List Char)) : List (List Char) → List (List Char)
  | [] => path
  | [segment] => addSegment path segment true
  | segment :: rest => followDots (addSegment path segment false) rest

def sentPath (cs : List Char) : List Char :=
  let cs := match cs with
    | '/' :: rest => rest
    | cs => cs
  '/' :: ['/'].intercalate (followDots [] (Text.cutAt '/' cs)).reverse

/-! ## Addresses -/

namespace Url

def parseHosted (scheme : String) (cs : List Char) : Except UrlError Url :=
  let (front, query) := splitQuery cs
  let front := front.map fun c => if c = '\\' then '/' else c
  let rest := front.dropWhile (· == '/')
  let authority := rest.takeWhile (· != '/')
  match checkAuthority authority with
  | some e => .error e
  | none =>
    .ok ⟨scheme, sentPath (rest.dropWhile (· != '/')), query.map (percentEncode escapedInQuery)⟩

/-- Reads an address. Of an address whose scheme has no host only the scheme is kept. -/
def parse (s : String) : Except UrlError Url :=
  match splitScheme? (cleanUrl s.toList) with
  | none => .error .noBase
  | some (scheme, rest) =>
    let scheme := String.ofList scheme
    if hostSchemes.contains scheme then parseHosted scheme rest else .ok ⟨scheme, rest, none⟩

def addQuery (u : Url) (pairs : List (String × String)) : Url :=
  let more := (formQuery pairs).toList
  match u.query with
  | none | some [] => { u with query := some more }
  | some query => { u with query := some (query ++ '&' :: more) }

def target (u : Url) : String :=
  String.ofList (u.path ++ match u.query with
    | none => []
    | some query => '?' :: query)

def isWeb (u : Url) : Bool :=
  u.scheme == "http" || u.scheme == "https"

end Url

end BlocklistWatch.Web
