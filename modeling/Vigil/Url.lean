import Vigil.Text.Blank
import Vigil.Text.CodeRanges
import Vigil.Text.Numeral
import Vigil.Url.Host
/-!
Absolute URLs. Reading is lenient where browsers are: tabs and line ends count for nothing, the
common schemes take backslashes for slashes and any number of them before the host, and each
component is percent-encoded as far as it has to be.
-/

namespace Vigil

/-- The path of a URL: a list of segments, or one text without structure. -/
inductive Url.Path where
  | segments (parts : List (List Char))
  | plain (text : List Char)
  deriving DecidableEq, Repr

structure Url where
  scheme : String
  username : List Char := []
  password : List Char := []
  /-- The host; an empty one is uninterpreted. -/
  host : Option Url.Host := none
  /-- The port, if it is given and not the scheme's own. -/
  port : Option Nat := none
  path : Url.Path := .segments []
  query : Option (List Char) := none
  fragment : Option (List Char) := none
  deriving DecidableEq, Repr

namespace Url

open Text

/-- How a scheme's URLs are read. -/
inductive Kind where
  | web | file | other
  deriving DecidableEq, Repr

def Kind.ofScheme (scheme : String) : Kind :=
  if scheme ∈ ["http", "https", "ws", "wss", "ftp"] then .web
  else if scheme = "file" then .file
  else .other

/-- The port a scheme's servers listen at if none is given. -/
def defaultPort? (scheme : String) : Option Nat :=
  match scheme with
  | "http" | "ws" => some 80
  | "https" | "wss" => some 443
  | "ftp" => some 21
  | _ => none

/-- Whether a character separates path segments. -/
def Kind.isSlash (k : Kind) (c : Char) : Bool := c == '/' || (k != .other && c == '\\')

/-- Whether a character ends the part before the path. -/
def Kind.endsAuthority (k : Kind) (c : Char) : Bool := k.isSlash c || c == '?' || c == '#'

def isSchemeChar (c : Char) : Bool := c.isAlphanum || c == '+' || c == '-' || c == '.'

/-- Cut the scheme and its colon off. -/
def splitScheme? (cs : List Char) : Option (String × List Char) :=
  match cs.span isSchemeChar with
  | (c :: scheme, ':' :: rest) =>
    if c.isAlpha then some (lower (String.ofList (c :: scheme)), rest) else none
  | _ => none

/-- Cut a list at the last character that is `c`. -/
def splitLast? (c : Char) (cs : List Char) : Option (List Char × List Char) :=
  match cs.reverse.span (· != c) with
  | (after, _ :: before) => some (before.reverse, after.reverse)
  | (_, []) => none

/-- The part of `host:port` before the first colon outside brackets, and the rest. -/
def splitHost (inBrackets : Bool) : List Char → List Char × List Char
  | [] => ([], [])
  | c :: cs =>
    if c == ':' && !inBrackets then ([], c :: cs)
    else
      let (host, rest) := splitHost (if c == '[' then true else if c == ']' then false else inBrackets) cs
      (c :: host, rest)

/-- A colon and a port, which may be missing, and what follows. The scheme's own port is as good as
none. -/
def parsePort (scheme : String) : List Char → Except ParseError (Option Nat × List Char)
  | ':' :: rest =>
    let (digits, rest) := rest.span Char.isDigit
    if (rest.head?.all ("/\\?#".contains ·)) then
      match numeral? 65535 digits with
      | some port => .ok (if defaultPort? scheme = some port then none else some port, rest)
      | none => if digits.isEmpty then .ok (none, rest) else .error .invalidPort
    else .error .invalidPort
  | rest => .ok (none, rest)

/-! The path -/

def isDot (segment : List Char) : Bool := lower (String.ofList segment) ∈ [".", "%2e"]

def isDoubleDot (segment : List Char) : Bool :=
  lower (String.ofList segment) ∈ ["..", ".%2e", "%2e.", "%2e%2e"]

/-- The path after the given segments, read from what stands between slashes. -/
def resolve (done : List (List Char)) : List (List Char) → List (List Char)
  | [] => done
  | segment :: rest =>
    let more := if rest.isEmpty then [[]] else []
    if isDoubleDot segment then resolve (done.dropLast ++ more) rest
    else if isDot segment then resolve (done ++ more) rest
    else resolve (done ++ [Percent.encode Percent.inPath segment]) rest

/-- The segments of a path whose leading slash is gone. -/
def parseSegments (k : Kind) (cs : List Char) : List (List Char) :=
  let parts := resolve [] (splitOnP k.isSlash cs)
  if k = .file then
    match parts.dropWhile List.isEmpty with
    | [] => [[]]
    | kept => kept
  else parts

/-- The path after a host. -/
def parsePath (k : Kind) : List Char → Path
  | [] => .segments (if k = .other then [] else [[]])
  | c :: cs => .segments (parseSegments k (if k.isSlash c then cs else c :: cs))

/-- Put the parts after the host in place. -/
def finish (k : Kind) (url : Url) (path : List Char → Path) (cs : List Char) : Url :=
  let (pathText, rest) := cs.span fun c => c != '?' && c != '#'
  let (queryText, rest) := rest.span (· != '#')
  let unsafeInQuery := if k = .other then Percent.inQuery else Percent.inSpecialQuery
  { url with
    path := path pathText
    query := match queryText with
      | [] => none
      | _ :: text => some (Percent.encode unsafeInQuery text)
    fragment := match rest with
      | [] => none
      | _ :: text => some (Percent.encode Percent.inFragment text) }

/-! The host -/

/-- Cut the user information off; an at sign alone before the path is an error. -/
def splitUser (authority rest : List Char) :
    Except ParseError (List Char × List Char × List Char) :=
  match splitLast? '@' authority with
  | none => .ok ([], [], authority)
  | some (user, host) =>
    if user.isEmpty && host.isEmpty && !rest.isEmpty then .error .emptyHost
    else
      let (name, password) := user.span (· != ':')
      let encode := Percent.encode Percent.inUserInfo
      .ok (encode name, encode (password.drop 1), host)

/-- What follows the slashes before the host. -/
def parseAuthority (k : Kind) (scheme : String) (cs : List Char) : Except ParseError Url := do
  let (authority, rest) := cs.span (!k.endsAuthority ·)
  let (username, password, hostAndPort) ← splitUser authority rest
  let (hostText, portText) := splitHost false hostAndPort
  let host ←
    if hostText.isEmpty then
      if k = .web ∨ portText.head? = some ':' ∨ !username.isEmpty ∨ !password.isEmpty then
        throw .emptyHost
      else pure (.uninterpreted [])
    else if k = .web then Host.parse hostText
    else Host.parseUninterpreted hostText
  let (port, rest) ← parsePort scheme (portText ++ rest)
  let url : Url := { scheme, username, password, host := some host, port }
  return finish k url (parsePath k) rest

/-- A letter and a colon or a bar, which names a drive and no host. -/
def isDrive : List Char → Bool
  | [letter, mark] => letter.isAlpha && (mark == ':' || mark == '|')
  | _ => false

/-- What follows `file:`. The host may be missing, and `localhost` is as good as none. -/
def parseFile (cs : List Char) : Except ParseError Url :=
  let url (host : Host) (path : List Char) : Url :=
    finish .file { scheme := "file", host := some host } (parsePath .file) path
  let here : Host := .uninterpreted []
  match cs with
  | a :: b :: rest =>
    if Kind.file.isSlash a && Kind.file.isSlash b then
      let (hostText, path) := rest.span (!Kind.file.endsAuthority ·)
      if hostText.isEmpty then .ok (url here path)
      else if isDrive hostText then .ok (url here rest)
      else
        (Host.parse hostText).map fun host =>
          url (if host = .domain "localhost".toList then here else host) path
    else .ok (url here cs)
  | _ => .ok (url here cs)

/-- What follows an uncommon scheme. -/
def parseOther (scheme : String) : List Char → Except ParseError Url
  | '/' :: '/' :: rest => parseAuthority .other scheme rest
  | '/' :: rest => .ok (finish .other { scheme } (fun p => .segments (parseSegments .other p)) rest)
  | cs => .ok (finish .other { scheme } (fun p => .plain (Percent.encode Percent.control p)) cs)

/-- Read an absolute URL. -/
def parse (s : String) : Except ParseError Url :=
  let cs := (strip (· ≤ ' ') s.toList).filter fun c => c != '\t' && c != '\n' && c != '\r'
  match splitScheme? cs with
  | none => .error .relative
  | some (scheme, rest) =>
    match Kind.ofScheme scheme with
    | .web => parseAuthority .web scheme (rest.dropWhile Kind.web.isSlash)
    | .file => parseFile rest
    | .other => parseOther scheme rest

def hasHost (url : Url) : Bool := url.host.any (· != .uninterpreted [])

/-! The written form -/

def userText (url : Url) : List Char :=
  if url.username.isEmpty && url.password.isEmpty then []
  else url.username ++ (if url.password.isEmpty then [] else ':' :: url.password) ++ ['@']

def pathText (url : Url) : List Char :=
  match url.path with
  | .plain text => text
  | .segments parts =>
    let bare := url.host.isNone && parts.head? == some [] && 1 < parts.length
    (if bare then ['/', '.'] else []) ++ parts.flatMap ('/' :: ·)

def text (url : Url) : String :=
  let authority := url.host.elim "" fun host => "//" ++ String.ofList url.userText ++ host.text
  let part (mark : Char) (text : Option (List Char)) := text.elim [] (mark :: ·)
  url.scheme ++ ":" ++ authority ++ url.port.elim "" (fun p => ":" ++ toString p) ++
    String.ofList (url.pathText ++ part '?' url.query ++ part '#' url.fragment)

end Url

end Vigil
