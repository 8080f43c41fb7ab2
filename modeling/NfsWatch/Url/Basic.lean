import NfsWatch.Endpoint
import NfsWatch.Url.Host
import NfsWatch.Url.Path

/-!
# Url — where a server is reached

A URL is read by the rules of browsers: blanks around it and tabs and line breaks in it do not
count, scheme and host are in small letters, the default port of the scheme is dropped, and the
path is resolved. A URL of a special scheme always has a host and a path. One of another scheme
whose colon no slash follows has no path at all (`mailto:`, `data:`), and nothing can be appended
to it.
-/

namespace NfsWatch

structure Url.Authority where
  user : String
  password : Option String
  host : Url.Host
  /-- The port, unless it is the default of the scheme. -/
  port : Option Nat
deriving DecidableEq, Repr, Inhabited

/-- A URL with a path. User, password, path, query and fragment are held encoded. -/
structure Url where
  scheme : String
  authority : Option Url.Authority
  /-- Whether `/.` stands before the path. A path that begins with an empty segment is set off so
  when no authority stands before it, since it would read as one. -/
  setOff : Bool
  path : Url.Path
  query : Option String
  fragment : Option String
deriving DecidableEq, Repr, Inhabited

inductive Url.Parsed
  | base (url : Url)
  /-- A URL to which nothing can be appended. -/
  | pathless
deriving DecidableEq, Repr, Inhabited

namespace Url

def defaultPort (scheme : String) : Option Nat :=
  if scheme = "http" ∨ scheme = "ws" then some 80
  else if scheme = "https" ∨ scheme = "wss" then some 443
  else if scheme = "ftp" then some 21
  else none

/-- Whether a scheme is special: it has a default port, or names files. -/
def isSpecial (scheme : String) : Bool := (defaultPort scheme).isSome || scheme == "file"

/-! ## Writing -/

def Authority.userText (authority : Authority) : String :=
  match authority.password with
  | some password => authority.user ++ ":" ++ password ++ "@"
  | none => if authority.user.isEmpty then "" else authority.user ++ "@"

def Authority.text (authority : Authority) : String :=
  authority.userText ++ authority.host.text ++
    authority.port.elim "" (fun port => ":" ++ IntegerText.write port)

def authorityText (url : Url) : String :=
  match url.authority with
  | some authority => "//" ++ authority.text
  | none => if url.setOff then "/." else ""

def target (url : Url) : String := pathText url.path ++ url.query.elim "" ("?" ++ ·)

def text (url : Url) : String :=
  url.scheme ++ ":" ++ url.authorityText ++ url.target ++ url.fragment.elim "" ("#" ++ ·)

/-! ## Reading -/

def splitScheme (cs : List Char) : Option (List Char × List Char) :=
  let isPart := fun (c : Char) => c.isAlphanum || c == '+' || c == '-' || c == '.'
  match cs.takeWhile isPart, cs.dropWhile isPart with
  | first :: name, ':' :: rest =>
      if first.isAlpha then some ((first :: name).map Char.toLower, rest) else none
  | _, _ => none

def endsAuthority (special : Bool) (c : Char) : Bool :=
  c == '/' || c == '?' || c == '#' || (special && c == '\\')

def splitUser (authority : List Char) : Option (List Char × List Char) :=
  match authority.reverse.dropWhile (· != '@') with
  | [] => none
  | _ :: user => some (user.reverse, (authority.reverse.takeWhile (· != '@')).reverse)

/-- User name and password: the first colon separates them, and an empty password is none. -/
def parseUser (cs : List Char) : String × Option String :=
  let encoded := fun part => String.ofList (encode inUserinfo part)
  match cs.dropWhile (· != ':') with
  | _ :: first :: rest => (encoded (cs.takeWhile (· != ':')), some (encoded (first :: rest)))
  | _ => (encoded (cs.takeWhile (· != ':')), none)

/-- The text up to the colon before a port, and the text after that colon; a colon in brackets
does not count. -/
def splitPort (inBrackets : Bool) : List Char → List Char × Option (List Char)
  | [] => ([], none)
  | c :: cs =>
      if c = ':' ∧ !inBrackets then ([], some cs)
      else
        let (host, port) := splitPort (if c = '[' then true else if c = ']' then false
          else inBrackets) cs
        (c :: host, port)

def parsePort (scheme : String) (digits : List Char) : Except Fault (Option Nat) :=
  if digits.isEmpty then .ok none
  else
    match IntegerText.readDigits 65535 0 digits with
    | .error _ => .error .invalidPort
    | .ok port => .ok (if defaultPort scheme = some port then none else some port)

/-- The authority of a URL, and what of its text belongs to the path: all from a backslash after
the port. Without a host there may be no port and no user, and an `@` only at the end of the URL;
`bare` tells whether the authority ends it. -/
def parseAuthority (scheme : String) (cs : List Char) (bare : Bool) :
    Except Fault (Authority × List Char) := do
  let special := isSpecial scheme
  let (userText, hostText) := (splitUser cs).getD ([], cs)
  let (user, password) := parseUser userText
  let (host, port) := splitPort false hostText
  let hasUser := !user.isEmpty || password.isSome || (splitUser cs == some ([], []) && !bare)
  if host.isEmpty ∧ (special ∨ port.isSome ∨ hasUser) then throw .emptyHost
  let host ← parseHost special host
  let portText := port.getD []
  let port ← parsePort scheme (portText.takeWhile (· != '\\'))
  return ({ user, password, host, port }, portText.dropWhile (· != '\\'))

def parseTail (special : Bool) (cs : List Char) : Option String × Option String :=
  let fragment := fun (cs : List Char) => match cs with
    | '#' :: rest => some (String.ofList (encode inFragment rest))
    | _ => none
  match cs with
  | '?' :: rest =>
      (some (String.ofList
          (encode (if special then inSpecialQuery else inQuery) (rest.takeWhile (· != '#')))),
        fragment (rest.dropWhile (· != '#')))
  | cs => (none, fragment cs)

def endsPath (c : Char) : Bool := c == '?' || c == '#'

def withPath (scheme : String) (authority : Option Authority) (cs : List Char) : Url :=
  let special := isSpecial scheme
  let pathText := cs.takeWhile (fun c => !endsPath c)
  let path : Path :=
    match pathText with
    | [] => if special then [""] else []
    | c :: rest => parsePath special (if isSlash special c then rest else pathText)
  let setOff := authority.isNone && path.head? == some "" && 1 < path.length
  let (query, fragment) := parseTail special (cs.dropWhile (fun c => !endsPath c))
  { scheme, authority, setOff, path, query, fragment }

def parseWithAuthority (scheme : String) (cs : List Char) : Except Fault Parsed := do
  let special := isSpecial scheme
  let rest := cs.dropWhile (fun c => !endsAuthority special c)
  let (authority, beginning) ←
    parseAuthority scheme (cs.takeWhile (fun c => !endsAuthority special c)) rest.isEmpty
  return .base (withPath scheme (some authority) (beginning ++ rest))

/-! ## Files -/

/-- The text after a slash and the tabs and line breaks before it, if there is one. -/
def afterSlash? (cs : List Char) : Option (List Char) :=
  match cs.dropWhile isIgnored with
  | [] => none
  | c :: rest => if isSlash true c then some rest else none

def fileAt (host : Host) (cs : List Char) : Url :=
  let pathText := cs.takeWhile (fun c => !endsPath c)
  let path := parseFilePath ((afterSlash? pathText).getD pathText)
  let host := if path.onDrive || host == .name "localhost" then .name "" else host
  let (query, fragment) := parseTail true (withoutIgnored (cs.dropWhile (fun c => !endsPath c)))
  { scheme := "file", authority := some ⟨"", none, host, none⟩, setOff := false
    path := path.segments, query, fragment }

/-- The URL of a file, from the text after the scheme, with its tabs and line breaks. A host
stands between two slashes and the path, unless it names a drive. -/
def parseFile (cs : List Char) : Except Fault Parsed := do
  match (afterSlash? cs).bind afterSlash? with
  | none => return .base (fileAt (.name "") cs)
  | some rest =>
      let hostText := withoutIgnored (rest.takeWhile (fun c => !endsAuthority true c))
      if isDrive hostText then return .base (fileAt (.name "") rest)
      let host ← if hostText.isEmpty then pure (Host.name "") else parseHost true hostText
      return .base (fileAt host (rest.dropWhile (fun c => !endsAuthority true c)))

/-! ## Texts -/

def parse (text : String) : Except Fault Parsed :=
  let isOuter := fun (c : Char) => c.toNat ≤ 0x20
  let trimmed := ((text.toList.dropWhile isOuter).reverse.dropWhile isOuter).reverse
  match splitScheme (withoutIgnored trimmed) with
  | none => .error .relative
  | some (scheme, rest) =>
      let scheme := String.ofList scheme
      if scheme = "file" then parseFile ((trimmed.dropWhile (· != ':')).drop 1)
      else if isSpecial scheme then
        parseWithAuthority scheme (rest.dropWhile (fun c => c == '/' || c == '\\'))
      else
        match rest with
        | '/' :: '/' :: rest => parseWithAuthority scheme rest
        | '/' :: _ => .ok (.base (withPath scheme none rest))
        | _ => .ok .pathless

/-! ## Requests -/

def forEndpoint (url : Url) (endpoint : Endpoint) : Url :=
  { url with path := extend (isSpecial url.scheme) url.path endpoint.segments }

/-- The URL under which an endpoint is reached, if anything can be appended to the base. -/
def Parsed.forEndpoint (base : Parsed) (endpoint : Endpoint) : Fetched Url :=
  match base with
  | .base url => .ok (url.forEndpoint endpoint)
  | .pathless => .error (.transport endpoint "base url cannot carry a path")

end Url

end NfsWatch
